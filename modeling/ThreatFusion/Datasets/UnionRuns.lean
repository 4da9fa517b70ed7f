import ThreatFusion.Datasets.Groups
import Mathlib.Order.Bounds.Basic
/-
# Runs of the disk union-find

`datasets/unsw_development_split.py`, `DiskUnionFind` (:171-212) and the loop of `_compress_groups` (:548-572), call
after call on one table; a call that raises leaves what it has written until then. `Serves` is the table after any
calls: its classes are those that the unions so far generate, and a call answers with the smallest identifier of a
class.

`union` looks for the root of its first identifier, and compresses its path, before it looks for the second:
`union_outside_writes` is a call that raises and has written.
-/
namespace ThreatFusion.Datasets
open UnionFind Relation

/-! ## The calls -/

/-- The second loop of `find` (`compressPath`), with the table that it leaves. -/
def compressCall (root : Nat) : Nat → Nat → Groups → Except SplitError Unit × Groups
  | 0, _, groups => (.error .endless, groups)
  | fuel + 1, current, groups =>
    if current = root then (.ok (), groups)
    else match groups.lookup current with
      | none => (.error .typeError, groups)
      | some parent => compressCall root fuel parent (setParent groups current root)

/-- `find`. The first loop only reads. -/
def findCall (recordId : Nat) (groups : Groups) : Except SplitError Nat × Groups :=
  match findRoot groups (recordId + 1) recordId with
  | .error e => (.error e, groups)
  | .ok root => match compressCall root (recordId + 1) recordId groups with
    | (.error e, groups') => (.error e, groups')
    | (.ok _, groups') => (.ok root, groups')

/-- `union`. -/
def unionCall (first second : Nat) (groups : Groups) : Except SplitError Unit × Groups :=
  match findCall first groups with
  | (.error e, groups') => (.error e, groups')
  | (.ok firstRoot, groups') => match findCall second groups' with
    | (.error e, groups'') => (.error e, groups'')
    | (.ok secondRoot, groups'') =>
      if firstRoot = secondRoot then (.ok (), groups'')
      else (.ok (), setParent groups'' (max firstRoot secondRoot) (min firstRoot secondRoot))

/-- One turn of the loop of `_compress_groups`. -/
def compressTurn (recordId : Nat) (groups : Groups) : Except SplitError Unit × Groups :=
  match findCall recordId groups with
  | (.error e, groups') => (.error e, groups')
  | (.ok root, groups') => (.ok (), setParent groups' recordId root)

/-- A result without the table of a call that raised. -/
def returned {α : Type} (p : Except SplitError α × Groups) : Except SplitError (α × Groups) := p.1.map fun a => (a, p.2)

theorem of_returned {α : Type} {p : Except SplitError α × Groups} {a : α} {groups : Groups}
    (h : returned p = .ok (a, groups)) : p = (.ok a, groups) := by
  obtain ⟨result, groups'⟩ := p
  cases result with
  | error e => cases h
  | ok a' =>
    cases h
    rfl

theorem compressPath_eq (root : Nat) : ∀ (fuel current : Nat) (groups : Groups),
    compressPath root fuel current groups = (returned (compressCall root fuel current groups)).map Prod.snd
  | 0, _, _ => rfl
  | fuel + 1, current, groups => by
    rw [compressPath, compressCall]
    by_cases hroot : current = root
    · rw [if_pos hroot, if_pos hroot]
      rfl
    · rw [if_neg hroot, if_neg hroot]
      cases groups.lookup current with
      | none => rfl
      | some parent => exact compressPath_eq root fuel parent _

theorem find_eq (groups : Groups) (x : Nat) : find groups x = returned (findCall x groups) := by
  rw [find, findCall]
  cases findRoot groups (x + 1) x with
  | error e => rfl
  | ok root =>
    dsimp only
    rw [compressPath_eq]
    obtain ⟨result, groups'⟩ := compressCall root (x + 1) x groups
    cases result <;> rfl

theorem union_eq (groups : Groups) (x y : Nat) : union groups x y = (returned (unionCall x y groups)).map Prod.snd := by
  rw [union, unionCall, find_eq]
  obtain ⟨first, g₁⟩ := findCall x groups
  cases first with
  | error e => rfl
  | ok r₁ =>
    simp only [returned, Except.map]
    rw [find_eq]
    obtain ⟨second, g₂⟩ := findCall y g₁
    cases second with
    | error e => rfl
    | ok r₂ =>
      simp only [returned, Except.map]
      split_ifs <;> rfl

/-! ## Classes -/

/-- Records that parents link, whichever way they point. -/
def Tied (groups : Groups) : Nat → Nat → Prop := EqvGen fun a b => groups.lookup a = some b

theorem tied_iff {groups : Groups} (hforest : Forest groups) (x y : Nat) :
    Tied groups x y ↔ root (parents groups) x = root (parents groups) y := by
  rw [← ker_root hforest.falls, Tied]
  refine ⟨EqvGen.mono (fun a b hab => ?_) x y, EqvGen.eqvGen_le (fun a b hab => ?_) x y⟩
  · rw [parents, hab, Option.getD_some]
  · cases hlookup : groups.lookup a with
    | none =>
      rw [parents, hlookup, Option.getD_none] at hab
      exact hab ▸ .refl a
    | some p =>
      rw [parents, hlookup, Option.getD_some] at hab
      exact .rel _ _ (hab ▸ hlookup)

theorem Compressed.tied {groups groups' : Groups} (hforest : Forest groups) (h : Compressed groups groups') (x y : Nat) :
    Tied groups' x y ↔ Tied groups x y := by
  rw [tied_iff h.forest, tied_iff hforest, h.roots]

/-! ## One call on any table -/

theorem lookup_outside {groups : Groups} {x : Nat} (hx : x ∉ groups.map Prod.fst) : groups.lookup x = none := by
  cases hlookup : groups.lookup x with
  | none => rfl
  | some p => exact absurd (key_of_lookup (by rw [hlookup]; rfl)) hx

theorem findCall_outside {groups : Groups} {x : Nat} (hx : x ∉ groups.map Prod.fst) :
    findCall x groups = (.error .groupRecordMissing, groups) := by
  rw [findCall, findRoot, lookup_outside hx]

theorem findCall_spec {groups : Groups} (hforest : Forest groups) {x : Nat} (hx : x ∈ groups.map Prod.fst) :
    ∃ groups', findCall x groups = (.ok (root (parents groups) x), groups') ∧ Compressed groups groups' := by
  obtain ⟨groups', hfind, hcompressed⟩ := find_spec hforest hx
  rw [find_eq] at hfind
  exact ⟨groups', of_returned hfind, hcompressed⟩

theorem unionCall_spec {groups : Groups} (hforest : Forest groups) {x y : Nat} (hx : x ∈ groups.map Prod.fst)
    (hy : y ∈ groups.map Prod.fst) : ∃ groups', unionCall x y groups = (.ok (), groups') ∧ Forest groups' ∧
      groups'.map Prod.fst = groups.map Prod.fst ∧ root (parents groups') = join (root (parents groups)) x y := by
  obtain ⟨groups', hunion, hspec⟩ := union_spec hforest hx hy
  rw [union_eq] at hunion
  cases hreturned : returned (unionCall x y groups) with
  | error e =>
    rw [hreturned] at hunion
    cases hunion
  | ok p =>
    rw [hreturned] at hunion
    cases hunion
    exact ⟨_, of_returned hreturned, hspec⟩

/-- Without its first record a union writes nothing, without its second it has compressed a path. -/
theorem unionCall_outside {groups : Groups} (hforest : Forest groups) {x y : Nat}
    (h : x ∉ groups.map Prod.fst ∨ y ∉ groups.map Prod.fst) :
    ∃ groups', unionCall x y groups = (.error .groupRecordMissing, groups') ∧ Compressed groups groups' ∧
      (x ∉ groups.map Prod.fst → groups' = groups) := by
  by_cases hx : x ∈ groups.map Prod.fst
  · obtain ⟨groups', hfind, hcompressed⟩ := findCall_spec hforest hx
    have hy : y ∉ groups'.map Prod.fst := hcompressed.keys ▸ h.resolve_left (not_not_intro hx)
    refine ⟨groups', ?_, hcompressed, fun hout => absurd hx hout⟩
    rw [unionCall, hfind]
    dsimp only
    rw [findCall_outside hy]
  · refine ⟨groups, ?_, .refl hforest, fun _ => rfl⟩
    rw [unionCall, findCall_outside hx]

theorem compressTurn_spec {groups : Groups} (hforest : Forest groups) {x : Nat} (hx : x ∈ groups.map Prod.fst) :
    ∃ groups', compressTurn x groups = (.ok (), groups') ∧ Compressed groups groups' ∧
      groups'.lookup x = some (root (parents groups) x) := by
  obtain ⟨g₁, hfind, h₁⟩ := findCall_spec hforest hx
  have hx₁ : x ∈ g₁.map Prod.fst := h₁.keys ▸ hx
  have h₂ := Compressed.setRoot h₁.forest hx₁
  rw [h₁.roots] at h₂
  refine ⟨_, by rw [compressTurn, hfind], h₁.trans h₂, ?_⟩
  rw [lookup_setParent, if_pos rfl, lookup_of_key hx₁]
  rfl

theorem compressTurn_outside {groups : Groups} {x : Nat} (hx : x ∉ groups.map Prod.fst) :
    compressTurn x groups = (.error .groupRecordMissing, groups) := by
  rw [compressTurn, findCall_outside hx]

/-! ## Runs -/

inductive Call where
  | find (recordId : Nat)
  | union (first second : Nat)
  | compress (recordId : Nat)

/-- The table that a call leaves, whether it returns or raises. -/
def Call.after : Call → Groups → Groups
  | .find recordId, groups => (findCall recordId groups).2
  | .union first second, groups => (unionCall first second groups).2
  | .compress recordId, groups => (compressTurn recordId groups).2

/-- `INSERT INTO groups`: every record is its own parent. -/
def singles (ids : List Nat) : Groups := ids.map fun recordId => (recordId, recordId)

def performAll (ids : List Nat) (calls : List Call) : Groups := calls.foldl (fun groups call => call.after groups) (singles ids)

/-- The pair that a call joins: a union of two records of the table. -/
def Call.pairs (ids : List Nat) : Call → List (Nat × Nat)
  | .union first second => if first ∈ ids ∧ second ∈ ids then [(first, second)] else []
  | _ => []

/-- The equivalence that the unions generate. -/
def United (ids : List Nat) (calls : List Call) : Nat → Nat → Prop :=
  EqvGen fun a b => (a, b) ∈ calls.flatMap (Call.pairs ids)

@[simp] theorem keys_singles (ids : List Nat) : (singles ids).map Prod.fst = ids := by
  rw [singles, List.map_map]
  exact List.map_id ids

theorem parents_singles (ids : List Nat) (x : Nat) : parents (singles ids) x = x := by
  by_cases hx : x ∈ (singles ids).map Prod.fst
  · obtain ⟨l₁, l₂, hrows, -⟩ := List.lookup_eq_some_iff.1 (lookup_of_key hx)
    have hrow : (x, parents (singles ids) x) ∈ singles ids :=
      List.IsSuffix.mem List.mem_cons_self (hrows.symm ▸ List.suffix_append l₁ ((x, parents (singles ids) x) :: l₂))
    obtain ⟨y, -, hy⟩ := List.mem_map.1 hrow
    rw [← (Prod.mk.inj hy).2, (Prod.mk.inj hy).1]
  · rw [parents, lookup_outside hx, Option.getD_none]

theorem forest_singles (ids : List Nat) : Forest (singles ids) :=
  ⟨fun x => (parents_singles ids x).le, fun x hx => by rwa [parents_singles]⟩

theorem Joined.call {ids : List Nat} {pairs : List (Nat × Nat)} {groups : Groups} (h : Joined (singles ids) pairs groups)
    (call : Call) : Joined (singles ids) (pairs ++ call.pairs ids) (call.after groups) := by
  have hkeys : groups.map Prod.fst = ids := h.keys.trans (keys_singles ids)
  have compressed {groups' : Groups} (hc : Compressed groups groups') : Joined (singles ids) (pairs ++ []) groups' := by
    rw [List.append_nil]
    exact ⟨hc.forest, hc.keys.trans h.keys, hc.roots.trans h.roots⟩
  cases call with
  | find x =>
    by_cases hx : x ∈ groups.map Prod.fst
    · obtain ⟨groups', hfind, hc⟩ := findCall_spec h.forest hx
      rw [Call.after, hfind]
      exact compressed hc
    · rw [Call.after, findCall_outside hx]
      exact compressed (.refl h.forest)
  | compress x =>
    by_cases hx : x ∈ groups.map Prod.fst
    · obtain ⟨groups', hturn, hc, -⟩ := compressTurn_spec h.forest hx
      rw [Call.after, hturn]
      exact compressed hc
    · rw [Call.after, compressTurn_outside hx]
      exact compressed (.refl h.forest)
  | union x y =>
    rw [Call.pairs, Call.after]
    by_cases hin : x ∈ ids ∧ y ∈ ids
    · rw [if_pos hin]
      obtain ⟨groups', hunion, hforest, hkept, hroots⟩ :=
        unionCall_spec h.forest (x := x) (y := y) (hkeys ▸ hin.1) (hkeys ▸ hin.2)
      rw [hunion]
      refine ⟨hforest, hkept.trans h.keys, ?_⟩
      rw [hroots, h.roots, joinAll, joinAll, List.foldl_append]
      rfl
    · rw [if_neg hin]
      have hout : x ∉ groups.map Prod.fst ∨ y ∉ groups.map Prod.fst := by
        rw [hkeys]
        exact not_and_or.mp hin
      obtain ⟨groups', hunion, hc, -⟩ := unionCall_outside h.forest hout
      rw [hunion]
      exact compressed hc

/-- A run joins what its unions say. -/
theorem joined_performAll (ids : List Nat) (calls : List Call) :
    Joined (singles ids) (calls.flatMap (Call.pairs ids)) (performAll ids calls) := by
  induction calls using List.reverseRecOn with
  | nil => exact .nil (forest_singles ids)
  | append_singleton calls call ih =>
    rw [List.flatMap_append, List.flatMap_singleton, performAll, List.foldl_append]
    exact ih.call call

theorem root_performAll (ids : List Nat) (calls : List Call) (x y : Nat) :
    root (parents (performAll ids calls)) x = root (parents (performAll ids calls)) y ↔ United ids calls x y := by
  have hstart : root (parents (singles ids)) = id := funext fun z => root_of_fixed (parents_singles ids z)
  rw [(joined_performAll ids calls).roots, hstart, ker_joinAll, United]
  refine ⟨EqvGen.eqvGen_le (fun a b hab => ?_) x y, EqvGen.mono (fun a b hab => .inr hab) x y⟩
  rcases hab with rfl | hab
  · exact .refl _
  · exact .rel a b hab

/-- The smallest identifier of a class. -/
def Smallest (ids : List Nat) (calls : List Call) (x : Nat) : Nat → Prop := IsLeast {y | y ∈ ids ∧ United ids calls x y}

theorem smallest_root {ids : List Nat} (calls : List Call) {x : Nat} (hx : x ∈ ids) :
    Smallest ids calls x (root (parents (performAll ids calls)) x) := by
  have h := joined_performAll ids calls
  have hkeys : (performAll ids calls).map Prod.fst = ids := h.keys.trans (keys_singles ids)
  constructor
  · refine ⟨?_, (root_performAll ids calls _ _).mp (root_root h.forest.falls x).symm⟩
    have hroot := h.forest.root_mem (hkeys.symm ▸ hx)
    rwa [hkeys] at hroot
  · rintro y ⟨-, hy⟩
    rw [(root_performAll ids calls _ _).mpr hy]
    exact root_le _ y

/-- What a table of these records serves after these calls. -/
structure Serves (ids : List Nat) (calls : List Call) (groups : Groups) : Prop where
  keys : groups.map Prod.fst = ids
  falls : ∀ x ∈ ids, ∃ parent ∈ ids, groups.lookup x = some parent ∧ parent ≤ x
  classes : ∀ x y, Tied groups x y ↔ United ids calls x y
  find : ∀ x ∈ ids, ∃ root groups', findCall x groups = (.ok root, groups') ∧ Smallest ids calls x root ∧
    ∀ y z, Tied groups' y z ↔ Tied groups y z
  union : ∀ x ∈ ids, ∀ y ∈ ids, (unionCall x y groups).1 = .ok ()
  compress : ∀ x ∈ ids, ∃ root groups', compressTurn x groups = (.ok (), groups') ∧ groups'.lookup x = some root ∧
    Smallest ids calls x root ∧ ∀ y z, Tied groups' y z ↔ Tied groups y z
  compressed : ∀ config budget processed groups', compressGroups config budget groups = .ok (processed, groups') →
    ∀ x ∈ ids, ∃ root, groups'.lookup x = some root ∧ Smallest ids calls x root
  findOutside : ∀ x, x ∉ ids → findCall x groups = (.error .groupRecordMissing, groups)
  unionOutside : ∀ x y, x ∉ ids ∨ y ∉ ids → ∃ groups', unionCall x y groups = (.error .groupRecordMissing, groups') ∧
    (x ∉ ids → groups' = groups) ∧ ∀ u v, Tied groups' u v ↔ Tied groups u v

/-- **The disk union-find serves**: after any calls the table has the classes of the unions so far, every call on its
records returns, `find` with the smallest of the class, and no other call moves a class. -/
theorem disk_union_find (ids : List Nat) (calls : List Call) : Serves ids calls (performAll ids calls) := by
  have h := joined_performAll ids calls
  have hkeys : (performAll ids calls).map Prod.fst = ids := h.keys.trans (keys_singles ids)
  have key {x : Nat} (hx : x ∈ ids) : x ∈ (performAll ids calls).map Prod.fst := hkeys.symm ▸ hx
  have outside {x : Nat} (hx : x ∉ ids) : x ∉ (performAll ids calls).map Prod.fst := hkeys.symm ▸ hx
  constructor
  case keys => exact hkeys
  case falls =>
    intro x hx
    have hclosed := h.forest.closed x (key hx)
    rw [hkeys] at hclosed
    exact ⟨_, hclosed, lookup_of_key (key hx), h.forest.falls x⟩
  case classes =>
    intro x y
    rw [tied_iff h.forest, root_performAll]
  case find =>
    intro x hx
    obtain ⟨groups', hfind, hc⟩ := findCall_spec h.forest (key hx)
    exact ⟨_, groups', hfind, smallest_root calls hx, hc.tied h.forest⟩
  case union =>
    intro x hx y hy
    obtain ⟨groups', hunion, -⟩ := unionCall_spec h.forest (key hx) (key hy)
    rw [hunion]
  case compress =>
    intro x hx
    obtain ⟨groups', hturn, hc, hlookup⟩ := compressTurn_spec h.forest (key hx)
    exact ⟨_, groups', hturn, hlookup, smallest_root calls hx, hc.tied h.forest⟩
  case compressed =>
    intro config budget processed groups' hok x hx
    obtain ⟨-, hrows⟩ := (compressGroups_spec config budget h.forest).2 _ hok
    exact ⟨_, hrows x (key hx), smallest_root calls hx⟩
  case findOutside =>
    intro x hx
    exact findCall_outside (outside hx)
  case unionOutside =>
    intro x y hout
    obtain ⟨groups', hunion, hc, hsame⟩ := unionCall_outside h.forest (hout.imp outside outside)
    exact ⟨groups', hunion, fun hx => hsame (outside hx), hc.tied h.forest⟩

/-- 3 points to 2 and 2 to 1; the union of 3 with a record that is not there moves 3 to 1 before it raises. -/
theorem union_outside_writes : ¬ ∀ (ids : List Nat) (calls : List Call) (x y : Nat), x ∉ ids ∨ y ∉ ids →
    unionCall x y (performAll ids calls) = (.error .groupRecordMissing, performAll ids calls) := by
  intro h
  have hunion := h [1, 2, 3] [.union 2 3, .union 1 2] 3 9 (.inr (by decide))
  have hrow : (unionCall 3 9 (performAll [1, 2, 3] [.union 2 3, .union 1 2])).2.lookup 3 = some 1 := by decide
  rw [hunion] at hrow
  exact absurd hrow (by decide)

end ThreatFusion.Datasets
