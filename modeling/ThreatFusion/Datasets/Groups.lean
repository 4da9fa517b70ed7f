import ThreatFusion.Datasets.Split
import ThreatFusion.Lib.IntervalSweep
import ThreatFusion.Lib.UnionFind
/-
# The groups are the classes of the links

`parents` reads the table `groups` as the parent function of `UnionFind`. `find` keeps all roots
(`find_spec`), `union` joins two classes (`union_spec`), so each sweep joins the pairs of
`IntervalSweep.pairs` (`sourceLoop_spec`, `overlapLoop_spec`), which generate what the records' fingerprints and
intervals say (`groups_iff`).
-/
namespace ThreatFusion.Datasets
open Py Grouping UnionFind IntervalSweep Relation

/-! ## Batches -/

theorem flatten_batches {α : Type} {size : Nat} (hsize : 0 < size) :
    ∀ (fuel : Nat) (rows : List α), rows.length ≤ fuel → (batches size fuel rows).flatten = rows
  | 0, rows, h => by
    rw [List.length_eq_zero_iff.1 (Nat.le_zero.1 h)]
    rfl
  | fuel + 1, rows, h => by
    rw [batches]
    split
    · rename_i hempty
      rw [List.isEmpty_iff.1 hempty]
      rfl
    · rename_i hne
      have hlength : 0 < rows.length := List.length_pos_iff.2 fun h => hne (List.isEmpty_iff.2 h)
      have hdrop : (rows.drop size).length ≤ fuel := by
        rw [List.length_drop]
        omega
      rw [List.flatten_cons, flatten_batches hsize fuel _ hdrop, List.take_append_drop]

@[simp] theorem batchedRows_eq {α : Type} (rows : List α) : batchedRows rows = rows :=
  flatten_batches (by decide) _ rows (Nat.le_refl _)

/-! ## The table as a forest -/

/-- The parent of each record; one that is not in the table is alone. -/
def parents (groups : Groups) (x : Nat) : Nat := (groups.lookup x).getD x

theorem lookup_of_key : ∀ {groups : Groups} {x : Nat}, x ∈ groups.map Prod.fst →
    groups.lookup x = some (parents groups x) := by
  intro groups x hx
  have hsome : (groups.lookup x).isSome = true := by
    obtain ⟨row, hrow, hkey⟩ := List.mem_map.1 hx
    exact List.lookup_isSome_iff.2 ⟨row, hrow, beq_iff_eq.2 hkey.symm⟩
  obtain ⟨p, hp⟩ := Option.isSome_iff_exists.1 hsome
  rw [parents, hp, Option.getD_some]

theorem key_of_lookup {groups : Groups} {x : Nat} (h : (groups.lookup x).isSome = true) :
    x ∈ groups.map Prod.fst := by
  obtain ⟨row, hrow, hkey⟩ := List.lookup_isSome_iff.1 h
  exact List.mem_map.2 ⟨row, hrow, (beq_iff_eq.1 hkey).symm⟩

@[simp] theorem keys_setParent (groups : Groups) (x p : Nat) :
    (setParent groups x p).map Prod.fst = groups.map Prod.fst := by
  rw [setParent, List.map_map]
  refine List.map_congr_left fun row _ => ?_
  by_cases hrow : row.1 = x <;> simp [hrow]

theorem lookup_setParent (groups : Groups) (x p y : Nat) :
    (setParent groups x p).lookup y = if y = x then (groups.lookup x).map fun _ => p else groups.lookup y := by
  induction groups with
  | nil => split <;> rfl
  | cons row rest ih =>
    unfold setParent at ih ⊢
    rw [List.map_cons, List.lookup_cons, List.lookup_cons, List.lookup_cons, ih]
    by_cases hrow : row.1 = x <;> by_cases hy : y = x
    · subst hy
      simp [hrow]
    · have hne : (y == x) = false := beq_eq_false_iff_ne.2 hy
      simp [hrow, hy, hne]
    · subst hy
      have hne : (y == row.1) = false := beq_eq_false_iff_ne.2 (Ne.symm hrow)
      simp [hrow, hne]
    · simp [hrow, hy]

theorem parents_setParent {groups : Groups} {x : Nat} (hx : x ∈ groups.map Prod.fst) (p : Nat) :
    parents (setParent groups x p) = Function.update (parents groups) x p := by
  funext y
  rw [parents, lookup_setParent]
  by_cases hy : y = x
  · subst hy
    rw [if_pos rfl, lookup_of_key hx, Function.update_self]
    rfl
  · rw [if_neg hy, Function.update_of_ne hy]
    rfl

/-- Parents do not exceed their children, and are records of the table. -/
structure Forest (groups : Groups) : Prop where
  falls : Falls (parents groups)
  closed : ∀ x ∈ groups.map Prod.fst, parents groups x ∈ groups.map Prod.fst

theorem Forest.root_mem {groups : Groups} (hforest : Forest groups) {x : Nat} (hx : x ∈ groups.map Prod.fst) :
    root (parents groups) x ∈ groups.map Prod.fst := by
  induction x using Nat.strong_induction_on with
  | _ x ih =>
    rw [root]
    split
    · rename_i h
      exact ih _ h (hforest.closed x hx)
    · exact hx

theorem Forest.setParent {groups : Groups} (hforest : Forest groups) {x p : Nat} (hx : x ∈ groups.map Prod.fst)
    (hp : p ∈ groups.map Prod.fst) (hpx : p ≤ x) : Forest (setParent groups x p) := by
  refine ⟨?_, fun y hy => ?_⟩
  · rw [parents_setParent hx]
    exact falls_update hforest.falls hpx
  · rw [keys_setParent] at hy ⊢
    rw [parents_setParent hx]
    by_cases hyx : y = x
    · rw [hyx, Function.update_self]
      exact hp
    · rw [Function.update_of_ne hyx]
      exact hforest.closed y hy

/-! ## `find` and `union` -/

/-- What `find` does to the table: some records point to their roots. -/
structure Compressed (groups groups' : Groups) : Prop where
  forest : Forest groups'
  keys : groups'.map Prod.fst = groups.map Prod.fst
  roots : root (parents groups') = root (parents groups)
  moved : ∀ x, parents groups' x = parents groups x ∨ parents groups' x = root (parents groups) x

theorem Compressed.refl {groups : Groups} (hforest : Forest groups) : Compressed groups groups :=
  ⟨hforest, rfl, rfl, fun _ => .inl rfl⟩

theorem Compressed.trans {g₁ g₂ g₃ : Groups} (h : Compressed g₁ g₂) (h' : Compressed g₂ g₃) : Compressed g₁ g₃ := by
  refine ⟨h'.forest, h'.keys.trans h.keys, h'.roots.trans h.roots, fun x => ?_⟩
  rcases h'.moved x with heq | heq
  · rw [heq]
    exact h.moved x
  · rw [heq, h.roots]
    exact .inr rfl

theorem Compressed.setRoot {groups : Groups} (hforest : Forest groups) {x : Nat} (hx : x ∈ groups.map Prod.fst) :
    Compressed groups (setParent groups x (root (parents groups) x)) := by
  refine ⟨hforest.setParent hx (hforest.root_mem hx) (root_le _ x), keys_setParent .., ?_, fun y => ?_⟩
  · rw [parents_setParent hx, root_compress hforest.falls]
  · rw [parents_setParent hx]
    by_cases hyx : y = x
    · rw [hyx, Function.update_self]
      exact .inr rfl
    · rw [Function.update_of_ne hyx]
      exact .inl rfl

theorem findRoot_spec {groups : Groups} (hforest : Forest groups) : ∀ {fuel x : Nat}, x ∈ groups.map Prod.fst →
    x < fuel → findRoot groups fuel x = .ok (root (parents groups) x)
  | 0, x, _, h => absurd h (Nat.not_lt_zero x)
  | fuel + 1, x, hx, h => by
    rw [findRoot, lookup_of_key hx]
    dsimp only
    by_cases hfixed : parents groups x = x
    · rw [if_pos hfixed, root_of_fixed hfixed]
    · have hlt := lt_of_le_of_ne (hforest.falls x) hfixed
      rw [if_neg hfixed, findRoot_spec hforest (hforest.closed x hx) (by omega), root_parent hforest.falls]

theorem compressPath_spec : ∀ {fuel current : Nat} {groups : Groups}, Forest groups →
    current ∈ groups.map Prod.fst → current < fuel → ∃ groups',
      compressPath (root (parents groups) current) fuel current groups = .ok groups' ∧ Compressed groups groups'
  | 0, current, _, _, _, h => absurd h (Nat.not_lt_zero current)
  | fuel + 1, current, groups, hforest, hcurrent, h => by
    rw [compressPath]
    by_cases hroot : current = root (parents groups) current
    · exact ⟨groups, by rw [if_pos hroot], .refl hforest⟩
    · rw [if_neg hroot, lookup_of_key hcurrent]
      dsimp only
      have hcompressed := Compressed.setRoot hforest hcurrent
      have hfixed : parents groups current ≠ current := fun hfixed => hroot (root_of_fixed hfixed).symm
      have hlt : parents groups current < current := lt_of_le_of_ne (hforest.falls current) hfixed
      have hparent : parents groups current ∈
          (setParent groups current (root (parents groups) current)).map Prod.fst := by
        rw [keys_setParent]
        exact hforest.closed current hcurrent
      obtain ⟨groups', hok, hcompressed'⟩ := compressPath_spec hcompressed.forest hparent
        (Nat.lt_of_lt_of_le hlt (Nat.le_of_lt_succ h))
      rw [hcompressed.roots, root_parent hforest.falls] at hok
      exact ⟨groups', hok, hcompressed.trans hcompressed'⟩

theorem find_spec {groups : Groups} (hforest : Forest groups) {x : Nat} (hx : x ∈ groups.map Prod.fst) :
    ∃ groups', find groups x = .ok (root (parents groups) x, groups') ∧ Compressed groups groups' := by
  obtain ⟨groups', hok, hcompressed⟩ := compressPath_spec hforest hx (Nat.lt_succ_self x)
  refine ⟨groups', ?_, hcompressed⟩
  rw [find, findRoot_spec hforest hx (Nat.lt_succ_self x)]
  dsimp only
  rw [hok]

theorem union_spec {groups : Groups} (hforest : Forest groups) {x y : Nat} (hx : x ∈ groups.map Prod.fst)
    (hy : y ∈ groups.map Prod.fst) : ∃ groups', union groups x y = .ok groups' ∧ Forest groups' ∧
      groups'.map Prod.fst = groups.map Prod.fst ∧ root (parents groups') = join (root (parents groups)) x y := by
  obtain ⟨g₁, hfind₁, h₁⟩ := find_spec hforest hx
  obtain ⟨g₂, hfind₂, h₂⟩ := find_spec h₁.forest (h₁.keys ▸ hy)
  have hroots : root (parents g₂) = root (parents groups) := h₂.roots.trans h₁.roots
  have hkeys : g₂.map Prod.fst = groups.map Prod.fst := h₂.keys.trans h₁.keys
  have hfixed (z : Nat) : parents g₂ (root (parents groups) z) = root (parents groups) z := by
    rw [← hroots]
    exact parent_root h₂.forest.falls z
  rw [union, hfind₁]
  dsimp only
  rw [hfind₂, h₁.roots]
  dsimp only
  generalize hrx : root (parents groups) x = rx
  generalize hry : root (parents groups) y = ry
  have hrx' := hfixed x
  have hry' := hfixed y
  rw [hrx] at hrx'
  rw [hry] at hry'
  by_cases heq : rx = ry
  · refine ⟨g₂, if_pos heq, h₂.forest, hkeys, ?_⟩
    funext z
    rw [hroots, join, hrx, hry, heq, max_self, min_self]
    split
    · assumption
    · rfl
  · have hmaxmin : ∀ a ∈ [rx, ry], a ∈ g₂.map Prod.fst := by
      intro a ha
      rw [hkeys]
      simp only [List.mem_cons, List.not_mem_nil, or_false] at ha
      rcases ha with rfl | rfl
      · exact hrx ▸ hforest.root_mem hx
      · exact hry ▸ hforest.root_mem hy
    have hmax : max rx ry ∈ g₂.map Prod.fst := by
      rcases max_choice rx ry with h | h <;> rw [h]
      · exact hmaxmin rx (by simp)
      · exact hmaxmin ry (by simp)
    have hmin : min rx ry ∈ g₂.map Prod.fst := by
      rcases min_choice rx ry with h | h <;> rw [h]
      · exact hmaxmin rx (by simp)
      · exact hmaxmin ry (by simp)
    refine ⟨_, if_neg heq, h₂.forest.setParent hmax hmin min_le_max, by rw [keys_setParent, hkeys], ?_⟩
    funext z
    have hmaxfixed : parents g₂ (max rx ry) = max rx ry := by
      rcases max_choice rx ry with h | h <;> rw [h] <;> assumption
    have hminfixed : parents g₂ (min rx ry) = min rx ry := by
      rcases min_choice rx ry with h | h <;> rw [h] <;> assumption
    rw [parents_setParent hmax, root_link h₂.forest.falls hminfixed hmaxfixed (min_lt_max.2 heq), hroots, join, hrx, hry]

/-! ## The sweeps -/

/-- A sweep's table: a forest on the same records, with the classes of these pairs joined. -/
structure Joined (groups : Groups) (pairs : List (Nat × Nat)) (groups' : Groups) : Prop where
  forest : Forest groups'
  keys : groups'.map Prod.fst = groups.map Prod.fst
  roots : root (parents groups') = joinAll (root (parents groups)) pairs

theorem Joined.nil {groups : Groups} (hforest : Forest groups) : Joined groups [] groups := ⟨hforest, rfl, rfl⟩

theorem Joined.cons {g₁ g₂ g₃ : Groups} {x y : Nat} {pairs : List (Nat × Nat)}
    (hkeys : g₂.map Prod.fst = g₁.map Prod.fst) (hroots : root (parents g₂) = join (root (parents g₁)) x y)
    (h : Joined g₂ pairs g₃) : Joined g₁ ((x, y) :: pairs) g₃ :=
  ⟨h.forest, h.keys.trans hkeys, by rw [h.roots, hroots]; rfl⟩

theorem blobKey_inj {a b : Bytes} : blobKey a = blobKey b ↔ a = b :=
  (List.map_injective_iff.2 fun _ _ => UInt8.toNat_inj.1).eq_iff

def sourceSpan (row : Bytes × Nat) : Span (List Nat) ℤ Nat := ⟨blobKey row.1, 0, 0, row.2⟩

/-- The open component of the source sweep; all its spans are the one point. -/
def SourceSweep.component (s : SourceSweep) : Option (Span (List Nat) ℤ Nat) :=
  s.current.map fun fingerprint => sourceSpan (fingerprint, s.firstRecord)

theorem sourceLoop_spec (config : DevelopmentSplitConfig) : ∀ {rows : List (Bytes × Nat)} {s : SourceSweep},
    Forest s.groups → (∀ row ∈ rows, row.2 ∈ s.groups.map Prod.fst) →
    (s.current.isSome = true → s.firstRecord ∈ s.groups.map Prod.fst) →
    ∃ s', sourceLoop config rows s = .ok s' ∧
      Joined s.groups (pairs s.component (rows.map sourceSpan)) s'.groups
  | [], s, hforest, _, _ => ⟨s, rfl, by rw [List.map_nil, pairs]; exact .nil hforest⟩
  | (fingerprint, recordId) :: rest, s, hforest, hrows, hfirst => by
    have hrecord := hrows _ List.mem_cons_self
    have hrest : ∀ row ∈ rest, row.2 ∈ s.groups.map Prod.fst := fun row hrow => hrows row (List.mem_cons_of_mem _ hrow)
    rw [sourceLoop, List.map_cons]
    by_cases hnew : s.current ≠ some fingerprint
    · rw [if_pos hnew]
      obtain ⟨s', hok, hjoined⟩ := sourceLoop_spec config
        (s := { s with current := some fingerprint, firstRecord := recordId }) hforest hrest fun _ => hrecord
      refine ⟨s', hok, ?_⟩
      have hpairs : pairs s.component (sourceSpan (fingerprint, recordId) :: rest.map sourceSpan) =
          pairs (some (sourceSpan (fingerprint, recordId))) (rest.map sourceSpan) := by
        cases hcurrent : s.current with
        | none => rw [SourceSweep.component, hcurrent]; rfl
        | some current =>
          have hkey : ¬ blobKey current = blobKey fingerprint := fun h => hnew (hcurrent.trans (congrArg some (blobKey_inj.1 h)))
          rw [SourceSweep.component, hcurrent, Option.map_some, pairs, if_neg fun h => hkey h.1]
      rw [hpairs]
      exact hjoined
    · have hcurrent : s.current = some fingerprint := not_not.1 hnew
      rw [if_neg hnew]
      obtain ⟨groups', hunion, hforest', hkeys, hroots⟩ :=
        union_spec hforest (hfirst (by rw [hcurrent]; rfl)) hrecord
      rw [hunion]
      dsimp only
      obtain ⟨s', hok, hjoined⟩ := sourceLoop_spec config
        (s := { s with
          groups := groups'
          edges := s.edges + 1
          commits := if (s.edges + 1) % config.batchSize = 0 then s.commits + 1 else s.commits }) hforest'
        (fun row hrow => hkeys ▸ hrest row hrow) fun h => hkeys ▸ hfirst h
      refine ⟨s', hok, ?_⟩
      have hpairs : pairs s.component (sourceSpan (fingerprint, recordId) :: rest.map sourceSpan) =
          (s.firstRecord, recordId) :: pairs s.component (rest.map sourceSpan) := by
        rw [SourceSweep.component, hcurrent, Option.map_some, pairs, if_pos ⟨rfl, le_refl _⟩]
        rfl
      rw [hpairs]
      exact .cons hkeys hroots hjoined

def overlapSpan (row : Bytes × ℤ × ℤ × Nat) : Span (List Nat) ℤ Nat := ⟨blobKey row.1, row.2.1, row.2.2.1, row.2.2.2⟩

/-- The open component of the overlap sweep; nothing looks at its start again. -/
def OverlapSweep.component (s : OverlapSweep) (start : ℤ) : Option (Span (List Nat) ℤ Nat) :=
  s.current.map fun fingerprint => ⟨blobKey fingerprint, start, s.componentEnd, s.componentAnchor⟩

theorem overlapPairs_new {s : OverlapSweep} {fingerprint : Bytes} {startUs endUs : ℤ} {recordId : Nat}
    (hnew : s.current ≠ some fingerprint ∨ s.componentEnd < startUs) (start : ℤ) (spans : List (Span (List Nat) ℤ Nat)) :
    pairs (s.component start) (overlapSpan (fingerprint, startUs, endUs, recordId) :: spans) =
      pairs (some (overlapSpan (fingerprint, startUs, endUs, recordId))) spans := by
  cases hcurrent : s.current with
  | none => rw [OverlapSweep.component, hcurrent]; rfl
  | some current =>
    have hout : ¬ (blobKey current = blobKey fingerprint ∧ startUs ≤ s.componentEnd) := by
      rintro ⟨hkey, hle⟩
      rcases hnew with hnew | hlt
      · exact hnew (hcurrent.trans (congrArg some (blobKey_inj.1 hkey)))
      · exact absurd hle (not_le.2 hlt)
    rw [OverlapSweep.component, hcurrent, Option.map_some, pairs]
    exact if_neg hout

theorem overlapPairs_join {s : OverlapSweep} {fingerprint : Bytes} {startUs endUs : ℤ} {recordId : Nat}
    (hjoins : ¬ (s.current ≠ some fingerprint ∨ s.componentEnd < startUs)) (start : ℤ)
    (spans : List (Span (List Nat) ℤ Nat)) :
    pairs (s.component start) (overlapSpan (fingerprint, startUs, endUs, recordId) :: spans) =
      (s.componentAnchor, recordId) ::
        pairs (OverlapSweep.component { s with componentEnd := max s.componentEnd endUs } start) spans := by
  obtain ⟨hcurrent, hle⟩ := not_or.1 hjoins
  rw [OverlapSweep.component, OverlapSweep.component, not_not.1 hcurrent, Option.map_some, Option.map_some, pairs]
  exact if_pos ⟨rfl, not_lt.1 hle⟩

theorem overlapLoop_spec (config : DevelopmentSplitConfig) :
    ∀ {rows : List (Bytes × ℤ × ℤ × Nat)} {s : OverlapSweep} (start : ℤ), Forest s.groups →
    (∀ row ∈ rows, row.2.2.2 ∈ s.groups.map Prod.fst) →
    (s.current.isSome = true → s.componentAnchor ∈ s.groups.map Prod.fst) →
    ∃ s', overlapLoop config rows s = .ok s' ∧
      Joined s.groups (pairs (s.component start) (rows.map overlapSpan)) s'.groups
  | [], s, start, hforest, _, _ => ⟨s, rfl, by rw [List.map_nil, pairs]; exact .nil hforest⟩
  | (fingerprint, startUs, endUs, recordId) :: rest, s, start, hforest, hrows, hanchor => by
    have hrecord := hrows _ List.mem_cons_self
    have hrest : ∀ row ∈ rest, row.2.2.2 ∈ s.groups.map Prod.fst :=
      fun row hrow => hrows row (List.mem_cons_of_mem _ hrow)
    rw [overlapLoop, List.map_cons]
    by_cases hnew : s.current ≠ some fingerprint ∨ s.componentEnd < startUs
    · rw [if_pos hnew]
      obtain ⟨s', hok, hjoined⟩ := overlapLoop_spec config
        (s := { s with current := some fingerprint, componentAnchor := recordId, componentEnd := endUs })
        startUs hforest hrest fun _ => hrecord
      refine ⟨s', hok, ?_⟩
      rw [overlapPairs_new hnew]
      exact hjoined
    · obtain ⟨hcurrent, hle⟩ := not_or.1 hnew
      have hcurrent : s.current = some fingerprint := not_not.1 hcurrent
      rw [if_neg hnew]
      obtain ⟨groups', hunion, hforest', hkeys, hroots⟩ :=
        union_spec hforest (hanchor (by rw [hcurrent]; rfl)) hrecord
      rw [hunion]
      dsimp only
      obtain ⟨s', hok, hjoined⟩ := overlapLoop_spec config
        (s := { s with
          groups := groups'
          edges := s.edges + 1
          commits := if (s.edges + 1) % config.batchSize = 0 then s.commits + 1 else s.commits
          componentEnd := max s.componentEnd endUs }) start hforest'
        (fun row hrow => hkeys ▸ hrest row hrow) fun h => hkeys ▸ hanchor h
      refine ⟨s', hok, ?_⟩
      rw [overlapPairs_join hnew]
      exact .cons hkeys hroots hjoined

/-! ## The first groups -/

/-- Each eligible record in the range is its own parent. -/
structure Singletons (ev : Evidence) (covered : Nat → Prop) (groups : Groups) : Prop where
  keys : ∀ x, x ∈ groups.map Prod.fst ↔ covered x ∧ ∃ r ∈ ev.eligible, r.rowid = x
  alone : ∀ row ∈ groups, row.2 = row.1

theorem Singletons.parents {ev : Evidence} {covered : Nat → Prop} {groups : Groups} (h : Singletons ev covered groups)
    (x : Nat) : parents groups x = x := by
  rw [Datasets.parents]
  cases hlookup : groups.lookup x with
  | none => rfl
  | some p =>
    obtain ⟨l₁, l₂, rfl, -⟩ := List.lookup_eq_some_iff.1 hlookup
    exact h.alone (x, p) (List.mem_append_right _ List.mem_cons_self)

theorem Singletons.forest {ev : Evidence} {covered : Nat → Prop} {groups : Groups} (h : Singletons ev covered groups) :
    Forest groups :=
  ⟨fun x => (h.parents x).le, fun x hx => by rwa [h.parents]⟩

theorem initializeLoop_spec (config : DevelopmentSplitConfig) (budget : Nat → Bool) {ev : Evidence}
    {minimum : Nat} (maximum : Nat) : ∀ (fuel lower : Nat) {groups : Groups}, minimum ≤ lower →
    maximum + 2 ≤ fuel + lower → 0 < fuel → Singletons ev (fun x => minimum ≤ x ∧ x < lower) groups →
    ((∀ n, budget n = true) → ∃ groups', initializeLoop config budget ev maximum fuel lower groups = .ok groups') ∧
    ∀ groups', initializeLoop config budget ev maximum fuel lower groups = .ok groups' →
      ∃ upper, maximum < upper ∧ Singletons ev (fun x => minimum ≤ x ∧ x < upper) groups'
  | 0, _, _, _, _, h, _ => absurd h (Nat.lt_irrefl 0)
  | fuel + 1, lower, groups, hmin, hfuel, _, hgroups => by
    rw [initializeLoop]
    by_cases hdone : maximum < lower
    · rw [if_pos hdone]
      exact ⟨fun _ => ⟨groups, rfl⟩, fun groups' h => ⟨lower, hdone, by cases h; exact hgroups⟩⟩
    · rw [if_neg hdone]
      dsimp only
      cases hbudget : budget lower with
      | false =>
        refine ⟨fun h => ?_, fun groups' h => ?_⟩
        · rw [h lower] at hbudget
          cases hbudget
        · simp at h
      | true =>
        have hpositive := config.positive
        rw [if_pos rfl]
        refine initializeLoop_spec config budget maximum fuel _ (by omega) (by omega) (by omega) ⟨fun x => ?_, fun row hrow => ?_⟩
        · rw [List.map_append, List.mem_append, hgroups.keys, List.map_map]
          simp only [List.mem_map, List.mem_filter, decide_eq_true_eq, Function.comp_apply]
          constructor
          · rintro (⟨⟨h₁, h₂⟩, hr⟩ | ⟨r, ⟨hr, h₁, h₂⟩, rfl⟩)
            · exact ⟨⟨h₁, by omega⟩, hr⟩
            · exact ⟨⟨by omega, by omega⟩, r, hr, rfl⟩
          · rintro ⟨⟨h₁, h₂⟩, r, hr, rfl⟩
            by_cases hlower : r.rowid < lower
            · exact .inl ⟨⟨h₁, hlower⟩, r, hr, rfl⟩
            · exact .inr ⟨r, ⟨hr, by omega, by omega⟩, rfl⟩
        · rcases List.mem_append.1 hrow with hrow | hrow
          · exact hgroups.alone row hrow
          · obtain ⟨r, -, rfl⟩ := List.mem_map.1 hrow
            rfl

theorem eligible_timed {ev : Evidence} {r : PreflightRecord} (hr : r ∈ ev.eligible) :
    r.rowid ∈ ev.timing.map (·.recordId) := by
  have h := (List.mem_filter.1 hr).2
  simp only [Bool.and_eq_true, List.any_eq_true, beq_iff_eq] at h
  obtain ⟨-, t, ht, hid⟩ := h
  exact List.mem_map.2 ⟨t, ht, hid⟩

/-- The first groups are the eligible records, each alone. -/
theorem initializeGroups_spec (config : DevelopmentSplitConfig) (budget : Nat → Bool) (ev : Evidence) :
    ((∀ n, budget n = true) → ∃ groups, initializeGroups config budget ev = .ok groups) ∧
    ∀ groups, initializeGroups config budget ev = .ok groups → Singletons ev (fun _ => True) groups := by
  unfold initializeGroups
  cases hmin : (ev.timing.map (·.recordId)).min? with
  | none =>
    refine ⟨fun _ => ⟨[], rfl⟩, fun groups h => ?_⟩
    cases h
    refine ⟨fun x => ⟨fun h => absurd h List.not_mem_nil, ?_⟩, fun _ h => absurd h List.not_mem_nil⟩
    rintro ⟨-, r, hr, -⟩
    have htimed := eligible_timed hr
    rw [List.min?_eq_none_iff.1 hmin] at htimed
    exact absurd htimed List.not_mem_nil
  | some minimum =>
    cases hmax : (ev.timing.map (·.recordId)).max? with
    | none =>
      rw [List.max?_eq_none_iff.1 hmax] at hmin
      cases hmin
    | some maximum =>
      dsimp only
      have hle : minimum ≤ maximum :=
        (List.min?_eq_some_iff.1 hmin).2 maximum (List.max?_eq_some_iff.1 hmax).1
      have hstart : Singletons ev (fun x => minimum ≤ x ∧ x < minimum) [] := by
        refine ⟨fun x => ⟨fun h => absurd h List.not_mem_nil, ?_⟩, fun _ h => absurd h List.not_mem_nil⟩
        rintro ⟨⟨h₁, h₂⟩, -⟩
        exact absurd h₁ (Nat.not_le.2 h₂)
      obtain ⟨hreturns, hspec⟩ := initializeLoop_spec config budget maximum (maximum + 2 - minimum) minimum
        (Nat.le_refl minimum) (by omega) (by omega) hstart
      refine ⟨hreturns, fun groups h => ?_⟩
      obtain ⟨upper, hupper, hgroups⟩ := hspec groups h
      refine ⟨fun x => (hgroups.keys x).trans ⟨fun h => ⟨trivial, h.2⟩, fun h => ⟨?_, h.2⟩⟩, hgroups.alone⟩
      obtain ⟨-, r, hr, rfl⟩ := h
      have htimed := eligible_timed hr
      exact ⟨(List.min?_eq_some_iff.1 hmin).2 _ htimed,
        Nat.lt_of_le_of_lt ((List.max?_eq_some_iff.1 hmax).2 _ htimed) hupper⟩

/-! ## The last pass -/

/-- The pass compresses, and the records it has seen point to their roots. -/
theorem compressLoop_spec (config : DevelopmentSplitConfig) (budget : Nat → Bool) :
    ∀ (ids : List Nat) (processed : Nat) {groups : Groups}, Forest groups → (∀ x ∈ ids, x ∈ groups.map Prod.fst) →
    ((∀ n, budget n = true) → ∃ result, compressLoop config budget ids processed groups = .ok result) ∧
    ∀ result, compressLoop config budget ids processed groups = .ok result →
      Compressed groups result.2 ∧ ∀ x ∈ ids, parents result.2 x = root (parents groups) x
  | [], processed, groups, hforest, _ => by
    refine ⟨fun _ => ⟨_, rfl⟩, fun result h => ?_⟩
    cases h
    exact ⟨.refl hforest, fun _ h => absurd h List.not_mem_nil⟩
  | recordId :: rest, processed, groups, hforest, hids => by
    have hrecord := hids recordId List.mem_cons_self
    obtain ⟨g₁, hfind, h₁⟩ := find_spec hforest hrecord
    have hrecord₁ : recordId ∈ g₁.map Prod.fst := h₁.keys ▸ hrecord
    have h₂ := Compressed.setRoot h₁.forest hrecord₁
    rw [h₁.roots] at h₂
    have hcompressed := h₁.trans h₂
    rw [compressLoop, hfind]
    dsimp only
    by_cases hbudget : (processed + 1) % config.batchSize = 0 ∧ ¬ budget (processed + 1) = true
    · rw [if_pos hbudget]
      refine ⟨fun h => absurd (h _) hbudget.2, fun result h => ?_⟩
      cases h
    · rw [if_neg hbudget]
      have hrest : ∀ x ∈ rest, x ∈ (setParent g₁ recordId (root (parents groups) recordId)).map Prod.fst :=
        fun x hx => hcompressed.keys ▸ hids x (List.mem_cons_of_mem _ hx)
      obtain ⟨hreturns, hspec⟩ := compressLoop_spec config budget rest (processed + 1) hcompressed.forest hrest
      refine ⟨hreturns, fun result h => ?_⟩
      obtain ⟨hlater, hseen⟩ := hspec result h
      refine ⟨hcompressed.trans hlater, fun x hx => ?_⟩
      rcases List.mem_cons.1 hx with rfl | hx
      · have hnow : parents (setParent g₁ x (root (parents groups) x)) x = root (parents groups) x := by
          rw [parents_setParent hrecord₁, Function.update_self]
        rcases hlater.moved x with h | h
        · rw [h, hnow]
        · rw [h, hcompressed.roots]
      · rw [hseen x hx, hcompressed.roots]

theorem compressGroups_spec (config : DevelopmentSplitConfig) (budget : Nat → Bool) {groups : Groups}
    (hforest : Forest groups) :
    ((∀ n, budget n = true) → ∃ result, compressGroups config budget groups = .ok result) ∧
    ∀ result, compressGroups config budget groups = .ok result →
      result.2.map Prod.fst = groups.map Prod.fst ∧
      ∀ x ∈ groups.map Prod.fst, result.2.lookup x = some (root (parents groups) x) := by
  obtain ⟨hreturns, hspec⟩ := compressLoop_spec config budget ((groups.map Prod.fst).insertionSort (· ≤ ·)) 0
    hforest fun x hx => (List.mem_insertionSort _).1 hx
  unfold compressGroups
  rw [batchedRows_eq]
  cases hloop : compressLoop config budget ((groups.map Prod.fst).insertionSort (· ≤ ·)) 0 groups with
  | error e =>
    refine ⟨fun h => ?_, fun result h => (by cases h)⟩
    obtain ⟨result, hresult⟩ := hreturns h
    rw [hloop] at hresult
    cases hresult
  | ok result =>
    obtain ⟨hcompressed, hseen⟩ := hspec result hloop
    dsimp only
    refine ⟨fun h => ⟨_, if_pos (h _)⟩, fun result' h => ?_⟩
    split at h
    · cases h
      refine ⟨hcompressed.keys, fun x hx => ?_⟩
      rw [lookup_of_key (hcompressed.keys ▸ hx), hseen x ((List.mem_insertionSort _).2 hx)]
    · cases h

/-! ## Links -/

/-- Two records that may not be split: one source record twice, or one tuple in intervals that overlap or touch. -/
structure Linked (ev : Evidence) (r s : PreflightRecord) : Prop where
  left : r ∈ ev.eligible
  right : s ∈ ev.eligible
  link : r.sourceFp = s.sourceFp ∨ r.tupleFp = s.tupleFp ∧ r.startUs ≤ s.endUs ∧ s.startUs ≤ r.endUs

theorem Linked.symm {ev : Evidence} {r s : PreflightRecord} (h : Linked ev r s) : Linked ev s r := by
  refine ⟨h.right, h.left, ?_⟩
  rcases h.link with h | ⟨htuple, hbefore, hafter⟩
  · exact .inl h.symm
  · exact .inr ⟨htuple.symm, hafter, hbefore⟩

theorem eq_of_rowid {ev : Evidence} {r s : PreflightRecord} (hr : r ∈ ev.eligible) (hs : s ∈ ev.eligible)
    (h : r.rowid = s.rowid) : r = s :=
  List.inj_on_of_nodup_map ev.rowids (List.mem_filter.1 hr).1 (List.mem_filter.1 hs).1 h

/-- Links between row identifiers. -/
def LinkedIds (ev : Evidence) (a b : Nat) : Prop := ∃ r s, Linked ev r s ∧ r.rowid = a ∧ s.rowid = b

/-- A chain of identifiers is a chain of records. -/
theorem chain_iff {ev : Evidence} {r s : PreflightRecord} (hr : r ∈ ev.eligible) (hs : s ∈ ev.eligible) :
    EqvGen (LinkedIds ev) r.rowid s.rowid ↔ ReflTransGen (Linked ev) r s := by
  have : Std.Symm (LinkedIds ev) := ⟨fun _ _ ⟨r, s, h, hr, hs⟩ => ⟨s, r, h.symm, hs, hr⟩⟩
  rw [EqvGen.eqvGen_eq_reflTransGen]
  constructor
  · intro h
    have ends : ∀ {b : Nat}, ReflTransGen (LinkedIds ev) r.rowid b → ∀ t ∈ ev.eligible, t.rowid = b →
        ReflTransGen (Linked ev) r t := by
      intro b h
      induction h with
      | refl =>
        intro t ht htb
        rw [eq_of_rowid ht hr htb]
      | tail _ hbc ih =>
        intro t ht htc
        obtain ⟨u, v, huv, hub, hvc⟩ := hbc
        rw [eq_of_rowid ht huv.right (htc.trans hvc.symm)]
        exact (ih u huv.left hub).tail huv
    exact ends h s hs rfl
  · exact fun h => h.lift (·.rowid) fun u v huv => ⟨u, v, huv, rfl, rfl⟩

/-- The groups that the sweeps read have every eligible record. -/
theorem grouped_eq {ev : Evidence} {groups : Groups}
    (hkeys : ∀ x, x ∈ groups.map Prod.fst ↔ ∃ r ∈ ev.eligible, r.rowid = x) : grouped ev groups = ev.eligible := by
  refine List.filter_congr fun r hr => ?_
  rw [Bool.eq_iff_iff, Bool.and_eq_true, Bool.and_eq_true]
  refine and_congr_right fun haccepted => ?_
  constructor
  · intro h
    obtain ⟨s, hs, hrowid⟩ := (hkeys _).1 (key_of_lookup h)
    have hsame : s = r := List.inj_on_of_nodup_map ev.rowids (List.mem_filter.1 hs).1 hr hrowid
    exact (Bool.and_eq_true_iff.1 (hsame ▸ (List.mem_filter.1 hs).2)).2
  · intro h
    have hmem : r ∈ ev.eligible := List.mem_filter.2 ⟨hr, Bool.and_eq_true_iff.2 ⟨haccepted, h⟩⟩
    rw [lookup_of_key ((hkeys _).2 ⟨r, hmem, rfl⟩)]
    rfl

theorem sourceRows_mem {ev : Evidence} {groups : Groups} {row : Bytes × Nat} :
    row ∈ sourceRows ev groups ↔ ∃ r ∈ grouped ev groups, (r.sourceFp, r.rowid) = row := by
  simp only [sourceRows, List.mem_map, List.mem_insertionSort]

theorem overlapRows_mem {ev : Evidence} {groups : Groups} {row : Bytes × ℤ × ℤ × Nat} :
    row ∈ overlapRows ev groups ↔ ∃ r ∈ grouped ev groups, (r.tupleFp, r.startUs, r.endUs, r.rowid) = row := by
  simp only [overlapRows, List.mem_map, List.mem_insertionSort]

theorem sourceSpans_sorted (ev : Evidence) (groups : Groups) :
    ((sourceRows ev groups).map sourceSpan).Pairwise Span.notAfter := by
  rw [sourceRows, List.map_map, List.pairwise_map]
  refine (List.pairwise_insertionSort _ _).imp fun {r s} h => ?_
  exact h.imp_right fun h => ⟨h.1, le_refl _⟩

theorem overlapSpans_sorted (ev : Evidence) (groups : Groups) :
    ((overlapRows ev groups).map overlapSpan).Pairwise Span.notAfter := by
  rw [overlapRows, List.map_map, List.pairwise_map]
  refine (List.pairwise_insertionSort _ _).imp fun {r s} h => ?_
  exact h.imp_right fun h => ⟨h.1, Prod.Lex.monotone_fst _ _ h.2⟩

/-- The pairs of both sweeps link what is linked. -/
theorem sweeps_iff {ev : Evidence} (hordered : ∀ r ∈ ev.eligible, r.startUs ≤ r.endUs) {g₁ g₂ : Groups}
    (hg₁ : grouped ev g₁ = ev.eligible) (hg₂ : grouped ev g₂ = ev.eligible) {ρ : Nat → Nat} (hρ : ∀ x, ρ x = x)
    (a b : Nat) :
    joinAll (joinAll ρ (pairs none ((sourceRows ev g₁).map sourceSpan)))
        (pairs none ((overlapRows ev g₂).map overlapSpan)) a =
      joinAll (joinAll ρ (pairs none ((sourceRows ev g₁).map sourceSpan)))
        (pairs none ((overlapRows ev g₂).map overlapSpan)) b ↔ EqvGen (LinkedIds ev) a b := by
  have hsource := pairs_iff (sourceSpans_sorted ev g₁) (fun span hspan => by
    obtain ⟨row, -, rfl⟩ := List.mem_map.1 hspan
    exact le_refl _)
  have hoverlap := pairs_iff (overlapSpans_sorted ev g₂) (fun span hspan => by
    obtain ⟨row, hrow, rfl⟩ := List.mem_map.1 hspan
    obtain ⟨r, hr, rfl⟩ := overlapRows_mem.1 hrow
    exact hordered r (hg₂ ▸ hr))
  have hsourceSpan {span : Span (List Nat) ℤ Nat} (h : span ∈ (sourceRows ev g₁).map sourceSpan) :
      ∃ r ∈ ev.eligible, sourceSpan (r.sourceFp, r.rowid) = span := by
    obtain ⟨row, hrow, rfl⟩ := List.mem_map.1 h
    obtain ⟨r, hr, rfl⟩ := sourceRows_mem.1 hrow
    exact ⟨r, hg₁ ▸ hr, rfl⟩
  have hoverlapSpan {span : Span (List Nat) ℤ Nat} (h : span ∈ (overlapRows ev g₂).map overlapSpan) :
      ∃ r ∈ ev.eligible, overlapSpan (r.tupleFp, r.startUs, r.endUs, r.rowid) = span := by
    obtain ⟨row, hrow, rfl⟩ := List.mem_map.1 h
    obtain ⟨r, hr, rfl⟩ := overlapRows_mem.1 hrow
    exact ⟨r, hg₂ ▸ hr, rfl⟩
  rw [ker_joinAll]
  constructor
  · refine fun h => EqvGen.eqvGen_le (fun u v huv => ?_) _ _ h
    rcases huv with huv | huv
    · refine EqvGen.eqvGen_le (fun u v huv => ?_) _ _ ((ker_joinAll ρ _ u v).1 huv)
      rcases huv with huv | huv
      · rw [hρ, hρ] at huv
        rw [huv]
        exact .refl _
      · refine EqvGen.eqvGen_le (fun u v huv => ?_) _ _ ((hsource u v).1 (.rel _ _ huv))
        obtain ⟨x, hx, y, hy, hmeets, rfl, rfl⟩ := huv
        obtain ⟨r, hr, rfl⟩ := hsourceSpan hx
        obtain ⟨s, hs, rfl⟩ := hsourceSpan hy
        exact .rel _ _ ⟨r, s, ⟨hr, hs, .inl (blobKey_inj.1 hmeets.key)⟩, rfl, rfl⟩
    · refine EqvGen.eqvGen_le (fun u v huv => ?_) _ _ ((hoverlap u v).1 (.rel _ _ huv))
      obtain ⟨x, hx, y, hy, hmeets, rfl, rfl⟩ := huv
      obtain ⟨r, hr, rfl⟩ := hoverlapSpan hx
      obtain ⟨s, hs, rfl⟩ := hoverlapSpan hy
      exact .rel _ _ ⟨r, s, ⟨hr, hs, .inr ⟨blobKey_inj.1 hmeets.key, hmeets.before, hmeets.after⟩⟩, rfl, rfl⟩
  · refine fun h => EqvGen.eqvGen_le (fun u v huv => ?_) _ _ h
    obtain ⟨r, s, hlinked, rfl, rfl⟩ := huv
    have hr := hlinked.left
    have hs := hlinked.right
    rcases hlinked.link with hsame | ⟨htuple, hbefore, hafter⟩
    · have hmem {t : PreflightRecord} (ht : t ∈ ev.eligible) :
          sourceSpan (t.sourceFp, t.rowid) ∈ (sourceRows ev g₁).map sourceSpan :=
        List.mem_map_of_mem (sourceRows_mem.2 ⟨t, hg₁.symm ▸ ht, rfl⟩)
      refine .rel _ _ (.inl ((ker_joinAll ρ _ _ _).2 ?_))
      refine EqvGen.mono (fun _ _ h => .inr h) _ _ ((hsource _ _).2 ?_)
      exact .rel _ _ ⟨_, hmem hr, _, hmem hs, ⟨congrArg blobKey hsame, le_refl _, le_refl _⟩, rfl, rfl⟩
    · have hmem {t : PreflightRecord} (ht : t ∈ ev.eligible) :
          overlapSpan (t.tupleFp, t.startUs, t.endUs, t.rowid) ∈ (overlapRows ev g₂).map overlapSpan :=
        List.mem_map_of_mem (overlapRows_mem.2 ⟨t, hg₂.symm ▸ ht, rfl⟩)
      refine EqvGen.mono (fun _ _ h => .inr h) _ _ ((hoverlap _ _).2 ?_)
      exact .rel _ _ ⟨_, hmem hr, _, hmem hs, ⟨congrArg blobKey htuple, hbefore, hafter⟩, rfl, rfl⟩

/-- **The groups are the classes of the links.** The four steps return unless the budget is exceeded; then every
eligible record has a group, and two have the same when a chain of links joins them. -/
theorem groups_iff (config : DevelopmentSplitConfig) (budget : Budget) (ev : Evidence)
    (hordered : ∀ r ∈ ev.eligible, r.startUs ≤ r.endUs) :
    ((∀ n, budget.ranges n = true) → (∀ n, budget.compression n = true) →
      ∃ groups, assignGroups config budget ev = .ok groups) ∧
    ∀ groups, assignGroups config budget ev = .ok groups →
      (∀ x, x ∈ groups.map Prod.fst ↔ ∃ r ∈ ev.eligible, r.rowid = x) ∧
      ∀ r ∈ ev.eligible, ∀ s ∈ ev.eligible,
        groups.lookup r.rowid = groups.lookup s.rowid ↔ ReflTransGen (Linked ev) r s := by
  obtain ⟨hreturns₀, hspec₀⟩ := initializeGroups_spec config budget.ranges ev
  -- the two sweeps and the last pass, from the first groups
  have sweeps {g₀ : Groups} (hg₀ : Singletons ev (fun _ => True) g₀) : ∃ n m g₁ g₂,
      unionExactSourceDuplicates config ev g₀ = .ok (n, g₁) ∧ unionOverlapComponents config ev g₁ = .ok (m, g₂) ∧
      Forest g₂ ∧ (∀ x, x ∈ g₂.map Prod.fst ↔ ∃ r ∈ ev.eligible, r.rowid = x) ∧
      ∀ a b, root (parents g₂) a = root (parents g₂) b ↔ EqvGen (LinkedIds ev) a b := by
    have hkeys₀ : ∀ x, x ∈ g₀.map Prod.fst ↔ ∃ r ∈ ev.eligible, r.rowid = x :=
      fun x => by simp only [hg₀.keys, true_and]
    have hgrouped₀ := grouped_eq hkeys₀
    obtain ⟨s₁, hok₁, hjoined₁⟩ := sourceLoop_spec config (s := { groups := g₀ })
      hg₀.forest (fun row (hrow : row ∈ sourceRows ev g₀) => by
        obtain ⟨r, hr, rfl⟩ := sourceRows_mem.1 hrow
        exact (hkeys₀ _).2 ⟨r, hgrouped₀ ▸ hr, rfl⟩) (fun h => by cases h)
    have hkeys₁ : ∀ x, x ∈ s₁.groups.map Prod.fst ↔ ∃ r ∈ ev.eligible, r.rowid = x := by
      rw [hjoined₁.keys]
      exact hkeys₀
    have hgrouped₁ := grouped_eq hkeys₁
    obtain ⟨s₂, hok₂, hjoined₂⟩ := overlapLoop_spec config
      (s := { groups := s₁.groups }) 0 hjoined₁.forest (fun row (hrow : row ∈ overlapRows ev s₁.groups) => by
        obtain ⟨r, hr, rfl⟩ := overlapRows_mem.1 hrow
        exact (hkeys₁ _).2 ⟨r, hgrouped₁ ▸ hr, rfl⟩) (fun h => by cases h)
    have hroot (x : Nat) : root (parents g₀) x = x := root_of_fixed (hg₀.parents x)
    refine ⟨s₁.edges, s₂.edges, s₁.groups, s₂.groups, ?_, ?_, hjoined₂.forest, ?_, fun a b => ?_⟩
    · rw [unionExactSourceDuplicates, batchedRows_eq, hok₁]
      rfl
    · rw [unionOverlapComponents, batchedRows_eq, hok₂]
      rfl
    · rw [hjoined₂.keys]
      exact hkeys₁
    · rw [hjoined₂.roots, hjoined₁.roots]
      exact sweeps_iff hordered hgrouped₀ hgrouped₁ hroot a b
  constructor
  · intro hranges hcompression
    obtain ⟨g₀, hok₀⟩ := hreturns₀ hranges
    obtain ⟨n, m, g₁, g₂, hok₁, hok₂, hforest, -, -⟩ := sweeps (hspec₀ g₀ hok₀)
    obtain ⟨result, hok₃⟩ := (compressGroups_spec config budget.compression hforest).1 hcompression
    refine ⟨result.2, ?_⟩
    simp only [assignGroups, hok₀, hok₁, hok₂, hok₃, Except.ok_bind]
    rfl
  · intro groups h
    cases hok₀ : initializeGroups config budget.ranges ev with
    | error e =>
      rw [assignGroups, hok₀] at h
      cases h
    | ok g₀ =>
      obtain ⟨n, m, g₁, g₂, hok₁, hok₂, hforest, hkeys, hker⟩ := sweeps (hspec₀ g₀ hok₀)
      cases hok₃ : compressGroups config budget.compression g₂ with
      | error e =>
        simp only [assignGroups, hok₀, hok₁, hok₂, hok₃, Except.ok_bind, Except.error_bind] at h
        cases h
      | ok result =>
        simp only [assignGroups, hok₀, hok₁, hok₂, hok₃, Except.ok_bind] at h
        cases h
        obtain ⟨hsame, hlookup⟩ := (compressGroups_spec config budget.compression hforest).2 result hok₃
        refine ⟨fun x => by rw [hsame]; exact hkeys x, fun r hr s hs => ?_⟩
        rw [hlookup _ ((hkeys _).2 ⟨r, hr, rfl⟩), hlookup _ ((hkeys _).2 ⟨s, hs, rfl⟩), Option.some_inj, hker]
        exact chain_iff hr hs

end ThreatFusion.Datasets
