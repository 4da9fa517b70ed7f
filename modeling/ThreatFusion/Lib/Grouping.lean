import Mathlib.Algebra.GroupWithZero.Nat
import Mathlib.Data.List.Basic
import Mathlib.Data.List.Induction
import Mathlib.Data.List.Nodup
import Mathlib.Data.List.Perm.Basic
import Mathlib.Data.List.Sort
/-
# Grouping loops over a list

The loops that sort a list of elements into bins.

* `distinctBy key`: a loop with a `seen` set that keeps the first element of every key.
* `groupBy key`: a dictionary of lists, in insertion order (`d[key(x)].append(x)`).
* `dictOf`: a dictionary filled by assignment (`d[k] = v`).
* `lexLe f g`: the order of a sort by the pair of keys `(f x, g x)`.
* `windows joins`: greedy runs; the element that opens a run is its anchor, and the run takes elements
  while `joins anchor x`. In a sorted list no anchor joins an earlier one (`windows_apart`).
* `sum_classes`: a sum, class by class.

None of them loses or repeats anything (`groupBy_flatten`, `windows_members`), and what `distinctBy`
and `groupBy` give depends on the order of the list only up to the order of the bins
(`distinctBy_perm`, `groupBy_map_perm`).
-/
namespace Grouping
variable {α β κ : Type} [DecidableEq κ]

/-! ## The first element of every key -/

def distinctFrom (key : α → κ) : List κ → List α → List α
  | _, [] => []
  | seen, x :: xs =>
    if key x ∈ seen then distinctFrom key seen xs else x :: distinctFrom key (key x :: seen) xs

attribute [local grind] distinctFrom

def distinctBy (key : α → κ) (xs : List α) : List α := distinctFrom key [] xs

theorem distinctFrom_sublist (key : α → κ) (seen : List κ) (xs : List α) :
    (distinctFrom key seen xs).Sublist xs := by
  induction xs generalizing seen with
  | nil => exact List.Sublist.refl _
  | cons x xs ih =>
    unfold distinctFrom
    by_cases h : key x ∈ seen
    · rw [if_pos h]
      exact (ih seen).cons x
    · rw [if_neg h]
      exact (ih (key x :: seen)).cons_cons x

theorem key_not_seen {key : α → κ} {seen : List κ} {xs : List α} {y : α}
    (hy : y ∈ distinctFrom key seen xs) : key y ∉ seen := by
  induction xs generalizing seen with
  | nil => simp [distinctFrom] at hy
  | cons x xs ih =>
    unfold distinctFrom at hy
    by_cases h : key x ∈ seen
    · rw [if_pos h] at hy
      exact ih hy
    · rw [if_neg h] at hy
      rcases List.mem_cons.1 hy with rfl | hy
      · exact h
      · exact fun hmem => ih hy (List.mem_cons_of_mem _ hmem)

theorem nodup_distinctFrom (key : α → κ) (seen : List κ) (xs : List α) :
    ((distinctFrom key seen xs).map key).Nodup := by
  induction xs generalizing seen with
  | nil => simp [distinctFrom]
  | cons x xs ih =>
    unfold distinctFrom
    by_cases h : key x ∈ seen
    · rw [if_pos h]
      exact ih seen
    · rw [if_neg h, List.map_cons, List.nodup_cons]
      refine ⟨fun hmem => ?_, ih _⟩
      obtain ⟨y, hy, hkey⟩ := List.mem_map.1 hmem
      exact key_not_seen hy (hkey ▸ List.mem_cons_self)

/-- The survivor is the first element of the list that has its key. -/
theorem distinctFrom_find {key : α → κ} {seen : List κ} {xs : List α} {y : α} :
    y ∈ distinctFrom key seen xs ↔ key y ∉ seen ∧ xs.find? (fun x => key x = key y) = some y := by
  induction xs generalizing seen with
  | nil => simp [distinctFrom]
  | cons x xs ih =>
    unfold distinctFrom
    by_cases h : key x ∈ seen
    · rw [if_pos h, ih]
      refine and_congr_right fun hy => ?_
      have hne : key x ≠ key y := fun heq => hy (heq ▸ h)
      rw [List.find?_cons_of_neg (by simpa using hne)]
    · rw [if_neg h, List.mem_cons, ih]
      by_cases heq : key x = key y
      · rw [List.find?_cons_of_pos (by simpa using heq), Option.some.injEq]
        constructor
        · rintro (rfl | ⟨hn, -⟩)
          · exact ⟨h, rfl⟩
          · exact absurd (heq ▸ List.mem_cons_self) hn
        · rintro ⟨-, rfl⟩
          exact .inl rfl
      · rw [List.find?_cons_of_neg (by simpa using heq)]
        constructor
        · rintro (rfl | ⟨hn, hfind⟩)
          · exact absurd rfl heq
          · exact ⟨fun hmem => hn (List.mem_cons_of_mem _ hmem), hfind⟩
        · rintro ⟨hn, hfind⟩
          refine .inr ⟨fun hmem => ?_, hfind⟩
          rcases List.mem_cons.1 hmem with hmem | hmem
          · exact heq hmem.symm
          · exact hn hmem

theorem distinctFrom_of_nodup {key : α → κ} {seen : List κ} {xs : List α} (hnodup : (xs.map key).Nodup)
    (hseen : ∀ x ∈ xs, key x ∉ seen) : distinctFrom key seen xs = xs := by
  induction xs generalizing seen with
  | nil => rfl
  | cons x xs ih =>
    rw [List.map_cons, List.nodup_cons] at hnodup
    rw [distinctFrom, if_neg (hseen x List.mem_cons_self), ih hnodup.2]
    intro y hy hmem
    rcases List.mem_cons.1 hmem with hkey | hmem
    · exact hnodup.1 (hkey ▸ List.mem_map_of_mem hy)
    · exact hseen y (List.mem_cons_of_mem _ hy) hmem

theorem distinctFrom_map (key : β → κ) (f : α → β) (seen : List κ) (xs : List α) :
    distinctFrom key seen (xs.map f) = (distinctFrom (fun x => key (f x)) seen xs).map f := by
  induction xs generalizing seen with
  | nil => rfl
  | cons x xs ih =>
    rw [List.map_cons, distinctFrom, distinctFrom]
    by_cases h : key (f x) ∈ seen
    · rw [if_pos h, if_pos h, ih]
    · rw [if_neg h, if_neg h, ih, List.map_cons]

theorem nodup_distinctBy (key : α → κ) (xs : List α) : ((distinctBy key xs).map key).Nodup :=
  nodup_distinctFrom key [] xs

theorem mem_distinctBy {key : α → κ} {xs : List α} {y : α} :
    y ∈ distinctBy key xs ↔ xs.find? (fun x => key x = key y) = some y := by
  rw [distinctBy, distinctFrom_find]
  simp

theorem distinctBy_distinctBy (key : α → κ) (xs : List α) :
    distinctBy key (distinctBy key xs) = distinctBy key xs :=
  distinctFrom_of_nodup (nodup_distinctBy key xs) (by simp)

theorem distinctBy_map (key : β → κ) (f : α → β) (xs : List α) :
    distinctBy key (xs.map f) = (distinctBy (fun x => key (f x)) xs).map f :=
  distinctFrom_map key f [] xs

/-- Every key is kept. -/
theorem exists_mem_distinctBy {key : α → κ} {xs : List α} {k : κ} :
    (∃ y ∈ distinctBy key xs, key y = k) ↔ ∃ x ∈ xs, key x = k := by
  constructor
  · rintro ⟨y, hy, rfl⟩
    exact ⟨y, (distinctFrom_sublist key [] xs).subset hy, rfl⟩
  · rintro ⟨x, hx, rfl⟩
    cases hfind : xs.find? (fun z => key z = key x) with
    | none =>
      have hne := List.find?_eq_none.1 hfind x hx
      simp at hne
    | some y =>
      have hkey : key y = key x := by simpa using List.find?_some hfind
      exact ⟨y, mem_distinctBy.2 (by rw [hkey, hfind]), hkey⟩

theorem mem_distinctBy_of_injective {key : α → κ} {xs : List α}
    (hkey : ∀ x ∈ xs, ∀ y ∈ xs, key x = key y → x = y) {y : α} : y ∈ distinctBy key xs ↔ y ∈ xs := by
  refine ⟨fun hy => (distinctFrom_sublist key [] xs).subset hy, fun hy => ?_⟩
  have hkept : ∃ z ∈ distinctBy key xs, key z = key y := exists_mem_distinctBy.2 ⟨y, hy, rfl⟩
  obtain ⟨z, hz, hzy⟩ := hkept
  exact hkey z ((distinctFrom_sublist key [] xs).subset hz) y hy hzy ▸ hz

/-- Where elements with one key are equal, the order of the list only orders the survivors. -/
theorem distinctBy_perm {key : α → κ} {xs ys : List α} (h : xs.Perm ys)
    (hkey : ∀ x ∈ xs, ∀ y ∈ xs, key x = key y → x = y) :
    (distinctBy key xs).Perm (distinctBy key ys) := by
  refine (List.perm_ext_iff_of_nodup (nodup_distinctBy key xs).of_map
    (nodup_distinctBy key ys).of_map).2 fun y => ?_
  have hkey' : ∀ x ∈ ys, ∀ z ∈ ys, key x = key z → x = z := fun x hx z hz =>
    hkey x (h.mem_iff.2 hx) z (h.mem_iff.2 hz)
  rw [mem_distinctBy_of_injective hkey, mem_distinctBy_of_injective hkey', h.mem_iff]

/-! ## Lists of disjoint parts -/

/-- In a partition, an element has one part. -/
theorem countP_of_nodup_flatMap {parts : β → List κ} {k : κ} {bs : List β} (h : (bs.flatMap parts).Nodup)
    (hk : k ∈ bs.flatMap parts) : (bs.countP fun b => k ∈ parts b) = 1 := by
  induction bs with
  | nil => simp at hk
  | cons b bs ih =>
    rw [List.flatMap_cons] at h hk
    obtain ⟨-, hrest, hdisj⟩ := List.nodup_append.1 h
    rw [List.countP_cons]
    by_cases hb : k ∈ parts b
    · have hnone : (bs.countP fun b => k ∈ parts b) = 0 := by
        rw [List.countP_eq_zero]
        intro b' hb' hmem
        exact hdisj k hb k (List.mem_flatMap.2 ⟨b', hb', by simpa using hmem⟩) rfl
      simp [hnone, hb]
    · have htail := ih hrest ((List.mem_append.1 hk).resolve_left hb)
      simp [htail, hb]

theorem part_unique {parts : β → List κ} {k : κ} {bs : List β} (h : (bs.flatMap parts).Nodup) {b c : β}
    (hb : b ∈ bs) (hc : c ∈ bs) (hkb : k ∈ parts b) (hkc : k ∈ parts c) : b = c := by
  have hone := countP_of_nodup_flatMap h (List.mem_flatMap.2 ⟨b, hb, hkb⟩)
  rw [List.countP_eq_length_filter, List.length_eq_one_iff] at hone
  obtain ⟨d, hd⟩ := hone
  have hin : ∀ x ∈ bs, k ∈ parts x → x = d := fun x hx hk => by
    have hmem : x ∈ bs.filter fun b => k ∈ parts b := List.mem_filter.2 ⟨hx, by simpa using hk⟩
    rw [hd] at hmem
    exact List.mem_singleton.1 hmem
  rw [hin b hb hkb, hin c hc hkc]

/-- In a table keyed by `key` a search finds the row of the key. -/
theorem find?_key {key : β → κ} {bs : List β} (h : (bs.map key).Nodup) {b : β} (hb : b ∈ bs) :
    bs.find? (fun c => key c == key b) = some b := by
  cases hfind : bs.find? (fun c => key c == key b) with
  | none => exact absurd (beq_self_eq_true (key b)) (List.find?_eq_none.1 hfind b hb)
  | some c =>
    have hkey : key c = key b := by simpa using List.find?_some hfind
    rw [List.inj_on_of_nodup_map h (List.mem_of_find?_eq_some hfind) hb hkey]

/-- A key that no two elements share picks one element. -/
theorem filter_key_eq {key : β → κ} {bs : List β} (h : (bs.map key).Nodup) {b : β} (hb : b ∈ bs) :
    (bs.filter fun c => key c = key b) = [b] := by
  induction bs with
  | nil => simp at hb
  | cons c bs ih =>
    rw [List.map_cons, List.nodup_cons] at h
    rcases List.mem_cons.1 hb with rfl | hb
    · have hrest : (bs.filter fun c => key c = key b) = [] := by
        rw [List.filter_eq_nil_iff]
        intro c hc hkey
        exact h.1 (List.mem_map.2 ⟨c, hc, by simpa using hkey⟩)
      rw [List.filter_cons_of_pos (by simp), hrest]
    · have hne : key c ≠ key b := fun heq => h.1 (heq ▸ List.mem_map_of_mem hb)
      rw [List.filter_cons_of_neg (by simpa using hne), ih h.2 hb]

/-- Elements with one value share a key, and no value repeats under a key. -/
theorem nodup_map_of_filter {key : β → κ} {f : β → α} {bs : List β}
    (hkey : ∀ b ∈ bs, ∀ c ∈ bs, f b = f c → key b = key c)
    (hbin : ∀ b ∈ bs, ((bs.filter fun c => key c = key b).map f).Nodup) : (bs.map f).Nodup := by
  induction bs with
  | nil => exact List.nodup_nil
  | cons b bs ih =>
    rw [List.map_cons, List.nodup_cons]
    constructor
    · intro hmem
      obtain ⟨c, hc, hcb⟩ := List.mem_map.1 hmem
      have hsame := hkey c (List.mem_cons_of_mem _ hc) b List.mem_cons_self hcb
      have hhead := hbin b List.mem_cons_self
      rw [List.filter_cons_of_pos (by simp), List.map_cons, List.nodup_cons] at hhead
      exact hhead.1 (List.mem_map.2 ⟨c, List.mem_filter.2 ⟨hc, by simpa using hsame⟩, hcb⟩)
    · refine ih (fun x hx y hy => hkey x (List.mem_cons_of_mem _ hx) y (List.mem_cons_of_mem _ hy)) fun x hx => ?_
      exact (hbin x (List.mem_cons_of_mem _ hx)).sublist (((List.sublist_cons_self b bs).filter _).map f)

/-! ## A dictionary of lists -/

/-- `d[k].append(x)` on a `defaultdict(list)`. -/
def push (k : κ) (x : α) : List (κ × List α) → List (κ × List α)
  | [] => [(k, [x])]
  | (k', ys) :: rest => if k' = k then (k', ys ++ [x]) :: rest else (k', ys) :: push k x rest

def groupBy (key : α → κ) (xs : List α) : List (κ × List α) :=
  xs.foldl (fun d x => push (key x) x d) []

attribute [local grind] push

theorem groupBy_snoc (key : α → κ) (xs : List α) (x : α) :
    groupBy key (xs ++ [x]) = push (key x) x (groupBy key xs) := by
  simp [groupBy, List.foldl_append]

theorem push_flatten (k : κ) (x : α) (d : List (κ × List α)) :
    ((push k x d).flatMap Prod.snd).Perm (d.flatMap Prod.snd ++ [x]) := by
  induction d with
  | nil => simp [push]
  | cons g rest ih =>
    unfold push
    by_cases h : g.1 = k
    · simp only [h, if_true, List.flatMap_cons, List.append_assoc]
      exact List.Perm.append_left _ List.perm_append_comm
    · simp only [h, if_false, List.flatMap_cons, List.append_assoc]
      exact ih.append_left _

theorem mem_push_keys {k l : κ} {x : α} {d : List (κ × List α)} :
    l ∈ (push k x d).map Prod.fst ↔ l ∈ d.map Prod.fst ∨ l = k := by
  induction d with
  | nil => simp [push]
  | cons g rest ih =>
    unfold push
    by_cases h : g.1 = k
    · simp only [h, if_true, List.map_cons, List.mem_cons]
      tauto
    · simp only [h, if_false, List.map_cons, List.mem_cons, ih]
      tauto

theorem nodup_push_keys {k : κ} {x : α} {d : List (κ × List α)} (hd : (d.map Prod.fst).Nodup) :
    ((push k x d).map Prod.fst).Nodup := by
  induction d with
  | nil => simp [push]
  | cons g rest ih =>
    rw [List.map_cons, List.nodup_cons] at hd
    unfold push
    by_cases h : g.1 = k
    · rw [if_pos h, List.map_cons, List.nodup_cons]
      exact hd
    · rw [if_neg h, List.map_cons, List.nodup_cons]
      refine ⟨fun hmem => ?_, ih hd.2⟩
      rcases mem_push_keys.1 hmem with hmem | heq
      · exact hd.1 hmem
      · exact h heq

/-- What one append does to the bins. -/
theorem mem_push {k l : κ} {x : α} {ys : List α} {d : List (κ × List α)} (hd : (d.map Prod.fst).Nodup)
    (hmem : (l, ys) ∈ push k x d) :
    l ≠ k ∧ (l, ys) ∈ d ∨ l = k ∧ (k ∉ d.map Prod.fst ∧ ys = [x] ∨ ∃ zs, (k, zs) ∈ d ∧ ys = zs ++ [x]) := by
  induction d with
  | nil =>
    simp only [push, List.mem_singleton, Prod.mk.injEq] at hmem
    exact .inr ⟨hmem.1, .inl ⟨by simp, hmem.2⟩⟩
  | cons g rest ih =>
    obtain ⟨k', zs⟩ := g
    rw [List.map_cons, List.nodup_cons] at hd
    unfold push at hmem
    by_cases h : k' = k
    · rw [if_pos h] at hmem
      rcases List.mem_cons.1 hmem with heq | hrest
      · cases heq
        exact .inr ⟨h, .inr ⟨zs, h ▸ List.mem_cons_self, rfl⟩⟩
      · refine .inl ⟨?_, List.mem_cons_of_mem _ hrest⟩
        rintro rfl
        exact hd.1 (h ▸ List.mem_map.2 ⟨_, hrest, rfl⟩)
    · rw [if_neg h] at hmem
      rcases List.mem_cons.1 hmem with heq | hrest
      · cases heq
        exact .inl ⟨h, List.mem_cons_self⟩
      · rcases ih hd.2 hrest with ⟨hne, hold⟩ | ⟨rfl, ⟨hnew, rfl⟩ | ⟨zs', hold, rfl⟩⟩
        · exact .inl ⟨hne, List.mem_cons_of_mem _ hold⟩
        · refine .inr ⟨rfl, .inl ⟨?_, rfl⟩⟩
          rw [List.map_cons, List.mem_cons]
          rintro (rfl | hmem)
          · exact h rfl
          · exact hnew hmem
        · exact .inr ⟨rfl, .inr ⟨zs', List.mem_cons_of_mem _ hold, rfl⟩⟩

/-- **The bins hold the whole list.** -/
theorem groupBy_flatten (key : α → κ) (xs : List α) : ((groupBy key xs).flatMap Prod.snd).Perm xs := by
  induction xs using List.reverseRecOn with
  | nil => exact List.Perm.refl _
  | append_singleton xs x ih =>
    rw [groupBy_snoc]
    exact (push_flatten _ _ _).trans (ih.append_right _)

theorem nodup_keys (key : α → κ) (xs : List α) : ((groupBy key xs).map Prod.fst).Nodup := by
  induction xs using List.reverseRecOn with
  | nil => simp [groupBy]
  | append_singleton xs x ih =>
    rw [groupBy_snoc]
    exact nodup_push_keys ih

theorem mem_keys {key : α → κ} {xs : List α} {k : κ} :
    k ∈ (groupBy key xs).map Prod.fst ↔ ∃ x ∈ xs, key x = k := by
  induction xs using List.reverseRecOn with
  | nil => simp [groupBy]
  | append_singleton xs x ih =>
    rw [groupBy_snoc, mem_push_keys, ih]
    simp only [List.mem_append, List.mem_singleton]
    grind

/-- A bin is the part of the list that has its key, in the order of the list. -/
theorem groupBy_bin {key : α → κ} {xs : List α} {k : κ} {ys : List α} (h : (k, ys) ∈ groupBy key xs) :
    ys = xs.filter fun x => key x = k := by
  induction xs using List.reverseRecOn generalizing ys with
  | nil => simp [groupBy] at h
  | append_singleton xs x ih =>
    rw [groupBy_snoc] at h
    rw [List.filter_append]
    rcases mem_push (nodup_keys key xs) h with ⟨hne, hold⟩ | ⟨rfl, ⟨hnew, rfl⟩ | ⟨zs, hold, rfl⟩⟩
    · rw [ih hold, List.filter_singleton, decide_eq_false (Ne.symm hne)]
      simp
    · have hnone : xs.filter (fun y => key y = key x) = [] := by
        rw [List.filter_eq_nil_iff]
        intro y hy hkey
        exact hnew (mem_keys.2 ⟨y, hy, by simpa using hkey⟩)
      rw [hnone]
      simp
    · rw [ih hold]
      simp

theorem groupBy_ne_nil {key : α → κ} {xs : List α} {k : κ} {ys : List α} (h : (k, ys) ∈ groupBy key xs) :
    ys ≠ [] := by
  obtain ⟨x, hx, hkey⟩ := mem_keys.1 (List.mem_map.2 ⟨_, h, rfl⟩)
  rw [groupBy_bin h]
  exact List.ne_nil_of_mem (List.mem_filter.2 ⟨hx, by simpa using hkey⟩)

/-- The dictionary is its keys, each with its part of the list. -/
theorem groupBy_eq (key : α → κ) (xs : List α) :
    groupBy key xs =
      ((groupBy key xs).map Prod.fst).map fun k => (k, xs.filter fun x => key x = k) := by
  rw [List.map_map]
  conv_lhs => rw [← List.map_id (groupBy key xs)]
  refine List.map_congr_left fun g hg => ?_
  rw [id, Function.comp, ← groupBy_bin (k := g.1) hg]

theorem keys_perm {key : α → κ} {xs ys : List α} (h : xs.Perm ys) :
    ((groupBy key xs).map Prod.fst).Perm ((groupBy key ys).map Prod.fst) := by
  refine (List.perm_ext_iff_of_nodup (nodup_keys key xs) (nodup_keys key ys)).2 fun k => ?_
  simp only [mem_keys, h.mem_iff]

/-- A function of the bins that does not see the order inside a bin gives a permutation. -/
theorem groupBy_map_perm {key : α → κ} {xs ys : List α} (h : xs.Perm ys) (f : κ → List α → β)
    (hf : ∀ k {us vs : List α}, us.Sublist xs → us.Perm vs → f k us = f k vs) :
    ((groupBy key xs).map fun g => f g.1 g.2).Perm ((groupBy key ys).map fun g => f g.1 g.2) := by
  have hbins : ((groupBy key ys).map fun g => f g.1 g.2) =
      ((groupBy key ys).map Prod.fst).map fun k => f k (xs.filter fun x => key x = k) := by
    conv_lhs => rw [groupBy_eq]
    simp only [List.map_map]
    refine List.map_congr_left fun g _ => ?_
    exact (hf _ List.filter_sublist (h.filter _)).symm
  rw [hbins]
  conv_lhs => rw [groupBy_eq, List.map_map]
  exact (keys_perm h).map _

/-! ## Assignment in a dictionary -/

/-- `d[k] = v`: in place when the key is there, at the end when it is new. -/
def assign (k : κ) (v : β) : List (κ × β) → List (κ × β)
  | [] => [(k, v)]
  | e :: rest => if e.1 = k then (k, v) :: rest else e :: assign k v rest

def dictOf (entries : List (κ × β)) : List (κ × β) :=
  entries.foldl (fun d e => assign e.1 e.2 d) []

attribute [local grind] assign

theorem assign_of_not_mem {k : κ} {v : β} {d : List (κ × β)} (h : k ∉ d.map Prod.fst) :
    assign k v d = d ++ [(k, v)] := by
  induction d with
  | nil => rfl
  | cons e rest ih =>
    rw [List.map_cons, List.mem_cons, not_or] at h
    rw [assign, if_neg (Ne.symm h.1), ih h.2, List.cons_append]

theorem dictOf_of_nodup {entries : List (κ × β)} (h : (entries.map Prod.fst).Nodup) :
    dictOf entries = entries := by
  induction entries using List.reverseRecOn with
  | nil => rfl
  | append_singleton es e ih =>
    rw [List.map_append, List.map_singleton, List.nodup_append] at h
    have hnew : e.1 ∉ es.map Prod.fst := fun hmem => h.2.2 _ hmem _ (List.mem_singleton.2 rfl) rfl
    rw [dictOf, List.foldl_append, List.foldl_cons, List.foldl_nil]
    rw [dictOf] at ih
    rw [ih h.1, assign_of_not_mem hnew]

theorem mem_of_mem_assign {k : κ} {v : β} {d : List (κ × β)} {e : κ × β} (h : e ∈ assign k v d) : e = (k, v) ∨ e ∈ d := by
  induction d with
  | nil => exact .inl (List.mem_singleton.1 h)
  | cons e' rest ih =>
    rw [assign] at h
    by_cases hk : e'.1 = k
    · rw [if_pos hk, List.mem_cons] at h
      exact h.imp_right (List.mem_cons_of_mem e')
    · rw [if_neg hk, List.mem_cons] at h
      rcases h with rfl | h
      · exact .inr List.mem_cons_self
      · exact (ih h).imp_right (List.mem_cons_of_mem e')

theorem keys_assign {k : κ} {v : β} {d : List (κ × β)} (h : k ∈ d.map Prod.fst) :
    (assign k v d).map Prod.fst = d.map Prod.fst := by
  induction d with
  | nil => cases h
  | cons e rest ih =>
    rw [assign]
    by_cases hk : e.1 = k
    · rw [if_pos hk, List.map_cons, List.map_cons, hk]
    · rw [List.map_cons, List.mem_cons] at h
      rw [if_neg hk, List.map_cons, List.map_cons, ih (h.resolve_left (Ne.symm hk))]

theorem nodup_assign {k : κ} {v : β} {d : List (κ × β)} (h : (d.map Prod.fst).Nodup) :
    ((assign k v d).map Prod.fst).Nodup := by
  by_cases hk : k ∈ d.map Prod.fst
  · rwa [keys_assign hk]
  · rw [assign_of_not_mem hk, List.map_append, List.map_singleton]
    exact List.Nodup.append h (List.nodup_singleton k) (List.disjoint_singleton.2 hk)

theorem nodup_dictOf (entries : List (κ × β)) : ((dictOf entries).map Prod.fst).Nodup := by
  induction entries using List.reverseRecOn with
  | nil => exact List.nodup_nil
  | append_singleton es e ih =>
    rw [dictOf, List.foldl_append, List.foldl_cons, List.foldl_nil]
    exact nodup_assign ih

theorem mem_of_mem_dictOf {entries : List (κ × β)} {e : κ × β} (h : e ∈ dictOf entries) : e ∈ entries := by
  induction entries using List.reverseRecOn with
  | nil => exact h
  | append_singleton es e' ih =>
    rw [dictOf, List.foldl_append, List.foldl_cons, List.foldl_nil] at h
    rw [List.mem_append, List.mem_singleton]
    rcases mem_of_mem_assign h with rfl | h
    · exact .inr rfl
    · exact .inl (ih h)

/-! ## Greedy windows -/

/-- A run of elements; the first one is its anchor. -/
structure Run (α : Type) where
  anchor : α
  later : List α
deriving DecidableEq

namespace Run

def members (r : Run α) : List α := r.anchor :: r.later

def add (r : Run α) (x : α) : Run α := { r with later := r.later ++ [x] }

@[simp] theorem members_add (r : Run α) (x : α) : (r.add x).members = r.members ++ [x] := rfl

@[simp] theorem members_single (x : α) : (Run.mk x []).members = [x] := rfl

end Run

/-- The loop: the open run, and the elements still to come. -/
def sweep (joins : α → α → Bool) (r : Run α) : List α → List (Run α)
  | [] => [r]
  | x :: xs => if joins r.anchor x then sweep joins (r.add x) xs else r :: sweep joins ⟨x, []⟩ xs

def windows (joins : α → α → Bool) : List α → List (Run α)
  | [] => []
  | x :: xs => sweep joins ⟨x, []⟩ xs

attribute [local grind] sweep

theorem sweep_members (joins : α → α → Bool) (xs : List α) (r : Run α) :
    (sweep joins r xs).flatMap Run.members = r.members ++ xs := by
  induction xs generalizing r with
  | nil => simp [sweep]
  | cons x xs ih =>
    unfold sweep
    by_cases h : joins r.anchor x
    · rw [if_pos h, ih, Run.members_add, List.append_assoc, List.singleton_append]
    · rw [if_neg h, List.flatMap_cons, ih, Run.members_single, List.singleton_append]

/-- **The runs, in order, are the list.** -/
theorem windows_members (joins : α → α → Bool) :
    ∀ xs : List α, (windows joins xs).flatMap Run.members = xs
  | [] => rfl
  | x :: xs => sweep_members joins xs ⟨x, []⟩

/-- In a sorted list the later elements of a run come after its anchor and join it. -/
theorem sweep_later {R : α → α → Prop} {joins : α → α → Bool} {xs : List α} {r s : Run α} (hxs : xs.Pairwise R)
    (hfirst : ∀ x ∈ xs, R r.anchor x) (hlater : ∀ y ∈ r.later, R r.anchor y ∧ joins r.anchor y = true)
    (hs : s ∈ sweep joins r xs) : ∀ y ∈ s.later, R s.anchor y ∧ joins s.anchor y = true := by
  induction xs generalizing r with
  | nil => exact List.mem_singleton.1 hs ▸ hlater
  | cons x xs ih =>
    obtain ⟨hx, hrest⟩ := List.pairwise_cons.1 hxs
    unfold sweep at hs
    by_cases hjoin : joins r.anchor x = true
    · rw [if_pos hjoin] at hs
      have hadded : ∀ y ∈ (r.add x).later, R r.anchor y ∧ joins r.anchor y = true := fun y hy => by
        rcases List.mem_append.1 hy with hy | hy
        · exact hlater y hy
        · exact List.mem_singleton.1 hy ▸ ⟨hfirst x List.mem_cons_self, hjoin⟩
      have hnext : ∀ z ∈ xs, R (r.add x).anchor z := fun z hz => hfirst z (List.mem_cons_of_mem _ hz)
      exact ih hrest hnext hadded hs
    · rw [if_neg hjoin] at hs
      rcases List.mem_cons.1 hs with rfl | hs
      · exact hlater
      · exact ih hrest hx (by simp) hs

theorem windows_later {R : α → α → Prop} {joins : α → α → Bool} {xs : List α} {r : Run α} (hxs : xs.Pairwise R)
    (hr : r ∈ windows joins xs) : ∀ y ∈ r.later, R r.anchor y ∧ joins r.anchor y = true := by
  cases xs with
  | nil => cases hr
  | cons x xs =>
    obtain ⟨hx, hrest⟩ := List.pairwise_cons.1 hxs
    exact sweep_later hrest hx (by simp) hr

theorem mem_of_mem_windows {joins : α → α → Bool} {xs : List α} {r : Run α} (hr : r ∈ windows joins xs) :
    ∀ y ∈ r.members, y ∈ xs := fun _ hy =>
  windows_members joins xs ▸ List.mem_flatMap.2 ⟨r, hr, hy⟩

/-- In a sorted list, where an element that joins an anchor lets everything before it join, no anchor joins
an earlier one. -/
theorem sweep_apart {R : α → α → Prop} {joins : α → α → Bool}
    (hjoins : ∀ a b c, R b c → joins a c = true → joins a b = true) {xs : List α} (hxs : xs.Pairwise R) (r : Run α) :
    (sweep joins r xs).Pairwise fun s t => joins s.anchor t.anchor = false := by
  induction xs generalizing r with
  | nil => exact List.pairwise_singleton _ _
  | cons x xs ih =>
    obtain ⟨hx, hrest⟩ := List.pairwise_cons.1 hxs
    unfold sweep
    by_cases hjoin : joins r.anchor x = true
    · rw [if_pos hjoin]
      exact ih hrest (r.add x)
    · rw [if_neg hjoin]
      refine List.pairwise_cons.2 ⟨fun t ht => ?_, ih hrest ⟨x, []⟩⟩
      have hwindow : t ∈ windows joins (x :: xs) := ht
      have hanchor := mem_of_mem_windows hwindow t.anchor List.mem_cons_self
      rcases List.mem_cons.1 hanchor with heq | hmem
      · rw [heq]
        exact Bool.not_eq_true _ ▸ hjoin
      · exact Bool.not_eq_true _ ▸ fun h => hjoin (hjoins _ _ _ (hx _ hmem) h)

theorem windows_apart {R : α → α → Prop} {joins : α → α → Bool}
    (hjoins : ∀ a b c, R b c → joins a c = true → joins a b = true) {xs : List α} (hxs : xs.Pairwise R) :
    (windows joins xs).Pairwise fun s t => joins s.anchor t.anchor = false := by
  cases xs with
  | nil => exact List.Pairwise.nil
  | cons x xs => exact sweep_apart hjoins (List.pairwise_cons.1 hxs).2 ⟨x, []⟩

/-! ## Sorting by a pair of keys -/

section
variable {φ γ : Type} [LinearOrder φ] [LinearOrder γ]

/-- The order of the pairs `(f x, g x)`. -/
def lexLe (f : α → φ) (g : α → γ) (a b : α) : Prop := f a < f b ∨ f a = f b ∧ g a ≤ g b

instance (f : α → φ) (g : α → γ) : DecidableRel (lexLe f g) := fun _ _ => inferInstanceAs (Decidable (_ ∨ _))

instance (f : α → φ) (g : α → γ) : Std.Total (lexLe f g) where
  total a b := by
    unfold lexLe
    rcases lt_trichotomy (f a) (f b) with h | h | h
    · exact .inl (.inl h)
    · rcases le_total (g a) (g b) with h' | h'
      · exact .inl (.inr ⟨h, h'⟩)
      · exact .inr (.inr ⟨h.symm, h'⟩)
    · exact .inr (.inl h)

instance (f : α → φ) (g : α → γ) : IsTrans α (lexLe f g) where
  trans a b c hab hbc := by
    unfold lexLe at *
    rcases hab with h | ⟨h, h'⟩ <;> rcases hbc with k | ⟨k, k'⟩
    · exact .inl (h.trans k)
    · exact .inl (k ▸ h)
    · exact .inl (h ▸ k)
    · exact .inr ⟨h.trans k, h'.trans k'⟩

theorem lexLe_antisymm {f : α → φ} {g : α → γ} {a b : α} (hab : lexLe f g a b) (hba : lexLe f g b a) :
    g a = g b := by
  rcases hab with h | ⟨h, h'⟩ <;> rcases hba with k | ⟨k, k'⟩
  · exact absurd (h.trans k) (lt_irrefl _)
  · exact absurd h (k ▸ lt_irrefl _)
  · exact absurd k (h ▸ lt_irrefl _)
  · exact le_antisymm h' k'

/-- Elements that the second key tells apart have one sorted order. -/
theorem insertionSort_eq_of_perm {f : α → φ} {g : α → γ} {xs ys : List α} (hperm : xs.Perm ys)
    (hinj : ∀ a ∈ xs, ∀ b ∈ xs, g a = g b → a = b) :
    xs.insertionSort (lexLe f g) = ys.insertionSort (lexLe f g) := by
  have hxs := List.perm_insertionSort (lexLe f g) xs
  have hys := List.perm_insertionSort (lexLe f g) ys
  refine List.Perm.eq_of_pairwise ?_ (List.pairwise_insertionSort _ xs) (List.pairwise_insertionSort _ ys)
    (hxs.trans (hperm.trans hys.symm))
  intro a b ha hb hab hba
  exact hinj a (hxs.mem_iff.1 ha) b (hperm.mem_iff.2 (hys.mem_iff.1 hb)) (lexLe_antisymm hab hba)

end

/-! ## Lists side by side, sums over classes -/

theorem map_eq_of_forall₂ {γ : Type} {R : α → β → Prop} {f : α → γ} {f' : β → γ} {xs : List α} {ys : List β}
    (h : List.Forall₂ R xs ys) (hf : ∀ a b, R a b → f a = f' b) : xs.map f = ys.map f' := by
  induction h with
  | nil => rfl
  | cons hab _ ih => rw [List.map_cons, List.map_cons, hf _ _ hab, ih]

theorem exists_of_forall₂ {R : α → β → Prop} {xs : List α} {ys : List β} (h : List.Forall₂ R xs ys) {y : β}
    (hy : y ∈ ys) : ∃ x ∈ xs, R x y := by
  induction h with
  | nil => cases hy
  | cons hab _ ih =>
    rcases List.mem_cons.1 hy with rfl | hy
    · exact ⟨_, List.mem_cons_self, hab⟩
    · obtain ⟨x, hx, hxy⟩ := ih hy
      exact ⟨x, List.mem_cons_of_mem _ hx, hxy⟩

/-- The weights of the elements of some classes, class by class. -/
theorem sum_classes (key : α → κ) (weight : α → Nat) (classes : List κ) (hnodup : classes.Nodup) (xs : List α) :
    (classes.map fun c => ((xs.filter (key · = c)).map weight).sum).sum =
      ((xs.filter (key · ∈ classes)).map weight).sum := by
  induction classes with
  | nil => simp
  | cons c cs ih =>
    obtain ⟨hc, hcs⟩ := List.nodup_cons.1 hnodup
    rw [List.map_cons, List.sum_cons, ih hcs]
    clear ih
    induction xs with
    | nil => rfl
    | cons x xs ih =>
      by_cases hx : key x = c
      · have hnot : key x ∉ cs := hx ▸ hc
        simp only [List.filter_cons, hx, List.mem_cons_self, decide_true, if_true, List.map_cons, List.sum_cons] at ih ⊢
        rw [← ih, if_neg (by simpa [← hx] using hnot)]
        omega
      · by_cases hmem : key x ∈ cs
        · simp only [List.filter_cons, List.mem_cons, hx, hmem, false_or, decide_true, decide_false, if_true,
            Bool.false_eq_true, if_false, List.map_cons, List.sum_cons] at ih ⊢
          omega
        · simp only [List.filter_cons, List.mem_cons, hx, hmem, or_self, decide_false, Bool.false_eq_true,
            if_false] at ih ⊢
          exact ih

end Grouping
