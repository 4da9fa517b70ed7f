import Mathlib.Data.List.Infix
/-
# Cutting a list at a separator

* `cut sep xs`: before and after the first `sep` (`bytes.split(sep, 1)`).
* `split sep xs`: the parts between all the separators (`bytes.split(sep)`), and `joined`, its inverse.

A part without the first item of the separator is found whole (`cut_first`, `split_joined`), and a
doubled separator is found where the first empty part stands (`cut_doubled`).
-/
namespace Delimited

variable {α : Type}

/-- The parts `first :: rest` with `sep` between them. -/
def joined (sep first : List α) (rest : List (List α)) : List α := first ++ rest.flatMap (sep ++ ·)

@[simp] theorem joined_nil (sep first : List α) : joined sep first [] = first := by simp [joined]

theorem joined_cons (sep first p : List α) (rest : List (List α)) :
    joined sep first (p :: rest) = first ++ sep ++ joined sep p rest := by
  simp [joined]

/-- The parts each followed by a separator. -/
theorem joined_terminated (sep first : List α) (rest : List (List α)) :
    joined sep first rest ++ sep = (first :: rest).flatMap (· ++ sep) := by
  induction rest generalizing first with
  | nil => simp
  | cons p rest ih => rw [joined_cons, List.append_assoc, ih, @List.flatMap_cons _ _ first]

variable [DecidableEq α]

/-- What stands before the first `sep` and what stands after it; `none` when there is no `sep`. -/
def cut (sep : List α) : List α → Option (List α × List α)
  | [] => if sep.isEmpty then some ([], []) else none
  | x :: xs =>
    if sep.isPrefixOf (x :: xs) then some ([], (x :: xs).drop sep.length)
    else (cut sep xs).map fun p => (x :: p.1, p.2)

def splitGo (sep : List α) : Nat → List α → List (List α)
  | 0, xs => [xs]
  | n + 1, xs => match cut sep xs with
    | none => [xs]
    | some (a, b) => a :: splitGo sep n b

/-- The parts between the separators. -/
def split (sep xs : List α) : List (List α) := splitGo sep xs.length xs

/-! ## The first separator -/

section Cut

variable {sep xs a b : List α}

attribute [local grind] cut splitGo

theorem cut_eq (h : cut sep xs = some (a, b)) : xs = a ++ sep ++ b := by
  induction xs generalizing a with
  | nil =>
    unfold cut at h
    split_ifs at h with he
    obtain ⟨rfl, rfl⟩ := Prod.mk.inj (Option.some.inj h)
    simp [List.isEmpty_iff.mp he]
  | cons x xs ih =>
    unfold cut at h
    split_ifs at h with hp
    · obtain ⟨rfl, rfl⟩ := Prod.mk.inj (Option.some.inj h)
      obtain ⟨t, ht⟩ := List.isPrefixOf_iff_prefix.mp hp
      rw [← ht, List.drop_left, List.nil_append]
    · obtain ⟨⟨a', b'⟩, hc, he⟩ := Option.map_eq_some_iff.mp h
      obtain ⟨rfl, rfl⟩ := Prod.mk.inj he
      rw [ih hc]
      rfl

theorem cut_isSome_iff : (cut sep xs).isSome ↔ sep <:+: xs := by
  induction xs with
  | nil =>
    unfold cut
    cases sep <;> simp
  | cons x xs ih =>
    unfold cut
    by_cases hp : sep.isPrefixOf (x :: xs)
    · rw [if_pos hp]
      simpa using (List.isPrefixOf_iff_prefix.mp hp).isInfix
    · rw [if_neg hp, Option.isSome_map, ih, List.infix_cons_iff]
      have : ¬ sep <+: x :: xs := fun h => hp (List.isPrefixOf_iff_prefix.mpr h)
      simp [this]

theorem cut_eq_none_iff : cut sep xs = none ↔ ¬ sep <:+: xs := by
  rw [← cut_isSome_iff, Option.not_isSome_iff_eq_none]

/-- What comes later does not move the first separator. -/
theorem cut_append (h : cut sep xs = some (a, b)) (ys : List α) : cut sep (xs ++ ys) = some (a, b ++ ys) := by
  induction xs generalizing a with
  | nil =>
    unfold cut at h
    split_ifs at h with he
    obtain ⟨rfl, rfl⟩ := Prod.mk.inj (Option.some.inj h)
    rw [List.isEmpty_iff.mp he]
    cases ys <;> simp [cut]
  | cons x xs ih =>
    unfold cut at h
    unfold cut
    split_ifs at h with hp
    · obtain ⟨rfl, rfl⟩ := Prod.mk.inj (Option.some.inj h)
      have hp := List.isPrefixOf_iff_prefix.mp hp
      have hlong := hp.trans (List.prefix_append (x :: xs) ys)
      rw [List.cons_append] at hlong ⊢
      simp only [List.isPrefixOf_iff_prefix.mpr hlong, if_true]
      rw [← List.cons_append, List.drop_append_of_le_length hp.length_le]
    · obtain ⟨⟨a', b'⟩, hc, he⟩ := Option.map_eq_some_iff.mp h
      obtain ⟨rfl, rfl⟩ := Prod.mk.inj he
      have hlen : sep.length ≤ xs.length := by
        rw [cut_eq hc]
        simp
        omega
      have hp' : ¬ sep.isPrefixOf (x :: (xs ++ ys)) := by
        intro h'
        apply hp
        rw [List.isPrefixOf_iff_prefix] at h' ⊢
        exact List.prefix_of_prefix_length_le h' (List.prefix_append (x :: xs) ys) (by simp; omega)
      rw [List.cons_append]
      simp only [hp', ih hc]
      rfl

variable {c : α} {t : List α}

/-- Items that are not the first of the separator are passed over. -/
theorem cut_skip (hc : c ∉ a) (xs : List α) :
    cut (c :: t) (a ++ xs) = (cut (c :: t) xs).map fun p => (a ++ p.1, p.2) := by
  induction a with
  | nil => simp
  | cons x a ih =>
    rw [List.mem_cons, not_or] at hc
    have hp : (c :: t).isPrefixOf (x :: (a ++ xs)) = false := by simp [List.isPrefixOf, hc.1]
    rw [List.cons_append, cut, hp, ih hc.2, Option.map_map]
    rfl

theorem cut_self (sep b : List α) : cut sep (sep ++ b) = some ([], b) := by
  cases h : sep ++ b with
  | nil =>
    obtain ⟨rfl, rfl⟩ := List.append_eq_nil_iff.mp h
    rfl
  | cons x xs =>
    have hp : sep.isPrefixOf (x :: xs) := List.isPrefixOf_iff_prefix.mpr ⟨b, h⟩
    rw [cut, if_pos hp, ← h, List.drop_left]

theorem cut_first (hc : c ∉ a) (b : List α) : cut (c :: t) (a ++ (c :: t) ++ b) = some (a, b) := by
  rw [List.append_assoc, cut_skip hc, cut_self]
  simp

/-- What stands before the first separator, when neither front has one. -/
theorem append_cons_inj {a' b b' : List α} (ha : c ∉ a) (ha' : c ∉ a') :
    a ++ c :: b = a' ++ c :: b' ↔ a = a' ∧ b = b' := by
  constructor
  · intro h
    have hcut := cut_first (t := []) ha b
    have hcut' := cut_first (t := []) ha' b'
    simp only [List.append_assoc, List.singleton_append] at hcut hcut'
    rw [h, hcut'] at hcut
    obtain ⟨rfl, rfl⟩ := Prod.mk.inj (Option.some.inj hcut)
    exact ⟨rfl, rfl⟩
  · rintro ⟨rfl, rfl⟩
    rfl

/-- What stands after the last one, when neither end has one. -/
theorem append_cons_inj_last {a' b b' : List α} (hb : c ∉ b) (hb' : c ∉ b') :
    a ++ c :: b = a' ++ c :: b' ↔ a = a' ∧ b = b' := by
  have hrev : ∀ x y : List α, (x ++ c :: y).reverse = y.reverse ++ c :: x.reverse := fun x y => by simp
  rw [← List.reverse_inj, hrev, hrev, append_cons_inj (by simpa using hb) (by simpa using hb'), List.reverse_inj,
    List.reverse_inj]
  exact and_comm

theorem cut_none_of_not_mem (hc : c ∉ xs) : cut (c :: t) xs = none := by
  rw [cut_eq_none_iff]
  exact fun h => hc (h.subset (List.mem_cons_self ..))

end Cut

/-! ## All the parts -/

section Split

variable {sep xs first : List α} {rest : List (List α)}

theorem joined_splitGo : ∀ {n : Nat} {xs first : List α} {rest : List (List α)},
    splitGo sep n xs = first :: rest → xs = joined sep first rest
  | 0, xs, first, rest, h => by
    obtain ⟨rfl, rfl⟩ := List.cons.inj h
    rw [joined_nil]
  | n + 1, xs, first, rest, h => by
    unfold splitGo at h
    cases hc : cut sep xs with
    | none =>
      rw [hc] at h
      obtain ⟨rfl, rfl⟩ := List.cons.inj h
      rw [joined_nil]
    | some p =>
      rw [hc] at h
      obtain ⟨rfl, hr⟩ := List.cons.inj h
      cases rest with
      | nil => cases n <;> simp [splitGo] at hr; split at hr <;> cases hr
      | cons q rest => rw [joined_cons, ← joined_splitGo hr, ← cut_eq hc]

/-- The parts, with the separator between them, are the list. -/
theorem joined_split (h : split sep xs = first :: rest) : xs = joined sep first rest := joined_splitGo h

theorem split_ne_nil (sep xs : List α) : split sep xs ≠ [] := by
  unfold split
  cases xs.length with
  | zero => simp [splitGo]
  | succ n => unfold splitGo; split <;> simp

variable {c : α} {t : List α}

theorem splitGo_joined : ∀ {rest : List (List α)} {n : Nat} {first : List α}, (∀ p ∈ first :: rest, c ∉ p) →
    (joined (c :: t) first rest).length ≤ n → splitGo (c :: t) n (joined (c :: t) first rest) = first :: rest
  | [], n, first, hc, _ => by
    have h : cut (c :: t) first = none := cut_none_of_not_mem (hc _ (List.mem_cons_self ..))
    cases n <;> simp [splitGo, h]
  | p :: rest, 0, first, _, hn => by simp [joined] at hn
  | p :: rest, n + 1, first, hc, hn => by
    rw [joined_cons] at hn ⊢
    have hp : ∀ q ∈ p :: rest, c ∉ q := fun q hq => hc q (List.mem_cons_of_mem _ hq)
    have hlen : (joined (c :: t) p rest).length ≤ n := by
      simp only [List.length_append, List.length_cons] at hn
      omega
    unfold splitGo
    rw [cut_first (hc first (List.mem_cons_self ..))]
    exact congrArg (first :: ·) (splitGo_joined hp hlen)

/-- Parts without the first item of the separator come back. -/
theorem split_joined (hc : ∀ p ∈ first :: rest, c ∉ p) :
    split (c :: t) (joined (c :: t) first rest) = first :: rest := splitGo_joined hc le_rfl

/-- The doubled separator stands after the last of the parts that are not empty. -/
theorem cut_doubled (ht : c ∉ t) (hc : ∀ p ∈ first :: rest, p ≠ [] ∧ c ∉ p) (b : List α) :
    cut ((c :: t) ++ (c :: t)) (joined (c :: t) first rest ++ ((c :: t) ++ (c :: t)) ++ b) =
      some (joined (c :: t) first rest, b) := by
  induction rest generalizing first with
  | nil =>
    rw [joined_nil]
    exact cut_first (hc first (List.mem_cons_self ..)).2 b
  | cons p rest ih =>
    have hp : ∀ q ∈ p :: rest, q ≠ [] ∧ c ∉ q := fun q hq => hc q (List.mem_cons_of_mem _ hq)
    obtain ⟨x, p', rfl⟩ := List.exists_cons_of_ne_nil (hp p (List.mem_cons_self ..)).1
    have hx : c ≠ x := fun h => (hp _ (List.mem_cons_self ..)).2 (h ▸ List.mem_cons_self ..)
    have hnot : (c :: (t ++ c :: t)).isPrefixOf
        (c :: (t ++ (joined (c :: t) (x :: p') rest ++ (c :: (t ++ c :: t)) ++ b))) = false := by
      rw [Bool.eq_false_iff, Ne, List.isPrefixOf_iff_prefix, List.cons_prefix_cons,
        List.prefix_append_right_inj]
      simp [joined, hx]
    have hrest := ih hp
    have hskip := cut_skip (t := t ++ c :: t) ht (joined (c :: t) (x :: p') rest ++ (c :: (t ++ c :: t)) ++ b)
    have hcut := cut_skip (t := t ++ c :: t) (hc first (List.mem_cons_self ..)).2
      (c :: (t ++ (joined (c :: t) (x :: p') rest ++ (c :: (t ++ c :: t)) ++ b)))
    rw [List.cons_append] at hrest
    rw [hrest] at hskip
    rw [cut, hnot, hskip] at hcut
    rw [joined_cons]
    simpa using hcut

end Split

end Delimited
