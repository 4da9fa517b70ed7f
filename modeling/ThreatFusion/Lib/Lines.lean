import ThreatFusion.Lib.Delimited
/-
# The lines of a stream

* `lines sep xs`: the parts of `xs` that a separator ends, without it.
* `unfinished sep xs`: what stands after the last separator.

A reader that keeps what is unfinished and puts the next piece behind it finds the lines of the whole
stream, wherever the pieces are cut (`lines_append`, `unfinished_append`).
-/
namespace Lines

variable {α : Type} [DecidableEq α]

def lines (sep : α) : List α → List (List α)
  | [] => []
  | x :: xs => if x = sep then [] :: lines sep xs else (lines sep xs).modifyHead (x :: ·)

def unfinished (sep : α) : List α → List α
  | [] => []
  | x :: xs => if sep ∈ x :: xs then unfinished sep xs else x :: xs

variable {sep x : α} {xs ys a b l : List α}

attribute [local grind] lines unfinished

@[simp] theorem lines_nil : lines sep [] = [] := rfl

@[simp] theorem lines_cons_self : lines sep (sep :: xs) = [] :: lines sep xs := if_pos rfl

theorem lines_cons_of_ne (h : x ≠ sep) : lines sep (x :: xs) = (lines sep xs).modifyHead (x :: ·) := if_neg h

theorem unfinished_of_not_mem (h : sep ∉ xs) : unfinished sep xs = xs := by
  cases xs with
  | nil => rfl
  | cons x xs => exact if_neg h

theorem not_mem_unfinished : sep ∉ unfinished sep xs := by
  induction xs with
  | nil => simp [unfinished]
  | cons x xs ih =>
    unfold unfinished
    split_ifs with h
    · exact ih
    · exact h

@[simp] theorem length_lines : (lines sep xs).length = xs.count sep := by
  induction xs with
  | nil => rfl
  | cons x xs ih =>
    by_cases h : x = sep
    · subst h
      simp [ih]
    · rw [lines_cons_of_ne h, List.length_modifyHead, ih, List.count_cons_of_ne h]

theorem lines_eq_nil_iff : lines sep xs = [] ↔ sep ∉ xs := by
  rw [← List.length_eq_zero_iff, length_lines, List.count_eq_zero]

theorem lines_of_not_mem (h : sep ∉ xs) : lines sep xs = [] := lines_eq_nil_iff.mpr h

/-- Items before the first separator go to the front of the first line. -/
theorem lines_append_of_not_mem (h : sep ∉ a) : lines sep (a ++ xs) = (lines sep xs).modifyHead (a ++ ·) := by
  induction a with
  | nil => cases h' : lines sep xs <;> simp [h']
  | cons x a ih =>
    rw [List.mem_cons, not_or] at h
    rw [List.cons_append, lines_cons_of_ne (Ne.symm h.1), ih h.2]
    cases lines sep xs <;> rfl

theorem lines_first (h : sep ∉ a) : lines sep (a ++ sep :: xs) = a :: lines sep xs := by
  rw [lines_append_of_not_mem h, lines_cons_self]
  simp

theorem unfinished_first : unfinished sep (a ++ sep :: xs) = unfinished sep xs := by
  induction a with
  | nil => exact if_pos (List.mem_cons_self ..)
  | cons x a ih =>
    rw [← ih]
    exact if_pos (by simp)

/-- What is cut off later is a line of what was unfinished and of what came then. -/
theorem lines_append (xs ys : List α) : lines sep (xs ++ ys) = lines sep xs ++ lines sep (unfinished sep xs ++ ys) := by
  induction xs with
  | nil => rfl
  | cons x xs ih =>
    by_cases hmem : sep ∈ x :: xs
    · have hrest : unfinished sep (x :: xs) = unfinished sep xs := if_pos hmem
      rw [hrest, List.cons_append]
      by_cases h : x = sep
      · subst h
        rw [lines_cons_self, lines_cons_self, ih]
        rfl
      · have hxs : lines sep xs ≠ [] := by
          rw [Ne, lines_eq_nil_iff, not_not]
          exact List.mem_of_ne_of_mem (Ne.symm h) hmem
        rw [lines_cons_of_ne h, lines_cons_of_ne h, ih]
        cases hl : lines sep xs with
        | nil => exact absurd hl hxs
        | cons l ls => rfl
    · rw [lines_of_not_mem hmem, unfinished_of_not_mem hmem]
      rfl

theorem unfinished_append (xs ys : List α) :
    unfinished sep (xs ++ ys) = unfinished sep (unfinished sep xs ++ ys) := by
  induction xs with
  | nil => rfl
  | cons x xs ih =>
    by_cases hmem : sep ∈ x :: xs
    · have hrest : unfinished sep (x :: xs) = unfinished sep xs := if_pos hmem
      have hwhole : unfinished sep (x :: xs ++ ys) = unfinished sep (xs ++ ys) :=
        if_pos (List.mem_append_left ys hmem)
      rw [hrest, hwhole, ih]
    · rw [unfinished_of_not_mem hmem]

/-- An item with a separator somewhere behind it is in a line. -/
theorem exists_mem_lines (hx : x ≠ sep) (hsep : sep ∈ b) : ∃ l ∈ lines sep (a ++ x :: b), x ∈ l := by
  induction a with
  | nil =>
    have hb : lines sep b ≠ [] := by rwa [Ne, lines_eq_nil_iff, not_not]
    obtain ⟨l, ls, hl⟩ := List.exists_cons_of_ne_nil hb
    refine ⟨x :: l, ?_, List.mem_cons_self ..⟩
    rw [List.nil_append, lines_cons_of_ne hx, hl]
    exact List.mem_cons_self ..
  | cons y a ih =>
    obtain ⟨l, hl, hxl⟩ := ih
    rw [List.cons_append]
    by_cases hy : y = sep
    · subst hy
      rw [lines_cons_self]
      exact ⟨l, List.mem_cons_of_mem _ hl, hxl⟩
    · rw [lines_cons_of_ne hy]
      cases hlines : lines sep (a ++ x :: b) with
      | nil =>
        rw [hlines] at hl
        cases hl
      | cons first rest =>
        rw [hlines] at hl
        rcases List.mem_cons.mp hl with rfl | hl
        · exact ⟨y :: l, List.mem_cons_self .., List.mem_cons_of_mem _ hxl⟩
        · exact ⟨l, List.mem_cons_of_mem _ hl, hxl⟩

theorem mem_of_mem_lines (hl : l ∈ lines sep xs) (hx : x ∈ l) : x ∈ xs := by
  induction xs generalizing l with
  | nil => cases hl
  | cons y ys ih =>
    by_cases h : y = sep
    · subst h
      rw [lines_cons_self] at hl
      rcases List.mem_cons.mp hl with rfl | hl
      · cases hx
      · exact List.mem_cons_of_mem _ (ih hl hx)
    · rw [lines_cons_of_ne h] at hl
      cases hlines : lines sep ys with
      | nil =>
        rw [hlines] at hl
        cases hl
      | cons first rest =>
        rw [hlines] at hl ih
        rcases List.mem_cons.mp hl with rfl | hl
        · rcases List.mem_cons.mp hx with rfl | hx
          · exact List.mem_cons_self ..
          · exact List.mem_cons_of_mem _ (ih (List.mem_cons_self ..) hx)
        · exact List.mem_cons_of_mem _ (ih (List.mem_cons_of_mem _ hl) hx)

end Lines
