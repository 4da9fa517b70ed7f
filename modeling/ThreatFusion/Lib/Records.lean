import Mathlib.Data.List.Basic
/-
# A stream that comes in records

A reader asks for at most `n` items and gets some of the record at hand; never items of two
records at once. `Ahead s d`: the items up to some end of a record are `d`. A read inside `d`
keeps to `d` (`recv_ahead`), and what was read until a record was used up is such a `d`
(`ahead_recv`, `ahead_nil`).
-/
namespace Records

variable {α : Type}

/-- What is left of the record at hand, and the records after it. -/
structure Source (α : Type) where
  current : List α
  coming : List (List α)
  whole : ∀ r ∈ coming, r ≠ []

namespace Source

/-- Nothing of the stream was read. -/
def ofRecords (rs : List (List α)) (h : ∀ r ∈ rs, r ≠ []) : Source α := ⟨[], rs, h⟩

def left (s : Source α) : List α := s.current ++ s.coming.flatten

/-- The next record is at hand when the last one is used up. -/
def refill : Source α → Source α
  | ⟨[], r :: rs, h⟩ => ⟨r, rs, fun q hq => h q (List.mem_cons_of_mem _ hq)⟩
  | s => s

/-- At most `n` items of the record at hand; `none` at the end of the stream. -/
def recv (n : Nat) (s : Source α) : Option (List α × Source α) :=
  if s.refill.current.isEmpty then none
  else some (s.refill.current.take n, ⟨s.refill.current.drop n, s.refill.coming, s.refill.whole⟩)

/-- The stream up to some end of a record. -/
def Ahead (s : Source α) (d : List α) : Prop := ∃ k, d = s.current ++ (s.coming.take k).flatten

theorem ahead_ofRecords {rs : List (List α)} {h : ∀ r ∈ rs, r ≠ []} {d : List α} :
    (ofRecords rs h).Ahead d ↔ ∃ k, d = (rs.take k).flatten := Iff.rfl

@[simp] theorem left_refill (s : Source α) : s.refill.left = s.left := by
  rcases s with ⟨_ | ⟨c, cs⟩, _ | ⟨r, rs⟩, h⟩ <;> simp [refill, left]

theorem refill_eq_nil {s : Source α} (h : s.refill.current = []) : s.current = [] ∧ s.coming = [] := by
  rcases s with ⟨_ | ⟨c, cs⟩, _ | ⟨r, rs⟩, hw⟩
  · exact ⟨rfl, rfl⟩
  · exact absurd h (hw r (List.mem_cons_self ..))
  · cases h
  · cases h

theorem Ahead.refill {s : Source α} {d : List α} (h : s.Ahead d) (hd : d ≠ []) : s.refill.Ahead d := by
  obtain ⟨k, rfl⟩ := h
  rcases s with ⟨_ | ⟨c, cs⟩, _ | ⟨r, rs⟩, hw⟩
  · exact ⟨k, rfl⟩
  · cases k with
    | zero => simp at hd
    | succ k => exact ⟨k, by simp [Source.refill]⟩
  · exact ⟨k, rfl⟩
  · exact ⟨k, rfl⟩

theorem Ahead.of_refill {s : Source α} {d : List α} (h : s.refill.Ahead d) : s.Ahead d := by
  obtain ⟨k, rfl⟩ := h
  rcases s with ⟨_ | ⟨c, cs⟩, _ | ⟨r, rs⟩, hw⟩
  · exact ⟨k, rfl⟩
  · exact ⟨k + 1, by simp [Source.refill]⟩
  · exact ⟨k, rfl⟩
  · exact ⟨k, rfl⟩

variable {n : Nat} {s s' : Source α} {c d : List α}

theorem recv_eq_none (h : s.recv n = none) : s.left = [] := by
  unfold recv at h
  split_ifs at h with he
  obtain ⟨hc, hr⟩ := refill_eq_nil (List.isEmpty_iff.mp he)
  simp [left, hc, hr]

theorem recv_left (h : s.recv n = some (c, s')) : s.left = c ++ s'.left := by
  unfold recv at h
  split_ifs at h
  obtain ⟨rfl, rfl⟩ := Prod.mk.inj (Option.some.inj h)
  rw [← left_refill, left, left, ← List.append_assoc, List.take_append_drop]

theorem recv_length (h : s.recv n = some (c, s')) : c.length ≤ n := by
  unfold recv at h
  split_ifs at h
  obtain ⟨rfl, rfl⟩ := Prod.mk.inj (Option.some.inj h)
  exact List.length_take_le ..

theorem recv_ne_nil (hn : 0 < n) (h : s.recv n = some (c, s')) : c ≠ [] := by
  unfold recv at h
  split_ifs at h with he
  obtain ⟨rfl, rfl⟩ := Prod.mk.inj (Option.some.inj h)
  rw [Ne, List.take_eq_nil_iff, not_or]
  exact ⟨by omega, fun h => he (List.isEmpty_iff.mpr h)⟩

/-- Something was read, and there is less to come. -/
theorem recv_lt (hn : 0 < n) (h : s.recv n = some (c, s')) : s'.left.length < s.left.length := by
  have hc := List.length_pos_of_ne_nil (recv_ne_nil hn h)
  rw [recv_left h, List.length_append]
  omega

/-- Before the end of a record a read gets some of what is ahead, and no more. -/
theorem recv_ahead (h : s.Ahead d) (hd : d ≠ []) : ∃ c s' d', s.recv n = some (c, s') ∧ d = c ++ d' ∧ s'.Ahead d' := by
  have hr := h.refill hd
  have hne : s.refill.current ≠ [] := by
    intro he
    obtain ⟨hc, hcom⟩ := refill_eq_nil he
    obtain ⟨k, rfl⟩ := h
    simp [hc, hcom] at hd
  obtain ⟨k, rfl⟩ := hr
  refine ⟨_, _, s.refill.current.drop n ++ (s.refill.coming.take k).flatten, if_neg ?_, ?_, k, rfl⟩
  · simpa using hne
  · rw [← List.append_assoc, List.take_append_drop]

/-- What is ahead after a read was ahead before it. -/
theorem ahead_recv (h : s.recv n = some (c, s')) (hd : s'.Ahead d) : s.Ahead (c ++ d) := by
  unfold recv at h
  split_ifs at h
  obtain ⟨rfl, rfl⟩ := Prod.mk.inj (Option.some.inj h)
  obtain ⟨k, rfl⟩ := hd
  apply Ahead.of_refill
  exact ⟨k, by rw [← List.append_assoc, List.take_append_drop]⟩

theorem ahead_nil (h : s.current = []) : s.Ahead [] := ⟨0, by simp [h]⟩

/-- A stream read to the end of a record has nothing of the record at hand. -/
theorem ahead_nil_iff : s.Ahead [] ↔ s.current = [] := by
  refine ⟨?_, ahead_nil⟩
  rintro ⟨k, hk⟩
  exact (List.append_eq_nil_iff.mp hk.symm).1

end Source

end Records
