import Mathlib.Init
/-
# What a `do` block over `Except` did

* `bind_eq_ok`: a block that succeeded went through each of its calls.
* `ok_bind`, `error_bind`: the next call, or the end.
* `Ends P E x`: a value is in `P`, an exception in `E`. The rules follow the block.
-/
namespace Except

variable {ε α β : Type}

@[simp] theorem ok_bind (a : α) (f : α → Except ε β) : ((.ok a : Except ε α) >>= f) = f a := rfl

@[simp] theorem error_bind (e : ε) (f : α → Except ε β) : ((.error e : Except ε α) >>= f) = .error e := rfl

theorem bind_eq_ok {x : Except ε α} {f : α → Except ε β} {b : β} :
    (x >>= f) = .ok b ↔ ∃ a, x = .ok a ∧ f a = .ok b := by
  cases x with
  | error e => simp
  | ok a => simp

/-- A value is in `P`, an exception in `E`. -/
def Ends (P : α → Prop) (E : ε → Prop) : Except ε α → Prop
  | .ok a => P a
  | .error e => E e

variable {P Q : α → Prop} {E F : ε → Prop} {x : Except ε α}

theorem ends_iff : x.Ends P E ↔ (∀ a, x = .ok a → P a) ∧ ∀ e, x = .error e → E e := by
  cases x with
  | error e => simp [Ends]
  | ok a => simp [Ends]

theorem Ends.mono (h : x.Ends P E) (hPQ : ∀ a, P a → Q a) (hEF : ∀ e, E e → F e) : x.Ends Q F := by
  cases x with
  | error e => exact hEF e h
  | ok a => exact hPQ a h

theorem Ends.bind {R : β → Prop} {f : α → Except ε β} (h : x.Ends P E) (hEF : ∀ e, E e → F e)
    (hf : ∀ a, P a → (f a).Ends R F) : (x >>= f).Ends R F := by
  cases x with
  | error e => exact hEF e h
  | ok a => exact hf a h

/-- A check of the block: it raises, or the block goes on. -/
theorem Ends.ite {c : Prop} [Decidable c] {e : ε} (he : E e) (h : ¬ c → x.Ends P E) :
    (if c then .error e else x).Ends P E := by
  by_cases hc : c
  · rw [if_pos hc]
    exact he
  · rw [if_neg hc]
    exact h hc

end Except
