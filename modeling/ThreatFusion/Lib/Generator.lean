import Mathlib.Data.List.Basic
/-
# Generators

A generator is what its consumer can see of it: the values that it yields, one after another, and then
what it returns or raises.

* `items`, `result`: the values, and how it ends.
* `bind`: all of one generator (`yield from`), then the next. `bind_ok` and `bind_error` say what it yields.
* `enumMap`: a call for each value, with its number; it ends at the first call that raises.
* `prepend`: values in front, so `g = prepend taken rest` says that `taken` was taken from `g`.
-/

inductive Generator (ε α ρ : Type) where
  | ended (r : ρ)
  | raised (e : ε)
  | yielded (a : α) (rest : Generator ε α ρ)

namespace Generator

variable {ε α β ρ σ : Type}

def items : Generator ε α ρ → List α
  | .ended _ => []
  | .raised _ => []
  | .yielded a rest => a :: rest.items

def result : Generator ε α ρ → Except ε ρ
  | .ended r => .ok r
  | .raised e => .error e
  | .yielded _ rest => rest.result

/-- All of it, then what `k` makes of the returned value. -/
def bind : Generator ε α ρ → (ρ → Generator ε α σ) → Generator ε α σ
  | .ended r, k => k r
  | .raised e, _ => .raised e
  | .yielded a rest, k => .yielded a (rest.bind k)

def enumMap (f : Nat → α → Except ε β) : Nat → Generator ε α ρ → Generator ε β ρ
  | _, .ended r => .ended r
  | _, .raised e => .raised e
  | n, .yielded a rest => match f n a with
    | .error e => .raised e
    | .ok b => .yielded b (enumMap f (n + 1) rest)

def prepend (taken : List α) (g : Generator ε α ρ) : Generator ε α ρ := taken.foldr .yielded g

variable {g : Generator ε α ρ} {k : ρ → Generator ε α σ}

attribute [local grind] items result bind enumMap

theorem bind_ok {r : ρ} (h : g.result = .ok r) :
    (g.bind k).items = g.items ++ (k r).items ∧ (g.bind k).result = (k r).result := by
  induction g with
  | ended r' =>
    obtain rfl := Except.ok.inj h
    exact ⟨rfl, rfl⟩
  | raised e => cases h
  | yielded a rest ih =>
    obtain ⟨hitems, hresult⟩ := ih h
    exact ⟨congrArg (a :: ·) hitems, hresult⟩

theorem bind_error {e : ε} (h : g.result = .error e) :
    (g.bind k).items = g.items ∧ (g.bind k).result = .error e := by
  induction g with
  | ended r => cases h
  | raised e' =>
    obtain rfl := Except.error.inj h
    exact ⟨rfl, rfl⟩
  | yielded a rest ih =>
    obtain ⟨hitems, hresult⟩ := ih h
    exact ⟨congrArg (a :: ·) hitems, hresult⟩

/-- One value for each, when it does not raise. -/
theorem enumMap_ok {f : Nat → α → Except ε β} {n : Nat} {r : ρ} (h : (g.enumMap f n).result = .ok r) :
    g.result = .ok r ∧ (g.enumMap f n).items.length = g.items.length := by
  induction g generalizing n with
  | ended r' => exact ⟨h, rfl⟩
  | raised e => cases h
  | yielded a rest ih =>
    rw [enumMap] at h ⊢
    cases hf : f n a with
    | error e =>
      rw [hf] at h
      cases h
    | ok b =>
      rw [hf] at h
      obtain ⟨hresult, hlength⟩ := ih h
      exact ⟨hresult, congrArg Nat.succ hlength⟩

@[simp] theorem items_prepend (taken : List α) (g : Generator ε α ρ) :
    (g.prepend taken).items = taken ++ g.items := by
  induction taken with
  | nil => rfl
  | cons a taken ih => exact congrArg (a :: ·) ih

@[simp] theorem result_prepend (taken : List α) (g : Generator ε α ρ) : (g.prepend taken).result = g.result := by
  induction taken with
  | nil => rfl
  | cons a taken ih => exact ih

theorem prepend_append (xs ys : List α) (g : Generator ε α ρ) :
    (g.prepend ys).prepend xs = g.prepend (xs ++ ys) := List.foldr_append.symm

end Generator
