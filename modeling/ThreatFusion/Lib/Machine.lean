import Mathlib.Order.Basic
/-
# Deterministic machines with replies: runs and invariants

A machine answers an input with a reply and a next state. A run is a list of inputs; `stateAt k`
is the state before input `k` and `Happens k s i o s'` says what the `k`-th step did. Every
system whose operations are atomic and whose environment is part of the input is one.

* `exec_inv`, `stateAt_inv`: what one step preserves, every run preserves.
* `stateAt_rel`: a preorder kept by one step relates every earlier state to every later one.
* `replies_sublist`: inputs that change nothing can be left out, and the other replies stay.
-/
namespace Machine

variable {σ ι ο : Type}

/-- Run the inputs from the left, dropping the replies. -/
def exec (step : σ → ι → ο × σ) (s : σ) (is : List ι) : σ := is.foldl (fun s i => (step s i).2) s

/-- The state before the `k`-th input. -/
def stateAt (step : σ → ι → ο × σ) (s : σ) (is : List ι) (k : Nat) : σ := exec step s (is.take k)

/-- Step `k` of the run took input `i` in state `s`, replied `o` and left `s'`. -/
structure Happens (step : σ → ι → ο × σ) (s₀ : σ) (is : List ι) (k : Nat) (s : σ) (i : ι) (o : ο)
    (s' : σ) : Prop where
  input : is[k]? = some i
  before : s = stateAt step s₀ is k
  reply : (step s i).1 = o
  after : (step s i).2 = s'

/-- Each input of the run with its reply. -/
def replies (step : σ → ι → ο × σ) : σ → List ι → List (ι × ο)
  | _, [] => []
  | s, i :: is => (i, (step s i).1) :: replies step (step s i).2 is

/-- What the `k`-th step replied. -/
def replyAt (step : σ → ι → ο × σ) (s₀ : σ) (is : List ι) (k : Nat) : Option ο :=
  is[k]?.map fun i => (step (stateAt step s₀ is k) i).1

section
variable (step : σ → ι → ο × σ)

attribute [local grind] replies

@[simp] theorem exec_nil (s : σ) : exec step s [] = s := rfl

@[simp] theorem exec_cons (s : σ) (i : ι) (is : List ι) :
    exec step s (i :: is) = exec step (step s i).2 is := rfl

theorem exec_append (s : σ) (is js : List ι) : exec step s (is ++ js) = exec step (exec step s is) js := by
  simp [exec]

theorem replies_append (s : σ) (is js : List ι) :
    replies step s (is ++ js) = replies step s is ++ replies step (exec step s is) js := by
  induction is generalizing s with
  | nil => rfl
  | cons i is ih => exact congrArg (_ :: ·) (ih (step s i).2)

@[simp] theorem stateAt_zero (s : σ) (is : List ι) : stateAt step s is 0 = s := rfl

theorem stateAt_succ {s : σ} {is : List ι} {k : Nat} {i : ι} (h : is[k]? = some i) :
    stateAt step s is (k + 1) = (step (stateAt step s is k) i).2 := by
  simp [stateAt, List.take_add_one, h, exec_append]

theorem stateAt_succ_none {s : σ} {is : List ι} {k : Nat} (h : is[k]? = none) :
    stateAt step s is (k + 1) = stateAt step s is k := by
  simp [stateAt, List.take_add_one, h]
end

section
variable {step : σ → ι → ο × σ} {s₀ : σ} {is : List ι}

theorem Happens.succ {k : Nat} {s s' : σ} {i : ι} {o : ο} (h : Happens step s₀ is k s i o s') :
    s' = stateAt step s₀ is (k + 1) := by
  rw [stateAt_succ step h.input, ← h.before, h.after]

theorem happens_of_input {k : Nat} {i : ι} (h : is[k]? = some i) :
    Happens step s₀ is k (stateAt step s₀ is k) i (step (stateAt step s₀ is k) i).1
      (stateAt step s₀ is (k + 1)) :=
  ⟨h, rfl, rfl, (stateAt_succ step h).symm⟩

theorem happens_of_reply {k : Nat} {o : ο} (h : replyAt step s₀ is k = some o) :
    ∃ i, Happens step s₀ is k (stateAt step s₀ is k) i o (stateAt step s₀ is (k + 1)) := by
  obtain ⟨i, hi, ho⟩ := Option.map_eq_some_iff.1 h
  exact ⟨i, ho ▸ happens_of_input hi⟩

theorem Happens.replyAt {k : Nat} {s s' : σ} {i : ι} {o : ο} (h : Happens step s₀ is k s i o s') :
    replyAt step s₀ is k = some o := by
  rw [Machine.replyAt, h.input, ← h.before, Option.map_some, h.reply]

/-- An inductive invariant holds at the end of every run. -/
theorem exec_inv {I : σ → Prop} (hstep : ∀ s i, I s → I (step s i).2) :
    ∀ (is : List ι) {s : σ}, I s → I (exec step s is)
  | [], _, h => h
  | i :: is, s, h => exec_inv hstep is (hstep s i h)

/-- An inductive invariant under an assumption on each step taken. -/
theorem exec_inv_of {I : σ → Prop} {A : σ → ι → Prop} (hstep : ∀ s i, I s → A s i → I (step s i).2) :
    ∀ (is : List ι) {s : σ}, I s → (∀ k i, is[k]? = some i → A (stateAt step s is k) i) →
      I (exec step s is)
  | [], _, h, _ => h
  | i :: is, s, h, hA => by
    refine exec_inv_of hstep is (hstep s i h (hA 0 i rfl)) fun k j hj => ?_
    exact hA (k + 1) j (by simpa using hj)

theorem stateAt_inv {I : σ → Prop} (hstep : ∀ s i, I s → I (step s i).2) (h₀ : I s₀) (k : Nat) :
    I (stateAt step s₀ is k) :=
  exec_inv hstep _ h₀

theorem stateAt_inv_of {I : σ → Prop} {A : σ → ι → Prop} (hstep : ∀ s i, I s → A s i → I (step s i).2)
    (h₀ : I s₀) (hA : ∀ k i, is[k]? = some i → A (stateAt step s₀ is k) i) (k : Nat) :
    I (stateAt step s₀ is k) := by
  refine exec_inv_of hstep _ h₀ fun j i hj => ?_
  have hlt : j < k := by
    have := (List.getElem?_eq_some_iff.1 hj).1
    simp at this
    omega
  rw [List.getElem?_take_of_lt hlt] at hj
  rw [stateAt, List.take_take, Nat.min_eq_left (Nat.le_of_lt hlt)]
  exact hA j i hj

/-- A quantity that grows by one with the replies of a kind counts them. -/
theorem stateAt_count {I : σ → Prop} {f : σ → Nat} {p : ο → Bool} (hinv : ∀ s i, I s → I (step s i).2) (h₀ : I s₀)
    (hstep : ∀ s i, I s → f (step s i).2 = f s + if p (step s i).1 then 1 else 0) (k n : Nat) :
    f (stateAt step s₀ is (k + n)) = f (stateAt step s₀ is k) +
      (List.range' k n).countP fun m => (replyAt step s₀ is m).any p := by
  induction n with
  | zero => simp
  | succ n ih =>
    have hI : I (stateAt step s₀ is (k + n)) := exec_inv hinv _ h₀
    rw [List.range'_concat, List.countP_append, List.countP_singleton, Nat.one_mul, ← Nat.add_assoc, Machine.replyAt]
    cases h : is[k + n]? with
    | none =>
      rw [stateAt_succ_none step h, ih]
      simp
    | some i =>
      rw [stateAt_succ step h, hstep _ _ hI, ih, Option.map_some, Option.any_some]
      cases p (step (stateAt step s₀ is (k + n)) i).1
      · simp
      · simp [Nat.add_assoc]

/-- A preorder that holds across one step holds across every stretch of a run. -/
theorem stateAt_rel {I : σ → Prop} {R : σ → σ → Prop} (hinv : ∀ s i, I s → I (step s i).2) (h₀ : I s₀)
    (hrefl : ∀ s, R s s) (htrans : ∀ a b c, R a b → R b c → R a c)
    (hstep : ∀ s i, I s → R s (step s i).2) {k l : Nat} (hkl : k ≤ l) :
    R (stateAt step s₀ is k) (stateAt step s₀ is l) := by
  induction hkl with
  | refl => exact hrefl _
  | @step l _ ih =>
    cases h : is[l]? with
    | none => rw [stateAt_succ_none step h]; exact ih
    | some i =>
      rw [stateAt_succ step h]
      exact htrans _ _ _ ih (hstep _ i (stateAt_inv hinv h₀ l))

/-- A property that no step undoes is kept to the end of the run. -/
theorem stateAt_stable {I P : σ → Prop} (hinv : ∀ s i, I s → I (step s i).2) (h₀ : I s₀)
    (hstep : ∀ s i, I s → P s → P (step s i).2) {k l : Nat} (hkl : k ≤ l)
    (hP : P (stateAt step s₀ is k)) : P (stateAt step s₀ is l) :=
  stateAt_rel (R := fun a b => P a → P b) hinv h₀ (fun _ h => h) (fun _ _ _ f g h => g (f h))
    hstep hkl hP

/-- Take out inputs whose replies are not in `p`: if each of them changed nothing, the other replies stay. -/
theorem replies_sublist {p : ο → Bool} {s : σ} {kept : List (ι × ο)}
    (hquiet : ∀ before i after, is = before ++ i :: after → p (step (exec step s before) i).1 = false →
      (step (exec step s before) i).2 = exec step s before)
    (hsub : kept.Sublist (replies step s is))
    (hkept : kept.filter (fun r => p r.2) = (replies step s is).filter fun r => p r.2) :
    replies step s (kept.map Prod.fst) = kept := by
  induction is generalizing s kept with
  | nil =>
    obtain rfl := List.sublist_nil.mp hsub
    rfl
  | cons i is ih =>
    have hrest : ∀ before j after, is = before ++ j :: after →
        p (step (exec step (step s i).2 before) j).1 = false →
        (step (exec step (step s i).2 before) j).2 = exec step (step s i).2 before :=
      fun before j after heq => hquiet (i :: before) j after (by rw [heq, List.cons_append])
    rw [replies] at hsub hkept
    cases hsub with
    | cons _ hsub =>
      -- Only a reply outside `p` can be missing.
      have hp : p (step s i).1 = false := by
        by_contra hp
        rw [Bool.not_eq_false] at hp
        rw [List.filter_cons_of_pos (by exact hp)] at hkept
        have hle := (hsub.filter fun r => p r.2).length_le
        rw [hkept, List.length_cons] at hle
        omega
      have hsame : (step s i).2 = s := hquiet [] i is rfl hp
      rw [List.filter_cons_of_neg (by rw [hp]; exact Bool.false_ne_true)] at hkept
      rw [hsame] at hsub hkept hrest
      exact ih hrest hsub hkept
    | cons_cons _ hsub =>
      refine congrArg (_ :: ·) (ih hrest hsub ?_)
      by_cases hp : p (step s i).1 = true
      · rw [List.filter_cons_of_pos (by exact hp), List.filter_cons_of_pos (by exact hp)] at hkept
        exact (List.cons.inj hkept).2
      · rwa [List.filter_cons_of_neg (by exact hp), List.filter_cons_of_neg (by exact hp)] at hkept

end
end Machine
