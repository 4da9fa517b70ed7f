import Mathlib.Tactic.Choose
/-
# Programs with state and exceptions, and triples for them

A `Prog ε σ α` runs from a state to a value or an exception, and keeps the state it reached in
either case (what an imperative program with exceptions does; nothing is rolled back).

* `Triple P m Q E`: from a state in `P`, a normal end is in `Q` and an exceptional one in `E`. The
  rules follow the program: `pure`, `bind`, `throw`, `attempt` (a `try` whose handler sees the
  exception as a value), `modify`.
* `Keeps R m`: every end of `m` is related by `R` to its start. `Keeps.triple` turns it into a frame
  rule for every assertion that `R` preserves.
* `KeepsUntil R P m`: `m` keeps `R` up to a point that is in `P`.
-/
namespace Effect

variable {ε σ α β : Type}

def Prog (ε σ α : Type) : Type := σ → Except ε α × σ

namespace Prog

protected def pure (a : α) : Prog ε σ α := fun s => (.ok a, s)

protected def bind (m : Prog ε σ α) (f : α → Prog ε σ β) : Prog ε σ β := fun s =>
  match m s with
  | (.ok a, s') => f a s'
  | (.error e, s') => (.error e, s')

instance : Monad (Prog ε σ) where
  pure := Prog.pure
  bind := Prog.bind

def throw (e : ε) : Prog ε σ α := fun s => (.error e, s)

def modify (f : σ → σ) : Prog ε σ Unit := fun s => (.ok (), f s)

def get : Prog ε σ σ := fun s => (.ok s, s)

/-- Run `m` and hand over what it returned or raised. -/
def attempt (m : Prog ε σ α) : Prog ε σ (Except ε α) := fun s => (.ok (m s).1, (m s).2)

/-- A computation that does not touch the state. -/
def ofExcept : Except ε α → Prog ε σ α
  | .ok a => .pure a
  | .error e => throw e

end Prog

/-! ## Triples -/

def Triple (P : σ → Prop) (m : Prog ε σ α) (Q : α → σ → Prop) (E : ε → σ → Prop) : Prop :=
  ∀ s, P s → match m s with
    | (.ok a, s') => Q a s'
    | (.error e, s') => E e s'

namespace Triple

variable {P P' : σ → Prop} {Q Q' : α → σ → Prop} {E E' : ε → σ → Prop} {m : Prog ε σ α}

theorem pure {a : α} (h : ∀ s, P s → Q a s) : Triple P (Pure.pure a : Prog ε σ α) Q E := h

theorem throw {e : ε} (h : ∀ s, P s → E e s) : Triple P (Prog.throw e : Prog ε σ α) Q E := h

theorem modify {f : σ → σ} {Q : Unit → σ → Prop} (h : ∀ s, P s → Q () (f s)) :
    Triple P (Prog.modify f : Prog ε σ Unit) Q E := h

theorem get {Q : σ → σ → Prop} (h : ∀ s, P s → Q s s) : Triple P (Prog.get : Prog ε σ σ) Q E := h

theorem bind {m : Prog ε σ α} {f : α → Prog ε σ β} {R : α → σ → Prop} {Q : β → σ → Prop}
    (hm : Triple P m R E) (hf : ∀ a, Triple (R a) (f a) Q E) : Triple P (m >>= f) Q E := by
  intro s hs
  have h := hm s hs
  show match Prog.bind m f s with | (.ok b, s') => Q b s' | (.error e, s') => E e s'
  unfold Prog.bind
  split at h
  · exact hf _ _ h
  · exact h

/-- `try`: the handler is the code after it, in the state where the exception was raised. -/
theorem attempt {R : Except ε α → σ → Prop}
    (hm : Triple P m (fun a => R (.ok a)) (fun e => R (.error e))) :
    Triple P (Prog.attempt m) R E := by
  intro s hs
  have h := hm s hs
  show R (m s).1 (m s).2
  split at h <;> rename_i heq <;> rw [heq] <;> exact h

theorem weaken (h : Triple P m Q E) (hP : ∀ s, P' s → P s) (hQ : ∀ a s, Q a s → Q' a s)
    (hE : ∀ e s, E e s → E' e s) : Triple P' m Q' E' := by
  intro s hs
  have := h s (hP s hs)
  split at this
  · exact hQ _ _ this
  · exact hE _ _ this

/-- Fix the state before: what is known of it may then decide which program runs. -/
theorem of_state (h : ∀ s, P s → Triple (· = s) m Q E) : Triple P m Q E :=
  fun s hs => h s hs s rfl

theorem at_state (h : Triple P m Q E) {s : σ} (hs : P s) : Triple (· = s) m Q E :=
  h.weaken (fun _ e => e ▸ hs) (fun _ _ h => h) fun _ _ h => h

theorem ofExcept {r : Except ε α} (hok : ∀ a s, r = .ok a → P s → Q a s)
    (herr : ∀ e s, r = .error e → P s → E e s) : Triple P (Prog.ofExcept r) Q E := by
  intro s hs
  cases r with
  | ok a => exact hok a s rfl hs
  | error e => exact herr e s rfl hs

end Triple

/-! ## Frames -/

def Keeps (R : σ → σ → Prop) (m : Prog ε σ α) : Prop := ∀ s, R s (m s).2

namespace Keeps

variable {R : σ → σ → Prop} {m : Prog ε σ α}

theorem pure (hR : ∀ s, R s s) (a : α) : Keeps R (Pure.pure a : Prog ε σ α) := hR

theorem throw (hR : ∀ s, R s s) (e : ε) : Keeps R (Prog.throw e : Prog ε σ α) := hR

theorem modify {f : σ → σ} (h : ∀ s, R s (f s)) : Keeps R (Prog.modify f : Prog ε σ Unit) := h

theorem attempt (h : Keeps R m) : Keeps R (Prog.attempt m) := h

theorem ofExcept (hR : ∀ s, R s s) : ∀ r : Except ε α, Keeps R (Prog.ofExcept r : Prog ε σ α)
  | .ok _ => hR
  | .error _ => hR

theorem bind (htrans : ∀ a b c, R a b → R b c → R a c) {f : α → Prog ε σ β} (hm : Keeps R m)
    (hf : ∀ a, Keeps R (f a)) : Keeps R (m >>= f) := by
  intro s
  have h := hm s
  show R s (Prog.bind m f s).2
  unfold Prog.bind
  split
  · rename_i a s' heq
    rw [heq] at h
    exact htrans _ _ _ h (hf a s')
  · rename_i e s' heq
    rw [heq] at h
    exact h

/-- What `R` preserves, `m` preserves, however it ends. -/
theorem triple (h : Keeps R m) {P : σ → Prop} (hP : ∀ s s', R s s' → P s → P s') :
    Triple P m (fun _ => P) (fun _ => P) := by
  intro s hs
  have := h s
  split <;> rename_i heq <;> rw [heq] at this <;> exact hP _ _ this hs

end Keeps

/-! ## Frames up to a point -/

namespace Prog

variable {γ : Type} {m : Prog ε σ α} {f : α → Prog ε σ β} {s s' : σ}

theorem bind_ok {a : α} (h : m s = (.ok a, s')) : (m >>= f) s = f a s' := by
  show Prog.bind m f s = _
  rw [Prog.bind, h]

theorem bind_error {e : ε} (h : m s = (.error e, s')) : (m >>= f) s = (.error e, s') := by
  show Prog.bind m f s = _
  rw [Prog.bind, h]

theorem of_bind_ok {b : β} (h : (m >>= f) s = (.ok b, s')) : ∃ a t, m s = (.ok a, t) ∧ f a t = (.ok b, s') := by
  rcases hm : m s with ⟨e | a, t⟩
  · rw [bind_error hm] at h
    cases h
  · exact ⟨a, t, rfl, (bind_ok hm).symm.trans h⟩

theorem bind_assoc (m : Prog ε σ α) (f : α → Prog ε σ β) (g : β → Prog ε σ γ) :
    m >>= f >>= g = m >>= fun a => f a >>= g := by
  funext s
  rcases hm : m s with ⟨e | a, s'⟩
  · rw [bind_error hm, bind_error (bind_error hm)]
  · rw [bind_ok hm]
    show Prog.bind (m >>= f) g s = Prog.bind (f a) g s'
    rw [Prog.bind, Prog.bind, bind_ok hm]

end Prog

/-- `m` is a first part that keeps `R`, and a rest that keeps it too unless the first part has reached `P`. -/
def KeepsUntil (R P : σ → σ → Prop) (m : Prog ε σ α) : Prop :=
  ∃ (β : Type) (before : Prog ε σ β) (after : β → Prog ε σ α), m = before >>= after ∧ Keeps R before ∧
    ∀ s b s', before s = (.ok b, s') → P s s' ∨ Keeps R (after b)

namespace KeepsUntil

variable {R P : σ → σ → Prop} {m : Prog ε σ α}

theorem of_keeps (hR : ∀ s, R s s) (h : Keeps R m) : KeepsUntil R P m :=
  ⟨Unit, Pure.pure (), fun _ => m, rfl, Keeps.pure hR (), fun _ _ _ _ => .inr h⟩

/-- The point is reached by `m` itself. -/
theorem reach {m : Prog ε σ β} {f : β → Prog ε σ α} (hm : Keeps R m)
    (h : ∀ s b s', m s = (.ok b, s') → P s s' ∨ Keeps R (f b)) : KeepsUntil R P (m >>= f) :=
  ⟨β, m, f, rfl, hm, h⟩

theorem mono {P' : σ → σ → Prop} (h : KeepsUntil R P m) (hP : ∀ s s', P s s' → P' s s') : KeepsUntil R P' m := by
  obtain ⟨β, before, after, hm, hbefore, hafter⟩ := h
  exact ⟨β, before, after, hm, hbefore, fun s b s' hs => (hafter s b s' hs).imp (hP s s') id⟩

theorem bind (htrans : ∀ a b c, R a b → R b c → R a c) (h : KeepsUntil R P m) {f : α → Prog ε σ β}
    (hf : ∀ a, Keeps R (f a)) : KeepsUntil R P (m >>= f) := by
  obtain ⟨γ, before, after, rfl, hbefore, hafter⟩ := h
  refine ⟨γ, before, fun b => after b >>= f, Prog.bind_assoc _ _ _, hbefore, fun s b s' hs => ?_⟩
  exact (hafter s b s' hs).imp id fun hkeeps => hkeeps.bind htrans hf

theorem attempt (hR : ∀ s, R s s) (h : KeepsUntil R P m) : KeepsUntil R P (Prog.attempt m) := by
  obtain ⟨β, before, after, rfl, hbefore, hafter⟩ := h
  refine ⟨Except ε β, Prog.attempt before, fun r => match r with
    | .ok b => Prog.attempt (after b)
    | .error e => Pure.pure (.error e), ?_, hbefore.attempt, fun s r s' hs => ?_⟩
  · funext s
    have hattempt : Prog.attempt before s = (.ok (before s).1, (before s).2) := rfl
    rw [Prog.bind_ok hattempt, Prog.attempt]
    rcases hb : before s with ⟨e | b, s'⟩
    · rw [Prog.bind_error hb]
      rfl
    · rw [Prog.bind_ok hb]
      rfl
  · cases r with
    | error e => exact .inr (Keeps.pure hR _)
    | ok b =>
      obtain ⟨hb, rfl⟩ := Prod.mk.inj hs
      exact (hafter s b _ (Prod.ext (Except.ok.inj hb) rfl)).imp id Keeps.attempt

/-- The point is reached in what follows `m`, from the state that `m` left. -/
theorem bind_right (hR : ∀ s, R s s) (htrans : ∀ a b c, R a b → R b c → R a c) {m : Prog ε σ α} (hm : Keeps R m)
    {f : α → Prog ε σ β} {Q : α → σ → σ → Prop} (hf : ∀ a, KeepsUntil R (Q a) (f a))
    (hP : ∀ s a s' s'', m s = (.ok a, s') → Q a s' s'' → P s s'') : KeepsUntil R P (m >>= f) := by
  choose γ before after heq hbefore hafter using hf
  let tagged (a : α) : Prog ε σ (Σ a, γ a) := before a >>= fun b => Pure.pure ⟨a, b⟩
  refine ⟨Σ a, γ a, m >>= tagged, fun r => after r.1 r.2, ?_, ?_, ?_⟩
  · rw [Prog.bind_assoc]
    congr 1
    funext a
    rw [heq a, Prog.bind_assoc]
    rfl
  · exact hm.bind htrans fun a => (hbefore a).bind htrans fun b => Keeps.pure hR _
  · rintro s ⟨a, b⟩ s'' hs
    obtain ⟨a', s', ha, hs⟩ := Prog.of_bind_ok hs
    obtain ⟨b', t, hb, hs⟩ := Prog.of_bind_ok hs
    cases hs
    exact (hafter a s' b s'' hb).imp (hP s a s' s'' ha) id

/-- What `R` does not allow happens only after the point. -/
theorem reached (htrans : ∀ a b c, R a b → R b c → R a c) (h : KeepsUntil R P m) {s : σ} (hs : ¬ R s (m s).2) :
    ∃ s', P s s' := by
  obtain ⟨β, before, after, rfl, hbefore, hafter⟩ := h
  have hstart := hbefore s
  rcases hb : before s with ⟨e | b, s'⟩ <;> rw [hb] at hstart
  · rw [Prog.bind_error hb] at hs
    exact absurd hstart hs
  · rw [Prog.bind_ok hb] at hs
    rcases hafter s b s' hb with hP | hkeeps
    · exact ⟨s', hP⟩
    · exact absurd (htrans _ _ _ hstart (hkeeps s')) hs

end KeepsUntil

end Effect
