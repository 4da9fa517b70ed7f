import Mathlib.Data.List.Basic
import Mathlib.Logic.Basic
/-
# Programs of atomic calls, run alone or interleaved

A `Program` is its result, or one call and what follows each reply to it. A handler answers a call in one
atomic step: from the environment of that step and the state to a reply or an exception, and the next
state. An exception ends the program; nothing is rolled back.

* `run`: the calls of one program in a row. `Along P` says that `P` holds at every call it makes, `Only P`
  that no reply leads to a call outside `P`.
* `poolStep i`: one call of client `i`. A schedule is a list of such steps, so every interleaving of any
  number of clients is one. `poolStep_cases` says what it does.
-/
namespace Concurrency

variable {κ : Type} {ρ : κ → Type} {ε σ η α β ℓ : Type}

inductive Program (ρ : κ → Type) (ε α : Type) where
  | done (result : Except ε α)
  | call (c : κ) (next : ρ c → Program ρ ε α)

abbrev Handler (ρ : κ → Type) (ε σ η : Type) := η → (c : κ) → σ → Except ε (ρ c) × σ

namespace Program

protected def ret (a : α) : Program ρ ε α := .done (.ok a)

protected def throw (e : ε) : Program ρ ε α := .done (.error e)

/-- What follows a call once it was answered. -/
def resume {c : κ} (next : ρ c → Program ρ ε α) : Except ε (ρ c) → Program ρ ε α
  | .ok a => next a
  | .error e => .throw e

/-- Every call that the program can ever make is in `P`. -/
def Only (P : κ → Prop) : Program ρ ε α → Prop
  | .done _ => True
  | .call c next => P c ∧ ∀ a, Only P (next a)

theorem Only.resume {P : κ → Prop} {c : κ} {next : ρ c → Program ρ ε α} (h : Only P (.call c next)) :
    ∀ reply, Only P (resume next reply)
  | .ok a => h.2 a
  | .error _ => trivial

end Program

open Program

section
variable (handle : Handler ρ ε σ η)

/-! ## One program alone -/

/-- The `n`-th call runs in environment `envs n`. -/
def run : (Nat → η) → Program ρ ε α → σ → Except ε α × σ
  | _, .done r, s => (r, s)
  | envs, .call c next, s => match handle (envs 0) c s with
    | (.ok a, s') => run (fun n => envs (n + 1)) (next a) s'
    | (.error e, s') => (.error e, s')

/-- `P` holds at every call: of the calls before it, the call, its environment and the state. -/
def Along (P : List κ → κ → η → σ → Prop) : List κ → (Nat → η) → Program ρ ε α → σ → Prop
  | _, _, .done _, _ => True
  | before, envs, .call c next, s => P before c (envs 0) s ∧ match handle (envs 0) c s with
    | (.ok a, s') => Along P (before ++ [c]) (fun n => envs (n + 1)) (next a) s'
    | (.error _, _) => True

/-- `Along`, for a property that can be computed. -/
def alongCheck (p : List κ → κ → η → σ → Bool) : List κ → (Nat → η) → Program ρ ε α → σ → Bool
  | _, _, .done _, _ => true
  | before, envs, .call c next, s => p before c (envs 0) s && match handle (envs 0) c s with
    | (.ok a, s') => alongCheck p (before ++ [c]) (fun n => envs (n + 1)) (next a) s'
    | (.error _, _) => true

/-- `run`, if the property holds at every call. -/
def checkedRun (p : List κ → κ → η → σ → Bool) :
    List κ → (Nat → η) → Program ρ ε α → σ → Option (Except ε α × σ)
  | _, _, .done r, s => some (r, s)
  | before, envs, .call c next, s =>
    if p before c (envs 0) s then match handle (envs 0) c s with
      | (.ok a, s') => checkedRun p (before ++ [c]) (fun n => envs (n + 1)) (next a) s'
      | (.error e, s') => some (.error e, s')
    else none

/-! ## A pool of clients -/

def stepProgram (env : η) : Program ρ ε α → σ → Program ρ ε α × σ
  | .done r, s => (.done r, s)
  | .call c next, s => (resume next (handle env c s).1, (handle env c s).2)

/-- The shared state, and each client with its label and the rest of its program. -/
structure Pool (ρ : κ → Type) (ε σ α ℓ : Type) where
  state : σ
  clients : List (ℓ × Program ρ ε α)

def poolStep (pool : Pool ρ ε σ α ℓ) (move : Nat × η) : Unit × Pool ρ ε σ α ℓ :=
  match pool.clients[move.1]? with
  | none => ((), pool)
  | some (label, program) =>
    let next := stepProgram handle move.2 program pool.state
    ((), { state := next.2, clients := pool.clients.set move.1 (label, next.1) })

end

section
variable {handle : Handler ρ ε σ η} {P : List κ → κ → η → σ → Prop} {before : List κ} {envs : Nat → η} {c : κ}
  {next : ρ c → Program ρ ε α} {s s' : σ}

/-- A call that is answered: the rest decides. -/
theorem run_ok (Q : Except ε α × σ → Prop) {a : ρ c} (h : handle (envs 0) c s = (.ok a, s'))
    (hrest : Q (run handle (fun n => envs (n + 1)) (next a) s')) : Q (run handle envs (.call c next) s) := by
  rw [run, h]
  exact hrest

theorem run_answered {a : ρ c} (h : handle (envs 0) c s = (.ok a, s')) :
    run handle envs (.call c next) s = run handle (fun n => envs (n + 1)) (next a) s' :=
  run_ok (· = _) h rfl

/-- A call that fails ends the program. -/
theorem run_error (Q : Except ε α × σ → Prop) {e : ε} (h : handle (envs 0) c s = (.error e, s'))
    (hend : Q (.error e, s')) : Q (run handle envs (.call c next) s) := by
  rw [run, h]
  exact hend

/-- What every call keeps, a run keeps. -/
theorem run_inv {I : σ → Prop} (hcall : ∀ env c s, I s → I (handle env c s).2) :
    ∀ (program : Program ρ ε α) (envs : Nat → η) (s : σ), I s → I (run handle envs program s).2
  | .done _, _, _, hs => hs
  | .call c next, envs, s, hs => by
    have hnext := hcall (envs 0) c s hs
    rw [run]
    rcases hc : handle (envs 0) c s with ⟨reply, s'⟩
    rw [hc] at hnext
    cases reply with
    | error e => exact hnext
    | ok a => exact run_inv hcall (next a) _ _ hnext

theorem Along.rest {a : ρ c} (hp : Along handle P before envs (.call c next) s)
    (h : handle (envs 0) c s = (.ok a, s')) :
    Along handle P (before ++ [c]) (fun n => envs (n + 1)) (next a) s' := by
  rw [Along, h] at hp
  exact hp.2

theorem along_of_check {p : List κ → κ → η → σ → Bool}
    (hp : ∀ before c env s, p before c env s = true → P before c env s) :
    ∀ (program : Program ρ ε α) (before : List κ) (envs : Nat → η) (s : σ),
      alongCheck handle p before envs program s = true → Along handle P before envs program s
  | .done _, _, _, _, _ => trivial
  | .call c next, before, envs, s, h => by
    rw [alongCheck, Bool.and_eq_true] at h
    rw [Along]
    refine ⟨hp _ _ _ _ h.1, ?_⟩
    rcases hc : handle (envs 0) c s with ⟨reply, s'⟩
    rw [hc] at h
    cases reply with
    | error e => exact trivial
    | ok a => exact along_of_check hp (next a) _ _ _ h.2

theorem checkedRun_eq_some {p : List κ → κ → η → σ → Bool}
    (hp : ∀ before c env s, p before c env s = true → P before c env s) :
    ∀ {program : Program ρ ε α} {before : List κ} {envs : Nat → η} {s : σ} {r : Except ε α × σ},
      checkedRun handle p before envs program s = some r →
        Along handle P before envs program s ∧ run handle envs program s = r
  | .done _, _, _, _, _, h => ⟨trivial, Option.some.inj h⟩
  | .call c next, before, envs, s, r, h => by
    rw [checkedRun] at h
    rw [Along, run]
    split at h
    · rename_i hcheck
      rcases hc : handle (envs 0) c s with ⟨reply, s'⟩
      rw [hc] at h
      cases reply with
      | error e => exact ⟨⟨hp _ _ _ _ hcheck, trivial⟩, Option.some.inj h⟩
      | ok a =>
        obtain ⟨halong, hrun⟩ := checkedRun_eq_some hp h
        exact ⟨⟨hp _ _ _ _ hcheck, halong⟩, hrun⟩
    · cases h

theorem Along.here (hp : Along handle P before envs (.call c next) s) : P before c (envs 0) s := by
  rw [Along] at hp
  exact hp.1

end

/-! ## Triples -/

/-- Alone, with `P` at every call, the program ends as `Q` says. -/
def Ensures (handle : Handler ρ ε σ η) (P : κ → η → σ → Prop) (program : Program ρ ε α) (s : σ)
    (Q : Except ε α → σ → Prop) : Prop :=
  ∀ before envs, Along handle (fun _ => P) before envs program s →
    Q (run handle envs program s).1 (run handle envs program s).2

section
variable {handle : Handler ρ ε σ η} {P : κ → η → σ → Prop} {c : κ} {next : ρ c → Program ρ ε α} {s : σ}
  {Q : Except ε α → σ → Prop}

theorem Ensures.done {r : Except ε α} (h : Q r s) : Ensures handle P (.done r) s Q := fun _ _ _ => h

theorem Ensures.mono {Q' : Except ε α → σ → Prop} {program : Program ρ ε α} (h : Ensures handle P program s Q)
    (hQ : ∀ r s', Q r s' → Q' r s') : Ensures handle P program s Q' := fun before envs hp => hQ _ _ (h before envs hp)

theorem Ensures.call (hok : ∀ env a s', P c env s → handle env c s = (.ok a, s') → Ensures handle P (next a) s' Q)
    (herror : ∀ env e s', P c env s → handle env c s = (.error e, s') → Q (.error e) s') :
    Ensures handle P (.call c next) s Q := by
  intro before envs hp
  rcases h : handle (envs 0) c s with ⟨reply, s'⟩
  cases reply with
  | error e =>
    rw [run, h]
    exact herror _ e s' hp.here h
  | ok a =>
    rw [run, h]
    exact hok _ a s' hp.here h _ _ (hp.rest h)

end

/-- Alone, the program ends in `Q` exactly when `P` holds at every call. -/
def Exactly (handle : Handler ρ ε σ η) (P : κ → η → σ → Prop) (Q : Except ε α → Prop) (program : Program ρ ε α) : Prop :=
  ∀ before envs s, Q (run handle envs program s).1 ↔ Along handle (fun _ => P) before envs program s

section
variable {handle : Handler ρ ε σ η} {P : κ → η → σ → Prop} {Q : Except ε α → Prop} {c : κ}
  {next : ρ c → Program ρ ε α}

theorem Exactly.done {r : Except ε α} (h : Q r) : Exactly handle P Q (.done r) := fun _ _ _ => ⟨fun _ => trivial, fun _ => h⟩

/-- At a call that is always answered: `P` there decides whether the rest can still end in `Q`. -/
theorem Exactly.call (reply : η → σ → ρ c × σ) (hreply : ∀ env s, handle env c s = (.ok (reply env s).1, (reply env s).2))
    (hgood : ∀ env s, P c env s → Exactly handle P Q (next (reply env s).1))
    (hbad : ∀ env s, ¬ P c env s → ∀ envs s', ¬ Q (run handle envs (next (reply env s).1) s').1) :
    Exactly handle P Q (.call c next) := by
  intro before envs s
  rw [run, Along, hreply]
  by_cases hp : P c (envs 0) s
  · rw [and_iff_right hp]
    exact hgood _ _ hp _ _ _
  · exact iff_of_false (hbad _ _ hp _ _) fun h => hp h.1

end

section
variable {handle : Handler ρ ε σ η} {pool : Pool ρ ε σ α ℓ} {i : Nat} {env : η}

/-- **What a move does**: nothing, or one call of client `i`. -/
theorem poolStep_cases (handle : Handler ρ ε σ η) (pool : Pool ρ ε σ α ℓ) (i : Nat) (env : η) :
    (poolStep handle pool (i, env)).2 = pool ∨
    ∃ label c next, pool.clients[i]? = some (label, .call c next) ∧
      (poolStep handle pool (i, env)).2 =
        { state := (handle env c pool.state).2
          clients := pool.clients.set i (label, resume next (handle env c pool.state).1) } := by
  unfold poolStep
  cases hi : pool.clients[i]? with
  | none => exact .inl rfl
  | some client =>
    obtain ⟨label, program⟩ := client
    cases program with
    | done r =>
      left
      have hset : pool.clients.set i (label, .done r) = pool.clients := by
        obtain ⟨hlt, hget⟩ := List.getElem?_eq_some_iff.1 hi
        rw [← hget, List.set_getElem_self]
      simp only [stepProgram, hset]
    | call c next => exact .inr ⟨label, c, next, rfl, rfl⟩

/-- The clients after a call of client `i`: itself, and the others as they were. -/
theorem getElem?_set_cases {β : Type} {xs : List β} {i j : Nat} {x y : β} (h : (xs.set i x)[j]? = some y) :
    j = i ∧ y = x ∨ j ≠ i ∧ xs[j]? = some y := by
  by_cases hij : i = j
  · subst hij
    rw [List.getElem?_set_self'] at h
    obtain ⟨z, -, hz⟩ := Option.map_eq_some_iff.1 h
    exact .inl ⟨rfl, hz.symm⟩
  · rw [List.getElem?_set_ne hij] at h
    exact .inr ⟨Ne.symm hij, h⟩

/-- A move of a client that is about to call. -/
theorem poolStep_call (handle : Handler ρ ε σ η) {l : ℓ} {c : κ} {next : ρ c → Program ρ ε α} (env : η)
    (hi : pool.clients[i]? = some (l, .call c next)) :
    (poolStep handle pool (i, env)).2 =
      { state := (handle env c pool.state).2
        clients := pool.clients.set i (l, resume next (handle env c pool.state).1) } := by
  rw [poolStep, hi]
  rfl

/-! ## One client from its first call to its end -/

/-- The program ends after `n` answered calls. -/
inductive Solo (handle : Handler ρ ε σ η) : Nat → (Nat → η) → Program ρ ε α → σ → Except ε α → σ → Prop where
  | done {envs : Nat → η} {r : Except ε α} {s : σ} : Solo handle 0 envs (.done r) s r s
  | call {n : Nat} {envs : Nat → η} {c : κ} {next : ρ c → Program ρ ε α} {s s₁ s' : σ} {a : ρ c}
    {r : Except ε α} (h : handle (envs 0) c s = (.ok a, s₁))
    (hrest : Solo handle n (fun k => envs (k + 1)) (next a) s₁ r s') : Solo handle (n + 1) envs (.call c next) s r s'

/-- `n` moves of client `i` in a row. -/
def moves (i : Nat) (envs : Nat → η) (n : Nat) : List (Nat × η) := (List.range n).map fun k => (i, envs k)

theorem moves_succ (i : Nat) (envs : Nat → η) (n : Nat) :
    moves i envs (n + 1) = (i, envs 0) :: moves i (fun k => envs (k + 1)) n := by
  simp [moves, List.range_succ_eq_map, Function.comp_def]

theorem poolStep_ok {s s' : σ} {clients : List (ℓ × Program ρ ε α)} {l : ℓ} {c : κ}
    {next : ρ c → Program ρ ε α} {a : ρ c} (hi : clients[i]? = some (l, .call c next))
    (h : handle env c s = (.ok a, s')) :
    (poolStep handle ⟨s, clients⟩ (i, env)).2 = ⟨s', clients.set i (l, next a)⟩ := by
  rw [poolStep, hi]
  simp only [stepProgram, h, resume]

/-- **In a pool, a client that moves alone ends as it would without the others.** -/
theorem Solo.exec_pool {n : Nat} {envs : Nat → η} {program : Program ρ ε α} {s s' : σ} {r : Except ε α}
    (h : Solo handle n envs program s r s') {clients : List (ℓ × Program ρ ε α)} {l : ℓ}
    (hi : clients[i]? = some (l, program)) :
    (moves i envs n).foldl (fun pool move => (poolStep handle pool move).2) ⟨s, clients⟩ =
      ⟨s', clients.set i (l, .done r)⟩ := by
  induction h generalizing clients with
  | done =>
    obtain ⟨hlt, hget⟩ := List.getElem?_eq_some_iff.1 hi
    rw [← hget, List.set_getElem_self]
    rfl
  | call hc hrest ih =>
    obtain ⟨hlt, -⟩ := List.getElem?_eq_some_iff.1 hi
    rw [moves_succ, List.foldl_cons, poolStep_ok hi hc, ih (by rw [List.getElem?_set_self hlt]), List.set_set]

/-- `Solo`, with `P` at every call. -/
inductive Walk (handle : Handler ρ ε σ η) (P : (c : κ) → (ρ c → Program ρ ε α) → η → σ → Prop) :
    Nat → (Nat → η) → Program ρ ε α → σ → Except ε α → σ → Prop where
  | done {envs : Nat → η} {r : Except ε α} {s : σ} : Walk handle P 0 envs (.done r) s r s
  | call {n : Nat} {envs : Nat → η} {c : κ} {next : ρ c → Program ρ ε α} {s s₁ s' : σ} {a : ρ c}
    {r : Except ε α} (here : P c next (envs 0) s) (h : handle (envs 0) c s = (.ok a, s₁))
    (hrest : Walk handle P n (fun k => envs (k + 1)) (next a) s₁ r s') :
    Walk handle P (n + 1) envs (.call c next) s r s'

theorem Walk.solo {P : (c : κ) → (ρ c → Program ρ ε α) → η → σ → Prop} {n : Nat} {envs : Nat → η}
    {program : Program ρ ε α} {s s' : σ} {r : Except ε α} (h : Walk handle P n envs program s r s') :
    Solo handle n envs program s r s' := by
  induction h with
  | done => exact .done
  | call _ hc _ ih => exact .call hc ih

/-- **Every move of a walk is a call at which `P` holds.** -/
theorem Walk.calls {P : (c : κ) → (ρ c → Program ρ ε α) → η → σ → Prop} {n : Nat} {envs : Nat → η}
    {program : Program ρ ε α} {s s' : σ} {r : Except ε α} (h : Walk handle P n envs program s r s') (l : ℓ) (k : Nat)
    (move : Nat × η) (hk : (moves 0 envs n)[k]? = some move) :
    ∃ c next s₁, move.1 = 0 ∧ P c next move.2 s₁ ∧
      ((moves 0 envs n).take k).foldl (fun pool move => (poolStep handle pool move).2) ⟨s, [(l, program)]⟩ =
        ⟨s₁, [(l, .call c next)]⟩ := by
  induction h generalizing k with
  | done => simp [moves] at hk
  | call here hc hrest ih =>
    rw [moves_succ] at hk ⊢
    cases k with
    | zero =>
      obtain rfl := Option.some.inj hk
      exact ⟨_, _, _, rfl, here, rfl⟩
    | succ k =>
      obtain ⟨c, next, s₁, hzero, hp, hpool⟩ := ih k hk
      refine ⟨c, next, s₁, hzero, hp, ?_⟩
      rw [List.take_succ_cons, List.foldl_cons, poolStep_ok rfl hc]
      exact hpool

/-- How many clients satisfy `q` after client `i` moved. -/
theorem countP_set_add {β : Type} {q : β → Bool} {xs : List β} {i : Nat} {x : β} (hi : xs[i]? = some x) (y : β) :
    (xs.set i y).countP q + (q x).toNat = xs.countP q + (q y).toNat := by
  obtain ⟨hlt, rfl⟩ := List.getElem?_eq_some_iff.1 hi
  rw [List.countP_set hlt]
  have hpos : q xs[i] = true → 0 < xs.countP q := fun hx => List.countP_pos_iff.2 ⟨_, List.getElem_mem hlt, hx⟩
  cases hx : q xs[i] with
  | false => cases q y <;> simp
  | true =>
    have := hpos hx
    cases q y <;> simp only [if_true, Bool.false_eq_true, if_false, Bool.toNat_true, Bool.toNat_false] <;> omega

theorem countP_set_of_eq {β : Type} {q : β → Bool} {xs : List β} {i : Nat} {x y : β} (hi : xs[i]? = some x)
    (h : q y = q x) : (xs.set i y).countP q = xs.countP q := by
  have := countP_set_add (q := q) hi y
  rw [h] at this
  exact Nat.add_right_cancel this

theorem countP_set_succ {β : Type} {q : β → Bool} {xs : List β} {i : Nat} {x y : β} (hi : xs[i]? = some x)
    (hx : q x = false) (hy : q y = true) : (xs.set i y).countP q = xs.countP q + 1 := by
  have := countP_set_add (q := q) hi y
  rwa [hx, hy] at this

/-- What every client may still call, it may call after each move. -/
theorem poolStep_only {P : ℓ → κ → Prop} {move : Nat × η}
    (h : ∀ (i : Nat) label program, pool.clients[i]? = some (label, program) → Only (P label) program) (i : Nat)
    (label : ℓ) (program : Program ρ ε α)
    (hi : (poolStep handle pool move).2.clients[i]? = some (label, program)) : Only (P label) program := by
  rcases poolStep_cases handle pool move.1 move.2 with
    hsame | ⟨label', c, next, hj, hstep⟩
  · rw [hsame] at hi
    exact h i label program hi
  · rw [hstep] at hi
    rcases getElem?_set_cases hi with ⟨-, heq⟩ | ⟨-, hi'⟩
    · obtain ⟨rfl, rfl⟩ := Prod.mk.inj heq
      exact (h _ _ _ hj).resume _
    · exact h i label program hi'

/-- The labels stay with their clients. -/
theorem poolStep_labels (move : Nat × η) :
    (poolStep handle pool move).2.clients.map Prod.fst = pool.clients.map Prod.fst := by
  rcases poolStep_cases handle pool move.1 move.2 with
    h | ⟨label, c, next, hi, h⟩
  · rw [h]
  · rw [h, List.map_set]
    have hsame : (pool.clients.map Prod.fst)[move.1]? = some label := by rw [List.getElem?_map, hi, Option.map_some]
    obtain ⟨hlt, hlabel⟩ := List.getElem?_eq_some_iff.1 hsame
    rw [← hlabel, List.set_getElem_self]

/-- Clients that satisfy one of two properties that exclude each other. -/
theorem countP_or {β : Type} {q q' : β → Bool} (hdisjoint : ∀ x, q x = true → q' x = false) :
    ∀ xs : List β, xs.countP (fun x => q x || q' x) = xs.countP q + xs.countP q'
  | [] => rfl
  | x :: xs => by
    rw [List.countP_cons, List.countP_cons, List.countP_cons, countP_or hdisjoint xs]
    cases hq : q x with
    | false => simp only [Bool.false_or, Bool.false_eq_true, if_false]; omega
    | true => simp only [Bool.true_or, hdisjoint x hq, if_true, Bool.false_eq_true, if_false]; omega

end
end Concurrency
