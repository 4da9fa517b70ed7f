import ThreatFusion.LiveConsole.Containment
import ThreatFusion.Soar.DispatchRuns
/-
# The rule and the recorded states agree

A call is `inside` from its act on the rule to its end. When nobody is, one rule stands exactly while some
flow is recorded as contained. What can break this:

* two calls inside at once (`settled`);
* a runner that acts without saying so, or says so without having acted;
* a probe that takes back a rule which another flow still needs, or an undo that fails;
* an exception, or a probe without an answer, between the act and the store;
* a rollback of one of two contained flows: they share the rule;
* a playbook that is rolled back after its flow was contained: `_authorized_range_flow` refuses from then on.

`Orderly` excludes these, move by move. `Held` is the invariant; `containment_agrees` the run theorem.
-/
namespace ThreatFusion.LiveConsole.Containment
open Soar Py Concurrency Concurrency.Program Machine

def LiveFlow.isApplied (row : LiveFlow) : Bool := row.containmentState = some .applied

def anyApplied (w : RangeWorld) : Bool := w.flows.any (·.isApplied)

/-- The rules that should be there. -/
def wanted (w : RangeWorld) : Nat := if anyApplied w then 1 else 0

/-- Between the act on the rule and the end of the call. -/
def inside : RangeOp × RangeProgram → Bool
  | (.contain _, .call (.act .probe) _) => true
  | (.contain _, .call (.act .rollback) _) => true
  | (.contain _, .call .now _) => true
  | (.contain _, .call (.store _ _ _) _) => true
  | (.rollback _, .call (.act .probe) _) => true
  | (.rollback _, .call .now _) => true
  | (.rollback _, .call (.store _ _ _) _) => true
  | _ => false

/-- No call is inside. -/
def settled (pool : RangePool) : Bool := pool.clients.all fun client => !inside client

def Approved (flowId : ℤ) (db : SoarDb) : Prop :=
  ∃ r ∈ db.records, r.candidateId = candidateOfFlow flowId ∧ authorizes r.state = true

/-- `_authorized_range_flow` would let the call pass. -/
structure Authorized (rt : Runtime) (secret : String) (flowId : ℤ) (w : RangeWorld) : Prop where
  positive : 0 < flowId
  row : ∃ flow, w.flows.find? (·.flowId = flowId) = some flow ∧ flowRefusal flow = none
  chain : (verifyAuditChainIntegrity rt secret none true w.soar).1 = true
  approved : Approved flowId w.soar

/-- The flow is contained, and no other is. -/
def OnlyApplied (flowId : ℤ) (w : RangeWorld) : Prop :=
  anyApplied w = true ∧ ∀ row ∈ w.flows, row.isApplied = true → row.flowId = flowId

section
variable (rt : Runtime) (secret : String)

/-- The call of the move finds what it relies on. -/
def OrderlyCall (pool : RangePool) (env : RangeEnv) : RangeOp → RangeCall → Prop
  | .contain _, .act .drop =>
    settled pool = true ∧ (env.answer = some true → env.took = true ∨ 0 < pool.state.rules) ∧
      (env.took = true → env.answer = some true ∨ 0 < pool.state.rules)
  | .contain _, .act .probe =>
    (env.answer = some true → anyApplied pool.state = false) ∧
      (env.answer = none → anyApplied pool.state = true)
  | .contain _, .act .rollback => env.took = true
  | .contain flowId, .store _ _ _ =>
    if env.call.fault then anyApplied pool.state = true else Authorized rt secret flowId pool.state
  | .rollback flowId, .act .rollback =>
    settled pool = true ∧ (env.answer = some true → env.took = true) ∧
      (env.took = true → env.answer = some true ∧ OnlyApplied flowId pool.state)
  | .rollback _, .act .probe => env.answer = some true
  | .rollback _, .store _ _ _ => env.call.fault = false
  | .ledger _, .soar (.saveRecord r) =>
    env.call.fault = false →
      ∀ row ∈ pool.state.flows, row.isApplied = true → Approved row.flowId (putRecord r pool.state.soar)
  | _, _ => True

def Orderly (pool : RangePool) (move : Nat × RangeEnv) : Prop :=
  ∀ op c next, pool.clients[move.1]? = some (op, .call c next) → OrderlyCall rt secret pool move.2 op c

end

/-! ## Where a call can be -/

/-- Calls that change nothing. -/
def ReadsOnly : RangeCall → Prop
  | .isFile | .selectFlow _ | .listRecordsForCandidate _ | .act .status => True
  | .soar (.verifyAuditChainIntegrity _ _) => True
  | _ => False

/-- Only reads before `target`. -/
inductive Reads (target : RangeProgram) : RangeProgram → Prop where
  | reached : Reads target target
  | ended (r : Except RangeError RangeResult) : Reads target (.done r)
  | call (c : RangeCall) (next : c.Reply → RangeProgram) (hc : ReadsOnly c) (hnext : ∀ a, Reads target (next a)) :
    Reads target (.call c next)

inductive ContainAt (flowId : ℤ) (w : RangeWorld) : RangeProgram → Prop where
  | reading {p : RangeProgram} (h : Reads (dropping flowId) p) : ContainAt flowId w p
  | probing (h : w.rules = 1) : ContainAt flowId w (probingDrop flowId)
  | undoing (h : w.rules = 1) (hnone : anyApplied w = false) : ContainAt flowId w undoing
  | storing (h : w.rules = 1) : ContainAt flowId w (storing flowId .applied)
  | storingAt (h : w.rules = 1) (recordedAt : String) : ContainAt flowId w (storingAt flowId .applied recordedAt)

inductive RollbackAt (flowId : ℤ) (w : RangeWorld) : RangeProgram → Prop where
  | reading {p : RangeProgram} (h : Reads (removing flowId) p) : RollbackAt flowId w p
  | probing (h : w.rules = 0) (honly : OnlyApplied flowId w) : RollbackAt flowId w (probingRollback flowId)
  | storing (h : w.rules = 0) (honly : OnlyApplied flowId w) : RollbackAt flowId w (storing flowId .rolledBack)
  | storingAt (h : w.rules = 0) (honly : OnlyApplied flowId w) (recordedAt : String) :
    RollbackAt flowId w (storingAt flowId .rolledBack recordedAt)

def ClientAt (w : RangeWorld) : RangeOp → RangeProgram → Prop
  | .contain flowId, p => ContainAt flowId w p
  | .rollback flowId, p => RollbackAt flowId w p
  | .ledger _, p => ∃ q : SoarProgram, p = liftLedger q

section
variable {rt : Runtime} {secret : String} {flowId : ℤ} {w w' : RangeWorld} {p target : RangeProgram} {op : RangeOp}

theorem rangeHandle_reads {c : RangeCall} (hc : ReadsOnly c) (env : RangeEnv) (w : RangeWorld) :
    (rangeHandle rt secret env c w).2 = w := by
  cases c with
  | isFile => rfl
  | selectFlow | listRecordsForCandidate =>
    simp only [rangeHandle]
    split <;> rfl
  | act action =>
    cases action with
    | status =>
      simp only [rangeHandle]
      split <;> rfl
    | drop | rollback | probe => exact hc.elim
  | now | store => exact hc.elim
  | soar c =>
    cases c with
    | verifyAuditChainIntegrity =>
      simp only [rangeHandle, Soar.handle]
      split <;> rfl
    | now | uuid4 | getRecord | saveRecord | appendAuditEvent | updateTimings => exact hc.elim

theorem Reads.resume {c : RangeCall} {next : c.Reply → RangeProgram} (h : ∀ a, Reads target (next a)) :
    ∀ reply, Reads target (resume next reply)
  | .ok a => h a
  | .error _ => .ended _

theorem reads_refuse (reason : RangeRefusal) : Reads target (refuse reason) := .ended _

/-- `_authorized_range_flow` only reads. -/
theorem reads_authorized (flowId : ℤ) {next : LiveFlow → RangeProgram} (h : ∀ flow, Reads target (next flow)) :
    Reads target (authorized flowId next) := by
  unfold authorized
  split
  · exact reads_refuse _
  refine .call _ _ trivial fun both => ?_
  cases both with
  | false => exact reads_refuse _
  | true =>
    refine .call _ _ trivial fun found => ?_
    cases found with
    | none => exact reads_refuse _
    | some flow =>
      cases hrefusal : flowRefusal flow with
      | some reason =>
        simp only [hrefusal]
        exact reads_refuse _
      | none =>
        simp only [hrefusal]
        refine .call _ _ trivial fun verdict => .call _ _ trivial fun records => ?_
        split
        · exact h flow
        · exact reads_refuse _

theorem reads_contain (flowId : ℤ) : Reads (dropping flowId) (containRangeSource flowId) := by
  refine reads_authorized flowId fun _ => .call _ _ trivial fun running => ?_
  cases running with
  | false => exact reads_refuse _
  | true => exact .reached

theorem reads_rollback (flowId : ℤ) : Reads (removing flowId) (rollbackRangeSource flowId) := by
  refine reads_authorized flowId fun flow => ?_
  split
  · exact reads_refuse _
  · refine .call _ _ trivial fun running => ?_
    cases running with
    | false => exact reads_refuse _
    | true => exact .reached

theorem clientAt_start (rt : Runtime) (w : RangeWorld) (op : RangeOp) : ClientAt w op (op.program rt) := by
  cases op with
  | contain flowId => exact .reading (reads_contain flowId)
  | rollback flowId => exact .reading (reads_rollback flowId)
  | ledger op => exact ⟨op.program rt, rfl⟩

/-! ### Inside and outside -/

theorem not_inside_readsOnly (op : RangeOp) {c : RangeCall} {next : c.Reply → RangeProgram} (hc : ReadsOnly c) :
    inside (op, .call c next) = false := by
  cases op <;> cases c with
  | act action => cases action <;> first | rfl | exact hc.elim
  | now | store => first | rfl | exact hc.elim
  | isFile | selectFlow | listRecordsForCandidate | soar => rfl

theorem not_inside_done (op : RangeOp) (r : Except RangeError RangeResult) : inside (op, .done r) = false := by
  cases op <;> rfl

theorem Reads.not_inside (h : Reads target p) (htarget : inside (op, target) = false) : inside (op, p) = false := by
  cases h with
  | reached => exact htarget
  | ended r => exact not_inside_done op r
  | call c next hc hnext => exact not_inside_readsOnly op hc

theorem not_inside_ledger (op : SoarOp) (q : SoarProgram) : inside (.ledger op, liftLedger q) = false := by
  rcases q with (_ | _) | _ <;> rfl

/-- Outside, a call asks nothing of the state. -/
theorem ClientAt.outside (h : ClientAt w op p) (hp : inside (op, p) = false) (w' : RangeWorld) :
    ClientAt w' op p := by
  cases op with
  | ledger op => exact h
  | contain flowId =>
    cases h with
    | reading h => exact .reading h
    | probing | undoing | storing | storingAt => cases hp
  | rollback flowId =>
    cases h with
    | reading h => exact .reading h
    | probing | storing | storingAt => cases hp

theorem anyApplied_congr (hflows : w'.flows = w.flows) : anyApplied w' = anyApplied w := by
  rw [anyApplied, anyApplied, hflows]

theorem OnlyApplied.congr (h : OnlyApplied flowId w) (hflows : w'.flows = w.flows) : OnlyApplied flowId w' :=
  ⟨(anyApplied_congr hflows).trans h.1, by rw [hflows]; exact h.2⟩

theorem ClientAt.congr (h : ClientAt w op p) (hrules : w'.rules = w.rules) (hflows : w'.flows = w.flows) :
    ClientAt w' op p := by
  cases op with
  | ledger op => exact h
  | contain flowId =>
    cases h with
    | reading h => exact .reading h
    | probing h => exact .probing (hrules.trans h)
    | undoing h hnone => exact .undoing (hrules.trans h) ((anyApplied_congr hflows).trans hnone)
    | storing h => exact .storing (hrules.trans h)
    | storingAt h t => exact .storingAt (hrules.trans h) t
  | rollback flowId =>
    cases h with
    | reading h => exact .reading h
    | probing h honly => exact .probing (hrules.trans h) (honly.congr hflows)
    | storing h honly => exact .storing (hrules.trans h) (honly.congr hflows)
    | storingAt h honly t => exact .storingAt (hrules.trans h) (honly.congr hflows) t

end

/-! ## The invariant -/

structure Held (rt : Runtime) (key : LedgerSecret) (pool : RangePool) : Prop where
  clients : ∀ (i : Nat) op p, pool.clients[i]? = some (op, p) → ClientAt pool.state op p
  alone : ∀ (i j : Nat) a b, pool.clients[i]? = some a → pool.clients[j]? = some b → inside a = true →
    inside b = true → i = j
  agree : settled pool = true → pool.state.rules = wanted pool.state
  authorized : ∀ row ∈ pool.state.flows, row.isApplied = true → Authorized rt key.1 row.flowId pool.state
  ledger : Sealed rt key pool.state.soar
  /-- `flow_id` is the primary key. -/
  keyed : (pool.state.flows.map (·.flowId)).Nodup

/-- Nobody but client `i` is inside. -/
def OthersOutside (pool : RangePool) (i : Nat) : Prop :=
  ∀ (j : Nat) b, j ≠ i → pool.clients[j]? = some b → inside b = false

section
variable {rt : Runtime} {key : LedgerSecret} {pool : RangePool} {i : Nat} {op : RangeOp} {p p' : RangeProgram}
  {w' : RangeWorld}

theorem settled_iff : settled pool = true ↔ ∀ (i : Nat) a, pool.clients[i]? = some a → inside a = false := by
  unfold settled
  rw [List.all_eq_true]
  constructor
  · intro h i a hi
    simpa using h a (List.mem_of_getElem? hi)
  · intro h a ha
    obtain ⟨i, hi⟩ := List.mem_iff_getElem?.1 ha
    rw [h i a hi]
    rfl

theorem othersOutside_of_settled (h : settled pool = true) (i : Nat) : OthersOutside pool i :=
  fun j b _ hj => settled_iff.1 h j b hj

theorem Held.othersOutside (h : Held rt key pool) (hi : pool.clients[i]? = some (op, p))
    (hin : inside (op, p) = true) : OthersOutside pool i := by
  intro j b hne hj
  by_contra hb
  exact hne (h.alone j i b _ hj hi (by simpa using hb) hin)

/-- After a move of `i`, the pool is settled when `i` and the others are outside. -/
theorem settled_set (hi : pool.clients[i]? = some (op, p)) :
    settled { state := w', clients := pool.clients.set i (op, p') } = true ↔
      inside (op, p') = false ∧ OthersOutside pool i := by
  rw [settled_iff]
  constructor
  · intro h
    obtain ⟨hlt, -⟩ := List.getElem?_eq_some_iff.1 hi
    refine ⟨h i _ (List.getElem?_set_self hlt), fun j b hne hj => h j b ?_⟩
    rw [List.getElem?_set_ne hne.symm]
    exact hj
  · rintro ⟨hp, hothers⟩ j a hj
    rcases getElem?_set_cases hj with ⟨-, rfl⟩ | ⟨hne, hj⟩
    · exact hp
    · exact hothers j a hne hj

theorem OthersOutside.settled (h : OthersOutside pool i) (hi : pool.clients[i]? = some (op, p))
    (hp : inside (op, p) = false) : Containment.settled pool = true := by
  rw [settled_iff]
  intro j a hj
  by_cases hji : j = i
  · subst hji
    rw [← Option.some.inj (hi.symm.trans hj)]
    exact hp
  · exact h j a hji hj

/-- What a move must show: of its client, of the others, of the rule and of the tables. -/
theorem Held.move (h : Held rt key pool) (hi : pool.clients[i]? = some (op, p)) (hclient : ClientAt w' op p')
    (halone : inside (op, p') = true → OthersOutside pool i)
    (hothers : w'.rules = pool.state.rules ∧ w'.flows = pool.state.flows ∨ OthersOutside pool i)
    (hagree : inside (op, p') = false → OthersOutside pool i → w'.rules = wanted w')
    (hauthorized : ∀ row ∈ w'.flows, row.isApplied = true → Authorized rt key.1 row.flowId w')
    (hledger : Sealed rt key w'.soar) (hkeyed : (w'.flows.map (·.flowId)).Nodup) :
    Held rt key { state := w', clients := pool.clients.set i (op, p') } where
  clients j op' q hj := by
    rcases getElem?_set_cases hj with ⟨-, heq⟩ | ⟨hne, hj⟩
    · obtain ⟨rfl, rfl⟩ := Prod.mk.inj heq
      exact hclient
    · rcases hothers with ⟨hrules, hflows⟩ | hothers
      · exact (h.clients j op' q hj).congr hrules hflows
      · exact (h.clients j op' q hj).outside (hothers j _ hne hj) w'
  alone j k a b hj hk ha hb := by
    rcases getElem?_set_cases hj with ⟨rfl, rfl⟩ | ⟨hji, hj'⟩
    · rcases getElem?_set_cases hk with ⟨rfl, -⟩ | ⟨hkj, hk'⟩
      · rfl
      · exact absurd ((halone ha k b hkj hk').symm.trans hb) Bool.false_ne_true
    · rcases getElem?_set_cases hk with ⟨rfl, rfl⟩ | ⟨-, hk'⟩
      · exact absurd ((halone hb j a hji hj').symm.trans ha) Bool.false_ne_true
      · exact h.alone j k a b hj' hk' ha hb
  agree hsettled := by
    obtain ⟨hp, hothers⟩ := (settled_set hi).1 hsettled
    exact hagree hp hothers
  authorized := hauthorized
  ledger := hledger
  keyed := hkeyed

theorem Authorized.congr {secret : String} {flowId : ℤ} {w : RangeWorld} (h : Authorized rt secret flowId w)
    (hflows : w'.flows = w.flows) (hsoar : w'.soar = w.soar) : Authorized rt secret flowId w' where
  positive := h.positive
  row := by rw [hflows]; exact h.row
  chain := by rw [hsoar]; exact h.chain
  approved := by rw [hsoar]; exact h.approved

/-- A move that leaves both tables alone. -/
theorem Held.act (h : Held rt key pool) (hi : pool.clients[i]? = some (op, p)) (hflows : w'.flows = pool.state.flows)
    (hsoar : w'.soar = pool.state.soar) (hclient : ClientAt w' op p')
    (halone : inside (op, p') = true → OthersOutside pool i)
    (hothers : w'.rules = pool.state.rules ∨ OthersOutside pool i)
    (hagree : inside (op, p') = false → OthersOutside pool i → w'.rules = wanted pool.state) :
    Held rt key { state := w', clients := pool.clients.set i (op, p') } := by
  have hwanted : wanted w' = wanted pool.state := by rw [wanted, wanted, anyApplied_congr hflows]
  refine h.move hi hclient halone (hothers.imp_left fun hrules => ⟨hrules, hflows⟩)
    (fun hp ho => (hagree hp ho).trans hwanted.symm) (fun row hrow happlied => ?_) (hsoar ▸ h.ledger)
    (hflows ▸ h.keyed)
  rw [hflows] at hrow
  exact (h.authorized row hrow happlied).congr hflows hsoar

/-- A move that changes nothing, between two places both outside. -/
theorem Held.stay (h : Held rt key pool) (hi : pool.clients[i]? = some (op, p)) (hclient : ClientAt pool.state op p')
    (hp : inside (op, p) = false) (hp' : inside (op, p') = false) :
    Held rt key { state := pool.state, clients := pool.clients.set i (op, p') } :=
  h.act hi rfl rfl hclient (fun hin => absurd (hp'.symm.trans hin) Bool.false_ne_true) (.inl rfl)
    fun _ hothers => h.agree (hothers.settled hi hp)

/-- A move that changes nothing, from inside. -/
theorem Held.advance (h : Held rt key pool) (hi : pool.clients[i]? = some (op, p)) (hin : inside (op, p) = true)
    (hclient : ClientAt pool.state op p')
    (hagree : inside (op, p') = false → pool.state.rules = wanted pool.state) :
    Held rt key { state := pool.state, clients := pool.clients.set i (op, p') } :=
  h.act hi rfl rfl hclient (fun _ => h.othersOutside hi hin) (.inl rfl) fun hp _ => hagree hp

theorem Held.rules_le (h : Held rt key pool) (hsettled : settled pool = true) : pool.state.rules ≤ 1 := by
  rw [h.agree hsettled, wanted]
  split
  · exact Nat.le_refl 1
  · exact Nat.zero_le 1

end

/-! ## The tables -/

section
variable {rt : Runtime} {key : LedgerSecret} {secret : String} {flowId : ℤ} {state : ContainmentState} {t : String}
  {w : RangeWorld}

@[simp] theorem LiveFlow.stored_flowId (row : LiveFlow) : (row.stored flowId state t).flowId = row.flowId := by
  unfold LiveFlow.stored
  split
  · cases state <;> rfl
  · rfl

theorem flowRefusal_stored (row : LiveFlow) : flowRefusal (row.stored flowId state t) = flowRefusal row := by
  unfold LiveFlow.stored
  split
  · cases state <;> rfl
  · rfl

theorem isApplied_stored (row : LiveFlow) :
    (row.stored flowId state t).isApplied =
      if row.flowId = flowId then decide (state = .applied) else row.isApplied := by
  unfold LiveFlow.stored
  split
  · cases state <;> rfl
  · rfl

/-- The world after `_store_containment_state`. -/
def RangeWorld.stored (w : RangeWorld) (flowId : ℤ) (state : ContainmentState) (t : String) : RangeWorld :=
  { w with flows := w.flows.map (LiveFlow.stored flowId state t) }

theorem Authorized.stored {f : ℤ} (h : Authorized rt secret f w) :
    Authorized rt secret f (w.stored flowId state t) where
  positive := h.positive
  row := by
    obtain ⟨flow, hfind, hrefusal⟩ := h.row
    refine ⟨flow.stored flowId state t, ?_, (flowRefusal_stored flow).trans hrefusal⟩
    have hcomp : ((fun row : LiveFlow => decide (row.flowId = f)) ∘ LiveFlow.stored flowId state t) =
        fun row => decide (row.flowId = f) := by
      funext row
      rw [Function.comp_apply, LiveFlow.stored_flowId]
    rw [RangeWorld.stored, List.find?_map, hcomp, hfind, Option.map_some]
  chain := h.chain
  approved := h.approved

theorem stored_ids (w : RangeWorld) : (w.stored flowId state t).flows.map (·.flowId) = w.flows.map (·.flowId) := by
  rw [RangeWorld.stored, List.map_map]
  exact List.map_congr_left fun row _ => LiveFlow.stored_flowId row

/-- A row applied after the store was applied before, or it is the row stored as applied. -/
theorem applied_stored {row : LiveFlow} (hrow : row ∈ (w.stored flowId state t).flows) (h : row.isApplied = true) :
    row.flowId = flowId ∧ state = .applied ∨
      row.flowId ≠ flowId ∧ ∃ row' ∈ w.flows, row'.isApplied = true ∧ row'.flowId = row.flowId := by
  obtain ⟨row', hmem, rfl⟩ := List.mem_map.1 hrow
  rw [isApplied_stored] at h
  rw [LiveFlow.stored_flowId]
  by_cases hid : row'.flowId = flowId
  · rw [if_pos hid] at h
    exact .inl ⟨hid, of_decide_eq_true h⟩
  · rw [if_neg hid] at h
    exact .inr ⟨hid, row', hmem, h, rfl⟩

theorem anyApplied_iff : anyApplied w = true ↔ ∃ row ∈ w.flows, row.isApplied = true := List.any_eq_true

/-- The row of an authorized flow is there, and takes the state. -/
theorem Authorized.applies (h : Authorized rt secret flowId w) : anyApplied (w.stored flowId .applied t) = true := by
  obtain ⟨flow, hfind, -⟩ := h.row
  have hid : flow.flowId = flowId := by simpa using List.find?_some hfind
  refine anyApplied_iff.2 ⟨_, List.mem_map_of_mem (List.mem_of_find?_eq_some hfind), ?_⟩
  rw [isApplied_stored, if_pos hid]
  rfl

theorem OnlyApplied.rolledBack (h : OnlyApplied flowId w) : anyApplied (w.stored flowId .rolledBack t) = false := by
  by_contra hany
  obtain ⟨row, hrow, happlied⟩ := anyApplied_iff.1 (by simpa using hany)
  rcases applied_stored hrow happlied with ⟨-, hstate⟩ | ⟨hid, row', hmem, happlied', hsame⟩
  · cases hstate
  · exact hid (hsame ▸ h.2 row' hmem happlied')

/-! ### The ledger -/

/-- Whatever is called, the chain keeps verifying, and no event goes. -/
theorem sealed_handle (hmac : HmacNonempty rt) (env : AppendCall) (c : RepoCall) {db : SoarDb}
    (h : Sealed rt key db) :
    Sealed rt key (Soar.handle rt key.1 env c db).2 ∧
      (db.events ≠ [] → (Soar.handle rt key.1 env c db).2.events ≠ []) := by
  cases c with
  | now | uuid4 => exact ⟨h, id⟩
  | getRecord | verifyAuditChainIntegrity =>
    simp only [Soar.handle]
    split <;> exact ⟨h, id⟩
  | saveRecord record =>
    simp only [Soar.handle, saveRecord]
    split
    · exact ⟨h, id⟩
    · exact ⟨⟨h.chain, h.head, h.unsealed⟩, id⟩
  | updateTimings =>
    simp only [Soar.handle]
    split
    · exact ⟨h, id⟩
    · exact ⟨⟨h.chain, h.head, h.unsealed⟩, id⟩
  | appendAuditEvent ev =>
    by_cases hc : Commits key.1 env db
    · rw [handle_append rt env ev hc]
      exact ⟨sealed_appendRow h (written_auditRow hmac h), fun _ => by simp [appendRow]⟩
    · obtain ⟨e, he⟩ := appendAuditEvent_fails rt ev hc
      rw [Soar.handle, he]
      exact ⟨h, id⟩

theorem approved_updateTimings {p updated : String} {queued callback response : ℚ} {db : SoarDb}
    (h : Approved flowId db) :
    Approved flowId { db with records := db.records.map (updateTimings p queued callback response updated) } := by
  obtain ⟨r, hr, hcandidate, hstate⟩ := h
  refine ⟨_, List.mem_map_of_mem hr, ?_⟩
  unfold updateTimings
  split <;> exact ⟨hcandidate, hstate⟩

/-- A flow stays approved unless a save takes its record away. -/
theorem approved_handle (env : AppendCall) (c : RepoCall) {db : SoarDb} (h : Approved flowId db)
    (hsave : ∀ r, c = .saveRecord r → env.fault = false → Approved flowId (putRecord r db)) :
    Approved flowId (Soar.handle rt secret env c db).2 := by
  rcases handle_records rt secret env c db with hsame | ⟨r, rfl, hput⟩ |
    ⟨q, queued, callback, response, updated, -, htimings⟩
  · unfold Approved
    rw [hsame]
    exact h
  · by_cases hfault : env.fault = true
    · rw [handle_save, if_pos hfault]
      exact h
    · rw [hput]
      exact hsave r rfl (by simpa using hfault)
  · rw [htimings]
    exact approved_updateTimings h

theorem verified_nonempty {rt : Runtime} {db : SoarDb} {playbookId : Option String} {b : Bool}
    (h : (verifyAuditChainIntegrity rt key.1 playbookId b db).1 = true) : db.events ≠ [] :=
  (verify_accepts.1 h).1

end

/-! ## One move -/

section
variable {rt : Runtime} {key : LedgerSecret} {pool : RangePool} {i : Nat} {env : RangeEnv} {flowId : ℤ}

/-- The pool after client `i` was answered. -/
def answered (rt : Runtime) (secret : String) (pool : RangePool) (i : Nat) (env : RangeEnv) (op : RangeOp)
    (c : RangeCall) (next : c.Reply → RangeProgram) : RangePool :=
  { state := (rangeHandle rt secret env c pool.state).2
    clients := pool.clients.set i (op, resume next (rangeHandle rt secret env c pool.state).1) }

theorem Held.read (h : Held rt key pool) {op : RangeOp} {c : RangeCall} {next : c.Reply → RangeProgram}
    (hi : pool.clients[i]? = some (op, .call c next)) (hc : ReadsOnly c)
    (hclient : ∀ reply, ClientAt pool.state op (resume next reply) ∧ inside (op, resume next reply) = false) :
    Held rt key (answered rt key.1 pool i env op c next) := by
  rw [answered, rangeHandle_reads hc]
  exact h.stay hi (hclient _).1 (not_inside_readsOnly op hc) (hclient _).2

/-- The rule is inserted, or was there. -/
theorem Held.drop (h : Held rt key pool)
    (hi : pool.clients[i]? = some (.contain flowId, dropping flowId))
    (horderly : OrderlyCall rt key.1 pool env (.contain flowId) (.act .drop)) :
    Held rt key (answered rt key.1 pool i env (.contain flowId) (.act .drop) fun applied : Bool =>
      if applied then probingDrop flowId else refuse .rangeCommandFailed) := by
  obtain ⟨hsettled, htook, hanswer⟩ := horderly
  have hothers := othersOutside_of_settled hsettled i
  have hle := h.rules_le hsettled
  -- not acknowledged: the rule was already there, or nothing was done
  have hsame : env.answer ≠ some true →
      (rangeHandle rt key.1 env (.act .drop) pool.state).2.rules = pool.state.rules := by
    intro hno
    simp only [rangeHandle]
    split
    · have hpos := (hanswer ‹_›).resolve_left hno
      exact if_neg (Nat.pos_iff_ne_zero.1 hpos)
    · rfl
  refine h.act hi ?_ ?_ ?_ (fun _ => hothers) (.inr hothers) fun hout _ => ?_
  · simp only [rangeHandle]
    split <;> rfl
  · simp only [rangeHandle]
    split <;> rfl
  · cases hreply : env.answer with
    | none =>
      simp only [rangeHandle, hreply, resume]
      exact .reading (.ended _)
    | some applied =>
      cases applied with
      | false =>
        simp only [rangeHandle, hreply, resume]
        exact .reading (.ended _)
      | true =>
        simp only [rangeHandle, hreply, resume]
        refine .probing ?_
        split
        · simp only [afterAction]
          split <;> omega
        · have := (htook hreply).resolve_left ‹_›
          omega
  · rw [hsame fun htrue => ?_, h.agree hsettled]
    simp only [rangeHandle, htrue, resume] at hout
    cases hout

/-- The probe of a contain call. -/
theorem Held.probeDrop (h : Held rt key pool)
    (hi : pool.clients[i]? = some (.contain flowId, probingDrop flowId)) (hrules : pool.state.rules = 1)
    (horderly : OrderlyCall rt key.1 pool env (.contain flowId) (.act .probe)) :
    Held rt key (answered rt key.1 pool i env (.contain flowId) (.act .probe) fun reachable : Bool =>
      if reachable then undoing else storing flowId .applied) := by
  obtain ⟨hreachable, hnone⟩ := horderly
  have hstate : (rangeHandle rt key.1 env (.act .probe) pool.state).2 = pool.state := by
    simp only [rangeHandle, afterAction]
    split <;> rfl
  simp only [answered, hstate]
  cases hreply : env.answer with
  | none =>
    simp only [rangeHandle, hreply, resume]
    refine h.advance hi rfl (.reading (.ended _)) fun _ => ?_
    rw [hrules, wanted, if_pos (hnone hreply)]
  | some reachable =>
    cases reachable with
    | true =>
      simp only [rangeHandle, hreply, resume]
      exact h.advance hi rfl (.undoing hrules (hreachable hreply)) fun hout => by cases hout
    | false =>
      simp only [rangeHandle, hreply, resume]
      exact h.advance hi rfl (.storing hrules) fun hout => by cases hout

/-- The rule goes, and nobody needs it. -/
theorem Held.undo (h : Held rt key pool) (hi : pool.clients[i]? = some (.contain flowId, undoing))
    (hrules : pool.state.rules = 1) (hnone : anyApplied pool.state = false) (htook : env.took = true) :
    Held rt key (answered rt key.1 pool i env (.contain flowId) (.act .rollback) fun _ : Bool =>
      refuse .containmentNotObserved) := by
  have hothers := h.othersOutside hi rfl
  have hstate : (rangeHandle rt key.1 env (.act .rollback) pool.state).2 = { pool.state with rules := 0 } := by
    simp only [rangeHandle, htook, if_true, afterAction, hrules]
  have hended : ∀ r, Held rt key
      { state := { pool.state with rules := 0 }, clients := pool.clients.set i (.contain flowId, .done r) } := by
    intro r
    refine h.act hi rfl rfl (.reading (.ended r)) (fun hin => by cases hin) (.inr hothers) fun _ _ => ?_
    rw [wanted, if_neg (by rw [hnone]; exact Bool.false_ne_true)]
  simp only [answered, hstate]
  cases hreply : env.answer <;> simp only [rangeHandle, hreply, resume] <;> exact hended _

/-- A clock reading between the probe and the store. -/
theorem Held.clock (h : Held rt key pool) {op : RangeOp} {state : ContainmentState}
    (hi : pool.clients[i]? = some (op, storing flowId state)) (hin : inside (op, storing flowId state) = true)
    (hclient : ∀ t, ClientAt pool.state op (storingAt flowId state t))
    (hin' : ∀ t, inside (op, storingAt flowId state t) = true) :
    Held rt key (answered rt key.1 pool i env op .now fun now : DateTime =>
      storingAt flowId state now.isoformat) :=
  h.advance hi hin (hclient _) fun hout => absurd ((hin' _).symm.trans hout) Bool.noConfusion

/-- **The flow is recorded as contained.** -/
theorem Held.store (h : Held rt key pool) {t : String}
    (hi : pool.clients[i]? = some (.contain flowId, storingAt flowId .applied t)) (hrules : pool.state.rules = 1)
    (horderly : OrderlyCall rt key.1 pool env (.contain flowId) (.store flowId .applied t)) :
    Held rt key (answered rt key.1 pool i env (.contain flowId) (.store flowId .applied t) fun _ =>
      .ret (.verified .applied t)) := by
  change if env.call.fault then _ else _ at horderly
  by_cases hfault : env.call.fault = true
  · rw [if_pos hfault] at horderly
    simp only [answered, rangeHandle, hfault, if_true, resume]
    refine h.advance hi rfl (.reading (.ended _)) fun _ => ?_
    rw [hrules, wanted, if_pos horderly]
  · rw [if_neg hfault] at horderly
    simp only [answered, rangeHandle, hfault, Bool.false_eq_true, if_false, resume]
    change Held rt key { state := pool.state.stored flowId .applied t, clients := _ }
    refine h.move hi (.reading (.ended _)) (fun hin => by cases hin) (.inr (h.othersOutside hi rfl)) (fun _ _ => ?_)
      (fun row hrow happlied => ?_) h.ledger (by rw [stored_ids]; exact h.keyed)
    · rw [wanted, if_pos horderly.applies]
      exact hrules
    · rcases applied_stored hrow happlied with ⟨hid, -⟩ | ⟨-, row', hmem, happlied', hid⟩
      · rw [hid]
        exact horderly.stored
      · rw [← hid]
        exact (h.authorized row' hmem happlied').stored

/-- The rule of the only contained flow goes. -/
theorem Held.remove (h : Held rt key pool)
    (hi : pool.clients[i]? = some (.rollback flowId, removing flowId))
    (horderly : OrderlyCall rt key.1 pool env (.rollback flowId) (.act .rollback)) :
    Held rt key (answered rt key.1 pool i env (.rollback flowId) (.act .rollback) fun removed : Bool =>
      if removed then probingRollback flowId else refuse .rollbackRuleMissing) := by
  obtain ⟨hsettled, htook, hanswer⟩ := horderly
  have hothers := othersOutside_of_settled hsettled i
  by_cases htrue : env.answer = some true
  · obtain ⟨-, honly⟩ := hanswer (htook htrue)
    have hrules : pool.state.rules = 1 := by rw [h.agree hsettled, wanted, if_pos honly.1]
    have hstate : (rangeHandle rt key.1 env (.act .rollback) pool.state).2 = { pool.state with rules := 0 } := by
      simp only [rangeHandle, htook htrue, if_true, afterAction, hrules]
    simp only [answered, hstate]
    simp only [rangeHandle, htrue, resume, if_true]
    exact h.act hi rfl rfl (.probing rfl (honly.congr rfl)) (fun _ => hothers) (.inr hothers) fun hout => by cases hout
  · have hidle : env.took ≠ true := fun ht => htrue (hanswer ht).1
    have hstate : (rangeHandle rt key.1 env (.act .rollback) pool.state).2 = pool.state := by
      simp only [rangeHandle, hidle, Bool.false_eq_true, if_false]
    simp only [answered, hstate]
    refine h.stay hi ?_ rfl ?_
    all_goals
      cases hreply : env.answer with
      | none =>
        simp only [rangeHandle, hreply, resume]
        first | exact .reading (.ended _) | rfl
      | some removed =>
        cases removed with
        | true => exact absurd hreply htrue
        | false =>
          simp only [rangeHandle, hreply, resume]
          first | exact .reading (.ended _) | rfl

theorem Held.probeRollback (h : Held rt key pool)
    (hi : pool.clients[i]? = some (.rollback flowId, probingRollback flowId)) (hrules : pool.state.rules = 0)
    (honly : OnlyApplied flowId pool.state) (hreply : env.answer = some true) :
    Held rt key (answered rt key.1 pool i env (.rollback flowId) (.act .probe) fun reachable : Bool =>
      if reachable then storing flowId .rolledBack else refuse .rollbackNotObserved) := by
  have hstate : (rangeHandle rt key.1 env (.act .probe) pool.state).2 = pool.state := by
    simp only [rangeHandle, afterAction]
    split <;> rfl
  simp only [answered, hstate]
  simp only [rangeHandle, hreply, resume, if_true]
  exact h.advance hi rfl (.storing hrules honly) fun hout => by cases hout

/-- **The flow is recorded as rolled back.** -/
theorem Held.storeBack (h : Held rt key pool) {t : String}
    (hi : pool.clients[i]? = some (.rollback flowId, storingAt flowId .rolledBack t)) (hrules : pool.state.rules = 0)
    (honly : OnlyApplied flowId pool.state) (hfault : env.call.fault = false) :
    Held rt key (answered rt key.1 pool i env (.rollback flowId) (.store flowId .rolledBack t) fun _ =>
      .ret (.verified .rolledBack t)) := by
  simp only [answered, rangeHandle, hfault, Bool.false_eq_true, if_false, resume]
  change Held rt key { state := pool.state.stored flowId .rolledBack t, clients := _ }
  refine h.move hi (.reading (.ended _)) (fun hin => by cases hin) (.inr (h.othersOutside hi rfl)) (fun _ _ => ?_)
    (fun row hrow happlied => ?_) h.ledger (by rw [stored_ids]; exact h.keyed)
  · rw [wanted, if_neg (by rw [honly.rolledBack]; exact Bool.false_ne_true)]
    exact hrules
  · rcases applied_stored hrow happlied with ⟨-, hstate⟩ | ⟨-, row', hmem, happlied', hid⟩
    · cases hstate
    · rw [← hid]
      exact (h.authorized row' hmem happlied').stored

/-- A playbook operation does not touch the flows, and leaves the contained ones approved. -/
theorem Held.soar (h : Held rt key pool) (hmac : HmacNonempty rt) {op : SoarOp} {c : RepoCall}
    {next : c.Reply → RangeProgram} (hi : pool.clients[i]? = some (.ledger op, .call (.soar c) next))
    (horderly : OrderlyCall rt key.1 pool env (.ledger op) (.soar c)) (q : SoarProgram) :
    Held rt key
      { state := (rangeHandle rt key.1 env (.soar c) pool.state).2
        clients := pool.clients.set i (.ledger op, liftLedger q) } := by
  obtain ⟨hsealed, hevents⟩ := sealed_handle hmac env.call c h.ledger
  have hout : inside (.ledger op, liftLedger q) = false := not_inside_ledger op q
  refine h.move hi ⟨q, rfl⟩ (fun hin => absurd (hout.symm.trans hin) Bool.false_ne_true) (.inl ⟨rfl, rfl⟩)
    (fun _ hothers => h.agree (hothers.settled hi rfl)) (fun row hrow happlied => ?_) hsealed h.keyed
  have hauth := h.authorized row hrow happlied
  refine ⟨hauth.positive, hauth.row, hsealed.verified (hevents (verified_nonempty hauth.chain)) true (by simp), ?_⟩
  refine approved_handle env.call c hauth.approved fun r hc hfault => ?_
  subst hc
  exact horderly hfault row hrow happlied

end

section
variable {rt : Runtime} {key : LedgerSecret} {pool : RangePool} {i : Nat} {env : RangeEnv} {flowId : ℤ}
  {op : RangeOp} {p target : RangeProgram}

/-- The pool after a move of client `i`. -/
def moved (rt : Runtime) (secret : String) (pool : RangePool) (i : Nat) (env : RangeEnv) (op : RangeOp)
    (p : RangeProgram) : RangePool :=
  { state := (stepProgram (rangeHandle rt secret) env p pool.state).2
    clients := pool.clients.set i (op, (stepProgram (rangeHandle rt secret) env p pool.state).1) }

theorem poolStep_moved (secret : String) (env : RangeEnv) (hi : pool.clients[i]? = some (op, p)) :
    (poolStep (rangeHandle rt secret) pool (i, env)).2 = moved rt secret pool i env op p := by
  unfold poolStep moved
  rw [hi]

/-- Among the reads, the first act apart. -/
theorem Held.reading (h : Held rt key pool) (hi : pool.clients[i]? = some (op, p)) (hreads : Reads target p)
    (htarget : inside (op, target) = false) (hplace : ∀ q, Reads target q → ClientAt pool.state op q)
    (hreached : p = target → Held rt key (moved rt key.1 pool i env op p)) :
    Held rt key (moved rt key.1 pool i env op p) := by
  cases hreads with
  | reached => exact hreached rfl
  | ended r => exact h.stay hi (hplace _ (.ended r)) (not_inside_done op r) (not_inside_done op r)
  | call c next hc hnext =>
    refine h.read hi hc fun reply => ⟨hplace _ (.resume hnext reply), ?_⟩
    exact (Reads.resume hnext reply).not_inside htarget

theorem Held.contain_move (h : Held rt key pool) (hi : pool.clients[i]? = some (.contain flowId, p))
    (horderly : Orderly rt key.1 pool (i, env)) : Held rt key (moved rt key.1 pool i env (.contain flowId) p) := by
  cases h.clients i _ p hi with
  | reading hreads =>
    refine h.reading hi hreads rfl (fun q hq => .reading hq) fun hp => ?_
    subst hp
    exact h.drop hi (horderly _ _ _ hi)
  | probing hrules => exact h.probeDrop hi hrules (horderly _ _ _ hi)
  | undoing hrules hnone => exact h.undo hi hrules hnone (horderly _ _ _ hi)
  | storing hrules => exact h.clock hi rfl (fun t => .storingAt hrules t) fun _ => rfl
  | storingAt hrules t => exact h.store hi hrules (horderly _ _ _ hi)

theorem Held.rollback_move (h : Held rt key pool) (hi : pool.clients[i]? = some (.rollback flowId, p))
    (horderly : Orderly rt key.1 pool (i, env)) : Held rt key (moved rt key.1 pool i env (.rollback flowId) p) := by
  cases h.clients i _ p hi with
  | reading hreads =>
    refine h.reading hi hreads rfl (fun q hq => .reading hq) fun hp => ?_
    subst hp
    exact h.remove hi (horderly _ _ _ hi)
  | probing hrules honly => exact h.probeRollback hi hrules honly (horderly _ _ _ hi)
  | storing hrules honly => exact h.clock hi rfl (fun t => .storingAt hrules honly t) fun _ => rfl
  | storingAt hrules honly t => exact h.storeBack hi hrules honly (horderly _ _ _ hi)

theorem Held.ledger_move (h : Held rt key pool) (hmac : HmacNonempty rt) {op : SoarOp}
    (hi : pool.clients[i]? = some (.ledger op, p)) (horderly : Orderly rt key.1 pool (i, env)) :
    Held rt key (moved rt key.1 pool i env (.ledger op) p) := by
  obtain ⟨q, rfl⟩ := h.clients i _ p hi
  match q with
  | .done (.ok r) => exact h.stay hi ⟨.done (.ok r), rfl⟩ rfl rfl
  | .done (.error e) => exact h.stay hi ⟨.done (.error e), rfl⟩ rfl rfl
  | .call c next =>
    have hmove := fun q => h.soar hmac hi (horderly _ _ _ hi) q
    rcases hreply : (Soar.handle rt key.1 env.call c pool.state.soar).1 with e | a
    · have := hmove (.done (.error e))
      simpa only [moved, liftLedger, stepProgram, rangeHandle, hreply, liftRange, resume] using this
    · have := hmove (next a)
      simpa only [moved, liftLedger, stepProgram, rangeHandle, hreply, liftRange, resume] using this

/-- **An orderly move keeps the invariant.** -/
theorem held_step (hmac : HmacNonempty rt) {move : Nat × RangeEnv} (h : Held rt key pool)
    (horderly : Orderly rt key.1 pool move) : Held rt key (poolStep (rangeHandle rt key.1) pool move).2 := by
  obtain ⟨i, env⟩ := move
  cases hi : pool.clients[i]? with
  | none =>
    rw [poolStep, hi]
    exact h
  | some client =>
    obtain ⟨op, p⟩ := client
    rw [poolStep_moved key.1 env hi]
    cases op with
    | contain flowId => exact h.contain_move hi horderly
    | rollback flowId => exact h.rollback_move hi horderly
    | ledger op => exact h.ledger_move hmac hi horderly

end

/-! ## Calls that do not end verified -/

def Verified (p : RangeProgram) : Prop := ∃ state t, p = .done (.ok (.verified state t))

section
variable {rt : Runtime} {key : LedgerSecret} {pool : RangePool} {i : Nat} {env : RangeEnv} {flowId : ℤ}
  {op : RangeOp} {p : RangeProgram} {w : RangeWorld}

/-- A move from outside: no flow changes, and the rule only when the call gets inside. -/
structure OutsideMove (pool : RangePool) (op : RangeOp) (next : RangeProgram × RangeWorld) : Prop where
  flows : next.2.flows = pool.state.flows
  entering : inside (op, next.1) = true → settled pool = true
  rules : inside (op, next.1) = false → next.2.rules = pool.state.rules

theorem outsideMove_same {next : RangeProgram × RangeWorld} (hstate : next.2 = pool.state)
    (hout : inside (op, next.1) = false) : OutsideMove pool op next where
  flows := by rw [hstate]
  entering hin := absurd (hout.symm.trans hin) Bool.false_ne_true
  rules _ := by rw [hstate]

theorem outsideMove_drop (hi : pool.clients[i]? = some (.contain flowId, dropping flowId))
    (horderly : Orderly rt key.1 pool (i, env)) :
    OutsideMove pool (.contain flowId) (stepProgram (rangeHandle rt key.1) env (dropping flowId) pool.state) := by
  obtain ⟨hsettled, -, hanswer⟩ := horderly _ _ _ hi
  constructor
  · simp only [dropping, stepProgram, rangeHandle]
    split <;> rfl
  · exact fun _ => hsettled
  · intro hout
    have hno : env.answer ≠ some true := by
      intro htrue
      simp only [dropping, stepProgram, rangeHandle, htrue, resume] at hout
      cases hout
    simp only [dropping, stepProgram, rangeHandle]
    split
    · exact if_neg (Nat.pos_iff_ne_zero.1 ((hanswer ‹_›).resolve_left hno))
    · rfl

theorem outsideMove_remove (hi : pool.clients[i]? = some (.rollback flowId, removing flowId))
    (horderly : Orderly rt key.1 pool (i, env)) :
    OutsideMove pool (.rollback flowId) (stepProgram (rangeHandle rt key.1) env (removing flowId) pool.state) := by
  obtain ⟨hsettled, -, hanswer⟩ := horderly _ _ _ hi
  constructor
  · simp only [removing, stepProgram, rangeHandle]
    split <;> rfl
  · exact fun _ => hsettled
  · intro hout
    have hidle : env.took ≠ true := by
      intro htook
      have htrue : env.answer = some true := (hanswer htook).1
      simp only [removing, stepProgram, rangeHandle, htrue, resume] at hout
      cases hout
    simp only [removing, stepProgram, rangeHandle]
    exact congrArg RangeWorld.rules (if_neg hidle)

theorem Held.outsideMove (h : Held rt key pool) (hi : pool.clients[i]? = some (op, p))
    (horderly : Orderly rt key.1 pool (i, env)) (hout : inside (op, p) = false) :
    OutsideMove pool op (stepProgram (rangeHandle rt key.1) env p pool.state) := by
  have hclient := h.clients i op p hi
  cases op with
  | contain flowId =>
    cases hclient with
    | reading hreads =>
      cases hreads with
      | reached => exact outsideMove_drop hi horderly
      | ended r => exact outsideMove_same rfl rfl
      | call c next hc hnext =>
        exact outsideMove_same (rangeHandle_reads hc env pool.state) ((Reads.resume hnext _).not_inside rfl)
    | probing | undoing | storing | storingAt => cases hout
  | rollback flowId =>
    cases hclient with
    | reading hreads =>
      cases hreads with
      | reached => exact outsideMove_remove hi horderly
      | ended r => exact outsideMove_same rfl rfl
      | call c next hc hnext =>
        exact outsideMove_same (rangeHandle_reads hc env pool.state) ((Reads.resume hnext _).not_inside rfl)
    | probing | storing | storingAt => cases hout
  | ledger op =>
    obtain ⟨q, rfl⟩ := hclient
    match q with
    | .done (.ok r) => exact outsideMove_same rfl rfl
    | .done (.error e) => exact outsideMove_same rfl rfl
    | .call c next =>
      refine ⟨rfl, fun hin => ?_, fun _ => rfl⟩
      simp only [liftLedger, stepProgram, rangeHandle] at hin
      rcases (Soar.handle rt key.1 env.call c pool.state.soar).1 with e | a
      · cases hin
      · exact absurd ((not_inside_ledger op (next a)).symm.trans hin) Bool.false_ne_true

/-- From inside, only the store that ends a call changes a flow. -/
theorem ClientAt.insideMove (hclient : ClientAt pool.state op p) (hin : inside (op, p) = true) :
    (stepProgram (rangeHandle rt key.1) env p pool.state).2.flows = pool.state.flows ∨
      Verified (stepProgram (rangeHandle rt key.1) env p pool.state).1 := by
  have hact : ∀ (action : RangeAction) (next : Bool → RangeProgram),
      (stepProgram (rangeHandle rt key.1) env (.call (.act action) next) pool.state).2.flows = pool.state.flows := by
    intro action next
    simp only [stepProgram, rangeHandle]
    split <;> rfl
  have hstore : ∀ (flowId : ℤ) (state : ContainmentState) (t : String),
      (stepProgram (rangeHandle rt key.1) env (storingAt flowId state t) pool.state).2.flows = pool.state.flows ∨
        Verified (stepProgram (rangeHandle rt key.1) env (storingAt flowId state t) pool.state).1 := by
    intro flowId state t
    by_cases hfault : env.call.fault = true
    · left
      simp only [storingAt, stepProgram, rangeHandle, hfault, if_true]
    · right
      refine ⟨state, t, ?_⟩
      simp only [storingAt, stepProgram, rangeHandle, hfault, Bool.false_eq_true, if_false, resume]
      rfl
  cases op with
  | contain flowId =>
    cases hclient with
    | reading hreads => exact absurd ((hreads.not_inside rfl).symm.trans hin) Bool.false_ne_true
    | probing | undoing => exact .inl (hact _ _)
    | storing => exact .inl rfl
    | storingAt h t => exact hstore _ _ _
  | rollback flowId =>
    cases hclient with
    | reading hreads => exact absurd ((hreads.not_inside rfl).symm.trans hin) Bool.false_ne_true
    | probing => exact .inl (hact _ _)
    | storing => exact .inl rfl
    | storingAt h t => exact hstore _ _ _
  | ledger op =>
    obtain ⟨q, rfl⟩ := hclient
    exact absurd ((not_inside_ledger op q).symm.trans hin) Bool.false_ne_true

end

/-! ## A contained flow can be rolled back -/

/-- The databases answer; the runner acts and says so. -/
structure Willing (env : RangeEnv) : Prop where
  files : env.files = true
  fault : env.call.fault = false
  answer : env.answer = some true
  took : env.took = true

/-- Called alone, `rollback_range_source` ends verified and the flow is no longer contained. -/
def CanRollBack (rt : Runtime) (secret : String) (flowId : ℤ) (w : RangeWorld) : Prop :=
  ∀ envs : Nat → RangeEnv, (∀ n, Willing (envs n)) → ∃ t w',
    run (rangeHandle rt secret) envs (rollbackRangeSource flowId) w = (.ok (.verified .rolledBack t), w') ∧
      ∀ row ∈ w'.flows, row.flowId = flowId → row.containmentState = some .rolledBack

section
variable {rt : Runtime} {secret : String} {flowId : ℤ} {w : RangeWorld} {envs : Nat → RangeEnv}

theorem stored_rolledBack {t : String} {row : LiveFlow} (hrow : row ∈ (w.stored flowId .rolledBack t).flows)
    (hid : row.flowId = flowId) : row.containmentState = some .rolledBack := by
  obtain ⟨row', -, rfl⟩ := List.mem_map.1 hrow
  rw [LiveFlow.stored_flowId] at hid
  rw [LiveFlow.stored, if_pos hid]

theorem answer_isFile {env : RangeEnv} (h : env.files = true) :
    rangeHandle rt secret env .isFile w = (.ok true, w) := by
  simp only [rangeHandle, h]

theorem answer_selectFlow {env : RangeEnv} {flow : LiveFlow} (h : env.call.fault = false)
    (hfind : w.flows.find? (·.flowId = flowId) = some flow) :
    rangeHandle rt secret env (.selectFlow flowId) w = (.ok (some flow), w) := by
  simp only [rangeHandle, h, Bool.false_eq_true, if_false, hfind]

theorem answer_verify {env : RangeEnv} (h : env.call.fault = false) :
    rangeHandle rt secret env (.soar (.verifyAuditChainIntegrity none true)) w =
      (.ok (verifyAuditChainIntegrity rt secret none true w.soar), w) := by
  simp only [rangeHandle, Soar.handle, h, Bool.false_eq_true, if_false, liftRange]

theorem answer_listRecords {env : RangeEnv} (h : env.call.fault = false) (candidateId : String) :
    rangeHandle rt secret env (.listRecordsForCandidate candidateId) w =
      (.ok (w.soar.records.filter (·.candidateId = candidateId)), w) := by
  simp only [rangeHandle, h, Bool.false_eq_true, if_false]

theorem answer_store {env : RangeEnv} (h : env.call.fault = false) (state : ContainmentState) (t : String) :
    rangeHandle rt secret env (.store flowId state t) w = (.ok (), w.stored flowId state t) := by
  simp only [rangeHandle, h, Bool.false_eq_true, if_false, RangeWorld.stored]

theorem Approved.listed {db : SoarDb} (h : Approved flowId db) :
    ((db.records.filter (·.candidateId = candidateOfFlow flowId)).any fun r => authorizes r.state) = true := by
  obtain ⟨r, hr, hcandidate, hstate⟩ := h
  rw [List.any_eq_true]
  exact ⟨r, List.mem_filter.2 ⟨hr, decide_eq_true hcandidate⟩, hstate⟩

theorem run_rollback (hauthorized : Authorized rt secret flowId w) {flow : LiveFlow}
    (hfind : w.flows.find? (·.flowId = flowId) = some flow) (happlied : flow.containmentState = some .applied)
    (hwilling : ∀ n, Willing (envs n)) : ∃ t,
    run (rangeHandle rt secret) envs (rollbackRangeSource flowId) w =
      (.ok (.verified .rolledBack t), { w.stored flowId .rolledBack t with rules := w.rules - 1 }) := by
  obtain ⟨flow', hfind', hrefusal⟩ := hauthorized.row
  obtain rfl := Option.some.inj (hfind.symm.trans hfind')
  have hact : ∀ n (action : RangeAction) w, rangeHandle rt secret (envs n) (.act action) w =
      (.ok true, { w with rules := afterAction w.rules action }) := by
    intro n action w
    simp only [rangeHandle, (hwilling n).answer, (hwilling n).took, if_true]
  have hfault := fun n => (hwilling n).fault
  refine ⟨(envs 7).call.now.isoformat, ?_⟩
  rw [rollbackRangeSource, authorized, if_neg (not_le.2 hauthorized.positive)]
  refine (run_answered (answer_isFile (hwilling 0).files)).trans ?_
  refine (run_answered (answer_selectFlow (hfault 1) hfind)).trans ?_
  simp only [hrefusal]
  refine (run_answered (answer_verify (hfault 2))).trans ?_
  refine (run_answered (answer_listRecords (hfault 3) _)).trans ?_
  simp only [hauthorized.chain, hauthorized.approved.listed, Bool.and_self, if_true, happlied, ne_eq,
    not_true_eq_false, if_false]
  refine (run_answered (hact 4 .status w)).trans ((run_answered (hact 5 .rollback _)).trans ?_)
  refine (run_answered (hact 6 .probe _)).trans ((run_answered (by rfl)).trans ?_)
  exact run_answered (answer_store (hfault 8) _ _)

theorem Authorized.canRollBack (hauthorized : Authorized rt secret flowId w)
    (hkeyed : (w.flows.map (·.flowId)).Nodup) {row : LiveFlow} (hrow : row ∈ w.flows) (hid : row.flowId = flowId)
    (happlied : row.isApplied = true) : CanRollBack rt secret flowId w := by
  intro envs hwilling
  obtain ⟨flow, hfind, -⟩ := hauthorized.row
  have hflow : flow.flowId = flowId := by simpa using List.find?_some hfind
  obtain rfl : flow = row :=
    List.inj_on_of_nodup_map hkeyed (List.mem_of_find?_eq_some hfind) hrow (hflow.trans hid.symm)
  obtain ⟨t, hrun⟩ := run_rollback hauthorized hfind (of_decide_eq_true happlied) hwilling
  exact ⟨t, _, hrun, fun row' hrow' hid' => stored_rolledBack (w := w) hrow' hid'⟩

end

/-! ## Runs -/

/-- **What is asked of a run.** -/
structure ContainmentHolds (rt : Runtime) (secret : String) (schedule : List (Nat × RangeEnv))
    (poolAt : Nat → RangePool) : Prop where
  /-- With no call inside, a rule is there exactly when some flow is recorded as contained. -/
  agree : ∀ k, settled (poolAt k) = true →
    (0 < (poolAt k).state.rules ↔ ∃ row ∈ (poolAt k).state.flows, row.containmentState = some .applied)
  /-- From a move of a call that is outside to the first time it is outside again, not verified: nothing changed. -/
  refused : ∀ d e i op p q, d < e → schedule[d]?.map Prod.fst = some i →
    (poolAt d).clients[i]? = some (op, p) → inside (op, p) = false →
    (∀ m, d < m → m < e → ∃ p, (poolAt m).clients[i]? = some (op, p) ∧ inside (op, p) = true) →
    (poolAt e).clients[i]? = some (op, q) → inside (op, q) = false → ¬ Verified q →
    (poolAt e).state.rules = (poolAt d).state.rules ∧ (poolAt e).state.flows = (poolAt d).state.flows
  reversible : ∀ k, ∀ row ∈ (poolAt k).state.flows, row.containmentState = some .applied →
    CanRollBack rt secret row.flowId (poolAt k).state

/-- Where a run starts. -/
structure Consistent (rt : Runtime) (key : LedgerSecret) (w : RangeWorld) : Prop where
  agree : w.rules = wanted w
  authorized : ∀ row ∈ w.flows, row.isApplied = true → Authorized rt key.1 row.flowId w
  ledger : Sealed rt key w.soar
  keyed : (w.flows.map (·.flowId)).Nodup

section
variable {rt : Runtime} {key : LedgerSecret} {ops : List RangeOp} {w : RangeWorld}
  {schedule : List (Nat × RangeEnv)}

theorem held_start (hw : Consistent rt key w) (ops : List RangeOp) : Held rt key (startRange rt ops w) := by
  have hclients : ∀ (i : Nat) op p, (startRange rt ops w).clients[i]? = some (op, p) → p = op.program rt := by
    intro i op p hi
    obtain ⟨op', -, heq⟩ := List.mem_map.1 (List.mem_of_getElem? hi)
    obtain ⟨rfl, rfl⟩ := Prod.mk.inj heq
    rfl
  have hout : ∀ op : RangeOp, inside (op, op.program rt) = false := by
    intro op
    cases op with
    | contain flowId => exact (reads_contain flowId).not_inside rfl
    | rollback flowId => exact (reads_rollback flowId).not_inside rfl
    | ledger op => exact not_inside_ledger op _
  refine ⟨fun i op p hi => ?_, fun i j a b hi _ ha _ => ?_, fun _ => hw.agree, hw.authorized, hw.ledger, hw.keyed⟩
  · rw [hclients i op p hi]
    exact clientAt_start rt w op
  · obtain ⟨op, p⟩ := a
    rw [hclients i op p hi] at ha
    exact absurd ((hout op).symm.trans ha) Bool.false_ne_true

theorem held_run (hmac : HmacNonempty rt) (hw : Consistent rt key w)
    (horderly : ∀ (k : Nat) move, schedule[k]? = some move →
      Orderly rt key.1 (rangeAt rt key.1 ops w schedule k) move) (k : Nat) :
    Held rt key (rangeAt rt key.1 ops w schedule k) :=
  stateAt_inv_of (A := Orderly rt key.1) (fun _ _ h hA => held_step hmac h hA) (held_start hw ops) horderly k

/-- The state after move `m`, when client `j` takes it. -/
theorem rangeAt_succ (secret : String) {m j : Nat} {env : RangeEnv} (hmove : schedule[m]? = some (j, env))
    {op : RangeOp} {p : RangeProgram} (hj : (rangeAt rt secret ops w schedule m).clients[j]? = some (op, p)) :
    rangeAt rt secret ops w schedule (m + 1) = moved rt secret (rangeAt rt secret ops w schedule m) j env op p :=
  (stateAt_succ _ hmove).trans (poolStep_moved secret env hj)

end

section
variable {rt : Runtime} {key : LedgerSecret} {ops : List RangeOp} {w : RangeWorld}
  {schedule : List (Nat × RangeEnv)} {d e i : Nat} {op : RangeOp} {p q : RangeProgram}

/-- While a call that will not end verified is inside, no flow changes. -/
theorem flows_run (hheld : ∀ k, Held rt key (rangeAt rt key.1 ops w schedule k))
    (horderly : ∀ (k : Nat) move, schedule[k]? = some move →
      Orderly rt key.1 (rangeAt rt key.1 ops w schedule k) move)
    (hmover : schedule[d]?.map Prod.fst = some i) (hd : (rangeAt rt key.1 ops w schedule d).clients[i]? = some (op, p))
    (hout : inside (op, p) = false)
    (hinside : ∀ m, d < m → m < e → ∃ p, (rangeAt rt key.1 ops w schedule m).clients[i]? = some (op, p) ∧
      inside (op, p) = true)
    (he : (rangeAt rt key.1 ops w schedule e).clients[i]? = some (op, q)) (hq : ¬ Verified q) (m : Nat) (hdm : d ≤ m)
    (hme : m ≤ e) :
    (rangeAt rt key.1 ops w schedule m).state.flows = (rangeAt rt key.1 ops w schedule d).state.flows := by
  induction m, hdm using Nat.le_induction with
  | base => rfl
  | succ m hdm ih =>
    rw [← ih (Nat.le_of_succ_le hme)]
    have hheld_m := hheld m
    cases hmove : schedule[m]? with
    | none =>
      rw [rangeAt, stateAt_succ_none _ hmove]
      rfl
    | some move =>
      obtain ⟨j, env⟩ := move
      cases hj : (rangeAt rt key.1 ops w schedule m).clients[j]? with
      | none =>
        have hsame : rangeAt rt key.1 ops w schedule (m + 1) = rangeAt rt key.1 ops w schedule m := by
          refine (stateAt_succ _ hmove).trans ?_
          change (poolStep _ (rangeAt rt key.1 ops w schedule m) (j, env)).2 = _
          rw [poolStep, hj]
        rw [hsame]
      | some client =>
        obtain ⟨op', p'⟩ := client
        have hsucc := rangeAt_succ key.1 hmove hj
        by_cases hin : inside (op', p') = true
        · -- the mover is inside, so it is client `i`, and it did not just end verified
          have hdm' : d < m := by
            refine lt_of_le_of_ne hdm fun heq => ?_
            subst heq
            rw [hmove, Option.map_some, Option.some.injEq] at hmover
            obtain rfl : j = i := hmover
            obtain ⟨rfl, rfl⟩ := Prod.mk.inj (Option.some.inj (hj.symm.trans hd))
            exact absurd (hout.symm.trans hin) Bool.false_ne_true
          obtain ⟨p₁, hi, hin₁⟩ := hinside m hdm' hme
          obtain rfl : j = i := hheld_m.alone j i _ _ hj hi hin hin₁
          obtain ⟨rfl, rfl⟩ := Prod.mk.inj (Option.some.inj (hj.symm.trans hi))
          have hmoved : (rangeAt rt key.1 ops w schedule (m + 1)).clients[j]? =
              some (op', (stepProgram (rangeHandle rt key.1) env p' (rangeAt rt key.1 ops w schedule m).state).1) := by
            rw [hsucc]
            exact List.getElem?_set_self (List.getElem?_eq_some_iff.1 hj).1
          rw [hsucc]
          refine ((hheld_m.clients j op' p' hj).insideMove hin).resolve_right fun hverified => ?_
          rcases Nat.lt_or_eq_of_le hme with hlt | heq
          · obtain ⟨p₂, hi₂, hin₂⟩ := hinside (m + 1) (Nat.lt_succ_of_le hdm) hlt
            obtain ⟨-, rfl⟩ := Prod.mk.inj (Option.some.inj (hi₂.symm.trans hmoved))
            obtain ⟨state, t, hdone⟩ := hverified
            rw [hdone] at hin₂
            exact absurd ((not_inside_done _ _).symm.trans hin₂) Bool.false_ne_true
          · rw [heq] at hmoved
            obtain ⟨-, rfl⟩ := Prod.mk.inj (Option.some.inj (he.symm.trans hmoved))
            exact hq hverified
        · rw [hsucc]
          exact (hheld_m.outsideMove hj (horderly m _ hmove) (by simpa using hin)).flows

/-- When a call comes out, everybody is outside. -/
theorem settled_after (hheld : Held rt key (rangeAt rt key.1 ops w schedule e))
    (hi : (rangeAt rt key.1 ops w schedule e).clients[i]? = some (op, p)) (hin : inside (op, p) = true)
    (hi' : (rangeAt rt key.1 ops w schedule (e + 1)).clients[i]? = some (op, q)) (hout : inside (op, q) = false) :
    settled (rangeAt rt key.1 ops w schedule (e + 1)) = true := by
  have hne : rangeAt rt key.1 ops w schedule (e + 1) ≠ rangeAt rt key.1 ops w schedule e := by
    intro heq
    rw [heq, hi] at hi'
    obtain ⟨-, rfl⟩ := Prod.mk.inj (Option.some.inj hi')
    exact absurd (hout.symm.trans hin) Bool.false_ne_true
  cases hmove : schedule[e]? with
  | none => exact absurd (stateAt_succ_none _ hmove) hne
  | some move =>
    obtain ⟨j, env⟩ := move
    cases hj : (rangeAt rt key.1 ops w schedule e).clients[j]? with
    | none =>
      refine absurd ((stateAt_succ _ hmove).trans ?_) hne
      change (poolStep _ (rangeAt rt key.1 ops w schedule e) (j, env)).2 = _
      rw [poolStep, hj]
    | some client =>
      obtain ⟨op', p'⟩ := client
      have hsucc := rangeAt_succ key.1 hmove hj
      rw [hsucc] at hi' ⊢
      rcases getElem?_set_cases hi' with ⟨rfl, heq⟩ | ⟨hne', hi'⟩
      · obtain ⟨rfl, rfl⟩ := Prod.mk.inj (Option.some.inj (hj.symm.trans hi))
        refine (settled_set hj).2 ⟨?_, hheld.othersOutside hj hin⟩
        rw [← (Prod.mk.inj heq).2]
        exact hout
      · obtain ⟨-, rfl⟩ := Prod.mk.inj (Option.some.inj (hi.symm.trans hi'))
        exact absurd (hout.symm.trans hin) Bool.false_ne_true

theorem refused_run (hheld : ∀ k, Held rt key (rangeAt rt key.1 ops w schedule k))
    (horderly : ∀ (k : Nat) move, schedule[k]? = some move →
      Orderly rt key.1 (rangeAt rt key.1 ops w schedule k) move) (hde : d < e)
    (hmover : schedule[d]?.map Prod.fst = some i) (hd : (rangeAt rt key.1 ops w schedule d).clients[i]? = some (op, p))
    (hout : inside (op, p) = false)
    (hinside : ∀ m, d < m → m < e → ∃ p, (rangeAt rt key.1 ops w schedule m).clients[i]? = some (op, p) ∧
      inside (op, p) = true)
    (he : (rangeAt rt key.1 ops w schedule e).clients[i]? = some (op, q)) (hout' : inside (op, q) = false)
    (hq : ¬ Verified q) :
    (rangeAt rt key.1 ops w schedule e).state.rules = (rangeAt rt key.1 ops w schedule d).state.rules ∧
      (rangeAt rt key.1 ops w schedule e).state.flows = (rangeAt rt key.1 ops w schedule d).state.flows := by
  have hflows := flows_run hheld horderly hmover hd hout hinside he hq e (Nat.le_of_lt hde) (Nat.le_refl e)
  refine ⟨?_, hflows⟩
  obtain ⟨⟨j, env⟩, hmove, hj⟩ := Option.map_eq_some_iff.1 hmover
  obtain rfl : j = i := hj
  have hsucc := rangeAt_succ key.1 hmove hd
  have hfirst := (hheld d).outsideMove hd (horderly d _ hmove) hout
  have hself : (rangeAt rt key.1 ops w schedule (d + 1)).clients[j]? =
      some (op, (stepProgram (rangeHandle rt key.1) env p (rangeAt rt key.1 ops w schedule d).state).1) := by
    rw [hsucc]
    exact List.getElem?_set_self (List.getElem?_eq_some_iff.1 hd).1
  rcases Nat.lt_or_eq_of_le (Nat.succ_le_of_lt hde) with hlt | rfl
  · -- it went inside: settled before and after, so the flows decide the rule
    obtain ⟨p₁, hi₁, hin₁⟩ := hinside (d + 1) (Nat.lt_succ_self d) hlt
    obtain ⟨-, rfl⟩ := Prod.mk.inj (Option.some.inj (hi₁.symm.trans hself))
    obtain ⟨e, rfl⟩ : ∃ e', e = e' + 1 := ⟨e - 1, by omega⟩
    obtain ⟨p₂, hi₂, hin₂⟩ := hinside e (by omega) (by omega)
    rw [(hheld (e + 1)).agree (settled_after (hheld e) hi₂ hin₂ he hout'), (hheld d).agree (hfirst.entering hin₁),
      wanted, wanted, anyApplied_congr hflows]
  · obtain ⟨-, rfl⟩ := Prod.mk.inj (Option.some.inj (he.symm.trans hself))
    rw [hsucc]
    exact hfirst.rules hout'

end

/-- **Rule and records agree** in every run of orderly moves. -/
theorem containment_agrees (rt : Runtime) (key : LedgerSecret) (hmac : HmacNonempty rt) (ops : List RangeOp)
    (w : RangeWorld) (hw : Consistent rt key w) (schedule : List (Nat × RangeEnv))
    (horderly : ∀ (k : Nat) move, schedule[k]? = some move →
      Orderly rt key.1 (rangeAt rt key.1 ops w schedule k) move) :
    ContainmentHolds rt key.1 schedule (rangeAt rt key.1 ops w schedule) := by
  have hheld := held_run hmac hw horderly
  refine ⟨fun k hsettled => ?_, fun d e i op p q hde hmover hd hout hinside he hout' hq => ?_,
    fun k row hrow happlied => ?_⟩
  · rw [(hheld k).agree hsettled, wanted]
    have hany : anyApplied (rangeAt rt key.1 ops w schedule k).state = true ↔
        ∃ row ∈ (rangeAt rt key.1 ops w schedule k).state.flows, row.containmentState = some .applied := by
      rw [anyApplied_iff]
      simp only [LiveFlow.isApplied, decide_eq_true_eq]
    rw [← hany]
    split <;> simp [*]
  · exact refused_run hheld horderly hde hmover hd hout hinside he hout' hq
  · have happlied' : row.isApplied = true := decide_eq_true happlied
    exact ((hheld k).authorized row hrow happlied').canRollBack (hheld k).keyed hrow rfl happlied'

/-! ## A flow contained, and a rollback that loses it -/

def sampleFlow : LiveFlow where
  flowId := 7
  srcEntityId := some RANGE_CONTAINMENT_SOURCE
  callbackRecorded := true
  callbackSignature := some "6b86b273ff34fce19d6b804eff5a3f5747ada4eaa22f1d49c01e52ddb7875b4b"

/-- The ledger of `approvedWorld`, its record for the flow. -/
def sampleWorld : RangeWorld where
  flows := [sampleFlow]
  soar := { approvedWorld.soar with records := [{ approvedSample with candidateId := candidateOfFlow 7 }] }
  rules := 0

theorem sampleWorld_sealed : Sealed sampleRuntime sampleKey sampleWorld.soar :=
  ⟨approvedWorld_sealed.chain, approvedWorld_sealed.head, approvedWorld_sealed.unsealed⟩

theorem sampleWorld_authorized : Authorized sampleRuntime sampleKey.1 7 sampleWorld where
  positive := by decide
  row := ⟨sampleFlow, rfl, by decide⟩
  chain := sampleWorld_sealed.verified (by decide +kernel) true (by simp)
  approved := ⟨_, List.mem_singleton.2 rfl, rfl, rfl⟩

theorem sampleWorld_consistent : Consistent sampleRuntime sampleKey sampleWorld where
  agree := rfl
  authorized row hrow happlied := by
    obtain rfl := List.mem_singleton.1 hrow
    cases happlied
  ledger := sampleWorld_sealed
  keyed := List.nodup_singleton _

/-- The runner obeys; the seventh call, the probe, does not get through. -/
def blockedEnv (n : Nat) : RangeEnv :=
  { call := { uuid := "", now := sampleMorning 20 0 }, answer := some (n != 6), took := true }

section
variable {rt : Runtime} {secret : String} {w : RangeWorld} {flowId : ℤ} {flow : LiveFlow}
  {P : (c : RangeCall) → (c.Reply → RangeProgram) → RangeEnv → RangeWorld → Prop} {m : Nat}
  {next : LiveFlow → RangeProgram} {r : Except RangeError RangeResult} {w' : RangeWorld}

theorem act_blocked (n : Nat) (action : RangeAction) (w : RangeWorld) :
    rangeHandle rt secret (blockedEnv n) (.act action) w =
      (.ok (n != 6), { w with rules := afterAction w.rules action }) := rfl

/-- The four reads of an authorized call. -/
theorem Authorized.walk (h : Authorized rt secret flowId w) (hfind : w.flows.find? (·.flowId = flowId) = some flow)
    (hreads : ∀ (c : RangeCall) next env, ReadsOnly c → P c next env w)
    (hrest : Walk (rangeHandle rt secret) P m (fun n => blockedEnv (n + 4)) (next flow) w r w') :
    Walk (rangeHandle rt secret) P (m + 4) blockedEnv (authorized flowId next) w r w' := by
  obtain ⟨flow', hfind', hrefusal⟩ := h.row
  obtain rfl := Option.some.inj (hfind.symm.trans hfind')
  rw [authorized, if_neg (not_le.2 h.positive)]
  refine .call (hreads _ _ _ trivial) (answer_isFile rfl) ?_
  refine .call (hreads _ _ _ trivial) (answer_selectFlow rfl hfind) ?_
  simp only [hrefusal]
  refine .call (hreads _ _ _ trivial) (answer_verify rfl) (.call (hreads _ _ _ trivial) (answer_listRecords rfl _) ?_)
  simp only [h.chain, h.approved.listed, Bool.and_self, if_true]
  exact hrest

end

def containedAt : String := (sampleMorning 20 0).isoformat

/-- One rule, and the flow recorded as contained. -/
def containedWorld : RangeWorld := { sampleWorld.stored 7 .applied containedAt with rules := 1 }

theorem containedWorld_authorized : Authorized sampleRuntime sampleKey.1 7 containedWorld := by
  have hstored : Authorized sampleRuntime sampleKey.1 7 (sampleWorld.stored 7 .applied containedAt) :=
    sampleWorld_authorized.stored
  exact hstored.congr rfl rfl

theorem readsOnly_orderly (rt : Runtime) (secret : String) (pool : RangePool) (env : RangeEnv) (op : RangeOp)
    {c : RangeCall} (hc : ReadsOnly c) : OrderlyCall rt secret pool env op c := by
  cases op <;> cases c with
  | act action => cases action <;> first | exact trivial | exact hc.elim
  | now | store => first | exact trivial | exact hc.elim
  | isFile | selectFlow | listRecordsForCandidate => exact trivial
  | soar c => cases c <;> first | exact trivial | exact hc.elim

/-- Flow 7 is contained. -/
theorem walk_contain : Walk (rangeHandle sampleRuntime sampleKey.1)
    (fun c next env w =>
      OrderlyCall sampleRuntime sampleKey.1 ⟨w, [(.contain 7, .call c next)]⟩ env (.contain 7) c)
    9 blockedEnv (containRangeSource 7) sampleWorld (.ok (.verified .applied containedAt)) containedWorld := by
  refine sampleWorld_authorized.walk rfl (fun c next env hc => readsOnly_orderly _ _ _ env _ hc) ?_
  refine .call trivial (act_blocked 4 .status _) (.call ?_ (act_blocked 5 .drop _) ?_)
  · exact ⟨rfl, fun _ => .inl rfl, fun _ => .inl rfl⟩
  · refine .call ⟨nofun, nofun⟩ (act_blocked 6 .probe _) (.call trivial rfl (.call ?_ (answer_store rfl _ _) .done))
    exact sampleWorld_authorized.congr rfl rfl

/-- Its rule is removed, the probe is not answered, and the call refuses before the store. -/
theorem walk_lost : Walk (rangeHandle sampleRuntime sampleKey.1) (fun _ _ _ _ => True) 7 blockedEnv
    (rollbackRangeSource 7) containedWorld (.ok (.refused .rollbackNotObserved))
    { containedWorld with rules := 0 } := by
  refine containedWorld_authorized.walk rfl (fun _ _ _ _ => trivial) ?_
  refine .call trivial (act_blocked 4 .status _) (.call trivial (act_blocked 5 .rollback _) ?_)
  exact .call trivial (act_blocked 6 .probe _) .done

theorem containment_agrees_contained :
    ContainmentHolds sampleRuntime sampleKey.1 (moves 0 blockedEnv 9)
      (rangeAt sampleRuntime sampleKey.1 [.contain 7] sampleWorld (moves 0 blockedEnv 9)) := by
  refine containment_agrees sampleRuntime sampleKey sampleRuntime_nonempty [.contain 7] sampleWorld
    sampleWorld_consistent _ fun k move hmove op c next hi => ?_
  obtain ⟨c', next', w, hzero, hp, hpool⟩ := walk_contain.calls (RangeOp.contain 7) k move hmove
  change rangeAt sampleRuntime sampleKey.1 [.contain 7] sampleWorld (moves 0 blockedEnv 9) k = _ at hpool
  rw [hpool, hzero] at hi
  rw [hpool]
  cases hi
  exact hp

/-- A probe that does not get through after the rule is gone: no rule, and the flow stays recorded as contained. -/
theorem rollback_loses_rule :
    Consistent sampleRuntime sampleKey sampleWorld ∧
      ¬ ContainmentHolds sampleRuntime sampleKey.1 (moves 0 blockedEnv 9 ++ moves 1 blockedEnv 7)
        (rangeAt sampleRuntime sampleKey.1 [.contain 7, .rollback 7] sampleWorld
          (moves 0 blockedEnv 9 ++ moves 1 blockedEnv 7)) := by
  refine ⟨sampleWorld_consistent, fun h => ?_⟩
  have hfirst := walk_contain.solo.exec_pool (show [(RangeOp.contain 7, containRangeSource 7),
    (RangeOp.rollback 7, rollbackRangeSource 7)][0]? = some (RangeOp.contain 7, containRangeSource 7) from rfl)
  have hsecond := walk_lost.solo.exec_pool (show [(RangeOp.contain 7, .done (.ok (.verified .applied containedAt))),
    (RangeOp.rollback 7, rollbackRangeSource 7)][1]? = some (RangeOp.rollback 7, rollbackRangeSource 7) from rfl)
  have hend : rangeAt sampleRuntime sampleKey.1 [.contain 7, .rollback 7] sampleWorld
      (moves 0 blockedEnv 9 ++ moves 1 blockedEnv 7) 16 =
      ⟨{ containedWorld with rules := 0 },
        [(.contain 7, .done (.ok (.verified .applied containedAt))),
          (.rollback 7, .done (.ok (.refused .rollbackNotObserved)))]⟩ := by
    have htake : (moves 0 blockedEnv 9 ++ moves 1 blockedEnv 7).take 16 =
        moves 0 blockedEnv 9 ++ moves 1 blockedEnv 7 := List.take_of_length_le (by simp [moves])
    rw [rangeAt, stateAt, htake, exec_append]
    exact (congrArg (fun pool => exec _ pool _) hfirst).trans hsecond
  have hagree := h.agree 16
  rw [hend] at hagree
  exact absurd ((hagree rfl).2 ⟨_, List.mem_singleton.2 rfl, rfl⟩) (Nat.lt_irrefl 0)

end ThreatFusion.LiveConsole.Containment
