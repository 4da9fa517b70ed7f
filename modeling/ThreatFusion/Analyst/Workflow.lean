import ThreatFusion.Analyst.Runs
import Mathlib.Data.Set.List
/-
# Runs of the analyst workflow

Any calls of `transition`, by any actors through any registries, interleaved with new alerts. A transaction is
one step; the clock, the alert database and SQLite answer as they like.

* `listItem_eq`: on consistent tables the list view gives what the detail view gives.
* `transition_cases`: what one call does.
* `workflow_run`: the claims about runs, one field each.
-/
namespace ThreatFusion.Analyst
open Py Alerts HashChain Machine

variable {printable : Char → Bool}

/-- The identifier of every stored candidate passes `is_alert_candidate_id`. -/
theorem isAlertCandidateId_of_candidate {sha256 : Bytes → String} (hsha : ∀ b, isSha256 (sha256 b) = true)
    (c : AlertCandidate sha256) : isAlertCandidateId c.alertCandidateId = true := by
  obtain ⟨parts, hid⟩ := c.id_eq
  rw [hid, isAlertCandidateId]
  generalize ALERT_CANDIDATE_SCHEMA_VERSION ++ ":" = pre
  rw [String.toList_append, ← String.length_toList, List.drop_left, String.ofList_toList, identityDigest, hsha,
    Bool.and_true, List.isPrefixOf_iff_prefix]
  exact List.prefix_append _ _

/-! ## The readers -/

/-- Never the error of a record that does not validate. -/
def Readable {α : Type} (x : Except AnalystStateError α) : Prop := x ≠ .error .databaseRecordInvalid

section
variable {α β : Type}

theorem readable_ok (a : α) : Readable (.ok a) := by simp [Readable]

theorem readable_bind {x : Except AnalystStateError α} {f : α → Except AnalystStateError β} (hx : Readable x)
    (hf : ∀ a, x = .ok a → Readable (f a)) : Readable (x >>= f) := by
  cases x with
  | error e =>
    rw [Except.error_bind]
    exact fun h => hx (by rw [Except.error.inj h])
  | ok a => exact hf a rfl

theorem readable_require (reg : Registry) (transition : Bool) (capability : Option AnalystCapability) :
    Readable (reg.require transition capability) := by
  unfold Readable Registry.require
  repeat' split
  all_goals simp

theorem readable_intArg (lo hi : ℤ) {e : AnalystStateError} (he : e ≠ .databaseRecordInvalid) (v : Value) :
    Readable (intArg lo hi e v) := by
  unfold Readable intArg
  repeat' split
  all_goals simp [he]

theorem readable_raiseReadFault (fault : DbFault) : Readable (raiseReadFault fault) := by
  cases fault <;> simp [Readable, raiseReadFault]

/-- A list of values of `f`, as the list of what they are values of. -/
theorem exists_map_of_forall {f : α → β} {l : List β} (h : ∀ b ∈ l, ∃ a, b = f a) : ∃ l' : List α, l = l'.map f := by
  have hmem : l ∈ Set.range (List.map f) := by
    rw [Set.range_list_map]
    exact fun b hb => (h b hb).imp fun _ ha => ha.symm
  obtain ⟨l', hl'⟩ := hmem
  exact ⟨l', hl'.symm⟩

/-- A stable sort leaves a part alone that is sorted already. -/
theorem filter_insertionSort {r : α → α → Prop} [DecidableRel r] {l : List α} {p : α → Bool}
    (h : (l.filter p).Pairwise r) : (l.insertionSort r).filter p = l.filter p := by
  have hsub : ((l.filter p).filter p).Sublist ((l.insertionSort r).filter p) :=
    (List.sublist_insertionSort h List.filter_sublist).filter p
  simp only [List.filter_filter, Bool.and_self] at hsub
  exact (hsub.eq_of_length ((List.perm_insertionSort r l).filter p).length_eq.symm).symm

end

section
variable {db : AnalystDb}

theorem statesFromRows_rows : ∀ es : List (AnalystTransitionEvent printable),
    statesFromRows (es.map (·.stateRow)) = .ok (es.map (·.snapshot))
  | [] => rfl
  | e :: es => by
    rw [List.map_cons, statesFromRows, stateFromRow_stateRow, statesFromRows_rows es]
    rfl

theorem map_snapshot_of_stateRow {x y : Option (AnalystTransitionEvent printable)}
    (h : x.map (·.stateRow) = y.map (·.stateRow)) : x.map (·.snapshot) = y.map (·.snapshot) := by
  cases x with
  | none => cases y with
    | none => rfl
    | some e => cases h
  | some e => cases y with
    | none => cases h
    | some e' =>
      have hrow : e.stateRow = e'.stateRow := Option.some.inj h
      have hread := (stateFromRow_stateRow e "").symm.trans ((congrArg (fun r => stateFromRow (some r) "") hrow).trans
        (stateFromRow_stateRow e' ""))
      exact congrArg some (Except.ok.inj hread)

theorem rows_inj {es es' : List (AnalystTransitionEvent printable)} (h : es.map (·.row) = es'.map (·.row)) :
    es = es' := by
  have hread := (transitionsFromRows_rows es).symm.trans ((congrArg _ h).trans (transitionsFromRows_rows es'))
  exact Except.ok.inj hread

/-- **The list view of an alert on the page.** -/
theorem listItems_ok (hdb : Consistent printable db) (identifiers : List String)
    (hids : ∀ id ∈ identifiers, isAlertCandidateId id = true) :
    ∃ states events items,
      statesFromRows (db.states.filter (·.alertCandidateId ∈ identifiers)) = .ok states ∧
      transitionsFromRows printable ((db.events.filter (·.alertCandidateId ∈ identifiers)).insertionSort
        fun a b => a.alertCandidateId < b.alertCandidateId ∨
          a.alertCandidateId = b.alertCandidateId ∧ a.sequence ≤ b.sequence) = .ok events ∧
      listItems printable states events identifiers = .ok items := by
  obtain ⟨lasts, hlasts⟩ : ∃ lasts : List (AnalystTransitionEvent printable),
      db.states.filter (·.alertCandidateId ∈ identifiers) = lasts.map (·.stateRow) := by
    refine exists_map_of_forall fun row hrow => ?_
    have hmem := List.mem_of_mem_filter hrow
    obtain ⟨es, hes⟩ := hdb.history row.alertCandidateId
    have hstate := hes.state
    rw [stateRow?_of_mem db hdb.states hmem] at hstate
    obtain ⟨e, -, he⟩ := Option.map_eq_some_iff.1 hstate.symm
    exact ⟨e, he.symm⟩
  obtain ⟨events, hevents⟩ : ∃ events : List (AnalystTransitionEvent printable),
      (db.events.filter (·.alertCandidateId ∈ identifiers)).insertionSort
        (fun a b => a.alertCandidateId < b.alertCandidateId ∨
          a.alertCandidateId = b.alertCandidateId ∧ a.sequence ≤ b.sequence) = events.map (·.row) := by
    refine exists_map_of_forall fun row hrow => ?_
    obtain ⟨-, e, -, -, he⟩ := hdb.event_of_row (List.mem_of_mem_filter ((List.mem_insertionSort _).1 hrow))
    exact ⟨e, he⟩
  have hitem : ∀ id ∈ identifiers, ∃ item, listItem printable (lasts.map (·.snapshot)) events id = .ok item := by
    intro id hid
    obtain ⟨es, hes⟩ := hdb.history id
    have hstate : ((lasts.map (·.snapshot)).find? (·.alertCandidateId = id)).getD (newSnapshot (hids id hid)) =
        snapshotOf (hids id hid) es := by
      have hrow : (lasts.find? (·.alertCandidateId = id)).map (·.stateRow) = es.getLast?.map (·.stateRow) := by
        have hfind : (lasts.find? (·.alertCandidateId = id)).map (·.stateRow) =
            (lasts.map (·.stateRow)).find? (·.alertCandidateId = id) := by rw [List.find?_map]; rfl
        rw [hfind, ← hlasts, List.find?_filter, ← hes.state, stateRow?]
        congr 1
        funext row
        by_cases hrow : row.alertCandidateId = id
        · simp [hrow, hid]
        · simp [hrow]
      rw [snapshotOf, ← map_snapshot_of_stateRow hrow, List.find?_map]
      rfl
    have hmine : events.filter (·.alertCandidateId = id) = es := by
      have hfilter : (db.events.filter (·.alertCandidateId ∈ identifiers)).filter (·.alertCandidateId = id) =
          es.map (·.row) := by
        rw [List.filter_filter, ← hes.rows]
        refine List.filter_congr fun row _ => ?_
        by_cases hrow : row.alertCandidateId = id
        · simp [hrow, hid]
        · simp [hrow]
      have hsorted : (es.map (·.row)).Pairwise fun a b => a.alertCandidateId < b.alertCandidateId ∨
          a.alertCandidateId = b.alertCandidateId ∧ a.sequence ≤ b.sequence := by
        rw [List.pairwise_map, List.pairwise_iff_getElem]
        intro i j hi hj hij
        obtain ⟨halerti, hseqi⟩ := hes.path.get (List.getElem?_eq_getElem hi)
        obtain ⟨halertj, hseqj⟩ := hes.path.get (List.getElem?_eq_getElem hj)
        refine .inr ⟨halerti.trans halertj.symm, ?_⟩
        change es[i].sequence ≤ es[j].sequence
        omega
      refine rows_inj ?_
      have hrows : (events.filter (·.alertCandidateId = id)).map (·.row) =
          (events.map (·.row)).filter (·.alertCandidateId = id) := by rw [List.filter_map]; rfl
      rw [hrows, ← hevents, filter_insertionSort (hfilter ▸ hsorted), hfilter]
    have hfresh : implicitNew id = .ok (newSnapshot (hids id hid)) := (newSnapshot (hids id hid)).new_self
    refine ⟨(id, snapshotOf (hids id hid) es), ?_⟩
    rw [listItem, hfresh, Except.ok_bind]
    dsimp only
    rw [hstate, hmine, validateHistory_eq hes.path, Except.ok_bind]
  have hitems : ∀ ids, (∀ id ∈ ids, id ∈ identifiers) →
      ∃ items, listItems printable (lasts.map (·.snapshot)) events ids = .ok items := by
    intro ids hsub
    induction ids with
    | nil => exact ⟨[], rfl⟩
    | cons id ids ih =>
      obtain ⟨item, hid⟩ := hitem id (hsub id List.mem_cons_self)
      obtain ⟨items, hrest⟩ := ih fun x hx => hsub x (List.mem_cons_of_mem _ hx)
      exact ⟨item :: items, by rw [listItems, hid, hrest]; rfl⟩
  obtain ⟨items, hlist⟩ := hitems identifiers fun _ h => h
  exact ⟨_, events, items, by rw [hlasts, statesFromRows_rows], by rw [hevents, transitionsFromRows_rows], hlist⟩

theorem listAlerts_readable (hdb : Consistent printable db) (registry : Registry)
    (capability : Option AnalystCapability) (limit offset : Value) {page : Option (List String)}
    (hpage : ∀ ids, page = some ids → ∀ id ∈ ids, isAlertCandidateId id = true) (fault : DbFault) :
    Readable (listAlerts printable registry capability limit offset page fault db) := by
  refine readable_bind (readable_require _ _ _) fun _ _ => readable_bind (readable_intArg _ _ (by decide) _) fun _ _ =>
    readable_bind (readable_intArg _ _ (by decide) _) fun _ _ => ?_
  match page, hpage with
  | none, _ => simp [Readable]
  | some [], _ => exact readable_ok _
  | some (id :: ids), hpage =>
    obtain ⟨states, events, items, hstates, hevents, hitems⟩ := listItems_ok hdb (id :: ids) (hpage _ rfl)
    refine readable_bind (readable_raiseReadFault fault) fun _ _ => ?_
    rw [hstates, hevents, Except.ok_bind, Except.ok_bind, hitems]
    exact readable_ok _

theorem getAlert_readable {w : AnalystWorld} (hdb : Consistent printable w.db) (registry : Registry)
    (capability : Option AnalystCapability) (alertCandidateId : Value) (alertsFail : Bool) (fault : DbFault) :
    Readable (getAlert printable registry capability alertCandidateId alertsFail fault w) := by
  refine readable_bind (readable_require _ _ _) fun _ _ => readable_bind ?_ fun identifier _ => ?_
  · unfold Readable textArg
    repeat' split
    all_goals simp
  · unfold getCandidate
    split
    · exact readable_ok _
    · rename_i e hne he
      split at he
      · cases he
        simp [Readable]
      · split at he
        · cases he
        · cases he
          exact absurd rfl hne
    · obtain ⟨es, hes⟩ := hdb.history identifier.1
      refine readable_bind (readable_raiseReadFault fault) fun _ _ => ?_
      rw [readHistory_eq hes identifier.2, Except.ok_bind]
      exact readable_ok _

end

/-! ## Runs -/

inductive WorkflowInput where
  /-- A candidate is stored in the alert database. -/
  | alert (alertCandidateId : { s : String // isAlertCandidateId s = true })
  | transition (call : TransitionCall) (env : CallEnv)

def workflowStep (printable : Char → Bool) (w : AnalystWorld) :
    WorkflowInput → Option (Except AnalystStateError (AnalystTransitionResult printable)) × AnalystWorld
  | .alert id => (none, { w with alerts := w.alerts ++ [id.1] })
  | .transition call env => (some (transition printable call env w).1, (transition printable call env w).2)

/-- The world before input `k`. -/
def worldAt (printable : Char → Bool) (inputs : List WorkflowInput) (k : Nat) : AnalystWorld :=
  stateAt (workflowStep printable) {} inputs k

/-- What input `k` was answered, when it is a call. -/
def replyAt (printable : Char → Bool) (inputs : List WorkflowInput) (k : Nat) :
    Option (Except AnalystStateError (AnalystTransitionResult printable)) :=
  (inputs[k]?).bind fun input => (workflowStep printable (worldAt printable inputs k) input).1

/-- The arguments that a row was written for. -/
def EventRow.args (row : EventRow) : TransitionArgs :=
  ⟨.str row.alertCandidateId, .int row.expectedVersion, .str row.toState.text, .str row.transitionId, .str row.rationale⟩

/-- Every use of a recorded identifier that `admitted` lets through is the recorded one, or a conflict. -/
def IdentityGuarded (printable : Char → Bool) (admitted : TransitionCall → CallEnv → AnalystWorld → Prop)
    (inputs : List WorkflowInput) : Prop :=
  ∀ k call env row, inputs[k]? = some (.transition call env) → row ∈ (worldAt printable inputs k).db.events →
    call.args.transitionId = .str row.transitionId →
    ¬ (call.args = row.args ∧ call.registry.require true call.capability = .ok row.actorId) →
    admitted call env (worldAt printable inputs k) →
    replyAt printable inputs k = some (.error .transitionIdentityConflict)

/-- The call is authorized, its arguments pass, its alert is stored, and no database fails. -/
def Prepared (printable : Char → Bool) (call : TransitionCall) (env : CallEnv) (w : AnalystWorld) : Prop :=
  ∃ ready, prepare printable call env w.alerts = .ok ready

/-- **What is asked of a run.** -/
structure WorkflowRun (printable : Char → Bool) (inputs : List WorkflowInput) : Prop where
  histories : ∀ k id, isAlertCandidateId id = true → ∃ state es,
    readHistory printable id (worldAt printable inputs k).db = .ok (state, es) ∧ state.version = es.length ∧
    es.map (fun e => (e.fromState, e.toState)) ∈
      [[], [(.new, .inReview)], [(.new, .inReview), (.inReview, .closed)],
        [(.new, AnalystState.inReview), (.inReview, .escalated)]]
  got : ∀ k registry capability id alertsFail fault,
    Readable (getAlert printable registry capability id alertsFail fault (worldAt printable inputs k))
  listed : ∀ k registry capability limit offset page fault,
    (∀ ids, page = some ids → ∀ id ∈ ids, id ∈ (worldAt printable inputs k).alerts) →
    Readable (listAlerts printable registry capability limit offset page fault (worldAt printable inputs k).db)
  once : ∀ k l r r', replyAt printable inputs k = some (.ok r) → replyAt printable inputs l = some (.ok r') →
    r.disposition = .created → r'.disposition = .created →
    r.transition.alertCandidateId = r'.transition.alertCandidateId →
    r.transition.expectedVersion = r'.transition.expectedVersion → k = l
  raised : ∀ k e, replyAt printable inputs k = some (.error e) →
    worldAt printable inputs (k + 1) = worldAt printable inputs k
  repeated : ∀ (k l : Nat) call env call' env' actor r, k < l → inputs[k]? = some (.transition call env) →
    replyAt printable inputs k = some (.ok r) → inputs[l]? = some (.transition call' env') → call'.args = call.args →
    call.registry.require true call.capability = .ok actor →
    call'.registry.require true call'.capability = .ok actor → env'.alertsFail = false → env'.fault = .none →
    (∃ state, replyAt printable inputs l = some (.ok ⟨.existing, state, r.transition⟩)) ∧
      worldAt printable inputs (l + 1) = worldAt printable inputs l
  guarded : IdentityGuarded printable (Prepared printable) inputs

section
variable {inputs : List WorkflowInput}

/-! ### The preliminaries of a call -/

theorem textArg_eq_ok {test : String → Bool} {e : AnalystStateError} {v : Value} {s : { s // test s = true }} :
    textArg test e v = .ok s ↔ v = .str s.1 := by
  unfold textArg
  cases v with
  | str t =>
    by_cases h : test t = true
    · simp [h, Subtype.ext_iff]
    · simp only [h, dite_false, reduceCtorEq, Value.str.injEq, false_iff, Bool.false_eq_true]
      rintro rfl
      exact h s.2
  | int n | other => simp

theorem versionArg_eq_ok {v : Value} {n : { n : ℤ // 0 ≤ n ∧ n ≤ 2 }} : versionArg v = .ok n ↔ v = .int n.1 := by
  unfold versionArg
  cases v with
  | int m =>
    by_cases h : 0 ≤ m ∧ m ≤ 2
    · simp [h, Subtype.ext_iff]
    · simp only [h, dite_false, reduceCtorEq, Value.int.injEq, false_iff]
      rintro rfl
      exact h n.2
  | str s | other => simp

theorem text_inj : ∀ {s t : AnalystState}, s.text = t.text → s = t := by
  intro s t h
  cases s <;> cases t <;> first | rfl | exact absurd h (by decide)

theorem targetArg_eq_ok {v : Value} {s : { s : AnalystState // s ≠ .new }} :
    targetArg v = .ok s ↔ v = .str s.1.text := by
  constructor
  · intro h
    cases v with
    | str t =>
      rw [targetArg] at h
      split_ifs at h with h1 h2 h3
      · rw [← Except.ok.inj h, h1]
      · rw [← Except.ok.inj h, h2]
      · rw [← Except.ok.inj h, h3]
    | int n | other => cases h
  · rintro rfl
    obtain ⟨s, hs⟩ := s
    cases s with
    | new => exact absurd rfl hs
    | inReview | closed | escalated => simp [targetArg, AnalystState.text]

theorem checkArgs_eq_ok {args : TransitionArgs} {request : TransitionRequest printable} :
    checkArgs printable args = .ok request ↔
      args = ⟨.str request.alertCandidateId.1, .int request.expectedVersion.1, .str request.toState.1.text,
        .str request.transitionId.1, .str request.rationale.1⟩ := by
  obtain ⟨alert, version, target, id, rationale⟩ := args
  obtain ⟨alert', version', target', id', rationale'⟩ := request
  simp only [checkArgs, Except.bind_eq_ok, textArg_eq_ok, versionArg_eq_ok, targetArg_eq_ok, Except.ok.injEq,
    TransitionRequest.mk.injEq, TransitionArgs.mk.injEq]
  constructor
  · rintro ⟨_, rfl, _, rfl, _, rfl, _, rfl, _, rfl, rfl, rfl, rfl, rfl, rfl⟩
    exact ⟨rfl, rfl, rfl, rfl, rfl⟩
  · rintro ⟨rfl, rfl, rfl, rfl, rfl⟩
    exact ⟨_, rfl, _, rfl, _, rfl, _, rfl, _, rfl, rfl, rfl, rfl, rfl, rfl⟩

theorem getCandidate_eq_ok {fail : Bool} {id : String} {alerts : List String} :
    getCandidate fail id alerts = .ok () ↔ fail = false ∧ id ∈ alerts := by
  unfold getCandidate
  cases fail with
  | true => simp
  | false => by_cases h : id ∈ alerts <;> simp [h]

theorem raiseFault_eq_ok {fault : DbFault} : raiseFault fault = .ok () ↔ fault = .none := by
  cases fault <;> simp [raiseFault]

/-- **When a call reaches its transaction.** -/
theorem prepare_eq_ok {call : TransitionCall} {env : CallEnv} {alerts : List String} {actorId : String}
    {request : TransitionRequest printable} :
    prepare printable call env alerts = .ok (actorId, request) ↔
      call.registry.require true call.capability = .ok actorId ∧ checkArgs printable call.args = .ok request ∧
      (env.alertsFail = false ∧ request.alertCandidateId.1 ∈ alerts) ∧ env.fault = .none := by
  simp only [prepare, Except.bind_eq_ok, Except.ok.injEq, Prod.mk.injEq]
  constructor
  · rintro ⟨actor, hactor, request', hrequest, u, hcandidate, u', hfault, rfl, rfl⟩
    exact ⟨hactor, hrequest, getCandidate_eq_ok.1 hcandidate, raiseFault_eq_ok.1 hfault⟩
  · rintro ⟨hactor, hrequest, hcandidate, hfault⟩
    exact ⟨_, hactor, _, hrequest, (), getCandidate_eq_ok.2 hcandidate, (), raiseFault_eq_ok.2 hfault, rfl, rfl⟩

/-- A recorded event is used again exactly by its own arguments and actor. -/
theorem sameUse_iff {e : AnalystTransitionEvent printable} {actorId : String} {args : TransitionArgs}
    {request : TransitionRequest printable} (hargs : checkArgs printable args = .ok request)
    (hid : e.transitionId = request.transitionId.1) :
    sameUse e actorId request = true ↔ args = e.row.args ∧ actorId = e.actorId := by
  rw [checkArgs_eq_ok.1 hargs]
  simp only [sameUse, Bool.and_eq_true, beq_iff_eq, EventRow.args, AnalystTransitionEvent.row,
    TransitionArgs.mk.injEq, Value.str.injEq, Value.int.injEq]
  constructor
  · rintro ⟨⟨⟨⟨h1, h2⟩, h3⟩, h4⟩, h5⟩
    exact ⟨⟨h1.symm, h2.symm, by rw [h3], hid.symm, h5.symm⟩, h4.symm⟩
  · rintro ⟨⟨h1, h2, h3, -, h5⟩, h4⟩
    exact ⟨⟨⟨⟨h1.symm, h2.symm⟩, (text_inj h3).symm⟩, h4.symm⟩, h5.symm⟩

/-! ### One call -/

/-- The call has the arguments and the actor of the event. -/
def UsedBy (call : TransitionCall) (event : AnalystTransitionEvent printable) : Prop :=
  call.args = event.row.args ∧ call.registry.require true call.capability = .ok event.actorId

/-- What a call does. -/
inductive Calls (printable : Char → Bool) (call : TransitionCall) (env : CallEnv) (w : AnalystWorld) : Prop where
  | refused (e : AnalystStateError) (h : transition printable call env w = (.error e, w))
  | replayed (event : AnalystTransitionEvent printable) (state : AnalystStateSnapshot)
    (recorded : event.row ∈ w.db.events) (used : UsedBy call event)
    (h : transition printable call env w = (.ok ⟨.existing, state, event⟩, w))
  | created (event : AnalystTransitionEvent printable) (db' : AnalystDb) (es : List (AnalystTransitionEvent printable))
    (next : Next event es w.db) (written : Written event w.db db') (used : UsedBy call event)
    (stored : event.alertCandidateId ∈ w.alerts)
    (h : transition printable call env w = (.ok ⟨.created, event.snapshot, event⟩, { w with db := db' }))

variable {w : AnalystWorld} {call : TransitionCall} {env : CallEnv}

theorem transition_cases (hdb : Consistent printable w.db) (call : TransitionCall) (env : CallEnv) :
    Calls printable call env w := by
  cases hready : prepare printable call env w.alerts with
  | error e => exact .refused e (by rw [transition, hready])
  | ok ready =>
    obtain ⟨actorId, request⟩ := ready
    obtain ⟨hactor, hargs, ⟨-, hstored⟩, -⟩ := prepare_eq_ok.1 hready
    have hused : ∀ event : AnalystTransitionEvent printable, sameUse event actorId request = true →
        event.transitionId = request.transitionId.1 → UsedBy call event := by
      intro event hsame hid
      obtain ⟨hargs', rfl⟩ := (sameUse_iff hargs hid).1 hsame
      exact ⟨hargs', hactor⟩
    cases transact_cases hdb (Registry.require_valid hactor) request env.clock with
    | refused e h => exact .refused e (by rw [transition, hready]; simp only [h])
    | replayed event state hrecorded hsame hid h =>
      exact .replayed event state hrecorded (hused event hsame hid) (by rw [transition, hready]; simp only [h])
    | created event db' es hnext hwritten hsame hid h =>
      have halert : event.alertCandidateId ∈ w.alerts := by
        simp only [sameUse, Bool.and_eq_true, beq_iff_eq] at hsame
        rwa [hsame.1.1.1.1]
      exact .created event db' es hnext hwritten (hused event hsame hid) halert
        (by rw [transition, hready]; simp only [h])

/-- A recorded identifier: the recorded use is replayed, any other is a conflict. -/
theorem transition_recorded (hdb : Consistent printable w.db) {actorId : String}
    {request : TransitionRequest printable} (hready : prepare printable call env w.alerts = .ok (actorId, request))
    {e : AnalystTransitionEvent printable} (he : e.row ∈ w.db.events) (hid : e.transitionId = request.transitionId.1) :
    (sameUse e actorId request = true ∧ ∃ state, transition printable call env w = (.ok ⟨.existing, state, e⟩, w)) ∨
    (sameUse e actorId request = false ∧
      transition printable call env w = (.error .transitionIdentityConflict, w)) := by
  cases transact_cases hdb (Registry.require_valid (prepare_eq_ok.1 hready).1) request env.clock with
  | refused error h hconflict =>
    obtain ⟨rfl, hother⟩ := hconflict e he hid
    exact .inr ⟨hother, by rw [transition, hready]; simp only [h]⟩
  | replayed event state hrecorded hsame hid' h =>
    obtain rfl := hdb.event_unique hrecorded he (hid'.trans hid.symm)
    exact .inl ⟨hsame, state, by rw [transition, hready]; simp only [h]⟩
  | created event db' es hnext _ _ hid' _ =>
    refine absurd (List.mem_map_of_mem (f := (·.transitionId)) he) ?_
    change e.transitionId ∉ _
    rw [hid, ← hid']
    exact hnext.fresh

/-! ### The invariant and what only grows -/

structure WorldOk (printable : Char → Bool) (w : AnalystWorld) : Prop where
  db : Consistent printable w.db
  alerts : ∀ id ∈ w.alerts, isAlertCandidateId id = true

structure Grows (w w' : AnalystWorld) : Prop where
  alerts : w.alerts ⊆ w'.alerts
  events : w.db.events ⊆ w'.db.events

theorem workflowStep_ok (input : WorkflowInput) (h : WorldOk printable w) :
    WorldOk printable (workflowStep printable w input).2 ∧ Grows w (workflowStep printable w input).2 := by
  cases input with
  | alert id =>
    refine ⟨⟨h.db, fun x hx => ?_⟩, List.subset_append_left _ _, fun _ hx => hx⟩
    rcases List.mem_append.1 hx with hold | hnew
    · exact h.alerts x hold
    · rw [List.mem_singleton.1 hnew]
      exact id.2
  | transition call env =>
    rw [workflowStep]
    cases transition_cases h.db call env with
    | refused e heq =>
      rw [heq]
      exact ⟨h, fun _ hx => hx, fun _ hx => hx⟩
    | replayed event state _ _ heq =>
      rw [heq]
      exact ⟨h, fun _ hx => hx, fun _ hx => hx⟩
    | created event db' es hnext hwritten _ _ heq =>
      rw [heq]
      refine ⟨⟨(hwritten.consistent h.db hnext).1, h.alerts⟩, fun _ hx => hx, ?_⟩
      dsimp only
      rw [hwritten.events]
      exact List.subset_append_left _ _

theorem worldOk_empty : WorldOk printable {} := ⟨consistent_empty, fun _ h => absurd h List.not_mem_nil⟩

theorem worldOk_run (inputs : List WorkflowInput) (k : Nat) : WorldOk printable (worldAt printable inputs k) :=
  stateAt_inv (I := WorldOk printable) (fun _ input h => (workflowStep_ok input h).1) worldOk_empty k

theorem grows_run (inputs : List WorkflowInput) {k l : Nat} (hkl : k ≤ l) :
    Grows (worldAt printable inputs k) (worldAt printable inputs l) :=
  stateAt_rel (I := WorldOk printable) (fun _ input h => (workflowStep_ok input h).1) worldOk_empty
    (fun _ => ⟨fun _ h => h, fun _ h => h⟩)
    (fun _ _ _ f g => ⟨fun _ h => g.alerts (f.alerts h), fun _ h => g.events (f.events h)⟩)
    (fun _ input h => (workflowStep_ok input h).2) hkl

/-! ### Replies of a run -/

theorem replyAt_transition {k : Nat} (hk : inputs[k]? = some (.transition call env)) :
    replyAt printable inputs k = some (transition printable call env (worldAt printable inputs k)).1 ∧
      worldAt printable inputs (k + 1) = (transition printable call env (worldAt printable inputs k)).2 := by
  refine ⟨by rw [replyAt, hk]; rfl, ?_⟩
  rw [worldAt, stateAt_succ _ hk]
  rfl

/-- Only calls are answered. -/
theorem replyAt_some {k : Nat} {reply : Except AnalystStateError (AnalystTransitionResult printable)}
    (h : replyAt printable inputs k = some reply) : ∃ call env, inputs[k]? = some (.transition call env) ∧
      transition printable call env (worldAt printable inputs k) = (reply, worldAt printable inputs (k + 1)) := by
  obtain ⟨input, hk, hreply⟩ := Option.bind_eq_some_iff.1 h
  cases input with
  | alert id => cases hreply
  | transition call env =>
    refine ⟨call, env, hk, ?_⟩
    rw [(replyAt_transition hk).2, ← Option.some.inj hreply]

/-- The event of a successful call is recorded from then on; a created one was not before. -/
theorem recorded_of_reply {k : Nat} {r : AnalystTransitionResult printable}
    (h : replyAt printable inputs k = some (.ok r)) :
    r.transition.row ∈ (worldAt printable inputs (k + 1)).db.events ∧
    (∀ call env, inputs[k]? = some (.transition call env) → UsedBy call r.transition) ∧
    (r.disposition = .created → ∃ es, Next r.transition es (worldAt printable inputs k).db) := by
  obtain ⟨call, env, hk, heq⟩ := replyAt_some h
  have hthis : UsedBy call r.transition → ∀ call' env', inputs[k]? = some (.transition call' env') →
      UsedBy call' r.transition := by
    rintro hused call' env' hk'
    cases hk.symm.trans hk'
    exact hused
  cases transition_cases (worldOk_run inputs k).db call env with
  | refused e h' =>
    rw [h'] at heq
    cases (Prod.mk.inj heq).1
  | replayed event state hrecorded hused h' =>
    rw [h'] at heq
    obtain ⟨hr, hw⟩ := Prod.mk.inj heq
    obtain rfl := Except.ok.inj hr
    rw [← hw]
    exact ⟨hrecorded, hthis hused, nofun⟩
  | created event db' es hnext hwritten hused _ h' =>
    rw [h'] at heq
    obtain ⟨hr, hw⟩ := Prod.mk.inj heq
    obtain rfl := Except.ok.inj hr
    rw [← hw]
    refine ⟨?_, hthis hused, fun _ => ⟨es, hnext⟩⟩
    dsimp only
    rw [hwritten.events]
    exact List.mem_append_right _ (List.mem_singleton_self _)

/-- A version of an alert is left once. -/
theorem created_once {k l : Nat} {r r' : AnalystTransitionResult printable}
    (hk : replyAt printable inputs k = some (.ok r)) (hl : replyAt printable inputs l = some (.ok r'))
    (hcreated : r'.disposition = .created) (halert : r.transition.alertCandidateId = r'.transition.alertCandidateId)
    (hversion : r.transition.expectedVersion = r'.transition.expectedVersion) : ¬ k < l := by
  intro hlt
  obtain ⟨es, hnext⟩ := (recorded_of_reply hl).2.2 hcreated
  have hrecorded := (grows_run inputs hlt).events (recorded_of_reply hk).1
  have hmem : r.transition.row ∈ (worldAt printable inputs l).db.events.filter
      (·.alertCandidateId = r'.transition.alertCandidateId) := List.mem_filter.2 ⟨hrecorded, decide_eq_true halert⟩
  rw [hnext.history.rows, List.mem_map] at hmem
  obtain ⟨e, he, hrow⟩ := hmem
  rw [row_inj hrow] at he
  obtain ⟨i, hi⟩ := List.mem_iff_getElem?.1 he
  have hseq := (hnext.history.path.get hi).2
  have hbound := (List.getElem?_eq_some_iff.1 hi).1
  have hnew := hnext.follows.sequence
  have hstep := r.transition.step
  have hstep' := r'.transition.step
  omega

/-- **The analyst workflow.** -/
theorem workflow_run (printable : Char → Bool) (inputs : List WorkflowInput) : WorkflowRun printable inputs where
  histories k id hid := by
    obtain ⟨es, hes⟩ := (worldOk_run inputs k).db.history id
    exact ⟨_, es, readHistory_eq hes hid, (hes.path.version hid).1, hes.path.path⟩
  got k := getAlert_readable (worldOk_run inputs k).db
  listed k registry capability limit offset page fault hpage :=
    listAlerts_readable (worldOk_run inputs k).db registry capability limit offset
      (fun ids hids id hid => (worldOk_run inputs k).alerts id (hpage ids hids id hid)) fault
  once k l r r' hk hl hcreated hcreated' halert hversion := by
    have hkl := created_once hk hl hcreated' halert hversion
    have hlk := created_once hl hk hcreated halert.symm hversion.symm
    omega
  raised k e h := by
    obtain ⟨call, env, hk, heq⟩ := replyAt_some h
    cases transition_cases (worldOk_run inputs k).db call env with
    | refused e' h' => exact (Prod.mk.inj (heq.symm.trans h')).2
    | replayed _ _ _ _ h' => cases (Prod.mk.inj (heq.symm.trans h')).1
    | created _ _ _ _ _ _ _ h' => cases (Prod.mk.inj (heq.symm.trans h')).1
  repeated k l call env call' env' actor r hkl hk hr hl hargs hactor hactor' halerts hfault := by
    obtain ⟨hrecorded, hused, -⟩ := recorded_of_reply hr
    have hrow := (grows_run inputs hkl).events hrecorded
    obtain ⟨hargs₀, hactor₀⟩ := hused call env hk
    rw [(replyAt_transition hl).1, (replyAt_transition hl).2]
    cases hready : prepare printable call env (worldAt printable inputs k).alerts with
    | error e =>
      rw [(replyAt_transition hk).1, transition, hready] at hr
      cases hr
    | ok ready =>
      obtain ⟨actor', request⟩ := ready
      obtain ⟨-, hrequest, ⟨-, hstored⟩, -⟩ := prepare_eq_ok.1 hready
      have hready' : prepare printable call' env' (worldAt printable inputs l).alerts = .ok (actor, request) :=
        prepare_eq_ok.2 ⟨hactor', by rw [hargs, hrequest], ⟨halerts, (grows_run inputs hkl.le).alerts hstored⟩, hfault⟩
      have hid : r.transition.transitionId = request.transitionId.1 := by
        rw [checkArgs_eq_ok.1 hrequest] at hargs₀
        exact (Value.str.inj (congrArg TransitionArgs.transitionId hargs₀)).symm
      have hsame : sameUse r.transition actor request = true :=
        (sameUse_iff hrequest hid).2 ⟨hargs₀, Except.ok.inj (hactor.symm.trans hactor₀)⟩
      rcases transition_recorded (worldOk_run inputs l).db hready' hrow hid with ⟨-, state, heq⟩ | ⟨hother, -⟩
      · rw [heq]
        exact ⟨⟨state, rfl⟩, rfl⟩
      · rw [hsame] at hother
        cases hother
  guarded k call env row hk hrow hid hother hready := by
    obtain ⟨⟨actorId, request⟩, hready⟩ := hready
    obtain ⟨-, e, -, -, rfl⟩ := (worldOk_run inputs k).db.event_of_row hrow
    obtain ⟨hactor, hargs, -, -⟩ := prepare_eq_ok.1 hready
    have hid' : e.transitionId = request.transitionId.1 := by
      rw [checkArgs_eq_ok.1 hargs] at hid
      exact (Value.str.inj hid).symm
    rw [(replyAt_transition hk).1]
    rcases transition_recorded (worldOk_run inputs k).db hready hrow hid' with ⟨hsame, -⟩ | ⟨-, heq⟩
    · obtain ⟨hargs', hactor'⟩ := (sameUse_iff hargs hid').1 hsame
      exact absurd ⟨hargs', by rw [hactor, hactor']; rfl⟩ hother
    · rw [heq]

end

/-! ## A use that an earlier check refuses -/

def sampleToken : Bytes :=
  [172, 223, 137, 57, 188, 137, 185, 139, 46, 127, 95, 248, 149, 133, 16, 186, 105, 8, 4, 188, 97, 235, 111,
    50, 51, 245, 165, 232, 55, 207, 90, 165]

def sampleRegistry : Registry :=
  { entries := [{ actorId := "analyst-1", role := .analyst, valid := by decide }]
    registryId := "7f0c2b1e-58d4-4a3f-9c61-2e8d5a7b9043", signature := fun _ _ => sampleToken }

def sampleAlert : { s : String // isAlertCandidateId s = true } :=
  ⟨"alert_candidate_v1:3f8a61c05e9d7b24f1a08c6d2e5b9374861f0a3c5d7e92b4406c8d1e3f5a7b92", by decide⟩

def sampleCall (toState : String) : TransitionCall :=
  { registry := sampleRegistry
    capability := some ⟨"analyst-1", .analyst, "7f0c2b1e-58d4-4a3f-9c61-2e8d5a7b9043", sampleToken⟩
    args := ⟨.str sampleAlert.1, .int 0, .str toState, .str "2b6d1f90-4c3a-4e87-9d15-6f8a0b2c4d6e", .str "triage"⟩ }

def sampleEnv : CallEnv := { clock := .utc ⟨2026, 3, 4, 10, 0, 0, 0, by decide, by decide⟩ }

def sampleInputs : List WorkflowInput :=
  [.alert sampleAlert, .transition (sampleCall "in_review") sampleEnv, .transition (sampleCall "reopened") sampleEnv]

def sampleRow : EventRow :=
  { schemaVersion := ANALYST_TRANSITION_SCHEMA_VERSION, transitionId := "2b6d1f90-4c3a-4e87-9d15-6f8a0b2c4d6e"
    alertCandidateId := sampleAlert.1, sequence := 1, expectedVersion := 0, fromState := .new, toState := .inReview
    actorId := "analyst-1", rationale := "triage", transitionedAt := "2026-03-04T10:00:00+00:00" }

/-- The recorded identifier with an unknown target is an invalid argument, not a conflict. -/
theorem other_use_invalid :
    ¬ IdentityGuarded Char.isAlphanum (fun _ env _ => env.alertsFail = false ∧ env.fault = .none) sampleInputs := by
  intro h
  have hrow : sampleRow ∈ (worldAt Char.isAlphanum sampleInputs 2).db.events := by decide +kernel
  have hother : ¬ ((sampleCall "reopened").args = sampleRow.args ∧
      (sampleCall "reopened").registry.require true (sampleCall "reopened").capability = .ok sampleRow.actorId) := by
    decide +kernel
  have hconflict := h 2 (sampleCall "reopened") sampleEnv sampleRow rfl hrow rfl hother ⟨rfl, rfl⟩
  have hreply : replyAt Char.isAlphanum sampleInputs 2 = some (.error .targetStateInvalid) := by rfl
  rw [hreply] at hconflict
  exact absurd hconflict (by decide)

end ThreatFusion.Analyst
