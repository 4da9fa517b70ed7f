import ThreatFusion.Analyst.Repository
import ThreatFusion.Lib.HashChain
import ThreatFusion.Lib.Machine
import ThreatFusion.Lib.Result
/-
# The state row is the end of the event log

In every reachable database the events of an alert are a path from `new` (`IsHistory`) and its state row is
made of the last of them (`HistoryIs`), so the readers accept what the transitions wrote.

* `readHistory_eq`: what a reader gets.
* `writeEvent_ok`: a linked event under a fresh identifier is written, and the tables stay consistent.
* `transact_cases`: refused, replayed or created.
-/
namespace ThreatFusion.Analyst
open Py HashChain Machine

variable {printable : Char → Bool}

/-! ## Records and rows -/

theorem transitionFromRow_row (e : AnalystTransitionEvent printable) : transitionFromRow printable e.row = .ok e := by
  rw [transitionFromRow]
  simp only [AnalystTransitionEvent.row, DateTime.fromisoformat_isoformat]
  exact congrArg recordInvalid e.new_self

theorem transitionsFromRows_rows :
    ∀ es : List (AnalystTransitionEvent printable), transitionsFromRows printable (es.map (·.row)) = .ok es
  | [] => rfl
  | e :: es => by
    rw [List.map_cons, transitionsFromRows, transitionFromRow_row, transitionsFromRows_rows es]
    rfl

/-- The fields of a valid event that the snapshot takes over are valid there. -/
theorem AnalystTransitionEvent.snapshot_accepted (e : AnalystTransitionEvent printable) :
    SnapshotFields.accepted ⟨e.alertCandidateId, e.toState, e.sequence, some e.transitionedAt, some e.actorId,
      some e.transitionId⟩ = true := by
  have h := e.valid
  simp only [EventFields.accepted, Bool.and_eq_true] at h
  obtain ⟨⟨⟨⟨⟨⟨⟨-, hid⟩, halert⟩, -⟩, -⟩, -⟩, hactor⟩, -⟩ := h
  rcases e.step with ⟨-, hto, -, hseq⟩ | ⟨-, hto | hto, -, hseq⟩ <;>
    simp [SnapshotFields.accepted, hid, halert, hactor, hto, hseq]

/-- The state that the event leads to. -/
def AnalystTransitionEvent.snapshot (e : AnalystTransitionEvent printable) : AnalystStateSnapshot :=
  ⟨_, e.snapshot_accepted⟩

theorem stateFromRow_stateRow (e : AnalystTransitionEvent printable) (id : String) :
    stateFromRow (some e.stateRow) id = .ok e.snapshot := by
  rw [stateFromRow]
  simp only [AnalystTransitionEvent.stateRow, DateTime.fromisoformat_isoformat]
  exact congrArg recordInvalid e.snapshot.new_self

theorem createdResult_eq (e : AnalystTransitionEvent printable) :
    createdResult e = .ok ⟨.created, e.snapshot, e⟩ := by
  have hnew : AnalystStateSnapshot.new ⟨e.alertCandidateId, e.toState, e.sequence, some e.transitionedAt,
      some e.actorId, some e.transitionId⟩ = .ok e.snapshot := e.snapshot.new_self
  rw [createdResult, hnew, Except.ok_bind, AnalystTransitionResult.new]
  simp [AnalystTransitionEvent.snapshot]

theorem AnalystTransitionEvent.toState_ne_new (e : AnalystTransitionEvent printable) : e.toState ≠ .new := by
  rcases e.step with ⟨-, hto, -⟩ | ⟨-, hto | hto, -⟩ <;> rw [hto] <;> decide

/-! ## Histories -/

/-- The link of an event to its position and to the state before it. -/
structure Follows (id : String) (n : Nat) (previous : AnalystState) (e : AnalystTransitionEvent printable) : Prop where
  alert : e.alertCandidateId = id
  sequence : e.sequence = n + 1
  previous : e.fromState = previous

/-- A path of `_TRANSITIONS` that starts at `new`, numbered from 1. -/
def IsHistory (id : String) (es : List (AnalystTransitionEvent printable)) : Prop :=
  Chained (·.toState) (Follows id) 0 .new es

def newSnapshot {id : String} (hid : isAlertCandidateId id = true) : AnalystStateSnapshot :=
  ⟨⟨id, .new, 0, none, none, none⟩, by simp [SnapshotFields.accepted, hid]⟩

def snapshotOf {id : String} (hid : isAlertCandidateId id = true) (es : List (AnalystTransitionEvent printable)) :
    AnalystStateSnapshot :=
  (es.getLast?.map (·.snapshot)).getD (newSnapshot hid)

section
variable {id : String} {es : List (AnalystTransitionEvent printable)} {e : AnalystTransitionEvent printable}

theorem IsHistory.get {i : Nat} (h : IsHistory id es) (hi : es[i]? = some e) :
    e.alertCandidateId = id ∧ e.sequence = i + 1 := by
  have hlink := Chained.get h hi
  exact ⟨hlink.alert, by rw [hlink.sequence, Nat.zero_add]⟩

theorem IsHistory.version (h : IsHistory id es) (hid : isAlertCandidateId id = true) :
    (snapshotOf hid es).version = es.length ∧ (snapshotOf hid es).alertCandidateId = id ∧
      (snapshotOf hid es).state = headTag (·.toState) .new es := by
  rcases es.eq_nil_or_concat with rfl | ⟨es, e, rfl⟩
  · exact ⟨rfl, rfl, rfl⟩
  · rw [List.concat_eq_append] at h ⊢
    obtain ⟨-, hlink⟩ := chained_append_singleton.1 h
    rw [headTag_append_singleton, snapshotOf, List.getLast?_concat, List.length_append, List.length_singleton]
    refine ⟨?_, hlink.alert, rfl⟩
    change e.sequence = _
    rw [hlink.sequence]
    push_cast
    omega

theorem misplaced_eq_false {n : Nat} {start : AnalystState} {previous : Option AnalystState}
    (h : Chained (·.toState) (Follows id) n start es) (hprevious : ∀ s, previous = some s → s = start) :
    misplaced id (n + 1) previous es = false := by
  induction es generalizing n start previous with
  | nil => rfl
  | cons e es ih =>
    obtain ⟨hlink, hrest⟩ := h
    have htail : misplaced id ((n + 1 : ℕ) + 1) (some e.toState) es = false :=
      ih hrest fun s hs => (Option.some.inj hs).symm
    push_cast at htail
    have hany : previous.any (fun s => s != e.fromState) = false := by
      cases previous with
      | none => rfl
      | some s =>
        obtain rfl := hprevious s rfl
        simp [hlink.previous]
    simp only [misplaced, hlink.sequence, hlink.alert, hany, htail, bne_self_eq_false, Bool.or_self]

theorem validateHistory_eq (h : IsHistory id es) (hid : isAlertCandidateId id = true) :
    validateHistory id (snapshotOf hid es) es = .ok () := by
  have hplaced : misplaced id 1 none es = false := misplaced_eq_false (n := 0) h (by simp)
  rw [validateHistory, (h.version hid).1, hplaced, bne_self_eq_false, Bool.or_false, if_neg Bool.false_ne_true]
  rcases es.eq_nil_or_concat with rfl | ⟨es, e, rfl⟩
  · rfl
  · rw [List.concat_eq_append]
    simp only [snapshotOf, List.getLast?_concat]
    simp [AnalystTransitionEvent.snapshot]

/-- What the repository can say about a path. -/
theorem IsHistory.path (h : IsHistory id es) :
    es.map (fun e => (e.fromState, e.toState)) ∈
      [[], [(.new, .inReview)], [(.new, .inReview), (.inReview, .closed)],
        [(.new, AnalystState.inReview), (.inReview, .escalated)]] := by
  match es, h with
  | [], _ => exact List.mem_cons_self
  | [a], h =>
    have ha : a.fromState = .new := h.1.previous
    rcases a.step with ⟨-, hto, -⟩ | ⟨hfrom, -⟩
    · simp [ha, hto]
    · simp [ha] at hfrom
  | [a, b], h =>
    have ha : a.fromState = .new := h.1.previous
    have hb : b.fromState = a.toState := h.2.1.previous
    rcases a.step with ⟨-, hto, -⟩ | ⟨hfrom, -⟩
    · rcases b.step with ⟨hfrom', -⟩ | ⟨-, hto' | hto', -⟩
      · rw [hb, hto] at hfrom'
        cases hfrom'
      · simp [ha, hb, hto, hto']
      · simp [ha, hb, hto, hto']
    · simp [ha] at hfrom
  | a :: b :: c :: rest, h =>
    have hthird : c.sequence = 3 := h.2.2.1.sequence
    rcases c.step with ⟨-, -, -, hseq⟩ | ⟨-, -, -, hseq⟩ <;> omega

end

/-! ## The tables -/

/-- The rows of one alert: the events in order, and the state that the last of them left. -/
structure HistoryIs (id : String) (db : AnalystDb) (es : List (AnalystTransitionEvent printable)) : Prop where
  rows : db.events.filter (·.alertCandidateId = id) = es.map (·.row)
  path : IsHistory id es
  state : stateRow? id db = es.getLast?.map (·.stateRow)

structure Consistent (printable : Char → Bool) (db : AnalystDb) : Prop where
  history : ∀ id, ∃ es : List (AnalystTransitionEvent printable), HistoryIs id db es
  identifiers : (db.events.map (·.transitionId)).Nodup
  states : (db.states.map (·.alertCandidateId)).Nodup

theorem consistent_empty : Consistent printable {} :=
  ⟨fun _ => ⟨[], rfl, trivial, rfl⟩, List.nodup_nil, List.nodup_nil⟩

section
variable {id : String} {db : AnalystDb} {es : List (AnalystTransitionEvent printable)}
  {e : AnalystTransitionEvent printable}

theorem HistoryIs.eventRows_eq (h : HistoryIs id db es) : eventRows id db = es.map (·.row) := by
  rw [eventRows, h.rows]
  refine List.Pairwise.insertionSort_eq ?_
  rw [List.pairwise_map, List.pairwise_iff_getElem]
  intro i j hi hj hij
  have hseqi := (h.path.get (List.getElem?_eq_getElem hi)).2
  have hseqj := (h.path.get (List.getElem?_eq_getElem hj)).2
  change es[i].sequence ≤ es[j].sequence
  omega

/-- **What a reader gets.** -/
theorem readHistory_eq (h : HistoryIs id db es) (hid : isAlertCandidateId id = true) :
    readHistory printable id db = .ok (snapshotOf hid es, es) := by
  have hstate : stateFromRow (stateRow? id db) id = .ok (snapshotOf hid es) := by
    rw [h.state, snapshotOf]
    cases es.getLast? with
    | none => exact (newSnapshot hid).new_self
    | some e => exact stateFromRow_stateRow e id
  rw [readHistory, hstate, h.eventRows_eq, transitionsFromRows_rows, Except.ok_bind, Except.ok_bind,
    validateHistory_eq h.path hid]
  rfl

/-- Every row of the log is that of a valid event in the history of its alert. -/
theorem Consistent.event_of_row (h : Consistent printable db) {row : EventRow} (hrow : row ∈ db.events) :
    ∃ (es : List (AnalystTransitionEvent printable)) (e : AnalystTransitionEvent printable),
      HistoryIs row.alertCandidateId db es ∧ e ∈ es ∧ row = e.row := by
  obtain ⟨es, hes⟩ := h.history row.alertCandidateId
  have hmem : row ∈ db.events.filter (·.alertCandidateId = row.alertCandidateId) := by simpa using hrow
  rw [hes.rows, List.mem_map] at hmem
  obtain ⟨e, he, hrow'⟩ := hmem
  exact ⟨es, e, hes, he, hrow'.symm⟩

theorem HistoryIs.mem_events (h : HistoryIs id db es) (he : e ∈ es) : e.row ∈ db.events := by
  have hmem : e.row ∈ es.map (·.row) := List.mem_map_of_mem he
  rw [← h.rows] at hmem
  exact List.mem_of_mem_filter hmem

/-- The primary key finds a row. -/
theorem stateRow?_of_mem (db : AnalystDb) (hkeys : (db.states.map (·.alertCandidateId)).Nodup) {row : StateRow}
    (hrow : row ∈ db.states) : stateRow? row.alertCandidateId db = some row := by
  cases hfind : stateRow? row.alertCandidateId db with
  | none => simpa using List.find?_eq_none.1 hfind row hrow
  | some row' =>
    have hid : row'.alertCandidateId = row.alertCandidateId := by simpa using List.find?_some hfind
    rw [List.inj_on_of_nodup_map hkeys (List.mem_of_find?_eq_some hfind) hrow hid]

theorem row_inj {e e' : AnalystTransitionEvent printable} (h : e.row = e'.row) : e = e' :=
  Except.ok.inj ((transitionFromRow_row e).symm.trans ((congrArg _ h).trans (transitionFromRow_row e')))

/-- The identifier finds an event. -/
theorem Consistent.event_unique (h : Consistent printable db) {e e' : AnalystTransitionEvent printable}
    (he : e.row ∈ db.events) (he' : e'.row ∈ db.events) (hid : e.transitionId = e'.transitionId) : e = e' :=
  row_inj (List.inj_on_of_nodup_map h.identifiers he he' hid)

/-- A state row carries the identifier of an event. -/
theorem Consistent.last_mem (h : Consistent printable db) {row : StateRow} (hrow : row ∈ db.states) :
    row.lastTransitionId ∈ db.events.map (·.transitionId) := by
  obtain ⟨es, hes⟩ := h.history row.alertCandidateId
  have hstate := hes.state
  rw [stateRow?_of_mem db h.states hrow] at hstate
  obtain ⟨e, he, rfl⟩ := Option.map_eq_some_iff.1 hstate.symm
  exact List.mem_map_of_mem (f := (·.transitionId)) (hes.mem_events (List.mem_of_getLast? he))

/-! ## Writing one event -/

/-- The tables after the event: its row at the end of the log, and the state row of its alert replaced. -/
structure Written (e : AnalystTransitionEvent printable) (db db' : AnalystDb) : Prop where
  events : db'.events = db.events ++ [e.row]
  state : stateRow? e.alertCandidateId db' = some e.stateRow
  others : ∀ id, id ≠ e.alertCandidateId → stateRow? id db' = stateRow? id db
  states : (db'.states.map (·.alertCandidateId)).Nodup

theorem stateRow_checks (e : AnalystTransitionEvent printable) : e.stateRow.checks = true := by
  rcases e.step with ⟨-, hto, -, hseq⟩ | ⟨-, hto | hto, -, hseq⟩ <;>
    simp [StateRow.checks, AnalystTransitionEvent.stateRow, hto, hseq]

theorem row_checks (e : AnalystTransitionEvent printable) : e.row.checks = true := by
  rcases e.step with ⟨hfrom, hto, hexpected, hseq⟩ | ⟨hfrom, hto | hto, hexpected, hseq⟩ <;>
    simp [EventRow.checks, AnalystTransitionEvent.row, hfrom, hto, hexpected, hseq]

/-- The event follows the history and its identifier is new. -/
structure Next (e : AnalystTransitionEvent printable) (es : List (AnalystTransitionEvent printable)) (db : AnalystDb) :
    Prop where
  history : HistoryIs e.alertCandidateId db es
  path : IsHistory e.alertCandidateId (es ++ [e])
  fresh : e.transitionId ∉ db.events.map (·.transitionId)

theorem Next.follows (h : Next e es db) : Follows e.alertCandidateId es.length (headTag (·.toState) .new es) e := by
  have hlink := (chained_append_singleton.1 h.path).2
  rwa [Nat.zero_add] at hlink

/-- No other state row has the identifier. -/
theorem Next.last_ne (hdb : Consistent printable db) (h : Next e es db) {row : StateRow} (hrow : row ∈ db.states) :
    row.lastTransitionId ≠ e.transitionId :=
  fun heq => h.fresh (heq ▸ hdb.last_mem hrow)

/-- The first event of an alert inserts its state row. -/
theorem insertState_ok (hdb : Consistent printable db) (h : Next e es db) (hnew : e.fromState = .new) :
    insertState e.stateRow db = .ok { db with states := db.states ++ [e.stateRow] } ∧
      stateRow? e.alertCandidateId db = none := by
  have hnone : stateRow? e.alertCandidateId db = none := by
    have hprevious := h.follows.previous
    rw [h.history.state, Option.map_eq_none_iff]
    rcases es.eq_nil_or_concat with rfl | ⟨es, last, rfl⟩
    · rfl
    · rw [List.concat_eq_append, headTag_append_singleton, hnew] at hprevious
      exact absurd hprevious.symm last.toState_ne_new
  have hany : db.states.any (fun r => decide (r.alertCandidateId = e.stateRow.alertCandidateId ∨
      r.lastTransitionId = e.stateRow.lastTransitionId)) = false := by
    rw [List.any_eq_false]
    intro row hrow
    rw [decide_eq_true_eq]
    rintro (halert | hlast)
    · have hother := List.find?_eq_none.1 hnone row hrow
      exact hother (decide_eq_true halert)
    · exact h.last_ne hdb hrow hlast
  refine ⟨?_, hnone⟩
  rw [insertState, stateRow_checks, hany]
  rfl

/-- Replacing the state row of one alert in place. -/
theorem find?_replace {p : StateRow → Bool} {new : StateRow} {id : String} {states : List StateRow}
    (hp : ∀ r ∈ states, p r = true → r.alertCandidateId = new.alertCandidateId) (hne : id ≠ new.alertCandidateId) :
    (states.map fun r => if p r then new else r).find? (·.alertCandidateId = id) =
      states.find? (·.alertCandidateId = id) := by
  induction states with
  | nil => rfl
  | cons r states ih =>
    have hrest := ih fun r hr => hp r (List.mem_cons_of_mem _ hr)
    rw [List.map_cons, List.find?_cons, List.find?_cons, hrest]
    cases hpr : p r with
    | false => rfl
    | true =>
      have hid := hp r List.mem_cons_self hpr
      simp [hid, hne.symm]

/-- The second event replaces it. -/
theorem updateState_ok (hdb : Consistent printable db) (h : Next e es db) (hnew : e.fromState ≠ .new) :
    ∃ db', updateState e.stateRow e.expectedVersion db = .ok db' ∧ db'.events = db.events ∧
      stateRow? e.alertCandidateId db' = some e.stateRow ∧
      (∀ id, id ≠ e.alertCandidateId → stateRow? id db' = stateRow? id db) ∧
      db'.states.map (·.alertCandidateId) = db.states.map (·.alertCandidateId) := by
  obtain ⟨last, hlast⟩ : ∃ last, es.getLast? = some last := by
    rcases es.eq_nil_or_concat with rfl | ⟨es, last, rfl⟩
    · exact absurd h.follows.previous hnew
    · exact ⟨last, by simp⟩
  have hstored : stateRow? e.alertCandidateId db = some last.stateRow := by rw [h.history.state, hlast]; rfl
  have hmem : last.stateRow ∈ db.states := List.mem_of_find?_eq_some hstored
  have halert : last.stateRow.alertCandidateId = e.alertCandidateId := by simpa using List.find?_some hstored
  have hversion : last.stateRow.version = e.expectedVersion := by
    obtain ⟨i, hi⟩ := List.mem_iff_getElem?.1 (List.mem_of_getLast? hlast)
    have hseq : last.sequence = es.length := by
      rw [List.getLast?_eq_getElem?] at hlast
      have hpos := (List.getElem?_eq_some_iff.1 hlast).1
      rw [(h.history.path.get hlast).2]
      omega
    have hnext := h.follows.sequence
    have hvalid : e.sequence = e.expectedVersion + 1 := by
      rcases e.step with ⟨-, -, h0, h1⟩ | ⟨-, -, h0, h1⟩ <;> omega
    change last.sequence = _
    omega
  let hit (r : StateRow) : Bool := r.alertCandidateId = e.stateRow.alertCandidateId ∧ r.version = e.expectedVersion
  have hhit : ∀ r ∈ db.states, hit r = true ↔ r = last.stateRow := by
    intro r hr
    constructor
    · intro h
      have hid : r.alertCandidateId = e.alertCandidateId := (of_decide_eq_true h).1
      exact List.inj_on_of_nodup_map hdb.states hr hmem (hid.trans halert.symm)
    · rintro rfl
      exact decide_eq_true ⟨halert, hversion⟩
  have hcount : db.states.countP hit = 1 := by
    have hcongr : db.states.countP hit = db.states.count last.stateRow := by
      rw [List.count]
      refine List.countP_congr fun r hr => ?_
      rw [hhit r hr, beq_iff_eq]
    rw [hcongr, List.count_eq_one_of_mem (List.Nodup.of_map _ hdb.states) hmem]
  have hany : (db.states.any fun r => !hit r && decide (r.lastTransitionId = e.stateRow.lastTransitionId)) = false := by
    rw [List.any_eq_false]
    intro row hrow
    rw [Bool.and_eq_true, decide_eq_true_eq]
    exact fun hboth => h.last_ne hdb hrow hboth.2
  have hids : (db.states.map fun r => if hit r then e.stateRow else r).map (·.alertCandidateId) =
      db.states.map (·.alertCandidateId) := by
    rw [List.map_map]
    refine List.map_congr_left fun r _ => ?_
    simp only [Function.comp_apply]
    split
    · rename_i hr
      exact (of_decide_eq_true hr).1.symm
    · rfl
  refine ⟨{ db with states := db.states.map fun r => if hit r then e.stateRow else r }, ?_, rfl, ?_,
    fun id hid => find?_replace (fun r _ hr => (of_decide_eq_true hr).1) hid, hids⟩
  · unfold updateState
    dsimp only
    rw [stateRow_checks, Bool.not_true, Bool.false_or, hany, Bool.and_false, if_neg Bool.false_ne_true, if_neg]
    exact not_not.2 hcount
  · have hnew : e.stateRow ∈ db.states.map fun r => if hit r then e.stateRow else r := by
      refine List.mem_map.2 ⟨last.stateRow, hmem, if_pos ?_⟩
      exact (hhit _ hmem).2 rfl
    exact stateRow?_of_mem { db with states := db.states.map fun r => if hit r then e.stateRow else r }
      (hids ▸ hdb.states) hnew

/-- **A linked event is written.** -/
theorem writeEvent_ok (hdb : Consistent printable db) (h : Next e es db) :
    ∃ db', writeEvent e db = .ok db' ∧ Written e db db' := by
  have hevents : ∀ states, states.any (fun r : StateRow => decide (r.alertCandidateId = e.row.alertCandidateId)) = true →
      insertEvent e.row { db with states } = .ok { states, events := db.events ++ [e.row] } := by
    intro states hstates
    have hany : db.events.any (fun r => decide (r.transitionId = e.row.transitionId ∨
        r.alertCandidateId = e.row.alertCandidateId ∧ r.sequence = e.row.sequence)) = false := by
      rw [List.any_eq_false]
      intro row hrow
      rw [decide_eq_true_eq]
      rintro (hid | ⟨halert, hseq⟩)
      · exact h.fresh (List.mem_map.2 ⟨row, hrow, hid⟩)
      · have hmem : row ∈ db.events.filter (·.alertCandidateId = e.alertCandidateId) :=
          List.mem_filter.2 ⟨hrow, decide_eq_true halert⟩
        rw [h.history.rows, List.mem_map] at hmem
        obtain ⟨e', he', rfl⟩ := hmem
        obtain ⟨i, hi⟩ := List.mem_iff_getElem?.1 he'
        have hlt := (List.getElem?_eq_some_iff.1 hi).1
        have hold := (h.history.path.get hi).2
        have hnext := h.follows.sequence
        change e'.sequence = e.sequence at hseq
        omega
    rw [insertEvent, row_checks]
    dsimp only
    rw [hany, hstates]
    rfl
  by_cases hnew : e.fromState = .new
  · obtain ⟨hinsert, hnone⟩ := insertState_ok hdb h hnew
    refine ⟨{ states := db.states ++ [e.stateRow], events := db.events ++ [e.row] }, ?_, rfl, ?_, fun id hid => ?_, ?_⟩
    · rw [writeEvent, if_pos hnew, hinsert, Except.ok_bind]
      exact hevents _ (by simp [AnalystTransitionEvent.stateRow, AnalystTransitionEvent.row])
    · rw [stateRow?, List.find?_append, show db.states.find? _ = none from hnone]
      simp [AnalystTransitionEvent.stateRow]
    · have hother : decide (e.stateRow.alertCandidateId = id) = false := decide_eq_false (Ne.symm hid)
      rw [stateRow?, List.find?_append, List.find?_singleton, hother]
      simp [stateRow?]
    · rw [List.map_append, List.map_singleton, List.nodup_append]
      refine ⟨hdb.states, List.nodup_singleton _, ?_⟩
      rintro _ hid _ hid' rfl
      obtain ⟨row, hrow, halert⟩ := List.mem_map.1 hid
      rw [List.mem_singleton] at hid'
      have hfound := stateRow?_of_mem db hdb.states hrow
      rw [halert, hid', show e.stateRow.alertCandidateId = e.alertCandidateId from rfl, hnone] at hfound
      cases hfound
  · obtain ⟨db', hupdate, hsame, hstate, hothers, hids⟩ := updateState_ok hdb h hnew
    refine ⟨{ db' with events := db.events ++ [e.row] }, ?_, rfl, hstate, hothers, hids ▸ hdb.states⟩
    rw [writeEvent, if_neg hnew, hupdate, Except.ok_bind]
    have hany : db'.states.any (fun r => decide (r.alertCandidateId = e.row.alertCandidateId)) = true := by
      rw [List.any_eq_true]
      exact ⟨_, List.mem_of_find?_eq_some hstate, decide_eq_true rfl⟩
    have := hevents db'.states hany
    rwa [← hsame] at this ⊢

theorem Written.consistent {db' : AnalystDb} (hdb : Consistent printable db) (h : Next e es db)
    (hwritten : Written e db db') :
    Consistent printable db' ∧ HistoryIs e.alertCandidateId db' (es ++ [e]) := by
  have hmine : HistoryIs e.alertCandidateId db' (es ++ [e]) := by
    refine ⟨?_, h.path, ?_⟩
    · rw [hwritten.events, List.filter_append, h.history.rows, List.map_append]
      simp [AnalystTransitionEvent.row]
    · rw [hwritten.state, List.getLast?_concat]
      rfl
  refine ⟨⟨fun id => ?_, ?_, hwritten.states⟩, hmine⟩
  · by_cases hid : id = e.alertCandidateId
    · exact ⟨es ++ [e], hid ▸ hmine⟩
    · obtain ⟨es', hes'⟩ := hdb.history id
      refine ⟨es', ?_, hes'.path, by rw [hwritten.others id hid, hes'.state]⟩
      rw [hwritten.events, List.filter_append, hes'.rows]
      simp [AnalystTransitionEvent.row, Ne.symm hid]
  · rw [hwritten.events, List.map_append, List.map_singleton, List.nodup_append]
    refine ⟨hdb.identifiers, List.nodup_singleton _, ?_⟩
    rintro id hid id' hid' rfl
    rw [List.mem_singleton.1 hid'] at hid
    exact h.fresh hid

/-! ## One transaction -/

/-- What a transaction does: refuse, replay a recorded event, or create one. -/
inductive Transacts (actorId : String) (request : TransitionRequest printable) (clock : ClockReading) (db : AnalystDb) :
    Prop where
  | refused (error : AnalystStateError) (h : transact actorId request clock db = .error error)
    (conflict : ∀ e : AnalystTransitionEvent printable, e.row ∈ db.events → e.transitionId = request.transitionId.1 →
      error = .transitionIdentityConflict ∧ sameUse e actorId request = false)
  | replayed (event : AnalystTransitionEvent printable) (state : AnalystStateSnapshot)
    (recorded : event.row ∈ db.events) (same : sameUse event actorId request = true)
    (identifier : event.transitionId = request.transitionId.1)
    (h : transact actorId request clock db = .ok (.ok ⟨.existing, state, event⟩, db))
  | created (event : AnalystTransitionEvent printable) (db' : AnalystDb) (es : List (AnalystTransitionEvent printable))
    (next : Next event es db) (written : Written event db db') (same : sameUse event actorId request = true)
    (identifier : event.transitionId = request.transitionId.1)
    (h : transact actorId request clock db = .ok (.ok ⟨.created, event.snapshot, event⟩, db'))

theorem existing_ok (h : HistoryIs id db es) (hid : isAlertCandidateId id = true) (he : e ∈ es) :
    AnalystTransitionResult.new .existing (snapshotOf hid es) e = .ok ⟨.existing, snapshotOf hid es, e⟩ := by
  obtain ⟨hversion, halert, -⟩ := h.path.version hid
  obtain ⟨i, hi⟩ := List.mem_iff_getElem?.1 he
  obtain ⟨halert', hseq⟩ := h.path.get hi
  have hlt := (List.getElem?_eq_some_iff.1 hi).1
  rw [AnalystTransitionResult.new, halert, halert', hversion, hseq, bne_self_eq_false, Bool.false_or, if_neg]
  rw [decide_eq_true_eq]
  omega

/-- The constructor accepts the event of a request that passed the two tests. -/
theorem newEvent_ok {actorId : String} (hactor : validActorId actorId = true) (request : TransitionRequest printable)
    {current : AnalystStateSnapshot} (hversion : current.version = request.expectedVersion.1)
    (hallowed : request.toState.1 ∈ current.state.allowed) (t : DateTime) :
    ∃ event : AnalystTransitionEvent printable, newEvent actorId request current t = .ok event ∧
      sameUse event actorId request = true ∧ event.transitionId = request.transitionId.1 ∧
      event.sequence = current.version + 1 ∧ event.fromState = current.state := by
  have hvalid := current.valid
  have hexpected : request.expectedVersion.1 = if current.state = .new then 0 else 1 := by
    rw [SnapshotFields.accepted, Bool.and_eq_true] at hvalid
    rw [← hversion]
    cases hstate : current.state with
    | new =>
      rw [hstate] at hvalid
      have hzero := hvalid.2
      rw [if_pos rfl] at hzero ⊢
      simp only [Bool.and_eq_true, beq_iff_eq] at hzero
      exact hzero.1.1.1
    | inReview =>
      rw [hstate] at hvalid
      have hone := hvalid.2
      rw [if_neg (by decide), if_pos rfl] at hone
      simp only [Bool.and_eq_true, beq_iff_eq] at hone
      exact hone.1.1.1
    | closed | escalated =>
      rw [hstate] at hallowed
      cases hallowed
  let fields : EventFields :=
    { schemaVersion := ANALYST_TRANSITION_SCHEMA_VERSION, transitionId := request.transitionId
      alertCandidateId := request.alertCandidateId, sequence := current.version + 1
      expectedVersion := request.expectedVersion, fromState := current.state, toState := request.toState, actorId
      rationale := request.rationale, transitionedAt := t }
  have haccepted : fields.accepted printable = true := by
    simp only [fields, EventFields.accepted, Bool.and_eq_true, beq_iff_eq, List.contains_iff_mem]
    exact ⟨⟨⟨⟨⟨⟨⟨trivial, request.transitionId.2⟩, request.alertCandidateId.2⟩, by rw [hversion]⟩, hallowed⟩, hexpected⟩,
      hactor⟩, request.rationale.2⟩
  exact ⟨⟨fields, haccepted⟩, dif_pos haccepted, by simp [sameUse, fields], rfl, rfl, rfl⟩

/-- **A transaction on consistent tables.** -/
theorem transact_cases (hdb : Consistent printable db) {actorId : String} (hactor : validActorId actorId = true)
    (request : TransitionRequest printable) (clock : ClockReading) : Transacts actorId request clock db := by
  obtain ⟨es, hes⟩ := hdb.history request.alertCandidateId.1
  obtain ⟨hversion, halert, hstate⟩ := hes.path.version request.alertCandidateId.2
  have hread : transact actorId request clock db =
      settle actorId request clock db (snapshotOf request.alertCandidateId.2 es) := by
    rw [transact, readHistory_eq hes request.alertCandidateId.2, Except.ok_bind]
  unfold settle at hread
  cases hfind : db.events.find? (·.transitionId = request.transitionId.1) with
  | some row =>
    rw [hfind] at hread
    obtain ⟨es', e, hes', he, hrow⟩ := hdb.event_of_row (List.mem_of_find?_eq_some hfind)
    have hid : e.transitionId = request.transitionId.1 := by
      have := List.find?_some hfind
      rw [hrow] at this
      exact of_decide_eq_true this
    dsimp only at hread
    rw [hrow, transitionFromRow_row, Except.ok_bind] at hread
    cases hsame : sameUse e actorId request with
    | false =>
      rw [hsame] at hread
      refine .refused _ hread fun e' he' hid' => ⟨rfl, ?_⟩
      rw [hdb.event_unique he' (hes'.mem_events he) (hid'.trans hid.symm), hsame]
    | true =>
      rw [hsame, if_pos rfl] at hread
      have hmine : row.alertCandidateId = request.alertCandidateId.1 := by
        simp only [sameUse, Bool.and_eq_true, beq_iff_eq] at hsame
        rw [hrow]
        exact hsame.1.1.1.1
      rw [hmine] at hes'
      obtain rfl : es' = es := by
        have hrows := hes'.rows.symm.trans hes.rows
        have hback := (transitionsFromRows_rows es').symm.trans ((congrArg _ hrows).trans (transitionsFromRows_rows es))
        exact Except.ok.inj hback
      rw [existing_ok hes request.alertCandidateId.2 he] at hread
      exact .replayed e _ (hes.mem_events he) hsame hid hread
  | none =>
    rw [hfind] at hread
    dsimp only at hread
    have hfresh : request.transitionId.1 ∉ db.events.map (·.transitionId) := by
      rintro hmem
      obtain ⟨row, hrow, hid⟩ := List.mem_map.1 hmem
      exact List.find?_eq_none.1 hfind row hrow (decide_eq_true hid)
    have hunused : ∀ e : AnalystTransitionEvent printable, e.row ∈ db.events →
        e.transitionId ≠ request.transitionId.1 :=
      fun e he hid => hfresh (List.mem_map.2 ⟨e.row, he, hid⟩)
    by_cases hexpected : (snapshotOf request.alertCandidateId.2 es).version = request.expectedVersion.1
    swap
    · rw [if_pos hexpected] at hread
      exact .refused _ hread fun e he hid => absurd hid (hunused e he)
    rw [if_neg (not_not.2 hexpected)] at hread
    by_cases hallowed : request.toState.1 ∈ (snapshotOf request.alertCandidateId.2 es).state.allowed
    swap
    · rw [if_pos hallowed] at hread
      exact .refused _ hread fun e he hid => absurd hid (hunused e he)
    rw [if_neg (not_not.2 hallowed)] at hread
    cases hclock : readClock clock with
    | error error =>
      rw [hclock] at hread
      exact .refused _ hread fun e he hid => absurd hid (hunused e he)
    | ok t =>
      obtain ⟨event, hnew, hsame, hid, hseq, hfrom⟩ := newEvent_ok hactor request hexpected hallowed t
      have hmine : event.alertCandidateId = request.alertCandidateId.1 := by
        simp only [sameUse, Bool.and_eq_true, beq_iff_eq] at hsame
        exact hsame.1.1.1.1
      have hnext : Next event es db := by
        rw [← hmine] at hes
        refine ⟨hes, chained_append_singleton.2 ⟨hes.path, rfl, ?_, ?_⟩, hid ▸ hfresh⟩
        · rw [hseq, hversion, Nat.zero_add]
        · rw [hfrom, hstate]
      obtain ⟨db', hwrite, hwritten⟩ := writeEvent_ok hdb hnext
      rw [hclock, Except.ok_bind, hnew, Except.ok_bind, hwrite, Except.ok_bind, createdResult_eq] at hread
      exact .created event db' es hnext hwritten hsame hid hread

end
end ThreatFusion.Analyst
