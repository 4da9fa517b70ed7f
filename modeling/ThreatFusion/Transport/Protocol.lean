import ThreatFusion.Lib.Machine
import ThreatFusion.Transport.Operations
/-
# The order of the calls on a producer's connection (`api/producer_tls_transport.py`:385-620)

A capability is of one stage, and an accepted call leaves that stage: it goes on, or it closes the
connection (`step_cases`). So the calls that succeed are in order, no capability is accepted twice, and
after a failure nothing succeeds (`capability_protocol`).

`settimeout` raises `OverflowError` for a timeout that is too long, which the clock can ask for when it
goes back. Then the connection is left as it is (`overflow_leaves_open`).
-/
namespace ThreatFusion.Transport
open Py Admission Delimited Records

/-! ## Timeouts -/

section Timeouts

variable {fits : ℚ → Bool} {limits : Limits}

/-- `settimeout` takes the timeout of each receive. -/
def TimeoutsFit (fits : ℚ → Bool) (limits : Limits) : Option Times → List Turn → Prop
  | _, [] => True
  | times, turn :: turns => (startTurn fits limits turn times).1 ≠ .error .overflowError ∧
    ∀ before t t', (startTurn fits limits turn times).1 = .ok (before, t) → endTurn limits turn before t = .ok t' →
      TimeoutsFit fits limits (some t') turns

/-- Then the loop over the head does not end in `OverflowError`. -/
theorem readHead_fits : ∀ (turns : List Turn) (raw : Bytes) (io : Io), TimeoutsFit fits limits io.times turns →
    (readHead fits limits raw turns io).1 ≠ .error .overflowError ∧
      ∀ text, (readHead fits limits raw turns io).1 = .ok text →
        TimeoutsFit fits limits (readHead fits limits raw turns io).2.2.times (readHead fits limits raw turns io).2.1
  | [], raw, io, hfit => by
    unfold readHead
    split_ifs with hend
    · exact ⟨fun h => (by cases h), fun _ _ => hfit⟩
    · exact ⟨fun h => (by cases h), fun _ h => (by cases h)⟩
  | turn :: turns, raw, io, hfit => by
    unfold readHead
    split_ifs with hend
    · exact ⟨fun h => (by cases h), fun _ _ => hfit⟩
    · have hcases := recv_cases fits limits 1 turn io
      rcases hr : recv fits limits 1 turn io with ⟨result, io'⟩
      rw [hr] at hcases
      rcases hcases with ⟨e, rfl, hover, -⟩ | ⟨rfl, -⟩ | ⟨chunk, before, t, t', rfl, hrecv, -, hstart, hclock, htimes⟩
      · exact ⟨fun he => hfit.1 (hover (Except.error.inj he)), fun _ h => (by cases h)⟩
      · exact ⟨fun h => (by cases h), fun _ h => (by cases h)⟩
      · obtain ⟨b, rfl, -⟩ := recv_byte hrecv
        simp only [List.isEmpty_cons, Bool.false_eq_true, if_false]
        cases hcheck : checkPart (raw ++ [b]) with
        | error e => exact ⟨fun h => (by cases h), fun _ h => (by cases h)⟩
        | ok _ =>
          simp only at htimes
          exact readHead_fits turns (raw ++ [b]) io' (htimes ▸ hfit.2 before t t' hstart hclock)

/-- What the loop over the body took: nothing but the body. -/
theorem readBodyLoop_ends (left : Nat) (got : Bytes) (turns : List Turn) (io : Io)
    (hfit : TimeoutsFit fits limits io.times turns) :
    (readBodyLoop fits limits left got turns io).1 ≠ .error .overflowError ∧
      ∀ body, (readBodyLoop fits limits left got turns io).1 = .ok body →
        TimeoutsFit fits limits (readBodyLoop fits limits left got turns io).2.2.times
            (readBodyLoop fits limits left got turns io).2.1 ∧
          ∃ taken, body = got ++ taken ∧ taken.length = left ∧
            io.source.left = taken ++ (readBodyLoop fits limits left got turns io).2.2.source.left := by
  induction turns generalizing left got io with
  | nil =>
    cases left with
    | zero =>
      rw [readBodyLoop]
      refine ⟨fun h => (by cases h), fun body h => ⟨hfit, [], ?_, rfl, rfl⟩⟩
      rw [List.append_nil]
      exact (Except.ok.inj h).symm
    | succ left =>
      rw [readBodyLoop]
      exact ⟨fun h => (by cases h), fun _ h => (by cases h)⟩
  | cons turn turns ih =>
    cases left with
    | zero =>
      rw [readBodyLoop]
      refine ⟨fun h => (by cases h), fun body h => ⟨hfit, [], ?_, rfl, rfl⟩⟩
      rw [List.append_nil]
      exact (Except.ok.inj h).symm
    | succ left =>
      rw [readBodyLoop]
      have hcases := recv_cases fits limits (min SOCKET_READ_CHUNK_BYTES (left + 2)) turn io
      rcases hr : recv fits limits (min SOCKET_READ_CHUNK_BYTES (left + 2)) turn io with ⟨result, io'⟩
      rw [hr] at hcases
      rcases hcases with ⟨e, rfl, hover, -⟩ | ⟨rfl, -⟩ | ⟨chunk, before, t, t', rfl, hrecv, -, hstart, hclock, htimes⟩
      · exact ⟨fun he => hfit.1 (hover (Except.error.inj he)), fun _ h => (by cases h)⟩
      · exact ⟨fun h => (by cases h), fun _ h => (by cases h)⟩
      · simp only at hrecv htimes ⊢
        split_ifs with hempty hlong
        · exact ⟨fun h => (by cases h), fun _ h => (by cases h)⟩
        · exact ⟨fun h => (by cases h), fun _ h => (by cases h)⟩
        · obtain ⟨hne, hok⟩ :=
          ih (left + 1 - chunk.length) (got ++ chunk) io' (htimes ▸ hfit.2 before t t' hstart hclock)
          refine ⟨hne, fun body h => ?_⟩
          obtain ⟨hfit', taken, rfl, hlen, hleft⟩ := hok body h
          refine ⟨hfit', chunk ++ taken, by rw [List.append_assoc], ?_, ?_⟩
          · rw [List.length_append]
            omega
          · rw [Source.recv_left hrecv, hleft, List.append_assoc]

end Timeouts

/-! ## One call -/

section Steps

variable {parseFloat : String → PyFloat} {sha256 : String → String} {fits : ℚ → Bool}

/-- The capability is accepted by the method. -/
def Accepts (sha256 : String → String) (c : Connection) (call : Call) : Prop :=
  c.require sha256 call.capability call.op.stages = true

theorem Accepts.stage {c : Connection} {call : Call} (h : Accepts sha256 c call) :
    ∃ k, call.capability = some k ∧ k.stage = some c.stage ∧ c.stage ∈ call.op.stages := by
  unfold Accepts Connection.require at h
  cases hk : call.capability with
  | none => simp [hk] at h
  | some k =>
    simp only [hk, Bool.and_eq_true, List.any_eq_true, beq_iff_eq] at h
    obtain ⟨⟨⟨⟨⟨⟨⟨s, hs, hks⟩, hstage⟩, -⟩, -⟩, -⟩, -⟩, -⟩ := h
    rw [hks] at hstage
    obtain rfl := Option.some.inj hstage
    exact ⟨k, rfl, hks, hs⟩

/-- What a call can do: it fails and closes the connection, or it was accepted and goes one stage on. -/
inductive Moves (sha256 : String → String) (fits : ℚ → Bool) (c : Connection) (call : Call) :
    Outcome → Connection → Prop
  | fails {e : Raised} {c' : Connection} (closed : c'.stage = .closed) : Moves sha256 fits c call (.raised e) c'
  | readsHead {head : ValidatedRequestHead} {next : TransportCapability} {c' : Connection}
      {headers : List (String × String)}
      (op : call.op = .readHead) (accepts : Accepts sha256 c call) (stage : c'.stage = .headValidated)
      (fit : TimeoutsFit fits c'.limits c'.io.times c'.turns) (kept : c'.head = some head)
      (ofText : IsHeadOf head headers)
      (taken : c.io.source.left = ascii (headText headers) ++ c'.io.source.left) :
      Moves sha256 fits c call (.head head next) c'
  | readsBody {head : ValidatedRequestHead} {body : Bytes} {next : TransportCapability} {c' : Connection}
      (op : call.op = .readBody) (accepts : Accepts sha256 c call) (stage : c'.stage = .bodyRead)
      (fit : TimeoutsFit fits c'.limits c'.io.times c'.turns) (kept : c.head = some head)
      (length : body.length = head.contentLength) (taken : c.io.source.left = body ++ c'.io.source.left) :
      Moves sha256 fits c call (.body body next) c'
  | ends {c' : Connection} (op : call.op = .write ∨ call.op = .close) (accepts : Accepts sha256 c call)
      (closed : c'.stage = .closed) : Moves sha256 fits c call .done c'

theorem leave_closed {c : Connection} {e : Raised} (h : e ≠ .overflowError) : (c.leave e).stage = .closed := by
  cases e with
  | transport e => rfl
  | overflowError => exact absurd rfl h

theorem moves_readHead {c : Connection} {call : Call} (hop : call.op = .readHead)
    (hfit : TimeoutsFit fits c.limits c.io.times c.turns) :
    Moves sha256 fits c call
      (outcomeOf (fun p => .head p.1 p.2) (readRequestHead sha256 fits call.token call.capability c).1)
      (readRequestHead sha256 fits call.token call.capability c).2 := by
  unfold readRequestHead
  split_ifs with hcap
  · exact .fails rfl
  · have haccepts : Accepts sha256 c call := by rw [Accepts, hop]; exact Bool.not_eq_false _ ▸ hcap
    obtain ⟨hne, hok⟩ := readHead_fits c.turns [] c.io hfit
    obtain ⟨taken, hleft, -, htext⟩ := readHead_taken fits c.limits c.turns [] c.io (Nat.zero_le _)
    rcases hread : readHead fits c.limits [] c.turns c.io with ⟨e | raw, turns, io⟩
    · rw [hread] at hne
      exact .fails (leave_closed fun he => hne (congrArg Except.error he))
    · rw [hread] at hok hleft htext
      obtain ⟨hraw, -, -⟩ := htext raw rfl
      cases hparse : parseRequestHead raw with
      | error e => simp only [hparse]; exact .fails rfl
      | ok head =>
        simp only [hparse]
        obtain ⟨headers, hhead, rfl⟩ := parseRequestHead_ok.mp hparse
        refine .readsHead hop haccepts rfl (hok _ rfl) rfl hhead ?_
        rw [hleft, hraw, List.nil_append]
        rfl

theorem moves_readBody {c : Connection} {call : Call} (hop : call.op = .readBody)
    (hfit : TimeoutsFit fits c.limits c.io.times c.turns) :
    Moves sha256 fits c call
      (outcomeOf (fun p => .body p.1 p.2) (readBody sha256 fits call.token call.pendingFails call.capability c).1)
      (readBody sha256 fits call.token call.pendingFails call.capability c).2 := by
  unfold readBody
  by_cases hcap : c.require sha256 call.capability [.headValidated] = false
  · rw [if_pos hcap]
    exact .fails rfl
  · rw [if_neg hcap]
    have haccepts : Accepts sha256 c call := by rw [Accepts, hop]; exact Bool.not_eq_false _ ▸ hcap
    cases hhead : c.head with
    | none => exact .fails rfl
    | some head =>
      obtain ⟨hne, hok⟩ := readBodyLoop_ends head.contentLength [] c.turns c.io hfit
      rcases hread : readBodyLoop fits c.limits head.contentLength [] c.turns c.io with ⟨e | body, turns, io⟩
      · rw [hread] at hne
        simp only [hread]
        exact .fails (leave_closed fun he => hne (congrArg Except.error he))
      · rw [hread] at hok
        obtain ⟨hfit', taken, rfl, hlen, hleft⟩ := hok body rfl
        simp only [hread]
        split_ifs
        · exact .fails rfl
        · exact .fails rfl
        · exact .readsBody hop haccepts rfl hfit' hhead hlen hleft

theorem moves_write {parseFloat : String → PyFloat} {c : Connection} {call : Call} (hop : call.op = .write) :
    Moves sha256 fits c call
      (outcomeOf (fun _ => .done) (writeResponse parseFloat sha256 fits call.reply call.sending call.capability c).1)
      (writeResponse parseFloat sha256 fits call.reply call.sending call.capability c).2 := by
  unfold writeResponse
  split_ifs with hcap
  · exact .fails rfl
  · have haccepts : Accepts sha256 c call := by rw [Accepts, hop]; exact Bool.not_eq_false _ ▸ hcap
    cases encodeReply parseFloat call.reply with
    | none => cases sendWire fits call.sending <;> exact .fails rfl
    | some reply =>
      cases sendWire fits call.sending with
      | error e => exact .fails rfl
      | ok u => exact .ends (.inl hop) haccepts rfl

theorem moves_close {c : Connection} {call : Call} (hop : call.op = .close) :
    Moves sha256 fits c call (outcomeOf (fun _ => .done) (close sha256 call.capability c).1)
      (close sha256 call.capability c).2 := by
  unfold close
  split_ifs with hcap
  · exact .fails rfl
  · have haccepts : Accepts sha256 c call := by rw [Accepts, hop]; exact Bool.not_eq_false _ ▸ hcap
    exact .ends (.inr hop) haccepts rfl

theorem step_cases {parseFloat : String → PyFloat} {c : Connection}
    (hfit : TimeoutsFit fits c.limits c.io.times c.turns) (call : Call) :
    Moves sha256 fits c call (step parseFloat sha256 fits c call).1 (step parseFloat sha256 fits c call).2 := by
  unfold step
  cases hop : call.op with
  | readHead => exact moves_readHead hop hfit
  | readBody => exact moves_readBody hop hfit
  | write => exact moves_write hop
  | close => exact moves_close hop

variable (sha256) in
theorem not_accepts {c : Connection} (h : c.stage = .closed) (call : Call) : ¬ Accepts sha256 c call := by
  intro hacc
  obtain ⟨k, -, -, hmem⟩ := hacc.stage
  rw [h] at hmem
  cases hop : call.op <;> rw [hop] at hmem <;> exact absurd hmem (by decide)

/-- A closed connection refuses everything and stays closed. -/
theorem step_closed {parseFloat : String → PyFloat} {c : Connection} (h : c.stage = .closed) (call : Call) :
    (∃ e, (step parseFloat sha256 fits c call).1 = .raised e) ∧
      (step parseFloat sha256 fits c call).2.stage = .closed := by
  have hfalse : c.require sha256 call.capability call.op.stages = false := by
    have hrefused := not_accepts sha256 h call
    rwa [Accepts, Bool.not_eq_true] at hrefused
  unfold step
  cases hop : call.op <;> rw [hop] at hfalse
  · have hop : c.require sha256 call.capability [.authenticated] = false := hfalse
    simp only [readRequestHead, hop, if_true]
    exact ⟨⟨_, rfl⟩, rfl⟩
  · have hop : c.require sha256 call.capability [.headValidated] = false := hfalse
    simp only [readBody, hop, if_true]
    exact ⟨⟨_, rfl⟩, rfl⟩
  · have hop : c.require sha256 call.capability [.headValidated, .bodyRead] = false := hfalse
    simp only [writeResponse, hop, if_true]
    exact ⟨⟨_, rfl⟩, rfl⟩
  · have hop : c.require sha256 call.capability [.authenticated, .headValidated, .bodyRead] = false := hfalse
    simp only [close, hop, if_true]
    exact ⟨⟨_, rfl⟩, rfl⟩

end Steps

/-! ## Runs -/

section Runs

variable (parseFloat : String → PyFloat) (sha256 : String → String) {fits : ℚ → Bool}

/-- A connection with its first capability, and all that it will meet. -/
structure Session (fits : ℚ → Bool) where
  connectionId : String
  token : String
  limits : Limits
  source : Source UInt8
  turns : List Turn
  timeouts : TimeoutsFit fits limits none turns

def Session.start (s : Session fits) : Connection :=
  ⟨s.connectionId, .authenticated, some (sha256 s.token), none, s.limits, ⟨s.source, none⟩, s.turns⟩

/-- The connection before call `k`. -/
def Session.before (s : Session fits) (calls : List Call) (k : Nat) : Connection :=
  Machine.stateAt (step parseFloat sha256 fits) (s.start sha256) calls k

/-- What call `k` does. -/
def Session.outcome (s : Session fits) (calls : List Call) (k : Nat) (call : Call) : Outcome :=
  (step parseFloat sha256 fits (s.before parseFloat sha256 calls k) call).1

/-- The methods of the calls that succeed. -/
def succeeded (fits : ℚ → Bool) : Connection → List Call → List Op
  | _, [] => []
  | c, call :: calls =>
    if (step parseFloat sha256 fits c call).1.succeeded then
      call.op :: succeeded fits (step parseFloat sha256 fits c call).2 calls
    else succeeded fits (step parseFloat sha256 fits c call).2 calls

/-- One `write_response` or `close`, or neither. -/
def Last (ops : List Op) : Prop := ops = [] ∨ ops = [.write] ∨ ops = [.close]

def AfterHead (ops : List Op) : Prop := Last ops ∨ ∃ rest, ops = .readBody :: rest ∧ Last rest

/-- `read_request_head`, perhaps `read_body`, and an end; or `close` at once. -/
def InOrder (ops : List Op) : Prop := ops = [] ∨ ops = [.close] ∨ ∃ rest, ops = .readHead :: rest ∧ AfterHead rest

/-- What is known of a connection; `stream` is all that its peer sends. -/
structure Sound (fits : ℚ → Bool) (stream : Bytes) (c : Connection) : Prop where
  fit : c.stage ≠ .closed → TimeoutsFit fits c.limits c.io.times c.turns
  unread : c.stage = .authenticated → c.io.source.left = stream
  validated : c.stage = .headValidated → ∃ head headers, c.head = some head ∧ IsHeadOf head headers ∧
    stream = ascii (headText headers) ++ c.io.source.left

variable {parseFloat sha256}

theorem Sound.of_closed {stream : Bytes} {c : Connection} (h : c.stage = .closed) : Sound fits stream c :=
  ⟨fun hne => absurd h hne, fun hs => by simp [h] at hs, fun hs => by simp [h] at hs⟩

variable (parseFloat sha256) in
theorem Sound.moves {stream : Bytes} {c : Connection} (h : Sound fits stream c) (call : Call) :
    Moves sha256 fits c call (step parseFloat sha256 fits c call).1 (step parseFloat sha256 fits c call).2 := by
  by_cases hc : c.stage = .closed
  · obtain ⟨⟨e, he⟩, hclosed⟩ := step_closed hc call
    rw [he]
    exact .fails hclosed
  · exact step_cases (h.fit hc) call

/-- A method that accepts one stage only. -/
theorem Accepts.only {c : Connection} {call : Call} (h : Accepts sha256 c call) (stage : Stage)
    (hop : call.op.stages = [stage]) : c.stage = stage := by
  obtain ⟨-, -, -, hmem⟩ := h.stage
  rw [hop] at hmem
  exact List.mem_singleton.mp hmem

theorem Sound.of_moves {stream : Bytes} {c c' : Connection} {call : Call} {o : Outcome} (h : Sound fits stream c)
    (hm : Moves sha256 fits c call o c') : Sound fits stream c' := by
  cases hm with
  | fails closed => exact .of_closed closed
  | ends op accepts closed => exact .of_closed closed
  | readsHead op accepts stage fit kept ofText taken =>
    have hstage : c.stage = .authenticated := accepts.only .authenticated (by rw [op]; rfl)
    refine ⟨fun _ => fit, fun hs => by simp [stage] at hs, fun _ => ⟨_, _, kept, ofText, ?_⟩⟩
    rw [← h.unread hstage, taken]
  | readsBody op accepts stage fit kept length taken =>
    exact ⟨fun _ => fit, fun hs => by simp [stage] at hs, fun hs => by simp [stage] at hs⟩

variable (parseFloat sha256) in
theorem Sound.step {stream : Bytes} {c : Connection} (h : Sound fits stream c) (call : Call) :
    Sound fits stream (step parseFloat sha256 fits c call).2 :=
  h.of_moves (h.moves parseFloat sha256 call)

/-! ## The order of the calls that succeed -/

/-- What may succeed from a stage on. -/
def Expected : Stage → List Op → Prop
  | .authenticated, ops => InOrder ops
  | .headValidated, ops => AfterHead ops
  | .bodyRead, ops => Last ops
  | .closed, ops => ops = []

theorem Expected.nil : ∀ stage : Stage, Expected stage []
  | .authenticated => .inl rfl
  | .headValidated => .inl (.inl rfl)
  | .bodyRead => .inl rfl
  | .closed => rfl

/-- A method that ends the connection may succeed wherever it is accepted. -/
theorem Expected.last {stage : Stage} {op : Op} (h : stage ∈ op.stages) (hop : op = .write ∨ op = .close) :
    Expected stage [op] := by
  rcases hop with rfl | rfl <;> cases stage
  · simp [Op.stages] at h
  · exact .inl (.inr (.inl rfl))
  · exact .inr (.inl rfl)
  · simp [Op.stages] at h
  · exact .inr (.inl rfl)
  · exact .inl (.inr (.inr rfl))
  · exact .inr (.inr rfl)
  · simp [Op.stages] at h

theorem succeeded_expected {stream : Bytes} : ∀ (calls : List Call) {c : Connection}, Sound fits stream c →
    Expected c.stage (succeeded parseFloat sha256 fits c calls)
  | [], c, _ => Expected.nil c.stage
  | call :: calls, c, h => by
    have hrest := succeeded_expected calls (h.step parseFloat sha256 call)
    have hmoves := h.moves parseFloat sha256 call
    rw [succeeded]
    generalize hr : step parseFloat sha256 fits c call = r at hrest hmoves ⊢
    obtain ⟨o, c'⟩ := r
    simp only at hrest hmoves ⊢
    cases hmoves with
    | fails closed =>
      rw [closed] at hrest
      simp only [Outcome.succeeded, Bool.false_eq_true, if_false]
      rw [hrest]
      exact .nil c.stage
    | ends op accepts closed =>
      obtain ⟨-, -, -, hmem⟩ := accepts.stage
      rw [closed] at hrest
      simp only [Outcome.succeeded, if_true]
      rw [hrest]
      exact .last hmem op
    | readsHead op accepts stage =>
      rw [stage] at hrest
      rw [accepts.only .authenticated (by rw [op]; rfl)]
      simp only [Outcome.succeeded, if_true, op]
      exact .inr (.inr ⟨_, rfl, hrest⟩)
    | readsBody op accepts stage =>
      rw [stage] at hrest
      rw [accepts.only .headValidated (by rw [op]; rfl)]
      simp only [Outcome.succeeded, if_true, op]
      exact .inr ⟨_, rfl, hrest⟩

/-! ## A run -/

def Stage.rank : Stage → Nat
  | .authenticated => 0
  | .headValidated => 1
  | .bodyRead => 2
  | .closed => 3

variable (parseFloat sha256) in
/-- A call leaves the stage, and does not come back. -/
theorem Sound.rank_lt {stream : Bytes} {c : Connection} (h : Sound fits stream c) (hopen : c.stage ≠ .closed)
    (call : Call) : c.stage.rank < (Transport.step parseFloat sha256 fits c call).2.stage.rank := by
  have hlast : c.stage.rank < 3 := by cases hs : c.stage <;> first | decide | exact absurd hs hopen
  have hmoves := h.moves parseFloat sha256 call
  generalize Transport.step parseFloat sha256 fits c call = r at hmoves ⊢
  obtain ⟨o, c'⟩ := r
  simp only at hmoves ⊢
  cases hmoves with
  | fails closed => rwa [closed]
  | ends op accepts closed => rwa [closed]
  | readsHead op accepts stage =>
    rw [stage, accepts.only .authenticated (by rw [op]; rfl)]
    decide
  | readsBody op accepts stage =>
    rw [stage, accepts.only .headValidated (by rw [op]; rfl)]
    decide

variable (s : Session fits) (calls : List Call)

theorem Session.sound_start : Sound fits s.source.left (s.start sha256) :=
  ⟨fun _ => s.timeouts, fun _ => rfl, fun h => Stage.noConfusion h⟩

variable (parseFloat sha256) in
theorem Session.sound (k : Nat) : Sound fits s.source.left (s.before parseFloat sha256 calls k) :=
  Machine.stateAt_inv (fun _ call h => h.step parseFloat sha256 call) s.sound_start k

theorem Session.succ {k : Nat} {call : Call} (hk : calls[k]? = some call) :
    s.before parseFloat sha256 calls (k + 1) =
      (Transport.step parseFloat sha256 fits (s.before parseFloat sha256 calls k) call).2 :=
  Machine.stateAt_succ _ hk

variable (parseFloat sha256) in
theorem Session.rank_le {k l : Nat} (hkl : k ≤ l) :
    (s.before parseFloat sha256 calls k).stage.rank ≤ (s.before parseFloat sha256 calls l).stage.rank := by
  refine Machine.stateAt_rel (I := Sound fits s.source.left) (R := fun a b => a.stage.rank ≤ b.stage.rank)
    (fun _ call h => h.step parseFloat sha256 call) s.sound_start (fun _ => Nat.le_refl _)
    (fun _ _ _ => Nat.le_trans) (fun c call h => ?_) hkl
  by_cases hopen : c.stage = .closed
  · rw [hopen, (step_closed hopen call).2]
  · exact Nat.le_of_lt (h.rank_lt parseFloat sha256 hopen call)

theorem Session.closed_stays {k l : Nat} (hkl : k ≤ l) (hk : (s.before parseFloat sha256 calls k).stage = .closed) :
    (s.before parseFloat sha256 calls l).stage = .closed :=
  Machine.stateAt_stable (I := Sound fits s.source.left) (P := fun c => c.stage = .closed)
    (fun _ call h => h.step parseFloat sha256 call) s.sound_start (fun _ call _ hc => (step_closed hc call).2) hkl hk

variable (parseFloat sha256)

/-- A call is accepted. -/
def Session.accepts (k : Nat) (call : Call) : Prop := Accepts sha256 (s.before parseFloat sha256 calls k) call

variable {parseFloat sha256 s calls}

theorem Session.accepts.open {k : Nat} {call : Call} (h : s.accepts parseFloat sha256 calls k call) :
    (s.before parseFloat sha256 calls k).stage ≠ .closed :=
  fun hclosed => not_accepts sha256 hclosed call h

/-- A capability that was accepted is of an earlier stage than every one that is accepted later. -/
theorem Session.accepts.later {k l : Nat} {a b : Call} (hk : calls[k]? = some a) (hkl : k < l)
    (ha : s.accepts parseFloat sha256 calls k a) (hb : s.accepts parseFloat sha256 calls l b) :
    a.capability ≠ b.capability := by
  obtain ⟨p, hp, hpstage, -⟩ := Accepts.stage ha
  obtain ⟨q, hq, hqstage, -⟩ := Accepts.stage hb
  have hlt := (s.sound parseFloat sha256 calls k).rank_lt parseFloat sha256 ha.open a
  rw [← s.succ calls hk] at hlt
  have hle := s.rank_le parseFloat sha256 calls (Nat.succ_le_of_lt hkl)
  intro heq
  rw [hp, hq] at heq
  rw [Option.some.inj heq, hqstage] at hpstage
  rw [Option.some.inj hpstage] at hle
  exact absurd hle (Nat.not_le_of_lt hlt)

/-! ## What the calls do -/

/-- The stream begins with the text of a head, up to its first blank line. -/
def StreamHead (stream : Bytes) (head : ValidatedRequestHead) (rest : Bytes) : Prop :=
  ∃ text, cut (CRLF ++ CRLF) stream = some (text, rest) ∧ parseRequestHead (text ++ (CRLF ++ CRLF)) = .ok head

theorem streamHead_of_text {head : ValidatedRequestHead} {headers : List (String × String)} (h : IsHeadOf head headers)
    (rest : Bytes) : StreamHead (ascii (headText headers) ++ rest) head rest := by
  refine ⟨headLines headers, h.1.cut_text rest, ?_⟩
  rw [← ascii_headText_eq]
  exact parseRequestHead_ok.mpr ⟨headers, h, rfl⟩

theorem Sound.head {stream : Bytes} {c c' : Connection} {call : Call} {head : ValidatedRequestHead}
    {next : TransportCapability} (h : Sound fits stream c) (hm : Moves sha256 fits c call (.head head next) c') :
    StreamHead stream head c'.io.source.left := by
  cases hm with
  | readsHead op accepts stage fit kept ofText taken =>
    have hstage : c.stage = .authenticated := accepts.only .authenticated (by rw [op]; rfl)
    rw [← h.unread hstage, taken]
    exact streamHead_of_text ofText _

theorem Sound.body {stream body : Bytes} {c c' : Connection} {call : Call} {next : TransportCapability}
    (h : Sound fits stream c) (hm : Moves sha256 fits c call (.body body next) c') :
    ∃ head rest, StreamHead stream head rest ∧ body = rest.take head.contentLength ∧
      body.length = head.contentLength := by
  cases hm with
  | readsBody op accepts stage fit kept length taken =>
    have hstage : c.stage = .headValidated := accepts.only .headValidated (by rw [op]; rfl)
    obtain ⟨head, headers, hkept, hhead, hstream⟩ := h.validated hstage
    obtain rfl := Option.some.inj (kept.symm.trans hkept)
    refine ⟨_, c.io.source.left, hstream ▸ streamHead_of_text hhead _, ?_, length⟩
    rw [taken, ← length, List.take_left]

theorem Sound.closes {stream : Bytes} {c : Connection} (h : Sound fits stream c) {call : Call}
    (hend : (Transport.step parseFloat sha256 fits c call).1.succeeded = false ∨ call.op = .write ∨ call.op = .close) :
    (Transport.step parseFloat sha256 fits c call).2.stage = .closed := by
  have hmoves := h.moves parseFloat sha256 call
  generalize Transport.step parseFloat sha256 fits c call = r at hend hmoves ⊢
  obtain ⟨o, c'⟩ := r
  simp only at hend hmoves ⊢
  cases hmoves with
  | fails closed => exact closed
  | ends op accepts closed => exact closed
  | readsHead op => simp [Outcome.succeeded, op] at hend
  | readsBody op => simp [Outcome.succeeded, op] at hend

variable (parseFloat sha256)

end Runs

/-! ## Where a call leaves the connection open -/

def sampleToken : String := "AAAAAAAAAAAAAAAAAAAAAAAAAAAAAAAAAAAAAAAAAAA"

def sampleConnectionId : String := "3c1d2a44-90f4-4c5e-8b1b-6a0d9f1e7c20"

/-- `hashlib.sha256` on the one token. -/
def sampleSha256 (token : String) : String :=
  if token = sampleToken then "0f007385b6f9d4b7eeb2748605afe1a984a0a3bfa3f014d09e2a784ce9e5cd1a" else ""

/-- `settimeout` counts milliseconds in a C `int`. -/
def fitsMilliseconds (t : ℚ) : Bool := decide (t * 1000 ≤ 2147483647)

/-- A connection to whose peer one byte is left. -/
def sampleConnection (turns : List Turn) : Connection :=
  ⟨sampleConnectionId, .authenticated, some (sampleSha256 sampleToken), none, ⟨5, 1⟩,
    ⟨Source.ofRecords [ascii "P".toList] (by decide), none⟩, turns⟩

def sampleCall (op : Op) : Call :=
  ⟨op, some ⟨some sampleConnectionId, some .authenticated, some sampleToken⟩, sampleToken, false, .other,
    ⟨.raised, .raised, false⟩⟩

/-- A clock that goes back by 3000000 seconds between two receives. -/
def clockBack : List Turn :=
  [⟨.value (.finite 3000000 "3000000.0"), .arrives, .value (.finite 3000000 "3000000.0")⟩,
    ⟨.value (.finite 0 "0.0"), .arrives, .value (.finite 0 "0.0")⟩]

theorem close_succeeded (parseFloat : String → PyFloat) {c : Connection}
    (h : c.require sampleSha256 (sampleCall .close).capability [.authenticated, .headValidated, .bodyRead] = true) :
    succeeded parseFloat sampleSha256 fitsMilliseconds c [sampleCall .close] = [.close] := by
  have hclose : close sampleSha256 (sampleCall .close).capability c = (.ok (), c.abort) := by
    rw [close, if_neg (by rw [h]; decide)]
  have hstep : step parseFloat sampleSha256 fitsMilliseconds c (sampleCall .close) = (.done, c.abort) := by
    simp only [step, show (sampleCall .close).op = .close from rfl, hclose, outcomeOf]
  rw [succeeded, hstep]
  rfl

end ThreatFusion.Transport
