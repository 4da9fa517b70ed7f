import ThreatFusion.Lib.Machine
/-
# The human listener lifecycle

`operations/human_listener_lifecycle.py`: one control thread, and the workers it starts. A step is one
statement of one of the threads, so the steps of a control call, of a worker in `_serve` and the replies of
the environment interleave freely.

| here | there |
| --- | --- |
| `Slot`, `Name`        | the API and the browser listener of one `replace` (:158-171), and the worker of each (:191-194) |
| `System`              | the fields of `HumanListenerLifecycle` (:64-71), the listener objects and the threads |
| `serveStep`           | `_serve` (:91-104) with `_stop_admission` (:86-89) |
| `ShutdownStep`        | the statements of `_shutdown` (:106-134) |
| `Phase`               | the statements of `replace` (:143-218) and of the quiescent calls (:220-307) |
| `Kont`                | what follows a `_shutdown`, by the place that called it |
| `lifecycleStep`       | one step of the system |

A `Name` carries the number of the `replace` that made it. What the code calls (`construct_listener`, the
schema gates and probes, `open`, `Thread.start`, `close`, the storage functions) answers as it likes. `start`
can raise with the native thread created and not yet running; the code then waits 50 ms for it (:206-212),
and here that wait may end at any moment.
-/
namespace ThreatFusion.Lifecycle
open Machine

inductive Slot where
  | api | browser
deriving DecidableEq

/-- A listener, or the worker of that listener. -/
structure Name where
  attempt : Nat
  slot : Slot
deriving DecidableEq

/-- `_state`. -/
inductive LifecycleState where
  | stopped | stopping | policyLoaded | accepting | failed
deriving DecidableEq

/-- A listener object: has it a socket, and is its `_admission_stopped` set? -/
structure Listener where
  isOpen : Bool := false
  admissionStopped : Bool := false
deriving DecidableEq

/-- Where a worker is. -/
inductive WorkerPhase where
  -- no native thread; a native thread that has not begun to run
  | notCreated | unborn
  -- `_ready.wait()`, the test of `_stop`, `process_one`
  | waiting | checking | serving
  -- the statements of the handler
  | setFailed | setStop | stopAdmission (rest : List Name) | closeAll (rest : List Name)
  -- `finished.set()`; the thread is gone
  | finishing | ended
deriving DecidableEq

structure Worker where
  phase : WorkerPhase := .notCreated
  raised : Bool := false
deriving DecidableEq

namespace Worker

/-- Has the thread begun to run? -/
def started (w : Worker) : Bool := w.phase != .notCreated && w.phase != .unborn

/-- `is_alive()`. -/
def isAlive (w : Worker) : Bool := w.started && w.phase != .ended

end Worker

/-- An entry of `_workers`. -/
structure Record where
  worker : Name
  failedToStart : Bool
deriving DecidableEq

inductive Call where
  | shutdown | replace | snapshotQuiescent | restoreQuiescent | pruneSecurityAuditQuiescent
deriving DecidableEq

/-- The exceptions of a control call. `closing` is the one of a listener's `close` that `_shutdown` lets
through, `verification` the one of `verify_storage_snapshot`, `storage` the one of the storage function. -/
inductive Exn where
  | keyboardInterrupt | humanLifecycleError | closing | verification | storage
deriving DecidableEq

inductive Reply where
  | returned (call : Call)
  | raised (call : Call) (e : Exn)
deriving DecidableEq

/-- What a call into the environment raises. -/
inductive Raised where
  | keyboardInterrupt | other
deriving DecidableEq

/-- The answer of the environment; `done` says whether what was asked had taken effect. -/
inductive Answer where
  | ok
  | raises (e : Raised) (done : Bool)
deriving DecidableEq

/-- Who called `_shutdown`: `shutdown`, a quiescent call before its storage function, `replace` before it
opens, the handler of `replace`, the handler around a nested `replace`. -/
inductive Kont where
  | only | beforeStorage | beforeOpen | afterError (e : Raised) | beforeRaise (e : Exn)
deriving DecidableEq

inductive ShutdownStep where
  | setStopping | setStop | stopAdmission (rest : List Name) | setReady
  | close (rest : List Name) (interrupted : Bool)
  | join (rest : List Record) (interrupted : Bool)
  | dropListeners (interrupted : Bool) | dropWorkers (interrupted : Bool) | setStopped (interrupted : Bool)
deriving DecidableEq

inductive Phase where
  | idle (last : Option Reply)
  | verify
  | shutdown (k : Kont) (step : ShutdownStep)
  | storage
  | clearStop | clearReady
  | construct (rest : List Slot)
  | probe
  | loadPolicy
  | openAll (rest : List Name)
  | spawn (rest : List Name)
  | start (worker : Name) (rest : List Name)
  | startFailed (worker : Name) (e : Raised)
  | bump | accept | release
  | markFailed (e : Exn)
deriving DecidableEq

structure System where
  state : LifecycleState := .stopped
  stop : Bool := false
  ready : Bool := false
  listeners : List Name := []
  workers : List Record := []
  generation : Nat := 0
  attempt : Nat := 0
  listener : Name → Listener := fun _ => {}
  worker : Name → Worker := fun _ => {}
  call : Call := .shutdown
  phase : Phase := .idle none

namespace System

def setListener (s : System) (n : Name) (l : Listener) : System :=
  { s with listener := fun m => if m = n then l else s.listener m }

def setWorker (s : System) (n : Name) (w : Worker) : System :=
  { s with worker := fun m => if m = n then w else s.worker m }

def goto (s : System) (phase : Phase) : System := { s with phase }

/-- `stop_admission()` of a listener. -/
def stopAdmission (s : System) (n : Name) : System :=
  s.setListener n { s.listener n with admissionStopped := true }

/-- `close()` of a listener that took effect. -/
def close (s : System) (n : Name) : System := s.setListener n { isOpen := false, admissionStopped := true }

/-- `close()` of a listener that raises: it has stopped admission, and may have closed. -/
def closeRaising (s : System) (n : Name) (done : Bool) : System :=
  s.setListener n { isOpen := (s.listener n).isOpen && !done, admissionStopped := true }

/-! ## The workers -/

/-- A step of worker `n` in `_serve`. -/
def serveStep (s : System) (n : Name) (a : Answer) : System :=
  let w := s.worker n
  let next (s : System) (phase : WorkerPhase) : System := s.setWorker n { w with phase }
  match w.phase with
  | .notCreated | .ended => s
  | .unborn => next s .waiting
  | .waiting => if s.ready then next s .checking else s
  | .checking => next s (if s.stop then .finishing else .serving)
  | .serving => match a with
    | .ok => next s .checking
    | .raises _ _ => s.setWorker n { phase := .setFailed, raised := true }
  | .setFailed => next { s with state := .failed } .setStop
  | .setStop => next { s with stop := true } (.stopAdmission s.listeners)
  | .stopAdmission [] => next s (.closeAll s.listeners)
  | .stopAdmission (l :: rest) => next (s.stopAdmission l) (.stopAdmission rest)
  | .closeAll [] => next s .finishing
  | .closeAll (l :: rest) => match a with
    | .ok => next (s.close l) (.closeAll rest)
    | .raises _ done => next (s.closeRaising l done) .finishing
  | .finishing => next s .ended

/-! ## The control thread -/

def nested (s : System) : Bool := s.call != .replace && s.call != .shutdown

/-- The call ends. -/
def ret (s : System) : Option Reply × System := (some (.returned s.call), s.goto (.idle (some (.returned s.call))))

def raise (s : System) (e : Exn) : Option Reply × System :=
  (some (.raised s.call e), s.goto (.idle (some (.raised s.call e))))

/-- The call goes on. -/
def next (s : System) (phase : Phase) : Option Reply × System := (none, s.goto phase)

/-- An exception leaves `replace`: the quiescent calls shut down once more (:254-258, :278-282, :300-304). -/
def replaceRaises (s : System) (e : Exn) : Option Reply × System :=
  if s.nested then s.next (.shutdown (.beforeRaise e) .setStopping) else s.raise e

/-- An exception inside the `try` of `replace` (:212-217). -/
def fails (s : System) (e : Raised) : Option Reply × System := s.next (.shutdown (.afterError e) .setStopping)

/-- `_shutdown` returns `interrupted`. -/
def shutdownReturns (s : System) (interrupted : Bool) : Kont → Option Reply × System
  | .only => if interrupted then s.raise .keyboardInterrupt else s.ret
  | .beforeStorage => if interrupted then s.raise .keyboardInterrupt else s.next .storage
  | .beforeOpen => if interrupted then s.replaceRaises .keyboardInterrupt else s.next .clearStop
  | .afterError e =>
    s.next (.markFailed (if e = .keyboardInterrupt || interrupted then .keyboardInterrupt else .humanLifecycleError))
  | .beforeRaise e => s.raise e

/-- `_shutdown` lets an exception of a `close` through. -/
def shutdownRaises (s : System) : Kont → Option Reply × System
  | .only | .beforeStorage | .beforeRaise _ => s.raise .closing
  | .beforeOpen | .afterError _ => s.replaceRaises .closing

/-- A statement of `_shutdown`. -/
def shutdownStep (s : System) (k : Kont) (step : ShutdownStep) (a : Answer) : Option Reply × System :=
  let next (s : System) (step : ShutdownStep) := s.next (.shutdown k step)
  match step with
  | .setStopping => next { s with state := .stopping } .setStop
  | .setStop => next { s with stop := true } (.stopAdmission s.listeners)
  | .stopAdmission [] => next s .setReady
  | .stopAdmission (l :: rest) => next (s.stopAdmission l) (.stopAdmission rest)
  | .setReady => next { s with ready := true } (.close s.listeners false)
  | .close [] interrupted => next s (.join s.workers interrupted)
  | .close (l :: rest) interrupted => match a with
    | .ok => next (s.close l) (.close rest interrupted)
    | .raises .keyboardInterrupt done => next (s.closeRaising l done) (.close (l :: rest) true)
    | .raises .other done => (s.closeRaising l done).shutdownRaises k
  | .join [] interrupted => next s (.dropListeners interrupted)
  | .join (r :: rest) interrupted =>
    if r.failedToStart || !(s.worker r.worker).started then next s (.join rest interrupted)
    else match a with
      | .raises .keyboardInterrupt _ => next s (.join (r :: rest) true)
      | _ => if (s.worker r.worker).phase = .ended then next s (.join rest interrupted) else (none, s)
  | .dropListeners interrupted => next { s with listeners := [] } (.dropWorkers interrupted)
  | .dropWorkers interrupted => next { s with workers := [] } (.setStopped interrupted)
  | .setStopped interrupted => { s with state := .stopped }.shutdownReturns interrupted k

/-- A statement of the control thread. -/
def controlStep (s : System) (a : Answer) : Option Reply × System :=
  match s.phase with
  | .idle _ => (none, s)
  | .verify => match a with
    | .ok => s.next (.shutdown .beforeStorage .setStopping)
    | .raises _ _ => s.raise .verification
  | .shutdown k step => s.shutdownStep k step a
  | .storage => match a with
    | .ok => s.next (.shutdown .beforeOpen .setStopping)
    | .raises _ _ => s.raise .storage
  | .clearStop => { s with stop := false }.next .clearReady
  | .clearReady => { s with ready := false, attempt := s.attempt + 1 }.next (.construct [.api, .browser])
  | .construct [] => s.next .probe
  | .construct (slot :: rest) => match a with
    | .ok =>
      let n : Name := ⟨s.attempt, slot⟩
      ({ s.setListener n {} with listeners := s.listeners ++ [n] } : System).next (.construct rest)
    | .raises e _ => s.fails e
  | .probe => match a with
    | .ok => s.next .loadPolicy
    | .raises e _ => s.fails e
  | .loadPolicy => { s with state := .policyLoaded }.next (.openAll s.listeners)
  | .openAll [] => s.next (.spawn s.listeners)
  | .openAll (l :: rest) => match a with
    | .ok => (s.setListener l { isOpen := true }).next (.openAll rest)
    | .raises e done => (if done then s.setListener l { isOpen := true } else s).fails e
  | .spawn [] => s.next .bump
  | .spawn (l :: rest) => ({ s.setWorker l {} with workers := s.workers ++ [⟨l, false⟩] } : System).next (.start l rest)
  | .start w rest => match a with
    | .ok => (s.setWorker w { phase := .waiting }).next (.spawn rest)
    | .raises e created => (if created then s.setWorker w { phase := .unborn } else s).next (.startFailed w e)
  | .startFailed w e =>
    if (s.worker w).started then s.fails e
    else match a with
      | .ok => (none, s)
      -- the wait times out
      | .raises _ _ => ({ s with workers := s.workers.map fun r => if r.worker = w then ⟨w, true⟩ else r } : System).fails e
  | .bump => { s with generation := s.generation + 1 }.next .accept
  | .accept => { s with state := .accepting }.next .release
  | .release => { s with ready := true }.ret
  | .markFailed e => { s with state := .failed }.replaceRaises e

/-- A control call begins. -/
def begin (s : System) (call : Call) : System :=
  { s with call }.goto <| match call with
    | .shutdown => .shutdown .only .setStopping
    | .replace => .shutdown .beforeOpen .setStopping
    | .snapshotQuiescent | .pruneSecurityAuditQuiescent => .shutdown .beforeStorage .setStopping
    | .restoreQuiescent => .verify

end System

inductive Action where
  | call (c : Call)
  | control (a : Answer)
  | worker (n : Name) (a : Answer)
deriving DecidableEq

/-- One step; a call begins only when none is in progress, and the step that ends a call is its reply. -/
def lifecycleStep (s : System) : Action → Option Reply × System
  | .call c => match s.phase with
    | .idle _ => (none, s.begin c)
    | _ => (none, s)
  | .control a => s.controlStep a
  | .worker n a => (none, s.serveStep n a)

/-- The system after the first `k` steps. -/
def systemAt (actions : List Action) (k : Nat) : System := stateAt lifecycleStep {} actions k

end ThreatFusion.Lifecycle
