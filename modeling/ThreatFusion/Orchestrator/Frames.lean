import ThreatFusion.Orchestrator.Model
/-
# What the small steps of a call leave alone

Most steps of `process_one` only set `_fatal` or append to the audit log, and some write to the producer. A relation
between worlds that allows this much holds across each of them, so every fact about the journal, the alerts or the
flag is carried past them by one lemma.

* `Silent`: the relation allows `_fatal` and the audit log to change.
* `Spoken`: and the bytes written to producers.
-/
namespace ThreatFusion.Orchestrator
open Py Admission Alerts ReplayJournal Effect

structure Silent (R : World → World → Prop) : Prop where
  refl : ∀ w, R w w
  trans : ∀ a b c, R a b → R b c → R a c
  poisoned : ∀ w, R w { w with fatal := true }
  audited : ∀ w events, R w { w with audit := w.audit ++ events }

structure Spoken (R : World → World → Prop) : Prop extends Silent R where
  wrote : ∀ w b, R w { w with written := w.written ++ [b] }

section
variable {R : World → World → Prop} {α : Type}

theorem Silent.poison (hR : Silent R) : Keeps R poison := Keeps.modify hR.poisoned

theorem Silent.poisonIf (hR : Silent R) (poisons : Bool) : Keeps R (poisonIf poisons) := by
  cases poisons
  · exact Keeps.pure hR.refl _
  · exact hR.poison

theorem Silent.fail (hR : Silent R) (code : OrchestratorCode) : Keeps R (fail code : Act α) := Keeps.throw hR.refl _

theorem Silent.poison_fail (hR : Silent R) (code : OrchestratorCode) :
    Keeps R (Orchestrator.poison >>= fun _ => Orchestrator.fail code : Act α) :=
  Keeps.bind hR.trans hR.poison fun _ => hR.fail code

theorem Silent.appendAudit (hR : Silent R) (env : Env) (site : AuditSite) (reason : AuditReason)
    (cid : Option String) : Keeps R (appendAudit env site reason cid) := by
  unfold Orchestrator.appendAudit
  split
  · exact Keeps.modify fun w => hR.audited w _
  · exact hR.fail _

theorem Silent.response (hR : Silent R) (cid : String) (reason : ResponseReason)
    (records : List ProducerRecordDisposition) : Keeps R (response cid reason records) := by
  unfold Orchestrator.response
  split
  · exact hR.fail _
  · exact Keeps.pure hR.refl _

theorem Silent.raiseAmbiguous (hR : Silent R) (env : Env) (code : OrchestratorCode) (reason : AuditReason)
    (record : ValidatedAdmissionRecord) : Keeps R (raiseAmbiguous env code reason record : Act α) := by
  refine Keeps.bind hR.trans hR.poison fun _ => ?_
  exact Keeps.bind hR.trans (Keeps.attempt (hR.appendAudit _ _ _ _)) fun _ => hR.fail _

theorem Silent.checkBudget (hR : Silent R) (env : Env) (record : ValidatedAdmissionRecord) (started : ℚ)
    (enforceBudget : Bool) : Keeps R (checkBudget env record started enforceBudget) := by
  unfold Orchestrator.checkBudget
  split
  · exact Keeps.pure hR.refl _
  · split
    · exact Keeps.pure hR.refl _
    · exact hR.raiseAmbiguous _ _ _ _
    · exact Keeps.throw hR.refl _

theorem Silent.transportFailed (hR : Silent R) (env : Env) (site : AuditSite) (e : TransportError) (poisons : Bool) :
    Keeps R (transportFailed env site e poisons : Act α) := by
  refine Keeps.bind hR.trans (Keeps.attempt (hR.appendAudit _ _ _ _)) fun r => ?_
  cases r with
  | ok _ => exact hR.fail _
  | error _ => exact Keeps.bind hR.trans (hR.poisonIf poisons) fun _ => hR.fail _

theorem Silent.acceptFailed (hR : Silent R) (env : Env) (e : TransportError) :
    Keeps R (acceptFailed env e : Act α) := by
  unfold Orchestrator.acceptFailed
  split
  · exact hR.fail _
  · exact hR.fail _
  · exact hR.fail _
  · refine Keeps.bind hR.trans (Keeps.attempt (hR.appendAudit _ _ _ _)) fun r => ?_
    cases r <;> exact hR.fail _

theorem Spoken.write (hR : Spoken R) (svc : Service) (env : Env) (b : Bytes) : Keeps R (write svc env b) := by
  refine Keeps.bind hR.trans hR.refl fun w => ?_
  split
  · exact Keeps.bind hR.trans (Keeps.modify fun w => hR.wrote w b) fun _ => Keeps.pure hR.refl _
  · exact Keeps.pure hR.refl _

theorem Spoken.auditOrUnavailable (hR : Spoken R) (svc : Service) (env : Env) (site : AuditSite) (reason : AuditReason)
    (cid : Option String) (poisons : Bool) : Keeps R (auditOrUnavailable svc env site reason cid poisons) := by
  refine Keeps.bind hR.trans (Keeps.attempt (hR.appendAudit _ _ _ _)) fun r => ?_
  cases r with
  | ok _ => exact Keeps.pure hR.refl _
  | error e =>
    refine Keeps.bind hR.trans (hR.poisonIf poisons) fun _ => ?_
    cases cid with
    | none => exact hR.fail _
    | some cid =>
      refine Keeps.bind hR.trans (hR.response _ _ _) fun b => ?_
      exact Keeps.bind hR.trans (hR.write _ _ _) fun r => Keeps.pure hR.refl _

theorem Spoken.answer (hR : Spoken R) (svc : Service) (env : Env) (cid : Option String) (reason : ResponseReason) :
    Keeps R (answer svc env cid reason) :=
  Keeps.bind hR.trans (hR.response _ _ _) fun _ => hR.write _ _ _

theorem Spoken.auditAndAnswer (hR : Spoken R) (svc : Service) (env : Env) (site : AuditSite) (reason : AuditReason)
    (cid : Option String) {act : Act ProducerOrchestratorResult} (h : Keeps R act) :
    Keeps R (auditAndAnswer svc env site reason cid act) := by
  refine Keeps.bind hR.trans (hR.auditOrUnavailable _ _ _ _ _ _) fun r => ?_
  cases r with
  | none => exact h
  | some failure => exact Keeps.pure hR.refl _

end

/-! ## A call up to its claim -/

/-- What decides that a call reaches the journal with this record. -/
structure Admits (env : Env) (w : World) (record : ValidatedAdmissionRecord) : Prop where
  alive : w.fatal = false
  session : ∃ session, env.accept = .ok (some session) ∧ admitRecord env session = .ok record
  accepted : env.acquire = .ok .accepted

/-- What `admitAndGate` leaves: the request has ended, or nothing has happened and the record is admitted. -/
def Gated (R : World → World → Prop) (env : Env) (session : Session) (w₀ : World) :
    ProducerOrchestratorResult ⊕ ValidatedAdmissionRecord → World → Prop
  | .inl _, w => R w₀ w
  | .inr record, w => w = w₀ ∧ admitRecord env session = .ok record ∧ env.acquire = .ok .accepted

section
variable {R : World → World → Prop}

theorem Silent.at_start (hR : Silent R) {α : Type} {m : Act α} (h : Keeps R m) {w₀ : World} :
    Triple (· = w₀) m (fun _ => R w₀) (fun _ => R w₀) :=
  (h.triple fun _ _ hstep hw => hR.trans _ _ _ hw hstep).at_state (hR.refl w₀)

theorem Spoken.admitAndGate (hR : Spoken R) (svc : Service) (env : Env) (session : Session) (w₀ : World) :
    Triple (· = w₀) (admitAndGate svc env session) (Gated R env session w₀) (fun _ => R w₀) := by
  have ended {m : Act ProducerOrchestratorResult} (h : Keeps R m) :
      Triple (· = w₀) (.inl <$> m) (Gated R env session w₀) (fun _ => R w₀) :=
    Triple.bind (hR.at_start h) fun _ => Triple.pure fun _ h => h
  have failed (site : AuditSite) (e : TransportError) (poisons : Bool) :
      Triple (· = w₀) (transportFailed env site e poisons) (Gated R env session w₀) (fun _ => R w₀) := by
    refine Triple.bind (hR.at_start (Keeps.attempt (hR.appendAudit _ _ _ _))) fun r => ?_
    cases r with
    | ok _ => exact Triple.throw fun _ h => h
    | error e =>
      exact Triple.bind ((hR.poisonIf poisons).triple fun _ _ hstep hw => hR.trans _ _ _ hw hstep)
        fun _ => Triple.throw fun _ h => h
  unfold Orchestrator.admitAndGate
  cases env.readRequestHead with
  | error e => exact failed _ _ _
  | ok _ =>
    dsimp only
    cases hadmit : admitRecord env session with
    | error e =>
      rcases e with e | e | e
      · exact Triple.throw fun w h => h ▸ hR.refl w₀
      · exact failed _ _ _
      · exact ended (hR.auditAndAnswer _ _ _ _ _ (hR.answer _ _ _ _))
    | ok record =>
      dsimp only
      split
      · exact ended (hR.auditAndAnswer _ _ _ _ _ (hR.fail _))
      · exact ended (hR.auditAndAnswer _ _ _ _ _ (hR.answer _ _ _ _))
      · exact ended (hR.auditAndAnswer _ _ _ _ _ (hR.answer _ _ _ _))
      · rename_i hgate
        have hacc : env.acquire = .ok .accepted := by
          split at hgate
          · cases hgate
          · exact hgate
        exact Triple.pure fun w h => ⟨h, hadmit, hacc⟩

theorem releasing_spec (env : Env) {P E : World → Prop} {body : Act ProducerOrchestratorResult}
    (hpoisoned : ∀ w, E w → E { w with fatal := true }) (h : Triple P body (fun _ => E) (fun _ => E)) :
    Triple P (releasing env body) (fun _ => E) (fun _ => E) := by
  refine Triple.bind (R := fun _ => E) (Triple.attempt h) fun outcome => ?_
  cases env.release with
  | error e =>
    exact Triple.bind (R := fun _ => E) (Triple.modify hpoisoned) fun _ => Triple.throw fun _ h => h
  | ok _ => exact Triple.ofExcept (fun _ _ _ h => h) fun _ _ _ h => h

/-- **The rule for a call**: an assertion that a request without a claim reaches, that poisoning keeps and that every
claim reaches, holds after the call. -/
theorem Spoken.processOne (hR : Spoken R) (svc : Service) (env : Env) {w₀ : World} {E : World → Prop}
    (hended : ∀ w, R w₀ w → E w) (hpoisoned : ∀ w, E w → E { w with fatal := true })
    (hclaimed : ∀ record, Admits env w₀ record →
      Triple (· = w₀) (claimAndProcess svc env record) (fun _ => E) (fun _ => E)) : E (processOne svc env w₀).2 := by
  have unclaimed {α : Type} {m : Act α} (h : Keeps R m) : Triple (· = w₀) m (fun _ => E) (fun _ => E) :=
    (hR.at_start h).weaken (fun _ h => h) (fun _ => hended) fun _ => hended
  have key : Triple (· = w₀) (Orchestrator.processOne svc env) (fun _ => E) (fun _ => E) := by
    refine Triple.bind (R := fun a w => a = w₀ ∧ w = w₀) (Triple.get fun w h => ⟨h, h⟩) fun a => ?_
    refine Triple.of_state fun w hw => ?_
    obtain ⟨rfl, rfl⟩ := hw
    cases hf : w.fatal with
    | true => exact unclaimed (hR.fail _)
    | false =>
      refine Triple.bind (R := fun _ => (· = w)) (Triple.ofExcept (fun _ _ _ h => h)
        fun _ _ _ h => hended _ (h ▸ hR.refl w)) fun _ => ?_
      cases ha : env.accept with
      | error e => exact unclaimed (hR.acceptFailed env e)
      | ok session =>
        cases session with
        | none => exact unclaimed (hR.poison_fail _)
        | some session =>
          refine Triple.bind ((hR.admitAndGate svc env session w).weaken (fun _ h => h) (fun _ _ h => h)
            fun _ => hended) fun r => ?_
          cases r with
          | inl result => exact Triple.pure hended
          | inr record =>
            refine Triple.of_state fun w' hw' => ?_
            obtain ⟨rfl, hr, hacc⟩ := hw'
            exact releasing_spec env hpoisoned (hclaimed record ⟨hf, ⟨session, ha, hr⟩, hacc⟩)
  have := key w₀ rfl
  split at this
  · rename_i heq
    rwa [heq]
  · rename_i heq
    rwa [heq]

end

end ThreatFusion.Orchestrator
