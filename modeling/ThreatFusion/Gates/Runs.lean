import ThreatFusion.Gates.Model
import ThreatFusion.Lib.TokenBucket
import ThreatFusion.Alerts.Identity
/-
# The gate over every run: rate, slot and lease

A run is a list of calls with their clock readings and random tokens, in the order in which they take the lock.

* `Outcome`: what a call can do, one constructor an exit (`gateStep_outcome`).
* `Sound`: credit, counts and slot fit together; `Outcome.sound` keeps it, `Outcome.meter` makes the gate a token
  bucket.
* `Current`: the lease of the last acceptance that is not released; `current_of_active` finds it.
* `gates_run`: rate, slot, leases and refusals of any run.
-/
namespace ThreatFusion.Gates
open Py Admission Alerts Machine TokenBucket ProducerExecutionGates

section
variable {sha256 : Bytes → String}

/-! ## One call -/

/-- The lease passes `_require_active_lease`. -/
def Active (sha256 : Bytes → String) (lease : ProducerExecutionLease) (g : ProducerExecutionGates) : Prop :=
  ∃ token : OwnershipToken, lease = ⟨some REGISTERED_UNSW_PRODUCER_ID, some g.gateInstanceId, some token.1⟩ ∧
    g.activeTokenSha256 = some (sha256 (utf8 token.1)) ∧ g.globalActiveCount = 1

theorem error_requireActiveLease {lease : Option ProducerExecutionLease} {g : ProducerExecutionGates} {e : GateError}
    (h : g.requireActiveLease sha256 lease = .error e) : e = .leaseNotActive := by
  unfold requireActiveLease at h
  split at h
  · dsimp only at h
    split at h
    · cases h
      rfl
    · split at h <;> cases h
      rfl
  · cases h
    rfl

theorem requireActiveLease_cases (sha256 : Bytes → String) (lease : Option ProducerExecutionLease) (g : ProducerExecutionGates) :
    g.requireActiveLease sha256 lease = .error .leaseNotActive ∨
    ∃ h l, g.requireActiveLease sha256 lease = .ok h ∧ lease = some l ∧ Active sha256 l g := by
  cases hreq : g.requireActiveLease sha256 lease with
  | error e => exact .inl (by rw [error_requireActiveLease hreq])
  | ok h =>
    refine .inr ⟨h, ?_⟩
    unfold requireActiveLease at hreq
    split at hreq
    · rename_i producerId instanceId token
      split at hreq
      · cases hreq
      · rename_i hform
        dsimp only at hreq
        split at hreq
        · cases hreq
        · rename_i hactive
          simp only [not_or, not_not, Bool.not_eq_true', Bool.not_eq_false] at hform hactive
          obtain ⟨rfl, -, htoken⟩ := hform
          obtain ⟨rfl, hdigest, hslot, -⟩ := hactive
          exact ⟨_, rfl, rfl, ⟨token, htoken⟩, rfl, hdigest, hslot⟩
    · cases hreq

/-- What a call can do to the gate, with its reply. -/
inductive Outcome (sha256 : Bytes → String) (g : ProducerExecutionGates) :
    GateCall → GateReply → ProducerExecutionGates → Prop
  | refused (call) {e} (he : e ≠ .monotonicClockInvalid) : Outcome sha256 g call (.raised e) g
  | clockRefused (producer reading token) :
      Outcome sha256 g (.acquire producer reading token) (.raised .monotonicClockInvalid) g.clockRejected
  | limited (producer token) {now g₁} (hnow : 0 ≤ now) (hrefill : g.refill now = some g₁)
      (hcredit : g₁.rateCreditNs < RATE_REFILL_INTERVAL_NS) :
      Outcome sha256 g (.acquire producer (.int now) token) (.decided .rateLimited)
        { g₁ with rateLimitedCount := g₁.rateLimitedCount + 1 }
  | busy (producer token) {now g₁} (hnow : 0 ≤ now) (hrefill : g.refill now = some g₁)
      (hcredit : RATE_REFILL_INTERVAL_NS ≤ g₁.rateCreditNs)
      (hbusy : g₁.globalActiveCount ≠ 0 ∨ g₁.producerActiveCount ≠ 0) :
      Outcome sha256 g (.acquire producer (.int now) token) (.decided .serverBusy)
        { g₁ with
          rateCreditNs := g₁.rateCreditNs - RATE_REFILL_INTERVAL_NS, serverBusyCount := g₁.serverBusyCount + 1 }
  | accepted (producer) (token : OwnershipToken) {now g₁} (hnow : 0 ≤ now) (hrefill : g.refill now = some g₁)
      (hcredit : RATE_REFILL_INTERVAL_NS ≤ g₁.rateCreditNs)
      (hfree : g₁.globalActiveCount = 0 ∧ g₁.producerActiveCount = 0) :
      Outcome sha256 g (.acquire producer (.int now) token)
        (.decided (.accepted ⟨some REGISTERED_UNSW_PRODUCER_ID, some g₁.gateInstanceId, some token.1⟩))
        { g₁ with
          rateCreditNs := g₁.rateCreditNs - RATE_REFILL_INTERVAL_NS
          activeTokenSha256 := some (sha256 (utf8 token.1)), globalActiveCount := 1, producerActiveCount := 1
          acceptedCount := g₁.acceptedCount + 1 }
  | entered (lease) (h : Active sha256 lease g) : Outcome sha256 g (.enterContext (some lease)) .entered g
  | released (call lease) (hcall : call = .release (some lease) ∨ call = .exitContext (some lease))
      (h : Active sha256 lease g) :
      Outcome sha256 g call .released
        { g with
          activeTokenSha256 := none, globalActiveCount := 0, producerActiveCount := 0
          releasedCount := g.releasedCount + 1 }

theorem release_outcome {call : GateCall} {lease : Option ProducerExecutionLease}
    (hcall : call = .release lease ∨ call = .exitContext lease) (g : ProducerExecutionGates) :
    Outcome sha256 g call (GateReply.released.ofUnit (g.release sha256 lease).1) (g.release sha256 lease).2 := by
  unfold ProducerExecutionGates.release
  rcases requireActiveLease_cases sha256 lease g with he | ⟨h, l, hok, rfl, hactive⟩
  · rw [he]
    exact .refused call nofun
  · rw [hok]
    exact .released call l hcall hactive

theorem acquireLocked_outcome (producer : Option AdmittedProducer) (token : OwnershipToken) {now : ℤ} (hnow : 0 ≤ now)
    (g : ProducerExecutionGates) :
    Outcome sha256 g (.acquire producer (.int now) token) (.ofDecision (g.acquireLocked sha256 now token).1)
      (g.acquireLocked sha256 now token).2 := by
  unfold acquireLocked
  cases hrefill : g.refill now with
  | none => exact .clockRefused _ _ _
  | some g₁ =>
    dsimp only [charge]
    by_cases hcredit : g₁.rateCreditNs < RATE_REFILL_INTERVAL_NS
    · rw [if_pos hcredit]
      exact .limited producer token hnow hrefill hcredit
    · rw [if_neg hcredit]
      by_cases hbusy : g₁.globalActiveCount ≠ 0 ∨ g₁.producerActiveCount ≠ 0
      · rw [if_pos hbusy]
        exact .busy producer token hnow hrefill (not_lt.1 hcredit) hbusy
      · rw [if_neg hbusy]
        exact .accepted producer token hnow hrefill (not_lt.1 hcredit) (by simpa using hbusy)

theorem error_validateProducer {producer : Option AdmittedProducer} {e : GateError}
    (h : validateProducer producer = .error e) : e = .producerNotAdmitted := by
  unfold validateProducer at h
  split at h
  · cases h
    rfl
  · split at h <;> cases h
    rfl

theorem acquire_outcome (producer : Option AdmittedProducer) (reading : ClockReading) (token : OwnershipToken)
    (g : ProducerExecutionGates) :
    Outcome sha256 g (.acquire producer reading token) (.ofDecision (g.acquire sha256 producer reading token).1)
      (g.acquire sha256 producer reading token).2 := by
  unfold acquire
  cases hproducer : validateProducer producer with
  | error e =>
    rw [error_validateProducer hproducer]
    exact .refused _ nofun
  | ok =>
    cases reading with
    | raises | other => exact .clockRefused _ _ _
    | int now =>
      by_cases hnow : 0 ≤ now ∧ now ≤ MAX_MONOTONIC_NS
      · simp only [readClock, if_pos hnow]
        exact acquireLocked_outcome producer token hnow.1 g
      · simp only [readClock, if_neg hnow]
        exact .clockRefused _ _ _

theorem gateStep_outcome (sha256 : Bytes → String) (g : ProducerExecutionGates) (call : GateCall) :
    Outcome sha256 g call (gateStep sha256 g call).1 (gateStep sha256 g call).2 := by
  cases call with
  | acquire producer reading token => exact acquire_outcome producer reading token g
  | release lease => exact release_outcome (.inl rfl) g
  | exitContext lease => exact release_outcome (.inr rfl) g
  | enterContext lease =>
    dsimp only [gateStep, ProducerExecutionGates.enterContext]
    rcases requireActiveLease_cases sha256 lease g with he | ⟨h, l, hok, rfl, hactive⟩
    · rw [he]
      exact .refused _ nofun
    · rw [hok]
      exact .entered l hactive

/-! ## The gate as a token bucket -/

/-- A token is spent by an acceptance and by a busy attempt. -/
def spentCount (g : ProducerExecutionGates) : ℕ := g.acceptedCount + g.serverBusyCount

def meter (g : ProducerExecutionGates) : Meter :=
  { credit := g.rateCreditNs, time := g.lastMonotonicNs.getD 0, spent := spentCount g }

def GateReply.spends : GateReply → Bool
  | .decided (.accepted _) | .decided .serverBusy => true
  | _ => false

/-- Credit, counts and slot fit together. -/
structure Sound (g : ProducerExecutionGates) : Prop where
  bounded : (meter g).Bounded maximumCredit
  /-- Before the first reading the bucket is full, as it would be after any wait. -/
  unread : g.lastMonotonicNs = none → g.rateCreditNs = maximumCredit
  paired : g.producerActiveCount = g.globalActiveCount
  counted : g.acceptedCount = g.releasedCount + g.globalActiveCount
  slot : g.globalActiveCount = 0 ∨ g.globalActiveCount = 1
  token : g.activeTokenSha256.isSome = true ↔ g.globalActiveCount = 1

theorem sound_new (gateInstanceId : String) : Sound (.new gateInstanceId) where
  bounded := by
    constructor
    · exact (by decide : (0 : ℤ) ≤ maximumCredit)
    · exact le_rfl
  unread _ := rfl
  paired := rfl
  counted := rfl
  slot := .inl rfl
  token := by simp [ProducerExecutionGates.new]

/-- A reading that passes is a tick of the meter, and touches nothing else. -/
theorem refill_eq {g g₁ : ProducerExecutionGates} (hg : Sound g) {now : ℤ} (hnow : 0 ≤ now)
    (h : g.refill now = some g₁) :
    (meter g).time ≤ now ∧ meter g₁ = (meter g).tick maximumCredit now ∧
      g₁ = { g with rateCreditNs := g₁.rateCreditNs, lastMonotonicNs := some now } := by
  unfold refill at h
  cases hlast : g.lastMonotonicNs with
  | none =>
    rw [hlast] at h
    cases h
    have htime : (meter g).time = 0 := by rw [meter, hlast]; rfl
    refine ⟨htime ▸ hnow, ?_, rfl⟩
    have hfull := hg.unread hlast
    rw [Meter.tick, meter, meter]
    congr 1
    dsimp only
    rw [hfull, hlast]
    exact (min_eq_left (by simp [hnow])).symm
  | some last =>
    rw [hlast] at h
    dsimp only at h
    split at h
    · cases h
    · rename_i hlt
      cases h
      have htime : (meter g).time = last := by rw [meter, hlast]; rfl
      refine ⟨htime ▸ not_lt.1 hlt, ?_, rfl⟩
      rw [Meter.tick, htime]
      rfl

theorem meter_busy (g : ProducerExecutionGates) :
    meter { g with
      rateCreditNs := g.rateCreditNs - RATE_REFILL_INTERVAL_NS, serverBusyCount := g.serverBusyCount + 1 } =
      (meter g).spend RATE_REFILL_INTERVAL_NS := rfl

theorem meter_accepted (g : ProducerExecutionGates) (digest : Option String) :
    meter { g with
      rateCreditNs := g.rateCreditNs - RATE_REFILL_INTERVAL_NS, activeTokenSha256 := digest, globalActiveCount := 1
      producerActiveCount := 1, acceptedCount := g.acceptedCount + 1 } =
      (meter g).spend RATE_REFILL_INTERVAL_NS := by
  have hspent : g.acceptedCount + 1 + g.serverBusyCount = g.acceptedCount + g.serverBusyCount + 1 := by omega
  rw [Meter.spend, meter, meter, spentCount, spentCount]
  dsimp only
  rw [hspent]
  rfl

/-- **One call is a step of the bucket.** -/
theorem Outcome.meter {g g' : ProducerExecutionGates} {call : GateCall} {reply : GateReply}
    (h : Outcome sha256 g call reply g') (hg : Sound g) :
    TokenBucket.Step maximumCredit RATE_REFILL_INTERVAL_NS (meter g) (meter g') := by
  cases h with
  | refused | clockRefused | entered | released => exact .stay _
  | @limited _ _ now g₁ hnow hrefill hcredit =>
    obtain ⟨htime, hmeter, -⟩ := refill_eq hg hnow hrefill
    change TokenBucket.Step _ _ (Gates.meter g) (Gates.meter g₁)
    rw [hmeter]
    exact .tick _ htime
  | @busy _ _ now g₁ hnow hrefill hcredit hbusy =>
    obtain ⟨htime, hmeter, -⟩ := refill_eq hg hnow hrefill
    rw [meter_busy, hmeter]
    refine .spend _ htime ?_
    rw [← hmeter]
    exact hcredit
  | @accepted _ token now g₁ hnow hrefill hcredit hfree =>
    obtain ⟨htime, hmeter, -⟩ := refill_eq hg hnow hrefill
    rw [meter_accepted, hmeter]
    refine .spend _ htime ?_
    rw [← hmeter]
    exact hcredit

theorem Outcome.spent {g g' : ProducerExecutionGates} {call : GateCall} {reply : GateReply}
    (h : Outcome sha256 g call reply g') (hg : Sound g) :
    spentCount g' = spentCount g + if reply.spends then 1 else 0 := by
  cases h with
  | refused | clockRefused | entered | released => rfl
  | limited _ _ hnow hrefill =>
    rw [(refill_eq hg hnow hrefill).2.2]
    rfl
  | busy _ _ hnow hrefill =>
    rw [(refill_eq hg hnow hrefill).2.2]
    rfl
  | accepted _ _ hnow hrefill =>
    rw [(refill_eq hg hnow hrefill).2.2]
    simp only [spentCount, GateReply.spends, if_true]
    omega

/-- **One call keeps the gate sound.** -/
theorem Outcome.sound {g g' : ProducerExecutionGates} {call : GateCall} {reply : GateReply}
    (h : Outcome sha256 g call reply g') (hg : Sound g) : Sound g' := by
  have hbounded : (Gates.meter g').Bounded maximumCredit := (h.meter hg).bounded (by decide) hg.bounded
  cases h with
  | refused => exact hg
  | entered => exact hg
  | clockRefused => exact ⟨hbounded, hg.unread, hg.paired, hg.counted, hg.slot, hg.token⟩
  | @limited _ _ now g₁ hnow hrefill hcredit =>
    obtain ⟨-, -, heq⟩ := refill_eq hg hnow hrefill
    rw [heq] at hbounded ⊢
    exact ⟨hbounded, nofun, hg.paired, hg.counted, hg.slot, hg.token⟩
  | @busy _ _ now g₁ hnow hrefill hcredit hbusy =>
    obtain ⟨-, -, heq⟩ := refill_eq hg hnow hrefill
    rw [heq] at hbounded ⊢
    exact ⟨hbounded, nofun, hg.paired, hg.counted, hg.slot, hg.token⟩
  | @accepted _ _ now g₁ hnow hrefill hcredit hfree =>
    obtain ⟨-, -, heq⟩ := refill_eq hg hnow hrefill
    rw [heq] at hbounded hfree ⊢
    have hcounted := hg.counted
    have hzero : g.globalActiveCount = 0 := hfree.1
    refine ⟨hbounded, nofun, rfl, ?_, .inr rfl, by simp⟩
    dsimp only
    omega
  | released _ lease hcall hactive =>
    obtain ⟨token, -, -, hone⟩ := hactive
    have hcounted := hg.counted
    refine ⟨hbounded, hg.unread, rfl, ?_, .inl rfl, by simp⟩
    dsimp only
    omega

theorem Outcome.instance_eq {g g' : ProducerExecutionGates} {call : GateCall} {reply : GateReply}
    (h : Outcome sha256 g call reply g') (hg : Sound g) : g'.gateInstanceId = g.gateInstanceId := by
  cases h with
  | refused | clockRefused | entered | released => rfl
  | limited _ _ hnow hrefill | busy _ _ hnow hrefill | accepted _ _ hnow hrefill =>
    rw [(refill_eq hg hnow hrefill).2.2]

/-- What a call does to the digest that the gate keeps. -/
theorem Outcome.token {g g' : ProducerExecutionGates} {call : GateCall} {reply : GateReply}
    (h : Outcome sha256 g call reply g') (hg : Sound g) :
    (g'.activeTokenSha256 = g.activeTokenSha256 ∧ (∀ l, reply ≠ .decided (.accepted l)) ∧ reply ≠ .released) ∨
    (∃ token : OwnershipToken, reply =
        .decided (.accepted ⟨some REGISTERED_UNSW_PRODUCER_ID, some g.gateInstanceId, some token.1⟩) ∧
      g'.activeTokenSha256 = some (sha256 (utf8 token.1))) ∨
    (reply = .released ∧ g'.activeTokenSha256 = none) := by
  cases h with
  | refused | clockRefused | entered => exact .inl ⟨rfl, nofun, nofun⟩
  | limited _ _ hnow hrefill | busy _ _ hnow hrefill =>
    refine .inl ⟨?_, nofun, nofun⟩
    rw [(refill_eq hg hnow hrefill).2.2]
  | accepted _ token hnow hrefill =>
    refine .inr (.inl ⟨token, ?_, rfl⟩)
    rw [(refill_eq hg hnow hrefill).2.2]
  | released => exact .inr (.inr ⟨rfl, rfl⟩)

theorem Outcome.of_released {g g' : ProducerExecutionGates} {call : GateCall} (h : Outcome sha256 g call .released g') :
    ∃ lease, (call = .release (some lease) ∨ call = .exitContext (some lease)) ∧ Active sha256 lease g := by
  cases h with
  | released _ lease hcall hactive => exact ⟨lease, hcall, hactive⟩

theorem Outcome.of_entered {g g' : ProducerExecutionGates} {call : GateCall} (h : Outcome sha256 g call .entered g') :
    ∃ lease, call = .enterContext (some lease) ∧ Active sha256 lease g := by
  cases h with
  | entered lease hactive => exact ⟨lease, rfl, hactive⟩

theorem Outcome.of_raised {g g' : ProducerExecutionGates} {call : GateCall} {e : GateError}
    (h : Outcome sha256 g call (.raised e) g') : g' = g ∨ g' = g.clockRejected ∧ e = .monotonicClockInvalid := by
  cases h with
  | refused => exact .inl rfl
  | clockRefused => exact .inr ⟨rfl, rfl⟩

theorem gateStep_sound (g : ProducerExecutionGates) (call : GateCall) (hg : Sound g) :
    Sound (gateStep sha256 g call).2 := (gateStep_outcome sha256 g call).sound hg

/-! ## Leases -/

variable (sha256) (gateInstanceId : String) (calls : List GateCall)

/-- The gate before call `k`. -/
def gateAt (k : Nat) : ProducerExecutionGates := stateAt (gateStep sha256) (.new gateInstanceId) calls k

def gateReply (k : Nat) : Option GateReply := replyAt (gateStep sha256) (.new gateInstanceId) calls k

/-- Call `i` was answered with this lease. -/
def Accepts (i : Nat) (lease : ProducerExecutionLease) : Prop :=
  gateReply sha256 gateInstanceId calls i = some (.decided (.accepted lease))

/-- Call `k` released the slot with this lease. -/
def Releases (k : Nat) (lease : ProducerExecutionLease) : Prop :=
  (calls[k]? = some (.release (some lease)) ∨ calls[k]? = some (.exitContext (some lease))) ∧
    gateReply sha256 gateInstanceId calls k = some .released

/-- Before call `k` the last acceptance issued this lease, and nothing was released since. -/
def Current (k : Nat) (lease : ProducerExecutionLease) : Prop :=
  ∃ i < k, Accepts sha256 gateInstanceId calls i lease ∧ ∀ m, i < m → m < k →
    (∀ l, ¬ Accepts sha256 gateInstanceId calls m l) ∧ gateReply sha256 gateInstanceId calls m ≠ some .released

/-- Different acceptances drew different tokens. -/
def FreshTokens : Prop :=
  ∀ i j l l', Accepts sha256 gateInstanceId calls i l → Accepts sha256 gateInstanceId calls j l' →
    l.ownershipToken = l'.ownershipToken → i = j

variable {sha256} {gateInstanceId} {calls}

theorem sound_at (k : Nat) : Sound (gateAt sha256 gateInstanceId calls k) :=
  stateAt_inv (I := Sound) gateStep_sound (sound_new gateInstanceId) k

theorem instance_at (k : Nat) : (gateAt sha256 gateInstanceId calls k).gateInstanceId = gateInstanceId := by
  refine (stateAt_inv (I := fun g => Sound g ∧ g.gateInstanceId = gateInstanceId) (fun g call h => ?_)
    ⟨sound_new gateInstanceId, rfl⟩ k).2
  exact ⟨gateStep_sound g call h.1, ((gateStep_outcome sha256 g call).instance_eq h.1).trans h.2⟩

variable (sha256) (gateInstanceId) in
theorem outcome_at {k : Nat} {call : GateCall} (h : calls[k]? = some call) :
    ∃ reply, gateReply sha256 gateInstanceId calls k = some reply ∧
      Outcome sha256 (gateAt sha256 gateInstanceId calls k) call reply (gateAt sha256 gateInstanceId calls (k + 1)) := by
  have hk : Happens (gateStep sha256) (.new gateInstanceId) calls k _ call _ _ := happens_of_input h
  refine ⟨_, hk.replyAt, ?_⟩
  rw [gateAt, gateAt, stateAt_succ _ h]
  exact gateStep_outcome sha256 _ call

theorem Current.next {k : Nat} {lease : ProducerExecutionLease} (h : Current sha256 gateInstanceId calls k lease)
    (haccepts : ∀ l, ¬ Accepts sha256 gateInstanceId calls k l)
    (hreleased : gateReply sha256 gateInstanceId calls k ≠ some .released) :
    Current sha256 gateInstanceId calls (k + 1) lease := by
  obtain ⟨i, hik, hi, hbetween⟩ := h
  refine ⟨i, Nat.lt_succ_of_lt hik, hi, fun m him hmk => ?_⟩
  rcases Nat.lt_succ_iff_lt_or_eq.1 hmk with hmk | rfl
  · exact hbetween m him hmk
  · exact ⟨haccepts, hreleased⟩

/-- The digest that the gate keeps is that of the current lease. -/
theorem current_of_token (k : Nat) {digest : String}
    (h : (gateAt sha256 gateInstanceId calls k).activeTokenSha256 = some digest) : ∃ token : OwnershipToken,
      Current sha256 gateInstanceId calls k ⟨some REGISTERED_UNSW_PRODUCER_ID, some gateInstanceId, some token.1⟩ ∧
        digest = sha256 (utf8 token.1) := by
  induction k generalizing digest with
  | zero => cases h
  | succ k ih =>
    cases hcall : calls[k]? with
    | none =>
      have hreply : gateReply sha256 gateInstanceId calls k = none := by rw [gateReply, replyAt, hcall, Option.map_none]
      rw [gateAt, stateAt_succ_none _ hcall] at h
      obtain ⟨token, hcurrent, hdigest⟩ := ih h
      refine ⟨token, hcurrent.next (fun l hl => ?_) ?_, hdigest⟩
      · rw [Accepts, hreply] at hl
        cases hl
      · rw [hreply]
        exact (Option.some_ne_none _).symm
    | some call =>
      obtain ⟨reply, hreply, hout⟩ := outcome_at sha256 gateInstanceId hcall
      rcases hout.token (sound_at k) with ⟨hsame, haccepted, hreleased⟩ | ⟨token, rfl, htoken⟩ | ⟨-, hnone⟩
      · rw [hsame] at h
        obtain ⟨token, hcurrent, hdigest⟩ := ih h
        refine ⟨token, hcurrent.next (fun l hl => ?_) ?_, hdigest⟩
        · exact haccepted l (Option.some.inj (hreply.symm.trans hl))
        · rw [hreply]
          exact fun heq => hreleased (Option.some.inj heq)
      · rw [htoken] at h
        rw [instance_at] at hreply
        exact ⟨token, ⟨k, Nat.lt_succ_self k, hreply, fun m hkm hmk => by omega⟩, (Option.some.inj h).symm⟩
      · rw [hnone] at h
        cases h

/-- **A lease that passes is the current one.** -/
theorem current_of_active (hsha : ∀ s t : OwnershipToken, sha256 (utf8 s.1) = sha256 (utf8 t.1) → s = t) {k : Nat}
    {lease : ProducerExecutionLease} (h : Active sha256 lease (gateAt sha256 gateInstanceId calls k)) :
    Current sha256 gateInstanceId calls k lease := by
  obtain ⟨token, rfl, hdigest, -⟩ := h
  obtain ⟨token', hcurrent, heq⟩ := current_of_token k hdigest
  rw [hsha token token' heq, instance_at]
  exact hcurrent

theorem Current.once {k l : Nat} {lease : ProducerExecutionLease} (hkl : k < l)
    (hk : gateReply sha256 gateInstanceId calls k = some .released) (h : Current sha256 gateInstanceId calls l lease) :
    ∃ i, k < i ∧ i < l ∧ Accepts sha256 gateInstanceId calls i lease := by
  obtain ⟨i, hil, hi, hbetween⟩ := h
  refine ⟨i, ?_, hil, hi⟩
  by_contra hki
  rcases Nat.lt_or_eq_of_le (Nat.not_lt.1 hki) with hlt | rfl
  · exact (hbetween k hlt hkl).2 hk
  · rw [Accepts, hk] at hi
    cases hi

/-! ## Every run -/

variable (sha256) (gateInstanceId) (calls)

/-- Call `k` is an `acquire` that passed the clock check at this reading. -/
def Passes (k : Nat) (t : ℤ) : Prop :=
  ∃ producer token decision, calls[k]? = some (.acquire producer (.int t) token) ∧
    gateReply sha256 gateInstanceId calls k = some (.decided decision)

/-- The tokens spent by the calls from `i` to `j`. -/
def consumed (i j : Nat) : Nat :=
  (List.range' i (j + 1 - i)).countP fun k => (gateReply sha256 gateInstanceId calls k).any GateReply.spends

/-- What holds at every moment of a run of one gate. -/
structure GateRun : Prop where
  /-- The credit stays within the bucket. -/
  credit : ∀ k, 0 ≤ (gateAt sha256 gateInstanceId calls k).rateCreditNs ∧
    (gateAt sha256 gateInstanceId calls k).rateCreditNs ≤ 2 * 10 ^ 10
  /-- One slot: both counts are the acceptances that are not released. -/
  active : ∀ k, let g := gateAt sha256 gateInstanceId calls k
    g.globalActiveCount = g.producerActiveCount ∧ (g.globalActiveCount : ℤ) = g.acceptedCount - g.releasedCount ∧
      (g.globalActiveCount = 0 ∨ g.globalActiveCount = 1)
  /-- The rate over any window that begins and ends with a passed clock check. -/
  rate : ∀ i j s t, i ≤ j → Passes sha256 gateInstanceId calls i s → Passes sha256 gateInstanceId calls j t →
    s ≤ t ∧ (consumed sha256 gateInstanceId calls i j : ℤ) ≤ 2 + (t - s) / 10 ^ 10
  /-- A release, and a context entered, has the exact lease of the current acceptance. -/
  released : ∀ k, gateReply sha256 gateInstanceId calls k = some .released → ∃ lease,
    Releases sha256 gateInstanceId calls k lease ∧ Current sha256 gateInstanceId calls k lease
  entered : ∀ k, gateReply sha256 gateInstanceId calls k = some .entered → ∃ lease,
    calls[k]? = some (.enterContext (some lease)) ∧ Current sha256 gateInstanceId calls k lease
  /-- A lease that is released again was issued again in between. -/
  once : ∀ k l lease, k < l → Releases sha256 gateInstanceId calls k lease →
    Releases sha256 gateInstanceId calls l lease → ∃ i, k < i ∧ i < l ∧ Accepts sha256 gateInstanceId calls i lease
  once_fresh : FreshTokens sha256 gateInstanceId calls → ∀ k l lease, Releases sha256 gateInstanceId calls k lease →
    Releases sha256 gateInstanceId calls l lease → k = l
  /-- A call that raises counts a rejected clock at most. -/
  raised : ∀ k e, gateReply sha256 gateInstanceId calls k = some (.raised e) →
    gateAt sha256 gateInstanceId calls (k + 1) = gateAt sha256 gateInstanceId calls k ∨
    gateAt sha256 gateInstanceId calls (k + 1) = (gateAt sha256 gateInstanceId calls k).clockRejected ∧
      e = .monotonicClockInvalid

variable {sha256} {gateInstanceId} {calls}

theorem bucket_le {j k : Nat} (hjk : j ≤ k) :
    (meter (gateAt sha256 gateInstanceId calls j)).time ≤ (meter (gateAt sha256 gateInstanceId calls k)).time ∧
      (meter (gateAt sha256 gateInstanceId calls k)).potential RATE_REFILL_INTERVAL_NS ≤
        (meter (gateAt sha256 gateInstanceId calls j)).potential RATE_REFILL_INTERVAL_NS := by
  refine stateAt_rel (I := Sound) (R := fun g g' => (meter g).time ≤ (meter g').time ∧
    (meter g').potential RATE_REFILL_INTERVAL_NS ≤ (meter g).potential RATE_REFILL_INTERVAL_NS)
    gateStep_sound (sound_new gateInstanceId) (fun _ => ⟨le_rfl, le_rfl⟩) (fun _ _ _ hab hbc => ?_)
    (fun g call hg => ?_) hjk
  · exact ⟨hab.1.trans hbc.1, hbc.2.trans hab.2⟩
  · have hstep := (gateStep_outcome sha256 g call).meter hg
    exact ⟨hstep.time_le, hstep.potential_le⟩

/-- A passed clock check sets the time of the bucket, and leaves it no better than a tick. -/
theorem Passes.meter {k : Nat} {t : ℤ} (h : Passes sha256 gateInstanceId calls k t) :
    (meter (gateAt sha256 gateInstanceId calls (k + 1))).time = t ∧
      (meter (gateAt sha256 gateInstanceId calls (k + 1))).potential RATE_REFILL_INTERVAL_NS ≤
        ((meter (gateAt sha256 gateInstanceId calls k)).tick maximumCredit t).potential RATE_REFILL_INTERVAL_NS := by
  obtain ⟨producer, token, decision, hcall, hreply⟩ := h
  obtain ⟨reply, hreply', hout⟩ := outcome_at sha256 gateInstanceId hcall
  obtain rfl : reply = .decided decision := Option.some.inj (hreply'.symm.trans hreply)
  have hsound : Sound (gateAt sha256 gateInstanceId calls k) := sound_at k
  generalize gateAt sha256 gateInstanceId calls k = g at hout hsound
  generalize gateAt sha256 gateInstanceId calls (k + 1) = g' at hout
  cases hout with
  | @limited _ _ _ g₁ hnow hrefill =>
    obtain ⟨-, hmeter, -⟩ := refill_eq hsound hnow hrefill
    rw [← hmeter]
    exact ⟨congrArg Meter.time hmeter, le_rfl⟩
  | @busy _ _ _ g₁ hnow hrefill =>
    obtain ⟨-, hmeter, -⟩ := refill_eq hsound hnow hrefill
    rw [meter_busy, ← hmeter, Meter.potential_spend]
    exact ⟨congrArg Meter.time hmeter, le_rfl⟩
  | @accepted _ _ _ g₁ hnow hrefill =>
    obtain ⟨-, hmeter, -⟩ := refill_eq hsound hnow hrefill
    rw [meter_accepted, ← hmeter, Meter.potential_spend]
    exact ⟨congrArg Meter.time hmeter, le_rfl⟩

theorem consumed_eq {i j : Nat} (hij : i ≤ j) : (consumed sha256 gateInstanceId calls i j : ℤ) =
    (meter (gateAt sha256 gateInstanceId calls (j + 1))).spent - (meter (gateAt sha256 gateInstanceId calls i)).spent := by
  have hcount : spentCount (gateAt sha256 gateInstanceId calls (i + (j + 1 - i))) =
      spentCount (gateAt sha256 gateInstanceId calls i) + consumed sha256 gateInstanceId calls i j :=
    stateAt_count (I := Sound) gateStep_sound (sound_new gateInstanceId)
      (fun g call hg => (gateStep_outcome sha256 g call).spent hg) i (j + 1 - i)
  rw [Nat.add_sub_cancel' (Nat.le_succ_of_le hij)] at hcount
  rw [meter, meter, hcount]
  push_cast
  ring

theorem rate_window {i j : Nat} {s t : ℤ} (hij : i ≤ j) (hi : Passes sha256 gateInstanceId calls i s)
    (hj : Passes sha256 gateInstanceId calls j t) :
    s ≤ t ∧ (consumed sha256 gateInstanceId calls i j : ℤ) ≤ 2 + (t - s) / 10 ^ 10 := by
  have hsound : Sound (gateAt sha256 gateInstanceId calls (j + 1)) := sound_at (j + 1)
  have hcredit := hsound.bounded.1
  have htime := hi.meter.1 ▸ hj.meter.1 ▸ (bucket_le (Nat.succ_le_succ hij)).1
  have hpotential := (bucket_le (Nat.succ_le_succ hij)).2.trans hi.meter.2
  have hwindow := spent_window hcredit hpotential
  rw [← consumed_eq hij, hj.meter.1] at hwindow
  refine ⟨htime, ?_⟩
  simp only [maximumCredit, RATE_BURST_CAPACITY, RATE_REFILL_INTERVAL_NS] at hwindow
  omega

theorem outcome_of_reply {k : Nat} {reply : GateReply} (h : gateReply sha256 gateInstanceId calls k = some reply) :
    ∃ call, calls[k]? = some call ∧
      Outcome sha256 (gateAt sha256 gateInstanceId calls k) call reply (gateAt sha256 gateInstanceId calls (k + 1)) := by
  obtain ⟨call, hk⟩ := happens_of_reply h
  obtain ⟨reply', hreply, hout⟩ := outcome_at sha256 gateInstanceId hk.input
  obtain rfl : reply' = reply := Option.some.inj (hreply.symm.trans h)
  exact ⟨call, hk.input, hout⟩

theorem exists_releases {k : Nat} (hk : gateReply sha256 gateInstanceId calls k = some .released) :
    ∃ lease, Releases sha256 gateInstanceId calls k lease := by
  obtain ⟨call, hcall, hout⟩ := outcome_of_reply hk
  obtain ⟨lease, hlease, -⟩ := hout.of_released
  refine ⟨lease, ?_, hk⟩
  rw [hcall]
  exact hlease.imp (congrArg some) (congrArg some)

theorem Releases.current (hsha : ∀ s t : OwnershipToken, sha256 (utf8 s.1) = sha256 (utf8 t.1) → s = t) {k : Nat}
    {lease : ProducerExecutionLease} (h : Releases sha256 gateInstanceId calls k lease) :
    Current sha256 gateInstanceId calls k lease := by
  obtain ⟨call, hcall, hout⟩ := outcome_of_reply h.2
  obtain ⟨lease', hlease, hactive⟩ := hout.of_released
  have heq : lease = lease' := by
    have hinput := h.1
    rw [hcall] at hinput
    rcases hlease with rfl | rfl <;> rcases hinput with hinput | hinput <;> cases hinput <;> rfl
  exact heq ▸ current_of_active hsha hactive

/-- **The gate on every run**: bounded credit, one slot, the windowed rate, and a slot that only its lease frees. -/
theorem gates_run (hsha : ∀ s t : OwnershipToken, sha256 (utf8 s.1) = sha256 (utf8 t.1) → s = t)
    (gateInstanceId : String) (calls : List GateCall) : GateRun sha256 gateInstanceId calls where
  credit k := (sound_at k).bounded
  active k := by
    have hsound : Sound (gateAt sha256 gateInstanceId calls k) := sound_at k
    have hcounted := hsound.counted
    exact ⟨hsound.paired.symm, by omega, hsound.slot⟩
  rate _ _ _ _ hij hi hj := rate_window hij hi hj
  released k hk := by
    obtain ⟨lease, hlease⟩ := exists_releases hk
    exact ⟨lease, hlease, hlease.current hsha⟩
  entered k hk := by
    obtain ⟨call, hcall, hout⟩ := outcome_of_reply hk
    obtain ⟨lease, rfl, hactive⟩ := hout.of_entered
    exact ⟨lease, hcall, current_of_active hsha hactive⟩
  once k l lease hkl hk hl := (hl.current hsha).once hkl hk.2
  once_fresh hfresh k l lease hk hl := by
    have hlater : ∀ {k l : Nat}, Releases sha256 gateInstanceId calls k lease →
        Releases sha256 gateInstanceId calls l lease → ¬ k < l := by
      intro k l hk hl hkl
      obtain ⟨i, hik, hi, -⟩ := hk.current hsha
      obtain ⟨j, hkj, -, hj⟩ := (hl.current hsha).once hkl hk.2
      have hij : i = j := hfresh i j lease lease hi hj rfl
      omega
    have hkl := hlater hk hl
    have hlk := hlater hl hk
    omega
  raised k e hk := by
    obtain ⟨call, -, hout⟩ := outcome_of_reply hk
    exact hout.of_raised

end

/-! ### An accepted attempt that is released -/

def sampleToken : OwnershipToken := ⟨"AAECAwQFBgcICQoLDA0ODxAREhMUFRYXGBkaGxwdHh8", by decide⟩

/-- SHA-256 of the token. -/
def sampleSha256 : Bytes → String :=
  tableDigest [(utf8 sampleToken.1, "ea866a757e4c38babfa8127cbe9a409d3e1f93a00ff1488ff735fcf917afffd0")]

theorem sampleSha256_injective : Function.Injective sampleSha256 :=
  tableDigest_injective (List.nodup_singleton _) (by decide)

def sampleGateId : String := "f3a1c5d7-2b84-4e69-9a0c-1d6e8f7b5a42"

/-- A producer that `_validate_producer` accepts. -/
def registeredProducer : AdmittedProducer :=
  { producerId := REGISTERED_UNSW_PRODUCER_ID, credentialId := "".pushn '7' 64
    allowedSourceContracts := [REGISTERED_UNSW_SOURCE_CONTRACT] }

def sampleLease : ProducerExecutionLease :=
  ⟨some REGISTERED_UNSW_PRODUCER_ID, some sampleGateId, some sampleToken.1⟩

def sampleCalls : List GateCall :=
  [.acquire (some registeredProducer) (.int 100) sampleToken, .enterContext (some sampleLease),
    .exitContext (some sampleLease), .release (some sampleLease)]

theorem gates_run_sample : GateRun sampleSha256 sampleGateId sampleCalls :=
  gates_run (fun _ _ h => Subtype.ext (utf8_inj.1 (sampleSha256_injective h))) sampleGateId sampleCalls

/-- The second release of the lease raises. -/
example : (List.range 4).map (gateReply sampleSha256 sampleGateId sampleCalls) =
    [some (.decided (.accepted sampleLease)), some .entered, some .released, some (.raised .leaseNotActive)] := by
  decide +kernel

end ThreatFusion.Gates
