import ThreatFusion.LiveConsole.Ingest
import Mathlib.Data.List.Nodup
/-
# Which schedules of posts are idempotent and complete

At most one row per event, kept as it was written, and the answer to a post that begins when its event is
stored, hold on every schedule (`Inv`, `inv_at`). Two things go wrong on some:

* a post that looks its event up while another stands, or has stopped, between its two inserts is told a
  flow whose campaign is missing;
* a post whose event was stored after its own lookup raises.

`ingest_iff`: these are the only two.
-/
namespace ThreatFusion.LiveConsole
open Inference Py Concurrency Concurrency.Program Machine

def Stored (db : LiveDb) (eventId : String) : Prop := ∃ row ∈ db.liveFlows, row.sourceEventId = some eventId

def Campaigned (db : LiveDb) (eventId : String) : Prop :=
  ∃ c ∈ db.liveCampaigns, c.campaignId = campaignIdOf eventId

/-- Some post of the event stands, or has stopped, between its two inserts. -/
def HalfStored (db : LiveDb) (eventId : String) : Prop := Stored db eventId ∧ ¬ Campaigned db eventId

/-- A lookup does not fall between the two inserts of another post of the event, and no post of the event
inserted its flow since the lookup of the post that inserts one now. -/
def CallOrderly (db : LiveDb) : IngestCall → Prop
  | .lookup eventId => ¬ HalfStored db eventId
  | .insertFlow flow => ∀ eventId, flow.sourceEventId = some eventId → ¬ Stored db eventId
  | .insertCampaign _ => True

/-- The move, if its transaction does not fail, is orderly. -/
def Orderly (pool : IngestPool) (move : ℕ × IngestEnv) : Prop :=
  move.2.fault = false → ∀ post c next, pool.clients[move.1]? = some (post, .call c next) → CallOrderly pool.state c

/-! ## Tables that only grow -/

structure Grows (db db' : LiveDb) : Prop where
  flows : db.liveFlows <+: db'.liveFlows
  campaigns : db.liveCampaigns <+: db'.liveCampaigns

namespace Grows

theorem refl (db : LiveDb) : Grows db db := ⟨List.prefix_refl _, List.prefix_refl _⟩

theorem trans {db db' db'' : LiveDb} (h : Grows db db') (h' : Grows db' db'') : Grows db db'' :=
  ⟨h.flows.trans h'.flows, h.campaigns.trans h'.campaigns⟩

theorem addFlow (db : LiveDb) (flow : NewFlow) : Grows db (db.addFlow flow) :=
  ⟨List.prefix_append _ _, List.prefix_refl _⟩

theorem addCampaign (db : LiveDb) (campaign : CampaignRow) : Grows db (db.addCampaign campaign) :=
  ⟨List.prefix_refl _, List.prefix_append _ _⟩

variable {db db' : LiveDb} {eventId : String}

theorem stored (h : Grows db db') : Stored db eventId → Stored db' eventId
  | ⟨row, hrow, he⟩ => ⟨row, h.flows.subset hrow, he⟩

theorem campaigned (h : Grows db db') : Campaigned db eventId → Campaigned db' eventId
  | ⟨c, hc, he⟩ => ⟨c, h.campaigns.subset hc, he⟩

end Grows

theorem find_isSome {db : LiveDb} {eventId : String} : (db.find eventId).isSome = true ↔ Stored db eventId := by
  simp only [LiveDb.find, List.find?_isSome, beq_iff_eq, Stored]

theorem find_eq_none {db : LiveDb} {eventId : String} : db.find eventId = none ↔ ¬ Stored db eventId := by
  rw [← find_isSome, Option.not_isSome_iff_eq_none]

theorem find_spec {db : LiveDb} {eventId : String} {row : FlowRow} (h : db.find eventId = some row) :
    row ∈ db.liveFlows ∧ row.sourceEventId = some eventId := by
  refine ⟨List.mem_of_find?_eq_some h, ?_⟩
  have hp := List.find?_some (p := fun row : FlowRow => row.sourceEventId == some eventId) h
  exact beq_iff_eq.1 hp

/-- The body tells the row of the post's event. -/
def Told (db : LiveDb) (post : SensorPost) (body : SensorBody) : Prop :=
  ∃ row ∈ db.liveFlows, row.sourceEventId = some post.sourceEventId ∧ row.flowId = body.flowId ∧
    row.decision = body.decision ∧ row.rfAttackProbability = body.rfAttackProbability

theorem Told.grows {db db' : LiveDb} (h : Grows db db') {post : SensorPost} {body : SensorBody} :
    Told db post body → Told db' post body
  | ⟨row, hrow, hfacts⟩ => ⟨row, h.flows.subset hrow, hfacts⟩

theorem Told.stored {db : LiveDb} {post : SensorPost} {body : SensorBody} :
    Told db post body → Stored db post.sourceEventId
  | ⟨row, hrow, he, _⟩ => ⟨row, hrow, he⟩

/-! ## The invariant of every schedule -/

section
variable {parseFloat : String → Option PyFloat}

structure Client (parseFloat : String → Option PyFloat) (db : LiveDb) (post : SensorPost) (p : PostProgram) : Prop where
  stage : Stage parseFloat post p
  pending : ∀ body, p = post.storeCampaign body → Told db post body ∧ ¬ Campaigned db post.sourceEventId
  answered : ∀ body, p = .done (.ok (.body body)) → Told db post body

/-- A post that is neither between its inserts nor answered. -/
theorem Client.of_stage {db : LiveDb} {post : SensorPost} {p : PostProgram} (hstage : Stage parseFloat post p)
    (hpending : ∀ body, p ≠ post.storeCampaign body) (hanswered : ∀ body, p ≠ .done (.ok (.body body))) :
    Client parseFloat db post p :=
  ⟨hstage, fun body h => absurd h (hpending body), fun body h => absurd h (hanswered body)⟩

theorem Client.failed {db : LiveDb} {post : SensorPost} (e : IngestError) :
    Client parseFloat db post (.done (.error e)) :=
  .of_stage (.ended _) (fun _ h => by cases h) (fun _ h => by cases h)

theorem Client.fresh {db : LiveDb} {post : SensorPost} :
    Client parseFloat db post (post.recordSuricataBridgeFlow parseFloat) :=
  .of_stage .fresh (fun _ h => by cases h) (fun _ h => by cases h)

/-- After a fruitless lookup a post is refused, or raises, or goes on to store its flow. -/
theorem scoreAndStore_cases (parseFloat : String → Option PyFloat) (post : SensorPost) :
    (∃ reason, post.scoreAndStore parseFloat = .done (.ok (.refused reason))) ∨
    post.scoreAndStore parseFloat = .done (.error .overflowError) ∨
    ∃ score observed, post.scoreAndStore parseFloat = post.persistScoredFlow score observed := by
  unfold SensorPost.scoreAndStore
  split
  · exact .inr (.inl rfl)
  split
  · exact .inl ⟨_, rfl⟩
  cases post.observed with
  | none => exact .inl ⟨_, rfl⟩
  | some observed => exact .inr (.inr ⟨_, observed, rfl⟩)

theorem Client.afterMiss {db : LiveDb} {post : SensorPost} :
    Client parseFloat db post (post.scoreAndStore parseFloat) := by
  rcases scoreAndStore_cases parseFloat post with ⟨reason, h⟩ | h | ⟨score, observed, h⟩ <;> rw [h]
  · exact .of_stage (.ended _) (fun _ h => by cases h) (fun _ h => by cases h)
  · exact .failed _
  · exact .of_stage (.scored _ _) (fun _ h => by cases h) (fun _ h => by cases h)

theorem storeCampaign_inj {post : SensorPost} {b b' : SensorBody} (h : post.storeCampaign b = post.storeCampaign b') :
    b = b' := by
  have hnext := eq_of_heq (Program.call.inj h).2
  have hdone := congrFun hnext ()
  cases hdone
  rfl

structure Inv (parseFloat : String → Option PyFloat) (pool : IngestPool) : Prop where
  once : (pool.state.liveFlows.map fun row => row.sourceEventId).Nodup
  backed : ∀ {eventId : String}, Campaigned pool.state eventId → Stored pool.state eventId
  client : ∀ {i : ℕ} {post : SensorPost} {p : PostProgram}, pool.clients[i]? = some (post, p) →
    Client parseFloat pool.state post p
  alone : ∀ {i j : ℕ} {post post' : SensorPost} {body body' : SensorBody},
    pool.clients[i]? = some (post, post.storeCampaign body) →
    pool.clients[j]? = some (post', post'.storeCampaign body') → post.sourceEventId = post'.sourceEventId → i = j

theorem ingest_call {pool : IngestPool} (hinv : Inv parseFloat pool) {move : ℕ × IngestEnv} {post : SensorPost}
    {c : IngestCall} {next : c.Reply → PostProgram} (hi : pool.clients[move.1]? = some (post, .call c next)) :
    ∃ db' p', Transaction parseFloat post move.2.fault pool.state (.call c next) db' p' ∧
      (poolStep handle pool move).2 = { state := db', clients := pool.clients.set move.1 (post, p') } := by
  refine ⟨_, _, transaction_of_stage (hinv.client hi).stage, ?_⟩
  rw [poolStep, hi]
  rfl

/-- **What a move does**: nothing, or one transaction of one post. -/
theorem ingest_step {pool : IngestPool} (hinv : Inv parseFloat pool) (move : ℕ × IngestEnv) :
    (poolStep handle pool move).2 = pool ∨
    ∃ post c next db' p', pool.clients[move.1]? = some (post, .call c next) ∧
      Transaction parseFloat post move.2.fault pool.state (.call c next) db' p' ∧
      (poolStep handle pool move).2 = { state := db', clients := pool.clients.set move.1 (post, p') } := by
  rcases poolStep_cases handle pool move.1 move.2 with h | ⟨post, c, next, hi, -⟩
  · exact .inl h
  · obtain ⟨db', p', ht, h⟩ := ingest_call hinv hi
    exact .inr ⟨post, c, next, db', p', hi, ht, h⟩

theorem Transaction.grows {post : SensorPost} {fault : Bool} {db db' : LiveDb} {p p' : PostProgram}
    (h : Transaction parseFloat post fault db p db' p') : Grows db db' := by
  cases h with
  | inserted => exact .addFlow _ _
  | completed => exact .addCampaign _ _
  | _ => exact .refl _

theorem Transaction.once {post : SensorPost} {fault : Bool} {db db' : LiveDb} {p p' : PostProgram}
    (h : Transaction parseFloat post fault db p db' p')
    (honce : (db.liveFlows.map fun row => row.sourceEventId).Nodup) :
    (db'.liveFlows.map fun row => row.sourceEventId).Nodup := by
  cases h with
  | inserted score observed hfault hrow =>
    have hnew : some post.sourceEventId ∉ db.liveFlows.map fun row => row.sourceEventId := by
      rw [List.mem_map]
      exact find_eq_none.1 hrow
    simp only [LiveDb.addFlow, List.map_append, List.map_cons, List.map_nil]
    exact List.nodup_append_comm.1 (List.nodup_cons.2 ⟨hnew, honce⟩)
  | _ => exact honce

/-- The post that moved. -/
theorem Transaction.client {post : SensorPost} {fault : Bool} {db db' : LiveDb} {p p' : PostProgram}
    (h : Transaction parseFloat post fault db p db' p') (hclient : Client parseFloat db post p)
    (hcampaign : Campaigned db post.sourceEventId → Stored db post.sourceEventId) :
    Client parseFloat db' post p' := by
  cases h with
  | failed => exact .failed _
  | found row hfault hrow =>
    refine ⟨.ended _, (fun _ h => by cases h), fun body h => ?_⟩
    cases h
    obtain ⟨hmem, he⟩ := find_spec hrow
    exact ⟨row, hmem, he, rfl, rfl, rfl⟩
  | missed => exact .afterMiss
  | overtaken => exact .failed _
  | inserted score observed hfault hrow =>
    refine ⟨.stored _, fun body h => ?_, (fun _ h => by cases h)⟩
    rw [← storeCampaign_inj h]
    refine ⟨⟨⟨post.newFlow score observed, db.lastFlowId + 1⟩, ?_, rfl, rfl, rfl, rfl⟩, ?_⟩
    · exact List.mem_append_right _ List.mem_cons_self
    · exact fun hc => find_eq_none.1 hrow (hcampaign hc)
  | clashed => exact .failed _
  | completed body hfault hc =>
    refine ⟨.ended _, (fun _ h => by cases h), fun body' h => ?_⟩
    cases h
    exact (hclient.pending body rfl).1

theorem Transaction.backed {post : SensorPost} {fault : Bool} {db db' : LiveDb} {p p' : PostProgram}
    (h : Transaction parseFloat post fault db p db' p') (hclient : Client parseFloat db post p)
    (hbacked : ∀ {e}, Campaigned db e → Stored db e) {eventId : String} (hc : Campaigned db' eventId) :
    Stored db' eventId := by
  cases h with
  | inserted score observed hfault hrow => exact (Grows.addFlow db _).stored (hbacked hc)
  | completed body hfault hnone =>
    obtain ⟨c, hmem, he⟩ := hc
    rcases List.mem_append.1 hmem with hold | hnew
    · exact hbacked ⟨c, hold, he⟩
    · obtain rfl := List.mem_singleton.1 hnew
      rw [← campaignIdOf_inj he]
      exact (hclient.pending body rfl).1.stored
  | _ => exact hbacked hc

/-- A post that did not move. -/
theorem Client.frame {post post' : SensorPost} {fault : Bool} {db db' : LiveDb} {p p' q : PostProgram}
    (h : Transaction parseFloat post fault db p db' p') (hclient : Client parseFloat db post' q)
    (halone : ∀ body body', p = post.storeCampaign body → q = post'.storeCampaign body' →
      post.sourceEventId ≠ post'.sourceEventId) : Client parseFloat db' post' q := by
  refine ⟨hclient.stage, fun body hq => ?_, fun body hq => (hclient.answered body hq).grows h.grows⟩
  obtain ⟨htold, hnone⟩ := hclient.pending body hq
  refine ⟨htold.grows h.grows, ?_⟩
  cases h with
  | completed body' hfault hc =>
    rintro ⟨c, hmem, he⟩
    rcases List.mem_append.1 hmem with hold | hnew
    · exact hnone ⟨c, hold, he⟩
    · obtain rfl := List.mem_singleton.1 hnew
      exact halone body' body rfl hq (campaignIdOf_inj he)
  | _ => exact hnone

/-- A post gets between its inserts only by storing its flow. -/
theorem Transaction.stored_now {post : SensorPost} {fault : Bool} {db db' : LiveDb} {p p' : PostProgram}
    (h : Transaction parseFloat post fault db p db' p') {body : SensorBody} (hp' : p' = post.storeCampaign body) :
    ¬ Stored db post.sourceEventId := by
  cases h with
  | inserted score observed hfault hrow => exact find_eq_none.1 hrow
  | missed =>
    have hclient : Client parseFloat db post (post.scoreAndStore parseFloat) := .afterMiss
    exact absurd (hclient.pending body hp').1.stored (find_eq_none.1 (by assumption))
  | _ => cases hp'

theorem inv_step {pool : IngestPool} (hinv : Inv parseFloat pool) (move : ℕ × IngestEnv) :
    Inv parseFloat (poolStep handle pool move).2 := by
  rcases ingest_step hinv move with h | ⟨post, c, next, db', p', hi, ht, h⟩
  · rwa [h]
  rw [h]
  have hpost := hinv.client hi
  refine ⟨ht.once hinv.once, ht.backed hpost hinv.backed, fun hj => ?_, fun hj hk he => ?_⟩
  · rcases getElem?_set_cases hj with ⟨-, heq⟩ | ⟨hne, hj'⟩
    · obtain ⟨rfl, rfl⟩ := Prod.mk.inj heq
      exact ht.client hpost hinv.backed
    · refine (hinv.client hj').frame ht fun body body' hp hq he => hne ?_
      exact (hinv.alone (hp ▸ hi) (hq ▸ hj') he).symm
  · rcases getElem?_set_cases hj with ⟨rfl, heqj⟩ | ⟨hnej, hj'⟩
    · obtain ⟨rfl, hpj⟩ := Prod.mk.inj heqj
      rcases getElem?_set_cases hk with ⟨rfl, -⟩ | ⟨hnek, hk'⟩
      · rfl
      · -- the other one has stored the event already
        have hother := ((hinv.client hk').pending _ rfl).1.stored
        exact absurd (he ▸ hother) (ht.stored_now hpj.symm)
    · rcases getElem?_set_cases hk with ⟨rfl, heqk⟩ | ⟨hnek, hk'⟩
      · obtain ⟨rfl, hpk⟩ := Prod.mk.inj heqk
        have hother := ((hinv.client hj').pending _ rfl).1.stored
        exact absurd (he ▸ hother) (ht.stored_now hpk.symm)
      · exact hinv.alone hj' hk' he

theorem client_of_start {posts : List SensorPost} {i : ℕ} {post : SensorPost} {p : PostProgram}
    (h : (ingestPool parseFloat posts).clients[i]? = some (post, p)) : p = post.recordSuricataBridgeFlow parseFloat := by
  simp only [ingestPool, List.getElem?_map, Option.map_eq_some_iff] at h
  obtain ⟨post', -, heq⟩ := h
  obtain ⟨rfl, rfl⟩ := Prod.mk.inj heq
  rfl

theorem inv_at (posts : List SensorPost) (moves : List (ℕ × IngestEnv)) (k : ℕ) :
    Inv parseFloat (ingestAt parseFloat posts moves k) := by
  refine stateAt_inv (I := Inv parseFloat) (fun pool move h => inv_step h move) ?_ k
  refine ⟨List.nodup_nil, ?_, fun hi => ?_, fun hi _ _ => ?_⟩
  · rintro e ⟨c, hc, -⟩
    exact absurd hc List.not_mem_nil
  · obtain rfl := client_of_start hi
    exact .fresh
  · cases client_of_start hi

theorem grows_at (posts : List SensorPost) (moves : List (ℕ × IngestEnv)) {j k : ℕ} (hjk : j ≤ k) :
    Grows (ingestAt parseFloat posts moves j).state (ingestAt parseFloat posts moves k).state := by
  have hstart : Inv parseFloat (ingestPool parseFloat posts) := inv_at posts moves 0
  refine stateAt_rel (I := Inv parseFloat) (R := fun a b : IngestPool => Grows a.state b.state)
    (fun pool move h => inv_step h move) hstart (fun _ => .refl _) (fun _ _ _ => Grows.trans) ?_ hjk
  intro pool move hinv
  rcases ingest_step hinv move with h | ⟨post, c, next, db', p', hi, ht, h⟩
  · rw [h]
    exact .refl _
  · rw [h]
    exact ht.grows

/-! ## What an orderly schedule adds -/

structure Complete (pool : IngestPool) : Prop where
  campaigned : ∀ {i : ℕ} {post : SensorPost} {body : SensorBody},
    pool.clients[i]? = some (post, .done (.ok (.body body))) → Campaigned pool.state post.sourceEventId
  unraised : ∀ {i : ℕ} {post : SensorPost}, pool.clients[i]? ≠ some (post, .done (.error .integrityError))

/-- The post that moved in order. -/
theorem Transaction.complete {post : SensorPost} {fault : Bool} {db db' : LiveDb} {c : IngestCall}
    {next : c.Reply → PostProgram} {p' : PostProgram}
    (h : Transaction parseFloat post fault db (.call c next) db' p') (hclient : Client parseFloat db post (.call c next))
    (horderly : fault = false → CallOrderly db c) :
    (∀ body, p' = .done (.ok (.body body)) → Campaigned db' post.sourceEventId) ∧
    p' ≠ .done (.error .integrityError) := by
  cases h with
  | failed => exact ⟨fun _ h => (by cases h), fun h => by cases h⟩
  | found row hfault hrow =>
    refine ⟨fun _ _ => ?_, fun h => by cases h⟩
    by_contra hnone
    exact horderly hfault ⟨find_isSome.1 (by rw [hrow]; rfl), hnone⟩
  | missed =>
    rcases scoreAndStore_cases parseFloat post with ⟨reason, h⟩ | h | ⟨score, observed, h⟩ <;> rw [h]
    · exact ⟨fun _ h => (by cases h), fun h => by cases h⟩
    · exact ⟨fun _ h => (by cases h), fun h => by cases h⟩
    · exact ⟨fun _ h => (by cases h), fun h => by cases h⟩
  | overtaken score observed hfault hrow => exact absurd (find_isSome.1 hrow) (horderly hfault _ rfl)
  | inserted => exact ⟨fun _ h => (by cases h), fun h => by cases h⟩
  | clashed body hfault hcampaign => exact absurd hcampaign (hclient.pending body rfl).2
  | completed body hfault hnone =>
    refine ⟨fun _ _ => ?_, fun h => by cases h⟩
    exact ⟨post.campaign, List.mem_append_right _ List.mem_cons_self, rfl⟩

theorem complete_step {pool : IngestPool} (hinv : Inv parseFloat pool) (hcomplete : Complete pool)
    {move : ℕ × IngestEnv} (horderly : Orderly pool move) : Complete (poolStep handle pool move).2 := by
  rcases ingest_step hinv move with h | ⟨post, c, next, db', p', hi, ht, h⟩
  · rwa [h]
  rw [h]
  obtain ⟨hcampaigned, hraised⟩ := ht.complete (hinv.client hi) fun hfault => horderly hfault post c next hi
  refine ⟨fun hj => ?_, fun hj => ?_⟩
  · rcases getElem?_set_cases hj with ⟨-, heq⟩ | ⟨-, hj'⟩
    · obtain ⟨rfl, hp⟩ := Prod.mk.inj heq
      exact hcampaigned _ hp.symm
    · exact ht.grows.campaigned (hcomplete.campaigned hj')
  · rcases getElem?_set_cases hj with ⟨-, heq⟩ | ⟨-, hj'⟩
    · exact hraised (Prod.mk.inj heq).2.symm
    · exact hcomplete.unraised hj'

/-! ## A post of a stored event -/

/-- Client `i` has yet to begin, or its lookup failed, or it was told the stored row. -/
structure Repeats (parseFloat : String → Option PyFloat) (i : ℕ) (post : SensorPost) (row : FlowRow)
    (pool : IngestPool) : Prop where
  stored : row ∈ pool.state.liveFlows
  event : row.sourceEventId = some post.sourceEventId
  told : ∃ p : PostProgram, pool.clients[i]? = some (post, p) ∧ (p = post.recordSuricataBridgeFlow parseFloat ∨
    p = .done (.error .operationalError) ∨ p = .done (.ok (.body (post.duplicateBody row))))

theorem Inv.find_eq {pool : IngestPool} (hinv : Inv parseFloat pool) {row row' : FlowRow} {eventId : String}
    (hrow : row ∈ pool.state.liveFlows) (he : row.sourceEventId = some eventId)
    (hfind : pool.state.find eventId = some row') : row' = row := by
  obtain ⟨hmem, he'⟩ := find_spec hfind
  exact List.inj_on_of_nodup_map hinv.once hmem hrow (he'.trans he.symm)

theorem repeats_step {i : ℕ} {post : SensorPost} {row : FlowRow} {pool : IngestPool} (hinv : Inv parseFloat pool)
    (hr : Repeats parseFloat i post row pool) (move : ℕ × IngestEnv) :
    Repeats parseFloat i post row (poolStep handle pool move).2 := by
  rcases ingest_step hinv move with h | ⟨post', c, next, db', p', hj, ht, h⟩
  · rwa [h]
  rw [h]
  obtain ⟨p, hi, hp⟩ := hr.told
  refine ⟨ht.grows.flows.subset hr.stored, hr.event, ?_⟩
  by_cases hmove : move.1 = i
  · rw [hmove, hi, Option.some.injEq, Prod.mk.injEq] at hj
    obtain ⟨rfl, hcall⟩ := hj
    obtain ⟨hlt, -⟩ := List.getElem?_eq_some_iff.1 hi
    refine ⟨p', by rw [hmove]; exact List.getElem?_set_self hlt, ?_⟩
    rcases hp with rfl | rfl | rfl
    · rw [← hcall] at ht
      cases ht with
      | failed => exact .inr (.inl rfl)
      | found row' hfault hrow => exact .inr (.inr (by rw [hinv.find_eq hr.stored hr.event hrow]; rfl))
      | missed hfault hrow => exact absurd ⟨row, hr.stored, hr.event⟩ (find_eq_none.1 hrow)
    · cases hcall
    · cases hcall
  · exact ⟨p, by rw [List.getElem?_set_ne hmove]; exact hi, hp⟩

/-! ## The result -/

/-- The ingest is idempotent and complete on a schedule. -/
structure IngestHolds (parseFloat : String → Option PyFloat) (posts : List SensorPost)
    (moves : List (ℕ × IngestEnv)) : Prop where
  /-- at most one row per event -/
  once : ∀ k eventId, (ingestAt parseFloat posts moves k).state.liveFlows.countP
    (fun row => row.sourceEventId == some eventId) ≤ 1
  /-- rows stay as they were written -/
  kept : ∀ j k, j ≤ k →
    (ingestAt parseFloat posts moves j).state.liveFlows <+: (ingestAt parseFloat posts moves k).state.liveFlows
  /-- a post that begins when its event is stored is told the stored row, unless its own lookup fails -/
  repeated : ∀ (j k i : ℕ) (post : SensorPost) (row : FlowRow), j ≤ k →
    (ingestAt parseFloat posts moves j).clients[i]? = some (post, post.recordSuricataBridgeFlow parseFloat) →
    row ∈ (ingestAt parseFloat posts moves j).state.liveFlows → row.sourceEventId = some post.sourceEventId →
    Repeats parseFloat i post row (ingestAt parseFloat posts moves k)
  /-- no post raises because its event is stored -/
  unraised : ∀ (k i : ℕ) (post : SensorPost),
    (ingestAt parseFloat posts moves k).clients[i]? ≠ some (post, .done (.error .integrityError))
  /-- a post that was answered with a flow has its flow and its campaign -/
  complete : ∀ (k i : ℕ) (post : SensorPost) (body : SensorBody),
    (ingestAt parseFloat posts moves k).clients[i]? = some (post, .done (.ok (.body body))) →
    Told (ingestAt parseFloat posts moves k).state post body ∧
    Campaigned (ingestAt parseFloat posts moves k).state post.sourceEventId

theorem complete_of_orderly {posts : List SensorPost} {moves : List (ℕ × IngestEnv)}
    (horderly : ∀ k move, moves[k]? = some move → Orderly (ingestAt parseFloat posts moves k) move) (k : ℕ) :
    Complete (ingestAt parseFloat posts moves k) := by
  have hstart : Inv parseFloat (ingestPool parseFloat posts) ∧ Complete (ingestPool parseFloat posts) :=
    ⟨inv_at posts moves 0, ⟨fun hi => (by cases client_of_start hi), fun hi => by cases client_of_start hi⟩⟩
  refine (stateAt_inv_of (I := fun pool => Inv parseFloat pool ∧ Complete pool) (A := Orderly) ?_ hstart horderly k).2
  exact fun pool move h ho => ⟨inv_step h.1 move, complete_step h.1 h.2 ho⟩

/-- A move out of order shows at once. -/
theorem orderly_of_complete {posts : List SensorPost} {moves : List (ℕ × IngestEnv)} {k : ℕ}
    (hcomplete : Complete (ingestAt parseFloat posts moves (k + 1))) {move : ℕ × IngestEnv}
    (hmove : moves[k]? = some move) : Orderly (ingestAt parseFloat posts moves k) move := by
  intro hfault post c next hi
  have hinv : Inv parseFloat (ingestAt parseFloat posts moves k) := inv_at posts moves k
  have hsucc : ingestAt parseFloat posts moves (k + 1) = (poolStep handle (ingestAt parseFloat posts moves k) move).2 :=
    stateAt_succ _ hmove
  obtain ⟨hlt, -⟩ := List.getElem?_eq_some_iff.1 hi
  obtain ⟨db', p', ht, h⟩ := ingest_call hinv hi
  rw [hsucc, h] at hcomplete
  have hnow : (((ingestAt parseFloat posts moves k).clients.set move.1 (post, p'))[move.1]? = some (post, p')) :=
    List.getElem?_set_self hlt
  cases ht with
  | failed p hf => rw [hf] at hfault; cases hfault
  | found row _ hrow => exact fun hhalf => hhalf.2 (hcomplete.campaigned hnow)
  | missed _ hrow => exact fun hhalf => find_eq_none.1 hrow hhalf.1
  | overtaken score observed _ hrow => exact absurd hnow hcomplete.unraised
  | inserted score observed _ hrow =>
    intro eventId he
    rw [← Option.some.inj he]
    exact find_eq_none.1 hrow
  | clashed => exact trivial
  | completed => exact trivial

theorem ingest_iff (parseFloat : String → Option PyFloat) (posts : List SensorPost) (moves : List (ℕ × IngestEnv)) :
    IngestHolds parseFloat posts moves ↔
      ∀ k move, moves[k]? = some move → Orderly (ingestAt parseFloat posts moves k) move := by
  constructor
  · intro h k move hmove
    refine orderly_of_complete ⟨fun hi => ?_, fun {i post} => h.unraised (k + 1) i post⟩ hmove
    exact (h.complete (k + 1) _ _ _ hi).2
  · intro horderly
    have hinv (k : ℕ) : Inv parseFloat (ingestAt parseFloat posts moves k) := inv_at posts moves k
    have hcomplete := complete_of_orderly horderly
    refine ⟨fun k eventId => ?_, fun j k hjk => (grows_at posts moves hjk).flows, ?_,
      fun k _ _ => (hcomplete k).unraised, fun k i post body hi => ?_⟩
    · have hcount := List.nodup_iff_count_le_one.1 (hinv k).once (some eventId)
      rwa [List.count_eq_countP, List.countP_map] at hcount
    · intro j k i post row hjk hi hrow he
      refine stateAt_stable (I := Inv parseFloat) (P := Repeats parseFloat i post row)
        (fun pool move h => inv_step h move) (inv_at posts moves 0) (fun pool move h hr => repeats_step h hr move) hjk ?_
      exact ⟨hrow, he, _, hi, .inl rfl⟩
    · exact ⟨((hinv k).client hi).answered body rfl, (hcomplete k).campaigned hi⟩

end

/-! ## A retry after a failed campaign insert -/

/-- The first post fails at its campaign, the second is the retry. -/
def failedThenRetried : List (ℕ × IngestEnv) := [(0, ⟨false⟩), (0, ⟨false⟩), (0, ⟨true⟩), (1, ⟨false⟩)]

/-- Whatever the post: the retry is answered with the flow, and there is no campaign. -/
theorem ingestAt_retried {parseFloat : String → Option PyFloat} {post : SensorPost} {score : FlowScore}
    {observed : String} (h : post.scoreAndStore parseFloat = post.persistScoredFlow score observed) :
    ingestAt parseFloat [post, post] failedThenRetried 4 =
      { state := LiveDb.empty.addFlow (post.newFlow score observed)
        clients := [(post, .throw .operationalError),
          (post, .ret (.body (post.duplicateBody ⟨post.newFlow score observed, 1⟩)))] } := by
  simp [ingestAt, stateAt, exec, ingestPool, failedThenRetried, poolStep, stepProgram, handle, answer, resume,
    SensorPost.recordSuricataBridgeFlow, SensorPost.afterLookup, h, SensorPost.persistScoredFlow,
    SensorPost.storeCampaign, LiveDb.find, LiveDb.refuses, LiveDb.empty, LiveDb.addFlow, SensorPost.newFlow]

def quietFeatures : Features := CANONICAL_14_FEATURES.map fun name => (name, .int 0)

def quietPost : SensorPost where
  features := quietFeatures
  sourceEventId := "suricata_flow_v1:0f1e2d3c4b5a69788796a5b4c3d2e1f00f1e2d3c4b5a69788796a5b4c3d2e1f0"
  event_id_valid := by decide +kernel
  node := SENSOR_BRIDGE_SOURCE
  observed := some "2026-03-01T10:00:00+00:00"
  observationJson := fun _ => "\x7b\x7d"
  supplyVerified := true
  model := .ok (spotter [])

theorem quietPost_scored : quietPost.scoreAndStore (fun _ => none) =
    quietPost.persistScoredFlow (scored 0) "2026-03-01T10:00:00+00:00" := by
  have hscore : scoreCanonicalFlow (fun _ => none) quietPost.features true (.ok (spotter [])) = some (scored 0) := by
    decide +kernel
  have hmodel : quietPost.model = .ok (spotter []) := rfl
  have hsupply : quietPost.supplyVerified = true := rfl
  have hobserved : quietPost.observed = some "2026-03-01T10:00:00+00:00" := rfl
  simp only [SensorPost.scoreAndStore, hmodel, hsupply, hscore, hobserved, scored, ne_eq, not_true_eq_false, if_false]

theorem retry_leaves_campaign_missing :
    ¬ IngestHolds (fun _ => none) [quietPost, quietPost] failedThenRetried := by
  intro h
  have hpool := ingestAt_retried quietPost_scored
  obtain ⟨c, hc, -⟩ := (h.complete 4 1 quietPost _ (by rw [hpool]; rfl)).2
  rw [hpool] at hc
  exact absurd hc List.not_mem_nil

end ThreatFusion.LiveConsole
