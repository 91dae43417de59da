import Outreach.Proofs.Backend.Service

/-!
# Dispatches over Two Stores

A dispatch claims its campaign, resolves the audience, stores a record per recipient
and hands the messages over. Over stores that mirror each other both claims succeed
or fail alike, the audiences are the same customers in the same order, and the records
get the same identifiers and messages. What the rows do not keep of a campaign or a
customer, a dispatch does not look at.

## Main definitions

* `Dispatch.Marked`: What both stores answer when a campaign is to be started.

## Theorems

* `Dispatch.agree_claim`: Claiming a campaign.
* `Dispatch.agree_draft`: The records, with identifiers that are not in use.
* `Dispatch.agree_start`, `Campaigns.agree_launch`: The calls.
-/

namespace Outreach

open Outreach.Action

variable {w : World Memory} {v : World Database} {id : Uuid}

namespace Dispatch

/-! ## Claiming a campaign -/

/-- What both stores answer when a campaign is to be started: it is not pending and they
    are as they were, or it is sending in both. -/
inductive Marked (id : Uuid) (w : World Memory) (v : World Database) :
    Option Campaign → Option Campaign → Prop
  | refused (h : w.Untouched v) : Marked id w v none none
  | claimed {c row : Campaign} (h : w.Mirrors v)
      (hknown : id ∈ w.store.tables.campaigns.map Campaign.id) : Marked id w v (some c) (some row)

theorem agree_mark (h : w.Untouched v) (id : Uuid) :
    Agree (mark id) (mark id) w v (fun found found' w' v' => Marked id w' v' found found')
      fun _ => World.Untouched := by
  unfold mark
  have hmarked : Agree (Repository.markSending id) (Repository.markSending id) w v
      (fun found found' w' v' => Marked id w' v' found found')
      fun f w' v' => f = .entityNotFound .campaign id ∧ w'.Untouched v' := by
    have htime := h.mirrors.time
    rcases h.mirrors.store.markSending id v.time with
      ⟨hm, hd⟩ | ⟨hm, hd⟩ | ⟨m, d, c, row, hm, hd, -, hstore, hids, hknown⟩
    · exact agree_refusal htime hm hd ⟨rfl, h⟩
    · exact agree_change htime hm hd (.refused h)
    · exact agree_change htime hm hd (.claimed (h.mirrors.changed hstore hids) hknown)
  refine hmarked.bind_capture (fun f => by cases f <;> exact inferInstance)
    (fun found found' w₁ v₁ _ hfound => agree_pure hfound) fun f w₁ v₁ hf => ?_
  rcases hf with ⟨rfl, h₁⟩
  exact agree_throw h₁

/-- Both stores refuse a campaign in the same state. -/
theorem agree_refuse {α β : Type} (h : w.Untouched v) (id : Uuid)
    {ok : α → β → World Memory → World Database → Prop} :
    Agree (refuse id) (refuse id) w v ok fun _ => World.Untouched := by
  unfold refuse
  refine (Campaigns.agree_campaignById h.mirrors id).bind fun found found' w₁ v₁ _ hfound => ?_
  rcases hfound with ⟨rfl, rfl, hfound⟩
  cases hfound with
  | none => exact agree_throw h
  | some hsame =>
      rename_i c row
      have hstatus : row.status = c.status := (congrArg Campaign.status hsame.1 :)
      simp only [Option.map_some, hstatus]
      exact agree_throw h

theorem agree_claim (h : w.Mirrors v) (id : Uuid) :
    Agree (claim id) (claim id) w v
      (fun _ _ w' v' => w'.Mirrors v' ∧ id ∈ w'.store.tables.campaigns.map Campaign.id)
      fun _ => World.Mirrors := by
  refine agree_unitOfWork h fun v₁ h₁ => ?_
  refine (agree_mark h₁ id).bind_option fun found found' w₂ v₂ _ hmarked => ?_
  cases hmarked with
  | refused h₂ => exact agree_refuse h₂ id
  | claimed h₂ hknown => exact agree_pure ⟨h₂, hknown⟩

/-! ## The audience -/

/-- Both stores resolve the audience of a claimed campaign. -/
theorem agree_resolveOrRelease (h : w.Mirrors v) (id : Uuid) {p : Predicate} (hp : p.Portable)
    {bad : Fault → World Memory → World Database → Prop} :
    Agree (resolveOrRelease id p) (resolveOrRelease id p) w v
      (fun cs cs' w' v' => w'.Mirrors v' ∧ cs' = cs.map Customer.kept ∧ (∀ c ∈ cs, c.Storable) ∧
        w'.store = w.store) bad := by
  unfold resolveOrRelease
  have hresolved : Agree (tryResolve id p) (tryResolve id p) w v
      (fun r r' w' v' => ∃ cs, r = .ok cs ∧ r' = .ok (cs.map Customer.kept) ∧ w'.Mirrors v' ∧
        (∀ c ∈ cs, c.Storable) ∧ w'.store = w.store) bad := by
    unfold tryResolve
    have haudience : Agree (Audience.resolve p) (Audience.resolve p) w v _ fun _ _ _ => False :=
      Audience.agree_resolve h hp
    refine haudience.bind_capture (fun f => by cases f <;> exact inferInstance)
      (fun cs cs' w₁ v₁ _ hcs => ?_) fun _ _ _ => False.elim
    rcases hcs with ⟨h₁, rfl, hcs, hstore⟩
    exact agree_pure ⟨cs, rfl, rfl, h₁, hcs, hstore⟩
  refine hresolved.bind_of_grows (fun r => by cases r <;> exact inferInstance)
    fun r r' w₁ v₁ _ hr => ?_
  rcases hr with ⟨cs, rfl, rfl, h₁, hcs, hstore⟩
  exact agree_pure ⟨h₁, rfl, hcs, hstore⟩

/-! ## The records -/

/-- The record for a recipient, whose identifier was not drawn before. -/
theorem agree_draftOne (h : w.Mirrors v) (campaignId : Uuid) {template : Text}
    (htemplate : template.Whole) {c : Customer} (hc : c.Storable) :
    Agree (draftOne campaignId template c) (draftOne campaignId template c.kept) w v
      (fun r r' w' v' => r' = r ∧ w'.Mirrors v' ∧ w.Draws r.id w' ∧ r.Storable ∧
        r.campaignId = campaignId)
      fun _ => World.Mirrors := by
  unfold draftOne
  refine (agree_freshId h).bind fun id id' w₁ v₁ _ hid => ?_
  rcases hid with ⟨rfl, h₁, hdraws⟩
  refine (agree_now h₁ fun _ => h₁).bind fun now now' w₂ v₂ _ hnow => ?_
  rcases hnow with ⟨rfl, hahead, -, rfl, rfl⟩
  exact agree_pure ⟨rfl, h₁, hdraws,
    ⟨hc.wholeEmail, whole_render htemplate hc.wholeName, hahead⟩, rfl⟩

/-- The records of a batch, whose identifiers were not drawn before, each once. -/
theorem agree_draft (campaignId : Uuid) {template : Text} (htemplate : template.Whole) :
    ∀ {w : World Memory} {v : World Database}, w.Mirrors v → ∀ {cs : List Customer},
      (∀ c ∈ cs, c.Storable) →
        Agree (draft campaignId template cs) (draft campaignId template (cs.map Customer.kept)) w v
          (fun rs rs' w' v' => rs' = rs ∧ w'.Mirrors v' ∧ w'.store = w.store ∧
            (∀ r ∈ rs, r.Storable ∧ r.campaignId = campaignId ∧ ¬w.Drew r.id ∧ w'.Drew r.id) ∧
            (rs.map DeliveryRecord.id).Nodup ∧ ∀ x, w.Drew x → w'.Drew x)
          fun _ => World.Mirrors := by
  intro w v h cs hcs
  unfold draft
  induction cs generalizing w v with
  | nil => exact agree_pure ⟨rfl, h, rfl, nofun, List.nodup_nil, fun _ => id⟩
  | cons c cs ih =>
      rw [List.map_cons, List.mapM_cons, List.mapM_cons]
      have hc := hcs c List.mem_cons_self
      refine (agree_draftOne h campaignId htemplate hc).bind fun r r' w₁ v₁ _ hr => ?_
      rcases hr with ⟨rfl, h₁, hdraws, hstorable, hcampaign⟩
      have hrest := ih h₁ fun c hc => hcs c (List.mem_cons_of_mem _ hc)
      refine hrest.bind fun rs rs' w₂ v₂ _ hrs => ?_
      rcases hrs with ⟨rfl, h₂, hstore, hrs, hnodup, hkeeps⟩
      have hdrew := hkeeps r'.id hdraws.drew
      refine agree_pure ⟨rfl, h₂, hstore.trans hdraws.store, fun s hs => ?_, ?_,
        fun x hx => hkeeps x (hdraws.keeps x hx)⟩
      · rcases List.mem_cons.1 hs with rfl | hs
        · exact ⟨hstorable, hcampaign, hdraws.fresh, hdrew⟩
        · rcases hrs s hs with ⟨hs, hcampaign, hfresh, hdrew⟩
          exact ⟨hs, hcampaign, fun hw => hfresh (hdraws.keeps _ hw), hdrew⟩
      · -- The first identifier was drawn before the others.
        rw [List.map_cons, List.nodup_cons]
        refine ⟨fun hmem => ?_, hnodup⟩
        rcases List.mem_map.1 hmem with ⟨s, hs, hid⟩
        have hfresh := (hrs s hs).2.2.1
        rw [hid] at hfresh
        exact hfresh hdraws.drew

/-- Both stores take the records of a campaign that they know. -/
theorem agree_saveRecords (h : w.Mirrors v) {rs : List DeliveryRecord} (hrs : ∀ r ∈ rs, r.Storable)
    (hknown : ∀ r ∈ rs, r.campaignId ∈ w.store.tables.campaigns.map Campaign.id)
    (hnew : ((w.store.tables.records ++ rs).map DeliveryRecord.id).Nodup)
    (hdrew : ∀ r ∈ rs, w.Drew r.id) {bad : Fault → World Memory → World Database → Prop} :
    Agree (Repository.saveRecords rs) (Repository.saveRecords rs) w v
      (fun stored stored' w' v' => w'.Mirrors v' ∧ stored = rs ∧ stored' = rs ∧
        w'.store.tables.campaigns = w.store.tables.campaigns) bad := by
  rcases h.store.saveRecords hrs hknown hnew with ⟨hm, d, hd, hstore, hids⟩
  have hx : (Repository.saveRecords rs : Action Memory _) w =
      .ok rs { w with
        store := w.store.withTables fun t => { t with records := t.records ++ rs } } := by
    change EStateM.bind (Action.ofExcept (bind (w.store.saveRecords rs) _)) _ w = _
    rw [hm]
    rfl
  have hy : ∃ log, (Repository.saveRecords rs : Action Database _) v =
      .ok rs { v with store := d, log := log } := by
    refine ⟨⟨.info, .deliveryRows, "Bulk saved " ++ toString rs.length ++ " delivery records",
      v.fields⟩ :: v.log, ?_⟩
    change EStateM.bind (EStateM.bind
      (Action.ofExcept (bind (v.store.saveRecords rs) _)) _) _ v = _
    rw [hd]
    rfl
  rcases hy with ⟨log, hy⟩
  have hmirrors := h.withStores hstore fun x hx => by
    rcases List.mem_append.1 (hids hx) with hx | hx
    · rcases List.mem_map.1 hx with ⟨r, hr, rfl⟩
      exact hdrew r hr
    · exact h.ids x hx
  exact agree_of_ok hx hy ⟨{ hmirrors with }, rfl, rfl, rfl⟩

/-- What both stores take need not be put back. -/
theorem agree_storeOrRelease (h : w.Mirrors v) {rs : List DeliveryRecord}
    (hrs : ∀ r ∈ rs, r.Storable)
    (hknown : ∀ r ∈ rs, r.campaignId ∈ w.store.tables.campaigns.map Campaign.id)
    (hnew : ((w.store.tables.records ++ rs).map DeliveryRecord.id).Nodup)
    (hdrew : ∀ r ∈ rs, w.Drew r.id) {bad : Fault → World Memory → World Database → Prop} :
    Agree (storeOrRelease id rs) (storeOrRelease id rs) w v
      (fun stored stored' w' v' => stored = rs ∧ stored' = rs ∧ w'.Mirrors v' ∧
        w'.store.tables.campaigns = w.store.tables.campaigns) bad := by
  unfold storeOrRelease
  have hstored : Agree (tryStore id rs) (tryStore id rs) w v
      (fun r r' w' v' => r = .ok rs ∧ r' = .ok rs ∧ w'.Mirrors v' ∧
        w'.store.tables.campaigns = w.store.tables.campaigns) bad := by
    unfold tryStore
    have hsaved : Agree (unitOfWork (Repository.saveRecords rs))
        (unitOfWork (Repository.saveRecords rs)) w v _ fun _ _ _ => False :=
      agree_unitOfWork_total h fun v₁ h₁ => agree_saveRecords h₁.mirrors hrs hknown hnew hdrew
    refine hsaved.bind_capture (fun _ => inferInstance) (fun stored stored' w₁ v₁ _ h₁ => ?_)
      fun _ _ _ => False.elim
    rcases h₁ with ⟨h₁, rfl, rfl, hcampaigns⟩
    exact agree_pure ⟨rfl, rfl, h₁, hcampaigns⟩
  refine hstored.bind_of_grows (fun r => by cases r <;> exact inferInstance)
    fun r r' w₁ v₁ _ hr => ?_
  rcases hr with ⟨rfl, rfl, h₁, hcampaigns⟩
  exact agree_pure ⟨rfl, rfl, h₁, hcampaigns⟩

/-! ## The messages -/

/-- Both senders take a message, or none of them does. -/
theorem agree_send (h : w.Mirrors v) (r r' : DeliveryRecord) (c c' : Customer) :
    Agree (send r c) (send r' c') w v (fun _ _ w' v' => w'.Mirrors v' ∧ w'.store = w.store)
      fun _ => World.Mirrors := by
  simp only [Agree, send, ends_bind, ends_get, ends_ite, ends_set, ends_throw, h.bound]
  refine ⟨fun hbound _ => ⟨fun _ => ⟨{ h with bound := rfl }, trivial⟩, absurd hbound⟩,
    fun hbound _ => ⟨fun hbound' => absurd hbound' hbound, fun _ => ⟨trivial, h⟩⟩⟩

/-- Both senders take as many messages, or refuse the first one. -/
theorem agree_handOver {pairs pairs' : List (DeliveryRecord × Customer)}
    (hlength : pairs.length = pairs'.length) (h : w.Mirrors v) :
    Agree (handOver pairs) (handOver pairs') w v
      (fun _ _ w' v' => w'.Mirrors v' ∧ w'.store = w.store) fun _ => World.Mirrors := by
  induction pairs generalizing pairs' w v with
  | nil =>
      cases pairs' with
      | nil => exact agree_pure ⟨h, rfl⟩
      | cons pair' rest' => cases hlength
  | cons pair rest ih =>
      cases pairs' with
      | nil => cases hlength
      | cons pair' rest' =>
          rw [handOver, handOver]
          refine (agree_send h _ _ _ _).bind fun _ _ w₁ v₁ _ h₁ => ?_
          exact (ih (Nat.succ.inj hlength) h₁.1).mono_ok fun _ _ _ _ h₂ => ⟨h₂.1, h₂.2.trans h₁.2⟩

/-! ## The calls -/

/-- Both stores complete a campaign that they know, or none of them does. -/
theorem agree_completeIfExhausted (h : w.Mirrors v)
    (hknown : id ∈ w.store.tables.campaigns.map Campaign.id)
    {bad : Fault → World Memory → World Database → Prop} :
    Agree (unitOfWork (Repository.completeIfExhausted id))
      (unitOfWork (Repository.completeIfExhausted id)) w v
      (fun completed completed' w' v' => w'.Mirrors v' ∧ completed' = completed) bad := by
  refine agree_unitOfWork_total h fun v₁ h₁ => ?_
  rcases h₁.mirrors.store.completeIfExhausted hknown v₁.time with
    ⟨m, completed, hm, hd, hstore, hids⟩
  exact agree_change h₁.mirrors.time hm rfl ⟨h₁.mirrors.changed hstore hids, hd⟩

set_option synthInstance.maxSize 1000 in
theorem agree_start (h : w.Mirrors v) (id : Uuid) (rules : List Rule) {template : Text}
    (htemplate : template.Whole) {now : Option Timestamp} (hnow : ∀ t ∈ now, t.ahead = some 0) :
    Agree (start id rules template now) (start id rules template now) w v
      (fun rs rs' w' v' => rs' = rs ∧ w'.Mirrors v') fun _ => World.Mirrors := by
  unfold start
  refine (agree_compileAt h rules hnow fun _ => h).bind fun p p' w₁ v₁ _ hp => ?_
  rcases hp with ⟨rfl, hp, rfl, rfl⟩
  refine (agree_claim h id).bind fun c row w₂ v₂ _ hclaimed => ?_
  rcases hclaimed with ⟨h₂, hknown⟩
  refine (agree_resolveOrRelease h₂ id hp).bind fun cs cs' w₃ v₃ _ hcs => ?_
  rcases hcs with ⟨h₃, rfl, hcs, hstore₃⟩
  refine (agree_quiet h₃).bind fun _ _ w₄ v₄ _ hnoted => ?_
  rcases hnoted with ⟨h₄, hstore₄, -⟩
  refine (agree_draft id htemplate h₄ hcs).bind fun rs rs' w₅ v₅ _ hrs => ?_
  rcases hrs with ⟨rfl, h₅, hstore₅, hrs, hnodup, -⟩
  have hcampaigns : id ∈ w₅.store.tables.campaigns.map Campaign.id := by
    rwa [hstore₅, hstore₄, hstore₃]
  have hnew : ((w₅.store.tables.records ++ rs').map DeliveryRecord.id).Nodup := by
    rw [List.map_append]
    refine h₅.store.orderly.recordIds.append hnodup fun x hstored hdrafted => ?_
    rcases List.mem_map.1 hdrafted with ⟨r, hr, rfl⟩
    rw [hstore₅] at hstored
    exact (hrs r hr).2.2.1 (h₄.ids _ (Tables.mem_ids.2 (Or.inr (Or.inr (Or.inr hstored)))))
  refine (agree_storeOrRelease h₅ (fun r hr => (hrs r hr).1)
    (fun r hr => (hrs r hr).2.1 ▸ hcampaigns) hnew fun r hr => (hrs r hr).2.2.2).bind
    fun stored stored' w₆ v₆ _ hstored => ?_
  rcases hstored with ⟨rfl, rfl, h₆, hcampaigns₆⟩
  refine (agree_quiet h₆).bind fun _ _ w₇ v₇ _ hannounced => ?_
  rcases hannounced with ⟨h₇, hstore₇, -⟩
  have hlength : (stored'.zip cs).length = (stored'.zip (cs.map Customer.kept)).length := by
    rw [List.length_zip, List.length_zip, List.length_map]
  refine (agree_handOver hlength h₇).bind fun _ _ w₈ v₈ _ hsent => ?_
  rcases hsent with ⟨h₈, hstore₈⟩
  have hknown₈ : id ∈ w₈.store.tables.campaigns.map Campaign.id := by
    rwa [hstore₈, hstore₇, hcampaigns₆]
  refine (agree_completeIfExhausted h₈ hknown₈).bind fun completed completed' w₉ v₉ _ h₉ => ?_
  refine (agree_quiet h₉.1).bind fun _ _ w' v' _ hnoted => ?_
  exact agree_pure ⟨rfl, hnoted.1⟩

end Dispatch

/-- Both stores launch a campaign by the rules and with the message that last of it. -/
theorem Campaigns.agree_launch (h : w.Mirrors v) (id : Uuid) :
    Agree (launch id) (launch id) w v (fun rs rs' w' v' => rs' = rs ∧ w'.Mirrors v')
      fun _ => World.Mirrors := by
  unfold launch
  refine (agree_find h id).bind fun c row w₁ v₁ _ hfound => ?_
  rcases hfound with ⟨h₁, hlasting, hmessage⟩
  have hid : row.id = c.id := (congrArg Campaign.id hlasting :)
  have hrules : row.rules = c.rules := (congrArg Campaign.rules hlasting :)
  have hsame : row.message = c.message := (congrArg Campaign.message hlasting :)
  rw [hid, hrules, hsame]
  let fields : Log.Fields := [("campaign_id", .json c.id.text)]
  have hbegun : World.Mirrors { w₁ with fields := w₁.fields.merge fields }
      { v₁ with fields := v₁.fields.merge fields } := { h₁ with }
  have hnow : ∀ t ∈ (none : Option Timestamp), t.ahead = some 0 := nofun
  exact agree_within (Dispatch.agree_start hbegun c.id c.rules hmessage hnow)
    (fun _ _ _ _ hdone => ⟨hdone.1, { hdone.2 with }⟩) fun _ _ _ hfailed => { hfailed with }

end Outreach
