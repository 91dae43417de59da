import Outreach.Proofs.Api.Status
import Outreach.Proofs.Service.Receipts
import Outreach.Proofs.Text.Identifier

/-!
# Two Ways of a Receipt

A vendor reports a receipt to the service by a call, or by posting a document to it. The
document is written, carried, read and answered, and its answer judged. Both ways leave
the same behind, because the document is read as what was written, and because an
unknown record is passed over by the one and judged harmless by the other.

## Main definitions

* `Api.Brings`: A request that brings a receipt.
* `Api.Carries`: A transport that carries receipts to the service.

## Theorems

* `Api.read_of_brings`: A receipt is read as it was reported.
* `Api.respond_receipt`: What the service does with it, and with which status.
* `Api.ends_deliver`, `Api.ends_callback`: What each way leaves behind.
* `Api.carries_post`: The service carries receipts to itself.
* `Api.sinks_agree`: Both ways of a receipt.
-/

namespace Outreach

open Outreach.Action

namespace Api

/-! ## Reading a receipt -/

theorem string?_ofString (s : String) : (Text.ofString s).string? = some s := by
  rw [Text.ofString, Text.string?, Text.chars?_ofChars, Option.map_some, String.ofList_toList]

/-- Every identifier is read back from its text. -/
theorem identifier_text (u : Uuid) : Lenient.identifier (.string u.text) = .ok u := by
  simp only [Lenient.identifier, Json.string, string?_ofString, Uuid.readStrict?_text]

/-- So is every state of a record. -/
theorem statusValue_text (d : DeliveryStatus) : statusValue (.string d.text) = .ok d := by
  simp only [statusValue, Lenient.choice, Json.string, string?_ofString,
    DeliveryStatus.ofText?_text]

/-- The form of a receipt takes the document of one. -/
theorem receiptForm_body (receipt : Receipt) :
    receiptForm (Callback.body receipt) = .value ⟨receipt.recordId, receipt.outcome⟩ := by
  have hne : Text.ofString "recordId" ≠ Text.ofString "status" := by decide
  simp only [receiptForm, Callback.body, Json.record, membersOf, Checked.andThen, readAlias,
    required, given, readMember, Json.find?, List.map_cons, List.map_nil, List.find?_cons,
    decide_true, hne, decide_false, Option.map_some, identifier_text, statusValue_text,
    Checked.ofValue]
  rfl

/-- A request that brings a receipt to its endpoint, as a document. -/
structure Brings (app : App) (receipt : Receipt) (r : Request) : Prop where
  target : ∃ parts, app.targetOf r = .place (.route .receive) parts
  typed : ((r.header? "content-type").map isJsonType).getD false = true
  body : r.body = Json.write Json.tight (Callback.body receipt)

/-- A request that brings a receipt brings its document. -/
theorem Brings.posts {app : App} {receipt : Receipt} {r : Request} (h : Brings app receipt r) :
    ∃ ms, Callback.body receipt = .object ms ∧ Posts r ms := by
  have hnames : ["recordId", "status"].Nodup := by decide
  refine ⟨_, rfl, h.typed, ⟨Json.tight, Json.proper_tight, h.body⟩, Json.legible_record hnames ?_⟩
  rw [List.forall_mem_cons, List.forall_mem_singleton]
  exact ⟨.text (Text.whole_ofString _), .text (Text.whole_ofString _)⟩

/-- A receipt is read as it was reported. -/
theorem read_of_brings {app : App} {receipt : Receipt} {r : Request} (h : Brings app receipt r)
    (parts : List String) :
    Call.read r .receive parts = .ok (.receive ⟨receipt.recordId, receipt.outcome⟩) := by
  rcases h.posts with ⟨ms, hms, hposts⟩
  have hform := receiptForm_body receipt
  rw [hms] at hform
  rw [Call.read, hposts.readBody hform]
  rfl

/-! ## Answering a receipt -/

section Answer

variable {app : App} {receipt : Receipt} {w : World Memory}

/-- A receipt leaves the same behind however it ends; it fails only if its record is
    unknown. -/
theorem ends_receipt (htied : w.ledger.Tied) (houtcome : receipt.outcome.isOutcome = true) :
    Action.Ends (Receipts.record receipt.recordId receipt.outcome) w
      (fun _ v => v.store = w.store.received receipt w.time)
      fun f v => v.store = w.store.received receipt w.time ∧
        f = .unknownRecord receipt.recordId := by
  have hspares := Receipts.spares_record receipt.recordId receipt.outcome htied
  rw [if_pos houtcome] at hspares
  exact ((Receipts.ends_record w receipt).and hspares).mono (fun _ _ h => h.1)
    fun _ _ h => ⟨h.1, h.2.2⟩

/-- Reported by a call, a receipt is taken whether or not its record is known. -/
theorem ends_deliver (htied : w.ledger.Tied) (houtcome : receipt.outcome.isOutcome = true) :
    Action.Ends (Receipts.deliver receipt) w
      (fun _ v => v.store = w.store.received receipt w.time) fun _ _ => False := by
  simp only [Receipts.deliver, Action.ends_bind, Action.ends_capture, Action.ends_pure]
  refine (ends_receipt htied houtcome).mono (fun _ _ h => h) ?_
  rintro _ v ⟨hstore, rfl⟩
  exact hstore

/-- A request that brings a receipt has the same effect. It is answered with a success, or
    with a refusal that says that the record is unknown. -/
theorem respond_receipt {r : Request} (h : Brings app receipt r) (htied : w.ledger.Tied)
    (houtcome : receipt.outcome.isOutcome = true) :
    ((app.respond r w).1.response.status = 200 ∨ (app.respond r w).1.response.status = 404) ∧
      (app.respond r w).2.store.tables = (w.store.received receipt w.time).tables := by
  rcases h.target with ⟨parts, htarget⟩
  have hplain : Plain fun o v => (o.response.status = 200 ∨ o.response.status = 404) ∧
      v.store.tables = (w.store.received receipt w.time).tables := by
    intro o o' v v' hstatus _ hsame hbefore
    rw [hstatus]
    exact ⟨hbefore.1, Eq.trans hsame hbefore.2⟩
  refine App.respond_of_answer hplain fun v hstore hclock => ?_
  have htime : v.time = w.time := by rw [World.time, World.time, hclock]
  have hvtied : v.ledger.Tied := by
    have hsame : w.Same v := congrArg Memory.tables hstore
    exact htied.of_same (congrArg Tables.campaigns hsame) (congrArg Tables.records hsame)
  have hreceipt := ends_receipt hvtied houtcome
  rw [hstore, htime] at hreceipt
  have hinquiry := App.inquiry?_of_target (s := app.settings.security) htarget rfl
  simp only [App.answer, hinquiry, App.outcome, htarget, App.follow, read_of_brings h, Call.perform,
    Action.ends_bind, Action.ends_capture, Action.ends_pure, status_grant,
    succeed_of_travels (travels_receiptAnswer _)]
  refine hreceipt.mono (fun _ u hu => ⟨Or.inl rfl, congrArg Memory.tables hu⟩) ?_
  rintro _ u ⟨hu, rfl⟩
  exact ⟨Or.inr rfl, congrArg Memory.tables hu⟩

end Answer

/-! ## Carrying receipts -/

/-- A transport that carries receipts to the service: what is posted to an address arrives
    as a request that brings it, and the status of its answer comes back. -/
structure Carries (app : App) (address : Text) (u : Url)
    (post : Url → Json → Action Memory (Except Text Callback.Reply)) : Prop where
  read : Url.ofText address = .ok u
  absolute : u.isRelative = false
  carried : ∀ receipt w, ∃ r, Brings app receipt r ∧
    Action.Ends (post u (Callback.body receipt)) w
      (fun reply v => (∃ text, reply = .ok ⟨(app.respond r w).1.response.status, text⟩) ∧
        v = (app.respond r w).2)
      fun _ _ => False

/-- A request differs from the one without a body in its body only. -/
theorem Request.make_ofString {method target : Text} {headers : List (Text × Text)} {r : Request}
    (h : make method target headers "" = .ok r) (body : String) :
    make method target headers body = .ok { r with body := body } := by
  rcases Text.encode_of_whole (Text.whole_ofString body) with ⟨bytes, hbytes⟩
  rcases Text.encode_of_whole (Text.whole_ofString "") with ⟨none, hnone⟩
  simp only [make, hbytes, hnone, string?_ofString, Option.getD_some] at h ⊢
  cases hurl : Url.ofText target with
  | error f =>
      rw [hurl] at h
      cases h
  | ok u =>
      rw [hurl] at h
      cases hheaders : headers.mapM headerOf with
      | error f =>
          rw [hheaders] at h
          cases h
      | ok hs =>
          rw [hheaders] at h
          cases h
          rfl

/-- What a request aims at and what it says about its body do not depend on the body. -/
theorem brings_of_body {app : App} {r : Request} {parts : List String} {receipt : Receipt}
    (htarget : app.targetOf r = .place (.route .receive) parts)
    (htyped : ((r.header? "content-type").map isJsonType).getD false = true) {body : String}
    (hbody : body = Json.write Json.tight (Callback.body receipt)) :
    Brings app receipt { r with body := body } :=
  ⟨⟨parts, htarget⟩, htyped, hbody⟩

theorem ok_of_toOption {α : Type} {e : Except Fault α} {a : α} (h : e.toOption = some a) :
    e = .ok a := by
  cases e with
  | error f => cases h
  | ok b => exact congrArg Except.ok (Option.some.inj h)

/-- The service carries receipts to itself, given that it can be reached under its address. -/
theorem carries_post {app : App} {u : Url} {r : Request} {parts : List String}
    (hread : Url.ofText app.receiptAddress = .ok u) (habsolute : u.isRelative = false)
    (hmake : Request.make "POST" u.text [("content-type", "application/json")] "" = .ok r)
    (htarget : app.targetOf r = .place (.route .receive) parts)
    (htyped : ((r.header? "content-type").map isJsonType).getD false = true) :
    Carries app app.receiptAddress u app.post := by
  refine ⟨hread, habsolute, fun receipt w => ?_⟩
  refine ⟨{ r with body := Json.write Json.tight (Callback.body receipt) },
    brings_of_body htarget htyped rfl, ?_⟩
  simp only [App.post, Request.make_ofString hmake, Action.ends_bind, Action.ends_ofExcept,
    Action.ends_get, Action.ends_set, Action.ends_pure, Except.ok.injEq, forall_eq', reduceCtorEq,
    false_implies, implies_true, and_true]
  exact ⟨_, rfl⟩

/-- Posted to the service, a receipt has the same effect, and no answer to it is an error. -/
theorem ends_callback {app : App} {address : Text} {u : Url} {receipt : Receipt}
    {post : Url → Json → Action Memory (Except Text Callback.Reply)} {w : World Memory}
    (hpost : Carries app address u post) (htied : w.ledger.Tied)
    (houtcome : receipt.outcome.isOutcome = true) :
    Action.Ends (Callback.deliver post address receipt) w
      (fun _ v => v.store.tables = (w.store.received receipt w.time).tables)
      fun _ _ => False := by
  have hurl : Callback.root.below u = u := by
    rw [Url.below, if_neg (Bool.eq_false_iff.1 hpost.absolute)]
  rcases hpost.carried receipt w with ⟨r, hbrings, hcarried⟩
  rcases respond_receipt hbrings htied houtcome with ⟨hstatus, htables⟩
  simp only [Callback.deliver, hpost.read, Action.ends_bind, Action.ends_ofExcept,
    Except.ok.injEq, forall_eq', reduceCtorEq, false_implies, implies_true, and_true, hurl]
  refine hcarried.mono ?_ fun _ _ h => h
  rintro _ _ ⟨⟨text, rfl⟩, rfl⟩
  simp only [hpost.absolute, Bool.false_eq_true, if_false, Callback.judge, Action.ends_pure,
    Action.ends_ite, Action.ends_note, Action.ends_throw]
  refine ⟨fun _ => htables, fun hknown => ⟨fun hfailed => ?_, fun _ => htables⟩⟩
  rcases hstatus with h | h
  · exact absurd (h ▸ hfailed) (by decide)
  · exact hknown h

/-- The service goes on while calls do. -/
theorem App.Reachable.run {app : App} (moves : List Run.Move) :
    ∀ {s : Run.System}, app.Reachable s → app.Reachable (s.run moves) := by
  induction moves with
  | nil => exact id
  | cons m rest ih => exact fun h => ih (h.moved m)

/-- In every state of the service, a receipt that a vendor reports by a call and one that it
    posts to the service have the same effect on customers, orders, campaigns and delivery
    records, whatever the record it is for. Neither fails, and the record and the outcome are
    read back as they were written. -/
theorem sinks_agree {app : App} {s : Run.System} (h : app.Reachable s) {address : Text} {u : Url}
    {post : Url → Json → Action Memory (Except Text Callback.Reply)}
    (hpost : Carries app address u post) (receipt : Receipt)
    (houtcome : receipt.outcome.isOutcome = true) :
    (∃ v v', Receipts.deliver receipt s.world = .ok () v ∧
      Callback.deliver post address receipt s.world = .ok () v' ∧
      v'.store.tables = v.store.tables) ∧
    Lenient.identifier (.string receipt.recordId.text) = .ok receipt.recordId ∧
    statusValue (.string receipt.outcome.text) = .ok receipt.outcome := by
  refine ⟨?_, identifier_text _, statusValue_text _⟩
  rcases Action.exists_of_ends (ends_deliver h.tied.ledger houtcome) with ⟨⟨⟩, v, hdeliver, hv⟩
  rcases Action.exists_of_ends (ends_callback hpost h.tied.ledger houtcome) with
    ⟨⟨⟩, v', hcallback, hv'⟩
  exact ⟨v, v', hdeliver, hcallback, hv'.trans (congrArg Memory.tables hv).symm⟩

/-- The address of the endpoint of receipts of the service of the example. -/
def sampleAddress : Url := ⟨"http", "", "engine.test", none, "/api/v1/delivery-receipt", none, none⟩

/-- A request to that endpoint, without a body. -/
def sampleRequest : Request where
  method := "POST"
  scheme := "http"
  host := "engine.test"
  path := "/api/v1/delivery-receipt"
  query := ""
  parameters := []
  headers := [("content-type", "application/json")]
  body := ""

/-- The service carries receipts to itself. After the dispatch of the sample run its record is
    pending, and is settled by a receipt in the same way whether it is reported or posted. -/
theorem sinks_agree_in_sample :
    let s := (Run.System.start Run.sampleWorld).run (Run.sample.take 19)
    let receipt : Receipt := ⟨Uuid.ofNat 2, .sent⟩
    sampleApp.Reachable s ∧
      Carries sampleApp sampleApp.receiptAddress sampleAddress sampleApp.post ∧
      receipt.outcome.isOutcome = true ∧
      s.records.map (fun r => (r.id, r.status)) = [(receipt.recordId, .pending)] ∧
      ∃ v v', Receipts.deliver receipt s.world = .ok () v ∧
        Callback.deliver sampleApp.post sampleApp.receiptAddress receipt s.world = .ok () v' ∧
        v'.store.tables = v.store.tables := by
  intro s receipt
  have hreachable : sampleApp.Reachable s := App.Reachable.run _ (.start rfl)
  have hfacts : (Url.ofText sampleApp.receiptAddress).toOption = some sampleAddress ∧
      sampleAddress.isRelative = false ∧
      (Request.make "POST" sampleAddress.text [("content-type", "application/json")] "").toOption =
        some sampleRequest ∧
      sampleApp.targetOf sampleRequest = .place (.route .receive) [] ∧
      ((sampleRequest.header? "content-type").map isJsonType).getD false = true := by
    decide +kernel
  rcases hfacts with ⟨hread, habsolute, hmake, htarget, htyped⟩
  have hcarries : Carries sampleApp sampleApp.receiptAddress sampleAddress sampleApp.post :=
    carries_post (ok_of_toOption hread) habsolute (ok_of_toOption hmake) htarget htyped
  have hpending : s.records.map (fun r => (r.id, r.status)) = [(receipt.recordId, .pending)] := by
    decide +kernel
  exact ⟨hreachable, hcarries, rfl, hpending, (sinks_agree hreachable hcarries receipt rfl).1⟩

end Api

end Outreach
