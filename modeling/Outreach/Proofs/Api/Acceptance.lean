import Outreach.Proofs.Api.Status
import Outreach.Proofs.Rule.Faults
import Outreach.Proofs.Run.Invariant.Visits
import Outreach.Proofs.Service.Launch

/-!
# What Callers Are Told

A request with a body is answered with a success or with a refusal that blames the
caller, in every state of the service in which the store answers. The one exception is a
customer or an order with a time that leaves the calendar on its way to universal time,
such as the first hours of the year 1 east of Greenwich. Nothing stands in its way until
the time is converted, and the failure to convert it counts as an internal error.

## Main definitions

* `Api.Call.Acceptable`: The values of a call, apart from its time.
* `Api.Call.Timely`: The time of a call has a form in universal time.
* `Api.Call.Answered`: The status that goes with either.
* `World.Serves`: The worlds in which nothing but a value can fail.

## Theorems

* `Api.Call.answered_preview`, `Api.Call.answered_createCampaign`,
  `Api.Call.answered_receive`, `Api.Call.answered_createCustomer`,
  `Api.Call.answered_createOrder`: The calls with a body.
* `Api.App.Reachable.dated`: Visits are aware in every state of the service.
* `Api.values_are_answered`: Every request with a body.
* `Api.internal_error_by_early_visit`: The exception.
-/

namespace Outreach

open Outreach.Action

/-- A time has a form in universal time. -/
def Timestamp.InCalendar (t : Timestamp) : Prop := t.toUtc?.isSome = true

instance : DecidablePred Timestamp.InCalendar := fun t =>
  inferInstanceAs (Decidable (t.toUtc?.isSome = true))

theorem Timestamp.inCalendar_of_inUtc {t u : Timestamp} (h : inUtc t = .ok u) : t.InCalendar := by
  rw [InCalendar, inUtc_eq_ok_iff.1 h]
  rfl

theorem Timestamp.not_inCalendar_of_inUtc {t : Timestamp} {f : Fault} (h : inUtc t = .error f) :
    ¬t.InCalendar ∧ f = .dateRange := by
  unfold inUtc at h
  unfold InCalendar
  cases ht : t.toUtc? with
  | none =>
      rw [ht] at h
      cases h
      exact ⟨Bool.false_ne_true, rfl⟩
  | some u =>
      rw [ht] at h
      cases h

/-- What a caller gives for a new customer passes every check but that of its time. -/
structure NewCustomer.Acceptable (args : NewCustomer) : Prop where
  named : args.name.isBlankText = false
  mailed : args.email.points.contains (.char '@') = true
  spend : args.totalSpends.lt Double.zero = false
  visits : ¬args.visits < 0

instance (args : NewCustomer) : Decidable args.Acceptable :=
  decidable_of_iff (args.name.isBlankText = false ∧ args.email.points.contains (.char '@') = true ∧
    args.totalSpends.lt Double.zero = false ∧ ¬args.visits < 0)
    ⟨fun h => ⟨h.1, h.2.1, h.2.2.1, h.2.2.2⟩, fun h => ⟨h.named, h.mailed, h.spend, h.visits⟩⟩

/-- A world in which nothing but a value can fail: the clock shows universal time, the
    store answers, visits are aware, and the campaign of every record is stored. -/
structure World.Serves (w : World Memory) : Prop where
  clock : inUtc w.clock = .ok w.clock
  available : w.store.available = true
  dated : w.Dated
  tied : w.ledger.Tied

variable {w : World Memory}

/-! ## How the calls fail -/

theorem World.Serves.readable (h : w.Serves) {rules : List Rule}
    (hrules : ∀ r ∈ rules, r.Parses w.clock) : w.Readable rules :=
  ⟨h.available, h.clock, h.dated, hrules⟩

/-- With the same store and the same clock nothing else can fail either. -/
theorem World.Serves.of_store {v : World Memory} (h : w.Serves) (hstore : v.store = w.store)
    (hclock : v.clock = w.clock) : v.Serves := by
  have htables : v.store.tables = w.store.tables := congrArg Memory.tables hstore
  refine ⟨?_, ?_, h.dated.of_same (congrArg Tables.customers htables),
    h.tied.of_same (congrArg Tables.campaigns htables) (congrArg Tables.records htables)⟩
  · rw [hclock]
    exact h.clock
  · rw [hstore]
    exact h.available

/-- Rules with a value that cannot be read are not compiled. -/
theorem ends_compileAt_of_not_parses (hclock : inUtc w.clock = .ok w.clock) {rules : List Rule}
    (h : ¬∀ r ∈ rules, r.Parses w.clock) :
    Ends (compileAt rules none) w (fun _ _ => False) fun f _ => f.status = 400 := by
  simp only [compileAt, ends_bind, ends_now, hclock, ends_ofExcept, Except.ok.injEq, forall_eq',
    reduceCtorEq, false_implies, implies_true, and_true, Option.getD_none]
  refine ⟨fun p hp => h (Rule.exists_compile_iff.1 ⟨p, hp⟩), fun f hf => ?_⟩
  rcases Rule.ruleValue_of_compile_error hf with ⟨r, -, problem, rfl⟩
  rfl

namespace Campaigns

/-- A campaign needs a name and a message. -/
theorem ends_create_of_blank {rules : List Rule} (h : w.Readable rules) {name message : Text}
    (hblank : ¬(name.isBlankText = false ∧ message.isBlankText = false)) :
    Ends (create name message rules) w (fun _ _ => False) fun f _ => f.status = 422 := by
  rcases Rule.exists_compile_all (isAware_of_inUtc h.clock) h.visits h.parses with ⟨p, hp, hmatches⟩
  have hcompile : Rule.compile rules (Option.getD none w.clock) = .ok p := hp
  rw [create, ends_bind, ends_compileAt_of_ok h.clock hcompile]
  refine ((Audience.ends_count h hmatches).mono (fun _ _ hn => hn) fun _ _ hn => hn.elim).bind ?_
  rintro size v ⟨-, rfl⟩
  simp only [draft, ends_bind, ends_ofExcept]
  refine ⟨fun _ hcheck => ?_, fun f hf => ?_⟩
  · rcases passed_of_unless hcheck with ⟨hname, hcheck⟩
    rcases passed_of_unless hcheck with ⟨hmessage, -⟩
    rw [Bool.not_eq_true] at hname hmessage
    exact absurd ⟨hname, hmessage⟩ hblank
  · rcases failed_of_unless hf with ⟨-, rfl⟩ | ⟨-, hf⟩
    · rfl
    rcases failed_of_unless hf with ⟨-, rfl⟩ | ⟨-, hf⟩
    · rfl
    rcases failed_of_unless hf with ⟨-, rfl⟩ | ⟨-, hf⟩
    · rfl
    · cases hf

end Campaigns

namespace Api

/-- A status that blames the caller. -/
def Blames (status : Nat) : Prop := 400 ≤ status ∧ status < 500

instance : DecidablePred Blames := fun _ => inferInstanceAs (Decidable (_ ∧ _))

namespace Call

/-- The values of a call are acceptable at a time. The time that a call gives is another
    matter. -/
def Acceptable (now : Timestamp) : Call → Prop
  | .preview rules => ∀ r ∈ rules, r.Parses now
  | .createCampaign args =>
    (∀ r ∈ args.rules, r.Parses now) ∧ args.name.isBlankText = false ∧
      args.message.isBlankText = false
  | .receive receipt => receipt.status.isOutcome = true
  | .createCustomer args => args.Acceptable
  | .createOrder args => args.amount.le Double.zero = false
  | _ => True

instance (now : Timestamp) : DecidablePred (Acceptable now)
  | .preview rules => inferInstanceAs (Decidable (∀ r ∈ rules, r.Parses now))
  | .createCampaign _ => inferInstanceAs (Decidable (_ ∧ _ ∧ _))
  | .receive receipt => inferInstanceAs (Decidable (receipt.status.isOutcome = true))
  | .createCustomer args => inferInstanceAs (Decidable args.Acceptable)
  | .createOrder args => inferInstanceAs (Decidable (args.amount.le Double.zero = false))
  | .health | .ready | .listCampaigns _ | .showCampaign _ | .listDeliveries .. | .listCustomers _
  | .listOrders _ | .totals => inferInstanceAs (Decidable True)

/-- The time that a call gives, if any, has a form in universal time. -/
def Timely : Call → Prop
  | .createCustomer args => ∀ t ∈ args.lastVisit, t.InCalendar
  | .createOrder args => ∀ t ∈ args.date, t.InCalendar
  | _ => True

instance : DecidablePred Timely
  | .createCustomer args => inferInstanceAs (Decidable (∀ t ∈ args.lastVisit, t.InCalendar))
  | .createOrder args => inferInstanceAs (Decidable (∀ t ∈ args.date, t.InCalendar))
  | .health | .ready | .preview _ | .createCampaign _ | .listCampaigns _ | .showCampaign _
  | .listDeliveries .. | .receive _ | .listCustomers _ | .listOrders _ | .totals =>
    inferInstanceAs (Decidable True)

/-- The status of the response to a call that succeeds. -/
def success : Call → Nat
  | .createCampaign _ | .createCustomer _ | .createOrder _ => 201
  | _ => 200

/-- The status of the response to a call that came in at a time. A call that is acceptable
    and timely may still be refused because of what is stored, or because its answer cannot
    travel. -/
structure Answered (now : Timestamp) (call : Call) (status : Nat) : Prop where
  settled : call.Acceptable now → call.Timely → status = call.success ∨ Blames status
  refused : ¬call.Acceptable now → Blames status
  failed : call.Acceptable now → ¬call.Timely → status = 500

variable {now : Timestamp} {call : Call} {status : Nat} {app : App}

theorem answered_of_settled (hvalues : call.Acceptable now) (htime : call.Timely)
    (h : status = call.success ∨ Blames status) : call.Answered now status :=
  ⟨fun _ _ => h, fun hnot => absurd hvalues hnot, fun _ hnot => absurd htime hnot⟩

theorem answered_of_refused (hvalues : ¬call.Acceptable now) (h : Blames status) :
    call.Answered now status :=
  ⟨fun hnot => absurd hnot hvalues, fun _ => h, fun hnot => absurd hnot hvalues⟩

theorem answered_of_failed (hvalues : call.Acceptable now) (htime : ¬call.Timely) :
    call.Answered now 500 :=
  ⟨fun _ hnot => absurd hnot htime, fun hnot => absurd hvalues hnot, fun _ _ => rfl⟩

/-- An answer that cannot travel is refused. -/
theorem answered_succeed (call : Call) (hvalues : call.Acceptable now) (htime : call.Timely)
    (answer : Json) : call.Answered now (succeed call.success answer).status := by
  refine answered_of_settled hvalues htime ((status_succeed call.success answer).imp id fun h => ?_)
  rw [h]
  decide

/-- How a call ends whose status is as it should be. -/
def EndsAnswered (app : App) (call : Call) (w : World Memory) : Prop :=
  Ends (call.perform app) w (fun o _ => call.Answered w.clock o.response.status) fun f _ =>
    call.Answered w.clock f.status

theorem answered_preview (h : w.Serves) (rules : List Rule) :
    EndsAnswered app (.preview rules) w := by
  by_cases hrules : ∀ r ∈ rules, r.Parses w.clock
  · refine ((Audience.ends_preview (h.readable hrules)).mono (fun _ _ hn => hn) fun _ _ hf =>
      hf.elim).bind fun n v _ => ?_
    exact answered_succeed (.preview rules) hrules trivial _
  · have hpreview : Ends (Audience.preview rules none) w (fun _ _ => False) fun f _ =>
        f.status = 400 :=
      (ends_compileAt_of_not_parses h.clock hrules).bind fun _ _ hp => hp.elim
    refine (hpreview.mono (fun _ _ hn => hn) fun f _ hf => ?_).bind fun _ _ hn => hn.elim
    exact answered_of_refused hrules (hf ▸ by decide)

theorem answered_createCampaign (h : w.Serves) (args : NewCampaign) :
    EndsAnswered app (.createCampaign args) w := by
  by_cases hrules : ∀ r ∈ args.rules, r.Parses w.clock
  · by_cases hfilled : args.name.isBlankText = false ∧ args.message.isBlankText = false
    · have hcreate := Campaigns.ends_create_of_ok (h.readable hrules) hfilled.1 hfilled.2
      refine (hcreate.mono (fun _ _ hc => hc) fun _ _ hf => hf.elim).bind ?_
      rintro c v ⟨-, -, -, hcount, -, -⟩
      have hrate : c.deliveryRate = .ok Double.zero := if_pos hcount
      simp only [ends_bind, ends_ofExcept, ends_pure]
      refine ⟨fun answer _ => ?_, fun f hf => ?_⟩
      · exact answered_succeed (.createCampaign args) ⟨hrules, hfilled⟩ trivial _
      -- The rate of a campaign without outcomes is zero.
      · rw [campaignAnswer, hrate] at hf
        cases hf
    · have hcreate := Campaigns.ends_create_of_blank (h.readable hrules) hfilled
      refine (hcreate.mono (fun _ _ hc => hc) fun f _ hf => ?_).bind fun _ _ hc => hc.elim
      exact answered_of_refused (fun hvalues => hfilled hvalues.2) (hf ▸ by decide)
  · have hcreate : Ends (Campaigns.create args.name args.message args.rules) w
        (fun _ _ => False) fun f _ => f.status = 400 :=
      (ends_compileAt_of_not_parses h.clock hrules).bind fun _ _ hp => hp.elim
    refine (hcreate.mono (fun _ _ hc => hc) fun f _ hf => ?_).bind fun _ _ hc => hc.elim
    exact answered_of_refused (fun hvalues => hrules hvalues.1) (hf ▸ by decide)

theorem answered_receive (h : w.Serves) (receipt : ReceiptForm) :
    EndsAnswered app (.receive receipt) w := by
  have hrecord := Receipts.spares_record receipt.recordId receipt.status h.tied
  refine (hrecord.mono (fun _ _ hok => hok) ?_).bind fun result v hok => ?_
  · rintro f v ⟨-, rfl⟩
    by_cases houtcome : receipt.status.isOutcome = true
    · rw [if_pos houtcome]
      exact answered_of_settled houtcome trivial (Or.inr (by decide : Blames 404))
    · rw [if_neg houtcome]
      exact answered_of_refused houtcome (by decide : Blames 422)
  · exact answered_succeed (.receive receipt) hok trivial _

/-- A time that has no form in universal time is a given one, not that of the clock. -/
theorem given_of_out_of_calendar (hnow : inUtc now = .ok now) {given : Option Timestamp} {f : Fault}
    (h : inUtc (given.getD now) = .error f) :
    ∃ t ∈ given, ¬t.InCalendar ∧ f = .dateRange := by
  cases given with
  | none => cases h.symm.trans hnow
  | some t => exact ⟨t, rfl, Timestamp.not_inCalendar_of_inUtc h⟩

/-- A customer that does not pass is the caller's fault, unless it is because of a time. -/
theorem answered_of_fails (hnow : inUtc now = .ok now) {args : NewCustomer} {id : Uuid} {f : Fault}
    (h : (args.asked id now).Fails f) : (createCustomer args).Answered now f.status := by
  cases h with
  | unnamed blank =>
      refine answered_of_refused (fun hvalues => ?_) (by decide)
      exact Bool.false_ne_true (hvalues.named.symm.trans blank)
  | unmailed email =>
      refine answered_of_refused (fun hvalues => ?_) (by decide : Blames 422)
      exact Bool.false_ne_true (email.symm.trans hvalues.mailed)
  | spend negative =>
      refine answered_of_refused (fun hvalues => ?_) (by decide)
      exact Bool.false_ne_true (hvalues.spend.symm.trans negative)
  | visits negative =>
      exact answered_of_refused (fun hvalues => hvalues.visits negative) (by decide)
  | time named mailed spend visits time =>
      rcases time with hvisit | hcreated
      · rcases given_of_out_of_calendar hnow hvisit with ⟨t, ht, hout, rfl⟩
        exact answered_of_failed ⟨named, mailed, spend, visits⟩ fun htime => hout (htime t ht)
      · cases hcreated.symm.trans hnow

theorem answered_createCustomer (h : w.Serves) (args : NewCustomer) :
    EndsAnswered app (.createCustomer args) w := by
  have hpassed : ∀ {id : Uuid} {now : Timestamp} {c : Customer}, (args.asked id now).Passes c →
      args.Acceptable ∧ (createCustomer args).Timely := by
    intro id now c hc
    refine ⟨⟨hc.named, hc.mailed, hc.spend, hc.visits⟩, fun t ht => ?_⟩
    have hvisit := hc.lastVisit
    simp only [NewCustomer.asked, Option.mem_def.1 ht, Option.getD_some] at hvisit
    exact Timestamp.inCalendar_of_inUtc hvisit
  refine ((Customers.ends_create args).mono (fun _ _ hok => hok) ?_).bind ?_
  · rintro f v ⟨-, hfails⟩
    cases hfails with
    | clock hclock => cases hclock.symm.trans h.clock
    | known hclock passes =>
        have hboth := hpassed passes
        exact answered_of_settled hboth.1 hboth.2 (Or.inr (by decide : Blames 409))
    | check hclock fails =>
        cases hclock.symm.trans h.clock
        exact answered_of_fails h.clock fails
  · rintro c v ⟨now, -, passes, -⟩
    have hboth := hpassed passes
    exact answered_succeed (.createCustomer args) hboth.1 hboth.2 _

theorem answered_createOrder (h : w.Serves) (args : NewOrder) :
    EndsAnswered app (.createOrder args) w := by
  refine ((Orders.ends_ingest args).mono (fun _ _ hok => hok) ?_).bind ?_
  · rintro f v (⟨-, hfails⟩ | ⟨o, now, hnow, -, -, hfails⟩)
    · cases hfails with
      | clock hclock => cases hclock.symm.trans h.clock
      | check hclock fails =>
          cases hclock.symm.trans h.clock
          cases fails with
          | unpaid amount =>
              refine answered_of_refused (fun hvalues => ?_) (by decide)
              exact Bool.false_ne_true (Eq.trans (Eq.symm hvalues) amount)
          | time positive date =>
              rcases given_of_out_of_calendar h.clock date with ⟨t, ht, hout, rfl⟩
              exact answered_of_failed positive fun htime => hout (htime t ht)
    -- An order that came in at a time of the clock is applied.
    · cases hnow.symm.trans h.clock
      cases hfails.symm.trans h.clock
  · rintro o v ⟨now, -, passes, -⟩
    refine answered_succeed (.createOrder args) passes.positive (fun t ht => ?_) _
    have hdate := passes.date
    simp only [NewOrder.asked, Option.mem_def.1 ht, Option.getD_some] at hdate
    exact Timestamp.inCalendar_of_inUtc hdate

/-- What is read of a request on a route with a body is answered as it should be. -/
theorem answered_of_read (h : w.Serves) {r : Request} {route : Route} {parts : List String}
    (hroute : route.method = "POST") (hread : Call.read r route parts = .ok call) :
    EndsAnswered app call w := by
  have hpart : ∀ {α : Type} {x : Except Refusal α} {build : α → Call},
      (do return build (← x) : Except Refusal Call) = .ok call → ∃ a, call = build a := by
    intro α x build h
    cases x with
    | error e => cases h
    | ok a => exact ⟨a, (Except.ok.inj h).symm⟩
  cases route with
  | preview =>
      rcases hpart hread with ⟨rules, rfl⟩
      exact answered_preview h rules
  | createCampaign =>
      rcases hpart hread with ⟨args, rfl⟩
      exact answered_createCampaign h args
  | receive =>
      rcases hpart hread with ⟨receipt, rfl⟩
      exact answered_receive h receipt
  | createCustomer =>
      rcases hpart hread with ⟨args, rfl⟩
      exact answered_createCustomer h args
  | createOrder =>
      rcases hpart hread with ⟨args, rfl⟩
      exact answered_createOrder h args
  | health | ready | listCampaigns | showCampaign | listDeliveries | listCustomers | listOrders
  | totals => exact absurd hroute (by decide)

end Call

/-- Visits are aware in every state of the service. -/
theorem App.Reachable.dated {app : App} {s : Run.System} (h : app.Reachable s) : s.Dated := by
  induction h with
  | start tables =>
      refine Run.System.dated_start fun c hc => ?_
      rw [tables] at hc
      cases hc
  | moved before m ih => exact ih.move m
  | @answered s before r ih =>
      have hsame : ∀ {v v' : World Memory}, v.Same v' → v.Dated → v'.Dated :=
        fun hsame hv => hv.of_same (congrArg Tables.customers hsame)
      have hserve : ∀ (r : Run.Request) {v : World Memory}, v.Dated → (r.serve v).2.Dated :=
        fun r _ hv => r.dated_serve hv
      exact ⟨app.kept_respond r hsame hserve ih.world, ih.tasks⟩

/-- In every state of the service in which the store answers, a request with a body is
    answered by what it asks for. If nothing can be read of its body, that is the caller's
    fault, and so is a value that is not acceptable. What is acceptable succeeds or is the
    caller's fault for another reason, with one exception: a time without a form in
    universal time is an internal error. -/
theorem values_are_answered {app : App} {s : Run.System} (h : app.Reachable s)
    (havailable : s.world.store.available = true) (hclock : inUtc s.world.clock = .ok s.world.clock)
    {r : Request} {route : Route} {parts : List String}
    (htarget : app.targetOf r = .place (.route route) parts) (hroute : route.method = "POST") :
    (app.call? r = none → Blames (app.respond r s.world).1.response.status) ∧
      ∀ call, app.call? r = some call →
        call.Answered s.world.clock (app.respond r s.world).1.response.status := by
  have hserves : s.world.Serves := ⟨hclock, havailable, h.dated.world, h.tied.ledger⟩
  refine App.status_respond (P := fun status => (app.call? r = none → Blames status) ∧
    ∀ call, app.call? r = some call → call.Answered s.world.clock status) htarget hroute ?_ ?_
  · intro refusal hread
    have hcall : app.call? r = none := by
      simp only [App.call?, htarget, hread, Except.toOption]
    refine ⟨fun _ => ?_, fun call hsome => ?_⟩
    · rcases Call.status_of_read hroute hread with hstatus | hstatus <;>
      · rw [hstatus]
        decide
    · cases hcall.symm.trans hsome
  · intro call v hread hstore hvclock
    have hcall : app.call? r = some call := by
      simp only [App.call?, htarget, hread, Except.toOption]
    have hends : Call.EndsAnswered app call v :=
      Call.answered_of_read (hserves.of_store hstore hvclock) hroute hread
    have hboth : ∀ status, call.Answered v.clock status → (app.call? r = none → Blames status) ∧
        ∀ other, app.call? r = some other → other.Answered s.world.clock status := by
      intro status hstatus
      refine ⟨fun hnone => ?_, fun other hother => ?_⟩
      · cases hcall.symm.trans hnone
      · cases hcall.symm.trans hother
        exact hvclock ▸ hstatus
    exact hends.mono (fun _ _ ho => hboth _ ho) fun _ _ hf => hboth _ hf

/-- The customer of the sample is acceptable, and refused the second time. -/
theorem values_are_answered_in_sample :
    sampleApp.Reachable sampleState ∧
      sampleApp.targetOf (newcomer "555") = .place (.route .createCustomer) [] ∧
      (sampleApp.respond (newcomer "555") sampleState.world).1.response.status = 409 ∧
      ∃ call, sampleApp.call? (newcomer "555") = some call ∧
        call.Acceptable sampleState.world.clock ∧ call.Timely ∧
        ((sampleApp.respond (newcomer "555") sampleState.world).1.response.status = call.success ∨
          Blames (sampleApp.respond (newcomer "555") sampleState.world).1.response.status) := by
  have hreachable : sampleApp.Reachable sampleState := .answered (.start rfl) (newcomer "555")
  have hfacts : sampleState.world.store.available = true ∧
      sampleState.world.clock.toUtc? = some sampleState.world.clock ∧
      sampleApp.targetOf (newcomer "555") = .place (.route .createCustomer) [] ∧
      (sampleApp.respond (newcomer "555") sampleState.world).1.response.status = 409 ∧
      (sampleApp.call? (newcomer "555")).any (fun call =>
        decide (call.Acceptable sampleState.world.clock) && decide call.Timely) = true := by
    decide +kernel
  rcases hfacts with ⟨havailable, hclock, htarget, hstatus, hcall⟩
  rcases (Option.any_eq_true _ _).1 hcall with ⟨call, hcall, hboth⟩
  rw [Bool.and_eq_true, decide_eq_true_eq, decide_eq_true_eq] at hboth
  have hanswered := (values_are_answered hreachable havailable (inUtc_eq_ok_iff.2 hclock) htarget
    rfl).2 call hcall
  exact ⟨hreachable, htarget, hstatus, call, hcall, hboth.1, hboth.2,
    hanswered.settled hboth.1 hboth.2⟩

/-- A request to take a customer in who came in the first hour of the calendar, east of
    Greenwich. -/
def earlyVisitor : Request :=
  { newcomer "555" with
    body := "\x7b\"name\":\"Ann\",\"email\":\"ann@example.org\",\"lastVisit\":" ++
      "\"0001-01-01T00:00:00+01:00\"\x7d" }

/-- It ends in an internal error, although everything is in order. -/
theorem internal_error_by_early_visit :
    sampleApp.Reachable (.start Run.sampleWorld) ∧
      Run.sampleWorld.store.available = true ∧ Run.sampleWorld.sender.bound = true ∧
      inUtc Run.sampleWorld.clock = .ok Run.sampleWorld.clock ∧
      sampleApp.targetOf earlyVisitor = .place (.route .createCustomer) [] ∧
      (sampleApp.respond earlyVisitor Run.sampleWorld).1.response.status = 500 := by
  rw [inUtc_eq_ok_iff]
  refine ⟨.start rfl, ?_⟩
  decide +kernel

end Api

end Outreach
