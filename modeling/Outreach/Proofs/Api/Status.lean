import Outreach.Proofs.Api.Failure

/-!
# The Status of a Response

A request that is refused because of its form is the fault of the caller: a body that
cannot be read, or one with issues. A failure of a call has the status of its cause, and
an internal error is what has none.

The forms for bodies report issues only. This is inferred from how a form is put
together, reader by reader.

## Main definitions

* `Fault.status`, `Api.Refusal.status`: The status under which a failure is answered.
* `Checked.Faultless`: What is wrong with an input is its form.

## Theorems

* The instances of `Checked.Faultless` for the forms of bodies.
* `Api.status_of_readBody`: A body of which nothing can be read.
* `Api.App.status_respond`: The status of the response to a request with a body.
-/

namespace Outreach

/-- The status under which a failure is answered. -/
def Fault.status (f : Fault) : Nat := (f.answer?.map Prod.fst).getD 500

namespace Checked

variable {α β : Type}

/-- What is wrong with an input, if anything, is its form. -/
class Faultless (x : Checked α) : Prop where
  not_fault : ∀ f, x ≠ .flawed (.fault f)

instance (a : α) : Faultless (value a) := ⟨nofun⟩

instance (is : List Issue) : Faultless (flawed (.issues is) : Checked α) := ⟨nofun⟩

instance (kind : IssueKind) : Faultless (issue kind : Checked α) :=
  inferInstanceAs (Faultless (flawed _))

instance (x : Checked α) [h : Faultless x] (step : PathStep) : Faultless (x.under step) := by
  rcases x with a | is | f
  · exact ⟨nofun⟩
  · exact ⟨nofun⟩
  · exact absurd rfl (h.not_fault f)

instance (e : Except IssueKind α) : Faultless (ofValue e) := by
  cases e <;> exact ⟨nofun⟩

instance (f : α → β) (x : Checked α) [h : Faultless x] : Faultless (x.map f) := by
  rcases x with a | is | f
  · exact ⟨nofun⟩
  · exact ⟨nofun⟩
  · exact absurd rfl (h.not_fault f)

/-- The flaws of two parts are issues if those of each are. -/
instance (g : Checked (α → β)) (x : Checked α) [hg : Faultless g] [hx : Faultless x] :
    Faultless (g.ap x) := by
  rcases g with b | is | f
  case flawed.fault => exact absurd rfl (hg.not_fault f)
  all_goals
    rcases x with a | is | f
    case flawed.fault => exact absurd rfl (hx.not_fault f)
    all_goals exact ⟨nofun⟩

instance (x : Checked α) (f : α → Checked β) [hx : Faultless x] [hf : ∀ a, Faultless (f a)] :
    Faultless (x.andThen f) := by
  rcases x with a | is | g
  · exact hf a
  · exact ⟨nofun⟩
  · exact absurd rfl (hx.not_fault g)

instance (x : Checked α) [Faultless x] (condition : α → Bool) (kind : IssueKind) :
    Faultless (x.require condition kind) := by
  have hcheck : ∀ a, Faultless (if condition a then value a else issue kind) := by
    intro a
    split <;> exact inferInstance
  exact inferInstanceAs (Faultless (x.andThen _))

instance (name : String) : Faultless (missing name : Checked α) :=
  inferInstanceAs (Faultless ((issue .missing).under _))

instance (members : List (Text × Json)) (name : String) (read : Json → Checked α)
    (default : Checked α) [∀ v, Faultless (read v)] [Faultless default] :
    Faultless (readMember members name read default) := by
  unfold readMember
  split <;> exact inferInstance

instance (members : List (Text × Json)) (name : String) (read : Json → Except IssueKind α)
    (default : Checked α) [Faultless default] : Faultless (given members name read default) :=
  inferInstanceAs (Faultless (readMember _ _ _ _))

instance (members : List (Text × Json)) (name other : String) (read : Json → Checked α)
    (default : Checked α) [∀ v, Faultless (read v)] [Faultless default] :
    Faultless (readAlias members name other read default) :=
  inferInstanceAs (Faultless (readMember _ _ _ (readMember _ _ _ _)))

instance (read : Json → Checked α) [∀ v, Faultless (read v)] (first : Nat) (vs : List Json) :
    Faultless (items read first vs) := by
  induction vs generalizing first with
  | nil => exact inferInstanceAs (Faultless (value []))
  | cons v rest ih =>
      have := ih (first + 1)
      exact inferInstanceAs (Faultless ((((read v).under (.item first)).map List.cons).ap _))

end Checked

open Checked

namespace Api

variable {α : Type}

/-! ## Forms -/

instance (v : Json) : Faultless (membersOf v) := by
  cases v <;> exact ⟨nofun⟩

instance (members : List (Text × Json)) (name : String) (read : Json → Except IssueKind α) :
    Faultless (required members name read) :=
  inferInstanceAs (Faultless (given _ _ _ _))

instance (v : Json) : Faultless (ruleValue v) := by
  cases v <;> exact ⟨nofun⟩

instance (v : Json) : Faultless (ruleForm v) := by
  unfold ruleForm
  exact inferInstance

instance (read : Json → Checked α) [∀ v, Faultless (read v)] (v : Json) :
    Faultless (listForm read v) := by
  unfold listForm
  exact inferInstance

instance (ms : List (Text × Json)) : Faultless (rulesMember ms) := by
  unfold rulesMember
  exact inferInstance

instance (read : Json → Except IssueKind α) (condition : α → Bool) (kind : IssueKind) (v : Json) :
    Faultless (checked read condition kind v) :=
  inferInstanceAs (Faultless ((ofValue (read v)).require _ _))

instance (v : Json) : Faultless (spendForm v) := inferInstanceAs (Faultless (checked _ _ _ v))

instance (v : Json) : Faultless (amountForm v) := inferInstanceAs (Faultless (checked _ _ _ v))

instance (v : Json) : Faultless (countForm v) := inferInstanceAs (Faultless (checked _ _ _ v))

instance (v : Json) : Faultless (momentForm v) := inferInstanceAs (Faultless (ofValue _))

instance (v : Json) : Faultless (previewForm v) := by
  unfold previewForm
  exact inferInstance

instance (v : Json) : Faultless (campaignForm v) := by
  unfold campaignForm
  exact inferInstance

instance (v : Json) : Faultless (customerForm v) := by
  unfold customerForm
  exact inferInstance

instance (v : Json) : Faultless (orderForm v) := by
  unfold orderForm
  exact inferInstance

instance (v : Json) : Faultless (receiptForm v) := by
  unfold receiptForm
  exact inferInstance

/-! ## Refusals -/

/-- The status under which a refusal is answered. -/
def Refusal.status : Refusal → Nat
  | .input .. => 422
  | .unreadable => 400
  | .fault f => f.status

/-- A body that is no document has issues, or cannot be read. -/
theorem faultless_of_bodyOf {r : Request} {body : Checked Json} (h : bodyOf r = .ok body) :
    Faultless body := by
  unfold bodyOf at h
  split at h
  · cases h
    exact inferInstance
  split at h
  · split at h <;> cases h <;> exact inferInstance
  · cases h
    exact inferInstance

theorem unreadable_of_bodyOf {r : Request} {refusal : Refusal} (h : bodyOf r = .error refusal) :
    refusal = .unreadable := by
  unfold bodyOf at h
  split at h
  · cases h
  split at h
  · split at h <;> cases h
    rfl
  · cases h

/-- A body of which nothing can be read is the fault of the caller. -/
theorem status_of_readBody {form : Json → Checked α} [∀ v, Faultless (form v)] {r : Request}
    {refusal : Refusal} (h : readBody form r = .error refusal) :
    refusal.status = 400 ∨ refusal.status = 422 := by
  unfold readBody at h
  cases hbody : bodyOf r with
  | error e =>
      rw [hbody] at h
      cases h
      rw [unreadable_of_bodyOf hbody]
      exact Or.inl rfl
  | ok body =>
      rw [hbody] at h
      have hfaultless := faultless_of_bodyOf hbody
      have hread : Faultless ((body.andThen form).under (.member "body")) := inferInstance
      change accept _ ((body.andThen form).under (.member "body")) = _ at h
      generalize (body.andThen form).under (.member "body") = x at h hread
      rcases x with a | is | f
      · cases h
      · cases h
        exact Or.inr rfl
      · exact absurd rfl (hread.not_fault f)

/-- A call that is made of a body was read of it. -/
theorem Call.status_of_read {r : Request} {route : Route} {parts : List String} {refusal : Refusal}
    (hroute : route.method = "POST") (h : Call.read r route parts = .error refusal) :
    refusal.status = 400 ∨ refusal.status = 422 := by
  have hpart : ∀ {α : Type} {x : Except Refusal α} (build : α → Call),
      (do return build (← x) : Except Refusal Call) = .error refusal → x = .error refusal := by
    intro α x build h
    cases x with
    | error e => exact congrArg Except.error (Except.error.inj h)
    | ok a => cases h
  cases route with
  | preview => exact status_of_readBody (hpart .preview h)
  | createCampaign => exact status_of_readBody (hpart .createCampaign h)
  | receive => exact status_of_readBody (hpart .receive h)
  | createCustomer => exact status_of_readBody (hpart .createCustomer h)
  | createOrder => exact status_of_readBody (hpart .createOrder h)
  | health | ready | listCampaigns | showCampaign | listDeliveries | listCustomers | listOrders
  | totals => exact absurd hroute (by decide)

/-! ## Responses -/

theorem status_whole (status : Nat) (document : Json) :
    (whole status document).status = status ∨ (whole status document).status = 422 := by
  unfold whole
  split
  · exact Or.inr rfl
  · exact Or.inl rfl

theorem status_refuseInput (input : Json) (is : List Issue) :
    (refuseInput input is).status = 422 := by
  simp only [refuseInput]
  split
  · exact (status_whole 422 _).elim id id
  · rfl

theorem status_succeed (status : Nat) (value : Json) :
    (succeed status value).status = status ∨ (succeed status value).status = 422 := by
  unfold succeed
  split
  · exact Or.inr rfl
  · exact Or.inl rfl

namespace App

variable {app : App} {r : Request} {route : Route} {parts : List String} {w : World Memory}
  {P : Nat → Prop}

/-- A failure is answered under its status, at once or as an internal error. -/
theorem ends_answerOf_status {f : Fault} (h : P f.status) :
    Action.Ends (answerOf f) w (fun o _ => P o.response.status) fun _ _ => P 500 := by
  unfold answerOf
  rw [Fault.status] at h
  cases hanswer : f.answer? with
  | none =>
      rw [hanswer] at h
      exact h
  | some answer =>
      rw [hanswer] at h
      exact h

/-- A request that aims at a route has its method. -/
theorem method_of_target (h : app.targetOf r = .place (.route route) parts) :
    r.method = route.method := by
  unfold targetOf Directory.target at h
  split at h
  · split at h <;> cases h
  · split at h
    · rename_i p found hfound
      cases h
      have hmethod := List.find?_some hfound
      simp only [Place.hasMethod, Place.methods?, Option.map_some, Option.getD_some,
        List.contains_cons, List.contains_nil, Bool.or_false, beq_iff_eq] at hmethod
      exact hmethod
    · cases h

/-- A request with a body does not only ask what it may do. -/
theorem inquiry?_of_target {s : SecuritySettings}
    (htarget : app.targetOf r = .place (.route route) parts) (hroute : route.method = "POST") :
    inquiry? s r = none := by
  have hpost : (r.method == "OPTIONS") = false := by
    rw [method_of_target htarget, hroute]
    decide
  unfold inquiry?
  split
  · rw [hpost]
    rfl
  · rfl

/-- What holds of the status of every refusal and of every call holds of the status of the
    response to a request with a body. -/
theorem status_respond (htarget : app.targetOf r = .place (.route route) parts)
    (hroute : route.method = "POST")
    (hrefusal : ∀ refusal, Call.read r route parts = .error refusal → P refusal.status)
    (hcall : ∀ call v, Call.read r route parts = .ok call → v.store = w.store →
      v.clock = w.clock →
      Action.Ends (call.perform app) v (fun o _ => P o.response.status) fun f _ => P f.status) :
    P (app.respond r w).1.response.status := by
  have hplain : Plain fun o _ => P o.response.status := by
    intro o o' v v' hstatus _ _ h
    rw [hstatus]
    exact h
  refine respond_of_answer hplain fun v hstore hclock => ?_
  have hinquiry := inquiry?_of_target (s := app.settings.security) htarget hroute
  have houtcome : Action.Ends (app.outcome r) v (fun o _ => P o.response.status)
      fun _ _ => P 500 := by
    unfold outcome
    simp only [htarget, follow]
    cases hread : Call.read r route parts with
    | error refusal =>
        have hstatus := hrefusal refusal hread
        cases refusal with
        | input input issues =>
            rw [Refusal.status, ← status_refuseInput input issues] at hstatus
            exact hstatus
        | unreadable => exact hstatus
        | fault f => exact ends_answerOf_status hstatus
    | ok call =>
        simp only [Action.ends_bind, Action.ends_capture]
        exact (hcall call v hread hstore hclock).mono (fun _ _ h => h) fun f u h =>
          ends_answerOf_status h
  simp only [answer, hinquiry]
  refine houtcome.bind fun o u ho => ?_
  rw [Action.ends_pure, status_grant]
  exact ho

end App

end Api

end Outreach
