import Outreach.Api.Answer
import Outreach.Api.Call
import Outreach.Api.View
import Outreach.Proofs.Json.RoundTrip
import Outreach.Proofs.Rule.Wire
import Outreach.Proofs.Text.Normal

/-!
# What Forms Read

A form refuses names, emails and messages with lone halves of surrogate pairs.
The phone of a customer and the items of an order are read as they are.

What is read of a form is shown part by part: a reader yields something of which
a condition holds if its parts do so for what is put together from them.

## Main definitions

* `Json.Travels`: A document that can travel.
* `Checked.Yields`: A condition on what was read.
* `Api.Call.Whole`: The texts of a call that its form has looked at.
* `Api.Posts`: A request with some members as its JSON body.

## Theorems

* `Json.travels_record`, `Json.travels_list`: A document travels with its parts.
* `Api.travels_customerAnswer`, `Api.travels_orderAnswer`,
  `Api.travels_campaignAnswer`: What the answers with entities depend on.
* `Api.succeed_of_travels`: An answer that can travel is sent as it is.
* `Checked.Yields.ap`, `Checked.yields_readMember`: Parts of an input.
* `Api.Call.whole_of_read`: What is read of any request.
* `Api.Posts.readBody`: A form is fed with the members that are posted.
* `Api.ruleForm_eq_value_iff`: The objects that a form takes as a rule.
-/

namespace Outreach

section

/-! ## Documents that can travel

A document can travel if none of its texts has a lone half of a surrogate pair.
Most texts of an answer are fixed words, numerals and identifiers, which have
none. What is left are the texts that a caller gave. -/

open Text

theorem Text.encodingFlaw?_of_whole {t : Text} (h : t.Whole) : t.encodingFlaw? = none := by
  rcases encode_of_whole h with ⟨bytes, hbytes⟩
  rw [encodingFlaw?, hbytes]

namespace Json

/-- A document that can travel. -/
def Travels (v : Json) : Prop := v.encodingFlaw? = none

instance (v : Json) : Decidable v.Travels :=
  inferInstanceAs (Decidable (v.encodingFlaw? = none))

theorem travels_text {t : Text} (h : t.Whole) : (Json.text t).Travels :=
  Text.encodingFlaw?_of_whole h

theorem travels_string (s : String) : (Json.string s).Travels :=
  travels_text (whole_ofString s)

/-- A list travels with its items. -/
theorem travels_list {items : List Json} (h : ∀ v ∈ items, v.Travels) :
    (Json.list items).Travels := by
  change encodingFlaw?.itemsFlaw? items = none
  induction items with
  | nil => rfl
  | cons v rest ih =>
      rw [encodingFlaw?.itemsFlaw?, h v List.mem_cons_self,
        ih fun v hv => h v (List.mem_cons_of_mem _ hv)]
      rfl

/-- An object with fixed names travels with its members. -/
theorem travels_record {members : List (String × Json)} (h : ∀ m ∈ members, m.2.Travels) :
    (Json.record members).Travels := by
  change encodingFlaw?.membersFlaw? (members.map fun m => (Text.ofString m.1, m.2)) = none
  induction members with
  | nil => rfl
  | cons m rest ih =>
      rw [List.map_cons, encodingFlaw?.membersFlaw?,
        Text.encodingFlaw?_of_whole (whole_ofString m.1), h m List.mem_cons_self,
        ih fun m hm => h m (List.mem_cons_of_mem _ hm)]
      rfl

end Json

open Json

namespace Rule

theorem travels_listToJson {rules : List Rule} (h : ∀ r ∈ rules, r.value.Whole) :
    (Json.list (Rule.listToJson rules)).Travels := by
  refine travels_list fun v hv => ?_
  rcases List.mem_map.1 hv with ⟨r, hr, rfl⟩
  refine travels_record ?_
  simp only [List.forall_mem_cons, List.not_mem_nil, false_implies, implies_true, and_true]
  exact ⟨travels_string _, travels_string _, travels_text (h r hr), travels_string _⟩

end Rule

namespace Api

theorem travels_amountJson (x : Double) : (amountJson x).Travels := by
  unfold amountJson
  split <;> rfl

theorem travels_timeJson (t : Timestamp) : (timeJson t).Travels :=
  travels_string _

/-- An answer with a customer travels with what the customer was taken in with. -/
theorem travels_customerAnswer {c : Customer} (hname : c.name.Whole) (hemail : c.email.Whole)
    (hphone : c.phone.Travels) : (customerAnswer c).Travels := by
  refine travels_record ?_
  simp only [List.forall_mem_cons, List.not_mem_nil, false_implies, implies_true, and_true]
  exact ⟨travels_string _, travels_text hname, travels_text hemail, hphone,
    travels_amountJson _, rfl, travels_timeJson _, travels_timeJson _⟩

theorem travels_orderAnswer {o : Order} (hemail : o.customerEmail.Whole)
    (hitems : ∀ v ∈ o.items, v.Travels) : (orderAnswer o).Travels := by
  refine travels_record ?_
  simp only [List.forall_mem_cons, List.not_mem_nil, false_implies, implies_true, and_true]
  exact ⟨travels_string _, travels_text hemail, travels_amountJson _, travels_timeJson _,
    travels_list hitems, travels_timeJson _⟩

theorem travels_campaignAnswer {c : Campaign} (hname : c.name.Whole) (hmessage : c.message.Whole)
    (hrules : ∀ r ∈ c.rules, r.value.Whole) {answer : Json} (h : campaignAnswer c = .ok answer) :
    answer.Travels := by
  unfold campaignAnswer at h
  cases hrate : c.deliveryRate with
  | error f =>
      rw [hrate] at h
      cases h
  | ok rate =>
      rw [hrate] at h
      cases h
      refine travels_record ?_
      simp only [List.forall_mem_cons, List.not_mem_nil, false_implies, implies_true, and_true]
      exact ⟨travels_string _, travels_text hname, travels_text hmessage,
        Rule.travels_listToJson hrules, travels_string _, rfl, rfl, rfl, travels_amountJson _,
        travels_timeJson _, travels_timeJson _⟩

theorem travels_receiptAnswer (r : ReceiptResult) : (receiptAnswer r).Travels := by
  refine travels_record ?_
  simp only [List.forall_mem_cons, List.not_mem_nil, false_implies, implies_true, and_true]
  exact ⟨rfl, rfl, rfl⟩

/-- An answer that can travel is sent as it is. -/
theorem succeed_of_travels {status : Nat} {value : Json} (h : value.Travels) :
    succeed status value = .document status value := by
  rw [succeed, h]

end Api

end

/-! ## What forms read -/

open Text

namespace Checked

variable {α β : Type} {P : α → Prop} {Q : β → Prop}

/-- A condition holds of what was read, if anything was. -/
def Yields (x : Checked α) (P : α → Prop) : Prop := ∀ a, x = .value a → P a

theorem yields_value {a : α} (h : P a) : (Checked.value a).Yields P := by
  rintro b ⟨⟩
  exact h

theorem yields_flawed (flaw : Flaw) : (Checked.flawed flaw : Checked α).Yields P := by
  rintro b ⟨⟩

theorem Yields.under {x : Checked α} (h : x.Yields P) (step : PathStep) :
    (x.under step).Yields P := by
  cases x with
  | value a => exact yields_value (h a rfl)
  | flawed flaw => exact yields_flawed _

theorem yields_ofValue {e : Except IssueKind α} (h : ∀ a, e = .ok a → P a) :
    (ofValue e).Yields P := by
  cases e with
  | ok a => exact yields_value (h a rfl)
  | error kind => exact yields_flawed _

theorem Yields.map {x : Checked β} (h : x.Yields Q) {f : β → α} (hf : ∀ b, Q b → P (f b)) :
    (x.map f).Yields P := by
  cases x with
  | value b => exact yields_value (hf b (h b rfl))
  | flawed flaw => exact yields_flawed _

/-- One part more, of which a condition is known. -/
theorem Yields.ap {f : Checked (β → α)} {x : Checked β}
    (hf : f.Yields fun g => ∀ b, Q b → P (g b)) (hx : x.Yields Q) : (f.ap x).Yields P := by
  cases f with
  | value g => cases x with
    | value b => exact yields_value (hf g rfl b (hx b rfl))
    | flawed flaw => exact yields_flawed _
  | flawed flaw => cases x <;> exact yields_flawed _

/-- One part more, whatever it is. -/
theorem Yields.ap_any {f : Checked (β → α)} (hf : f.Yields fun g => ∀ b, P (g b)) (x : Checked β) :
    (f.ap x).Yields P :=
  Yields.ap (Q := fun _ => True) (fun g hg b _ => hf g hg b) fun _ _ => trivial

theorem yields_andThen {x : Checked β} {f : β → Checked α} (h : ∀ b, (f b).Yields P) :
    (x.andThen f).Yields P := by
  cases x with
  | value b => exact h b
  | flawed flaw => exact yields_flawed _

theorem yields_readMember {members : List (Text × Json)} {name : String} {read : Json → Checked α}
    {default : Checked α} (hread : ∀ v, (read v).Yields P) (hdefault : default.Yields P) :
    (readMember members name read default).Yields P := by
  unfold readMember
  cases Json.find? members (Text.ofString name) with
  | some v => exact (hread v).under _
  | none => exact hdefault

theorem yields_missing (name : String) : (missing name : Checked α).Yields P :=
  yields_flawed _

/-! What was read, by what its parts were read as. -/

theorem under_eq_value_iff {x : Checked α} {step : PathStep} {a : α} :
    x.under step = .value a ↔ x = .value a := by
  cases x with
  | value b => exact Iff.rfl
  | flawed flaw => exact iff_of_false nofun nofun

theorem ofValue_eq_value_iff {e : Except IssueKind α} {a : α} :
    ofValue e = .value a ↔ e = .ok a := by
  cases e with
  | ok b => rw [ofValue, value.injEq, Except.ok.injEq]
  | error kind => exact iff_of_false nofun nofun

theorem map_eq_value_iff {x : Checked β} {f : β → α} {a : α} :
    x.map f = .value a ↔ ∃ b, x = .value b ∧ f b = a := by
  cases x with
  | value b => simp only [map, value.injEq, exists_eq_left']
  | flawed flaw => exact iff_of_false nofun (by rintro ⟨b, hb, -⟩; cases hb)

theorem ap_eq_value_iff {f : Checked (β → α)} {x : Checked β} {a : α} :
    f.ap x = .value a ↔ ∃ g b, f = .value g ∧ x = .value b ∧ g b = a := by
  cases f with
  | value g => cases x with
    | value b => simp only [ap, value.injEq, exists_eq_left', exists_and_left]
    | flawed flaw => exact iff_of_false nofun (by rintro ⟨g, b, -, hb, -⟩; cases hb)
  | flawed flaw => cases x <;> exact iff_of_false nofun (by rintro ⟨g, b, hg, -⟩; cases hg)

/-- A member that is required. -/
theorem readMember_eq_value_iff {members : List (Text × Json)} {name : String}
    {read : Json → Checked α} {a : α} :
    readMember members name read (missing name) = .value a ↔
      ∃ v, Json.find? members (Text.ofString name) = some v ∧ read v = .value a := by
  rw [readMember]
  cases Json.find? members (Text.ofString name) with
  | none => exact iff_of_false nofun (by rintro ⟨v, hv, -⟩; cases hv)
  | some v => simp only [under_eq_value_iff, Option.some.injEq, exists_eq_left']

end Checked

open Checked

namespace Api

variable {α : Type} {P : α → Prop}

/-- A text of a certain length consists of characters. -/
theorem whole_of_textOf {least : Nat} {most : Option Nat} {v : Json} {t : Text}
    (h : textOf least most v = .ok t) : t.Whole := by
  unfold textOf at h
  cases hs : Lenient.string v with
  | error kind =>
      rw [hs] at h
      cases h
  | ok s =>
      rw [hs] at h
      change (if s.length < least then _ else _) = _ at h
      by_cases hleast : s.length < least
      · rw [if_pos hleast] at h
        cases h
      · rw [if_neg hleast] at h
        cases most with
        | none =>
            cases h
            exact whole_ofString s
        | some n =>
            change (if n < s.length then _ else _) = _ at h
            by_cases hmost : n < s.length
            · rw [if_pos hmost] at h
              cases h
            · rw [if_neg hmost] at h
              cases h
              exact whole_ofString s

theorem yields_textOf (least : Nat) (most : Option Nat) (v : Json) :
    (ofValue (textOf least most v)).Yields Text.Whole :=
  yields_ofValue fun _ => whole_of_textOf

theorem yields_required_text {members : List (Text × Json)} (name : String) (least : Nat)
    (most : Option Nat) : (required members name (textOf least most)).Yields Text.Whole :=
  yields_readMember (yields_textOf least most) (yields_missing name)

theorem yields_campaignForm (v : Json) :
    (campaignForm v).Yields fun args => args.name.Whole ∧ args.message.Whole := by
  refine yields_andThen fun ms => Yields.ap_any ?_ _
  refine Yields.ap (Q := Text.Whole) ?_ (yields_required_text _ _ _)
  exact (yields_required_text _ _ _).map fun name hname message hmessage rules => ⟨hname, hmessage⟩

theorem yields_customerForm (v : Json) :
    (customerForm v).Yields fun args => args.name.Whole ∧ args.email.Whole := by
  refine yields_andThen fun ms => Yields.ap_any (Yields.ap_any (Yields.ap_any
    (Yields.ap_any ?_ _) _) _) _
  refine Yields.ap (Q := Text.Whole) ?_ (yields_required_text _ _ _)
  exact (yields_required_text _ _ _).map fun name hname email hemail _ _ _ _ => ⟨hname, hemail⟩

theorem yields_orderForm (v : Json) :
    (orderForm v).Yields fun args => args.customerEmail.Whole := by
  refine yields_andThen fun ms => Yields.ap_any (Yields.ap_any (Yields.ap_any ?_ _) _) _
  refine Yields.map (Q := Text.Whole) ?_ fun email hemail _ _ _ => hemail
  exact yields_readMember (yields_textOf _ _)
    (yields_readMember (yields_textOf _ _) (yields_missing _))

/-- What an input is accepted as was read of it. -/
theorem of_accept {input : Json} {x : Checked α} {a : α} (hx : x.Yields P)
    (h : accept input x = .ok a) : P a := by
  cases x with
  | value b =>
      cases h
      exact hx a rfl
  | flawed flaw => cases flaw <;> cases h

/-- What a body is read as satisfies what its form makes sure of. -/
theorem of_readBody {form : Json → Checked α} {r : Request} {a : α}
    (hform : ∀ v, (form v).Yields P) (h : readBody form r = .ok a) : P a := by
  unfold readBody at h
  cases hbody : bodyOf r with
  | error refusal =>
      rw [hbody] at h
      cases h
  | ok body =>
      rw [hbody] at h
      exact of_accept ((yields_andThen hform).under _) h

/-- A request that brings an object as a document. -/
structure Posts (r : Request) (ms : List (Text × Json)) : Prop where
  typed : ((r.header? "content-type").map isJsonType).getD false = true
  body : ∃ sp : Json.Spacing, sp.Proper ∧ r.body = Json.write sp (.object ms)
  legible : Json.Legible Json.depthLimit (.object ms)

/-- What a form takes of an object is read from a request that brings the object. -/
theorem Posts.readBody {r : Request} {ms : List (Text × Json)} (h : Posts r ms)
    {form : Json → Checked α} {a : α} (hform : form (.object ms) = .value a) :
    readBody form r = .ok a := by
  rcases h.body with ⟨sp, hsp, hwritten⟩
  have hfilled : r.body.isEmpty = false := by
    rw [hwritten, Json.write, String.isEmpty_eq_false_iff, ne_eq, String.ofList_eq_empty_iff,
      Json.writeChars]
    exact List.cons_ne_nil _ _
  have hbody : bodyOf r = .ok (.value (.object ms)) := by
    rw [bodyOf, hfilled, h.typed, hwritten, bytesOf, h.legible.readBytes?_write hsp]
    rfl
  rw [Api.readBody, hbody]
  simp only [bind, Except.bind, andThen, hform]
  rfl

/-! ## Rules -/

/-- A word of a vocabulary is looked up alike in a form and in an object. -/
theorem choice_eq_ok_iff {words : List String} {find : String → Option α} {v : Json} {a : α} :
    Lenient.choice words find v = .ok a ↔ (Rule.wordOf? v).bind find = some a := by
  cases v with
  | text t =>
      simp only [Lenient.choice, Rule.wordOf?]
      cases t.string? with
      | none => simp only [Option.bind_none, reduceCtorEq]
      | some s =>
          simp only [Option.bind_some]
          cases find s with
          | none => simp only [reduceCtorEq]
          | some b => simp only [Except.ok.injEq, Option.some.injEq]
  | _ => simp only [Lenient.choice, Rule.wordOf?, Option.bind_none, reduceCtorEq]

/-- The logic of a rule is the default in a form where it is in an object. -/
theorem given_logic_eq_value_iff {ms : List (Text × Json)} {logic : Rule.Logic} :
    given ms "logic" logicOf (.value .and) = .value logic ↔
      (Rule.wordOf? (Rule.logicWord ms)).bind Rule.Logic.ofText? = some logic := by
  have hand : (Rule.wordOf? (.string Rule.Logic.and.text)).bind Rule.Logic.ofText? = some .and := by
    decide
  rw [given, readMember, Rule.logicWord]
  cases Json.find? ms (Text.ofString "logic") with
  | none => rw [hand, value.injEq, Option.some.injEq]
  | some word =>
      simp only [under_eq_value_iff, ofValue_eq_value_iff, logicOf]
      split
      · rw [hand, Except.ok.injEq, Option.some.injEq]
      · exact choice_eq_ok_iff

/-- A form takes the rule of an object, except that it reads the value in its own way. -/
theorem ruleForm_eq_value_iff {wire : Json} {q : Rule} :
    ruleForm wire = .value q ↔
      ∃ v, wire.member? "value" = some v ∧ ruleValue v = .value q.value ∧
        Rule.ofJson wire = .ok { q with value := v.plain } := by
  cases wire with
  | object ms =>
      rcases q with ⟨field, operator, value, logic⟩
      have hlogic (l : Rule.Logic) : readMember ms "logic" (fun v => ofValue (logicOf v))
          (.value .and) = .value l ↔
            (Rule.wordOf? (Rule.logicWord ms)).bind Rule.Logic.ofText? = some l :=
        given_logic_eq_value_iff
      have hvalue (v : Json) (h : Json.find? ms (Text.ofString "value") = some v) :
          Rule.valueText ms = v.plain := by rw [Rule.valueText, h]
      simp only [ruleForm, membersOf, andThen, required, given, ap_eq_value_iff, map_eq_value_iff,
        readMember_eq_value_iff, ofValue_eq_value_iff, choice_eq_ok_iff, hlogic,
        Rule.ofJson_eq_ok_iff, Json.member?]
      constructor
      · rintro ⟨_, _, ⟨_, t, ⟨_, o, ⟨f, hfield, rfl⟩, hoperator, rfl⟩, ⟨v, hv, ht⟩, rfl⟩, hl, heq⟩
        cases heq
        exact ⟨v, hv, ht, hfield, hoperator, hl, (hvalue v hv).symm⟩
      · rintro ⟨v, hv, ht, hfield, hoperator, hl, -⟩
        exact ⟨_, _, ⟨_, _, ⟨_, _, ⟨_, hfield, rfl⟩, hoperator, rfl⟩, ⟨v, hv, ht⟩, rfl⟩, hl, rfl⟩
  | _ => exact iff_of_false nofun (by rintro ⟨v, -, -, hr⟩; cases hr)

namespace Call

/-- The texts of a call that its form has looked at are free of lone halves. -/
def Whole : Call → Prop
  | .createCampaign args => args.name.Whole ∧ args.message.Whole
  | .createCustomer args => args.name.Whole ∧ args.email.Whole
  | .createOrder args => args.customerEmail.Whole
  | _ => True

/-- A call that is made of a part that was read. -/
theorem whole_of_part {x : Except Refusal α} {call : Call} (build : α → Call)
    (hbuild : ∀ a, x = .ok a → (build a).Whole)
    (h : (do return build (← x) : Except Refusal Call) = .ok call) : call.Whole := by
  cases x with
  | error refusal => cases h
  | ok a =>
      cases h
      exact hbuild a rfl

theorem whole_of_readDeliveries {id : String} {r : Request} {call : Call}
    (h : readDeliveries id r = .ok call) : call.Whole := by
  refine of_accept (Yields.ap_any ?_ _) h
  exact Yields.map (Q := fun _ => True) (fun _ _ => trivial) fun _ _ _ => trivial

/-- Whatever a request asks for. -/
theorem whole_of_read {r : Request} {route : Route} {parts : List String} {call : Call}
    (h : Call.read r route parts = .ok call) : call.Whole := by
  cases route with
  | createCampaign =>
      exact whole_of_part .createCampaign (fun _ => of_readBody yields_campaignForm) h
  | createCustomer =>
      exact whole_of_part .createCustomer (fun _ => of_readBody yields_customerForm) h
  | createOrder => exact whole_of_part .createOrder (fun _ => of_readBody yields_orderForm) h
  | listDeliveries => exact whole_of_readDeliveries h
  -- The other calls bring no text along that is shown again.
  | preview => exact whole_of_part .preview (fun _ _ => trivial) h
  | listCampaigns => exact whole_of_part .listCampaigns (fun _ _ => trivial) h
  | showCampaign => exact whole_of_part .showCampaign (fun _ _ => trivial) h
  | receive => exact whole_of_part .receive (fun _ _ => trivial) h
  | listCustomers => exact whole_of_part .listCustomers (fun _ _ => trivial) h
  | listOrders => exact whole_of_part .listOrders (fun _ _ => trivial) h
  | health => cases h; exact trivial
  | ready => cases h; exact trivial
  | totals => cases h; exact trivial

end Call

end Api

end Outreach
