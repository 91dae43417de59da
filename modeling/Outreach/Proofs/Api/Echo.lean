import Outreach.Proofs.Api.Form
import Outreach.Proofs.Run.System
import Outreach.Proofs.Store.Rules

/-!
# Rules That Come Back

The rules of a campaign leave the service twice: for a column of the database, which holds
their objects as a JSON text, and for callers, in the answer about the campaign. Both times
they come back as they were. What is read of the column are the rules that the campaign was
created with, and so is what every form reads that the rules of the answer are posted to.

## Main definitions

* `Api.Echoes`: A value that is taken as some rules wherever it is posted.

## Theorems

* `Rule.legible_listToJson`: The objects of rules make a document that is read back.
* `Api.rulesMember_of_find`: A form takes the objects of rules as the rules.
* `Api.echoes_listToJson`: So does every request that posts them.
* `Api.ends_showCampaign`: The answer about a campaign has its rules.
* `Api.rules_survive_storage_and_echo`: All of it, for every campaign.
-/

namespace Outreach

open Outreach.Action

/-- A member of a record is found by its name. -/
theorem Json.member?_record (members : List (String × Json)) (name : String) :
    (record members).member? name = (members.find? fun m => m.1 = name).map Prod.snd := by
  have hname : (fun m : Text × Json => decide (m.1 = Text.ofString name)) ∘
      (fun m : String × Json => (Text.ofString m.1, m.2)) = fun m => decide (m.1 = name) :=
    funext fun m => decide_eq_decide.2 Text.ofString_inj
  rw [record, member?, find?, List.find?_map, hname, Option.map_map]
  rfl

theorem Json.find?_cons_self (name : Text) (v : Json) (rest : List (Text × Json)) :
    find? ((name, v) :: rest) name = some v := by
  simp only [find?, List.find?_cons, decide_true, Option.map_some]

namespace Rule

/-- The objects of rules make a document that is read back. -/
theorem legible_listToJson {rules : List Rule} (h : ∀ r ∈ rules, r.value.Whole) (depth : Nat) :
    Json.Legible (depth + 2) (.list (listToJson rules)) := by
  have hnames : ["field", "operator", "value", "logic"].Nodup := by decide
  refine .list (List.forall_mem_map.2 fun r hr => Json.legible_record hnames ?_)
  rw [List.forall_mem_cons, List.forall_mem_cons, List.forall_mem_cons, List.forall_mem_singleton]
  exact ⟨.text (Text.whole_ofString _), .text (Text.whole_ofString _), .text (h r hr),
    .text (Text.whole_ofString _)⟩

/-- What is written into a column for rules is read back from it. -/
theorem read_write_column {rules : List Rule} (h : ∀ r ∈ rules, r.value.Whole) :
    Json.read (Json.write Json.airy (.list (listToJson rules))) =
      .ok (.list (listToJson rules)) := by
  refine (legible_listToJson h 0).read_write Json.proper_airy ?_
  rw [Json.writeChars, List.length_cons, List.length_append, List.length_singleton]
  exact Nat.le_add_left 2 _

end Rule

namespace Api

variable {rules : List Rule} {ms : List (Text × Json)}

/-! ## Forms -/

/-- A form takes the object of a rule as the rule. -/
theorem ruleForm_toJson (r : Rule) : ruleForm r.toJson = .value r := by
  have hvalue : r.toJson.member? "value" = some (.text r.value) := by
    simp only [Rule.toJson, Json.member?_record, List.find?_cons, String.reduceEq, decide_true,
      decide_false, Option.map_some]
  exact ruleForm_eq_value_iff.2 ⟨_, hvalue, rfl, Rule.ofJson_toJson r⟩

theorem items_listToJson (rules : List Rule) (first : Nat) :
    Checked.items ruleForm first (Rule.listToJson rules) = .value rules := by
  induction rules generalizing first with
  | nil => rfl
  | cons r rest ih =>
      have hrest := ih (first + 1)
      rw [Rule.listToJson] at hrest ⊢
      rw [List.map_cons, Checked.items, ruleForm_toJson, hrest]
      rfl

/-- A form takes the objects of rules as the rules. -/
theorem rulesMember_of_find
    (h : Json.find? ms (Text.ofString "rules") = some (.list (Rule.listToJson rules))) :
    rulesMember ms = .value rules := by
  rw [rulesMember, readMember, h]
  dsimp only
  rw [listForm, Lenient.list, Checked.ofValue, Checked.andThen, items_listToJson]
  rfl

/-- A value that is taken as some rules wherever it is posted. It can be part of a document,
    and is read back from the text as which it travels. A request with it is a request for
    a preview of the rules, or for a campaign with the rules if there are a name and
    a message. -/
structure Echoes (v : Json) (rules : List Rule) : Prop where
  legible : ∀ depth, Json.Legible (depth + 2) v
  travels : ∃ cs, v.rendered = Text.ofChars cs ∧ Json.readChars cs = .ok v
  previewed : ∀ {r : Request} {ms : List (Text × Json)} (parts : List String), Posts r ms →
    Json.find? ms (Text.ofString "rules") = some v →
      Call.read r .preview parts = .ok (.preview rules)
  created : ∀ {r : Request} {ms : List (Text × Json)} (parts : List String) {name message : Text},
    Posts r ms → Json.find? ms (Text.ofString "rules") = some v →
      required ms "name" (textOf 1 (some 255)) = .value name →
      required ms "message" (textOf 1 none) = .value message →
        Call.read r .createCampaign parts = .ok (.createCampaign ⟨name, message, rules⟩)

theorem echoes_listToJson (h : ∀ r ∈ rules, r.value.Whole) :
    Echoes (.list (Rule.listToJson rules)) rules := by
  refine ⟨Rule.legible_listToJson h, (Rule.legible_listToJson h 948).exists_rendered, ?_, ?_⟩
  · intro r ms parts hposts hrules
    have hform : previewForm (.object ms) = .value rules := rulesMember_of_find hrules
    rw [Call.read, hposts.readBody hform]
    rfl
  · intro r ms parts name message hposts hrules hname hmessage
    have hform : campaignForm (.object ms) = .value ⟨name, message, rules⟩ := by
      rw [campaignForm, membersOf, Checked.andThen, hname, hmessage, rulesMember_of_find hrules]
      rfl
    rw [Call.read, hposts.readBody hform]
    rfl

/-- A value can be posted by itself. -/
theorem Echoes.posts {v : Json} (h : Echoes v rules) {r : Request}
    (htyped : ((r.header? "content-type").map isJsonType).getD false = true) {sp : Json.Spacing}
    (hsp : sp.Proper) (hbody : r.body = Json.write sp (.record [("rules", v)])) :
    Posts r [(Text.ofString "rules", v)] := by
  have hnames : ([("rules", v)].map Prod.fst).Nodup := List.nodup_singleton _
  have hlegible : Json.Legible 950 (.record [("rules", v)]) :=
    Json.legible_record hnames (List.forall_mem_singleton.2 (h.legible 947))
  exact ⟨htyped, ⟨sp, hsp, hbody⟩, hlegible⟩

/-! ## Answers -/

/-- The answer about a campaign has the objects of its rules. -/
theorem rules_of_campaignAnswer {c : Campaign} {answer : Json} (h : campaignAnswer c = .ok answer) :
    answer.member? "rules" = some (.list (Rule.listToJson c.rules)) := by
  rcases bind_eq_ok_iff.1 h with ⟨rate, -, h⟩
  cases h
  simp only [Json.member?_record, List.find?_cons, String.reduceEq, decide_true, decide_false,
    Option.map_some]

/-- There is an answer, unless the outcomes of the campaign cannot be divided. -/
theorem quotientRange_of_campaignAnswer {c : Campaign} {f : Fault}
    (h : campaignAnswer c = .error f) : f = .quotientRange := by
  rw [campaignAnswer, Campaign.deliveryRate] at h
  split at h
  · cases h
  · split at h <;> cases h
    rfl

theorem ends_showCampaign (app : App) {w : World Memory} {id : Uuid} {c : Campaign}
    (h : Repository.campaignById id w = .ok (some c) w) :
    Ends (Call.perform app (.showCampaign id)) w
      (fun o _ => ∃ answer, o = .done (succeed 200 answer) ∧ campaignAnswer c = .ok answer)
      fun f _ => f = .quotientRange := by
  have hfind : Ends (Campaigns.find id) w (fun found v => found = c ∧ v = w) fun _ _ => False := by
    rw [Campaigns.find, Memory.unitOfWork_eq, ends_bind, Ends, h]
    exact ⟨rfl, rfl⟩
  refine (hfind.mono (fun _ _ h => h) fun _ _ h => h.elim).bind ?_
  rintro _ _ ⟨rfl, rfl⟩
  simp only [ends_bind, ends_ofExcept, ends_pure]
  exact ⟨fun answer hanswer => ⟨answer, rfl, hanswer⟩,
    fun f hf => quotientRange_of_campaignAnswer hf⟩

/-- Rules survive storage and echo. What is read of the object of a rule is that rule, and
    the same holds of lists. So whatever is done with a store after a campaign was created in
    it, other than saving the campaign again with other rules: a database finds it with the
    rules that it was created with, since these are read back from the text in its column,
    and a caller who asks for the campaign gets them in the answer, takes them for what they
    are, and has them read again by whatever form they are posted to. The rules are then
    compiled to what they were compiled to at first. -/
theorem rules_survive_storage_and_echo (app : App) (name message : Text) (rules : List Rule)
    (ops : List (Timestamp × Repository.Operation)) :
    (∀ (wire : Json) (r : Rule), Rule.ofJson wire = .ok r → Rule.ofJson r.toJson = .ok r) ∧
    Rule.listOfJson (Rule.listToJson rules) = .ok rules ∧
    (∀ (w v : World Database) (c : Campaign), Campaigns.create name message rules w = .ok c v →
      (∀ op ∈ ops, op.2.Keeps c.id rules) →
        Json.read (Json.write Json.airy (.list (Rule.listToJson rules))) =
          .ok (.list (Rule.listToJson rules)) ∧
        ∃ found, Repository.campaignById c.id (Repository.runAll ops v) =
            .ok (some found) (Repository.runAll ops v) ∧
          found.rules = rules ∧
          (∀ now, Rule.compile found.rules now = Rule.compile rules now) ∧
          ∀ answer, campaignAnswer found = .ok answer →
            ∃ echo, answer.member? "rules" = some echo ∧ Echoes echo rules) ∧
    ∀ (w v : World Memory) (c : Campaign), Campaigns.create name message rules w = .ok c v →
      (∀ op ∈ ops, op.2.Keeps c.id rules) →
        Ends (Call.perform app (.showCampaign c.id)) (Repository.runAll ops v)
          (fun o _ => ∃ answer echo, o = .done (succeed 200 answer) ∧
            answer.member? "rules" = some echo ∧ Echoes echo rules)
          fun f _ => f = .quotientRange := by
  have hecho : (∀ r ∈ rules, r.value.Whole) → ∀ {found : Campaign}, found.rules = rules →
      ∀ answer, campaignAnswer found = .ok answer →
        ∃ echo, answer.member? "rules" = some echo ∧ Echoes echo rules := by
    rintro hwhole found rfl answer hanswer
    exact ⟨_, rules_of_campaignAnswer hanswer, echoes_listToJson hwhole⟩
  refine ⟨fun _ r _ => Rule.ofJson_toJson r, Rule.listOfJson_listToJson rules, ?_, ?_⟩
  · intro w v c hcreate hops
    have hwhole := (Campaigns.holds_create hcreate).2
    rcases Campaigns.exists_campaignById hcreate hops with ⟨found, hfound, hrules⟩
    refine ⟨Rule.read_write_column hwhole, found, hfound, hrules, fun now => ?_,
      hecho hwhole hrules⟩
    rw [hrules]
  · intro w v c hcreate hops
    have hwhole := (Campaigns.holds_create hcreate).2
    rcases Campaigns.exists_campaignById hcreate hops with ⟨found, hfound, hrules⟩
    refine (ends_showCampaign app hfound).mono ?_ fun _ _ h => h
    rintro o _ ⟨answer, ho, hanswer⟩
    rcases hecho hwhole hrules answer hanswer with ⟨echo, hmember, hechoes⟩
    exact ⟨answer, echo, ho, hmember, hechoes⟩

def sampleTime : Timestamp := ⟨⟨2024, 6, 1⟩, 12 * 3600 * 1000000, some 0⟩

/-- A number with spaces around it, and a number of days. -/
def sampleRules : List Rule := [⟨.visits, .equal, " 3 ", .and⟩, ⟨.lastVisit, .less, "30", .or⟩]

/-- In a transaction that is given up the campaign is started and counts an outcome. Then it is
    saved once more. -/
def sampleOperations : List (Timestamp × Repository.Operation) :=
  [.begin, .markSending (.ofNat 0), .recordOutcome (.ofNat 0) .sent, .rollback .quotientRange,
    .saveCampaign { (default : Campaign) with id := .ofNat 0, rules := sampleRules }].map fun op =>
      (sampleTime, op)

def samplePost (rules : Json) : Request :=
  { (default : Request) with
    headers := [("content-type", "application/json")]
    body := Json.write Json.tight (.record [("rules", rules)]) }

/-- A campaign is created in either store. It is found with its rules, and what is posted of
    the answer about it asks for a preview of these. -/
theorem rules_survive_storage_and_echo_sample :
    (∀ op ∈ sampleOperations, op.2.Keeps (.ofNat 0) sampleRules) ∧
    (∃ c v found, Campaigns.create "Spring" "Hello" sampleRules
        { World.blank sampleTime with store := Database.empty } = .ok c v ∧
      Repository.campaignById c.id (Repository.runAll sampleOperations v) =
        .ok (some found) (Repository.runAll sampleOperations v) ∧ found.rules = sampleRules) ∧
    ∃ c v o u answer echo,
      Campaigns.create "Spring" "Hello" sampleRules (World.blank sampleTime) = .ok c v ∧
      Call.perform default (.showCampaign c.id) (Repository.runAll sampleOperations v) = .ok o u ∧
      o = .done (succeed 200 answer) ∧ answer.member? "rules" = some echo ∧
      Call.read (samplePost echo) .preview [] = .ok (.preview sampleRules) := by
  have hkeeps : ∀ op ∈ sampleOperations, op.2.Keeps (.ofNat 0) sampleRules := by
    refine List.forall_mem_map.2 ?_
    simp only [List.forall_mem_cons, List.not_mem_nil, false_implies, implies_true, and_true,
      Repository.Operation.Keeps]
  rcases rules_survive_storage_and_echo default "Spring" "Hello" sampleRules sampleOperations with
    ⟨-, -, hdatabase, hmemory⟩
  refine ⟨hkeeps, ?_, ?_⟩
  · have hcreate : ∃ c v, Campaigns.create "Spring" "Hello" sampleRules
        { World.blank sampleTime with store := Database.empty } = .ok c v ∧ c.id = .ofNat 0 :=
      exists_of_ends (by decide +kernel)
    rcases hcreate with ⟨c, v, hc, hid⟩
    rcases (hdatabase _ v c hc (hid.symm ▸ hkeeps)).2 with ⟨found, hfound, hrules, -⟩
    exact ⟨c, v, found, hc, hfound, hrules⟩
  · have hcreate : ∃ c v, Campaigns.create "Spring" "Hello" sampleRules (World.blank sampleTime) =
        .ok c v ∧ c.id = .ofNat 0 ∧
          Ends (Call.perform default (.showCampaign c.id) : Action Memory Outcome)
            (Repository.runAll sampleOperations v) (fun _ _ => True) fun _ _ => False :=
      exists_of_ends (by decide +kernel)
    rcases hcreate with ⟨c, v, hc, hid, hshown⟩
    have hanswer := ((hmemory _ v c hc (hid.symm ▸ hkeeps)).and hshown).mono
      (fun _ _ h => h.1) fun _ _ h => h.2
    rcases exists_of_ends hanswer with ⟨o, u, hu, answer, echo, ho, hecho, hechoes⟩
    refine ⟨c, v, o, u, answer, echo, hc, hu, ho, hecho, ?_⟩
    have hposts : Posts (samplePost echo) [(Text.ofString "rules", echo)] :=
      hechoes.posts rfl Json.proper_tight rfl
    exact hechoes.previewed [] hposts (Json.find?_cons_self _ echo [])

end Api

end Outreach
