import Outreach.Proofs.Sql.Value
import Outreach.Rule.Wire

/-!
# Rules Written and Read Again

The object of a rule is read as that rule, whatever its value is, and so are the
objects of a list of rules. Nothing is lost where rules are stored as JSON.

## Theorems

* `Rule.ofJson_eq_ok_iff`: The objects that are read as a rule.
* `Rule.ofJson_toJson`: One rule.
* `Rule.listOfJson_listToJson`: A list of rules.
-/

namespace Outreach

theorem bind_eq_ok_iff {ε α β : Type} {x : Except ε α} {f : α → Except ε β} {b : β} :
    (do f (← x)) = .ok b ↔ ∃ a, x = .ok a ∧ f a = .ok b := by
  cases x with
  | error e => exact iff_of_false nofun (by rintro ⟨a, ha, -⟩; cases ha)
  | ok a => simp only [bind, Except.bind, Except.ok.injEq, exists_eq_left']

namespace Rule

theorem lookUp_eq_ok_iff {α : Type} {wire word : Json} {vocabulary : Vocabulary}
    {find : String → Option α} {a : α} :
    lookUp wire word vocabulary find = .ok a ↔ (wordOf? word).bind find = some a := by
  rw [lookUp]
  split
  · next b hb => rw [hb, Except.ok.injEq, Option.some.injEq]
  · next hnone =>
    rw [hnone]
    exact iff_of_false nofun nofun

theorem required_eq_ok_iff {wire : Json} {ms : List (Text × Json)} {name : String} {v : Json} :
    required wire ms name = .ok v ↔ Json.find? ms (Text.ofString name) = some v := by
  rw [required]
  split
  · next w hw => rw [hw, Except.ok.injEq, Option.some.injEq]
  · next hnone =>
    rw [hnone]
    exact iff_of_false nofun nofun

/-- The members that make an object that of a rule. -/
theorem ofJson_eq_ok_iff {ms : List (Text × Json)} {r : Rule} :
    ofJson (.object ms) = .ok r ↔
      (∃ w, Json.find? ms (Text.ofString "field") = some w ∧
        (wordOf? w).bind Field.ofText? = some r.field) ∧
      (∃ w, Json.find? ms (Text.ofString "operator") = some w ∧
        (wordOf? w).bind Operator.ofText? = some r.operator) ∧
      (wordOf? (logicWord ms)).bind Logic.ofText? = some r.logic ∧ r.value = valueText ms := by
  rcases r with ⟨field, operator, value, logic⟩
  simp only [ofJson, bind_eq_ok_iff, lookUp_eq_ok_iff, required_eq_ok_iff, Except.ok.injEq,
    mk.injEq]
  constructor
  · rintro ⟨w, hw, _, hfield, w', hw', _, hoperator, _, hlogic, rfl, rfl, rfl, rfl⟩
    exact ⟨⟨w, hw, hfield⟩, ⟨w', hw', hoperator⟩, hlogic, rfl⟩
  · rintro ⟨⟨w, hw, hfield⟩, ⟨w', hw', hoperator⟩, hlogic, rfl⟩
    exact ⟨w, hw, _, hfield, w', hw', _, hoperator, _, hlogic, rfl, rfl, rfl, rfl⟩

/-- A word of a vocabulary is found in it. -/
theorem lookUp_word {α : Type} {word : String} {find : String → Option α} {a : α} (wire : Json)
    (vocabulary : Vocabulary) (h : find word = some a) :
    lookUp wire (.string word) vocabulary find = .ok a := by
  have hword : wordOf? (.string word) = some word := by
    change (Text.ofString word).string? = some word
    rw [Text.string?, Text.ofString, Text.chars?_ofChars, Option.map_some, String.ofList_toList]
  simp only [lookUp, hword, Option.bind_some, h]

/-- The object of a rule is read as the rule. -/
theorem ofJson_toJson (r : Rule) : ofJson r.toJson = .ok r := by
  rcases r with ⟨field, operator, value, logic⟩
  rw [toJson, Json.record, ofJson]
  generalize Json.object _ = wire
  -- Each member is found by its name, and a logic is never an absent one.
  have hlogic : (Json.string logic.text).isEmptyLike = false := by cases logic <;> rfl
  have hfield := lookUp_word wire .ruleField (Field.ofText?_text field)
  have hoperator := lookUp_word wire .ruleOperator (Operator.ofText?_text operator)
  have hjoin := lookUp_word wire .ruleLogic (Logic.ofText?_text logic)
  simp only [List.map_cons, List.map_nil, required, logicWord, valueText, Json.find?,
    List.find?_cons, Text.ofString_inj, decide_true, decide_false, String.reduceEq, Option.map_some,
    hlogic, Bool.false_eq_true, if_false, hfield, hoperator, hjoin, bind, Except.bind, Json.plain]

theorem listOfJson_listToJson (rules : List Rule) : listOfJson (listToJson rules) = .ok rules := by
  rw [listOfJson, listToJson]
  induction rules with
  | nil => rfl
  | cons r rest ih =>
      rw [List.map_cons, List.mapM_cons, ofJson_toJson, ih]
      rfl

end Rule

end Outreach
