import Outreach.Log.Record
import Outreach.Proofs.Json.Named
import Outreach.Proofs.Json.RoundTrip

/-!
# Records Read Back

The document of a record is written on one line, and what is read from that line is just what
the record holds: its time, level, logger and message, its exception if there is one, and each
of the fields that are shown. A field named like one of the first takes its place. Since the
line is read back as a whole, no text of the record can end it or add a field to it, whatever
its characters are.

This takes that everything can be put into words. The time must fall into the calendar, the
message must not be hidden by an attribute named like the function that yields it, the texts
must not have lone halves, and the numbers must be finite and not too long.

## Main definitions

* `AttributeValue.Reportable`: An attribute that can be shown.
* `Record.Says`: The message of a record.
* `Record.Reports`: What a record holds apart from its fields.
* `Record.reportMembers`, `Record.shownMember?`: The members of its document.

## Theorems

* `Record.message_of_says`: When a record has its message.
* `Record.Reports.toJson_eq`: The document of a record.
* `Record.text_decodes`: The line of a record and what is read from it.
* `Record.not_formatted`: Records that have no line.
-/

namespace Outreach

namespace Log

open Json (Legible Printable)

/-- An attribute that can be shown: its numbers are finite and have no more digits than are
    read, and its texts have no lone halves. Lists and objects are put into words, as are
    identifiers and objects of any other kind. -/
inductive AttributeValue.Reportable : AttributeValue → Prop
  | null : Reportable (.value (.json .null))
  | bool (b : Bool) : Reportable (.value (.json (.bool b)))
  | int {n : Int} (h : (decimalDigits n.natAbs).length ≤ wholeDigitLimit) :
      Reportable (.value (.json (.int n)))
  | double {x : Double} (h : x.isFinite = true) : Reportable (.value (.json (.double x)))
  | text {t : Text} (h : t.Whole) : Reportable (.value (.json (.text t)))
  | list {vs : List Json} (h : Log.fitsDigits (.list vs) = true) :
      Reportable (.value (.json (.list vs)))
  | object {ms : List (Text × Json)} (h : Log.fitsDigits (.object ms) = true) :
      Reportable (.value (.json (.object ms)))
  | id (u : Uuid) : Reportable (.value (.id u))
  | other {t : Text} (h : t.Whole) (shown : String) : Reportable (.value (.other t shown))

open AttributeValue (Reportable)

theorem fitsDigits_of_legible {v : Json} (h : Legible 0 v) : fitsDigits v = true := by
  cases h with
  | null => rfl
  | bool b => rfl
  | int hn => exact decide_eq_true hn
  | double hx => rfl
  | text ht => rfl

namespace Record

variable {r : Record} {v : AttributeValue}

/-- What is shown of an attribute can be read back. -/
theorem legible_memberValue (h : Reportable v) : Legible 0 (memberValue v) := by
  cases h with
  | null => exact .null
  | bool b => exact .bool b
  | int hn => exact .int hn
  | double hx => exact .double hx
  | text ht => exact .text ht
  | list _ => exact .text (Text.whole_ofString _)
  | object _ => exact .text (Text.whole_ofString _)
  | id u => exact .text (Text.whole_ofString _)
  | other ht _ => exact .text ht

theorem fitsDigits_of_reportable (h : Reportable v) : fitsDigits v = true := by
  cases h with
  | null => rfl
  | bool b => rfl
  | int hn => exact decide_eq_true hn
  | double hx => rfl
  | text ht => rfl
  | list hvs => exact hvs
  | object hms => exact hms
  | id u => rfl
  | other ht _ => rfl

/-! ## Messages -/

/-- The message of a record is its template, filled with its arguments if it has any. -/
def Says (r : Record) (message : Text) : Prop :=
  ∃ template arguments, r.get "msg" = .ok template ∧ fitsDigits template = true ∧
    r.get "args" = .ok arguments ∧ filled (plainValue template) arguments = .ok message

/-- A record has its message unless an attribute hides the function that yields it. -/
theorem message_of_says {message : Text} (hunhidden : r.has messageName = false)
    (h : r.Says message) : r.message = .ok message := by
  rcases h with ⟨template, arguments, htemplate, hfits, harguments, hfilled⟩
  -- The steps of the computation are taken in turn, each with what is known of its outcome.
  rw [Record.message, hunhidden, htemplate]
  change (if (!fitsDigits template) = true then _ else _) = _
  rw [hfits]
  change (r.get "args" >>= _) = _
  rw [harguments]
  exact hfilled

/-! ## Documents -/

/-- The members of a document apart from the fields. -/
def reportMembers (time : Timestamp) (level logger message : Text) (exception : Option Text) :
    Named Json :=
  [(Text.ofString "timestamp", .string time.iso), (Text.ofString "level", .text level),
    (Text.ofString "logger", .text logger), (Text.ofString "message", .text message)] ++
    exception.toList.map fun t => (Text.ofString "exception", .text t)

/-- The member of a document that shows a field. -/
def shownMember? (r : Record) (name : Text) : Option Json :=
  if isShown name = true then (Named.value? r.attributes name).map memberValue else none

/-- What a record reports apart from its fields, and that everything in it can be put into
    words. -/
structure Reports (r : Record) (time : Timestamp) (level logger message : Text)
    (exception : Option Text) : Prop where
  distinct : (Named.names r.attributes).Nodup
  time_eq : r.time = .ok time
  level_eq : r.get "levelname" = .ok (.value (.json (.text level)))
  logger_eq : r.get "name" = .ok (.value (.json (.text logger)))
  unhidden : r.has messageName = false
  message_eq : r.Says message
  exception_eq : ∃ v, r.get "exc_info" = .ok v ∧ v.exceptionReport? = .ok exception
  whole : level.Whole ∧ logger.Whole ∧ message.Whole ∧ ∀ t ∈ exception, t.Whole
  shown : ∀ a ∈ r.attributes, isShown a.1 = true → a.1.Whole ∧ Reportable a.2

section Report

variable {time : Timestamp} {level logger message : Text} {exception : Option Text}

theorem Reports.ownMembers_eq (h : r.Reports time level logger message exception) :
    r.ownMembers = .ok ((reportMembers time level logger message exception).map fun m =>
      (m.1, some m.2)) := by
  rcases h.exception_eq with ⟨v, hv, hexception⟩
  have hlevel : r.raw "levelname" = .ok (some (.text level)) := by
    rw [raw, h.level_eq]
    rfl
  have hlogger : r.raw "name" = .ok (some (.text logger)) := by
    rw [raw, h.logger_eq]
    rfl
  rw [ownMembers, h.time_eq, hlevel, hlogger, message_of_says h.unhidden h.message_eq, hv]
  change (v.exceptionReport? >>= _) = _
  rw [hexception]
  cases exception <;> rfl

/-- The fields that are shown, as members of the document. -/
def shownMembers (r : Record) : Named Json :=
  (r.attributes.filter fun a => isShown a.1).map fun a => (a.1, memberValue a.2)

theorem value?_shownMembers {name : Text} :
    Named.value? r.shownMembers name = r.shownMember? name := by
  rw [shownMembers, Named.value?_map, Named.value?_filter, shownMember?]
  by_cases h : isShown name = true
  · rw [if_pos h, if_pos h]
  · rw [if_neg h, if_neg h, Option.map_none]

theorem mapM_writable {ms : Named Json} (h : ∀ m ∈ ms, Log.fitsDigits m.2 = true) :
    (ms.map fun m => (m.1, some m.2)).mapM writable = .ok ms := by
  induction ms with
  | nil => rfl
  | cons m rest ih =>
      rw [List.forall_mem_cons] at h
      have hm : writable (m.1, some m.2) = .ok m := if_pos h.1
      rw [List.map_cons, List.mapM_cons, hm, ih h.2]
      rfl

theorem forall_mem_shownMembers {P : Text × Json → Prop}
    (h : ∀ a ∈ r.attributes, isShown a.1 = true → P (a.1, memberValue a.2)) :
    ∀ m ∈ r.shownMembers, P m :=
  List.forall_mem_map.2 fun a ha => h a (List.mem_filter.1 ha).1 (List.mem_filter.1 ha).2

theorem nodup_names_shownMembers (h : (Named.names r.attributes).Nodup) :
    (Named.names r.shownMembers).Nodup := by
  rw [shownMembers, Named.names_map]
  exact List.Nodup.sublist (List.filter_sublist.map _) h

/-- The names of the report are all different. -/
theorem nodup_names_reportMembers :
    (Named.names (reportMembers time level logger message exception)).Nodup := by
  cases exception with
  | none => exact (by decide : [Text.ofString "timestamp", "level", "logger", "message"].Nodup)
  | some t =>
      exact (by decide :
        [Text.ofString "timestamp", "level", "logger", "message", "exception"].Nodup)

/-- The members of the document: those of the report, with the fields put over them. -/
def documentMembers (r : Record) (time : Timestamp) (level logger message : Text)
    (exception : Option Text) : Named Json :=
  Named.merge (reportMembers time level logger message exception) r.shownMembers

theorem Reports.legible_reportMembers (h : r.Reports time level logger message exception) :
    ∀ m ∈ reportMembers time level logger message exception, m.1.Whole ∧ Legible 0 m.2 := by
  rcases h.whole with ⟨hlevel, hlogger, hmessage, hexception⟩
  refine List.forall_mem_append.2 ⟨?_, List.forall_mem_map.2 fun t ht => ?_⟩
  · simp only [List.forall_mem_cons, List.not_mem_nil, false_implies, implies_true, and_true]
    exact ⟨⟨Text.whole_ofString _, .text (Text.whole_ofString _)⟩,
      ⟨Text.whole_ofString _, .text hlevel⟩, ⟨Text.whole_ofString _, .text hlogger⟩,
      ⟨Text.whole_ofString _, .text hmessage⟩⟩
  · exact ⟨Text.whole_ofString _, .text (hexception t (Option.mem_toList.1 ht))⟩

theorem Reports.legible_documentMembers (h : r.Reports time level logger message exception) :
    ∀ m ∈ r.documentMembers time level logger message exception, m.1.Whole ∧ Legible 0 m.2 :=
  Named.forall_mem_merge h.legible_reportMembers <| forall_mem_shownMembers fun a ha hshown =>
    ⟨(h.shown a ha hshown).1, legible_memberValue (h.shown a ha hshown).2⟩

/-- The document of a record that can be put into words. -/
theorem Reports.toJson_eq (h : r.Reports time level logger message exception) :
    r.toJson = .ok (.object (r.documentMembers time level logger message exception)) := by
  have hspeakable : ((r.attributes.filter fun a => isShown a.1).any fun a =>
      (ownForm? a.2).isNone && !fitsDigits a.2) = false := by
    refine List.any_eq_false.2 fun a ha => ?_
    rcases List.mem_filter.1 ha with ⟨ha, hshown⟩
    rw [fitsDigits_of_reportable (h.shown a ha hshown).2, Bool.not_true, Bool.and_false]
    exact Bool.false_ne_true
  have hmembers : (r.attributes.filter fun a => isShown a.1).map
      (fun a => (a.1, some (memberValue a.2))) = r.shownMembers.map fun m => (m.1, some m.2) := by
    rw [shownMembers, List.map_map]
    rfl
  rw [toJson, h.ownMembers_eq]
  change (if _ = true then _ else _) = _
  rw [hspeakable]
  change (Named.merge _ _).mapM writable >>= _ = _
  rw [hmembers, Named.merge_map, ← documentMembers, mapM_writable fun m hm =>
    fitsDigits_of_legible (h.legible_documentMembers m hm).2]
  rfl

/-- The line of a record is printable, and what is read from it is the report with the fields
    that are shown put over it. -/
theorem text_decodes (h : r.Reports time level logger message exception) :
    ∃ line members, r.text = .ok line ∧ (∀ c ∈ line.toList, Printable c) ∧
      Json.read line = .ok (.object members) ∧ (Named.names members).Nodup ∧
      ∀ name, Json.find? members name = (r.shownMember? name).or
        (Named.value? (reportMembers time level logger message exception) name) := by
  have hnames : (Named.names (r.documentMembers time level logger message exception)).Nodup :=
    Named.nodup_merge nodup_names_reportMembers
  have hlegible : Legible 1 (.object (r.documentMembers time level logger message exception)) :=
    .object hnames (fun m hm => (h.legible_documentMembers m hm).1)
      fun m hm => (h.legible_documentMembers m hm).2
  -- A legible value is written in printable characters and read back from them; what is found
  -- in the members then follows from how they were put together.
  refine ⟨_, _, by rw [text, h.toJson_eq]; rfl, ?_, ?_, hnames, fun name => ?_⟩
  · rw [Json.write, String.toList_ofList]
    exact hlegible.printable Json.proper_airy
  · refine hlegible.read_write Json.proper_airy ?_
    rw [Json.writeChars, List.length_cons]
    exact Nat.le_add_left 1 _
  · change Named.value? _ name = _
    rw [documentMembers, Named.value?_merge (nodup_names_shownMembers h.distinct),
      value?_shownMembers]

end Report

/-- None of the attributes that every record has is shown as a field. -/
theorem isShown_own {name : String} (h : name ∈ ownNames) :
    isShown (Text.ofString name) = false := by
  have hall : (ownNames.all fun own => !isShown (Text.ofString own)) = true := by decide +kernel
  have hname := List.all_eq_true.1 hall name h
  rwa [Bool.not_eq_true'] at hname

/-- A record of a message in two lines. Its fields repeat the name of the level, hold a quote and
    a character beyond the first plane, and would end the line and add a field if they were
    written as they are. -/
def sample : Record :=
  let own := ofCall Double.zero 20 "app" (.text "first\nsecond") [] (some "boom")
  let fields : Named Value :=
    [("campaign_id", .id ⟨0⟩), ("level", .json (.text "\"high\" 😀")),
      ("note", .json (.text "x\", \"forged\": \"y\n")), ("_hidden", .json .null),
      ("size", .json (.int (-3))), ("ratio", .json (.double (Double.ofRatio false 1 4))),
      ("tags", .json (.list [.bool true, .null])), ("price", .other "1.50" "Decimal('1.50')")]
  { own with attributes := own.attributes ++ fields.map fun f => (f.1, .value f.2) }

theorem reports_sample : sample.Reports ⟨⟨1970, 1, 1⟩, 0, some 0⟩ "INFO" "app" "first\nsecond"
    (some "ValueError: boom") where
  distinct := by decide +kernel
  time_eq := by
    have htime : sample.time.toOption = some ⟨⟨1970, 1, 1⟩, 0, some 0⟩ := by decide +kernel
    cases hsample : sample.time with
    | ok t =>
        rw [hsample] at htime
        exact congrArg Except.ok (Option.some.inj htime)
    | error f =>
        rw [hsample] at htime
        cases htime
  level_eq := rfl
  logger_eq := rfl
  unhidden := by decide +kernel
  message_eq := ⟨_, _, rfl, rfl, rfl, rfl⟩
  exception_eq := ⟨_, rfl, rfl⟩
  whole := ⟨Text.whole_ofString _, Text.whole_ofString _, Text.whole_ofString _,
    fun t ht => by cases ht; exact Text.whole_ofString _⟩
  shown := by
    refine List.forall_mem_append.2 ⟨List.forall_mem_map.2 fun name hname hshown => ?_, ?_⟩
    · -- None of the attributes that every record has is shown.
      rw [isShown_own hname] at hshown
      cases hshown
    · simp only [List.map_cons, List.map_nil, List.forall_mem_cons, List.not_mem_nil,
        false_implies, implies_true, and_true]
      exact ⟨fun _ => ⟨Text.whole_ofString _, .id _⟩,
        fun _ => ⟨Text.whole_ofString _, .text (Text.whole_ofString _)⟩,
        fun _ => ⟨Text.whole_ofString _, .text (Text.whole_ofString _)⟩,
        fun _ => ⟨Text.whole_ofString _, .null⟩,
        fun _ => ⟨Text.whole_ofString _, .int (by decide)⟩,
        fun _ => ⟨Text.whole_ofString _, .double (by decide +kernel)⟩,
        fun _ => ⟨Text.whole_ofString _, .list rfl⟩,
        fun _ => ⟨Text.whole_ofString _, .other (Text.whole_ofString _) _⟩⟩

/-- What is read of the sample: its level is the one of the field, and nothing was forged. -/
theorem text_decodes_sample : ∃ line members, sample.text = .ok line ∧
    (∀ c ∈ line.toList, Printable c) ∧ Json.read line = .ok (.object members) ∧
    (Named.names members).Nodup ∧ Json.find? members "level" = some (.text "\"high\" 😀") ∧
    Json.find? members "price" = some (.text "1.50") ∧ Json.find? members "forged" = none := by
  rcases text_decodes reports_sample with ⟨line, members, htext, hprintable, hread, hnames, hfind⟩
  refine ⟨line, members, htext, hprintable, hread, hnames, ?_, ?_, ?_⟩
  · rw [hfind]
    rfl
  · rw [hfind]
    rfl
  · rw [hfind]
    rfl

/-- Whether a record with some time and further fields has a line. -/
def isFormatted (created : Double) (further : Fields) : Option Bool :=
  (create created 20 "app" (.text "m") [] none [] further).toOption.map fun r => r.text.toBool

/-- Records without a line: a field hides the function that yields the message, an integer has too
    many digits to be put into words, and a time lies beyond the calendar. -/
theorem not_formatted : isFormatted Double.zero [(messageName, .json (.text "x"))] = some false ∧
    isFormatted Double.zero [("size", .json (.int (10 ^ 4300)))] = some false ∧
    isFormatted (Double.ofInt (10 ^ 12)) [] = some false := by
  refine ⟨?_, ?_, ?_⟩ <;> decide +kernel

end Record

end Log

end Outreach
