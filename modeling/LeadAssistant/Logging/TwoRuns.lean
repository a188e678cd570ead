/-
Module: LeadAssistant.Logging.TwoRuns
Layer: Logging
Purpose: What is redacted does not influence the log. Two values are alike if they differ only below
  sensitive keys, at any depth, and two records if they differ only in the message, its arguments,
  the text of the exception, and such values. Alike records are written as the same line.
Trusted boundary: human-reviewed spec
Main exports: LoggedRecord, JsonFormatter.Alike, JsonFormatter.RecordsAlike, formatLogged_alike
-/
import LeadAssistant.Logging.JsonFormatter

namespace LeadAssistant

/-- `exc_info`: an exception with its type, which may be missing, and its text. -/
structure ExceptionInfo where
  typeName : Option String
  text : String

/-- A log record with everything that a formatter could read of it. The message, its arguments and
a cached text of the exception are among the attributes. -/
structure LoggedRecord where
  created : String
  levelname : String
  name : String
  attributes : List (String × LogValue) := []
  excInfo : Option ExceptionInfo := none

/-- What the formatter reads. -/
def LoggedRecord.read (record : LoggedRecord) : LogRecord where
  created := record.created
  levelname := record.levelname
  name := record.name
  attributes := record.attributes
  excInfo := record.excInfo.map (fun exception => exception.typeName)

namespace JsonFormatter

variable (formatter : JsonFormatter)

mutual

/-- The values differ only below sensitive keys. -/
inductive Alike : LogValue → LogValue → Prop where
  | same (value : LogValue) : Alike value value
  | mapping {entries others : List (String × LogValue)} (each : EntriesAlike entries others) :
      Alike (.mapping entries) (.mapping others)
  | sequence {items others : List LogValue} (each : ItemsAlike items others) :
      Alike (.sequence items) (.sequence others)

inductive ItemsAlike : List LogValue → List LogValue → Prop where
  | nil : ItemsAlike [] []
  | cons {value other : LogValue} {items others : List LogValue} (first : Alike value other)
      (rest : ItemsAlike items others) : ItemsAlike (value :: items) (other :: others)

inductive EntriesAlike : List (String × LogValue) → List (String × LogValue) → Prop where
  | nil : EntriesAlike [] []
  | redacted {key : String} {value other : LogValue} {entries others : List (String × LogValue)}
      (sensitive : formatter.sensitive key = true) (rest : EntriesAlike entries others) :
      EntriesAlike ((key, value) :: entries) ((key, other) :: others)
  | cons {key : String} {value other : LogValue} {entries others : List (String × LogValue)}
      (first : Alike value other) (rest : EntriesAlike entries others) :
      EntriesAlike ((key, value) :: entries) ((key, other) :: others)

end

/-- The attributes that hold the message, its arguments and the text of the exception. -/
def MESSAGE_FIELDS : List String := ["msg", "args", "exc_text"]

/-- Two attributes of one name that may differ between alike records. The event of a record is not
a field that the formatter classifies. -/
def FieldsAlike (field other : String × LogValue) : Prop :=
  field.1 = other.1 ∧ (field.1 ∈ MESSAGE_FIELDS ∨
    field.1 ≠ "event" ∧ formatter.sensitive field.1 = true ∨ formatter.Alike field.2 other.2)

/-- The records differ only in the message, its arguments, the text of the exception, and in values
below sensitive keys. -/
structure RecordsAlike (record other : LoggedRecord) : Prop where
  created : record.created = other.created
  levelname : record.levelname = other.levelname
  name : record.name = other.name
  attributes : List.Forall₂ formatter.FieldsAlike record.attributes other.attributes
  excInfo : record.excInfo.map (fun exception => exception.typeName) =
    other.excInfo.map (fun exception => exception.typeName)

/-- `format`, on a record with everything in it. -/
def formatLogged (correlationId : Option String) (record : LoggedRecord) : JsonText :=
  formatter.format correlationId record.read

variable {formatter}

mutual

/-- Values that differ only below sensitive keys are written alike. -/
theorem Alike.sanitizeValue {value other : LogValue} (alike : formatter.Alike value other) :
    formatter.sanitizeValue value = formatter.sanitizeValue other := by
  cases alike with
  | same => rfl
  | mapping each =>
      rw [JsonFormatter.sanitizeValue, JsonFormatter.sanitizeValue, each.sanitizeEntries]
  | sequence each =>
      rw [JsonFormatter.sanitizeValue, JsonFormatter.sanitizeValue, each.sanitizeItems]

theorem ItemsAlike.sanitizeItems {items others : List LogValue}
    (alike : formatter.ItemsAlike items others) :
    formatter.sanitizeItems items = formatter.sanitizeItems others := by
  cases alike with
  | nil => rfl
  | cons first rest =>
      rw [JsonFormatter.sanitizeItems, JsonFormatter.sanitizeItems, first.sanitizeValue,
        rest.sanitizeItems]

theorem EntriesAlike.sanitizeEntries {entries others : List (String × LogValue)}
    (alike : formatter.EntriesAlike entries others) :
    formatter.sanitizeEntries entries = formatter.sanitizeEntries others := by
  cases alike with
  | nil => rfl
  | redacted sensitive rest =>
      rw [JsonFormatter.sanitizeEntries, JsonFormatter.sanitizeEntries, if_pos sensitive,
        if_pos sensitive, rest.sanitizeEntries]
  | cons first rest =>
      rw [JsonFormatter.sanitizeEntries, JsonFormatter.sanitizeEntries, first.sanitizeValue,
        rest.sanitizeEntries]

end

section Records

variable {fields others : List (String × LogValue)} {field other : String × LogValue}

/-- The event of a record is no field that may differ. -/
theorem lookup_event_alike (alike : List.Forall₂ formatter.FieldsAlike fields others) :
    formatter.Alike ((fields.lookup "event").getD .none) ((others.lookup "event").getD .none) := by
  induction alike with
  | nil => exact .same .none
  | @cons field other _ _ first _ ih =>
      rcases field with ⟨key, value⟩
      rcases other with ⟨key', value'⟩
      rcases first with ⟨rfl, differ⟩
      by_cases isEvent : key = "event"
      · subst isEvent
        rw [List.lookup_cons_self, List.lookup_cons_self]
        rcases differ with message | ⟨notEvent, _⟩ | alike
        · exact absurd message (show "event" ∉ MESSAGE_FIELDS by decide)
        · exact absurd rfl notEvent
        · exact alike
      · have passes : ("event" == key) = false := beq_false_of_ne (Ne.symm isEvent)
        rw [List.lookup_cons, List.lookup_cons, passes]
        exact ih

/-- Alike events have one name, and are there or not together. -/
theorem Alike.event {record other : LogRecord}
    (alike : formatter.Alike (structuredEvent record) (structuredEvent other)) :
    eventOf record = eventOf other ∧ unstructured record = unstructured other := by
  unfold eventOf unstructured
  generalize structuredEvent record = event at alike ⊢
  generalize structuredEvent other = event' at alike ⊢
  cases alike with
  | same => exact ⟨rfl, rfl⟩
  | mapping | sequence => exact ⟨rfl, rfl⟩

/-- A field that is written is no message field, so what may differ in it is redacted. -/
theorem FieldsAlike.sanitizeField (alike : formatter.FieldsAlike field other)
    (written : STANDARD_LOG_RECORD_FIELDS.contains field.1 = false) :
    (field.1, formatter.sanitizeField field.1 field.2) =
      (other.1, formatter.sanitizeField other.1 other.2) := by
  rcases field with ⟨key, value⟩
  rcases other with ⟨key', value'⟩
  rcases alike with ⟨rfl, message | ⟨_, sensitive⟩ | alike⟩
  · have standard : ∀ name ∈ MESSAGE_FIELDS, STANDARD_LOG_RECORD_FIELDS.contains name = true := by
      decide
    exact absurd (standard key message) (by simp only [written]; decide)
  · dsimp only
    unfold JsonFormatter.sanitizeField
    rw [if_pos sensitive, if_pos sensitive]
  · dsimp only
    unfold JsonFormatter.sanitizeField
    rw [alike.sanitizeValue]

/-- Alike attributes make the same assignments. -/
theorem extras_alike (alike : List.Forall₂ formatter.FieldsAlike fields others) :
    (fields.filter (fun field =>
      !STANDARD_LOG_RECORD_FIELDS.contains field.1 && field.1 ≠ "event")).map
        (fun field => (field.1, formatter.sanitizeField field.1 field.2)) =
    (others.filter (fun field =>
      !STANDARD_LOG_RECORD_FIELDS.contains field.1 && field.1 ≠ "event")).map
        (fun field => (field.1, formatter.sanitizeField field.1 field.2)) := by
  induction alike with
  | nil => rfl
  | @cons field other _ _ first _ ih =>
      have name := first.1
      cases written : !STANDARD_LOG_RECORD_FIELDS.contains field.1 && field.1 ≠ "event" with
      | false =>
          rw [List.filter_cons_of_neg (by simp only [written]; decide),
            List.filter_cons_of_neg (by rw [← name]; simp only [written]; decide), ih]
      | true =>
          rw [List.filter_cons_of_pos (by simp only [written]),
            List.filter_cons_of_pos (by rw [← name]; simp only [written]), List.map_cons,
            List.map_cons, ih]
          have extra : STANDARD_LOG_RECORD_FIELDS.contains field.1 = false := by
            rw [Bool.and_eq_true, Bool.not_eq_true'] at written
            exact written.1
          rw [first.sanitizeField extra]

end Records

/-- For any two records that agree except in the message, its arguments, the text of the exception
and the values below sensitive keys, at any depth, `format` returns the same line. -/
theorem formatLogged_alike {correlationId : Option String} {record other : LoggedRecord}
    (alike : formatter.RecordsAlike record other) :
    formatter.formatLogged correlationId record = formatter.formatLogged correlationId other := by
  have events : formatter.Alike (structuredEvent record.read) (structuredEvent other.read) :=
    lookup_event_alike alike.attributes
  have fields : (extras record.read).map (fun field =>
        (field.1, formatter.sanitizeField field.1 field.2)) =
      (extras other.read).map (fun field => (field.1, formatter.sanitizeField field.1 field.2)) :=
    extras_alike alike.attributes
  have created : record.read.created = other.read.created := alike.created
  have levelname : record.read.levelname = other.read.levelname := alike.levelname
  have name : record.read.name = other.read.name := alike.name
  have excInfo : record.read.excInfo = other.read.excInfo := alike.excInfo
  unfold formatLogged JsonFormatter.format assignments
  rw [events.event.1, events.event.2, fields, created, levelname, name, excInfo]

/-- A formatter that knows no secrets. -/
def plainFormatter : JsonFormatter :=
  ⟨"telegram-listener", [], id, by simp⟩

/-- A record with a message, an error and a draft below a nested key. -/
def sampleLogged (message draft error : String) : LoggedRecord where
  created := "2026-01-01T00:00:00+00:00"
  levelname := "WARNING"
  name := "app.listener"
  attributes := [("msg", .text message), ("event", .text "draft_rejected"),
    ("detail", .sequence [.mapping [("question_id", .scalar "7"), ("draft_text", .text draft)]])]
  excInfo := some ⟨some "RuntimeError", error⟩

theorem formatLogged_alike_sample :
    plainFormatter.formatLogged none (sampleLogged "one" "With the script." "remote failure") =
      plainFormatter.formatLogged none (sampleLogged "two" "With make." "no route") := by
  apply formatLogged_alike
  refine ⟨rfl, rfl, rfl, ?_, rfl⟩
  have draft : plainFormatter.sensitive "draft_text" = true := by decide +kernel
  refine .cons ⟨rfl, Or.inl (by decide)⟩ (.cons ⟨rfl, Or.inr (Or.inr (.same _))⟩
    (.cons ⟨rfl, Or.inr (Or.inr ?_)⟩ .nil))
  exact .sequence (.cons (.mapping (.cons (.same _) (.redacted draft .nil))) .nil)

end JsonFormatter

end LeadAssistant
