/-
Module: LeadAssistant.Logging.SecretFree
Layer: Logging
Purpose: When no configured secret reaches the log. The strings of a line are, beside the fixed parts
  of the formatter, the leaves of the record in their written form; so a line is free of secrets
  exactly when every leaf that is written as it is holds none and masking spells none in the others.
  The second cannot fail for secrets that have no edge in common with the mark.
Trusted boundary: human-reviewed spec
Main exports: Free, FixedFree, leaves, Apart, LineFree, lineFree_iff_leaves,
  line_free_when_apart
-/
import LeadAssistant.Logging.JsonFormatter

namespace LeadAssistant.JsonFormatter

variable (formatter : JsonFormatter)

/-- No configured secret occurs in a text. -/
def Free (text : String) : Prop :=
  ∀ secret ∈ formatter.secretValues, ¬ secret.toList <:+: text.toList

/-- The names of the formatter's own fields. -/
def FIXED_NAMES : List String :=
  ["timestamp", "level", "service", "event", "correlation_id", "logger", "exception_type"]

/-- No secret occurs in the fixed parts of the formatter. -/
structure FixedFree (record : LogRecord) : Prop where
  names : ∀ name ∈ FIXED_NAMES, formatter.Free name
  timestamp : formatter.Free record.created
  level : formatter.Free record.levelname
  service : formatter.Free formatter.service
  mark : formatter.Free REDACTED

/-- The leaves of one attribute: its name, and the leaves of its value unless it is sensitive. -/
def fieldLeaves (field : String × LogValue) : List Leaf :=
  ⟨false, field.1⟩ :: if formatter.sensitive field.1 then [] else formatter.leavesOf field.2

/-- The leaves that each assignment to the payload brings in. -/
def sources (correlationId : Option String) (record : LogRecord) : List (String × List Leaf) :=
  [("timestamp", []), ("level", []), ("service", []), ("event", [⟨true, eventOf record⟩]),
    ("correlation_id", correlationId.toList.map (fun id => ⟨false, id⟩))] ++
  (if unstructured record then [("logger", [⟨false, record.name⟩])] else []) ++
  (extras record).map (fun field => (field.1, formatter.fieldLeaves field)) ++
  record.excInfo.toList.map (fun exceptionType =>
    ("exception_type", [⟨false, exceptionType.getD "UnknownException"⟩]))

/-- The texts of a record that reach the line. -/
def leaves (correlationId : Option String) (record : LogRecord) : List Leaf :=
  (Dict.visible (formatter.sources correlationId record)).flatMap (fun source => source.2)

/-- Whichever secrets of a text are read as the mark, no secret stands across an edge of a mark. -/
def Apart (text : String) : Prop :=
  ∀ tokens, Masking.Reads (formatter.secretValues.map String.toList) text.toList tokens →
    ∀ secret ∈ formatter.secretValues, Masking.Apart REDACTED.toList secret.toList tokens

/-- No string inside the line holds a secret. -/
def LineFree (correlationId : Option String) (record : LogRecord) : Prop :=
  ∀ text ∈ (formatter.format correlationId record).strings, formatter.Free text

section Decidability

variable (correlationId : Option String) (record : LogRecord) (text : String)

instance : Decidable (formatter.Free text) :=
  inferInstanceAs (Decidable (∀ secret ∈ formatter.secretValues, ¬ secret.toList <:+: text.toList))

instance : Decidable (formatter.LineFree correlationId record) :=
  inferInstanceAs (Decidable
    (∀ text ∈ (formatter.format correlationId record).strings, formatter.Free text))

instance : Decidable (formatter.FixedFree record) :=
  decidable_of_iff ((∀ name ∈ FIXED_NAMES, formatter.Free name) ∧ formatter.Free record.created ∧
      formatter.Free record.levelname ∧ formatter.Free formatter.service ∧
      formatter.Free REDACTED)
    ⟨fun ⟨names, timestamp, level, service, mark⟩ => ⟨names, timestamp, level, service, mark⟩,
      fun ⟨names, timestamp, level, service, mark⟩ => ⟨names, timestamp, level, service, mark⟩⟩

end Decidability

section Strings

variable {formatter : JsonFormatter} {p : String → Prop}

theorem any_sanitizeEntries {key : String} {entries : List (String × LogValue)} :
    (formatter.sanitizeEntries entries).any (fun later => later.1 = key) =
      entries.any (fun later => later.1 = key) := by
  rw [sanitizeEntries_eq, List.any_map]
  rfl

mutual

/-- The strings of a sanitized value are its leaves, as they are written. -/
theorem forall_strings_value (mark : p REDACTED) : ∀ value : LogValue,
    (∀ text ∈ (formatter.sanitizeValue value).strings, p text) ↔
      ∀ leaf ∈ formatter.leavesOf value, p (leaf.written formatter)
  | .none => by simp [sanitizeValue, leavesOf, JsonText.strings]
  | .scalar literal => by simp [sanitizeValue, leavesOf, JsonText.strings]
  | .text value => by simp [sanitizeValue, leavesOf, JsonText.strings, Leaf.written]
  | .secret => by simp [sanitizeValue, leavesOf, JsonText.strings, mark]
  | .mapping entries => by
      rw [sanitizeValue, leavesOf, JsonText.strings, JsonText.forall_mem_fieldStrings,
        ← forall_strings_entries mark entries]
      simp only [Dict.mem_ofPairs]
  | .sequence items => by
      rw [sanitizeValue, leavesOf, JsonText.strings, forall_strings_items mark items]
  | .path value => by simp [sanitizeValue, leavesOf, JsonText.strings, Leaf.written]
  | .object rendered => by simp [sanitizeValue, leavesOf, JsonText.strings, Leaf.written]

theorem forall_strings_items (mark : p REDACTED) : ∀ items : List LogValue,
    (∀ text ∈ JsonText.itemStrings (formatter.sanitizeItems items), p text) ↔
      ∀ leaf ∈ formatter.itemLeaves items, p (leaf.written formatter)
  | [] => by simp [sanitizeItems, itemLeaves, JsonText.itemStrings]
  | item :: items => by
      rw [sanitizeItems, itemLeaves, JsonText.itemStrings, List.forall_mem_append,
        List.forall_mem_append, forall_strings_value mark item, forall_strings_items mark items]

theorem forall_strings_entries (mark : p REDACTED) : ∀ entries : List (String × LogValue),
    (∀ field ∈ Dict.visible (formatter.sanitizeEntries entries),
        p field.1 ∧ ∀ text ∈ field.2.strings, p text) ↔
      ∀ leaf ∈ formatter.entryLeaves entries, p (leaf.written formatter)
  | [] => by simp [sanitizeEntries, entryLeaves, Dict.visible]
  | (key, value) :: entries => by
      rw [sanitizeEntries, entryLeaves, Dict.visible, any_sanitizeEntries]
      by_cases again : entries.any (fun later => later.1 = key) = true
      · rw [if_pos again, if_pos again, forall_strings_entries mark entries]
      · rw [if_neg again, if_neg again, List.forall_mem_cons, List.cons_append,
          List.forall_mem_cons, List.forall_mem_append, forall_strings_entries mark entries,
          and_assoc]
        refine and_congr Iff.rfl (and_congr_left' ?_)
        by_cases hidden : formatter.sensitive key = true
        · simp [hidden, JsonText.strings, mark]
        · rw [if_neg hidden, if_neg hidden]
          exact forall_strings_value mark value

end

theorem forall_strings_field (mark : p REDACTED) {field : String × LogValue} :
    (p field.1 ∧ ∀ text ∈ (formatter.sanitizeField field.1 field.2).strings, p text) ↔
      ∀ leaf ∈ formatter.fieldLeaves field, p (leaf.written formatter) := by
  unfold fieldLeaves sanitizeField
  rw [List.forall_mem_cons]
  refine and_congr Iff.rfl ?_
  by_cases hidden : formatter.sensitive field.1 = true
  · simp [hidden, JsonText.strings, mark]
  · rw [if_neg hidden, if_neg hidden]
    exact forall_strings_value mark field.2

end Strings

section Lines

variable {formatter : JsonFormatter} {correlationId : Option String} {record : LogRecord}

/-- An assignment and the leaves that it brings in. -/
def Brings (formatter : JsonFormatter) (assignment : String × JsonText)
    (source : String × List Leaf) : Prop :=
  assignment.1 = source.1 ∧
    ((formatter.Free assignment.1 ∧ ∀ text ∈ assignment.2.strings, formatter.Free text) ↔
      ∀ leaf ∈ source.2, formatter.Free (leaf.written formatter))

/-- A string under one of the formatter's own names. -/
theorem brings_fixed (fixed : formatter.FixedFree record) {name text : String}
    (own : name ∈ FIXED_NAMES) {source : List Leaf}
    (same : formatter.Free text ↔ ∀ leaf ∈ source, formatter.Free (leaf.written formatter)) :
    Brings formatter (name, .string text) (name, source) := by
  refine ⟨rfl, ?_⟩
  rw [← same, and_iff_right (fixed.names name own)]
  simp [JsonText.strings]

theorem brings_sources (fixed : formatter.FixedFree record) :
    List.Forall₂ (Brings formatter) (formatter.assignments correlationId record)
      (formatter.sources correlationId record) := by
  have nothing : ∀ {text : String}, formatter.Free text →
      (formatter.Free text ↔ ∀ leaf ∈ ([] : List Leaf), formatter.Free (leaf.written formatter)) :=
    fun free => iff_of_true free (fun _ held => absurd held List.not_mem_nil)
  have plain : ∀ text, formatter.Free text ↔
      ∀ leaf ∈ [Leaf.mk false text], formatter.Free (leaf.written formatter) := by
    intro text
    simp [Leaf.written]
  have hidden : ∀ text, formatter.Free (formatter.masked text) ↔
      ∀ leaf ∈ [Leaf.mk true text], formatter.Free (leaf.written formatter) := by
    intro text
    simp [Leaf.written]
  unfold assignments sources
  refine List.rel_append (List.rel_append (List.rel_append ?_ ?_) ?_) ?_
  · refine .cons (brings_fixed fixed (by decide) (nothing fixed.timestamp)) <|
      .cons (brings_fixed fixed (by decide) (nothing fixed.level)) <|
      .cons (brings_fixed fixed (by decide) (nothing fixed.service)) <|
      .cons (brings_fixed fixed (by decide) (hidden _)) <| .cons ?_ .nil
    cases correlationId with
    | none =>
        refine ⟨rfl, iff_of_true ⟨fixed.names _ (by decide), ?_⟩ ?_⟩
        · exact fun _ held => absurd held List.not_mem_nil
        · exact fun _ held => absurd held List.not_mem_nil
    | some id => exact brings_fixed fixed (by decide) (plain id)
  · split
    · exact .cons (brings_fixed fixed (by decide) (plain _)) .nil
    · exact .nil
  · rw [List.forall₂_map_left_iff, List.forall₂_map_right_iff, List.forall₂_same]
    intro field _
    refine ⟨rfl, ?_⟩
    dsimp only
    exact forall_strings_field fixed.mark
  · rw [List.forall₂_map_left_iff, List.forall₂_map_right_iff, List.forall₂_same]
    exact fun _ _ => brings_fixed fixed (by decide) (plain _)

/-- The strings of a line are the leaves of its record, beside the fixed parts. -/
theorem lineFree_iff_leaves (fixed : formatter.FixedFree record) :
    formatter.LineFree correlationId record ↔
      ∀ leaf ∈ formatter.leaves correlationId record, formatter.Free (leaf.written formatter) := by
  unfold LineFree format leaves
  rw [JsonText.strings, JsonText.forall_mem_fieldStrings]
  simp only [Dict.mem_ofPairs]
  have remain := @Dict.forall_visible_congr _ _ _ _ _ _
    (fun assignment : String × JsonText => formatter.Free assignment.1 ∧
      ∀ text ∈ assignment.2.strings, formatter.Free text)
    (fun source : String × List Leaf => ∀ leaf ∈ source.2, formatter.Free (leaf.written formatter))
    (@brings_sources formatter correlationId record fixed)
  rw [remain]
  simp only [List.mem_flatMap, forall_exists_index, and_imp]
  exact ⟨fun each leaf source held inside => each source held leaf inside,
    fun each source held leaf inside => each leaf source held inside⟩

/-- Masking is replacing the secrets, one after another. -/
theorem toList_masked {text : String} : (formatter.masked text).toList =
    Masking.mask REDACTED.toList (formatter.secretValues.map String.toList) text.toList := by
  unfold masked Masking.mask
  rw [List.foldl_map]
  induction formatter.secretValues generalizing text with
  | nil => rfl
  | cons secret secrets ih =>
      rw [List.foldl_cons, List.foldl_cons, ih]
      unfold replace
      rw [String.toList_ofList]

/-- Masking leaves no secret behind where none stands across an edge of the mark. -/
theorem free_masked (fixed : formatter.FixedFree record) {text : String}
    (apart : formatter.Apart text) : formatter.Free (formatter.masked text) := by
  have nonempty : ∀ word ∈ formatter.secretValues.map String.toList, word ≠ [] := by
    rintro word held rfl
    obtain ⟨secret, known, empty⟩ := List.mem_map.1 held
    exact fixed.mark secret known (empty ▸ List.nil_infix)
  intro secret held
  rw [toList_masked]
  refine Masking.not_infix_mask nonempty (fun tokens reads word listed => ?_)
    (List.mem_map_of_mem held)
  obtain ⟨other, known, rfl⟩ := List.mem_map.1 listed
  exact apart tokens reads other known

/-- Secrets that have no edge in common with the mark are apart from it in every text. -/
theorem apart_of_edgeFree
    (edges : ∀ secret ∈ formatter.secretValues, Masking.EdgeFree REDACTED.toList secret.toList)
    (text : String) : formatter.Apart text :=
  fun _ _ secret held => (edges secret held).apart

/-- A line holds no secret if no text that is written as it is does, and the texts that are masked
keep the secrets apart from the mark. The first is also necessary. -/
theorem line_free_when_apart (fixed : formatter.FixedFree record) :
    ((∀ leaf ∈ formatter.leaves correlationId record,
        (leaf.masked = false → formatter.Free leaf.text) ∧
        (leaf.masked = true → formatter.Apart leaf.text)) →
      formatter.LineFree correlationId record) ∧
    (formatter.LineFree correlationId record →
      ∀ leaf ∈ formatter.leaves correlationId record, leaf.masked = false →
        formatter.Free leaf.text) := by
  rw [lineFree_iff_leaves fixed]
  constructor
  · intro each leaf held
    obtain ⟨plain, hidden⟩ := each leaf held
    unfold Leaf.written
    split
    · rename_i mark
      exact free_masked fixed (hidden mark)
    · rename_i mark
      exact plain (Bool.not_eq_true _ ▸ mark)
  · intro each leaf held plain
    have free := each leaf held
    rwa [Leaf.written, plain] at free

end Lines

/-- The formatter of the classification worker with one secret. -/
def sampleFormatter (secret : String) : JsonFormatter :=
  configureLogging "classification-worker" [.plain, .secret secret]
    (fun name => String.ofList (name.toList.map Char.toLower))

/-- A failure that is logged with its error and some metadata. -/
def sampleRecord (error detail : LogValue) : LogRecord where
  created := "2026-07-14T09:30:00+00:00"
  levelname := "WARNING"
  name := "app.worker"
  attributes := [("msg", .text "classification_failed"), ("event", .text "classification_failed"),
    ("error", error), ("metadata", .mapping [("bot_token", .secret), ("detail", detail)])]

theorem line_free_when_apart_sample :
    (sampleFormatter "exception-secret-value").LineFree (some "correlation-123")
      (sampleRecord (.object "remote failure")
        (.sequence [.text "failure included exception-secret-value", .path "/var/log"])) := by
  have free : ∀ leaf ∈ (sampleFormatter "exception-secret-value").leaves (some "correlation-123")
      (sampleRecord (.object "remote failure")
        (.sequence [.text "failure included exception-secret-value", .path "/var/log"])),
      leaf.masked = false → (sampleFormatter "exception-secret-value").Free leaf.text := by
    decide +kernel
  exact (line_free_when_apart (by decide +kernel)).1 fun leaf held =>
    ⟨free leaf held, fun _ => apart_of_edgeFree (by decide +kernel) leaf.text⟩

/-- An error object is written as `str` renders it, and the letter after a secret can spell it
again. -/
theorem object_secret_written :
    ((sampleFormatter "exception-secret-value").FixedFree
        (sampleRecord (.object "remote failure included exception-secret-value") .none) ∧
      ¬ (sampleFormatter "exception-secret-value").LineFree none
        (sampleRecord (.object "remote failure included exception-secret-value") .none)) ∧
    (sampleFormatter "]a").FixedFree (sampleRecord (.text "]aa") .none) ∧
      ¬ (sampleFormatter "]a").LineFree none (sampleRecord (.text "]aa") .none) := by
  decide +kernel

end LeadAssistant.JsonFormatter
