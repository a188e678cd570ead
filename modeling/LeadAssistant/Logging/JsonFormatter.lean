/-
Module: LeadAssistant.Logging.JsonFormatter
Layer: Logging
Purpose: `JsonFormatter` (`logging.py`): one log record as a JSON object, with the configured secrets
  masked in its strings and the values of sensitive fields left out. A mapping is read by its keys
  as `str` renders them, and so is every other object; the iteration order of the secrets is that
  of a set. The lower-case mapping of Unicode is a parameter.
Trusted boundary: human-reviewed spec
Main exports: LogValue, LogRecord, JsonFormatter, sanitizeField, sanitizeValue, format,
  configuredSecretValues, Leaf, leavesOf
-/
import LeadAssistant.Library.Dict
import LeadAssistant.Library.Masking
import Mathlib.Data.List.Dedup

namespace LeadAssistant

/-- A value in a log record. The literal of a scalar is what JSON writes for it. -/
inductive LogValue where
  | none
  | scalar (literal : String)
  | text (value : String)
  | secret
  | mapping (entries : List (String × LogValue))
  | sequence (items : List LogValue)
  | path (value : String)
  | object (rendered : String)

/-- A JSON value as `json.dumps` writes it. -/
inductive JsonText where
  | literal (value : String)
  | string (value : String)
  | array (items : List JsonText)
  | object (fields : List (String × JsonText))

namespace JsonText

mutual

/-- The strings inside a JSON value, with the names of its fields. -/
def strings : JsonText → List String
  | literal _ => []
  | string value => [value]
  | array items => itemStrings items
  | object fields => fieldStrings fields

def itemStrings : List JsonText → List String
  | [] => []
  | item :: items => item.strings ++ itemStrings items

def fieldStrings : List (String × JsonText) → List String
  | [] => []
  | (name, value) :: fields => name :: value.strings ++ fieldStrings fields

end

theorem forall_mem_fieldStrings {p : String → Prop} {fields : List (String × JsonText)} :
    (∀ t ∈ fieldStrings fields, p t) ↔
      ∀ field ∈ fields, p field.1 ∧ ∀ t ∈ field.2.strings, p t := by
  induction fields with
  | nil => simp [fieldStrings]
  | cons field fields ih =>
      rw [fieldStrings, List.cons_append, List.forall_mem_cons, List.forall_mem_append,
        List.forall_mem_cons, ih, and_assoc]

end JsonText

/-- What the formatter reads of a `LogRecord`. The attributes are those of its `__dict__`, in
order; an exception may come without its type. -/
structure LogRecord where
  created : String
  levelname : String
  name : String
  attributes : List (String × LogValue) := []
  excInfo : Option (Option String) := none

/-- `_SENSITIVE_FIELDS`. -/
def SENSITIVE_FIELDS : List String :=
  ["api_hash", "api_key", "api_prompt", "answer", "bot_token", "database_url", "draft_text", "draft",
    "final_answer", "final_text", "message_text", "mtproto_session", "openai_api_key",
    "operator_bot_token", "original_text", "phone", "phone_number", "prompt", "raw_text",
    "reply_text", "session", "session_data", "telegram_api_hash", "telegram_session",
    "telegram_session_path", "text", "translated_text", "translation"]

/-- `_SENSITIVE_FIELD_PARTS`. -/
def SENSITIVE_FIELD_PARTS : List String :=
  ["answer", "body", "content", "draft", "hash", "key", "message", "phone", "prompt", "secret",
    "session", "text", "token", "translation"]

/-- `_STANDARD_LOG_RECORD_FIELDS`. -/
def STANDARD_LOG_RECORD_FIELDS : List String :=
  ["name", "msg", "args", "levelname", "levelno", "pathname", "filename", "module", "exc_info",
    "exc_text", "stack_info", "lineno", "funcName", "created", "msecs", "relativeCreated", "thread",
    "threadName", "processName", "process", "taskName", "asctime", "message"]

/-- `_REDACTED`. -/
def REDACTED : String := "[REDACTED]"

/-- The formatter of one service. A set of secrets has no empty one. -/
structure JsonFormatter where
  service : String
  secretValues : List String
  lower : String → String
  nonempty : ∀ secret ∈ secretValues, secret ≠ ""

/-- A setting of the application; only a `SecretStr` has a secret value. -/
inductive SettingValue where
  | secret (value : String)
  | plain

/-- `_configured_secret_values`, as a list in some order. -/
def configuredSecretValues (settings : List SettingValue) : List String :=
  (settings.filterMap (fun setting =>
    match setting with
    | .secret value => if value ≠ "" then some value else none
    | .plain => none)).dedup

theorem configuredSecretValues_nonempty {settings : List SettingValue} :
    ∀ secret ∈ configuredSecretValues settings, secret ≠ "" := by
  intro secret held
  rcases List.mem_filterMap.1 (List.mem_dedup.1 held) with ⟨setting, _, same⟩
  split at same
  · split at same
    · rename_i value
      cases same
      exact value
    · cases same
  · cases same

/-- The formatter that `configure_logging` installs. -/
def configureLogging (service : String) (settings : List SettingValue) (lower : String → String) :
    JsonFormatter :=
  ⟨service, configuredSecretValues settings, lower, configuredSecretValues_nonempty⟩

namespace JsonFormatter

/-- `value.replace(old, new)`, for a text `old` that is not empty. -/
def replace (value old new : String) : String :=
  String.ofList (Masking.replaceAll old.toList new.toList value.toList)

/-- `re.sub(r"(?<=[a-z0-9])(?=[A-Z])", "_", key)`. -/
def splitWords : List Char → List Char
  | c :: d :: rest =>
      if (c.isLower || c.isDigit) && d.isUpper then c :: '_' :: splitWords (d :: rest)
      else c :: splitWords (d :: rest)
  | short => short

variable (formatter : JsonFormatter)

/-- The masked form of a string. -/
def masked (value : String) : String :=
  formatter.secretValues.foldl (fun sanitized secret => replace sanitized secret REDACTED) value

/-- The normalized form of a field name. -/
def normalizedKey (key : String) : String :=
  replace (formatter.lower (String.ofList (splitWords key.toList))) "-" "_"

/-- The parts of a normalized name, between its underscores. -/
def keyParts (normalizedKey : String) : List String :=
  (normalizedKey.toList.splitOn '_').map String.ofList

/-- A field whose value is not written. -/
def sensitive (key : String) : Bool :=
  let normalized := formatter.normalizedKey key
  let parts := keyParts normalized
  if "_id".toList <:+ normalized.toList ∧ "session" ∉ parts then false
  else SENSITIVE_FIELDS.contains normalized ||
    parts.any (fun part => SENSITIVE_FIELD_PARTS.contains part)

mutual

/-- `_sanitize_value`. An object that is returned unchanged is written by `str`. -/
def sanitizeValue : LogValue → JsonText
  | .none => .literal "null"
  | .scalar literal => .literal literal
  | .text value => .string (formatter.masked value)
  | .secret => .string REDACTED
  | .mapping entries => .object (Dict.ofPairs (sanitizeEntries entries))
  | .sequence items => .array (sanitizeItems items)
  | .path value => .string value
  | .object rendered => .string rendered

def sanitizeItems : List LogValue → List JsonText
  | [] => []
  | item :: items => sanitizeValue item :: sanitizeItems items

def sanitizeEntries : List (String × LogValue) → List (String × JsonText)
  | [] => []
  | (key, value) :: entries =>
      (key, if formatter.sensitive key then .string REDACTED else sanitizeValue value) ::
        sanitizeEntries entries

end

/-- `_sanitize_field`, which `sanitizeEntries` repeats for every entry of a mapping. -/
def sanitizeField (key : String) (value : LogValue) : JsonText :=
  if formatter.sensitive key then .string REDACTED else formatter.sanitizeValue value

theorem sanitizeEntries_eq {entries : List (String × LogValue)} : formatter.sanitizeEntries entries =
    entries.map (fun entry => (entry.1, formatter.sanitizeField entry.1 entry.2)) := by
  induction entries with
  | nil => rfl
  | cons entry entries ih =>
      rw [sanitizeEntries, List.map_cons, ih]
      rfl

/-- `getattr(record, "event", None)`. -/
def structuredEvent (record : LogRecord) : LogValue :=
  (record.attributes.lookup "event").getD .none

/-- A record without an event, whose logger is named instead. -/
def unstructured (record : LogRecord) : Bool :=
  match structuredEvent record with
  | .none => true
  | _ => false

/-- The name of the event of a record. -/
def eventOf (record : LogRecord) : String :=
  match structuredEvent record with
  | .text event => event
  | _ => "unstructured_log"

/-- The attributes that are written. -/
def extras (record : LogRecord) : List (String × LogValue) :=
  record.attributes.filter (fun field =>
    !STANDARD_LOG_RECORD_FIELDS.contains field.1 && field.1 ≠ "event")

/-- The assignments to the payload. -/
def assignments (correlationId : Option String) (record : LogRecord) : List (String × JsonText) :=
  [("timestamp", .string record.created), ("level", .string record.levelname),
    ("service", .string formatter.service),
    ("event", formatter.sanitizeValue (.text (eventOf record))),
    ("correlation_id", match correlationId with
      | none => .literal "null"
      | some id => .string id)] ++
  (if unstructured record then [("logger", .string record.name)] else []) ++
  (extras record).map (fun field => (field.1, formatter.sanitizeField field.1 field.2)) ++
  record.excInfo.toList.map (fun exceptionType =>
    ("exception_type", .string (exceptionType.getD "UnknownException")))

/-- `format`: the JSON object of one record. -/
def format (correlationId : Option String) (record : LogRecord) : JsonText :=
  .object (Dict.ofPairs (formatter.assignments correlationId record))

/-! ### The texts that are written -/

/-- A text that reaches the line, masked or as it is. -/
structure Leaf where
  masked : Bool
  text : String
deriving DecidableEq

/-- The written form of a leaf. -/
def Leaf.written (leaf : Leaf) : String :=
  if leaf.masked then formatter.masked leaf.text else leaf.text

mutual

/-- The texts of a value that reach the line. An entry of a mapping whose key comes again does
not. -/
def leavesOf : LogValue → List Leaf
  | .none | .scalar _ | .secret => []
  | .text value => [⟨true, value⟩]
  | .mapping entries => entryLeaves entries
  | .sequence items => itemLeaves items
  | .path value => [⟨false, value⟩]
  | .object rendered => [⟨false, rendered⟩]

def itemLeaves : List LogValue → List Leaf
  | [] => []
  | item :: items => leavesOf item ++ itemLeaves items

def entryLeaves : List (String × LogValue) → List Leaf
  | [] => []
  | (key, value) :: entries =>
      if entries.any (fun later => later.1 = key) then entryLeaves entries
      else ⟨false, key⟩ :: (if formatter.sensitive key then [] else leavesOf value) ++
        entryLeaves entries

end

end JsonFormatter

end LeadAssistant
