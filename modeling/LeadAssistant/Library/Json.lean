/-
Module: LeadAssistant.Library.Json
Layer: Library
Purpose: JSON values as a program exchanges them through a JSON column, and codecs that carry the
  proof that decoding an encoded value gives it back. A schema validator needs the fields of an
  object, and the test that an object has no other fields.
Trusted boundary: none
Main exports: Json, Json.field?, Json.onlyFields, Json.storable, Json.Codec
-/
import Mathlib.Data.List.Basic

/-- A JSON value. Numbers are the integers; object fields keep their order. -/
inductive Json where
  | null
  | bool (value : Bool)
  | number (value : Int)
  | string (value : String)
  | array (items : List Json)
  | object (fields : List (String × Json))

namespace Json

/-- The value of one field of an object. -/
def field? (name : String) : Json → Option Json
  | object fields => (fields.find? (fun field => field.1 == name)).map (fun field => field.2)
  | _ => none

/-- An object all of whose fields are listed. -/
def onlyFields (names : List String) : Json → Bool
  | object fields => fields.all (fun field => names.contains field.1)
  | _ => false

mutual

/-- No string inside the value holds the NUL character, which a JSON column cannot store. -/
def storable : Json → Bool
  | string value => !value.toList.contains '\x00'
  | array items => storableItems items
  | object fields => storableFields fields
  | _ => true

def storableItems : List Json → Bool
  | [] => true
  | item :: items => item.storable && storableItems items

def storableFields : List (String × Json) → Bool
  | [] => true
  | (_, value) :: fields => value.storable && storableFields fields

end

theorem storableItems_iff {items : List Json} :
    storableItems items = true ↔ ∀ item ∈ items, item.storable = true := by
  induction items with
  | nil => simp [storableItems]
  | cons item items ih => simp [storableItems, ih]

theorem storableFields_iff {fields : List (String × Json)} :
    storableFields fields = true ↔ ∀ field ∈ fields, field.2.storable = true := by
  induction fields with
  | nil => simp [storableFields]
  | cons field fields ih => simp [storableFields, ih]

/-- An encoding of `α` that can be read back. -/
structure Codec (α : Type) where
  encode : α → Json
  decode : Json → Option α
  decode_encode : ∀ a, decode (encode a) = some a
  notNull : ∀ a, encode a ≠ null

namespace Codec

attribute [simp] decode_encode

def int : Codec Int where
  encode := number
  decode | number value => some value | _ => none
  decode_encode _ := rfl
  notNull _ := Json.noConfusion

def text : Codec String where
  encode := string
  decode | string value => some value | _ => none
  decode_encode _ := rfl
  notNull _ := Json.noConfusion

def flag : Codec Bool where
  encode := bool
  decode | bool value => some value | _ => none
  decode_encode _ := rfl
  notNull _ := Json.noConfusion

variable {α : Type}

/-- `null` for a missing value. -/
def encodeNullable (codec : Codec α) : Option α → Json
  | none => null
  | some a => codec.encode a

def decodeNullable (codec : Codec α) : Json → Option (Option α)
  | null => some none
  | value => (codec.decode value).map some

@[simp] theorem decodeNullable_encodeNullable (codec : Codec α) (value : Option α) :
    codec.decodeNullable (codec.encodeNullable value) = some value := by
  cases value with
  | none => rfl
  | some a =>
      unfold encodeNullable decodeNullable
      dsimp only
      split
      · rename_i null
        exact absurd null (codec.notNull a)
      · simp

def list (codec : Codec α) : Codec (List α) where
  encode items := array (items.map codec.encode)
  decode | array items => items.mapM codec.decode | _ => none
  decode_encode items := by
    dsimp only
    induction items with
    | nil => rfl
    | cons item items ih => simp [List.mapM_cons, ih]
  notNull _ := Json.noConfusion

end Codec

end Json
