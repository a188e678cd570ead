/-
Module: LeadAssistant.Library.Markup
Layer: Library
Purpose: Reading marked-up text: tags in angle brackets and character entities between an ampersand
  and a semicolon. A text is readable only when every tag and every entity is whole and known and
  the tags are balanced and properly nested. Fragments that are readable on their own can be put
  together.
Trusted boundary: none
Main exports: Markup.read, Markup.Spells, Markup.Fragment, Markup.Fragment.append,
  Markup.Fragment.element, Markup.Fragment.read_eq, Markup.visible, Markup.Shows
-/
import Mathlib.Data.List.Basic

namespace Markup

/-- The tags and the character entities that a reader knows. -/
structure Vocabulary where
  tags : List (List Char)
  entities : List (List Char × Char)

inductive Token where
  | start (name : List Char)
  | finish (name : List Char)
  | char (c : Char)
deriving Repr, DecidableEq

/-- Between the tokens, or in a tag or an entity of which a part has been read. -/
inductive Mode where
  | text
  | tag (name : List Char)
  | entity (name : List Char)

namespace Vocabulary

/-- What stands between angle brackets. -/
def tagToken (v : Vocabulary) (inner : List Char) : Option Token :=
  if inner.head? = some '/' then
    if inner.tail ∈ v.tags then some (.finish inner.tail) else none
  else if inner ∈ v.tags then some (.start inner) else none

/-- The tokens of a text, which ends between two of them. -/
def lexFrom (v : Vocabulary) : Mode → List Char → Option (List Token)
  | .text, [] => some []
  | .tag _, [] => none
  | .entity _, [] => none
  | .text, c :: rest =>
      if c = '<' then v.lexFrom (.tag []) rest
      else if c = '&' then v.lexFrom (.entity []) rest
      else if c = '>' then none
      else (v.lexFrom .text rest).map (.char c :: ·)
  | .tag name, c :: rest =>
      if c = '>' then
        (v.tagToken name).bind (fun token => (v.lexFrom .text rest).map (token :: ·))
      else v.lexFrom (.tag (name ++ [c])) rest
  | .entity name, c :: rest =>
      if c = ';' then
        (v.entities.lookup name).bind (fun d => (v.lexFrom .text rest).map (.char d :: ·))
      else v.lexFrom (.entity (name ++ [c])) rest

end Vocabulary

/-- An element and the characters directly in it. -/
structure Element where
  name : List Char
  text : List Char
deriving Repr, DecidableEq

/-- The elements in the order in which they end, with the innermost open one first. -/
def readFrom : List Element → List Token → Option (List Element)
  | [], [] => some []
  | _ :: _, [] => none
  | unfinished, .start name :: rest => readFrom (⟨name, []⟩ :: unfinished) rest
  | [], .finish _ :: _ => none
  | top :: unfinished, .finish name :: rest =>
      if top.name = name then (readFrom unfinished rest).map (top :: ·) else none
  | [], .char _ :: rest => readFrom [] rest
  | top :: unfinished, .char c :: rest =>
      readFrom ({ top with text := top.text ++ [c] } :: unfinished) rest

/-- The elements of a text, unless it is malformed. -/
def read (v : Vocabulary) (text : List Char) : Option (List Element) :=
  (v.lexFrom .text text).bind (readFrom [])

variable {v : Vocabulary} {a b text : List Char} {ts us : List Token} {es fs : List Element}
  {c : Char}

/-! ### Texts that spell whole tokens -/

/-- A text that is read as these tokens, whatever comes after it. -/
def Spells (v : Vocabulary) (text : List Char) (tokens : List Token) : Prop :=
  ∀ rest, v.lexFrom .text (text ++ rest) = (v.lexFrom .text rest).map (tokens ++ ·)

namespace Spells

theorem nil : Spells v [] [] := by
  intro rest
  simp

theorem append (first : Spells v a ts) (second : Spells v b us) :
    Spells v (a ++ b) (ts ++ us) := by
  intro rest
  rw [List.append_assoc, first, second, Option.map_map]
  congr 1
  funext tokens
  simp

/-- A character that is not special stands for itself. -/
theorem char (left : c ≠ '<') (amp : c ≠ '&') (right : c ≠ '>') : Spells v [c] [.char c] := by
  intro rest
  simp [Vocabulary.lexFrom, left, amp, right]

theorem lexFrom_tag {name inner rest : List Char} (whole : '>' ∉ inner) :
    v.lexFrom (.tag name) (inner ++ '>' :: rest) =
      (v.tagToken (name ++ inner)).bind
        (fun token => (v.lexFrom .text rest).map (token :: ·)) := by
  induction inner generalizing name with
  | nil => simp [Vocabulary.lexFrom]
  | cons c inner ih =>
      have other : c ≠ '>' := fun own => whole (own ▸ List.mem_cons_self)
      have shorter := @ih (name ++ [c]) (fun inside => whole (List.mem_cons_of_mem _ inside))
      simpa [Vocabulary.lexFrom, other] using shorter

theorem lexFrom_entity {name inner rest : List Char} (whole : ';' ∉ inner) :
    v.lexFrom (.entity name) (inner ++ ';' :: rest) =
      (v.entities.lookup (name ++ inner)).bind
        (fun d => (v.lexFrom .text rest).map (.char d :: ·)) := by
  induction inner generalizing name with
  | nil => simp [Vocabulary.lexFrom]
  | cons c inner ih =>
      have other : c ≠ ';' := fun own => whole (own ▸ List.mem_cons_self)
      have shorter := @ih (name ++ [c]) (fun inside => whole (List.mem_cons_of_mem _ inside))
      simpa [Vocabulary.lexFrom, other] using shorter

/-- A known tag. -/
theorem tag {inner : List Char} {token : Token} (whole : '>' ∉ inner)
    (known : v.tagToken inner = some token) : Spells v ('<' :: inner ++ ['>']) [token] := by
  intro rest
  have lexed : v.lexFrom (.tag []) (inner ++ '>' :: rest) =
      (v.lexFrom .text rest).map (token :: ·) := by
    rw [lexFrom_tag whole, List.nil_append, known]
    rfl
  simpa [Vocabulary.lexFrom] using lexed

/-- A known entity stands for its character. -/
theorem entity {inner : List Char} (whole : ';' ∉ inner)
    (known : v.entities.lookup inner = some c) : Spells v ('&' :: inner ++ [';']) [.char c] := by
  intro rest
  have lexed : v.lexFrom (.entity []) (inner ++ ';' :: rest) =
      (v.lexFrom .text rest).map (.char c :: ·) := by
    rw [lexFrom_entity whole, List.nil_append, known]
    rfl
  simpa [Vocabulary.lexFrom] using lexed

/-- An element around a text. -/
theorem element {name : List Char} (known : name ∈ v.tags) (opening : name.head? ≠ some '/')
    (whole : '>' ∉ name) (spelled : Spells v text ts) :
    Spells v ('<' :: name ++ ['>'] ++ text ++ ('<' :: '/' :: name ++ ['>']))
      ([.start name] ++ ts ++ [.finish name]) := by
  have starts : v.tagToken name = some (.start name) := by
    rw [Vocabulary.tagToken, if_neg opening, if_pos known]
  have ends : v.tagToken ('/' :: name) = some (.finish name) := by
    rw [Vocabulary.tagToken, if_pos List.head?_cons, List.tail_cons, if_pos known]
  have whole' : '>' ∉ '/' :: name := by
    intro held
    rcases List.mem_cons.mp held with slash | inside
    · exact absurd slash (by decide)
    · exact whole inside
  exact ((tag whole starts).append spelled).append (tag whole' ends)

/-- A text without special characters stands for itself. -/
theorem plain (no_left : '<' ∉ text) (no_amp : '&' ∉ text) (no_right : '>' ∉ text) :
    Spells v text (text.map .char) := by
  induction text with
  | nil => exact nil
  | cons c text ih =>
      have rest := ih (fun held => no_left (List.mem_cons_of_mem _ held))
        (fun held => no_amp (List.mem_cons_of_mem _ held))
        (fun held => no_right (List.mem_cons_of_mem _ held))
      have first : Spells v [c] [.char c] :=
        char (fun own => no_left (own ▸ List.mem_cons_self))
          (fun own => no_amp (own ▸ List.mem_cons_self))
          (fun own => no_right (own ▸ List.mem_cons_self))
      exact first.append rest

/-- Characters that are spelled one by one. -/
theorem flatMap {spell : Char → List Char} (each : ∀ c, Spells v (spell c) [.char c]) :
    Spells v (text.flatMap spell) (text.map .char) := by
  induction text with
  | nil => exact nil
  | cons c text ih => exact (each c).append ih

end Spells

/-! ### Fragments -/

/-- A text that is readable on its own, and has these elements wherever it stands outside of every
element. -/
def Fragment (v : Vocabulary) (text : List Char) (elements : List Element) : Prop :=
  ∃ tokens, Spells v text tokens ∧
    ∀ rest, readFrom [] (tokens ++ rest) = (readFrom [] rest).map (elements ++ ·)

namespace Fragment

theorem nil : Fragment v [] [] := ⟨[], Spells.nil, by simp⟩

theorem append (first : Fragment v a es) (second : Fragment v b fs) :
    Fragment v (a ++ b) (es ++ fs) := by
  obtain ⟨ts, spelled, found⟩ := first
  obtain ⟨us, spelled', found'⟩ := second
  refine ⟨ts ++ us, spelled.append spelled', ?_⟩
  intro rest
  rw [List.append_assoc, found, found', Option.map_map]
  congr 1
  funext elements
  simp

theorem readFrom_nil_chars {cs : List Char} {rest : List Token} :
    readFrom [] (cs.map .char ++ rest) = readFrom [] rest := by
  induction cs with
  | nil => rfl
  | cons c cs ih => exact ih

/-- Characters outside of every element. -/
theorem chars {cs : List Char} (spelled : Spells v text (cs.map .char)) : Fragment v text [] := by
  refine ⟨cs.map .char, spelled, ?_⟩
  intro rest
  rw [readFrom_nil_chars]
  simp

theorem readFrom_chars {name seen cs : List Char} {open_elements : List Element}
    {rest : List Token} :
    readFrom (⟨name, seen⟩ :: open_elements) (cs.map .char ++ rest) =
      readFrom (⟨name, seen ++ cs⟩ :: open_elements) rest := by
  induction cs generalizing seen with
  | nil => simp
  | cons c cs ih =>
      rw [List.map_cons, List.cons_append, readFrom, ih]
      simp

/-- An element with characters in it. -/
theorem element {name cs : List Char} (known : name ∈ v.tags) (opening : name.head? ≠ some '/')
    (whole : '>' ∉ name) (spelled : Spells v text (cs.map .char)) :
    Fragment v ('<' :: name ++ ['>'] ++ text ++ ('<' :: '/' :: name ++ ['>'])) [⟨name, cs⟩] := by
  refine ⟨_, Spells.element known opening whole spelled, ?_⟩
  intro rest
  rw [List.append_assoc, List.append_assoc, List.singleton_append, readFrom, readFrom_chars,
    List.singleton_append, readFrom, if_pos rfl]
  rfl

theorem read_eq (fragment : Fragment v text es) : read v text = some es := by
  obtain ⟨tokens, spelled, found⟩ := fragment
  have lexed := spelled []
  have elements := found []
  rw [List.append_nil] at lexed elements
  rw [read, lexed]
  simpa [Vocabulary.lexFrom, readFrom] using elements

end Fragment

/-! ### What a reader shows -/

/-- The character of a token. -/
def Token.shown? : Token → Option Char
  | .char c => some c
  | .start _ | .finish _ => none

/-- A text without its tags, its entities replaced by their characters. -/
def visible (v : Vocabulary) (text : List Char) : Option (List Char) :=
  (v.lexFrom .text text).map (fun tokens => tokens.filterMap Token.shown?)

/-- A text that shows these characters, whatever comes after it. -/
def Shows (v : Vocabulary) (text shown : List Char) : Prop :=
  ∃ tokens, Spells v text tokens ∧ tokens.filterMap Token.shown? = shown

namespace Shows

variable {shown others : List Char}

theorem append (first : Shows v a shown) (second : Shows v b others) :
    Shows v (a ++ b) (shown ++ others) := by
  rcases first with ⟨ts, spelled, rfl⟩
  rcases second with ⟨us, spelled', rfl⟩
  exact ⟨ts ++ us, spelled.append spelled', List.filterMap_append⟩

theorem chars (spelled : Spells v text (shown.map .char)) : Shows v text shown := by
  refine ⟨_, spelled, ?_⟩
  rw [List.filterMap_map]
  exact List.filterMap_some

/-- An element shows what is in it. -/
theorem element {name : List Char} (known : name ∈ v.tags) (opening : name.head? ≠ some '/')
    (whole : '>' ∉ name) (inside : Shows v text shown) :
    Shows v ('<' :: name ++ ['>'] ++ text ++ ('<' :: '/' :: name ++ ['>'])) shown := by
  rcases inside with ⟨ts, spelled, rfl⟩
  refine ⟨_, Spells.element known opening whole spelled, ?_⟩
  rw [List.filterMap_append, List.filterMap_append]
  exact List.append_nil _

theorem visible_eq (shows_text : Shows v text shown) : visible v text = some shown := by
  rcases shows_text with ⟨tokens, spelled, rfl⟩
  have lexed := spelled []
  rw [List.append_nil] at lexed
  unfold visible
  rw [lexed]
  simp [Vocabulary.lexFrom]

end Shows

end Markup
