/-
Module: LeadAssistant.Listener.Fingerprint
Layer: Listener
Purpose: `message_fingerprint` (`fingerprint.py`), which hashes the normalized text of a message:
  case folded, without URLs, without emoji and combining characters, without mentions, and with
  everything else that is not alphanumeric as a gap between words. The character data of Python and
  the hash are parameters.
Trusted boundary: human-reviewed spec
Main exports: UnicodeData, UnicodeData.Lawful, UnicodeData.scrubbed, UnicodeData.normalized,
  messageFingerprint
-/
import LeadAssistant.Library.Words
import LeadAssistant.Listener.Ingestion

namespace LeadAssistant

open Words

/-- The general categories of Unicode, as `unicodedata.category` names them. -/
inductive GeneralCategory where
  | lu | ll | lt | lm | lo
  | mn | mc | me
  | nd | nl | no
  | pc | pd | ps | pe | pi | pf | po
  | sm | sc | sk | so
  | zs | zl | zp
  | cc | cf | cs | co | cn
deriving Repr, DecidableEq

namespace GeneralCategory

def letters : List GeneralCategory := [.lu, .ll, .lt, .lm, .lo]

def marks : List GeneralCategory := [.mn, .mc, .me]

def numbers : List GeneralCategory := [.nd, .nl, .no]

/-- Punctuation, with the signs of mathematics and of currencies. -/
def punctuation : List GeneralCategory := [.pc, .pd, .ps, .pe, .pi, .pf, .po, .sm, .sc]

/-- The categories of whitespace. -/
def gaps : List GeneralCategory := [.zs, .zl, .zp, .cc]

/-- Neither whitespace nor punctuation is a part of words. -/
theorem outside : ∀ category ∈ gaps ++ punctuation,
    category ∉ letters ∧ category ∉ marks ∧ category ∉ numbers ∧ category ≠ .so := by
  decide

/-- The category of an ASCII character. -/
def ascii (c : Char) : GeneralCategory :=
  if c.isUpper then .lu
  else if c.isLower then .ll
  else if c.isDigit then .nd
  else if c.toNat < 32 ∨ c.toNat = 127 then .cc
  else if c = ' ' then .zs
  else if c = '_' then .pc
  else if c = '-' then .pd
  else if c ∈ ['(', '[', '\x7b'] then .ps
  else if c ∈ [')', ']', '\x7d'] then .pe
  else if c = '$' then .sc
  else if c ∈ ['+', '<', '=', '>', '|', '~'] then .sm
  else if c ∈ ['^', '\x60'] then .sk
  else .po

end GeneralCategory

/-- What is said of the characters of a text is decided on the text and not on all characters. -/
instance (priority := high) decidableForallMem {P : Char → Prop} [DecidablePred P]
    (text : List Char) : Decidable (∀ c ∈ text, P c) :=
  List.decidableBAll P text

/-- An ASCII character that `str.isspace` takes for whitespace. -/
def asciiSpace (c : Char) : Bool :=
  c = ' ' || (9 ≤ c.toNat && c.toNat ≤ 13) || (28 ≤ c.toNat && c.toNat ≤ 31)

/-- The one combining character that case folding turns into a letter. -/
def YPOGEGRAMMENI : Char := '\u0345'

/-- What `str.casefold`, `unicodedata.category`, `str.isalnum` and `str.isspace` say of a character.
The pattern `\s` is whitespace, and `\w` is an alphanumeric character or an underscore. -/
structure UnicodeData where
  casefold : Char → List Char
  category : Char → GeneralCategory
  isalnum : Char → Bool
  isspace : Char → Bool

namespace UnicodeData

/-- The facts of Unicode that normalization rests on. -/
structure Lawful (u : UnicodeData) : Prop where
  casefold_casefold : ∀ c, (u.casefold c).flatMap u.casefold = u.casefold c
  casefold_ne_nil : ∀ c, u.casefold c ≠ []
  casefold_ascii : ∀ c : Char, c.toNat < 128 → u.casefold c = [c.toLower]
  casefold_long_s : u.casefold 'ſ' = ['s']
  casefold_symbol : ∀ c, u.category c = .so → ∀ d ∈ u.casefold c, u.category d = .so
  casefold_mark : ∀ c, u.category c = .mn → c ≠ YPOGEGRAMMENI → u.casefold c = [c]
  casefold_alnum : ∀ c, u.isalnum c = true →
    ∀ d ∈ u.casefold c, u.isalnum d = true ∨ u.category d = .mn
  casefold_dark : ∀ c, u.isspace c = false → ∀ d ∈ u.casefold c, u.isspace d = false
  casefold_other : ∀ c, u.category c ∉ GeneralCategory.letters →
    u.category c ∉ GeneralCategory.marks → u.category c ∉ GeneralCategory.numbers →
    u.category c ≠ .so → u.casefold c = [c]
  category_ascii : ∀ c : Char, c.toNat < 128 → u.category c = .ascii c
  category_joiner : u.category '\u200d' = .cf
  category_selector : u.category '\ufe0f' = .mn
  alnum_ascii : ∀ c : Char, c.toNat < 128 → u.isalnum c = c.isAlphanum
  alnum_category : ∀ c, u.isalnum c = true →
    u.category c ∈ GeneralCategory.letters ∨ u.category c ∈ GeneralCategory.numbers
  space_ascii : ∀ c : Char, c.toNat < 128 → u.isspace c = asciiSpace c
  space_category : ∀ c, u.isspace c = true → u.category c ∈ GeneralCategory.gaps

/-! ### The passes -/

/-- `https?://` under `re.IGNORECASE`, which takes the long s for an s. -/
def URL_SCHEMES : List (List (List Char)) :=
  let http := [['h', 'H'], ['t', 'T'], ['t', 'T'], ['p', 'P']]
  let separator := [[':'], ['/'], ['/']]
  [http ++ separator, http ++ ['s', 'S', 'ſ'] :: separator]

def REMOVED_CATEGORIES : List GeneralCategory := [.so, .sk, .mn]

def REMOVED_CODEPOINTS : List Char := ['\u200d', '\ufe0f']

/-- What follows a scheme at the start of a text. -/
def afterScheme : List (List Char) → List Char → Option (List Char)
  | [], text => some text
  | _ :: _, [] => none
  | letter :: scheme, c :: text => if c ∈ letter then afterScheme scheme text else none

variable (u : UnicodeData)

/-- `text.casefold()`. -/
def folded (text : List Char) : List Char := text.flatMap u.casefold

/-- `URL_PATTERN.match`, which needs one character after the scheme that is not whitespace. -/
def startsUrl (text : List Char) : Bool :=
  URL_SCHEMES.any (fun scheme => ((afterScheme scheme text).bind List.head?).any
    (fun c => !u.isspace c))

/-- `URL_PATTERN.sub("", text)`, from the inside of a URL or from outside. A scheme has no
whitespace in it, so a URL goes on from its first character to the next whitespace. -/
def subUrls : Bool → List Char → List Char
  | _, [] => []
  | true, c :: text => if u.isspace c then c :: subUrls false text else subUrls true text
  | false, c :: text => if u.startsUrl (c :: text) then subUrls true text
      else c :: subUrls false text

/-- The characters that the filter leaves. -/
def kept (c : Char) : Bool :=
  u.category c ∉ REMOVED_CATEGORIES && c ∉ REMOVED_CODEPOINTS

/-- `\w`. -/
def isWordChar (c : Char) : Bool := u.isalnum c || c = '_'

/-- `_MENTION.sub("", text)`, from the inside of a mention or from outside. -/
def subMentions : Bool → List Char → List Char
  | _, [] => []
  | inside, c :: text =>
      if inside && u.isWordChar c then subMentions true text
      else if c = '@' && text.head?.any u.isWordChar then subMentions true text
      else c :: subMentions false text

/-- `character if character.isalnum() else " "`. -/
def spaced (c : Char) : Char := if u.isalnum c then c else ' '

/-- All that `message_fingerprint` does to a text before it splits it. -/
def scrubbed (text : List Char) : List Char :=
  (u.subMentions false ((u.subUrls false (u.folded text)).filter u.kept)).map u.spaced

/-- The string that is hashed. -/
def normalized (text : String) : String :=
  String.ofList (unwords ' ' (words u.isspace (u.scrubbed text.toList)))

end UnicodeData

/-- `message_fingerprint`. -/
def messageFingerprint (u : UnicodeData) (sha256 : String → String) (text : String) : String :=
  sha256 (u.normalized text)

namespace UnicodeData

/-! ### What a URL and a mention begin with -/

/-- A scheme is spelled in ASCII, or with the long s, which is folded into the scheme. -/
theorem letter_cases : ∀ scheme ∈ URL_SCHEMES, ∀ letter ∈ scheme, ∀ c ∈ letter,
    (c.toNat < 128 ∧ asciiSpace c = false ∧ c.toLower ∈ letter) ∨ c = 'ſ' ∧ 's' ∈ letter := by
  decide

theorem colon_mem : ∀ scheme ∈ URL_SCHEMES, [':'] ∈ scheme := by decide

variable {u : UnicodeData} {scheme : List (List Char)} {text rest before after name : List Char}
  {gap c : Char}

theorem afterScheme_append_cons (apart : ∀ letter ∈ scheme, gap ∉ letter) :
    afterScheme scheme (before ++ gap :: after) =
      (afterScheme scheme before).map (fun rest => rest ++ gap :: after) := by
  induction scheme generalizing before with
  | nil => rfl
  | cons letter scheme ih =>
      have later := fun other there => apart other (List.mem_cons_of_mem letter there)
      cases before with
      | nil => exact if_neg (apart letter List.mem_cons_self)
      | cons c before =>
          rw [List.cons_append, afterScheme, afterScheme, ih later]
          split <;> rfl

theorem afterScheme_cons_inv {letter : List Char}
    (found : afterScheme (letter :: scheme) text = some rest) :
    ∃ c behind, text = c :: behind ∧ c ∈ letter ∧ afterScheme scheme behind = some rest := by
  cases text with
  | nil => cases found
  | cons c behind =>
      unfold afterScheme at found
      split at found
      · rename_i own
        exact ⟨c, behind, rfl, own, found⟩
      · cases found

theorem mem_of_afterScheme {letter : List Char} (found : afterScheme scheme text = some rest)
    (needed : letter ∈ scheme) : ∃ c ∈ letter, c ∈ text := by
  induction scheme generalizing text with
  | nil => exact absurd needed List.not_mem_nil
  | cons first scheme ih =>
      rcases afterScheme_cons_inv found with ⟨c, behind, rfl, own, later⟩
      rcases List.mem_cons.1 needed with rfl | needed
      · exact ⟨c, own, List.mem_cons_self⟩
      · rcases ih later needed with ⟨d, listed, there⟩
        exact ⟨d, listed, List.mem_cons_of_mem c there⟩

/-- A URL has a colon. -/
theorem colon_of_startsUrl (found : u.startsUrl text = true) : ':' ∈ text := by
  unfold startsUrl at found
  rcases List.any_eq_true.1 found with ⟨scheme, listed, opened⟩
  cases matched : afterScheme scheme text with
  | none => simp [matched] at opened
  | some rest =>
      rcases mem_of_afterScheme matched (colon_mem scheme listed) with ⟨c, single, there⟩
      rw [List.mem_singleton] at single
      exact single ▸ there

theorem subUrls_of_notMem (absent : ':' ∉ text) : u.subUrls false text = text := by
  induction text with
  | nil => rfl
  | cons c text ih =>
      unfold subUrls
      rw [if_neg (fun found => absent (colon_of_startsUrl found)),
        ih (fun there => absent (List.mem_cons_of_mem c there))]

theorem subUrls_sublist {inside : Bool} : (u.subUrls inside text).Sublist text := by
  induction text generalizing inside with
  | nil => cases inside <;> exact List.Sublist.refl _
  | cons c text ih =>
      cases inside with
      | true =>
          unfold subUrls
          split
          · exact ih.cons_cons c
          · exact ih.cons c
      | false =>
          unfold subUrls
          split
          · exact ih.cons c
          · exact ih.cons_cons c

theorem subUrls_inside (dark : ∀ c ∈ text, u.isspace c = false) : u.subUrls true text = [] := by
  induction text with
  | nil => rfl
  | cons c text ih =>
      unfold subUrls
      rw [if_neg (by simp [dark c List.mem_cons_self])]
      exact ih (fun d there => dark d (List.mem_cons_of_mem c there))

/-- A URL that no whitespace ends is removed. -/
theorem subUrls_of_startsUrl (found : u.startsUrl text = true)
    (dark : ∀ c ∈ text, u.isspace c = false) : u.subUrls false text = [] := by
  cases text with
  | nil => rfl
  | cons c text =>
      unfold subUrls
      rw [if_pos found]
      exact subUrls_inside (fun d there => dark d (List.mem_cons_of_mem c there))

theorem subMentions_of_notMem (absent : '@' ∉ text) : u.subMentions false text = text := by
  induction text with
  | nil => rfl
  | cons c text ih =>
      have other : c ≠ '@' := fun same => absent (same ▸ List.mem_cons_self)
      unfold subMentions
      rw [if_neg (by simp), if_neg (by simp [other]),
        ih (fun there => absent (List.mem_cons_of_mem c there))]

theorem subMentions_sublist {inside : Bool} : (u.subMentions inside text).Sublist text := by
  induction text generalizing inside with
  | nil => cases inside <;> exact List.Sublist.refl _
  | cons c text ih =>
      unfold subMentions
      split
      · exact ih.cons c
      · split
        · exact ih.cons c
        · exact ih.cons_cons c

theorem subMentions_inside (named : ∀ c ∈ name, u.isWordChar c = true) :
    u.subMentions true name = [] := by
  induction name with
  | nil => rfl
  | cons c name ih =>
      unfold subMentions
      rw [if_pos (by simp [named c List.mem_cons_self])]
      exact ih (fun d there => named d (List.mem_cons_of_mem c there))

/-- A mention that nothing ends is removed, and a lone `@` stays. -/
theorem subMentions_mention (named : ∀ c ∈ name, u.isWordChar c = true) :
    u.subMentions false ('@' :: name) = if name = [] then ['@'] else [] := by
  cases name with
  | nil => simp [subMentions]
  | cons c name =>
      unfold subMentions
      rw [if_neg (by simp), if_pos (by simp [named c List.mem_cons_self]),
        subMentions_inside named]
      rfl

end UnicodeData

end LeadAssistant
