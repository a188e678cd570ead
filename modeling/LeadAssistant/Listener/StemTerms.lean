/-
Module: LeadAssistant.Listener.StemTerms
Layer: Listener
Purpose: `_compile_stem_terms` (`prefilter.py`), which makes one pattern of a list of terms, and what
  a search with it finds. A term is found where consecutive words and gaps of the text agree with the
  words and gaps of the term: every word of the text begins with the term's word, and a space of the
  term stands for any whitespace.
Trusted boundary: human-reviewed spec
Main exports: StemTerms.compileStemTerms, StemTerms.Fits, StemTerms.Closed,
  StemTerms.search_compileStemTerms, StemTerms.search_parted
-/
import LeadAssistant.Library.Pattern
import LeadAssistant.Library.Runs
import LeadAssistant.Listener.IgnoredNoise

namespace LeadAssistant

open Runs

namespace StemTerms

section Model

variable (u : UnicodeData)

/-- `part.isalnum() or part == "_"`. -/
def inflects (part : List Char) : Bool := (!part.isEmpty && part.all u.isalnum) || part = ['_']

/-- `re.escape` of a character, where the space becomes `\s+`. -/
def escaped (c : Char) : Pattern Char :=
  if c = ' ' then .plus (.one u.isspace) else .one (fun d => d = c)

/-- One part of a term; a word is followed by `\w*`. -/
def partPattern (part : List Char) : Pattern Char :=
  if inflects u part then .seq (.all (part.map (escaped u))) (.star (.one u.isWordChar))
  else .all (part.map (escaped u))

/-- The parts of `re.split(r"(\w+)", term)` that are not empty are the runs of the term. -/
def termPattern (term : String) : Pattern Char :=
  .all ((runs u.isWordChar term.toList).map (partPattern u))

/-- `_compile_stem_terms`. For no terms at all it is found at every word boundary. -/
def compileStemTerms (terms : List String) : Pattern Char :=
  .bounded u.isWordChar (.choice (terms.map (termPattern u)))

end Model

/-! ### What a term reads -/

/-- The text spells a part of a term, with whitespace for every space. -/
inductive Spelled (u : UnicodeData) : List Char → List Char → Prop where
  | nil : Spelled u [] []
  | space {blank part run : List Char} (some_space : blank ≠ [])
      (spaces : ∀ c ∈ blank, u.isspace c = true) (rest : Spelled u part run) :
      Spelled u (' ' :: part) (blank ++ run)
  | char {c : Char} {part run : List Char} (dark : c ≠ ' ') (rest : Spelled u part run) :
      Spelled u (c :: part) (c :: run)

/-- A run of a text agrees with a part of a term. -/
def Fits (u : UnicodeData) (part run : List Char) : Prop :=
  if inflects u part then part <+: run else Spelled u part run

/-- A term that begins and ends with a character of words. -/
def Closed (u : UnicodeData) (term : String) : Prop :=
  term.toList.head?.any u.isWordChar = true ∧ term.toList.getLast?.any u.isWordChar = true

instance decidableClosed (u : UnicodeData) (term : String) : Decidable (Closed u term) :=
  inferInstanceAs (Decidable (_ ∧ _))

/-- What the pattern of a character reads. -/
def spellings (u : UnicodeData) (c : Char) : Language Char :=
  if c = ' ' then Pattern.single u.isspace * Pattern.chars u.isspace
  else Pattern.single (fun d => d = c)

/-- What the pattern of a part reads. -/
def readings (u : UnicodeData) (part : List Char) : Language Char :=
  if inflects u part then (part.map (spellings u)).prod * Pattern.chars u.isWordChar
  else (part.map (spellings u)).prod

variable {u : UnicodeData} {part run text : List Char} {terms : List String} {term : String}

theorem takes_escaped (c : Char) : Pattern.Takes (escaped u c) (spellings u c) := by
  unfold escaped spellings
  split
  · exact Pattern.takes_seq (Pattern.takes_one _) (Pattern.takes_star_one _)
  · exact Pattern.takes_one _

theorem takes_partPattern (part : List Char) :
    Pattern.Takes (partPattern u part) (readings u part) := by
  unfold partPattern readings
  split
  · exact Pattern.takes_seq (Pattern.takes_all takes_escaped part) (Pattern.takes_star_one _)
  · exact Pattern.takes_all takes_escaped part

theorem takes_termPattern (term : String) : Pattern.Takes (termPattern u term)
    ((runs u.isWordChar term.toList).map (readings u)).prod :=
  Pattern.takes_all takes_partPattern _

theorem mem_spellings : text ∈ (part.map (spellings u)).prod ↔ Spelled u part text := by
  induction part generalizing text with
  | nil =>
      constructor
      · rintro rfl
        exact .nil
      · rintro ⟨⟩
        exact Language.nil_mem_one
  | cons c part ih =>
      rw [List.map_cons, List.prod_cons, Language.mem_mul]
      constructor
      · rintro ⟨front, here, back, behind, rfl⟩
        by_cases space : c = ' '
        · rw [spellings, if_pos space] at here
          obtain ⟨_, ⟨d, first, rfl⟩, blank, spaces, rfl⟩ := Language.mem_mul.1 here
          subst space
          refine .space (List.cons_ne_nil d blank) (fun e there => ?_) (ih.1 behind)
          rcases List.mem_cons.1 there with rfl | there
          · exact first
          · exact spaces e there
        · rw [spellings, if_neg space] at here
          obtain ⟨d, same, rfl⟩ := here
          rw [decide_eq_true_eq] at same
          subst same
          exact .char space (ih.1 behind)
      · intro spelled
        cases spelled with
        | @space blank _ run some_space spaces rest =>
            obtain ⟨d, blank, rfl⟩ := List.exists_cons_of_ne_nil some_space
            refine ⟨d :: blank, ?_, run, ih.2 rest, rfl⟩
            rw [spellings, if_pos rfl]
            exact Language.mem_mul.2 ⟨[d], ⟨d, spaces d List.mem_cons_self, rfl⟩, blank,
              fun e there => spaces e (List.mem_cons_of_mem d there), rfl⟩
        | @char _ _ run dark rest =>
            refine ⟨[c], ?_, run, ih.2 rest, rfl⟩
            rw [spellings, if_neg dark]
            exact ⟨c, decide_eq_true rfl, rfl⟩

/-- A part without a space is spelled as it is. -/
theorem Spelled.eq (spelled : Spelled u part run) (dark : ' ' ∉ part) : run = part := by
  induction spelled with
  | nil => rfl
  | space _ _ _ _ => exact absurd List.mem_cons_self dark
  | char _ _ ih => rw [ih fun there => dark (List.mem_cons_of_mem _ there)]

theorem Spelled.refl (dark : ' ' ∉ part) : Spelled u part part := by
  induction part with
  | nil => exact .nil
  | cons c part ih =>
      rw [List.mem_cons, not_or] at dark
      exact .char (fun same => dark.1 same.symm) (ih dark.2)

theorem Spelled.ne_nil (spelled : Spelled u part run) (some_char : part ≠ []) : run ≠ [] := by
  cases spelled with
  | nil => exact absurd rfl some_char
  | space some_space _ _ => exact List.append_ne_nil_of_left_ne_nil some_space _
  | char _ _ => exact List.cons_ne_nil _ _

/-- A character of a spelling is whitespace or a character of the part. -/
theorem Spelled.mem (spelled : Spelled u part run) {c : Char} (there : c ∈ run) :
    c ∈ part ∨ (' ' ∈ part ∧ u.isspace c = true) := by
  induction spelled with
  | nil => exact absurd there List.not_mem_nil
  | space _ spaces _ ih =>
      rcases List.mem_append.1 there with blank | behind
      · exact Or.inr ⟨List.mem_cons_self, spaces c blank⟩
      · exact (ih behind).imp (List.mem_cons_of_mem _) (And.imp_left (List.mem_cons_of_mem _))
  | char _ _ ih =>
      rcases List.mem_cons.1 there with rfl | behind
      · exact Or.inl List.mem_cons_self
      · exact (ih behind).imp (List.mem_cons_of_mem _) (And.imp_left (List.mem_cons_of_mem _))

/-- A character of a reading is one of the part, of whitespace or of words. -/
theorem mem_of_readings (inside : run ∈ readings u part) {c : Char} (there : c ∈ run) :
    c ∈ part ∨ u.isspace c = true ∨ u.isWordChar c = true := by
  unfold readings at inside
  split at inside
  · obtain ⟨front, spelled, suffix, letters, rfl⟩ := Language.mem_mul.1 inside
    rcases List.mem_append.1 there with here | behind
    · exact ((mem_spellings.1 spelled).mem here).imp_right fun space => Or.inl space.2
    · exact Or.inr (Or.inr (letters c behind))
  · exact ((mem_spellings.1 inside).mem there).imp_right fun space => Or.inl space.2

section Lawful

variable (lawful : u.Lawful)
include lawful

/-- A word has no space in it. -/
theorem space_notMem (inflected : inflects u part = true) : ' ' ∉ part := by
  intro there
  have alnum := lawful.alnum_ascii ' ' (by decide)
  unfold inflects at inflected
  rcases Bool.or_eq_true_iff.1 inflected with letters | underscore
  · have each := List.all_eq_true.1 (Bool.and_eq_true_iff.1 letters).2 ' ' there
    rw [alnum] at each
    exact absurd each (by decide)
  · rw [of_decide_eq_true underscore] at there
    exact absurd there (by decide)

omit lawful in
theorem isWordChar_of_inflects (inflected : inflects u part = true) :
    part ≠ [] ∧ ∀ c ∈ part, u.isWordChar c = true := by
  unfold inflects at inflected
  rcases Bool.or_eq_true_iff.1 inflected with letters | underscore
  · obtain ⟨some_char, each⟩ := Bool.and_eq_true_iff.1 letters
    refine ⟨by simpa using some_char, fun c there => ?_⟩
    exact Bool.or_eq_true_iff.2 (Or.inl (List.all_eq_true.1 each c there))
  · rw [of_decide_eq_true underscore]
    exact ⟨by decide, by simp [UnicodeData.isWordChar]⟩

/-- What a run of a term reads is of its kind and fits it. -/
theorem alike_of_readings (listed : part ∈ runs u.isWordChar term.toList)
    (inside : run ∈ readings u part) : Alike u.isWordChar part run ∧ Fits u part run := by
  have some_char := ne_nil_of_mem listed
  have uniform := uniform_of_mem listed
  unfold readings at inside
  unfold Fits
  by_cases inflected : inflects u part = true
  · rw [if_pos inflected] at inside ⊢
    obtain ⟨front, spelled, suffix, letters, rfl⟩ := Language.mem_mul.1 inside
    obtain rfl := (mem_spellings.1 spelled).eq (space_notMem lawful inflected)
    refine ⟨⟨List.append_ne_nil_of_left_ne_nil some_char _, fun c here d there => ?_⟩,
      List.prefix_append front suffix⟩
    rcases List.mem_append.1 there with there | behind
    · exact uniform c here d there
    · rw [(isWordChar_of_inflects inflected).2 c here, letters d behind]
  · rw [if_neg inflected] at inside ⊢
    have spelled := mem_spellings.1 inside
    refine ⟨⟨spelled.ne_nil some_char, fun c here d there => ?_⟩, spelled⟩
    rcases spelled.mem there with same | ⟨space, blank⟩
    · exact uniform c here d same
    · have gap := lawful.isWordChar_of_isspace lawful.isspace_blank
      rw [uniform c here ' ' space, gap, lawful.isWordChar_of_isspace blank]

/-- A run of a text that fits a run of a term is read by it. -/
theorem readings_of_fits (uniform : ∀ c ∈ run, ∀ d ∈ run, u.isWordChar c = u.isWordChar d)
    (fits : Fits u part run) : run ∈ readings u part := by
  unfold Fits at fits
  unfold readings
  by_cases inflected : inflects u part = true
  · rw [if_pos inflected] at fits ⊢
    obtain ⟨suffix, rfl⟩ := fits
    obtain ⟨some_char, letters⟩ := isWordChar_of_inflects inflected
    obtain ⟨c, here⟩ := List.exists_mem_of_ne_nil part some_char
    refine Language.mem_mul.2 ⟨part, ?_, suffix, fun d there => ?_, rfl⟩
    · exact mem_spellings.2 (.refl (space_notMem lawful inflected))
    · rw [← uniform c (List.mem_append_left suffix here) d (List.mem_append_right part there)]
      exact letters c here
  · rw [if_neg inflected] at fits ⊢
    exact mem_spellings.2 fits

end Lawful

/-! ### What a search finds -/

theorem search_iff_reading (some_term : terms ≠ []) : (compileStemTerms u terms).search text = true ↔
    ∃ before taken after, text = before ++ (taken ++ after) ∧
      (∃ term ∈ terms, ∃ found, List.Forall₂ (fun part run => run ∈ readings u part)
        (runs u.isWordChar term.toList) found ∧ found.flatten = taken) ∧
      Pattern.Border u.isWordChar before (taken ++ after) ∧
      Pattern.Border u.isWordChar (before ++ taken) after := by
  unfold compileStemTerms
  rw [Pattern.search_bounded (Pattern.takes_choice takes_termPattern some_term)]
  simp only [← Pattern.mem_prod]
  rfl

/-- At a word the border is where the kind changes. -/
theorem border_iff_apart {before taken after : List Char}
    (first : taken.head?.map u.isWordChar = some true)
    (last : taken.getLast?.map u.isWordChar = some true) :
    (Pattern.Border u.isWordChar before (taken ++ after) ↔
        Apart u.isWordChar before (taken ++ after)) ∧
      (Pattern.Border u.isWordChar (before ++ taken) after ↔
        Apart u.isWordChar (before ++ taken) after) := by
  obtain ⟨c, here, letter⟩ := Option.map_eq_some_iff.1 first
  obtain ⟨d, there, letter'⟩ := Option.map_eq_some_iff.1 last
  unfold Pattern.Border Apart
  rw [List.head?_append, here, List.getLast?_append, there]
  constructor
  · cases before.getLast? <;> simp [letter]
  · cases after.head? <;> simp [letter']

/-- A search finds a term exactly where consecutive runs of the text fit the runs of the term. -/
theorem search_compileStemTerms (lawful : u.Lawful) (some_term : terms ≠ [])
    (closed : ∀ term ∈ terms, Closed u term) : (compileStemTerms u terms).search text = true ↔
      ∃ term ∈ terms, ∃ found, found <:+: runs u.isWordChar text ∧
        List.Forall₂ (Fits u) (runs u.isWordChar term.toList) found := by
  rw [search_iff_reading some_term]
  -- the ends of what is found are the ends of the term
  have edges : ∀ {term found}, term ∈ terms →
      List.Forall₂ (Alike u.isWordChar) (runs u.isWordChar term.toList) found →
      found.flatten.head?.map u.isWordChar = some true ∧
        found.flatten.getLast?.map u.isWordChar = some true := by
    intro term found listed alike
    have ends := ends_of_alike alike fun part => ne_nil_of_mem
    rw [flatten_runs] at ends
    obtain ⟨first, last⟩ := closed term listed
    rw [ends.1, ends.2]
    constructor
    · cases here : term.toList.head? <;> simp_all
    · cases here : term.toList.getLast? <;> simp_all
  constructor
  · rintro ⟨before, _, after, rfl, ⟨term, listed, found, read, rfl⟩, opens, closes⟩
    have kinds : List.Forall₂ (Alike u.isWordChar) (runs u.isWordChar term.toList) found :=
      forall₂_of_mem read fun _ there _ _ inside => (alike_of_readings lawful there inside).1
    have fits : List.Forall₂ (Fits u) (runs u.isWordChar term.toList) found :=
      forall₂_of_mem read fun _ there _ _ inside => (alike_of_readings lawful there inside).2
    obtain ⟨first, last⟩ := edges listed kinds
    obtain ⟨front, back⟩ := @border_iff_apart u before _ after first last
    refine ⟨term, listed, found, ?_, fits⟩
    exact infix_runs.2 ⟨before, after, rfl, runs_of_alike kinds, front.1 opens, back.1 closes⟩
  · rintro ⟨term, listed, found, within, fits⟩
    have read : List.Forall₂ (fun part run => run ∈ readings u part)
        (runs u.isWordChar term.toList) found :=
      forall₂_of_mem fits fun _ _ _ there fit =>
        readings_of_fits lawful (uniform_of_mem (within.subset there)) fit
    have kinds : List.Forall₂ (Alike u.isWordChar) (runs u.isWordChar term.toList) found :=
      forall₂_of_mem read fun _ there _ _ inside => (alike_of_readings lawful there inside).1
    obtain ⟨first, last⟩ := edges listed kinds
    obtain ⟨before, after, rfl, _, opens, closes⟩ := infix_runs.1 within
    obtain ⟨front, back⟩ := @border_iff_apart u before _ after first last
    exact ⟨before, _, after, rfl, ⟨term, listed, found, read, rfl⟩, front.2 opens, back.2 closes⟩

/-- Where a search finds something it finds a character. -/
theorem search_nil (some_term : terms ≠ []) : (compileStemTerms u terms).search [] = false := by
  rw [Bool.eq_false_iff]
  intro found
  obtain ⟨before, taken, after, nothing, -, opens, -⟩ := (search_iff_reading some_term).1 found
  obtain ⟨rfl, rest⟩ := List.append_eq_nil_iff.1 nothing.symm
  rw [rest] at opens
  exact opens rfl

/-- A character that no word, no whitespace and no term has keeps two texts apart. -/
theorem search_append_cons {front back : List Char} {stop : Char} (some_term : terms ≠ [])
    (no_word : u.isWordChar stop = false) (no_space : u.isspace stop = false)
    (absent : ∀ term ∈ terms, stop ∉ term.toList) :
    (compileStemTerms u terms).search (front ++ stop :: back) =
      ((compileStemTerms u terms).search front || (compileStemTerms u terms).search back) := by
  apply Pattern.search_parted (Pattern.takes_choice takes_termPattern some_term) _ no_word
  rintro taken ⟨term, listed, inside⟩ there
  obtain ⟨found, read, rfl⟩ := Pattern.mem_prod.1 inside
  obtain ⟨part, run_of, run, here, within⟩ := of_mem_flatten read there
  rcases mem_of_readings here within with own | space | letter
  · apply absent term listed
    rw [← flatten_runs u.isWordChar term.toList]
    exact List.mem_flatten_of_mem run_of own
  · rw [no_space] at space
    exact Bool.false_ne_true space
  · rw [no_word] at letter
    exact Bool.false_ne_true letter

/-- Words are found by how they begin, and whitespace by any whitespace. -/
theorem search_looking : (compileStemTerms sampleUnicode ["looking for", "dev"]).search
    "still lookingly \t\n fork".toList = true := by
  rw [search_compileStemTerms sampleUnicode_lawful (List.cons_ne_nil _ _) (by decide +kernel)]
  refine ⟨"looking for", List.mem_cons_self, ["lookingly".toList, " \t\n ".toList, "fork".toList],
    ⟨["still".toList, [' ']], [], by decide +kernel⟩, ?_⟩
  have parts : runs sampleUnicode.isWordChar "looking for".toList =
      ["looking".toList, [' '], "for".toList] := by decide +kernel
  rw [parts]
  refine .cons ?_ (.cons ?_ (.cons ?_ .nil))
  · rw [Fits, if_pos (by decide +kernel)]
    exact ⟨"ly".toList, rfl⟩
  · rw [Fits, if_neg (by decide +kernel)]
    apply @Spelled.space _ " \t\n ".toList [] [] (List.cons_ne_nil _ _) _ .nil
    decide +kernel
  · rw [Fits, if_pos (by decide +kernel)]
    exact ⟨"k".toList, rfl⟩

end StemTerms

end LeadAssistant
