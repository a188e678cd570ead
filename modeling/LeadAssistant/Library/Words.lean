/-
Module: LeadAssistant.Library.Words
Layer: Library
Purpose: The words of a text, which are its parts between separators that are not empty. A pass that
  works on the parts between separators, and so does any sequence of such passes, gives the words of
  a text part by part, and a piece without words is not seen between separators.
Trusted boundary: none
Main exports: Words.words, Words.unwords, Words.words_unwords, Words.Blockwise,
  Words.Blockwise.comp, Words.Blockwise.words_append, Words.Blockwise.words_gap,
  Words.Blockwise.words_insert
-/
import Mathlib.Data.List.Basic

namespace Words

variable {α : Type*}

/-- The parts of a text between separators that are not empty. -/
def words [DecidableEq α] (sep : α → Bool) (text : List α) : List (List α) :=
  (text.splitOnP sep).filter (fun word => word ≠ [])

/-- The words, joined with one separator. -/
def unwords (gap : α) (ws : List (List α)) : List α := [gap].intercalate ws

/-- A word is not empty and has no separator in it. -/
def IsWord (sep : α → Bool) (word : List α) : Prop :=
  word ≠ [] ∧ ∀ c ∈ word, sep c = false

/-- A run of separators. -/
def Blank (sep : α → Bool) (text : List α) : Prop := ∀ c ∈ text, sep c = true

/-- The text is empty or a separator ends it. -/
def Ends (sep : α → Bool) (text : List α) : Prop :=
  text = [] ∨ ∃ before gap, sep gap = true ∧ text = before ++ [gap]

/-- The text is empty or begins with a separator. -/
def Starts (sep : α → Bool) (text : List α) : Prop :=
  text = [] ∨ ∃ gap after, sep gap = true ∧ text = gap :: after

variable {sep : α → Bool} {gap : α} {text before after : List α}

theorem Blank.ends (blank : Blank sep text) (some_gap : text ≠ []) : Ends sep (before ++ text) := by
  refine Or.inr ⟨before ++ text.dropLast, text.getLast some_gap,
    blank _ (List.getLast_mem some_gap), ?_⟩
  rw [List.append_assoc, List.dropLast_append_getLast]

theorem Blank.starts (blank : Blank sep text) (some_gap : text ≠ []) :
    Starts sep (text ++ after) := by
  cases text with
  | nil => exact absurd rfl some_gap
  | cons c text => exact Or.inr ⟨c, text ++ after, blank c List.mem_cons_self, rfl⟩

/-- A text is cut at its first separator, and so is what follows it. -/
theorem parts_induction {motive : List α → Prop}
    (whole : ∀ text, (∀ c ∈ text, sep c = false) → motive text)
    (parted : ∀ before gap after, (∀ c ∈ before, sep c = false) → sep gap = true →
      motive after → motive (before ++ gap :: after)) (text : List α) : motive text := by
  have held : ∀ c ∈ text.takeWhile (fun c => !sep c), sep c = false := by
    intro c there
    have passed := List.all_eq_true.1 List.all_takeWhile c there
    simpa using passed
  have cut := List.takeWhile_append_dropWhile (p := fun c => !sep c) (l := text)
  rcases rest : text.dropWhile (fun c => !sep c) with _ | ⟨gap, after⟩
  · rw [rest, List.append_nil] at cut
    exact cut ▸ whole _ held
  · have first : sep gap = true := by
      have head := List.head_dropWhile_not (fun c => !sep c) (l := text) (by simp [rest])
      simpa [rest] using head
    have shorter : after.length < text.length := by
      rw [← cut, rest, List.length_append, List.length_cons]
      omega
    rw [rest] at cut
    exact cut ▸ parted _ gap after held first (parts_induction whole parted after)
termination_by text.length

section Words

variable [DecidableEq α] {word : List α} {ws : List (List α)}

@[simp] theorem words_nil : words sep [] = [] := by simp [words]

theorem words_append_cons (parted : sep gap = true) :
    words sep (before ++ gap :: after) = words sep before ++ words sep after := by
  unfold words
  rw [List.splitOnP_append_cons before after parted, List.filter_append]

theorem words_of_blank (blank : Blank sep text) : words sep text = [] := by
  induction text with
  | nil => exact words_nil
  | cons c text ih =>
      have front := @words_append_cons _ sep c [] text _ (blank c List.mem_cons_self)
      rw [List.nil_append, words_nil, List.nil_append] at front
      rw [front, ih (fun d there => blank d (List.mem_cons_of_mem c there))]

theorem words_of_isWord (whole : IsWord sep word) : words sep word = [word] := by
  unfold words
  rw [List.splitOnP_eq_singleton whole.2]
  simp [whole.1]

/-- A word of a text has only characters of the text. -/
theorem isWord_of_mem (listed : word ∈ words sep text) :
    IsWord sep word ∧ ∀ c ∈ word, c ∈ text := by
  induction text using @parts_induction _ sep with
  | whole text held =>
      by_cases empty : text = []
      · rw [empty, words_nil] at listed
        exact absurd listed List.not_mem_nil
      · rw [words_of_isWord ⟨empty, held⟩, List.mem_singleton] at listed
        subst listed
        exact ⟨⟨empty, held⟩, fun _ there => there⟩
  | parted before gap after held first ih =>
      rw [words_append_cons first, List.mem_append] at listed
      rcases listed with front | behind
      · by_cases empty : before = []
        · rw [empty, words_nil] at front
          exact absurd front List.not_mem_nil
        · rw [words_of_isWord ⟨empty, held⟩, List.mem_singleton] at front
          subst front
          exact ⟨⟨empty, held⟩, fun c there => List.mem_append_left _ there⟩
      · refine ⟨(ih behind).1, fun c there => ?_⟩
        exact List.mem_append_right before (List.mem_cons_of_mem gap ((ih behind).2 c there))

/-- Splitting undoes joining. -/
theorem words_unwords (parted : sep gap = true) (each : ∀ word ∈ ws, IsWord sep word) :
    words sep (unwords gap ws) = ws := by
  induction ws with
  | nil => exact words_nil
  | cons word ws ih =>
      have first := words_of_isWord (each word List.mem_cons_self)
      have rest := ih (fun other there => each other (List.mem_cons_of_mem word there))
      unfold unwords at rest ⊢
      cases ws with
      | nil => rw [List.intercalate_singleton, first]
      | cons next ws =>
          rw [List.intercalate_cons_cons, List.append_assoc, List.singleton_append,
            words_append_cons parted, first, rest]
          rfl

omit [DecidableEq α] in
theorem mem_unwords {c : α} (there : c ∈ unwords gap ws) : c = gap ∨ ∃ word ∈ ws, c ∈ word := by
  induction ws with
  | nil => exact absurd there List.not_mem_nil
  | cons word ws ih =>
      unfold unwords at there ih
      cases ws with
      | nil =>
          rw [List.intercalate_singleton] at there
          exact Or.inr ⟨word, List.mem_cons_self, there⟩
      | cons next ws =>
          rw [List.intercalate_cons_cons, List.append_assoc, List.mem_append, List.mem_append,
            List.mem_singleton] at there
          rcases there with own | same | later
          · exact Or.inr ⟨word, List.mem_cons_self, own⟩
          · exact Or.inl same
          · refine (ih later).imp_right ?_
            rintro ⟨other, listed, held⟩
            exact ⟨other, List.mem_cons_of_mem word listed, held⟩

end Words

/-! ### Passes -/

theorem length_le_flatMap {spell : α → List α} (filled : ∀ c, spell c ≠ []) :
    text.length ≤ (text.flatMap spell).length := by
  induction text with
  | nil => exact Nat.le_refl 0
  | cons c text ih =>
      have first := List.length_pos_of_ne_nil (filled c)
      rw [List.flatMap_cons, List.length_append, List.length_cons]
      omega

/-- A text that its spelling does not change is spelled character by character. -/
theorem spell_eq_of_flatMap_eq {spell : α → List α} (filled : ∀ c, spell c ≠ [])
    (same : text.flatMap spell = text) : ∀ c ∈ text, spell c = [c] := by
  induction text with
  | nil => exact fun _ there => absurd there List.not_mem_nil
  | cons first text ih =>
      have one : (spell first).length = 1 := by
        have some_char := List.length_pos_of_ne_nil (filled first)
        have rest : text.length ≤ (text.flatMap spell).length := length_le_flatMap filled
        have whole := congrArg List.length same
        rw [List.flatMap_cons, List.length_append, List.length_cons] at whole
        omega
      rcases List.length_eq_one_iff.1 one with ⟨c, single⟩
      rw [List.flatMap_cons, single, List.singleton_append, List.cons.injEq] at same
      intro d there
      rcases List.mem_cons.1 there with rfl | later
      · rw [single, same.1]
      · exact ih same.2 d later

/-- A pass that works on the parts between separators. -/
structure Blockwise (sep : α → Bool) (pass : List α → List α) : Prop where
  nil : pass [] = []
  parted : ∀ before gap after, sep gap = true → ∃ mark, sep mark = true ∧
    pass (before ++ gap :: after) = pass before ++ mark :: pass after

theorem blockwise_flatMap {spell : α → List α}
    (marked : ∀ gap, sep gap = true → ∃ mark, sep mark = true ∧ spell gap = [mark]) :
    Blockwise sep (List.flatMap spell) where
  nil := rfl
  parted before gap after first := by
    rcases marked gap first with ⟨mark, second, spelled⟩
    refine ⟨mark, second, ?_⟩
    rw [List.flatMap_append, List.flatMap_cons, spelled, List.singleton_append]

theorem blockwise_map {spell : α → α} (marked : ∀ gap, sep gap = true → sep (spell gap) = true) :
    Blockwise sep (List.map spell) where
  nil := rfl
  parted before gap after first :=
    ⟨spell gap, marked gap first, by rw [List.map_append, List.map_cons]⟩

theorem blockwise_filter {kept : α → Bool} (marked : ∀ gap, sep gap = true → kept gap = true) :
    Blockwise sep (List.filter kept) where
  nil := rfl
  parted before gap after first :=
    ⟨gap, first, by rw [List.filter_append, List.filter_cons_of_pos (marked gap first)]⟩

namespace Blockwise

variable {pass next : List α → List α}

theorem comp (second : Blockwise sep next) (first : Blockwise sep pass) :
    Blockwise sep (fun text => next (pass text)) where
  nil := by rw [first.nil, second.nil]
  parted before gap after parted := by
    rcases first.parted before gap after parted with ⟨mark, kept, cut⟩
    rcases second.parted (pass before) mark (pass after) kept with ⟨last, held, cut_next⟩
    exact ⟨last, held, by rw [cut, cut_next]⟩

variable (blockwise : Blockwise sep pass)

include blockwise

/-- A run of separators stays one. -/
theorem blank (separators : Blank sep text) : Blank sep (pass text) := by
  induction text with
  | nil =>
      rw [blockwise.nil]
      exact separators
  | cons c text ih =>
      rcases blockwise.parted [] c text (separators c List.mem_cons_self) with ⟨mark, kept, cut⟩
      rw [List.nil_append, blockwise.nil, List.nil_append] at cut
      rw [cut]
      intro d there
      rcases List.mem_cons.1 there with rfl | later
      · exact kept
      · exact ih (fun e there => separators e (List.mem_cons_of_mem c there)) d later

variable [DecidableEq α]

/-- The words on both sides of a separator. -/
theorem words_parted (parted : sep gap = true) : words sep (pass (before ++ gap :: after)) =
    words sep (pass before) ++ words sep (pass after) := by
  rcases blockwise.parted before gap after parted with ⟨mark, kept, cut⟩
  rw [cut, words_append_cons kept]

/-- Two texts that do not meet inside a word. -/
theorem words_append (apart : Ends sep before ∨ Starts sep after) :
    words sep (pass (before ++ after)) = words sep (pass before) ++ words sep (pass after) := by
  rcases apart with (rfl | ⟨front, gap, parted, rfl⟩) | (rfl | ⟨gap, behind, parted, rfl⟩)
  · rw [List.nil_append, blockwise.nil, words_nil, List.nil_append]
  · rw [List.append_assoc, List.singleton_append, blockwise.words_parted parted,
      @words_parted _ sep gap front [] pass blockwise _ parted, blockwise.nil, words_nil,
      List.append_nil]
  · rw [List.append_nil, blockwise.nil, words_nil, List.append_nil]
  · have start := @words_parted _ sep gap [] behind pass blockwise _ parted
    rw [List.nil_append, blockwise.nil, words_nil, List.nil_append] at start
    rw [blockwise.words_parted parted, start]

/-- A run of separators parts a text as one separator does. -/
theorem words_gap {run : List α} (separators : Blank sep run) (some_gap : run ≠ []) :
    words sep (pass (before ++ run ++ after)) =
      words sep (pass before) ++ words sep (pass after) := by
  have ends : Ends sep run := @Blank.ends _ sep run [] separators some_gap
  rw [List.append_assoc, blockwise.words_append (Or.inr (separators.starts some_gap)),
    blockwise.words_append (Or.inl ends), words_of_blank (blockwise.blank separators),
    List.nil_append]

/-- A piece without words is not seen between separators. -/
theorem words_insert {piece : List α} (silent : words sep (pass piece) = [])
    (left : Ends sep before) (right : Starts sep after) :
    words sep (pass (before ++ piece ++ after)) = words sep (pass (before ++ after)) := by
  rw [blockwise.words_append (Or.inr right), blockwise.words_append (Or.inl left), silent,
    List.append_nil, ← blockwise.words_append (Or.inl left)]

end Blockwise

end Words
