/-
Module: LeadAssistant.Library.Masking
Layer: Library
Purpose: Masking words in a text by replacing each of them with a mark, one word after another. A
  replacement can spell a word anew, out of the mark and the letters beside it. None is spelled as
  long as no word stands across an edge of a mark, whichever words of the text are read as the mark;
  words that have no edge in common with the mark never do.
Trusted boundary: none
Main exports: Masking.replaceAll, Masking.mask, Masking.EdgeFree, Masking.Apart, Masking.Reads,
  Masking.EdgeFree.apart, Masking.exists_reading, Masking.not_infix_mask
-/
import Mathlib.Data.List.Infix

namespace Masking

variable {α : Type*}

/-- `replaceAll` while the given number of letters belongs to a replaced word. -/
def replaceFrom [DecidableEq α] (old new : List α) : Nat → List α → List α
  | _, [] => []
  | skip + 1, _ :: rest => replaceFrom old new skip rest
  | 0, c :: rest =>
      if old <+: c :: rest then new ++ replaceFrom old new (old.length - 1) rest
      else c :: replaceFrom old new 0 rest

/-- Replace the occurrences of a word that is not empty, from left to right. -/
def replaceAll [DecidableEq α] (old new text : List α) : List α := replaceFrom old new 0 text

/-- Replace some words by a mark, one after another. -/
def mask [DecidableEq α] (mark : List α) (words : List (List α)) (text : List α) : List α :=
  words.foldl (fun masked word => replaceAll word mark masked) text

section Letters

variable [DecidableEq α] {old word text : List α} {m : α} {skip : Nat}

/-- A word without the new letter begins a text after the replacement only where it began it before. -/
theorem prefix_of_replaceFrom (absent : m ∉ word) (found : word <+: replaceFrom old [m] 0 text) :
    word <+: text := by
  induction text generalizing word with
  | nil => exact found
  | cons c text ih =>
      cases word with
      | nil => exact List.nil_prefix
      | cons d word =>
          unfold replaceFrom at found
          split at found
          · rw [List.singleton_append, List.cons_prefix_cons] at found
            exact absurd (found.1 ▸ List.mem_cons_self) absent
          · rw [List.cons_prefix_cons] at found
            rw [List.cons_prefix_cons]
            exact ⟨found.1, ih (fun held => absent (List.mem_cons_of_mem d held)) found.2⟩

/-- A word after the replacement is at the front or behind the first letter. -/
theorem infix_replaceFrom_cons {c : α} (found : word <:+: replaceFrom old [m] 0 (c :: text)) :
    word <+: replaceFrom old [m] 0 (c :: text) ∨
      ∃ skip, word <:+: replaceFrom old [m] skip text := by
  have parts : ∃ d skip, replaceFrom old [m] 0 (c :: text) = d :: replaceFrom old [m] skip text := by
    by_cases matched : old <+: c :: text
    · exact ⟨m, old.length - 1, if_pos matched⟩
    · exact ⟨c, 0, if_neg matched⟩
  rcases parts with ⟨d, skip, cut⟩
  rw [cut] at found ⊢
  exact (List.infix_cons_iff.1 found).imp_right (fun later => ⟨skip, later⟩)

/-- No word without the new letter appears by a replacement. -/
theorem infix_of_replaceFrom (absent : m ∉ word)
    (found : word <:+: replaceFrom old [m] skip text) : word <:+: text := by
  induction text generalizing skip with
  | nil =>
      cases skip <;> exact found
  | cons c text ih =>
      cases skip with
      | succ skip => exact (ih found).trans (List.suffix_cons c text).isInfix
      | zero =>
          rcases infix_replaceFrom_cons found with starts | ⟨skip, later⟩
          · exact (prefix_of_replaceFrom absent starts).isInfix
          · exact (ih later).trans (List.suffix_cons c text).isInfix

/-- The replaced word does not occur any more. -/
theorem not_infix_replaceFrom (absent : m ∉ old) (nonempty : old ≠ []) :
    ¬ old <:+: replaceFrom old [m] skip text := by
  intro found
  induction text generalizing skip with
  | nil =>
      cases skip <;> exact nonempty (List.infix_nil.1 found)
  | cons c text ih =>
      cases skip with
      | succ skip => exact ih found
      | zero =>
          rcases infix_replaceFrom_cons found with starts | ⟨skip, later⟩
          · -- It would have begun the text before, and then the new letter begins the text now.
            have matched := prefix_of_replaceFrom absent starts
            unfold replaceFrom at starts
            rw [if_pos matched] at starts
            rcases List.exists_cons_of_ne_nil nonempty with ⟨d, rest, rfl⟩
            rw [List.singleton_append, List.cons_prefix_cons] at starts
            exact absent (starts.1 ▸ List.mem_cons_self)
          · exact ih later

end Letters

/-- The text of a sequence of letters and marks. -/
def render (mark : List α) (tokens : List (Option α)) : List α :=
  tokens.flatMap (fun token =>
    match token with
    | some c => [c]
    | none => mark)

/-- No end of the word and the mark begin alike, and no end of the mark and the word do. -/
structure EdgeFree (mark word : List α) : Prop where
  nonempty : word ≠ []
  word_ends : ∀ rest, rest ≠ [] → rest <:+ word → ¬ rest <+: mark ∧ ¬ mark <+: rest
  mark_ends : ∀ rest, rest ≠ [] → rest <:+ mark → ¬ rest <+: word ∧ ¬ word <+: rest

instance [DecidableEq α] (mark word : List α) : Decidable (EdgeFree mark word) :=
  decidable_of_iff (word ≠ [] ∧
    (∀ rest ∈ word.tails, rest ≠ [] → ¬ rest <+: mark ∧ ¬ mark <+: rest) ∧
      ∀ rest ∈ mark.tails, rest ≠ [] → ¬ rest <+: word ∧ ¬ word <+: rest) <| by
    simp only [List.mem_tails]
    exact ⟨fun ⟨nonempty, word_ends, mark_ends⟩ =>
        ⟨nonempty, fun rest some inside => word_ends rest inside some,
          fun rest some inside => mark_ends rest inside some⟩,
      fun free => ⟨free.nonempty, fun rest inside some => free.word_ends rest some inside,
        fun rest inside some => free.mark_ends rest some inside⟩⟩

/-- A word does not stand across an edge of a mark: where it begins, its own letters follow. -/
structure Apart (mark word : List α) (tokens : List (Option α)) : Prop where
  letters : ∀ rest, rest <:+ tokens → word <+: render mark rest → word.map some <+: rest
  marks : ∀ rest part, none :: rest <:+ tokens → part ≠ [] → part <:+ mark →
    ¬ word <+: part ++ render mark rest

/-- A text, some words of which are read as the mark. -/
inductive Reads (words : List (List α)) : List α → List (Option α) → Prop where
  | nil : Reads words [] []
  | letter {text : List α} {tokens : List (Option α)} (c : α) (rest : Reads words text tokens) :
      Reads words (c :: text) (some c :: tokens)
  | word {word text : List α} {tokens : List (Option α)} (listed : word ∈ words)
      (rest : Reads words text tokens) : Reads words (word ++ text) (none :: tokens)

section Rendering

variable {mark word text x : List α} {words : List (List α)} {tokens : List (Option α)}
  {token : Option α}

theorem render_some {c : α} : render mark (some c :: tokens) = c :: render mark tokens := rfl

theorem render_none : render mark (none :: tokens) = mark ++ render mark tokens := rfl

@[simp] theorem render_map_some : render mark (text.map some) = text := by
  unfold render
  rw [List.flatMap_map]
  exact List.flatMap_singleton' text

theorem Reads.letters : Reads words text (text.map some) := by
  induction text with
  | nil => exact .nil
  | cons c text ih => exact .letter c ih

theorem Apart.tail (apart : Apart mark word (token :: tokens)) : Apart mark word tokens :=
  ⟨fun rest inside => apart.letters rest (inside.trans (List.suffix_cons token tokens)),
    fun rest part inside => apart.marks rest part (inside.trans (List.suffix_cons token tokens))⟩

/-- A word does not begin inside a mark. -/
theorem EdgeFree.not_prefix (free : EdgeFree mark word) {rest : List α} (nonempty : rest ≠ [])
    (inside : rest <:+ mark) : ¬ word <+: rest ++ x := by
  intro found
  rcases List.prefix_or_prefix_of_prefix found (List.prefix_append rest x) with short | long
  · exact (free.mark_ends rest nonempty inside).2 short
  · exact (free.mark_ends rest nonempty inside).1 long

/-- The end of a word is found in a rendering where its letters are. -/
theorem prefix_render (free : EdgeFree mark word) {rest : List α} (inside : rest <:+ word)
    (found : rest <+: render mark tokens) : rest.map some <+: tokens := by
  induction tokens generalizing rest with
  | nil =>
      cases List.prefix_nil.1 found
      exact List.nil_prefix
  | cons token tokens ih =>
      cases rest with
      | nil => exact List.nil_prefix
      | cons d rest =>
          cases token with
          | some c =>
              rw [render_some, List.cons_prefix_cons] at found
              rw [List.map_cons, List.cons_prefix_cons, found.1]
              exact ⟨rfl, ih ((List.suffix_cons d rest).trans inside) found.2⟩
          | none =>
              have apart := free.word_ends (d :: rest) (List.cons_ne_nil d rest) inside
              rw [render_none] at found
              rcases List.prefix_or_prefix_of_prefix found (List.prefix_append mark _) with
                short | long
              · exact absurd short apart.1
              · exact absurd long apart.2

/-- A word that has no edge in common with the mark never stands across one. -/
theorem EdgeFree.apart (free : EdgeFree mark word) : Apart mark word tokens :=
  ⟨fun _ _ found => prefix_render free List.suffix_rfl found,
    fun _ _ _ nonempty inside => free.not_prefix nonempty inside⟩

/-- A word that occurs in a rendering, but not across an edge, occurs among its letters. -/
theorem Apart.infix_of_render (apart : Apart mark word tokens) (nonempty : word ≠ [])
    (found : word <:+: render mark tokens) : word.map some <:+: tokens := by
  induction tokens with
  | nil => exact absurd (List.infix_nil.1 found) nonempty
  | cons token tokens ih =>
      cases token with
      | some c =>
          have first := apart.letters _ List.suffix_rfl
          rw [render_some] at found first
          rw [List.infix_cons_iff] at found
          rcases found with starts | later
          · exact (first starts).isInfix
          · exact (ih apart.tail later).trans (List.suffix_cons _ tokens).isInfix
      | none =>
          have beyond : ∀ part, part <:+ mark → word <:+: part ++ render mark tokens →
              word <:+: render mark tokens := by
            intro part inside found
            induction part with
            | nil => exact found
            | cons c part later =>
                rw [List.cons_append, List.infix_cons_iff] at found
                rcases found with starts | found
                · exact absurd starts
                    (apart.marks tokens _ List.suffix_rfl (List.cons_ne_nil c part) inside)
                · exact later ((List.suffix_cons c part).trans inside) found
          exact (ih apart.tail (beyond mark List.suffix_rfl found)).trans
            (List.suffix_cons _ tokens).isInfix

end Rendering

section Scanning

variable [DecidableEq α] {mark word text x : List α} {words listed : List (List α)} {skip : Nat}
  {tokens : List (Option α)}

/-- A scan keeps the rest of a mark in which the word does not begin. -/
theorem replaceFrom_append {part : List α}
    (absent : ∀ rest, rest ≠ [] → rest <:+ part → ¬ word <+: rest ++ x) :
    replaceFrom word mark 0 (part ++ x) = part ++ replaceFrom word mark 0 x := by
  induction part with
  | nil => rfl
  | cons c part ih =>
      have starts := absent (c :: part) (List.cons_ne_nil c part) List.suffix_rfl
      rw [List.cons_append] at starts ⊢
      rw [replaceFrom, if_neg starts, List.cons_append,
        ih (fun rest nonempty inside => absent rest nonempty
          (inside.trans (List.suffix_cons c part)))]

/-- A scan of a rendering in which the word stands across no edge is a scan of its letters. -/
theorem replaceFrom_render (apart : Apart mark word tokens) (nonempty : word ≠ []) {front : List α}
    (skipped : front.length = skip) (inside : front.map some <+: tokens) :
    replaceFrom word mark skip (render mark tokens) =
      render mark (replaceFrom (word.map some) [none] skip tokens) := by
  obtain ⟨d, word, rfl⟩ := List.exists_cons_of_ne_nil nonempty
  induction tokens generalizing skip front with
  | nil => cases skip <;> rfl
  | cons token tokens ih =>
      have here : ([] : List α).map some <+: tokens := List.nil_prefix
      cases skip with
      | succ skip =>
          cases front with
          | nil => cases skipped
          | cons c front =>
              rw [List.map_cons, List.cons_prefix_cons] at inside
              rw [← inside.1, render_some]
              exact ih (Nat.succ.inj skipped) inside.2 apart.tail
      | zero =>
          cases token with
          | none =>
              have unmatched : ¬ (d :: word).map some <+: none :: tokens := by
                rw [List.map_cons, List.cons_prefix_cons]
                exact fun found => Option.some_ne_none d found.1
              rw [render_none, replaceFrom_append (fun part nonempty inside =>
                apart.marks tokens part List.suffix_rfl nonempty inside), replaceFrom,
                if_neg unmatched, render_none, @ih 0 [] rfl here apart.tail]
          | some c =>
              rw [render_some, replaceFrom, replaceFrom]
              by_cases matched : (d :: word).map some <+: some c :: tokens
              · rw [if_pos matched]
                rw [List.map_cons, List.cons_prefix_cons] at matched
                have found : d :: word <+: c :: render mark tokens := by
                  rw [List.cons_prefix_cons, Option.some.inj matched.1]
                  obtain ⟨rest, split⟩ := matched.2
                  refine ⟨rfl, render mark rest, ?_⟩
                  rw [← split]
                  unfold render
                  rw [List.flatMap_append, List.flatMap_map]
                  exact congrArg (fun letters => letters ++ _) (List.flatMap_singleton' word).symm
                have later := @ih word.length word rfl matched.2 apart.tail
                rw [if_pos found, List.singleton_append, render_none, List.length_map]
                exact congrArg (fun rest => mark ++ rest) later
              · have unmatched : ¬ d :: word <+: c :: render mark tokens :=
                  fun found => matched (apart.letters _ List.suffix_rfl found)
                rw [if_neg unmatched, if_neg matched, render_some, @ih 0 [] rfl here apart.tail]

/-- Reading a further word as the mark is a reading of the text. -/
theorem Reads.replaceFrom (reads : Reads words text tokens) (held : word ∈ words)
    (nonempty : word ≠ []) {front : List α} (skipped : front.length = skip)
    (inside : front.map some <+: tokens) : ∃ rest, text = front ++ rest ∧
      Reads words rest (Masking.replaceFrom (word.map some) [none] skip tokens) := by
  obtain ⟨d, word, rfl⟩ := List.exists_cons_of_ne_nil nonempty
  induction reads generalizing skip front with
  | nil =>
      cases List.map_eq_nil_iff.1 (List.prefix_nil.1 inside)
      cases skipped
      exact ⟨[], rfl, .nil⟩
  | @letter text tokens c rest ih =>
      cases skip with
      | succ skip =>
          cases front with
          | nil => cases skipped
          | cons e front =>
              rw [List.map_cons, List.cons_prefix_cons, Option.some.injEq] at inside
              obtain ⟨later, split, reads⟩ := ih (Nat.succ.inj skipped) inside.2
              exact ⟨later, by rw [split, inside.1, List.cons_append], reads⟩
      | zero =>
          cases List.length_eq_zero_iff.1 skipped
          rw [Masking.replaceFrom]
          by_cases matched : (d :: word).map some <+: some c :: tokens
          · rw [if_pos matched]
            rw [List.map_cons, List.cons_prefix_cons, Option.some.injEq] at matched
            obtain ⟨later, split, reads⟩ := ih (List.length_map some).symm matched.2
            refine ⟨c :: text, rfl, ?_⟩
            rw [split, ← matched.1]
            exact .word held reads
          · rw [if_neg matched]
            obtain ⟨later, split, reads⟩ := @ih 0 [] rfl List.nil_prefix
            exact ⟨c :: text, rfl, .letter c (split ▸ reads)⟩
  | @word other text tokens listed rest ih =>
      cases front with
      | cons e front =>
          rw [List.map_cons, List.cons_prefix_cons] at inside
          exact absurd inside.1 (Option.some_ne_none e)
      | nil =>
          subst skipped
          have unmatched : ¬ (d :: word).map some <+: none :: tokens := by
            rw [List.map_cons, List.cons_prefix_cons]
            exact fun found => Option.some_ne_none d found.1
          obtain ⟨later, split, reads⟩ := @ih 0 [] rfl List.nil_prefix
          refine ⟨other ++ text, rfl, ?_⟩
          rw [List.length_nil, Masking.replaceFrom, if_neg unmatched]
          exact .word listed (split ▸ reads)

/-- While no word ever stands across an edge, masking some of the words reads them as the mark; a
word that has been masked is not among the letters any more. -/
theorem exists_reading (nonempty : ∀ word ∈ words, word ≠ [])
    (apart : ∀ tokens, Reads words text tokens → ∀ word ∈ words, Apart mark word tokens)
    (reads : Reads words text tokens) (some_of : listed ⊆ words) :
    ∃ masked, mask mark listed (render mark tokens) = render mark masked ∧
      Reads words text masked ∧
        (∀ word : List α, word.map some <:+: masked → word.map some <:+: tokens) ∧
      ∀ word ∈ listed, ¬ word.map some <:+: masked := by
  induction listed generalizing tokens with
  | nil =>
      exact ⟨tokens, rfl, reads, fun _ found => found, fun _ held => absurd held List.not_mem_nil⟩
  | cons word listed ih =>
      have held : word ∈ words := some_of List.mem_cons_self
      have absent : ∀ other : List α, (none : Option α) ∉ other.map some := by simp
      obtain ⟨rest, split, later⟩ := @Reads.replaceFrom _ _ word text words 0 tokens reads held
        (nonempty word held) [] rfl List.nil_prefix
      rw [List.nil_append] at split
      subst split
      obtain ⟨masked, same, own, kept, gone⟩ := ih later (fun _ there => some_of (.tail word there))
      have scanned := @replaceFrom_render _ _ mark word 0 tokens (apart tokens reads word held)
        (nonempty word held) [] rfl List.nil_prefix
      refine ⟨masked, ?_, own,
        fun other found => infix_of_replaceFrom (absent other) (kept other found),
        fun other there => ?_⟩
      · unfold mask at same ⊢
        rw [List.foldl_cons]
        unfold replaceAll at same ⊢
        rw [scanned, same]
      · rcases List.mem_cons.1 there with rfl | there
        · have some_letter : other.map some ≠ [] :=
            fun empty => nonempty other held (List.map_eq_nil_iff.1 empty)
          exact fun found => not_infix_replaceFrom (absent other) some_letter (kept other found)
        · exact gone other there

/-- While no word stands across an edge of the mark, whichever words of the text are read as the
mark, no word is left behind. -/
theorem not_infix_mask (nonempty : ∀ word ∈ words, word ≠ [])
    (apart : ∀ tokens, Reads words text tokens → ∀ word ∈ words, Apart mark word tokens)
    (held : word ∈ words) : ¬ word <:+: mask mark words text := by
  obtain ⟨masked, same, reads, -, gone⟩ :=
    exists_reading nonempty apart Reads.letters (List.Subset.refl words)
  rw [render_map_some] at same
  rw [same]
  exact fun found =>
    gone word held ((apart masked reads word held).infix_of_render (nonempty word held) found)

end Scanning

end Masking
