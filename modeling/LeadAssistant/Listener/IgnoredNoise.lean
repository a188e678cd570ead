/-
Module: LeadAssistant.Listener.IgnoredNoise
Layer: Listener
Purpose: What normalization does not see. Every pass works on the parts between whitespace, so what
  has no words is not seen between whitespace: no URL, no mention, and no run of emoji, combining
  characters and punctuation has any. Noise inside a word parts it as whitespace does.
Trusted boundary: the character data of Python, under the laws of `UnicodeData.Lawful`
Main exports: UnicodeData.Noise, UnicodeData.Lawful.blockwise, UnicodeData.Lawful.words_noise,
  UnicodeData.IgnoresNoise, UnicodeData.ignoresNoise
-/
import LeadAssistant.Listener.Fingerprint

namespace LeadAssistant

open Words

namespace UnicodeData

/-- The characters that a run of noise may have: those that the filter removes, apart from the one
that case folding turns into a letter, and punctuation. -/
def Silent (u : UnicodeData) (c : Char) : Prop :=
  (u.kept c = false ∧ c ≠ YPOGEGRAMMENI) ∨ u.category c ∈ GeneralCategory.punctuation

instance decidableSilent (u : UnicodeData) (c : Char) : Decidable (u.Silent c) :=
  inferInstanceAs (Decidable ((u.kept c = false ∧ c ≠ YPOGEGRAMMENI) ∨
    u.category c ∈ GeneralCategory.punctuation))

/-- What the fingerprint is meant to ignore. -/
inductive Noise (u : UnicodeData) : List Char → Prop where
  | url {text : List Char} : u.startsUrl text = true → (∀ c ∈ text, u.isspace c = false) →
      Noise u text
  | mention {name : List Char} : name ≠ [] → (∀ c ∈ name, u.isWordChar c = true) →
      Noise u ('@' :: name)
  | run {text : List Char} : (∀ c ∈ text, u.Silent c) → Noise u text

theorem gaps_kept : ∀ category ∈ GeneralCategory.gaps, category ∉ REMOVED_CATEGORIES := by decide

variable {u : UnicodeData} {scheme : List (List Char)} {text rest before after name : List Char}
  {gap c : Char}

/-! ### The passes work between whitespace -/

namespace Lawful

variable (lawful : u.Lawful)

include lawful

theorem isspace_blank : u.isspace ' ' = true := lawful.space_ascii ' ' (by decide)

theorem not_isspace {c : Char} (plain : c.toNat < 128) (dark : asciiSpace c = false) :
    u.isspace c = false := by
  rw [lawful.space_ascii c plain, dark]

theorem isalnum_outside
    (part : u.category c ∈ GeneralCategory.gaps ++ GeneralCategory.punctuation) :
    u.isalnum c = false := by
  have outside := GeneralCategory.outside (u.category c) part
  by_contra alnum
  rcases lawful.alnum_category c (Bool.eq_true_of_not_eq_false alnum) with letter | number
  · exact outside.1 letter
  · exact outside.2.2.1 number

theorem casefold_outside
    (part : u.category c ∈ GeneralCategory.gaps ++ GeneralCategory.punctuation) :
    u.casefold c = [c] := by
  rcases GeneralCategory.outside (u.category c) part with ⟨letter, mark, number, symbol⟩
  exact lawful.casefold_other c letter mark number symbol

theorem outside_of_isspace (space : u.isspace gap = true) :
    u.category gap ∈ GeneralCategory.gaps ++ GeneralCategory.punctuation :=
  List.mem_append_left _ (lawful.space_category gap space)

theorem casefold_of_isspace (space : u.isspace gap = true) : u.casefold gap = [gap] :=
  lawful.casefold_outside (lawful.outside_of_isspace space)

theorem kept_of_isspace (space : u.isspace gap = true) : u.kept gap = true := by
  have part := lawful.space_category gap space
  have joiner : gap ≠ '\u200d' := by
    rintro rfl
    rw [lawful.category_joiner] at part
    exact absurd part (by decide)
  have selector : gap ≠ '\ufe0f' := by
    rintro rfl
    rw [lawful.category_selector] at part
    exact absurd part (by decide)
  have left := gaps_kept (u.category gap) part
  simp [kept, REMOVED_CODEPOINTS, left, joiner, selector]

/-- There is no whitespace in a scheme. -/
theorem notMem_letter (listed : scheme ∈ URL_SCHEMES) (space : u.isspace gap = true) :
    ∀ letter ∈ scheme, gap ∉ letter := by
  intro letter there own
  rcases letter_cases scheme listed letter there gap own with ⟨plain, dark, -⟩ | ⟨rfl, -⟩
  · rw [lawful.not_isspace plain dark] at space
    exact absurd space (by decide)
  · have whole := lawful.casefold_of_isspace space
    rw [lawful.casefold_long_s] at whole
    exact absurd whole (by decide)

theorem startsUrl_append_cons (space : u.isspace gap = true) :
    u.startsUrl (before ++ gap :: after) = u.startsUrl before := by
  unfold startsUrl
  rw [Bool.eq_iff_iff, List.any_eq_true, List.any_eq_true]
  refine exists_congr (fun scheme => and_congr_right (fun listed => ?_))
  rw [afterScheme_append_cons (lawful.notMem_letter listed space)]
  cases afterScheme scheme before with
  | none => rfl
  | some rest =>
      cases rest with
      | nil => simp [space]
      | cons c rest => rfl

theorem subUrls_append_cons {inside : Bool} (space : u.isspace gap = true) :
    u.subUrls inside (before ++ gap :: after) =
      u.subUrls inside before ++ gap :: u.subUrls false after := by
  induction before generalizing inside with
  | nil =>
      cases inside with
      | true => simp [subUrls, space]
      | false =>
          have closed : u.startsUrl (gap :: after) = false :=
            @startsUrl_append_cons u [] after gap lawful space
          simp [subUrls, closed]
  | cons c before ih =>
      cases inside with
      | true =>
          rw [List.cons_append, subUrls, subUrls, ih, ih]
          split <;> rfl
      | false =>
          have same := @startsUrl_append_cons u (c :: before) after gap lawful space
          rw [List.cons_append] at same ⊢
          rw [subUrls, subUrls, same, ih, ih]
          split <;> rfl

theorem isWordChar_of_isspace (space : u.isspace gap = true) : u.isWordChar gap = false := by
  have other : gap ≠ '_' := by
    rintro rfl
    rw [lawful.not_isspace (by decide) (by decide)] at space
    exact absurd space (by decide)
  simp [isWordChar, lawful.isalnum_outside (lawful.outside_of_isspace space), other]

theorem subMentions_append_cons {inside : Bool} (space : u.isspace gap = true) :
    u.subMentions inside (before ++ gap :: after) =
      u.subMentions inside before ++ gap :: u.subMentions false after := by
  have closed := lawful.isWordChar_of_isspace space
  have other : gap ≠ '@' := by
    rintro rfl
    rw [lawful.not_isspace (by decide) (by decide)] at space
    exact absurd space (by decide)
  induction before generalizing inside with
  | nil => simp [subMentions, closed, other]
  | cons c before ih =>
      have next : (before ++ gap :: after).head?.any u.isWordChar =
          before.head?.any u.isWordChar := by
        cases before with
        | nil => simp [closed]
        | cons d before => rfl
      rw [List.cons_append, subMentions, subMentions, next, ih, ih]
      split
      · rfl
      · split <;> rfl

/-- All that is done before the split works on the parts between whitespace. -/
theorem blockwise : Blockwise u.isspace u.scrubbed := by
  have folds : Blockwise u.isspace u.folded :=
    blockwise_flatMap (fun gap space => ⟨gap, space, lawful.casefold_of_isspace space⟩)
  have urls : Blockwise u.isspace (u.subUrls false) :=
    ⟨rfl, fun _ gap _ space => ⟨gap, space, lawful.subUrls_append_cons space⟩⟩
  have filters : Blockwise u.isspace (List.filter u.kept) :=
    blockwise_filter (fun _ space => lawful.kept_of_isspace space)
  have mentions : Blockwise u.isspace (u.subMentions false) :=
    ⟨rfl, fun _ gap _ space => ⟨gap, space, lawful.subMentions_append_cons space⟩⟩
  have spaces : Blockwise u.isspace (List.map u.spaced) := by
    apply blockwise_map
    intro gap space
    unfold spaced
    rw [lawful.isalnum_outside (lawful.outside_of_isspace space)]
    exact lawful.isspace_blank
  exact spaces.comp (mentions.comp (filters.comp (urls.comp folds)))

/-! ### Noise has no words -/

theorem casefold_letter (listed : scheme ∈ URL_SCHEMES) :
    ∀ letter ∈ scheme, ∀ c ∈ letter, ∃ d ∈ letter, u.casefold c = [d] := by
  intro letter there c own
  rcases letter_cases scheme listed letter there c own with ⟨plain, -, lower⟩ | ⟨rfl, lower⟩
  · exact ⟨c.toLower, lower, lawful.casefold_ascii c plain⟩
  · exact ⟨'s', lower, lawful.casefold_long_s⟩

omit lawful in
theorem afterScheme_folded
    (closed : ∀ letter ∈ scheme, ∀ c ∈ letter, ∃ d ∈ letter, u.casefold c = [d])
    (found : afterScheme scheme text = some rest) :
    afterScheme scheme (u.folded text) = some (u.folded rest) := by
  induction scheme generalizing text with
  | nil =>
      cases found
      rfl
  | cons letter scheme ih =>
      rcases afterScheme_cons_inv found with ⟨c, behind, rfl, own, later⟩
      rcases closed letter List.mem_cons_self c own with ⟨d, lower, single⟩
      have next := ih (fun other there => closed other (List.mem_cons_of_mem letter there)) later
      unfold folded at next ⊢
      rw [List.flatMap_cons, single, List.singleton_append, afterScheme, if_pos lower, next]

/-- A URL is one after case folding. -/
theorem startsUrl_folded (found : u.startsUrl text = true) :
    u.startsUrl (u.folded text) = true := by
  unfold startsUrl at found ⊢
  rcases List.any_eq_true.1 found with ⟨scheme, listed, opened⟩
  refine List.any_eq_true.2 ⟨scheme, listed, ?_⟩
  rcases matched : afterScheme scheme text with _ | _ | ⟨c, rest⟩
  · simp [matched] at opened
  · simp [matched] at opened
  · have dark : u.isspace c = false := by simpa [matched] using opened
    rw [afterScheme_folded (lawful.casefold_letter listed) matched]
    rcases first : u.casefold c with _ | ⟨d, others⟩
    · exact absurd first (lawful.casefold_ne_nil c)
    · have held := lawful.casefold_dark c dark d (first ▸ List.mem_cons_self)
      simp [folded, first, held]

omit lawful in
/-- What is left before the split. -/
theorem mem_scrubbed (there : c ∈ u.scrubbed text) :
    ∃ d ∈ u.folded text, u.kept d = true ∧ u.spaced d = c := by
  unfold scrubbed at there
  rcases List.mem_map.1 there with ⟨d, left, same⟩
  rcases List.mem_filter.1 (subMentions_sublist.subset left) with ⟨passed, held⟩
  exact ⟨d, subUrls_sublist.subset passed, held, same⟩

theorem words_scrubbed_eq_nil
    (silent : ∀ d ∈ u.folded text, u.kept d = true → u.isalnum d = false) :
    words u.isspace (u.scrubbed text) = [] := by
  apply words_of_blank
  intro c there
  rcases mem_scrubbed there with ⟨d, folded, held, rfl⟩
  unfold spaced
  rw [silent d folded held]
  exact lawful.isspace_blank

theorem kept_at : u.kept '@' = true := by
  unfold kept
  rw [lawful.category_ascii '@' (by decide)]
  decide

/-- A folded name has word characters, combining characters and nothing else. -/
theorem of_mem_folded_name (named : ∀ c ∈ name, u.isWordChar c = true) {d : Char}
    (there : d ∈ u.folded name) : u.isWordChar d = true ∨ u.category d = .mn := by
  rcases List.mem_flatMap.1 there with ⟨c, own, spelled⟩
  have word := named c own
  unfold isWordChar at word ⊢
  rcases Bool.or_eq_true_iff.1 word with alnum | line
  · rw [Bool.or_eq_true]
    exact (lawful.casefold_alnum c alnum d spelled).imp_left Or.inl
  · rw [of_decide_eq_true line, lawful.casefold_ascii '_' (by decide)] at spelled
    rw [List.mem_singleton.1 spelled]
    exact Or.inl (by simp)

theorem not_colon_of_name {d : Char} (part : u.isWordChar d = true ∨ u.category d = .mn) :
    d ≠ ':' := by
  rintro rfl
  have alnum : u.isalnum ':' = false := lawful.alnum_ascii ':' (by decide)
  have category : u.category ':' = .po := lawful.category_ascii ':' (by decide)
  rcases part with word | mark
  · exact absurd word (by simp [isWordChar, alnum])
  · exact absurd (category.symm.trans mark) (by decide)

theorem words_mention (named : ∀ c ∈ name, u.isWordChar c = true) :
    words u.isspace (u.scrubbed ('@' :: name)) = [] := by
  have fold : u.folded ('@' :: name) = '@' :: u.folded name := by
    unfold folded
    rw [List.flatMap_cons, lawful.casefold_ascii '@' (by decide)]
    rfl
  have colon : ':' ∉ u.folded ('@' :: name) := by
    rw [fold]
    intro there
    rcases List.mem_cons.1 there with same | later
    · exact absurd same (by decide)
    · exact lawful.not_colon_of_name (lawful.of_mem_folded_name named later) rfl
  have rest : ∀ d ∈ (u.folded name).filter u.kept, u.isWordChar d = true := by
    intro d there
    rcases List.mem_filter.1 there with ⟨own, held⟩
    rcases lawful.of_mem_folded_name named own with word | mark
    · exact word
    · simp [kept, mark, REMOVED_CATEGORIES] at held
  have at_sign : u.isalnum '@' = false := lawful.alnum_ascii '@' (by decide)
  apply words_of_blank
  unfold scrubbed
  rw [subUrls_of_notMem colon, fold, List.filter_cons_of_pos lawful.kept_at,
    subMentions_mention rest]
  intro c there
  split at there
  · rw [List.map_singleton, List.mem_singleton] at there
    rw [there, spaced, at_sign]
    exact lawful.isspace_blank
  · exact absurd there List.not_mem_nil

/-- What the filter removes, it removes also after case folding. -/
theorem kept_folded {c d : Char} (removed : u.kept c = false) (other : c ≠ YPOGEGRAMMENI)
    (spelled : d ∈ u.casefold c) : u.kept d = false := by
  have own : u.casefold c = [c] → u.kept d = false := by
    intro single
    rw [single, List.mem_singleton] at spelled
    exact spelled ▸ removed
  have part : u.category c = .so ∨ u.category c = .sk ∨ u.category c = .mn ∨
      u.category c = .cf := by
    unfold kept at removed
    rcases Bool.and_eq_false_iff.1 removed with category | codepoint
    · have listed : u.category c ∈ REMOVED_CATEGORIES := by simpa using category
      simp only [REMOVED_CATEGORIES, List.mem_cons, List.not_mem_nil, or_false] at listed
      tauto
    · have listed : c ∈ REMOVED_CODEPOINTS := by simpa using codepoint
      simp only [REMOVED_CODEPOINTS, List.mem_cons, List.not_mem_nil, or_false] at listed
      rcases listed with rfl | rfl
      · exact Or.inr (Or.inr (Or.inr lawful.category_joiner))
      · exact Or.inr (Or.inr (Or.inl lawful.category_selector))
  rcases part with symbol | modifier | mark | format
  · have still := lawful.casefold_symbol c symbol d spelled
    simp [kept, still, REMOVED_CATEGORIES]
  · apply own (lawful.casefold_other c _ _ _ _)
    all_goals
      rw [modifier]
      decide
  · exact own (lawful.casefold_mark c mark other)
  · apply own (lawful.casefold_other c _ _ _ _)
    all_goals
      rw [format]
      decide

theorem words_run (silent : ∀ c ∈ text, u.Silent c) :
    words u.isspace (u.scrubbed text) = [] := by
  apply lawful.words_scrubbed_eq_nil
  intro d there held
  rcases List.mem_flatMap.1 there with ⟨c, own, spelled⟩
  rcases silent c own with ⟨removed, other⟩ | part
  · rw [lawful.kept_folded removed other spelled] at held
    exact absurd held (by decide)
  · have outside := List.mem_append_right GeneralCategory.gaps part
    rw [lawful.casefold_outside outside, List.mem_singleton] at spelled
    exact spelled ▸ lawful.isalnum_outside outside

theorem words_url (found : u.startsUrl text = true) (dark : ∀ c ∈ text, u.isspace c = false) :
    words u.isspace (u.scrubbed text) = [] := by
  have folded : ∀ d ∈ u.folded text, u.isspace d = false := by
    intro d there
    rcases List.mem_flatMap.1 there with ⟨c, own, spelled⟩
    exact lawful.casefold_dark c (dark c own) d spelled
  unfold scrubbed
  rw [subUrls_of_startsUrl (lawful.startsUrl_folded found) folded]
  exact words_nil

/-- No noise has a word. -/
theorem words_noise (noise : u.Noise text) : words u.isspace (u.scrubbed text) = [] := by
  cases noise with
  | url found dark => exact lawful.words_url found dark
  | mention _ named => exact lawful.words_mention named
  | run silent => exact lawful.words_run silent

/-- A piece without words leaves, with whitespace on both sides, the words before and after it. -/
theorem words_between {run piece next : List Char}
    (silent : words u.isspace (u.scrubbed piece) = []) (blank : Blank u.isspace run)
    (some_gap : run ≠ []) (next_blank : Blank u.isspace next) (some_next : next ≠ []) :
    words u.isspace (u.scrubbed (before ++ run ++ piece ++ next ++ after)) =
      words u.isspace (u.scrubbed before) ++ words u.isspace (u.scrubbed after) := by
  have pass := lawful.blockwise
  have both : Blank u.isspace (run ++ next) := by
    intro c there
    exact (List.mem_append.1 there).elim (blank c) (next_blank c)
  calc words u.isspace (u.scrubbed (before ++ run ++ piece ++ next ++ after))
      = words u.isspace (u.scrubbed (before ++ run ++ piece ++ (next ++ after))) := by
        rw [List.append_assoc _ next]
    _ = words u.isspace (u.scrubbed (before ++ run ++ (next ++ after))) :=
        pass.words_insert silent (blank.ends some_gap) (next_blank.starts some_next)
    _ = words u.isspace (u.scrubbed (before ++ (run ++ next) ++ after)) := by
        simp only [List.append_assoc]
    _ = words u.isspace (u.scrubbed before) ++ words u.isspace (u.scrubbed after) :=
        pass.words_gap both (List.append_ne_nil_of_left_ne_nil some_gap next)

/-! ### A normalized text -/

/-- Case folding changes no character that it has spelled. -/
theorem casefold_of_mem_folded {d : Char} (there : d ∈ u.folded text) : u.casefold d = [d] := by
  rcases List.mem_flatMap.1 there with ⟨c, -, spelled⟩
  exact spell_eq_of_flatMap_eq lawful.casefold_ne_nil (lawful.casefold_casefold c) d spelled

/-- The words are alphanumeric, and case folding and the filter leave them alone. -/
theorem of_mem_words {word : List Char} (listed : word ∈ words u.isspace (u.scrubbed text)) :
    IsWord u.isspace word ∧ ∀ c ∈ word,
      u.isalnum c = true ∧ u.casefold c = [c] ∧ u.kept c = true := by
  rcases isWord_of_mem listed with ⟨whole, from_text⟩
  refine ⟨whole, fun c there => ?_⟩
  rcases mem_scrubbed (from_text c there) with ⟨d, folded, held, same⟩
  unfold spaced at same
  split at same
  · rename_i alnum
    subst same
    exact ⟨alnum, lawful.casefold_of_mem_folded folded, held⟩
  · subst same
    have dark := whole.2 ' ' there
    rw [lawful.isspace_blank] at dark
    exact absurd dark (by decide)

/-- A text of such characters and spaces is left as it is. -/
theorem scrubbed_eq_self (plain : ∀ c ∈ text, c = ' ' ∨
    (u.isalnum c = true ∧ u.casefold c = [c] ∧ u.kept c = true)) : u.scrubbed text = text := by
  have space := lawful.casefold_ascii ' ' (by decide)
  have fold : u.folded text = text := by
    unfold folded
    calc text.flatMap u.casefold = text.flatMap (fun c => [c]) := by
          refine List.flatMap_congr (fun c there => ?_)
          rcases plain c there with rfl | ⟨-, single, -⟩
          · exact space
          · exact single
      _ = text := List.flatMap_singleton' text
  have absent : ∀ c : Char, c ≠ ' ' → c.toNat < 128 → c.isAlphanum = false → c ∉ text := by
    intro c other ascii sign there
    rcases plain c there with rfl | ⟨alnum, -, -⟩
    · exact other rfl
    · rw [lawful.alnum_ascii c ascii, sign] at alnum
      exact absurd alnum (by decide)
  have held : text.filter u.kept = text := by
    refine List.filter_eq_self.2 (fun c there => ?_)
    rcases plain c there with rfl | ⟨-, -, held⟩
    · exact lawful.kept_of_isspace lawful.isspace_blank
    · exact held
  unfold scrubbed
  rw [fold, subUrls_of_notMem (absent ':' (by decide) (by decide) (by decide)), held,
    subMentions_of_notMem (absent '@' (by decide) (by decide) (by decide))]
  calc text.map u.spaced = text.map id := by
        refine List.map_congr_left (fun c there => ?_)
        unfold spaced
        rcases plain c there with rfl | ⟨alnum, -, -⟩
        · exact ite_self ' '
        · exact if_pos alnum
    _ = text := List.map_id text

theorem normalized_normalized (text : String) :
    u.normalized (u.normalized text) = u.normalized text := by
  have listed : ∀ word ∈ words u.isspace (u.scrubbed text.toList), IsWord u.isspace word :=
    fun word there => (lawful.of_mem_words there).1
  unfold normalized
  rw [String.toList_ofList, lawful.scrubbed_eq_self, words_unwords lawful.isspace_blank listed]
  intro c there
  rcases mem_unwords there with same | ⟨word, held, own⟩
  · exact Or.inl same
  · exact Or.inr ((lawful.of_mem_words held).2 c own)

omit lawful in
theorem normalized_congr {text other : String}
    (same : words u.isspace (u.scrubbed text.toList) = words u.isspace (u.scrubbed other.toList)) :
    u.normalized text = u.normalized other := by
  unfold normalized
  rw [same]

end Lawful

/-- Normalization sees whitespace where noise stands between whitespace, no matter where in a text,
and neither case nor a second normalization. -/
structure IgnoresNoise (u : UnicodeData) : Prop where
  beside : ∀ left noise right : String, u.Noise noise.toList → Ends u.isspace left.toList →
    Starts u.isspace right.toList → u.normalized (left ++ noise ++ right) =
      u.normalized (left ++ right)
  apart : ∀ before gap noise next after : String, u.Noise noise.toList →
    gap ≠ "" → Blank u.isspace gap.toList → next ≠ "" → Blank u.isspace next.toList →
    u.normalized (before ++ gap ++ noise ++ next ++ after) = u.normalized (before ++ gap ++ after) ∧
      (Ends u.isspace before.toList ∨ Starts u.isspace after.toList →
        u.normalized (before ++ gap ++ noise ++ next ++ after) = u.normalized (before ++ after))
  casefold : ∀ text other : String, u.folded text.toList = u.folded other.toList →
    u.normalized text = u.normalized other
  idempotent : ∀ text, u.normalized (u.normalized text) = u.normalized text
  words : ∀ text, ∃ parts : List (List Char),
    u.normalized text = String.ofList (unwords ' ' parts) ∧
      ∀ part ∈ parts, part ≠ [] ∧ ∀ c ∈ part, u.isalnum c = true

theorem ignoresNoise (u : UnicodeData) (lawful : u.Lawful) : u.IgnoresNoise where
  beside left noise right silent ends starts := by
    apply Lawful.normalized_congr
    rw [String.toList_append, String.toList_append, String.toList_append]
    exact lawful.blockwise.words_insert (lawful.words_noise silent) ends starts
  apart before gap noise next after silent some_gap blank some_next next_blank := by
    have gap_ne : gap.toList ≠ [] := fun empty => some_gap (String.toList_eq_nil_iff.1 empty)
    have next_ne : next.toList ≠ [] := fun empty => some_next (String.toList_eq_nil_iff.1 empty)
    have noisy := @Lawful.words_between u before.toList after.toList lawful _ _ _
      (lawful.words_noise silent) blank gap_ne next_blank next_ne
    constructor
    · apply Lawful.normalized_congr
      simp only [String.toList_append]
      rw [noisy, lawful.blockwise.words_gap blank gap_ne]
    · intro between
      apply Lawful.normalized_congr
      simp only [String.toList_append]
      rw [noisy, lawful.blockwise.words_append between]
  casefold text other same := by
    unfold normalized scrubbed
    rw [same]
  idempotent := lawful.normalized_normalized
  words text := ⟨words u.isspace (u.scrubbed text.toList), rfl, fun part listed =>
    ⟨(lawful.of_mem_words listed).1.1, fun c there => ((lawful.of_mem_words listed).2 c there).1⟩⟩

end UnicodeData

/-! ### A table of some characters -/

/-- Characters beyond ASCII, each with what it folds to, its category and whether it is
alphanumeric. -/
def sampleTable : List (Char × List Char × GeneralCategory × Bool) :=
  [('ſ', ['s'], .ll, true), ('É', ['é'], .lu, true), ('é', ['é'], .ll, true),
    ('ß', ['s', 's'], .ll, true), ('İ', ['i', '\u0307'], .lu, true), ('ι', ['ι'], .ll, true),
    ('\u0307', ['\u0307'], .mn, false), (YPOGEGRAMMENI, ['ι'], .mn, false),
    ('\u200d', ['\u200d'], .cf, false), ('\ufe0f', ['\ufe0f'], .mn, false),
    ('\u2026', ['\u2026'], .po, false), ('Ⓐ', ['ⓐ'], .so, false), ('ⓐ', ['ⓐ'], .so, false),
    ('😀', ['😀'], .so, false), ('✅', ['✅'], .so, false)]

/-- The character data of ASCII and of the table. -/
def sampleUnicode : UnicodeData where
  casefold c := if c.toNat < 128 then [c.toLower]
    else ((sampleTable.lookup c).map (fun row => row.1)).getD [c]
  category c := if c.toNat < 128 then .ascii c
    else ((sampleTable.lookup c).map (fun row => row.2.1)).getD .cn
  isalnum c := if c.toNat < 128 then c.isAlphanum
    else ((sampleTable.lookup c).map (fun row => row.2.2)).getD false
  isspace c := decide (c.toNat < 128) && asciiSpace c

/-- What holds of ASCII, of the table and of every other character holds of all. -/
theorem sample_cases {P : Char → Prop} (ascii : ∀ n < 128, P (Char.ofNat n))
    (listed : ∀ row ∈ sampleTable, P row.1)
    (other : ∀ c, sampleUnicode.casefold c = [c] → sampleUnicode.category c = .cn →
      sampleUnicode.isalnum c = false → sampleUnicode.isspace c = false → P c) (c : Char) :
    P c := by
  by_cases plain : c.toNat < 128
  · have own := ascii c.toNat plain
    rwa [Char.ofNat_toNat] at own
  · cases found : sampleTable.lookup c with
    | none => apply other <;> simp [sampleUnicode, plain, found]
    | some row =>
        rcases List.lookup_eq_some_iff.1 found with ⟨before, after, split, -⟩
        exact listed (c, row) (split ▸ List.mem_append_right before List.mem_cons_self)

theorem sampleUnicode_lawful : sampleUnicode.Lawful where
  casefold_casefold := sample_cases (by decide) (by decide) (by
    intro c fold _ _ _
    rw [fold, List.flatMap_singleton, fold])
  casefold_ne_nil := sample_cases (by decide) (by decide) (by
    intro c fold _ _ _
    rw [fold]
    exact List.cons_ne_nil c [])
  casefold_ascii c plain := if_pos plain
  casefold_long_s := by decide
  casefold_symbol := sample_cases (by decide) (by decide) (by
    intro c fold category _ _ symbol
    rw [category] at symbol
    exact absurd symbol (by decide))
  casefold_mark := sample_cases (by decide) (by decide) (fun c fold _ _ _ _ _ => fold)
  casefold_alnum := sample_cases (by decide) (by decide) (by
    intro c _ _ sign _ alnum
    rw [sign] at alnum
    exact absurd alnum (by decide))
  casefold_dark := sample_cases (by decide) (by decide) (by
    intro c fold _ _ dark _ d there
    rw [fold, List.mem_singleton] at there
    exact there ▸ dark)
  casefold_other c letter mark _ symbol := by
    have cases := sample_cases (P := fun c => sampleUnicode.casefold c = [c] ∨
      sampleUnicode.category c ∈ .so :: GeneralCategory.letters ++ GeneralCategory.marks)
      (by decide) (by decide) (fun c fold _ _ _ => Or.inl fold) c
    refine cases.resolve_right ?_
    simp [letter, mark, symbol]
  category_ascii c plain := if_pos plain
  category_joiner := by decide
  category_selector := by decide
  alnum_ascii c plain := if_pos plain
  alnum_category := sample_cases (by decide) (by decide) (by
    intro c _ _ sign _ alnum
    rw [sign] at alnum
    exact absurd alnum (by decide))
  space_ascii c plain := by simp [sampleUnicode, plain]
  space_category := sample_cases (by decide) (by decide) (by
    intro c _ _ _ dark space
    rw [dark] at space
    exact absurd space (by decide))

example : sampleUnicode.normalized "Need a Telegram-bot! @alice https://example.com/brief 😀" =
    sampleUnicode.normalized "need a TELEGRAM bot @bob ✅ HTTPS://another.example/path" := by
  decide +kernel

/-- What the emoji leaves of a text is what the text was. -/
theorem ignoresNoise_sample : sampleUnicode.normalized ("hello " ++ "😀" ++ " world") =
    sampleUnicode.normalized ("hello " ++ " world") := by
  refine (UnicodeData.ignoresNoise sampleUnicode sampleUnicode_lawful).beside _ _ _ ?_ ?_ ?_
  · exact .run (by decide)
  · exact Or.inr ⟨"hello".toList, ' ', by decide, by decide⟩
  · exact Or.inr ⟨' ', "world".toList, by decide, by decide⟩

/-- Noise inside a word parts it, and a combining character can become a word. -/
theorem insertion_seen :
    (sampleUnicode.Lawful ∧ sampleUnicode.Noise "😀".toList ∧
      sampleUnicode.normalized "hello" ≠ sampleUnicode.normalized "hel 😀 lo") ∧
    sampleUnicode.category YPOGEGRAMMENI = .mn ∧
      sampleUnicode.normalized "a b" ≠ sampleUnicode.normalized "a \u0345 b" := by
  refine ⟨⟨sampleUnicode_lawful, .run ?_, ?_⟩, ?_, ?_⟩ <;> decide

end LeadAssistant
