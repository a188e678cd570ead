/-
Module: LeadAssistant.Library.Pattern
Layer: Library
Purpose: Regular expressions with assertions, as they are matched at a place of a text: an assertion
  sees what is before the place and what is after it. `ends` computes where a match can end, `search`
  and `fullmatch` ask for a match anywhere and for a match of the whole text. A pattern that asserts
  nothing reads a language, and the languages of a compound pattern are those of its parts.
Trusted boundary: none
Main exports: Pattern, Pattern.Place, Pattern.Matches, Pattern.ends, Pattern.mem_ends, Pattern.search,
  Pattern.search_iff, Pattern.Takes, Pattern.takes_seq, Pattern.takes_alt, Pattern.takes_star
-/
import Mathlib.Computability.Language
import Mathlib.Logic.Relation

/-- A regular expression; `check` is an assertion about what is before a place, the nearest first,
and what is after it. -/
inductive Pattern (α : Type*) where
  | check (holds : List α → List α → Bool)
  | one (accepts : α → Bool)
  | seq (first second : Pattern α)
  | alt (left right : Pattern α)
  | star (body : Pattern α)

namespace Pattern

variable {α : Type*}

/-- A place in a text, with what is before it, the nearest first, and what is after it. -/
@[ext] structure Place (α : Type*) where
  before : List α
  after : List α

namespace Place

/-- `y` is behind `x`, with `taken` between them. -/
def Reaches (taken : List α) (x y : Place α) : Prop :=
  x.after = taken ++ y.after ∧ y.before = taken.reverse ++ x.before

variable {x y z : Place α} {taken more : List α}

theorem Reaches.refl (x : Place α) : Reaches [] x x := ⟨rfl, rfl⟩

theorem Reaches.trans (first : Reaches taken x y) (second : Reaches more y z) :
    Reaches (taken ++ more) x z := by
  constructor
  · rw [first.1, second.1, List.append_assoc]
  · rw [second.2, first.2, List.reverse_append, List.append_assoc]

theorem Reaches.split (whole : Reaches (taken ++ more) x z) :
    ∃ y, Reaches taken x y ∧ Reaches more y z := by
  refine ⟨⟨taken.reverse ++ x.before, more ++ z.after⟩, ⟨?_, rfl⟩, rfl, ?_⟩
  · rw [whole.1, List.append_assoc]
  · rw [whole.2, List.reverse_append, List.append_assoc]

theorem Reaches.eq (none : Reaches ([] : List α) x y) : y = x :=
  Place.ext none.2 none.1.symm

theorem Reaches.length (reached : Reaches taken x y) :
    x.after.length = taken.length + y.after.length := by
  rw [reached.1, List.length_append]

end Place

/-- `Matches p x y`: a match of `p` can begin at `x` and end at `y`. -/
def Matches : Pattern α → Place α → Place α → Prop
  | check holds, x, y => holds x.before x.after = true ∧ y = x
  | one accepts, x, y => ∃ c, accepts c = true ∧ Place.Reaches [c] x y
  | seq first second, x, y => ∃ z, Matches first x z ∧ Matches second z y
  | alt left right, x, y => Matches left x y ∨ Matches right x y
  | star body, x, y => Relation.ReflTransGen (Matches body) x y

/-- Where a repetition can end that takes a character with every round. -/
def starEnds (ends : Place α → List (Place α)) : Nat → Place α → List (Place α)
  | 0, x => [x]
  | rounds + 1, x =>
      x :: ((ends x).filter (fun y => y.after.length < x.after.length)).flatMap
        (starEnds ends rounds)

/-- Where a match that begins at a place can end. -/
def ends : Pattern α → Place α → List (Place α)
  | check holds, x => if holds x.before x.after then [x] else []
  | one accepts, x =>
      match x.after with
      | [] => []
      | c :: rest => if accepts c then [⟨c :: x.before, rest⟩] else []
  | seq first second, x => (first.ends x).flatMap second.ends
  | alt left right, x => left.ends x ++ right.ends x
  | star body, x => starEnds body.ends x.after.length x

variable {p : Pattern α} {x y : Place α}

/-- A match goes forward in its text. -/
theorem Matches.reaches (found : Matches p x y) : ∃ taken, Place.Reaches taken x y := by
  induction p generalizing x y with
  | check holds => exact ⟨[], found.2 ▸ Place.Reaches.refl x⟩
  | one accepts =>
      obtain ⟨c, _, reached⟩ := found
      exact ⟨[c], reached⟩
  | seq first second ih ih' =>
      obtain ⟨z, front, behind⟩ := found
      obtain ⟨taken, reached⟩ := ih front
      obtain ⟨more, reached'⟩ := ih' behind
      exact ⟨taken ++ more, reached.trans reached'⟩
  | alt left right ih ih' =>
      cases found with
      | inl found => exact ih found
      | inr found => exact ih' found
  | star body ih =>
      induction found with
      | refl => exact ⟨[], Place.Reaches.refl x⟩
      | tail _ last rounds =>
          obtain ⟨taken, reached⟩ := rounds
          obtain ⟨more, reached'⟩ := ih last
          exact ⟨taken ++ more, reached.trans reached'⟩

/-- A match that takes nothing ends where it began. -/
theorem Matches.eq_or_shorter (found : Matches p x y) :
    y = x ∨ y.after.length < x.after.length := by
  obtain ⟨taken, reached⟩ := found.reaches
  cases taken with
  | nil => exact Or.inl reached.eq
  | cons c taken =>
      have longer := reached.length
      rw [List.length_cons] at longer
      exact Or.inr (by omega)

theorem starEnds_sound {body : Pattern α} {rounds : Nat}
    (sound : ∀ x y, y ∈ body.ends x → Matches body x y)
    (there : y ∈ starEnds body.ends rounds x) : Matches (star body) x y := by
  induction rounds generalizing x with
  | zero =>
      rw [starEnds, List.mem_singleton] at there
      exact there ▸ Relation.ReflTransGen.refl
  | succ rounds ih =>
      rw [starEnds, List.mem_cons, List.mem_flatMap] at there
      rcases there with rfl | ⟨z, first, rest⟩
      · exact Relation.ReflTransGen.refl
      · exact Relation.ReflTransGen.head (sound x z (List.mem_of_mem_filter first)) (ih rest)

theorem starEnds_complete {body : Pattern α}
    (complete : ∀ x y, Matches body x y → y ∈ body.ends x) (found : Matches (star body) x y)
    (rounds : Nat) (enough : x.after.length ≤ rounds) : y ∈ starEnds body.ends rounds x := by
  change Relation.ReflTransGen (Matches body) x y at found
  induction found using Relation.ReflTransGen.head_induction_on generalizing rounds with
  | refl => cases rounds <;> simp [starEnds]
  | head first rest ih =>
      rename_i x z
      -- a round that takes nothing is left out
      rcases first.eq_or_shorter with same | shorter
      · exact same ▸ ih rounds (same ▸ enough)
      · cases rounds with
        | zero => exact absurd enough (by omega)
        | succ rounds =>
            rw [starEnds, List.mem_cons, List.mem_flatMap]
            refine Or.inr ⟨z, ?_, ih rounds (by omega)⟩
            exact List.mem_filter.2 ⟨complete x z first, by simpa using shorter⟩

/-- `ends` lists exactly the ends of the matches. -/
theorem mem_ends : y ∈ p.ends x ↔ Matches p x y := by
  induction p generalizing x y with
  | check holds =>
      unfold ends Matches
      split <;> simp_all
  | one accepts =>
      unfold ends Matches Place.Reaches
      obtain ⟨before, after⟩ := x
      cases after with
      | nil => simp
      | cons c rest =>
          by_cases taken : accepts c = true
          · simp only [taken, if_true, List.mem_singleton, List.cons_append, List.nil_append]
            constructor
            · rintro rfl
              exact ⟨c, taken, rfl, rfl⟩
            · rintro ⟨d, _, here, there⟩
              cases here
              exact Place.ext there rfl
          · simp only [taken, Bool.false_eq_true, if_false, List.not_mem_nil, false_iff]
            rintro ⟨d, accepted, here, _⟩
            cases here
            exact taken accepted
  | seq first second ih ih' => simp only [ends, Matches, List.mem_flatMap, ih, ih']
  | alt left right ih ih' => simp only [ends, Matches, List.mem_append, ih, ih']
  | star body ih =>
      constructor
      · exact starEnds_sound (fun _ _ => ih.1)
      · exact fun found => starEnds_complete (fun _ _ => ih.2) found _ le_rfl

/-! ### Looking for a match -/

/-- The places of a text from one place on. -/
def places : List α → List α → List (Place α)
  | before, [] => [⟨before, []⟩]
  | before, c :: after => ⟨before, c :: after⟩ :: places (c :: before) after

/-- There is a match somewhere in a text. -/
def search (p : Pattern α) (text : List α) : Bool :=
  (places [] text).any (fun x => !(p.ends x).isEmpty)

/-- There is a match of a whole text. -/
def fullmatch (p : Pattern α) (text : List α) : Bool :=
  (p.ends ⟨[], text⟩).any (fun y => y.after.isEmpty)

theorem mem_places {before after : List α} :
    x ∈ places before after ↔ ∃ taken, Place.Reaches taken ⟨before, after⟩ x := by
  induction after generalizing before with
  | nil =>
      rw [places, List.mem_singleton]
      constructor
      · rintro rfl
        exact ⟨[], Place.Reaches.refl _⟩
      · rintro ⟨taken, reached⟩
        obtain ⟨nothing, _⟩ := List.append_eq_nil_iff.1 reached.1.symm
        exact (nothing ▸ reached).eq
  | cons c after ih =>
      rw [places, List.mem_cons, ih]
      constructor
      · rintro (rfl | ⟨taken, reached⟩)
        · exact ⟨[], Place.Reaches.refl _⟩
        · have first : Place.Reaches [c] ⟨before, c :: after⟩ ⟨c :: before, after⟩ := ⟨rfl, rfl⟩
          exact ⟨[c] ++ taken, first.trans reached⟩
      · rintro ⟨taken, reached⟩
        cases taken with
        | nil => exact Or.inl reached.eq
        | cons d taken =>
            obtain ⟨here, rest⟩ := List.cons.inj reached.1
            subst here
            exact Or.inr ⟨taken, rest, by simpa using reached.2⟩

/-- A search finds a match wherever there is one. -/
theorem search_iff {text : List α} :
    p.search text = true ↔ ∃ before taken after, text = before ++ (taken ++ after) ∧
      Matches p ⟨before.reverse, taken ++ after⟩ ⟨taken.reverse ++ before.reverse, after⟩ := by
  unfold search
  rw [List.any_eq_true]
  constructor
  · rintro ⟨⟨near, rest⟩, there, some_end⟩
    obtain ⟨before, front⟩ := mem_places.1 there
    obtain ⟨y, ending⟩ := List.exists_mem_of_ne_nil (p.ends ⟨near, rest⟩) (by simpa using some_end)
    have found := mem_ends.1 ending
    obtain ⟨taken, whole, far⟩ := found.reaches
    obtain ⟨near', rest'⟩ := y
    simp only at whole far
    refine ⟨before, taken, rest', ?_, ?_⟩
    · rw [← whole]
      exact front.1
    · have back : near = before.reverse := by simpa using front.2
      rwa [far, whole, back] at found
  · rintro ⟨before, taken, after, rfl, found⟩
    refine ⟨⟨before.reverse, taken ++ after⟩, mem_places.2 ⟨before, rfl, ?_⟩, ?_⟩
    · exact (List.append_nil _).symm
    · have ending := mem_ends.2 found
      simpa using List.ne_nil_of_mem ending

/-! ### Patterns that assert nothing -/

/-- The matches of the pattern are what the language has, wherever it stands. -/
def Takes (p : Pattern α) (language : Language α) : Prop :=
  ∀ x y, Matches p x y ↔ ∃ taken ∈ language, Place.Reaches taken x y

variable {q : Pattern α} {L M : Language α}

/-- The texts of one character of a class. -/
def single (accepts : α → Bool) : Language α := {text | ∃ c, accepts c = true ∧ text = [c]}

/-- The texts of characters of a class. -/
def chars (accepts : α → Bool) : Language α := {text | ∀ c ∈ text, accepts c = true}

/-- The texts that one of several languages has. -/
def someOf {β : Type*} (languages : β → Language α) (parts : List β) : Language α :=
  {text | ∃ b ∈ parts, text ∈ languages b}

theorem takes_one (accepts : α → Bool) : Takes (one accepts) (single accepts) := by
  intro x y
  constructor
  · rintro ⟨c, accepted, reached⟩
    exact ⟨[c], ⟨c, accepted, rfl⟩, reached⟩
  · rintro ⟨_, ⟨c, accepted, rfl⟩, reached⟩
    exact ⟨c, accepted, reached⟩

theorem takes_seq (left : Takes p L) (right : Takes q M) : Takes (seq p q) (L * M) := by
  intro x y
  constructor
  · rintro ⟨z, front, behind⟩
    obtain ⟨taken, inside, reached⟩ := (left x z).1 front
    obtain ⟨more, inside', reached'⟩ := (right z y).1 behind
    exact ⟨taken ++ more, Language.append_mem_mul inside inside', reached.trans reached'⟩
  · rintro ⟨_, whole, reached⟩
    obtain ⟨taken, inside, more, inside', rfl⟩ := Language.mem_mul.1 whole
    obtain ⟨z, front, behind⟩ := reached.split
    exact ⟨z, (left x z).2 ⟨taken, inside, front⟩, (right z y).2 ⟨more, inside', behind⟩⟩

theorem takes_alt (left : Takes p L) (right : Takes q M) : Takes (alt p q) (L + M) := by
  intro x y
  unfold Matches
  rw [left x y, right x y]
  simp only [Language.mem_add, or_and_right, exists_or]

theorem takes_star (each : Takes p L) : Takes (star p) (KStar.kstar L) := by
  intro x y
  constructor
  · intro found
    change Relation.ReflTransGen (Matches p) x y at found
    induction found with
    | refl => exact ⟨[], Language.nil_mem_kstar L, Place.Reaches.refl x⟩
    | tail _ last ih =>
        obtain ⟨taken, inside, reached⟩ := ih
        obtain ⟨more, inside', reached'⟩ := (each _ _).1 last
        obtain ⟨parts, rfl, within⟩ := Language.mem_kstar.1 inside
        refine ⟨parts.flatten ++ more, ?_, reached.trans reached'⟩
        refine Language.mem_kstar.2 ⟨parts ++ [more], by simp, fun part there => ?_⟩
        rcases List.mem_append.1 there with front | behind
        · exact within part front
        · exact List.mem_singleton.1 behind ▸ inside'
  · rintro ⟨_, inside, reached⟩
    obtain ⟨parts, rfl, within⟩ := Language.mem_kstar.1 inside
    induction parts generalizing x with
    | nil => exact reached.eq ▸ Relation.ReflTransGen.refl
    | cons part parts ih =>
        obtain ⟨z, front, behind⟩ := Place.Reaches.split reached
        have first := (each x z).2 ⟨part, within part List.mem_cons_self, front⟩
        have kept := fun other there => within other (List.mem_cons_of_mem part there)
        exact Relation.ReflTransGen.head first
          (ih z kept (Language.join_mem_kstar kept) behind)

/-- The pattern that matches nothing but the empty text. -/
def empty : Pattern α := check (fun _ _ => true)

/-- One pattern after another. -/
def all : List (Pattern α) → Pattern α
  | [] => empty
  | p :: rest => seq p (all rest)

/-- Alternatives as they are written, with a bar between two of them. No alternative at all is the
empty text. -/
def choice : List (Pattern α) → Pattern α
  | [] => empty
  | [p] => p
  | p :: q :: rest => alt p (choice (q :: rest))

/-- One repetition or more. -/
def plus (p : Pattern α) : Pattern α := seq p (star p)

theorem takes_empty : Takes (empty : Pattern α) 1 := by
  intro x y
  constructor
  · rintro ⟨_, rfl⟩
    exact ⟨[], Language.nil_mem_one, Place.Reaches.refl y⟩
  · rintro ⟨_, rfl, reached⟩
    exact ⟨rfl, reached.eq⟩

theorem takes_all {β : Type*} {patterns : β → Pattern α} {languages : β → Language α}
    (each : ∀ b, Takes (patterns b) (languages b)) (parts : List β) :
    Takes (all (parts.map patterns)) (parts.map languages).prod := by
  induction parts with
  | nil => exact takes_empty
  | cons part parts ih =>
      rw [List.map_cons, List.map_cons, List.prod_cons]
      exact takes_seq (each part) ih

theorem takes_choice {β : Type*} {patterns : β → Pattern α} {languages : β → Language α}
    (each : ∀ b, Takes (patterns b) (languages b)) {parts : List β} (some_part : parts ≠ []) :
    Takes (choice (parts.map patterns)) (someOf languages parts) := by
  induction parts with
  | nil => exact absurd rfl some_part
  | cons part parts ih =>
      cases parts with
      | nil =>
          have single : languages part = someOf languages [part] := by
            ext text
            constructor
            · exact fun inside => ⟨part, List.mem_singleton_self part, inside⟩
            · rintro ⟨b, listed, inside⟩
              exact List.mem_singleton.1 listed ▸ inside
          exact single ▸ each part
      | cons next parts =>
          have split : languages part + someOf languages (next :: parts) =
              someOf languages (part :: next :: parts) := by
            ext text
            rw [Language.mem_add]
            exact (List.exists_mem_cons_iff (fun b => text ∈ languages b) part _).symm
          exact split ▸ takes_alt (each part) (ih (List.cons_ne_nil next parts))

theorem mem_prod {β : Type*} {languages : β → Language α} {parts : List β} {text : List α} :
    text ∈ (parts.map languages).prod ↔
      ∃ found, List.Forall₂ (fun part run => run ∈ languages part) parts found ∧
        found.flatten = text := by
  induction parts generalizing text with
  | nil =>
      constructor
      · rintro rfl
        exact ⟨[], .nil, rfl⟩
      · rintro ⟨_, ⟨⟩, rfl⟩
        exact Language.nil_mem_one
  | cons part parts ih =>
      rw [List.map_cons, List.prod_cons, Language.mem_mul]
      constructor
      · rintro ⟨run, here, rest, behind, rfl⟩
        obtain ⟨found, each, rfl⟩ := ih.1 behind
        exact ⟨run :: found, .cons here each, rfl⟩
      · rintro ⟨_, @⟨⟩ | @⟨_, run, _, found, here, each⟩, rfl⟩
        exact ⟨run, here, found.flatten, ih.2 ⟨found, each, rfl⟩, rfl⟩

/-- A repetition of a character class reads the texts of the class. -/
theorem takes_star_one (accepts : α → Bool) : Takes (star (one accepts)) (chars accepts) := by
  have same : KStar.kstar (single accepts) = chars accepts := by
    ext text
    constructor
    · intro inside
      obtain ⟨parts, rfl, within⟩ := Language.mem_kstar.1 inside
      intro c there
      obtain ⟨part, listed, here⟩ := List.mem_flatten.1 there
      obtain ⟨d, accepted, rfl⟩ := within part listed
      exact List.mem_singleton.1 here ▸ accepted
    · intro each
      refine Language.mem_kstar.2 ⟨text.map (fun c => [c]), ?_, fun part there => ?_⟩
      · induction text with
        | nil => rfl
        | cons c text ih =>
            have rest := ih fun d there => each d (List.mem_cons_of_mem c there)
            rw [List.map_cons, List.flatten_cons, ← rest, List.singleton_append]
      · obtain ⟨c, here, rfl⟩ := List.mem_map.1 there
        exact ⟨c, each c here, rfl⟩
  exact same ▸ takes_star (takes_one accepts)

/-! ### Word boundaries -/

/-- Exactly one of two neighbours is a character of words; outside of the text there is none. -/
def Border (word : α → Bool) (before after : List α) : Prop :=
  (before.getLast?.any word) ≠ (after.head?.any word)

/-- The assertion of a word boundary. -/
def boundary (word : α → Bool) : Pattern α :=
  check (fun before after => before.head?.any word != after.head?.any word)

/-- A pattern between two word boundaries. -/
def bounded (word : α → Bool) (body : Pattern α) : Pattern α :=
  seq (boundary word) (seq body (boundary word))

theorem search_bounded {word : α → Bool} {body : Pattern α} (reads : Takes body L)
    {text : List α} : (bounded word body).search text = true ↔
      ∃ before taken after, text = before ++ (taken ++ after) ∧ taken ∈ L ∧
        Border word before (taken ++ after) ∧ Border word (before ++ taken) after := by
  rw [search_iff]
  refine exists_congr fun before => exists_congr fun taken => exists_congr fun after => ?_
  refine and_congr_right fun _ => ?_
  have nearest : ∀ front : List α, front.reverse.head? = front.getLast? := fun _ =>
    List.head?_reverse
  constructor
  · rintro ⟨x, ⟨opens, rfl⟩, y, found, closes, same⟩
    obtain ⟨read, inside, reached⟩ := (reads _ _).1 found
    subst same
    obtain rfl : taken = read := List.append_cancel_right reached.1
    rw [bne_iff_ne, nearest] at opens
    rw [bne_iff_ne, ← List.reverse_append, nearest] at closes
    exact ⟨inside, opens, closes⟩
  · rintro ⟨inside, opens, closes⟩
    refine ⟨_, ⟨?_, rfl⟩, _, (reads _ _).2 ⟨taken, inside, rfl, rfl⟩, ?_, rfl⟩
    · rwa [bne_iff_ne, nearest]
    · rwa [bne_iff_ne, ← List.reverse_append, nearest]

theorem any_head_stop {word : α → Bool} {stop : α} (no_word : word stop = false)
    (rest back : List α) :
    (rest ++ stop :: back).head?.any word = rest.head?.any word := by
  cases rest with
  | nil => simp [no_word]
  | cons c rest => rfl

theorem any_getLast_stop {word : α → Bool} {stop : α} (no_word : word stop = false)
    (front rest : List α) :
    (front ++ stop :: rest).getLast?.any word = rest.getLast?.any word := by
  cases rest with
  | nil => simp [no_word]
  | cons c rest => simp [List.getLast?_append, List.getLast?_cons]

/-- A character that is in no match and in no word keeps what is before it and what is after it
apart. -/
theorem search_parted {word : α → Bool} {body : Pattern α} (reads : Takes body L)
    {front back : List α} {stop : α} (outside : ∀ taken ∈ L, stop ∉ taken)
    (no_word : word stop = false) :
    (bounded word body).search (front ++ stop :: back) =
      ((bounded word body).search front || (bounded word body).search back) := by
  rw [Bool.eq_iff_iff, Bool.or_eq_true, search_bounded reads, search_bounded reads,
    search_bounded reads]
  unfold Border
  constructor
  · rintro ⟨before, taken, after, whole, inside, opens, closes⟩
    rw [← List.append_assoc] at whole
    rcases List.append_eq_append_iff.1 whole with ⟨gap, past, rest⟩ | ⟨rest, rfl, rfl⟩
    · cases gap with
      | nil =>
          obtain rfl : stop :: back = after := rest
          rw [List.append_nil] at past
          refine Or.inl ⟨before, taken, [], by simp [past], inside, ?_, ?_⟩
          · rwa [any_head_stop no_word, ← List.append_nil taken] at opens
          · simpa [no_word] using closes
      | cons c gap =>
          obtain ⟨rfl, rfl⟩ := List.cons.inj rest
          -- the stop is not in the match, so the match begins behind it
          rcases List.append_eq_append_iff.1 past with ⟨more, rfl, read⟩ | ⟨more, rfl, read⟩
          · exact absurd (read ▸ List.mem_append_right more List.mem_cons_self)
              (outside taken inside)
          · cases more with
            | nil =>
                obtain rfl : stop :: gap = taken := read
                exact absurd List.mem_cons_self (outside _ inside)
            | cons c more =>
                obtain ⟨rfl, rfl⟩ := List.cons.inj read
                refine Or.inr ⟨more, taken, after, List.append_assoc .., inside, ?_, ?_⟩
                · rwa [any_getLast_stop no_word] at opens
                · rwa [List.append_assoc, List.cons_append, any_getLast_stop no_word] at closes
    · refine Or.inl ⟨before, taken, rest, List.append_assoc .., inside, ?_, ?_⟩
      · rwa [← List.append_assoc, any_head_stop no_word] at opens
      · rwa [any_head_stop no_word] at closes
  · rintro (⟨before, taken, after, rfl, inside, opens, closes⟩ |
      ⟨before, taken, after, rfl, inside, opens, closes⟩)
    · refine ⟨before, taken, after ++ stop :: back, by simp, inside, ?_, ?_⟩
      · rwa [← List.append_assoc, any_head_stop no_word]
      · rwa [any_head_stop no_word]
    · refine ⟨front ++ stop :: before, taken, after, by simp, inside, ?_, ?_⟩
      · rwa [any_getLast_stop no_word]
      · rwa [List.append_assoc, List.cons_append, any_getLast_stop no_word]

end Pattern
