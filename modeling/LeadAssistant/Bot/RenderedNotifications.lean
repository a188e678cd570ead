/-
Module: LeadAssistant.Bot.RenderedNotifications
Layer: Bot
Purpose: What can be read back from a rendered notification. Splitting and packing are greedy
  packings; every block is a readable fragment that fits a message, and the block quotes under the
  headings hold the texts of the items.
Trusted boundary: none
Main exports: StoredContent, telegramMarkup, sections, Rendered, renderNotification_rendered
-/
import LeadAssistant.Bot.Notifications
import LeadAssistant.Library.Markup
import LeadAssistant.Library.Packing

namespace LeadAssistant

open Markup

/-- The tags that the renderer uses and the entities of `html.escape`. -/
def telegramMarkup : Vocabulary where
  tags := ["b".toList, "blockquote".toList]
  entities := [("amp".toList, '&'), ("lt".toList, '<'), ("gt".toList, '>'), ("quot".toList, '"'),
    ("#x27".toList, '\x27')]

/-- The elements of a message. -/
def elements (text : String) : List Element :=
  (read telegramMarkup text.toList).getD []

example : (read telegramMarkup "<b>a</b".toList, read telegramMarkup "a&am".toList,
    read telegramMarkup "<b>a</blockquote>".toList, read telegramMarkup "<b>&amp;</b>".toList) =
      (none, none, none, some [⟨"b".toList, "&".toList⟩]) := by decide

/-- The bold line over a chain item. -/
def isHeading (element : Element) : Bool :=
  element.name = "b".toList && "Сообщение ".toList.isPrefixOf element.text

/-- The text of the block quotes before the first heading, and under each heading. -/
def sections : List Element → List Char × List (List Char × List Char)
  | [] => ([], [])
  | element :: rest =>
      let (before, headed) := sections rest
      if element.name = "blockquote".toList then (element.text ++ before, headed)
      else if isHeading element then ([], (element.text, before) :: headed)
      else (before, headed)

/-- The heading of an item. -/
def heading (item : NotificationChainItem) : String :=
  "Сообщение " ++ Numeral.str (item.position + 1) ++
    if item.isTarget then " • целевое сообщение" else ""

/-- The translation of an item, if it has one of its own. -/
def translation (item : NotificationChainItem) : Option String :=
  match item.translatedText with
  | some translated => if translated ≠ item.originalText then some translated else none
  | none => none

/-- Everything that the block quotes of an item have to hold. -/
def quoted (item : NotificationChainItem) : String :=
  item.originalText ++ (translation item).getD ""

/-- Content as the columns of the database hold it. -/
structure StoredContent extends NotificationContent where
  title_fits : chatTitle.length ≤ 255
  topic_fits : ∀ title, topicTitle = some title → title.length ≤ 255
  category_fits : category.length ≤ 30
  confidence_fits : ∀ value, confidence = some value → |value.value| < 10
  author_fits : ∀ item ∈ chain, ∀ author, item.authorDisplayName = some author →
    author.length ≤ 255
  position_fits : ∀ item ∈ chain, -2 ^ 15 ≤ item.position ∧ item.position < 2 ^ 15

/-- Bounded, well-formed messages that lose nothing: there is one, each fits, each can be read, only
the last one has controls, and what stands in block quotes under the headings is, item by item in
ascending order, the original text and then the translation. -/
structure Rendered (content : NotificationContent) (parts : List NotificationPart) : Prop where
  some_part : parts ≠ []
  bounded : ∀ part ∈ parts, part.text.length ≤ TELEGRAM_MESSAGE_LIMIT
  well_formed : ∀ part ∈ parts, (read telegramMarkup part.text.toList).isSome
  controls : ∀ index part, parts[index]? = some part →
    (part.replyMarkup.isSome ↔ index + 1 = parts.length)
  lossless : ∃ items : List NotificationChainItem, items.Perm content.chain ∧
    items.Pairwise (fun first second => first.position ≤ second.position) ∧
    sections (parts.flatMap (fun part => elements part.text)) =
      ([], items.map (fun item => ((heading item).toList, (quoted item).toList)))

/-! ### Escaped text -/

theorem spells_entity {v : Vocabulary} {name : List Char} {c : Char}
    (entities : v.entities = telegramMarkup.entities) (whole : ';' ∉ name)
    (known : telegramMarkup.entities.lookup name = some c) :
    Spells v ('&' :: name ++ [';']) [.char c] :=
  Spells.entity whole (entities ▸ known)

/-- An escaped character is read as the character. -/
theorem spells_escapeChar {v : Vocabulary} (entities : v.entities = telegramMarkup.entities)
    (c : Char) : Spells v (escapeChar c).toList [.char c] := by
  unfold escapeChar
  by_cases amp : c = '&'
  · rw [if_pos amp, amp]
    exact @spells_entity v "amp".toList '&' entities (by decide) (by rfl)
  rw [if_neg amp]
  by_cases left : c = '<'
  · rw [if_pos left, left]
    exact @spells_entity v "lt".toList '<' entities (by decide) (by rfl)
  rw [if_neg left]
  by_cases right : c = '>'
  · rw [if_pos right, right]
    exact @spells_entity v "gt".toList '>' entities (by decide) (by rfl)
  rw [if_neg right]
  by_cases quote : c = '"'
  · rw [if_pos quote, quote]
    exact @spells_entity v "quot".toList '"' entities (by decide) (by rfl)
  rw [if_neg quote]
  by_cases apostrophe : c = '\x27'
  · rw [if_pos apostrophe, apostrophe]
    exact @spells_entity v "#x27".toList '\x27' entities (by decide) (by rfl)
  rw [if_neg apostrophe, String.toList_singleton]
  exact Spells.char left amp right

/-- An escaped character has one to six characters. -/
theorem length_escapeChar (c : Char) : 0 < (escapeChar c).length ∧ (escapeChar c).length ≤ 6 := by
  unfold escapeChar
  split_ifs
  case neg => simp
  all_goals decide

/-- Several characters escaped one by one. -/
def escapeChars (cs : List Char) : String := String.join (cs.map escapeChar)

theorem escape_eq (text : String) : escape text = escapeChars text.toList := rfl

theorem spells_escapeChars {v : Vocabulary} (entities : v.entities = telegramMarkup.entities)
    (cs : List Char) : Spells v (escapeChars cs).toList (cs.map .char) := by
  rw [escapeChars, String.toList_join, List.flatMap_map]
  exact Spells.flatMap (spells_escapeChar entities)

theorem length_escapeChars_le (cs : List Char) : (escapeChars cs).length ≤ 6 * cs.length := by
  induction cs with
  | nil => exact Nat.le_refl 0
  | cons c cs ih =>
    have first := (length_escapeChar c).2
    unfold escapeChars at ih ⊢
    rw [List.map_cons, String.join_cons, String.length_append, List.length_cons]
    omega

/-! ### Splitting -/

/-- The size of an escaped character. -/
def escapedSize (c : Char) : Nat := (escapeChar c).length

/-- The state of the loop as greedy packing. -/
structure Splitting.Packs (s : Splitting) (groups : Packing.Groups Char) : Prop where
  chunks : s.chunks = groups.closed.map escapeChars
  current : s.current = groups.current.map escapeChar
  currentLength : s.currentLength = Packing.width escapedSize 0 groups.current

theorem Splitting.Packs.add {s : Splitting} {groups : Packing.Groups Char} {limit : Nat}
    (packs : s.Packs groups) (c : Char) :
    (s.add limit c).Packs (Packing.place escapedSize 0 limit groups c) := by
  have full_iff : (s.current ≠ [] ∧ limit < s.currentLength + (escapeChar c).length) ↔
      (groups.current ≠ [] ∧
        limit < Packing.width escapedSize 0 groups.current + 0 + escapedSize c) := by
    rw [packs.current, packs.currentLength, Ne, List.map_eq_nil_iff]
    rfl
  by_cases full : s.current ≠ [] ∧ limit < s.currentLength + (escapeChar c).length
  · simp only [Splitting.add, Packing.place, if_pos full, if_pos (full_iff.mp full)]
    refine ⟨?_, rfl, ?_⟩
    · rw [packs.chunks, packs.current, List.map_append]
      rfl
    · exact Nat.zero_add _
  · simp only [Splitting.add, Packing.place, if_neg full, if_neg (full_iff.not.mp full)]
    refine ⟨packs.chunks, ?_, ?_⟩
    · rw [packs.current, List.map_append]
      rfl
    · rw [packs.currentLength, Packing.width_eq_sum, Packing.width_eq_sum, List.map_append,
        List.sum_append]
      rfl

theorem Splitting.Packs.foldl {s : Splitting} {groups : Packing.Groups Char} {limit : Nat}
    (packs : s.Packs groups) (cs : List Char) :
    (cs.foldl (Splitting.add limit) s).Packs
      (cs.foldl (Packing.place escapedSize 0 limit) groups) := by
  induction cs generalizing s groups with
  | nil => exact packs
  | cons c cs ih => exact ih (packs.add c)

/-- Splitting is greedy packing of the characters by their escaped size. -/
theorem splitEscapedText_eq {text : String} (some_text : text ≠ "") (limit : Nat) :
    splitEscapedText text limit =
      (Packing.pack escapedSize 0 limit text.toList).map escapeChars := by
  have start : Splitting.Packs {} {} := ⟨rfl, rfl, rfl⟩
  have packs := @Splitting.Packs.foldl _ _ limit start text.toList
  unfold splitEscapedText Packing.pack Packing.Groups.close
  rw [if_neg some_text]
  dsimp only
  split
  case isTrue filled =>
    rw [packs.current, Ne, List.map_eq_nil_iff] at filled
    rw [if_pos filled, packs.chunks, packs.current, List.map_append]
    rfl
  case isFalse empty =>
    rw [packs.current, Ne, List.map_eq_nil_iff] at empty
    rw [if_neg empty, packs.chunks]

/-- The chunks of a text are its pieces escaped, and each fits. -/
theorem splitEscapedText_spec (text : String) {limit : Nat} (wide : 6 ≤ limit) :
    ∃ pieces : List (List Char), splitEscapedText text limit = pieces.map escapeChars ∧
      pieces.flatten = text.toList ∧ ∀ piece ∈ pieces, (escapeChars piece).length ≤ limit := by
  by_cases empty : text = ""
  · subst empty
    refine ⟨[[]], rfl, rfl, ?_⟩
    intro piece held
    rw [List.mem_singleton.mp held]
    exact Nat.zero_le limit
  · have fits : ∀ c ∈ text.toList, escapedSize c ≤ limit :=
      fun c _ => Nat.le_trans (length_escapeChar c).2 wide
    refine ⟨_, splitEscapedText_eq empty limit, Packing.flatten_pack fits, ?_⟩
    intro piece held
    have fit := Packing.width_le_of_mem_pack fits held
    rw [Packing.width_eq_sum] at fit
    rw [escapeChars, String.length_join, List.map_map]
    exact fit

/-! ### Packing -/

/-- Blocks joined into a message. -/
def joined (blocks : List String) : String := String.intercalate "\n\n" blocks

theorem joined_snoc {blocks : List String} {block : String} (some_block : blocks ≠ []) :
    joined (blocks ++ [block]) = joined blocks ++ "\n\n" ++ block :=
  String.intercalate_append_of_ne_nil some_block (List.cons_ne_nil block [])

theorem length_joined (blocks : List String) :
    (joined blocks).length = Packing.width String.length 2 blocks := by
  induction blocks with
  | nil => rfl
  | cons block blocks ih =>
    cases blocks with
    | nil => rfl
    | cons next blocks =>
      have gap : ("\n\n" : String).length = 2 := by decide
      rw [joined, String.intercalate_cons_cons, String.length_append, String.length_append, gap]
      rw [joined] at ih
      rw [ih, Packing.width]

theorem joined_eq_empty_iff {blocks : List String} (filled : ∀ block ∈ blocks, block ≠ "") :
    joined blocks = "" ↔ blocks = [] := by
  constructor
  · intro empty
    cases blocks with
    | nil => rfl
    | cons block blocks =>
      have some_length : block.length ≠ 0 :=
        fun none => filled block List.mem_cons_self (String.length_eq_zero_iff.mp none)
      have length := congrArg String.length empty
      rw [length_joined, String.length_empty] at length
      have first := @Packing.size_le_width String String.length 2 block blocks
      omega
  · rintro rfl
    rfl

/-- The state of the loop as greedy packing. -/
structure PackedMessages.Packs (s : PackedMessages) (groups : Packing.Groups String) : Prop where
  messages : s.messages = groups.closed.map joined
  current : s.current = joined groups.current
  filled : ∀ block ∈ groups.current, block ≠ ""

theorem PackedMessages.Packs.add {s : PackedMessages} {groups : Packing.Groups String}
    (packs : s.Packs groups) {block : String} (some_text : block ≠ "") :
    (s.add block).Packs (Packing.place String.length 2 TELEGRAM_MESSAGE_LIMIT groups block) := by
  have empty_iff : s.current = "" ↔ groups.current = [] := by
    rw [packs.current]
    exact joined_eq_empty_iff packs.filled
  by_cases empty : groups.current = []
  · have no_text : s.current = "" := empty_iff.mpr empty
    simp only [PackedMessages.add, Packing.place, no_text, empty, ne_eq, not_true_eq_false,
      false_and, if_false]
    refine ⟨packs.messages, ?_, ?_⟩
    · simp [joined]
    · intro other held
      rw [List.nil_append, List.mem_singleton] at held
      exact held ▸ some_text
  · have some_current : s.current ≠ "" := empty_iff.not.mpr empty
    have gap : ("\n\n" : String).length = 2 := by decide
    have full_iff : (s.current ≠ "" ∧
        TELEGRAM_MESSAGE_LIMIT < s.current.length + ("\n\n" : String).length + block.length) ↔
        (groups.current ≠ [] ∧ TELEGRAM_MESSAGE_LIMIT <
          Packing.width String.length 2 groups.current + 2 + block.length) := by
      rw [gap, packs.current, length_joined, ← packs.current]
      exact and_congr_left fun _ => empty_iff.not
    by_cases full : s.current ≠ "" ∧
        TELEGRAM_MESSAGE_LIMIT < s.current.length + ("\n\n" : String).length + block.length
    · simp only [PackedMessages.add, Packing.place, if_pos some_current, if_pos full,
        if_pos (full_iff.mp full)]
      refine ⟨?_, rfl, ?_⟩
      · rw [packs.messages, packs.current, List.map_append]
        rfl
      · intro other held
        exact List.mem_singleton.mp held ▸ some_text
    · simp only [PackedMessages.add, Packing.place, if_pos some_current, if_neg full,
        if_neg (full_iff.not.mp full)]
      refine ⟨packs.messages, ?_, ?_⟩
      · rw [joined_snoc empty, packs.current]
      · intro other held
        rcases List.mem_append.mp held with before | last
        · exact packs.filled other before
        · exact List.mem_singleton.mp last ▸ some_text

theorem PackedMessages.Packs.foldl {s : PackedMessages} {groups : Packing.Groups String}
    (packs : s.Packs groups) {blocks : List String} (some_text : ∀ block ∈ blocks, block ≠ "") :
    (blocks.foldl PackedMessages.add s).Packs
      (blocks.foldl (Packing.place String.length 2 TELEGRAM_MESSAGE_LIMIT) groups) := by
  induction blocks generalizing s groups with
  | nil => exact packs
  | cons block blocks ih =>
    exact ih (packs.add (some_text block List.mem_cons_self))
      (fun other held => some_text other (List.mem_cons_of_mem _ held))

/-- Packing blocks is greedy packing by their length with a gap of two. -/
theorem packBlocks_eq {blocks : List String} (some_text : ∀ block ∈ blocks, block ≠ "") :
    packBlocks blocks =
      (Packing.pack String.length 2 TELEGRAM_MESSAGE_LIMIT blocks).map joined := by
  have start : PackedMessages.Packs {} {} := ⟨rfl, rfl, fun _ held => absurd held List.not_mem_nil⟩
  have packs := start.foldl some_text
  have empty_iff := joined_eq_empty_iff packs.filled
  rw [← packs.current] at empty_iff
  unfold packBlocks Packing.pack Packing.Groups.close
  dsimp only
  split
  case isTrue filled =>
    rw [if_pos (empty_iff.not.mp filled), packs.messages, packs.current, List.map_append]
    rfl
  case isFalse empty =>
    rw [if_neg (empty_iff.not.not.mp empty), packs.messages]

/-! ### Blocks -/

/-- A block that can stand in any message: it can be read on its own, fits and is not empty. -/
structure Block (text : String) (es : List Element) : Prop where
  fragment : Fragment telegramMarkup text.toList es
  fits : text.length ≤ TELEGRAM_MESSAGE_LIMIT
  some_text : text ≠ ""

/-- Blocks with these elements altogether. -/
structure Blocks (texts : List String) (es : List Element) : Prop where
  each : ∀ text ∈ texts, Block text (elements text)
  total : texts.flatMap elements = es

theorem elements_eq {text : String} {es : List Element}
    (fragment : Fragment telegramMarkup text.toList es) : elements text = es := by
  unfold elements
  rw [fragment.read_eq]
  rfl

/-- A text with an element in it is not empty. -/
theorem some_text_of_fragment {text : String} {es : List Element}
    (fragment : Fragment telegramMarkup text.toList es) (some_element : es ≠ []) : text ≠ "" := by
  rintro rfl
  apply some_element
  rw [← elements_eq fragment]
  rfl

namespace Blocks

variable {text : String} {texts others : List String} {es fs : List Element}

theorem nil : Blocks [] [] := ⟨fun _ held => absurd held List.not_mem_nil, rfl⟩

theorem cons (block : Block text es) (blocks : Blocks texts fs) :
    Blocks (text :: texts) (es ++ fs) where
  each := by
    intro other held
    rcases List.mem_cons.mp held with rfl | later
    · rw [elements_eq block.fragment]
      exact block
    · exact blocks.each other later
  total := by rw [List.flatMap_cons, elements_eq block.fragment, blocks.total]

theorem append (first : Blocks texts es) (second : Blocks others fs) :
    Blocks (texts ++ others) (es ++ fs) where
  each := by
    intro text held
    rcases List.mem_append.mp held with before | after
    · exact first.each text before
    · exact second.each text after
  total := by rw [List.flatMap_append, first.total, second.total]

/-- Blocks joined into a message. -/
theorem fragment_joined (blocks : Blocks texts es) :
    Fragment telegramMarkup (joined texts).toList es := by
  induction texts generalizing es with
  | nil =>
    rw [← blocks.total]
    exact Fragment.nil
  | cons text texts ih =>
    have first := (blocks.each text List.mem_cons_self).fragment
    have rest : Blocks texts (texts.flatMap elements) :=
      ⟨fun other held => blocks.each other (List.mem_cons_of_mem _ held), rfl⟩
    rw [← blocks.total, List.flatMap_cons]
    by_cases last : texts = []
    · subst last
      rw [List.flatMap_nil, List.append_nil]
      exact first
    · have gap : Fragment telegramMarkup ("\n\n" : String).toList [] :=
        Fragment.chars (Spells.plain (by decide) (by decide) (by decide))
      rw [joined, String.intercalate_cons_of_ne_nil last, String.toList_append,
        String.toList_append]
      have whole := (first.append gap).append (ih rest)
      rw [List.append_nil] at whole
      exact whole

end Blocks

/-! ### The blocks of a notification -/

/-- A text without special characters. -/
def Plain (text : String) : Prop :=
  '<' ∉ text.toList ∧ '&' ∉ text.toList ∧ '>' ∉ text.toList

instance (text : String) : Decidable (Plain text) :=
  inferInstanceAs (Decidable (_ ∧ _ ∧ _))

theorem Plain.append {first second : String} (plain : Plain first) (plain' : Plain second) :
    Plain (first ++ second) := by
  simp only [Plain, String.toList_append, List.mem_append, not_or]
  exact ⟨⟨plain.1, plain'.1⟩, ⟨plain.2.1, plain'.2.1⟩, plain.2.2, plain'.2.2⟩

theorem Plain.spells {text : String} (plain : Plain text) :
    Spells telegramMarkup text.toList (text.toList.map .char) :=
  Spells.plain plain.1 plain.2.1 plain.2.2

theorem plain_of_forall {text : String}
    (each : ∀ c ∈ text.toList, c.isDigit = true ∨ c = '-' ∨ c = '%') : Plain text := by
  have absent {c : Char} (no_digit : c.isDigit = false) (no_minus : c ≠ '-')
      (no_percent : c ≠ '%') : c ∉ text.toList := by
    intro held
    rcases each c held with digit | minus | percent
    · rw [digit] at no_digit
      cases no_digit
    · exact no_minus minus
    · exact no_percent percent
  exact ⟨absent rfl (by decide) (by decide), absent rfl (by decide) (by decide),
    absent rfl (by decide) (by decide)⟩

theorem plain_str (n : Int) : Plain (Numeral.str n) := by
  apply plain_of_forall
  intro c held
  rcases Numeral.mem_str held with minus | digit
  · exact .inr (.inl minus)
  · exact .inl digit

theorem plain_percent (value : Decimal) : Plain value.percent :=
  plain_of_forall fun _ held => Decimal.mem_percent held

/-- A bold text. -/
def bold (label : String) : Element := ⟨"b".toList, label.toList⟩

theorem fragment_bold {label : String} (plain : Plain label) :
    Fragment telegramMarkup ("<b>" ++ label ++ "</b>").toList [bold label] := by
  rw [String.toList_append, String.toList_append]
  exact @Fragment.element _ label.toList "b".toList label.toList (by decide) (by decide)
    (by decide) plain.spells

theorem fragment_line {label rest : String} {cs : List Char} (plain : Plain label)
    (spelled : Spells telegramMarkup rest.toList (cs.map .char)) :
    Fragment telegramMarkup ("<b>" ++ label ++ "</b>" ++ rest).toList [bold label] := by
  rw [String.toList_append]
  exact (fragment_bold plain).append (Fragment.chars spelled)

/-- A piece of a text in a block quote. -/
def blockquote (piece : List Char) : Element := ⟨"blockquote".toList, piece⟩

theorem fragment_blockquote (piece : List Char) :
    Fragment telegramMarkup ("<blockquote>" ++ escapeChars piece ++ "</blockquote>").toList
      [blockquote piece] := by
  rw [String.toList_append, String.toList_append]
  exact @Fragment.element _ (escapeChars piece).toList "blockquote".toList piece (by decide)
    (by decide) (by decide) (spells_escapeChars rfl piece)

theorem fragment_newline : Fragment telegramMarkup ("\n" : String).toList [] :=
  Fragment.chars (Spells.plain (by decide) (by decide) (by decide))

theorem length_nonempty_le {value : Option String} {default : String} {bound : Nat}
    (value_fits : ∀ text, value = some text → text.length ≤ bound)
    (default_fits : default.length ≤ bound) : (nonempty value default).length ≤ bound := by
  unfold nonempty
  split
  case h_1 text =>
    split
    · exact default_fits
    · exact value_fits text rfl
  case h_2 => exact default_fits

/-- What the metadata holds. -/
def metadataElements : List Element :=
  [bold "Новый вопрос", bold "Чат:", bold "Тема:", bold "Категория:", bold "Уверенность:"]

/-- The confidence of a notification as it is shown. -/
def shownConfidence (confidence : Option Decimal) : String :=
  match confidence with
  | none => "—"
  | some confidence => confidence.percent

theorem plain_shownConfidence (confidence : Option Decimal) :
    Plain (shownConfidence confidence) := by
  cases confidence with
  | none => decide
  | some value => exact plain_percent value

theorem renderMetadata_eq (content : NotificationContent) :
    renderMetadata content =
      "<b>" ++ "Новый вопрос" ++ "</b>" ++ "\n" ++
      (("<b>" ++ "Чат:" ++ "</b>" ++ (" " ++ escape content.chatTitle)) ++ "\n" ++
      (("<b>" ++ "Тема:" ++ "</b>" ++ (" " ++ escape (nonempty content.topicTitle "Без темы"))) ++
        "\n" ++
      (("<b>" ++ "Категория:" ++ "</b>" ++ (" " ++ escape content.category)) ++ "\n" ++
      ("<b>" ++ "Уверенность:" ++ "</b>" ++ (" " ++ shownConfidence content.confidence))))) := by
  have title : ("<b>Новый вопрос</b>" : String) = "<b>" ++ "Новый вопрос" ++ "</b>" := by rfl
  have chat : ("<b>Чат:</b> " : String) = "<b>" ++ "Чат:" ++ "</b>" ++ " " := by rfl
  have topic : ("<b>Тема:</b> " : String) = "<b>" ++ "Тема:" ++ "</b>" ++ " " := by rfl
  have category : ("<b>Категория:</b> " : String) = "<b>" ++ "Категория:" ++ "</b>" ++ " " := by
    rfl
  have confidence : ("<b>Уверенность:</b> " : String) =
      "<b>" ++ "Уверенность:" ++ "</b>" ++ " " := by rfl
  unfold renderMetadata
  rw [title, chat, topic, category, confidence]
  simp only [String.intercalate_cons_cons, String.intercalate_singleton, String.append_assoc]
  rfl

theorem spells_escape (text : String) :
    Spells telegramMarkup (escape text).toList (text.toList.map .char) :=
  spells_escapeChars rfl text.toList

theorem spells_blank {text : String} {cs : List Char}
    (spelled : Spells telegramMarkup text.toList (cs.map .char)) :
    Spells telegramMarkup (" " ++ text).toList ((' ' :: cs).map .char) := by
  rw [String.toList_append]
  have blank : Spells telegramMarkup (" " : String).toList [.char ' '] :=
    Spells.char (by decide) (by decide) (by decide)
  exact blank.append spelled

theorem fragment_metadata (content : NotificationContent) :
    Fragment telegramMarkup (renderMetadata content).toList metadataElements := by
  have title := fragment_bold (show Plain "Новый вопрос" by decide)
  have chat := fragment_line (show Plain "Чат:" by decide)
    (spells_blank (spells_escape content.chatTitle))
  have topic := fragment_line (show Plain "Тема:" by decide)
    (spells_blank (spells_escape (nonempty content.topicTitle "Без темы")))
  have category := fragment_line (show Plain "Категория:" by decide)
    (spells_blank (spells_escape content.category))
  have confidence := fragment_line (show Plain "Уверенность:" by decide)
    (spells_blank (plain_shownConfidence content.confidence).spells)
  have lines := (title.append fragment_newline).append <| (chat.append fragment_newline).append <|
    (topic.append fragment_newline).append <| (category.append fragment_newline).append confidence
  rw [renderMetadata_eq]
  simp only [String.toList_append, List.append_nil] at lines ⊢
  exact lines

theorem length_escape_le {text : String} {bound : Nat} (fits : text.length ≤ bound) :
    (escape text).length ≤ 6 * bound := by
  have escaped := length_escapeChars_le text.toList
  rw [String.length_toList] at escaped
  rw [escape_eq]
  omega

theorem length_bold (label : String) : ("<b>" ++ label ++ "</b>").length = label.length + 7 := by
  have opening : ("<b>" : String).length = 3 := by decide
  have closing : ("</b>" : String).length = 4 := by decide
  rw [String.length_append, String.length_append, opening, closing]
  omega

theorem length_metadata_le (content : StoredContent) :
    (renderMetadata content.toNotificationContent).length ≤ TELEGRAM_MESSAGE_LIMIT := by
  have chat := length_escape_le content.title_fits
  have topic := length_escape_le
    (length_nonempty_le content.topic_fits (show ("Без темы" : String).length ≤ 255 by decide))
  have category := length_escape_le content.category_fits
  have confidence : (shownConfidence content.confidence).length ≤ 6 := by
    cases shown : content.confidence with
    | none => decide
    | some value => exact Decimal.length_percent_le (content.confidence_fits value shown)
  have label {label : String} (short : label.length ≤ 20) :
      ("<b>" ++ label ++ "</b>").length ≤ 27 := by
    rw [length_bold]
    omega
  have title_label := @label "Новый вопрос" (by decide)
  have chat_label := @label "Чат:" (by decide)
  have topic_label := @label "Тема:" (by decide)
  have category_label := @label "Категория:" (by decide)
  have confidence_label := @label "Уверенность:" (by decide)
  have blank : (" " : String).length = 1 := by decide
  have newline : ("\n" : String).length = 1 := by decide
  rw [renderMetadata_eq, TELEGRAM_MESSAGE_LIMIT]
  simp only [String.length_append, blank, newline] at *
  omega

theorem block_metadata (content : StoredContent) :
    Block (renderMetadata content.toNotificationContent) metadataElements where
  fragment := fragment_metadata content.toNotificationContent
  fits := length_metadata_le content
  some_text :=
    some_text_of_fragment (fragment_metadata content.toNotificationContent) (List.cons_ne_nil _ _)

/-- The heading block of an item. -/
def headingBlock (item : NotificationChainItem) : String :=
  "<b>Сообщение " ++ Numeral.str (item.position + 1) ++
    (if item.isTarget then " • целевое сообщение" else "") ++
    "</b>\n<b>Автор:</b> " ++ escape (nonempty item.authorDisplayName "Неизвестный автор")

theorem headingBlock_eq (item : NotificationChainItem) :
    headingBlock item =
      ("<b>" ++ heading item ++ "</b>") ++ "\n" ++
        ("<b>" ++ "Автор:" ++ "</b>" ++
          (" " ++ escape (nonempty item.authorDisplayName "Неизвестный автор"))) := by
  have opening : ("<b>Сообщение " : String) = "<b>" ++ "Сообщение " := by rfl
  have between : ("</b>\n<b>Автор:</b> " : String) =
      "</b>" ++ "\n" ++ "<b>" ++ "Автор:" ++ "</b>" ++ " " := by rfl
  unfold headingBlock heading
  rw [opening, between]
  simp only [String.append_assoc]

theorem plain_heading (item : NotificationChainItem) : Plain (heading item) := by
  unfold heading
  refine ((show Plain "Сообщение " by decide).append (plain_str _)).append ?_
  split
  · decide
  · decide

theorem fragment_heading (item : NotificationChainItem) :
    Fragment telegramMarkup (headingBlock item).toList
      [bold (heading item), bold "Автор:"] := by
  have title := fragment_bold (plain_heading item)
  have author := fragment_line (show Plain "Автор:" by decide)
    (spells_blank (spells_escape (nonempty item.authorDisplayName "Неизвестный автор")))
  have lines := (title.append fragment_newline).append author
  rw [headingBlock_eq]
  simp only [String.toList_append, List.append_nil] at lines ⊢
  exact lines

theorem length_heading_le {item : NotificationChainItem}
    (small : -2 ^ 15 ≤ item.position ∧ item.position < 2 ^ 15) : (heading item).length ≤ 40 := by
  have number : (Numeral.str (item.position + 1)).length ≤ 6 :=
    Numeral.length_str_le (by decide) (by omega)
  have title : ("Сообщение " : String).length = 10 := by decide
  have marker : (if item.isTarget then " • целевое сообщение" else "" : String).length ≤ 20 := by
    split
    · decide
    · decide
  unfold heading
  rw [String.length_append, String.length_append, title]
  omega

theorem block_heading {item : NotificationChainItem}
    (small : -2 ^ 15 ≤ item.position ∧ item.position < 2 ^ 15)
    (author_fits : ∀ author, item.authorDisplayName = some author → author.length ≤ 255) :
    Block (headingBlock item) [bold (heading item), bold "Автор:"] where
  fragment := fragment_heading item
  fits := by
    have author := length_escape_le
      (length_nonempty_le author_fits (show ("Неизвестный автор" : String).length ≤ 255 by decide))
    have title := length_heading_le small
    have label : ("Автор:" : String).length = 6 := by decide
    have blank : (" " : String).length = 1 := by decide
    have newline : ("\n" : String).length = 1 := by decide
    have title_line := length_bold (heading item)
    have author_line := length_bold "Автор:"
    rw [headingBlock_eq, TELEGRAM_MESSAGE_LIMIT]
    simp only [String.length_append, label, blank, newline] at *
    omega
  some_text := some_text_of_fragment (fragment_heading item) (List.cons_ne_nil _ _)

/-- What the blocks of a text hold, piece by piece. -/
def quoteElements (label : String) (pieces : List (List Char)) : List Element :=
  pieces.flatMap (fun piece => [bold (label ++ ":"), blockquote piece])

theorem fragment_quote {label : String} (plain : Plain label) (piece : List Char) :
    Fragment telegramMarkup
      ("<b>" ++ label ++ ":</b>\n<blockquote>" ++ escapeChars piece ++ "</blockquote>").toList
      [bold (label ++ ":"), blockquote piece] := by
  have title := fragment_bold (plain.append (show Plain ":" by decide))
  have lines := (title.append fragment_newline).append (fragment_blockquote piece)
  have between : (":</b>\n<blockquote>" : String) =
      ":" ++ "</b>" ++ "\n" ++ "<blockquote>" := by rfl
  rw [between]
  simp only [String.toList_append, List.append_nil, List.append_assoc] at lines ⊢
  exact lines

theorem blocks_text {label : String} (plain : Plain label) (short : label.length ≤ 1000)
    (text : String) :
    ∃ pieces, pieces.flatten = text.toList ∧
      Blocks (renderTextBlocks label text) (quoteElements label pieces) := by
  unfold renderTextBlocks
  dsimp only
  have opening : ("<b>" ++ label ++ ":</b>\n<blockquote>").length = label.length + 21 := by
    have before : ("<b>" : String).length = 3 := by decide
    have after : (":</b>\n<blockquote>" : String).length = 18 := by decide
    rw [String.length_append, String.length_append, before, after]
    omega
  have closing : ("</blockquote>" : String).length = 13 := by decide
  have limit : TELEGRAM_MESSAGE_LIMIT = 4096 := rfl
  rw [opening, closing]
  obtain ⟨pieces, split, whole, fits⟩ := splitEscapedText_spec text
    (show 6 ≤ TELEGRAM_MESSAGE_LIMIT - (label.length + 21) - 13 by omega)
  refine ⟨pieces, whole, ?_⟩
  rw [split]
  clear split whole
  induction pieces with
  | nil => exact Blocks.nil
  | cons piece pieces ih =>
    have first_fits := fits piece List.mem_cons_self
    refine Blocks.cons ⟨fragment_quote plain piece, ?_, ?_⟩
      (ih fun other held => fits other (List.mem_cons_of_mem _ held))
    · rw [String.length_append, String.length_append, opening, closing]
      omega
    · exact some_text_of_fragment (fragment_quote plain piece) (List.cons_ne_nil _ _)

/-- The blocks of the translation, or of its absence. -/
def translationBlocks (item : NotificationChainItem) : List String :=
  match translation item with
  | some translated => renderTextBlocks "Перевод" translated
  | none => ["<b>Перевод:</b> недоступен"]

theorem translationBlocks_eq (item : NotificationChainItem) :
    translationBlocks item =
      match item.translatedText with
      | some translated =>
          if translated ≠ item.originalText then renderTextBlocks "Перевод" translated
          else ["<b>Перевод:</b> недоступен"]
      | none => ["<b>Перевод:</b> недоступен"] := by
  unfold translationBlocks translation
  cases item.translatedText with
  | none => rfl
  | some translated =>
    by_cases other : translated ≠ item.originalText
    · simp only [if_pos other]
    · simp only [if_neg other]

theorem renderChainItem_eq (item : NotificationChainItem) :
    renderChainItem item =
      headingBlock item :: (renderTextBlocks "Оригинал" item.originalText ++
        translationBlocks item) := by
  rw [translationBlocks_eq]
  rfl

theorem block_unavailable : Block "<b>Перевод:</b> недоступен" [bold "Перевод:"] := by
  have line := fragment_line (show Plain "Перевод:" by decide)
    (show Plain " недоступен" by decide).spells
  exact ⟨line, by decide, by decide⟩

/-! ### The sections -/

theorem isHeading_heading (item : NotificationChainItem) :
    isHeading (bold (heading item)) = true := by
  have starts : "Сообщение ".toList <+: (heading item).toList := by
    unfold heading
    rw [String.toList_append, String.toList_append, List.append_assoc]
    exact List.prefix_append _ _
  have named : decide ((bold (heading item)).name = "b".toList) = true := decide_eq_true rfl
  unfold isHeading
  rw [named, Bool.true_and]
  exact List.isPrefixOf_iff_prefix.mpr starts

theorem sections_cons (element : Element) (rest : List Element) :
    sections (element :: rest) =
      if element.name = "blockquote".toList then
        (element.text ++ (sections rest).1, (sections rest).2)
      else if isHeading element then
        ([], (element.text, (sections rest).1) :: (sections rest).2)
      else sections rest := rfl

theorem bold_ne_blockquote (label : String) : (bold label).name ≠ "blockquote".toList := by
  change "b".toList ≠ "blockquote".toList
  decide

theorem sections_heading (item : NotificationChainItem) (rest : List Element) :
    sections (bold (heading item) :: rest) =
      ([], ((heading item).toList, (sections rest).1) :: (sections rest).2) := by
  rw [sections_cons, if_neg (bold_ne_blockquote _), if_pos (isHeading_heading item)]
  rfl

/-- A bold text that is no heading. -/
theorem sections_label {label : String} (no_heading : isHeading (bold label) = false)
    (rest : List Element) : sections (bold label :: rest) = sections rest := by
  rw [sections_cons, if_neg (bold_ne_blockquote _), no_heading]
  rfl

theorem sections_quote (piece : List Char) (rest : List Element) :
    sections (blockquote piece :: rest) = (piece ++ (sections rest).1, (sections rest).2) := by
  have named : (blockquote piece).name = "blockquote".toList := rfl
  rw [sections_cons, if_pos named]
  rfl

theorem sections_quoteElements {label : String}
    (no_heading : isHeading (bold (label ++ ":")) = false) (pieces : List (List Char))
    (rest : List Element) :
    sections (quoteElements label pieces ++ rest) =
      (pieces.flatten ++ (sections rest).1, (sections rest).2) := by
  induction pieces with
  | nil => rfl
  | cons piece pieces ih =>
    have split : quoteElements label (piece :: pieces) ++ rest =
        bold (label ++ ":") :: blockquote piece :: (quoteElements label pieces ++ rest) := rfl
    rw [split, sections_label no_heading, sections_quote, ih, List.flatten_cons, List.append_assoc]

/-- The blocks of the translation hold it in their quotes. -/
theorem blocks_translation (item : NotificationChainItem) :
    ∃ es, Blocks (translationBlocks item) es ∧ ∀ rest, sections (es ++ rest) =
      (((translation item).getD "").toList ++ (sections rest).1, (sections rest).2) := by
  unfold translationBlocks
  cases translation item with
  | none =>
    refine ⟨[bold "Перевод:"] ++ [], Blocks.nil.cons block_unavailable, ?_⟩
    intro rest
    rw [List.append_nil, List.singleton_append, sections_label (by decide)]
    rfl
  | some translated =>
    obtain ⟨pieces, whole, blocks⟩ :=
      blocks_text (show Plain "Перевод" by decide) (by decide) translated
    refine ⟨_, blocks, ?_⟩
    intro rest
    rw [sections_quoteElements (by decide), whole]
    rfl

/-- The blocks of an item hold its texts in the quotes under its heading. -/
theorem blocks_item {item : NotificationChainItem}
    (small : -2 ^ 15 ≤ item.position ∧ item.position < 2 ^ 15)
    (author_fits : ∀ author, item.authorDisplayName = some author → author.length ≤ 255) :
    ∃ es, Blocks (renderChainItem item) es ∧ ∀ rest, (sections rest).1 = [] →
      sections (es ++ rest) =
        ([], ((heading item).toList, (quoted item).toList) :: (sections rest).2) := by
  obtain ⟨pieces, whole, original⟩ :=
    blocks_text (show Plain "Оригинал" by decide) (by decide) item.originalText
  obtain ⟨es, translated, held⟩ := blocks_translation item
  rw [renderChainItem_eq]
  refine ⟨_, (original.append translated).cons (block_heading small author_fits), ?_⟩
  intro rest fresh
  rw [List.append_assoc, List.append_assoc, List.cons_append, List.singleton_append,
    sections_heading, sections_label (by decide), sections_quoteElements (by decide), held, fresh,
    whole, List.append_nil, quoted, String.toList_append]

theorem blocks_items {items : List NotificationChainItem}
    (small : ∀ item ∈ items, -2 ^ 15 ≤ item.position ∧ item.position < 2 ^ 15)
    (author_fits : ∀ item ∈ items, ∀ author, item.authorDisplayName = some author →
      author.length ≤ 255) :
    ∃ es, Blocks (items.flatMap renderChainItem) es ∧
      sections es = ([], items.map (fun item => ((heading item).toList, (quoted item).toList))) := by
  induction items with
  | nil => exact ⟨[], Blocks.nil, rfl⟩
  | cons item items ih =>
    obtain ⟨fs, later, shown⟩ := ih (fun other held => small other (List.mem_cons_of_mem _ held))
      (fun other held => author_fits other (List.mem_cons_of_mem _ held))
    obtain ⟨es, first, held⟩ := blocks_item (small item List.mem_cons_self)
      (author_fits item List.mem_cons_self)
    refine ⟨es ++ fs, first.append later, ?_⟩
    rw [held fs (by rw [shown]), shown]
    rfl

/-! ### The whole notification -/

/-- The blocks of a notification. -/
def notificationBlocks (content : NotificationContent) : List String :=
  renderMetadata content :: (byPosition content.chain).flatMap renderChainItem

theorem texts_renderNotification (content : NotificationContent) :
    (renderNotification content).map NotificationPart.text =
      packBlocks (notificationBlocks content) := by
  unfold renderNotification
  apply List.ext_getElem
  · rw [List.length_map, List.length_mapIdx]
    rfl
  · intro index small small'
    rw [List.getElem_map, List.getElem_mapIdx]
    rfl

/-- Only the last part has controls. -/
theorem replyMarkup_isSome_iff {content : NotificationContent} {index : Nat}
    {part : NotificationPart} (at_index : (renderNotification content)[index]? = some part) :
    part.replyMarkup.isSome ↔ index + 1 = (renderNotification content).length := by
  have length : (renderNotification content).length =
      (packBlocks (notificationBlocks content)).length := by
    rw [← texts_renderNotification, List.length_map]
  have small := (List.getElem?_eq_some_iff.mp at_index).1
  rw [renderNotification, List.getElem?_mapIdx, Option.map_eq_some_iff] at at_index
  obtain ⟨text, -, rfl⟩ := at_index
  change Option.isSome (if index = (packBlocks (notificationBlocks content)).length - 1 then some _
    else none) = true ↔ _
  rw [← length]
  split
  case isTrue last =>
    simp only [Option.isSome_some, true_iff]
    omega
  case isFalse before =>
    simp only [Option.isSome_none, Bool.false_eq_true, false_iff]
    omega

theorem sections_metadata (rest : List Element) :
    sections (metadataElements ++ rest) = sections rest := by
  unfold metadataElements
  rw [List.cons_append, List.cons_append, List.cons_append, List.cons_append, List.singleton_append,
    sections_label (by decide), sections_label (by decide), sections_label (by decide),
    sections_label (by decide), sections_label (by decide)]

theorem blocks_notification (content : StoredContent) :
    ∃ es, Blocks (notificationBlocks content.toNotificationContent) es ∧
      sections es = ([], (byPosition content.chain).map
        (fun item => ((heading item).toList, (quoted item).toList))) := by
  have same (item : NotificationChainItem) (held : item ∈ byPosition content.chain) :
      item ∈ content.chain := (List.mem_insertionSort _).mp held
  obtain ⟨es, blocks, shown⟩ := blocks_items
    (fun item held => content.position_fits item (same item held))
    (fun item held => content.author_fits item (same item held))
  refine ⟨metadataElements ++ es, blocks.cons (block_metadata content), ?_⟩
  rw [sections_metadata, shown]

/-- The messages that blocks are packed into are bounded and readable, and hold what the blocks
hold. -/
theorem packBlocks_spec {blocks : List String} {es : List Element} (are_blocks : Blocks blocks es) :
    (∀ text ∈ packBlocks blocks, text.length ≤ TELEGRAM_MESSAGE_LIMIT ∧
        (read telegramMarkup text.toList).isSome) ∧
      (packBlocks blocks).flatMap elements = es := by
  have fits : ∀ block ∈ blocks, block.length ≤ TELEGRAM_MESSAGE_LIMIT :=
    fun block held => (are_blocks.each block held).fits
  have kept := @Packing.flatten_pack _ String.length 2 TELEGRAM_MESSAGE_LIMIT blocks fits
  have message (group : List String)
      (held : group ∈ Packing.pack String.length 2 TELEGRAM_MESSAGE_LIMIT blocks) :
      Fragment telegramMarkup (joined group).toList (group.flatMap elements) := by
    apply Blocks.fragment_joined
    refine ⟨fun block in_group => are_blocks.each block ?_, rfl⟩
    rw [← kept]
    exact List.mem_flatten_of_mem held in_group
  rw [packBlocks_eq fun block held => (are_blocks.each block held).some_text]
  constructor
  · intro text held
    obtain ⟨group, packed, rfl⟩ := List.mem_map.mp held
    constructor
    · rw [length_joined]
      exact Packing.width_le_of_mem_pack fits packed
    · rw [(message group packed).read_eq]
      rfl
  · have each : (Packing.pack String.length 2 TELEGRAM_MESSAGE_LIMIT blocks).flatMap
        (fun group => elements (joined group)) =
        (Packing.pack String.length 2 TELEGRAM_MESSAGE_LIMIT blocks).flatMap
          (fun group => group.flatMap elements) :=
      List.flatMap_congr fun group packed => elements_eq (message group packed)
    have regrouped : (Packing.pack String.length 2 TELEGRAM_MESSAGE_LIMIT blocks).flatMap
        (fun group => group.flatMap elements) = blocks.flatMap elements := by
      conv_rhs => rw [← kept, List.flatten_eq_flatMap, List.flatMap_assoc]
      rfl
    rw [List.flatMap_map, each, regrouped, are_blocks.total]

/-- Something is packed. -/
def PackedMessages.HasText (s : PackedMessages) : Prop := s.messages ≠ [] ∨ s.current ≠ ""

theorem PackedMessages.HasText.add {s : PackedMessages} (has_text : s.HasText) (block : String) :
    (s.add block).HasText := by
  unfold PackedMessages.add
  dsimp only
  generalize (if s.current ≠ "" then "\n\n" else "" : String) = separator
  split
  case isTrue => exact .inl (List.append_ne_nil_of_right_ne_nil _ (List.cons_ne_nil _ _))
  case isFalse =>
    rcases has_text with some_message | some_current
    · exact .inl some_message
    · refine .inr ?_
      intro empty
      rw [String.append_assoc, String.append_eq_empty_iff] at empty
      exact some_current empty.1

/-- There is a message as soon as the first block is not empty. -/
theorem packBlocks_ne_nil {first : String} (some_text : first ≠ "") (blocks : List String) :
    packBlocks (first :: blocks) ≠ [] := by
  have started : (PackedMessages.add {} first).HasText := by
    refine .inr ?_
    simpa [PackedMessages.add] using some_text
  have has_text : (blocks.foldl PackedMessages.add (PackedMessages.add {} first)).HasText := by
    generalize PackedMessages.add {} first = s at started
    induction blocks generalizing s with
    | nil => exact started
    | cons block blocks ih => exact ih _ (started.add block)
  unfold packBlocks
  dsimp only [List.foldl_cons]
  split
  case isTrue => exact List.append_ne_nil_of_right_ne_nil _ (List.cons_ne_nil _ _)
  case isFalse no_text =>
    rcases has_text with some_message | some_current
    · exact some_message
    · exact absurd some_current no_text

/-- A notification has a part, whatever its content. -/
theorem renderNotification_ne_nil (content : NotificationContent) :
    renderNotification content ≠ [] := by
  intro none_rendered
  have texts := texts_renderNotification content
  rw [none_rendered] at texts
  exact packBlocks_ne_nil
    (some_text_of_fragment (fragment_metadata content) (List.cons_ne_nil _ _)) _ texts.symm

instance : Std.Total (fun first second : NotificationChainItem =>
    first.position ≤ second.position) :=
  ⟨fun first second => Int.le_total first.position second.position⟩

instance : IsTrans NotificationChainItem (fun first second => first.position ≤ second.position) :=
  ⟨fun _ _ _ => Int.le_trans⟩

theorem byPosition_pairwise (chain : List NotificationChainItem) :
    (byPosition chain).Pairwise (fun first second => first.position ≤ second.position) :=
  List.pairwise_insertionSort _ chain

/-- A notification whose content fits the columns is rendered without loss into bounded,
well-formed messages. -/
theorem renderNotification_rendered (content : StoredContent) :
    Rendered content.toNotificationContent (renderNotification content.toNotificationContent) := by
  have texts := texts_renderNotification content.toNotificationContent
  obtain ⟨es, blocks, shown⟩ := blocks_notification content
  have packed := packBlocks_spec blocks
  have part_text {part : NotificationPart}
      (held : part ∈ renderNotification content.toNotificationContent) :
      part.text ∈ packBlocks (notificationBlocks content.toNotificationContent) := by
    rw [← texts]
    exact List.mem_map_of_mem held
  refine ⟨renderNotification_ne_nil _, fun part held => (packed.1 _ (part_text held)).1,
    fun part held => (packed.1 _ (part_text held)).2, ?_, byPosition content.chain,
    List.perm_insertionSort _ _, byPosition_pairwise content.chain, ?_⟩
  · intro index part at_index
    exact replyMarkup_isSome_iff at_index
  · have all_texts : (renderNotification content.toNotificationContent).flatMap
        (fun part => elements part.text) =
        ((renderNotification content.toNotificationContent).map
          NotificationPart.text).flatMap elements := by
      rw [List.flatMap_map]
    rw [all_texts, texts, packed.2, shown]

/-- Content with special characters, and with its items out of order. -/
def sampleContent : StoredContent where
  questionId := 1
  chatTitle := "Sales & <b>"
  topicTitle := none
  category := "technical"
  confidence := some ⟨false, 8750, -4⟩
  chatUsername := some "@sales"
  telegramChatId := -1001234567890
  telegramMessageId := 42
  topicId := some 7
  chain :=
    [⟨1, some "Bob", "</blockquote>", some "it's", true⟩, ⟨0, none, "\"a\" & b", none, false⟩]
  title_fits := by decide
  topic_fits := by simp
  category_fits := by decide
  confidence_fits := by
    rintro value own
    cases own
    norm_num [Decimal.value]
  author_fits := by
    intro item held author own
    rcases List.mem_pair.mp held with rfl | rfl
    · cases own
      decide
    · cases own
  position_fits := by decide

theorem sample_rendered :
    Rendered sampleContent.toNotificationContent
      (renderNotification sampleContent.toNotificationContent) :=
  renderNotification_rendered sampleContent

/-! ### Numbers outside their columns -/

/-- Some message holds `n` characters. -/
def PackedMessages.Holds (s : PackedMessages) (n : Nat) : Prop :=
  n ≤ s.current.length ∨ ∃ message ∈ s.messages, n ≤ message.length

theorem PackedMessages.Holds.add {s : PackedMessages} {n : Nat} (holds : s.Holds n)
    (block : String) : (s.add block).Holds n := by
  unfold PackedMessages.add
  dsimp only
  generalize (if s.current ≠ "" then "\n\n" else "" : String) = separator
  split
  case isTrue =>
    rcases holds with current | ⟨message, held, long⟩
    · exact .inr ⟨s.current, List.mem_append_right _ (List.mem_singleton_self _), current⟩
    · exact .inr ⟨message, List.mem_append_left _ held, long⟩
  case isFalse =>
    rcases holds with current | closed
    · refine .inl ?_
      rw [String.length_append, String.length_append]
      omega
    · exact .inr closed

theorem PackedMessages.Holds.foldl {s : PackedMessages} {n : Nat} (holds : s.Holds n)
    (blocks : List String) : (blocks.foldl PackedMessages.add s).Holds n := by
  induction blocks generalizing s with
  | nil => exact holds
  | cons block blocks ih => exact ih (holds.add block)

theorem PackedMessages.holds_block (s : PackedMessages) (block : String) :
    (s.add block).Holds block.length := by
  unfold PackedMessages.add
  dsimp only
  generalize (if s.current ≠ "" then "\n\n" else "" : String) = separator
  split
  case isTrue => exact .inl (Nat.le_refl _)
  case isFalse =>
    refine .inl ?_
    rw [String.length_append]
    omega

/-- A block is never cut: some message is as long as it. -/
theorem exists_long_message {blocks : List String} {block : String} (held : block ∈ blocks)
    (some_text : block ≠ "") : ∃ text ∈ packBlocks blocks, block.length ≤ text.length := by
  have holds : (blocks.foldl PackedMessages.add {}).Holds block.length := by
    obtain ⟨before, after, rfl⟩ := List.append_of_mem held
    rw [List.foldl_append, List.foldl_cons]
    exact (PackedMessages.holds_block _ block).foldl after
  have positive : 0 < block.length :=
    Nat.pos_of_ne_zero fun none => some_text (String.length_eq_zero_iff.mp none)
  unfold packBlocks
  dsimp only
  split
  case isTrue =>
    rcases holds with current | ⟨message, closed, long⟩
    · exact ⟨_, List.mem_append_right _ (List.mem_singleton_self _), current⟩
    · exact ⟨message, List.mem_append_left _ closed, long⟩
  case isFalse empty =>
    rcases holds with current | closed
    · rw [Decidable.not_not.mp empty, String.length_empty] at current
      omega
    · exact closed

/-- A block that is too long makes a part that is too long. -/
theorem not_rendered_of_long {content : NotificationContent} {block : String}
    (held : block ∈ notificationBlocks content)
    (long : TELEGRAM_MESSAGE_LIMIT < block.length) :
    ¬ Rendered content (renderNotification content) := by
  intro rendered
  have some_text : block ≠ "" := by
    rintro rfl
    exact absurd long (by decide)
  obtain ⟨text, packed, as_long⟩ := exists_long_message held some_text
  rw [← texts_renderNotification] at packed
  obtain ⟨part, own, rfl⟩ := List.mem_map.mp packed
  have bounded := rendered.bounded part own
  omega

/-- A number of more digits than fit a message. -/
theorem lt_length_toDigits {n : Nat} (large : 10 ^ TELEGRAM_MESSAGE_LIMIT ≤ n) :
    TELEGRAM_MESSAGE_LIMIT < (Nat.toDigits 10 n).length := by
  by_contra short
  have small := (Nat.length_toDigits_le_iff (by decide : 1 < 10)
    (by decide : 0 < TELEGRAM_MESSAGE_LIMIT)).mp (Nat.not_lt.mp short)
  omega

theorem lt_length_percent {k : Nat} (large : TELEGRAM_MESSAGE_LIMIT ≤ k) :
    TELEGRAM_MESSAGE_LIMIT < (Decimal.percent ⟨false, 1, k⟩).length := by
  have digits : TELEGRAM_MESSAGE_LIMIT <
      (Nat.toDigits 10 (Decimal.integral ⟨false, 1, (k : Int) + 2⟩)).length := by
    apply lt_length_toDigits
    have whole : (0 : Int) ≤ (k : Int) + 2 := by omega
    have exponent : ((k : Int) + 2).toNat = k + 2 := by omega
    unfold Decimal.integral
    rw [if_pos whole, Nat.one_mul, exponent]
    exact Nat.pow_le_pow_right (by decide) (by omega)
  unfold Decimal.percent
  rw [String.length_ofList, List.length_append, List.length_append]
  exact Nat.lt_of_lt_of_le digits (Nat.le_trans (Nat.le_add_left _ _) (Nat.le_add_right _ _))

theorem lt_length_headingBlock {item : NotificationChainItem} {k : Nat}
    (large : TELEGRAM_MESSAGE_LIMIT ≤ k) (position : item.position = (10 : Int) ^ k) :
    TELEGRAM_MESSAGE_LIMIT < (headingBlock item).length := by
  have number : (item.position + 1).natAbs = 10 ^ k + 1 := by
    have cast : item.position + 1 = ((10 ^ k + 1 : Nat) : Int) := by
      rw [position]
      push_cast
      rfl
    rw [cast, Int.natAbs_natCast]
  have digits : TELEGRAM_MESSAGE_LIMIT < (Nat.toDigits 10 (item.position + 1).natAbs).length := by
    apply lt_length_toDigits
    rw [number]
    exact Nat.le_succ_of_le (Nat.pow_le_pow_right (by decide) large)
  have shown : (Nat.toDigits 10 (item.position + 1).natAbs).length ≤
      (Numeral.str (item.position + 1)).length := by
    rw [Numeral.str, String.length_ofList, List.length_append]
    exact Nat.le_add_left _ _
  unfold headingBlock
  simp only [String.length_append]
  omega

/-- The names and the category fit their columns. -/
structure NamesFit (content : NotificationContent) : Prop where
  title : content.chatTitle.length ≤ 255
  topic : ∀ title, content.topicTitle = some title → title.length ≤ 255
  category : content.category.length ≤ 30
  author : ∀ item ∈ content.chain, ∀ author, item.authorDisplayName = some author →
    author.length ≤ 255

/-- The confidence `Decimal("1E+5000")`. -/
def wideConfidence : NotificationContent :=
  { sampleContent.toNotificationContent with confidence := some ⟨false, 1, 5000⟩, chain := [] }

/-- An item at position `10 ** 4200`. -/
def farPosition : NotificationContent :=
  { sampleContent.toNotificationContent with chain := [⟨10 ^ 4200, none, "", none, false⟩] }

theorem lt_length_wideConfidence :
    TELEGRAM_MESSAGE_LIMIT < (renderMetadata wideConfidence).length := by
  have shown : TELEGRAM_MESSAGE_LIMIT < (shownConfidence wideConfidence.confidence).length :=
    @lt_length_percent 5000 (by decide)
  rw [renderMetadata_eq]
  simp only [String.length_append]
  omega

/-- The limits of the names alone do not bound a part. -/
theorem names_do_not_bound :
    (NamesFit wideConfidence ∧ ¬ Rendered wideConfidence (renderNotification wideConfidence)) ∧
      NamesFit farPosition ∧ ¬ Rendered farPosition (renderNotification farPosition) := by
  refine ⟨⟨⟨sampleContent.title_fits, sampleContent.topic_fits, sampleContent.category_fits, ?_⟩,
    ?_⟩, ⟨sampleContent.title_fits, sampleContent.topic_fits, sampleContent.category_fits, ?_⟩, ?_⟩
  · intro item held
    cases held
  · exact not_rendered_of_long List.mem_cons_self lt_length_wideConfidence
  · intro item held author own
    rw [List.mem_singleton.mp held] at own
    cases own
  · exact not_rendered_of_long
      (List.mem_cons_of_mem _ (List.mem_append_left _ List.mem_cons_self))
      (@lt_length_headingBlock _ 4200 (by decide) rfl)

end LeadAssistant
