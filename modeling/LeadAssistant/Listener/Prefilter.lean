/-
Module: LeadAssistant.Listener.Prefilter
Layer: Listener
Purpose: `prefilter_message` (`prefilter.py`), which decides on a text alone, without the network,
  whether it can be a request for work in the supported scope. What the terms find is stated by the
  words of the text, sentence by sentence.
Trusted boundary: human-reviewed spec
Main exports: MappedMessage, FilterReasonCode, FilterResult, Prefilter.prefilterMessage,
  Prefilter.Mentions, Prefilter.hits_iff_mentions, Prefilter.prefilterMessage_sentences
-/
import Mathlib.Data.List.DropRight
import LeadAssistant.Listener.StemTerms

namespace LeadAssistant

open Runs Words

/-- A normalized message with the fields that only the prefilter reads. -/
structure MappedMessage extends IncomingMessage where
  isOwn : Bool
  isService : Bool
  hasSticker : Bool
deriving Repr, DecidableEq

/-- Stable outcomes emitted by the local prefilter. -/
inductive FilterReasonCode where
  | noText | ownMessage | serviceMessage | stickerWithoutCaption | onlyEmoji | botCommand | onlyUrl
  | knownGreeting | knownThanks | noHiringIntent | noStackFit | passToClassifier
deriving Repr, DecidableEq

/-- Decision returned by the pure prefilter. -/
structure FilterResult where
  shouldClassify : Bool
  reasonCode : FilterReasonCode
deriving Repr, DecidableEq

namespace Prefilter

/-! ### The terms -/

def KNOWN_GREETINGS : List String :=
  ["доброе утро", "добрый день", "добрый вечер", "здравствуйте", "привет", "hello", "hi"]

def KNOWN_THANKS : List String := ["благодарю", "спасибо", "thank you", "thanks"]

def EDGE_PUNCTUATION : List Char := " !.,?:;—–-…".toList

def DEV_NOUN : List String :=
  ["разработчик", "программист", "кодер", "прогер", "специалист", "исполнитель", "фрилансер",
    "верстальщик", "девелопер", "розробник", "програміст", "спеціаліст", "виконавець", "фрілансер",
    "верстальник", "developer", "programmer", "coder", "engineer", "freelancer", "contractor",
    "dev"]

def NEED_TOKEN : List String :=
  ["нужен", "нужна", "нужно", "нужны", "требуется", "требуются", "ищу", "ищем", "разыскивается",
    "потрібен", "потрібна", "потрібно", "потрібні", "шукаю", "шукаємо", "треба", "розшукується",
    "need", "needed", "looking for", "seeking", "searching for", "hiring", "want", "wanted"]

def WHO_TOKEN : List String :=
  ["кто", "хто", "who", "anyone", "can someone", "can anyone", "somebody who", "someone who"]

def BUILD_VERB : List String :=
  ["написать", "сделать", "разработать", "запилить", "собрать", "создать", "сверстать",
    "автоматизировать", "спарсить", "спроектировать", "написати", "зробити", "розробити", "зібрати",
    "створити", "автоматизувати", "make", "build", "write", "develop", "create", "code", "automate",
    "parse", "scrape"]

def WEAK_NEED : List String :=
  ["надо", "нужно", "нужен", "требуется", "треба", "потрібно", "need to", "want to", "gotta",
    "have to"]

def DELIVERABLE : List String :=
  ["сайт", "лендинг", "бот", "чат-бот", "приложени", "интеграц", "парсер", "скрипт", "автоматизац",
    "расширение", "плагин", "api", "интерфейс", "додаток", "застосунок", "розширення", "website",
    "site", "landing", "bot", "chatbot", "app", "application", "integration", "parser", "scraper",
    "script", "extension", "plugin", "automation", "dashboard"]

def STACK_TOKEN : List String :=
  ["бот", "чат-бот", "телеграм-бот", "сайт", "лендинг", "парсер", "парсинг", "скрейпинг", "скрипт",
    "интеграц", "автоматизац", "api", "вебхук", "расширение", "плагин", "приложени", "crm",
    "нейросет", "искусственный интеллект", "машинное обучение", "gpt", "chatgpt", "ai", "llm",
    "дашборд", "выгрузк", "сбор данных", "гугл таблиц", "додаток", "застосунок", "розширення",
    "парсер", "парсинг", "інтеграц", "автоматизац", "нейромереж", "штучний інтелект", "bot",
    "chatbot", "website", "site", "landing", "parser", "parsing", "scraper", "scraping",
    "web scraping", "script", "integration", "automation", "automate", "api", "webhook",
    "extension", "plugin", "app", "application", "crm", "dashboard", "ai", "llm", "gpt", "chatgpt",
    "machine learning", "neural", "data pipeline", "etl"]

def ORDER_PAY : List String :=
  ["закажу", "заказать разработку", "оплачу", "оплата", "готов оплатить", "за оплату", "за деньги",
    "сколько стоит сделать", "сколько будет стоить", "замовлю", "замовити розробку",
    "готовий оплатити", "за оплату", "скільки коштує зробити", "hire", "for hire", "will pay",
    "ready to pay", "paid gig", "paid project", "how much to build", "how much would it cost",
    "quote"]

def EXCLUSION : List String :=
  ["ищу работу", "ищу подработку", "резюме", "шукаю роботу", "looking for a job",
    "looking for work", "my resume", "cv", "vacancy", "вакансия", "вакансію"]

/-- Every list of terms that is compiled. -/
def TERM_LISTS : List (List String) :=
  [DEV_NOUN, NEED_TOKEN, WHO_TOKEN, BUILD_VERB, WEAK_NEED, DELIVERABLE, STACK_TOKEN, ORDER_PAY,
    EXCLUSION]

/-! ### The decision -/

/-- The characters of a command's name, which are ASCII. -/
def commandChar (c : Char) : Bool := c.isAlphanum || c = '_'

/-- `^/[A-Za-z0-9_]+(?:@[A-Za-z0-9_]+)?$`. -/
def BOT_COMMAND : Pattern Char :=
  .all [.check (fun before _ => before.isEmpty), .one (fun c => c = '/'), .plus (.one commandChar),
    .alt (.seq (.one (fun c => c = '@')) (.plus (.one commandChar))) .empty,
    .check (fun _ after => after.isEmpty || after = ['\n'])]

/-- `text.strip(...)`. -/
def strip (stripped : Char → Bool) (text : List Char) : List Char :=
  (text.dropWhile stripped).rdropWhile stripped

variable (u : UnicodeData)

/-- `_is_only_emoji`. -/
def isOnlyEmoji (text : List Char) : Bool :=
  (text.filter (fun c => !u.isspace c)).all
    (fun c => u.category c ∈ [.so, .sk, .mn] || c ∈ ['\u200d', '\ufe0f'])

/-- `_is_only_urls`. A URL is matched where a suffix of the text starts with one. -/
def isOnlyUrls (text : List Char) : Bool :=
  text.tails.any u.startsUrl &&
    (strip (fun c => c ∈ " \t\r\n,;".toList) (u.subUrls false text)).isEmpty

/-- `" ".join(text.casefold().strip(_EDGE_PUNCTUATION).split())`. -/
def greeting (text : List Char) : String :=
  String.ofList (unwords ' '
    (words u.isspace (strip (fun c => c ∈ EDGE_PUNCTUATION) (u.folded text))))

/-- `pattern.search(text.casefold())`. -/
def hits (terms : List String) (text : List Char) : Bool :=
  (StemTerms.compileStemTerms u terms).search (u.folded text)

/-- `has_hiring_intent`, from what each pattern finds. -/
def hasHiringIntent (found : List String → Bool) : Bool :=
  (found NEED_TOKEN && found DEV_NOUN) || (found WHO_TOKEN && found BUILD_VERB) ||
    (found WEAK_NEED && found BUILD_VERB && found DELIVERABLE) || found ORDER_PAY

/-- The last four answers, from what each pattern finds. -/
def scope (found : List String → Bool) : FilterReasonCode :=
  if found EXCLUSION then .noHiringIntent
  else if !hasHiringIntent found then .noHiringIntent
  else if !found STACK_TOKEN then .noStackFit
  else .passToClassifier

def reject (reasonCode : FilterReasonCode) : FilterResult := ⟨false, reasonCode⟩

/-- `message.text.strip() if message.text is not None else ""`. -/
def strippedText (message : MappedMessage) : List Char :=
  match message.text with
  | some text => strip u.isspace text.toList
  | none => []

/-- The answers that come before the terms are looked for. -/
def noise? (message : MappedMessage) : Option FilterReasonCode :=
  let text := strippedText u message
  if message.isOwn then some .ownMessage
  else if message.isService then some .serviceMessage
  else if text.isEmpty then
    some (if message.hasSticker then .stickerWithoutCaption else .noText)
  else if isOnlyEmoji u text then some .onlyEmoji
  else if BOT_COMMAND.fullmatch text then some .botCommand
  else if isOnlyUrls u text then some .onlyUrl
  else if greeting u text ∈ KNOWN_GREETINGS then some .knownGreeting
  else if greeting u text ∈ KNOWN_THANKS then some .knownThanks
  else none

/-- `prefilter_message`. -/
def prefilterMessage (message : MappedMessage) : FilterResult :=
  match noise? u message with
  | some reason => reject reason
  | none =>
      match scope (fun terms => hits u terms (strippedText u message)) with
      | .passToClassifier => ⟨true, .passToClassifier⟩
      | reason => reject reason

/-! ### What the terms find -/

/-- Some consecutive words and gaps of the folded text fit those of a term. -/
def Mentions (terms : List String) (text : List Char) : Prop :=
  ∃ term ∈ terms, ∃ found, found <:+: runs u.isWordChar (u.folded text) ∧
    List.Forall₂ (StemTerms.Fits u) (runs u.isWordChar term.toList) found

/-- The letters of the Russian and Ukrainian terms are alphanumeric. -/
def Cyrillic : Prop := ∀ c : Char, 0x430 ≤ c.toNat → c.toNat ≤ 0x45F → u.isalnum c = true

variable {u : UnicodeData}

/-- A lower case letter that the terms are written with. -/
def termLetter (c : Char) : Bool :=
  (97 ≤ c.toNat && c.toNat ≤ 122) || (0x430 ≤ c.toNat && c.toNat ≤ 0x45F)

/-- A text of letters, spaces and hyphens that begins and ends with a letter. -/
def written (text : List Char) : Bool :=
  text.all (fun c => termLetter c || c = ' ' || c = '-') &&
    (text.head?.any termLetter && text.getLast?.any termLetter)

theorem terms_written : ∀ terms ∈ TERM_LISTS, ∀ term ∈ terms, written term.toList = true := by
  decide +kernel

theorem isWordChar_of_termLetter (lawful : u.Lawful) (cyrillic : Cyrillic u) {c : Char}
    (letter : termLetter c = true) : u.isWordChar c = true := by
  apply Bool.or_eq_true_iff.2
  left
  rcases Bool.or_eq_true_iff.1 letter with latin | other
  · obtain ⟨least, most⟩ := Bool.and_eq_true_iff.1 latin
    have bounds : 97 ≤ c.toNat ∧ c.toNat ≤ 122 :=
      ⟨of_decide_eq_true least, of_decide_eq_true most⟩
    have lower : c.isLower = true := Bool.and_eq_true_iff.2
      ⟨decide_eq_true (UInt32.le_iff_toNat_le.2 bounds.1),
        decide_eq_true (UInt32.le_iff_toNat_le.2 bounds.2)⟩
    have letter : c.isAlpha = true := Bool.or_eq_true_iff.2 (Or.inr lower)
    rw [lawful.alnum_ascii c (by omega)]
    exact Bool.or_eq_true_iff.2 (Or.inl letter)
  · obtain ⟨least, most⟩ := Bool.and_eq_true_iff.1 other
    exact cyrillic c (of_decide_eq_true least) (of_decide_eq_true most)

/-- Every term of the filter begins and ends with a letter. -/
theorem closed_of_mem (lawful : u.Lawful) (cyrillic : Cyrillic u) {terms : List String}
    (listed : terms ∈ TERM_LISTS) : ∀ term ∈ terms, StemTerms.Closed u term := by
  intro term there
  have ends := (Bool.and_eq_true_iff.1 (terms_written terms listed term there)).2
  simp only [Bool.and_eq_true, Option.any_eq_true] at ends
  obtain ⟨⟨c, here, letter⟩, ⟨d, here', letter'⟩⟩ := ends
  unfold StemTerms.Closed
  rw [here, here']
  exact ⟨isWordChar_of_termLetter lawful cyrillic letter,
    isWordChar_of_termLetter lawful cyrillic letter'⟩

theorem terms_ne_nil : ∀ terms ∈ TERM_LISTS, terms ≠ [] := by
  decide

theorem hits_iff_mentions (lawful : u.Lawful) (cyrillic : Cyrillic u) {terms : List String}
    (listed : terms ∈ TERM_LISTS) (text : List Char) :
    hits u terms text = true ↔ Mentions u terms text :=
  StemTerms.search_compileStemTerms lawful (terms_ne_nil terms listed)
    (closed_of_mem lawful cyrillic listed)

/-! ### Sentences -/

/-- Punctuation that no term has. -/
def SENTENCE_ENDS : List Char := ['.', '!', '?', ',', ';', ':']

theorem sentence_ends_plain : ∀ stop ∈ SENTENCE_ENDS,
    stop.toNat < 128 ∧ stop.isAlphanum = false ∧ stop ≠ '_' ∧ asciiSpace stop = false ∧
      stop.toLower = stop ∧ (termLetter stop || stop = ' ' || stop = '-') = false := by
  decide

theorem sentence_end_absent {stop : Char} (ends : stop ∈ SENTENCE_ENDS) {terms : List String}
    (listed : terms ∈ TERM_LISTS) : ∀ term ∈ terms, stop ∉ term.toList := by
  intro term there inside
  have plain := (sentence_ends_plain stop ends).2.2.2.2.2
  have each := (Bool.and_eq_true_iff.1 (terms_written terms listed term there)).1
  rw [List.all_eq_true.1 each stop inside] at plain
  exact Bool.false_ne_true plain.symm

/-- A first sentence and the further ones, each behind the character that ends the one before. -/
def joined (first : List Char) (further : List (Char × List Char)) : List Char :=
  first ++ further.flatMap (fun next => next.1 :: next.2)

/-- A character that ends a sentence parts what a pattern finds. -/
theorem hits_append_cons (lawful : u.Lawful) {stop : Char} (ends : stop ∈ SENTENCE_ENDS)
    {terms : List String} (listed : terms ∈ TERM_LISTS) (front back : List Char) :
    hits u terms (front ++ stop :: back) = (hits u terms front || hits u terms back) := by
  obtain ⟨small, no_alnum, no_underscore, dark, lower, -⟩ := sentence_ends_plain stop ends
  have fold : u.casefold stop = [stop] := by rw [lawful.casefold_ascii stop small, lower]
  have no_word : u.isWordChar stop = false := by
    simp [UnicodeData.isWordChar, lawful.alnum_ascii stop small, no_alnum, no_underscore]
  have no_space : u.isspace stop = false := by rw [lawful.space_ascii stop small, dark]
  unfold hits UnicodeData.folded
  rw [List.flatMap_append, List.flatMap_cons, fold, List.singleton_append]
  exact StemTerms.search_append_cons (terms_ne_nil terms listed) no_word no_space
    (sentence_end_absent ends listed)

/-- A pattern finds something in a text exactly when it does in one of its sentences. -/
theorem hits_joined (lawful : u.Lawful) {terms : List String} (listed : terms ∈ TERM_LISTS)
    {further : List (Char × List Char)} (ends : ∀ next ∈ further, next.1 ∈ SENTENCE_ENDS)
    (first : List Char) : hits u terms (joined first further) =
      (first :: further.map Prod.snd).any (hits u terms) := by
  unfold joined
  induction further generalizing first with
  | nil => simp
  | cons next further ih =>
      have later := ih (fun other there => ends other (List.mem_cons_of_mem next there)) next.2
      rw [List.flatMap_cons, List.cons_append,
        hits_append_cons lawful (ends next List.mem_cons_self) listed, later]
      rfl

theorem scope_congr {found other : List String → Bool}
    (agree : ∀ terms ∈ TERM_LISTS, found terms = other terms) : scope found = scope other := by
  simp only [TERM_LISTS, List.forall_mem_cons] at agree
  obtain ⟨dev, need, who, build, weak, deliverable, stack, pay, exclusion, -⟩ := agree
  unfold scope hasHiringIntent
  rw [dev, need, who, build, weak, deliverable, stack, pay, exclusion]

/-- What the terms ask of a message, by what its sentences mention. -/
structure InScope (u : UnicodeData) (sentences : List (List Char)) : Prop where
  clean : ∀ sentence ∈ sentences, ¬ Mentions u EXCLUSION sentence
  fit : ∃ sentence ∈ sentences, Mentions u STACK_TOKEN sentence
  intent :
    ((∃ sentence ∈ sentences, Mentions u NEED_TOKEN sentence) ∧
      ∃ sentence ∈ sentences, Mentions u DEV_NOUN sentence) ∨
    ((∃ sentence ∈ sentences, Mentions u WHO_TOKEN sentence) ∧
      ∃ sentence ∈ sentences, Mentions u BUILD_VERB sentence) ∨
    ((∃ sentence ∈ sentences, Mentions u WEAK_NEED sentence) ∧
      (∃ sentence ∈ sentences, Mentions u BUILD_VERB sentence) ∧
      ∃ sentence ∈ sentences, Mentions u DELIVERABLE sentence) ∨
    ∃ sentence ∈ sentences, Mentions u ORDER_PAY sentence

theorem scope_iff (found : List String → Bool) : scope found = .passToClassifier ↔
    found EXCLUSION = false ∧ found STACK_TOKEN = true ∧
      ((found NEED_TOKEN = true ∧ found DEV_NOUN = true) ∨
        (found WHO_TOKEN = true ∧ found BUILD_VERB = true) ∨
        (found WEAK_NEED = true ∧ found BUILD_VERB = true ∧ found DELIVERABLE = true) ∨
        found ORDER_PAY = true) := by
  have intent : hasHiringIntent found = true ↔
      (found NEED_TOKEN = true ∧ found DEV_NOUN = true) ∨
        (found WHO_TOKEN = true ∧ found BUILD_VERB = true) ∨
        (found WEAK_NEED = true ∧ found BUILD_VERB = true ∧ found DELIVERABLE = true) ∨
        found ORDER_PAY = true := by
    simp [hasHiringIntent, or_assoc, and_assoc]
  rw [← intent]
  unfold scope
  cases found EXCLUSION <;> cases hasHiringIntent found <;> cases found STACK_TOKEN <;> simp

theorem shouldClassify_iff (message : MappedMessage) :
    (prefilterMessage u message).shouldClassify = true ↔ noise? u message = none ∧
      scope (fun terms => hits u terms (strippedText u message)) = .passToClassifier := by
  unfold prefilterMessage
  cases noise? u message with
  | some reason => simp [reject]
  | none => cases scope _ <;> simp [reject]

/-- A message is passed on exactly when it is no noise and its sentences ask for work in scope: what
excludes it does so in any sentence, and what is asked for may be spread over them. -/
theorem prefilterMessage_sentences (lawful : u.Lawful) (cyrillic : Cyrillic u)
    (message : MappedMessage) {first : List Char} {further : List (Char × List Char)}
    (ends : ∀ next ∈ further, next.1 ∈ SENTENCE_ENDS)
    (whole : strippedText u message = joined first further) :
    (prefilterMessage u message).shouldClassify = true ↔
      noise? u message = none ∧ InScope u (first :: further.map Prod.snd) := by
  have spread := scope_congr (fun terms listed => @hits_joined u lawful terms listed further ends first)
  generalize first :: further.map Prod.snd = sentences at spread
  have found : ∀ terms ∈ TERM_LISTS, (sentences.any (hits u terms) = true ↔
      ∃ sentence ∈ sentences, Mentions u terms sentence) := by
    intro terms listed
    rw [List.any_eq_true]
    exact exists_congr fun sentence => and_congr_right fun _ =>
      hits_iff_mentions lawful cyrillic listed sentence
  have absent : sentences.any (hits u EXCLUSION) = false ↔
      ∀ sentence ∈ sentences, ¬ Mentions u EXCLUSION sentence := by
    rw [Bool.eq_false_iff, Ne, found EXCLUSION (by decide +kernel)]
    push Not
    rfl
  rw [shouldClassify_iff, whole, spread, scope_iff, absent]
  simp only [TERM_LISTS, List.forall_mem_cons] at found
  obtain ⟨dev, need, who, build, weak, deliverable, stack, pay, -⟩ := found
  rw [dev, need, who, build, weak, deliverable, stack, pay]
  constructor
  · rintro ⟨quiet, clean, fit, intent⟩
    exact ⟨quiet, clean, fit, intent⟩
  · rintro ⟨quiet, clean, fit, intent⟩
    exact ⟨quiet, clean, fit, intent⟩

end Prefilter

/-! ### A table with Cyrillic letters -/

namespace UnicodeData

/-- The character data with some characters as lower case letters. -/
def withLetters (u : UnicodeData) (letter : Char → Bool) : UnicodeData where
  casefold c := if letter c then [c] else u.casefold c
  category c := if letter c then .ll else u.category c
  isalnum c := letter c || u.isalnum c
  isspace c := !letter c && u.isspace c

variable {u : UnicodeData} {letter : Char → Bool} {c : Char}

theorem withLetters_letter (here : letter c = true) : (u.withLetters letter).casefold c = [c] ∧
    (u.withLetters letter).category c = .ll ∧ (u.withLetters letter).isalnum c = true ∧
    (u.withLetters letter).isspace c = false := by
  simp [withLetters, here]

theorem withLetters_other (other : letter c = false) :
    (u.withLetters letter).casefold c = u.casefold c ∧
    (u.withLetters letter).category c = u.category c ∧
    (u.withLetters letter).isalnum c = u.isalnum c ∧
    (u.withLetters letter).isspace c = u.isspace c := by
  simp [withLetters, other]

theorem withLetters_cases (u : UnicodeData) (letter : Char → Bool) (c : Char) :
    (letter c = true ∧ (u.withLetters letter).casefold c = [c] ∧
      (u.withLetters letter).category c = .ll ∧ (u.withLetters letter).isalnum c = true ∧
      (u.withLetters letter).isspace c = false) ∨
    (letter c = false ∧ (u.withLetters letter).casefold c = u.casefold c ∧
      (u.withLetters letter).category c = u.category c ∧
      (u.withLetters letter).isalnum c = u.isalnum c ∧
      (u.withLetters letter).isspace c = u.isspace c) := by
  cases here : letter c with
  | true => exact Or.inl ⟨rfl, withLetters_letter here⟩
  | false => exact Or.inr ⟨rfl, withLetters_other here⟩

/-- Letters beyond those that the facts name can be added, when nothing else folds to them. -/
theorem Lawful.withLetters (lawful : u.Lawful)
    (plain : ∀ c : Char, c.toNat < 128 → letter c = false)
    (unnamed : letter 'ſ' = false ∧ letter '\u200d' = false ∧ letter '\ufe0f' = false)
    (closed : ∀ c, letter c = false → ∀ d ∈ u.casefold c, letter d = false) :
    (u.withLetters letter).Lawful where
  casefold_casefold c := by
    rcases withLetters_cases u letter c with ⟨-, fold, -⟩ | ⟨other, fold, -⟩
    · rw [fold, List.flatMap_singleton, fold]
    · rw [fold]
      exact (List.flatMap_congr fun d there => (withLetters_other (closed c other d there)).1).trans
        (lawful.casefold_casefold c)
  casefold_ne_nil c := by
    rcases withLetters_cases u letter c with ⟨-, fold, -⟩ | ⟨-, fold, -⟩
    · exact fold ▸ List.cons_ne_nil c []
    · exact fold ▸ lawful.casefold_ne_nil c
  casefold_ascii c small := by
    rw [(withLetters_other (plain c small)).1, lawful.casefold_ascii c small]
  casefold_long_s := by rw [(withLetters_other unnamed.1).1, lawful.casefold_long_s]
  casefold_symbol c symbol d there := by
    rcases withLetters_cases u letter c with ⟨-, -, category, -⟩ | ⟨other, fold, category, -⟩
    · exact absurd (category.symm.trans symbol) (by decide)
    · rw [fold] at there
      rw [(withLetters_other (closed c other d there)).2.1]
      exact lawful.casefold_symbol c (category.symm.trans symbol) d there
  casefold_mark c mark apart := by
    rcases withLetters_cases u letter c with ⟨-, fold, -⟩ | ⟨-, fold, category, -⟩
    · exact fold
    · exact fold.trans (lawful.casefold_mark c (category.symm.trans mark) apart)
  casefold_alnum c alnum d there := by
    rcases withLetters_cases u letter c with ⟨-, fold, -⟩ | ⟨other, fold, -, sign, -⟩
    · rw [fold, List.mem_singleton] at there
      exact Or.inl (there ▸ alnum)
    · rw [fold] at there
      obtain ⟨-, category, sign', -⟩ := @withLetters_other u letter d (closed c other d there)
      rw [category, sign']
      exact lawful.casefold_alnum c (sign.symm.trans alnum) d there
  casefold_dark c dark d there := by
    rcases withLetters_cases u letter c with ⟨-, fold, -⟩ | ⟨other, fold, -, -, space⟩
    · rw [fold, List.mem_singleton] at there
      exact there ▸ dark
    · rw [fold] at there
      rw [(withLetters_other (closed c other d there)).2.2.2]
      exact lawful.casefold_dark c (space.symm.trans dark) d there
  casefold_other c letters marks numbers symbol := by
    rcases withLetters_cases u letter c with ⟨-, fold, -⟩ | ⟨-, fold, category, -⟩
    · exact fold
    · rw [category] at letters marks numbers symbol
      exact fold.trans (lawful.casefold_other c letters marks numbers symbol)
  category_ascii c small := by
    rw [(withLetters_other (plain c small)).2.1, lawful.category_ascii c small]
  category_joiner := by rw [(withLetters_other unnamed.2.1).2.1, lawful.category_joiner]
  category_selector := by rw [(withLetters_other unnamed.2.2).2.1, lawful.category_selector]
  alnum_ascii c small := by
    rw [(withLetters_other (plain c small)).2.2.1, lawful.alnum_ascii c small]
  alnum_category c alnum := by
    rcases withLetters_cases u letter c with ⟨-, -, category, -⟩ | ⟨-, -, category, sign, -⟩
    · exact category ▸ Or.inl (by decide)
    · rw [category]
      exact lawful.alnum_category c (sign.symm.trans alnum)
  space_ascii c small := by
    rw [(withLetters_other (plain c small)).2.2.2, lawful.space_ascii c small]
  space_category c space := by
    rcases withLetters_cases u letter c with ⟨-, -, -, -, dark⟩ | ⟨-, -, category, -, same⟩
    · exact absurd (dark.symm.trans space) Bool.false_ne_true
    · rw [category]
      exact lawful.space_category c (same.symm.trans space)

end UnicodeData

/-- The lower case letters of Cyrillic. -/
def cyrillicLetter (c : Char) : Bool := 0x430 ≤ c.toNat && c.toNat ≤ 0x45F

/-- The sample table with the letters of the terms. -/
def cyrillicUnicode : UnicodeData := sampleUnicode.withLetters cyrillicLetter

theorem cyrillicUnicode_lawful : cyrillicUnicode.Lawful := by
  apply sampleUnicode_lawful.withLetters
  · intro c small
    apply Bool.eq_false_iff.2
    intro here
    have least := of_decide_eq_true (Bool.and_eq_true_iff.1 here).1
    omega
  · decide
  · apply sample_cases
    · decide
    · decide
    · intro c fold _ _ _ other d there
      rw [fold, List.mem_singleton] at there
      exact there ▸ other

theorem cyrillicUnicode_cyrillic : Prefilter.Cyrillic cyrillicUnicode := by
  intro c least most
  apply Bool.or_eq_true_iff.2
  exact Or.inl (Bool.and_eq_true_iff.2 ⟨decide_eq_true least, decide_eq_true most⟩)

namespace Prefilter

/-- Who is looked for stands in one sentence and what for in another. -/
def sampleRequest : MappedMessage where
  telegramChatId := -1001
  telegramMessageId := 7
  topicId := none
  senderTelegramId := some 5
  senderDisplayName := some "Anna"
  text := some " ищу разработчика: сделать чат-бот! срочно\n"
  telegramCreatedAt := 0
  isOwn := false
  isService := false
  hasSticker := false

/-- The request is passed on because its sentences are in scope together. -/
theorem sampleRequest_inScope : InScope cyrillicUnicode
    ["ищу разработчика".toList, " сделать чат-бот".toList, " срочно".toList] := by
  have passed := @prefilterMessage_sentences cyrillicUnicode cyrillicUnicode_lawful
    cyrillicUnicode_cyrillic sampleRequest "ищу разработчика".toList
    [(':', " сделать чат-бот".toList), ('!', " срочно".toList)] (by decide) (by decide +kernel)
  exact (passed.1 (by decide +kernel)).2

end Prefilter

end LeadAssistant
