/-
Module: LeadAssistant.Bot.MessageLinks
Layer: Bot
Purpose: Which chat a private link of `build_original_message_url` (`bot/keyboards/notifications.py`)
  names. Telegram marks channel `n` as `-(10^12 + n)`, and the link is built by taking the prefix
  "-100" off the marked id. This undoes the mark for channel ids of ten digits, and also reads
  those basic groups whose id happens to start in this way.
Trusted boundary: human-reviewed spec
Main exports: markedChannelId, channelLink, LooksMarked, NamesChat, namesChat_iff,
  links_name_other_chats
-/
import LeadAssistant.Bot.Notifications

namespace LeadAssistant

/-- The id of a channel, as Telethon marks it. -/
def markedChannelId (n : Nat) : Int := -(10 ^ 12 + n)

/-- The ids of basic groups. -/
def IsBasicGroupId (chatId : Int) : Prop := -10 ^ 12 < chatId ∧ chatId < 0

/-- The part of a link that names the topic. -/
def topicPath (topicId : Option Int) : String :=
  match topicId with
  | some topicId => "/" ++ Numeral.str topicId
  | none => ""

/-- The link to a message of channel `n`. -/
def channelLink (n : Nat) (topicId : Option Int) (messageId : Int) : String :=
  "https://t.me/c/" ++ Numeral.str n ++ topicPath topicId ++ "/" ++ Numeral.str messageId

/-- A message, and a topic if there is one, that a link can name. -/
def Linkable (messageId : Int) (topicId : Option Int) : Prop :=
  0 < messageId ∧ topicId.all (fun topicId => 0 < topicId) = true

/-- The numerals that start with "100" and go on with a positive number. -/
def LooksMarked (m : Nat) : Prop := ∃ k, 10 ^ (k + 2) < m ∧ m < 101 * 10 ^ k

/-- A link names the channel that the id marks, and a basic group has none. -/
structure NamesChat (username : Option String) (chatId messageId : Int) (topicId : Option Int) :
    Prop where
  channel : ∀ n, 1 ≤ n → chatId = markedChannelId n → Linkable messageId topicId →
    buildOriginalMessageUrl username chatId messageId topicId =
      some (channelLink n topicId messageId)
  basicGroup : IsBasicGroupId chatId →
    buildOriginalMessageUrl username chatId messageId topicId = none

section Paths

variable {username : Option String} {chatId messageId : Int} {topicId : Option Int}
  {path : String} {m n : Nat}

instance : Decidable (Linkable messageId topicId) := by
  unfold Linkable
  infer_instance

theorem isDigit_of_rest {rest : List Char} (split : Nat.toDigits 10 m = Nat.toDigits 10 n ++ rest) :
    ∀ c ∈ rest, c.isDigit = true := by
  intro c held
  exact Nat.isDigit_of_mem_toDigits (by decide) (by decide)
    (split ▸ List.mem_append_right _ held : c ∈ Nat.toDigits 10 m)

/-- The path of a negative id is what follows the digits "100". -/
theorem privateChatPath_eq_some_iff : privateChatPath chatId = some path ↔
    chatId < 0 ∧ ∃ rest, Nat.toDigits 10 chatId.natAbs = Nat.toDigits 10 100 ++ rest ∧
      0 < Nat.ofDigitChars 10 rest 0 ∧ path = "c/" ++ String.ofList rest := by
  have marker : "-100".toList = '-' :: Nat.toDigits 10 100 := by decide
  unfold privateChatPath Numeral.str
  rw [String.toList_ofList, marker]
  dsimp only
  by_cases negative : chatId < 0
  · rw [if_pos negative, List.singleton_append, List.isPrefixOf_cons_cons_self]
    by_cases starts : (Nat.toDigits 10 100).isPrefixOf (Nat.toDigits 10 chatId.natAbs) = true
    · rcases List.isPrefixOf_iff_prefix.1 starts with ⟨rest, split⟩
      have dropped : ('-' :: Nat.toDigits 10 chatId.natAbs).drop 4 = rest := by
        rw [← split]
        rfl
      have digits : rest.all Char.isDigit = true :=
        List.all_eq_true.2 (isDigit_of_rest split.symm)
      have only : ∀ other, Nat.toDigits 10 chatId.natAbs = Nat.toDigits 10 100 ++ other ↔
          rest = other := by
        intro other
        rw [← split, List.append_cancel_left_eq]
      rw [if_pos starts, dropped, digits]
      simp only [only, negative, exists_eq_left', true_and]
      by_cases zero : Nat.ofDigitChars 10 rest 0 = 0
      · rw [if_pos (.inr (.inr zero)), zero]
        exact iff_of_false (Option.some_ne_none path).symm (fun positive => Nat.lt_irrefl 0 positive.1)
      · have more : rest ≠ [] := by
          rintro rfl
          exact zero rfl
        rw [if_neg (by simp [more, zero]), Option.some.injEq, eq_comm]
        exact (and_iff_right (Nat.pos_of_ne_zero zero)).symm
    · rw [if_neg starts]
      refine iff_of_false (Option.some_ne_none path).symm ?_
      rintro ⟨_, rest, split, _⟩
      exact starts (List.isPrefixOf_iff_prefix.2 ⟨rest, split.symm⟩)
  · have unmarked : ('-' :: Nat.toDigits 10 100).isPrefixOf (Nat.toDigits 10 chatId.natAbs) ≠ true := by
      intro starts
      have sign := (List.isPrefixOf_iff_prefix.1 starts).subset List.mem_cons_self
      have digit := Nat.isDigit_of_mem_toDigits (by decide) (by decide) sign
      cases digit
    rw [if_neg negative, List.nil_append, if_neg unmarked]
    exact iff_of_false (Option.some_ne_none path).symm (fun own => negative own.1)

theorem exists_marked_iff : (∃ rest, Nat.toDigits 10 m = Nat.toDigits 10 100 ++ rest ∧
    0 < Nat.ofDigitChars 10 rest 0) ↔ LooksMarked m := by
  constructor
  · rintro ⟨rest, split, positive⟩
    rcases Numeral.value_of_start split with ⟨value, small⟩
    refine ⟨rest.length, ?_, ?_⟩
    · rw [Nat.pow_add]
      omega
    · omega
  · rintro ⟨k, above, below⟩
    rw [Nat.pow_add] at above
    have small : m - 100 * 10 ^ k < 10 ^ k := by omega
    rcases Numeral.exists_rest (by decide : 0 < 100) small with ⟨rest, split, _, value⟩
    rw [Nat.add_sub_cancel' (by omega)] at split
    exact ⟨rest, split, by omega⟩

/-- The digits of a marked id are "100" and those of the channel exactly for ten digits. -/
theorem toDigits_marked_iff (positive : 1 ≤ n) :
    Nat.toDigits 10 (10 ^ 12 + n) = Nat.toDigits 10 100 ++ Nat.toDigits 10 n ↔
      10 ^ 9 ≤ n ∧ n < 10 ^ 10 := by
  have length : (Nat.toDigits 10 n).length = 10 ↔ 10 ^ 9 ≤ n ∧ n < 10 ^ 10 := by
    have upper := @Nat.length_toDigits_le_iff 10 n 10 (by decide) (by decide)
    have lower := @Nat.length_toDigits_le_iff 10 n 9 (by decide) (by decide)
    omega
  rw [← length]
  constructor
  · intro split
    have value := (Numeral.value_of_start split).1
    rw [Nat.ofDigitChars_ten_toDigits] at value
    have power : 10 ^ 10 = 10 ^ (Nat.toDigits 10 n).length := by omega
    exact (Nat.pow_right_injective (by decide : 2 ≤ 10) power).symm
  · intro ten
    have bounds := length.1 ten
    rcases Numeral.exists_rest (by decide : 0 < 100) bounds.2 with ⟨rest, split, digits, value⟩
    have sum : 100 * 10 ^ 10 + n = 10 ^ 12 + n := by omega
    rw [← sum, split]
    congr 1
    refine Numeral.eq_of_value (isDigit_of_rest split) (fun c held => ?_) (digits.trans ten.symm) ?_
    · exact Nat.isDigit_of_mem_toDigits (by decide) (by decide) held
    · rw [value, Nat.ofDigitChars_ten_toDigits]

/-- Without a public username, a link is built from the path of the id. -/
theorem buildOriginalMessageUrl_eq
    (unusable : (withoutPrefix username).filter isPublicUsername = none) :
    buildOriginalMessageUrl username chatId messageId topicId =
      if Linkable messageId topicId then
        (privateChatPath chatId).map (fun path =>
          "https://t.me/" ++ path ++ topicPath topicId ++ "/" ++ Numeral.str messageId)
      else none := by
  have refused : (messageId ≤ 0 ∨ topicId.any (fun topicId => topicId ≤ 0) = true) ↔
      ¬ Linkable messageId topicId := by
    unfold Linkable
    cases topicId with
    | none => simp
    | some topicId =>
        simp only [Option.any_some, Option.all_some, decide_eq_true_eq]
        omega
  unfold buildOriginalMessageUrl
  rw [if_congr refused rfl rfl, ite_not, unusable]
  dsimp only
  cases privateChatPath chatId <;> rfl

theorem url_of_marked_iff (unusable : (withoutPrefix username).filter isPublicUsername = none)
    (positive : 1 ≤ n) (linkable : Linkable messageId topicId) :
    buildOriginalMessageUrl username (markedChannelId n) messageId topicId =
      some (channelLink n topicId messageId) ↔ 10 ^ 9 ≤ n ∧ n < 10 ^ 10 := by
  have magnitude : (markedChannelId n).natAbs = 10 ^ 12 + n := by
    unfold markedChannelId
    omega
  have negative : markedChannelId n < 0 := by
    unfold markedChannelId
    omega
  have own : channelLink n topicId messageId = "https://t.me/" ++
      ("c/" ++ String.ofList (Nat.toDigits 10 n)) ++ topicPath topicId ++ "/" ++
        Numeral.str messageId := by
    unfold channelLink
    rw [← String.append_assoc]
    rfl
  rw [buildOriginalMessageUrl_eq unusable, if_pos linkable, Option.map_eq_some_iff, own,
    ← toDigits_marked_iff positive]
  constructor
  · rintro ⟨path, private_path, same⟩
    rw [String.append_left_inj, String.append_left_inj, String.append_left_inj,
      String.append_right_inj] at same
    rcases privateChatPath_eq_some_iff.1 private_path with ⟨_, rest, split, _, read⟩
    rw [read, String.append_right_inj, String.ofList_inj] at same
    rw [← magnitude, split, same]
  · intro split
    refine ⟨_, privateChatPath_eq_some_iff.2 ⟨negative, _, magnitude ▸ split, ?_, rfl⟩, rfl⟩
    rw [Nat.ofDigitChars_ten_toDigits]
    exact positive

theorem url_eq_none_iff (unusable : (withoutPrefix username).filter isPublicUsername = none)
    (linkable : Linkable messageId topicId) :
    buildOriginalMessageUrl username chatId messageId topicId = none ↔
      ¬ (chatId < 0 ∧ LooksMarked chatId.natAbs) := by
  rw [buildOriginalMessageUrl_eq unusable, if_pos linkable, Option.map_eq_none_iff,
    ← exists_marked_iff]
  constructor
  · rintro none ⟨negative, rest, split, positive⟩
    have path := privateChatPath_eq_some_iff.2 ⟨negative, rest, split, positive, rfl⟩
    rw [none] at path
    cases path
  · intro unmarked
    cases path : privateChatPath chatId with
    | none => rfl
    | some found =>
        rcases privateChatPath_eq_some_iff.1 path with ⟨negative, rest, split, positive, _⟩
        exact absurd ⟨negative, rest, split, positive⟩ unmarked

end Paths

/-- A link to a message names its chat exactly for the channel ids of ten digits and for the basic
groups that do not look marked. -/
theorem namesChat_iff {username : Option String} {chatId messageId : Int} {topicId : Option Int}
    (unusable : (withoutPrefix username).filter isPublicUsername = none) :
    NamesChat username chatId messageId topicId ↔ (Linkable messageId topicId →
      (∀ n, 1 ≤ n → chatId = markedChannelId n → 10 ^ 9 ≤ n ∧ n < 10 ^ 10) ∧
      (IsBasicGroupId chatId → ¬ LooksMarked chatId.natAbs)) := by
  constructor
  · intro names linkable
    refine ⟨?_, ?_⟩
    · rintro n positive rfl
      exact (url_of_marked_iff unusable positive linkable).1 (names.channel n positive rfl linkable)
    · intro basic marked
      exact (url_eq_none_iff unusable linkable).1 (names.basicGroup basic) ⟨basic.2, marked⟩
  · intro reads
    refine ⟨?_, ?_⟩
    · rintro n positive rfl linkable
      exact (url_of_marked_iff unusable positive linkable).2 ((reads linkable).1 n positive rfl)
    · intro basic
      by_cases linkable : Linkable messageId topicId
      · rw [url_eq_none_iff unusable linkable]
        exact fun own => (reads linkable).2 basic own.2
      · rw [buildOriginalMessageUrl_eq unusable, if_neg linkable]

/-- The channel of a forum, whose id has ten digits. -/
theorem namesChat_sample : NamesChat (some "@") (markedChannelId 1234567890) 99 (some 17) := by
  refine (namesChat_iff (by decide)).2 (fun _ => ⟨?_, ?_⟩)
  · intro n _ same
    unfold markedChannelId at same
    omega
  · intro basic
    exact absurd basic.1 (by decide)

/-- Channel 1 is named with leading zeros, and basic group 100123 as channel 123. -/
theorem links_name_other_chats :
    ¬ NamesChat none (markedChannelId 1) 42 none ∧ ¬ NamesChat none (-100123) 42 none := by
  refine ⟨?_, ?_⟩
  · intro names
    have link : buildOriginalMessageUrl none (markedChannelId 1) 42 none =
        some "https://t.me/c/0000000001/42" := by decide +kernel
    have named := names.channel 1 (Nat.le_refl 1) rfl (by decide)
    rw [link] at named
    exact absurd named (by decide +kernel)
  · intro names
    have link : buildOriginalMessageUrl none (-100123) 42 none = some "https://t.me/c/123/42" := by
      decide +kernel
    have named := names.basicGroup ⟨by decide, by decide⟩
    rw [link] at named
    cases named

end LeadAssistant
