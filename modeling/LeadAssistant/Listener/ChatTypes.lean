/-
Module: LeadAssistant.Listener.ChatTypes
Layer: Listener
Purpose: What `chat_type` says. A result that could not see the chat comes with the default flags of
  `ChatVerificationResult`, and `apply_verification` writes the type that these flags show. So the
  column is the type of the latest verification that saw the chat as long as results that are blind
  only meet chats of the type they show.
Trusted boundary: human-reviewed spec
Main exports: latestType?, Monitor.Remembered, BlindKeeps, Monitor.SameType, chat_type_remembered,
  chatType_of_blind
-/
import LeadAssistant.Library.Fallible
import LeadAssistant.Listener.AccessEvidence
import LeadAssistant.Listener.TelethonClient

namespace LeadAssistant

/-- A result that could not see the chat. -/
def ChatVerificationResult.isBlind (result : ChatVerificationResult) : Bool :=
  match result.outcome with
  | .active | .readOnly => false
  | .accessLost | .verificationFailed => true

/-- A blind result of `verify_chat` shows a group, whatever the chat is. -/
theorem chatType_of_blind {telethon : TelethonAnswers} {result : ChatVerificationResult}
    (answered : telethon.verifyChat = .ok result) (blind : result.isBlind = true) :
    result.chatType = .group := by
  unfold TelethonAnswers.verifyChat at answered
  cases checked : telethon.checkChat with
  | ok found =>
      rw [checked] at answered
      cases answered
      unfold TelethonAnswers.checkChat at checked
      rcases Except.bind_eq_ok_iff.1 checked with ⟨entity, _, checked⟩
      split at checked
      · cases checked
        rfl
      · -- A chat of a supported type is found active or read-only.
        rcases Except.bind_eq_ok_iff.1 checked with ⟨_, _, checked⟩
        rcases Except.bind_eq_ok_iff.1 checked with ⟨permissions, _, checked⟩
        cases checked
        cases sends : accountCanSend entity permissions <;>
          simp [ChatVerificationResult.isBlind, sends] at blind
  | error error =>
      rw [checked] at answered
      cases error <;> cases answered <;> rfl

namespace AccessEvidence

open Relational Transition MonitoredChatRepository

/-- The type that the latest verification has seen since the chat was added. -/
def latestType? : List Entry → Option MonitoredChatType
  | [] => none
  | entry :: older =>
      match entry.event with
      | .verified result => if result.isBlind then latestType? older else some result.chatType
      | .added => none
      | .deferred | .requested | .paused | .resumed | .removed => latestType? older

theorem latestType?_verified {result : ChatVerificationResult} {now : Time} {log : List Entry} :
    latestType? (⟨.verified result, now⟩ :: log) =
      if result.isBlind then latestType? log else some result.chatType := rfl

/-- Every chat that was seen is of the type that was seen last. -/
def Monitor.Remembered (m : Monitor) : Prop :=
  ∀ chat ∈ m.db.monitoredChats, ∀ type, latestType? (m.log chat.id) = some type →
    chat.chatType = type

/-- A blind result does not change the type of a chat. -/
def BlindKeeps (m : Monitor) (e : ChatCall × Time) (t : Monitor) : Prop :=
  match e.1 with
  | .applyVerification chatId result =>
      result.isBlind = true → ∀ chat ∈ m.db.monitoredChats, chat.id = chatId →
        (t.db.monitoredChats.get? chatId).map MonitoredChat.chatType = some chat.chatType
  | _ => True

/-- A blind result that is written meets a chat of the type it shows. -/
def Monitor.Meets (m : Monitor) (chatId : UUID) (result : ChatVerificationResult) (now : Time) :
    Prop :=
  result.isBlind = true → ∀ chat ∈ m.db.monitoredChats.rows, isEnabled chatId chat = true →
    (verified result now chat).verificationStorable = true → chat.chatType = result.chatType

/-- So does every result of a call. -/
def Monitor.SameType (m : Monitor) : ChatCall × Time → Prop
  | (.applyVerification chatId result, now) => m.Meets chatId result now
  | _ => True

instance (m : Monitor) (chatId : UUID) (result : ChatVerificationResult) (now : Time) :
    Decidable (m.Meets chatId result now) := by
  unfold Monitor.Meets
  infer_instance

instance (m : Monitor) : ∀ e, Decidable (m.SameType e)
  | (.applyVerification chatId result, now) =>
      inferInstanceAs (Decidable (m.Meets chatId result now))
  | (.addPending _ _, _) | (.deferVerification _, _) | (.requestVerification _, _)
  | (.pause _, _) | (.resume _, _) | (.remove _, _) => isTrue trivial

/-- The type of a chat is the one that was seen last, or that of a chat that was just added. -/
def Shown (log : List Entry) (chat : MonitoredChat) : Prop :=
  chat.chatType = (latestType? log).getD .group

/-- Every stored chat shows its type. -/
def Monitor.Shown (m : Monitor) : Prop :=
  ∀ chat ∈ m.db.monitoredChats, AccessEvidence.Shown (m.log chat.id) chat

theorem Monitor.Shown.remembered {m : Monitor} (shown : m.Shown) : m.Remembered := by
  intro chat held type seen
  have same := shown chat held
  unfold AccessEvidence.Shown at same
  rw [same, seen, Option.getD_some]

section Steps

variable {m t : Monitor} {e : ChatCall × Time} {chatId : UUID} {result : ChatVerificationResult}
  {now : Time}

/-- What `apply_verification` does when the values fit the columns. -/
theorem step_applyVerification_eq : step m (.applyVerification chatId result, now) =
    some (if m.db.monitoredChats.rows.any (fun chat =>
        isEnabled chatId chat && !(verified result now chat).verificationStorable) then m
      else m.touch (isEnabled chatId) (verified result now) (fun _ => rfl)
        (.verified result) now) := by
  unfold step applyVerification
  dsimp only
  by_cases refused : (m.db.monitoredChats.rows.any (fun chat =>
      isEnabled chatId chat && !(verified result now chat).verificationStorable)) = true
  · rw [if_pos refused, if_pos refused]
  · rw [if_neg refused, if_neg refused]
    rfl

theorem storable_of_fits {chat : MonitoredChat}
    (fits : ¬ (m.db.monitoredChats.rows.any (fun chat =>
      isEnabled chatId chat && !(verified result now chat).verificationStorable)) = true)
    (held : chat ∈ m.db.monitoredChats.rows) (enabled : isEnabled chatId chat = true) :
    (verified result now chat).verificationStorable = true := by
  simp only [List.any_eq_true, Bool.and_eq_true, Bool.not_eq_true', not_exists, not_and,
    Bool.not_eq_false] at fits
  exact fits chat held enabled

theorem eq_of_isEnabled {chat other : MonitoredChat} (held : chat ∈ m.db.monitoredChats.rows)
    (held' : other ∈ m.db.monitoredChats.rows) (enabled : isEnabled chatId chat = true)
    (enabled' : isEnabled chatId other = true) : chat = other := by
  unfold isEnabled at enabled enabled'
  rw [Bool.and_eq_true, decide_eq_true_eq] at enabled enabled'
  have found := Table.get?_of_mem (Table.mem_rows.1 held)
  rw [enabled.1, ← enabled'.1, Table.get?_of_mem (Table.mem_rows.1 held')] at found
  exact (Option.some.inj found).symm

theorem shown_step (shown : m.Shown) (same : m.SameType e) (next : step m e = some t) :
    t.Shown := by
  rcases e with ⟨call, now⟩
  cases call with
  | addPending newId new =>
      rcases step_addPending next with rfl | ⟨chats, inserted, rfl⟩
      · exact shown
      · exact each_add shown inserted rfl
  | applyVerification chatId result =>
      rw [step_applyVerification_eq, Option.some.injEq] at next
      split at next
      · exact next ▸ shown
      · rename_i fits
        subst next
        refine each_touch shown (fun chat held enabled own => ?_)
        unfold Shown
        rw [latestType?_verified]
        cases blind : result.isBlind with
        | false => rfl
        | true =>
            have listed := Table.mem_rows.2 held
            exact (same blind chat listed enabled (storable_of_fits fits listed enabled)).symm.trans
              own
  | deferVerification chatId =>
      cases next
      exact each_touch shown (fun _ _ _ own => own)
  | requestVerification telegramChatId =>
      cases next
      exact each_touch shown (fun _ _ _ own => own)
  | pause chatId =>
      cases next
      exact each_touch shown (fun _ _ _ own => own)
  | resume chatId =>
      cases next
      exact each_touch shown (fun _ _ _ own => own)
  | remove chatId =>
      cases next
      exact each_remove shown

/-- A step keeps the type of every chat from blind results exactly when they show this type. -/
theorem blindKeeps_iff (next : step m e = some t) : BlindKeeps m e t ↔ m.SameType e := by
  rcases e with ⟨call, now⟩
  cases call with
  | applyVerification chatId result =>
      rw [step_applyVerification_eq, Option.some.injEq] at next
      unfold BlindKeeps Monitor.SameType Monitor.Meets
      dsimp only
      refine forall_congr' (fun blind => ?_)
      split at next
      · rename_i refused
        subst next
        rcases List.any_eq_true.1 refused with ⟨other, listed, unfit⟩
        rw [Bool.and_eq_true, Bool.not_eq_true'] at unfit
        refine iff_of_true (fun chat held own => ?_) (fun chat chatListed enabled storable => ?_)
        · rw [← own, Table.get?_of_mem held, Option.map_some]
        · have same : chat = other := eq_of_isEnabled chatListed listed enabled unfit.1
          rw [same, unfit.2] at storable
          cases storable
      · rename_i fits
        subst next
        constructor
        · intro keeps chat listed enabled _
          have held := Table.mem_rows.1 listed
          have own : chat.id = chatId := by
            unfold isEnabled at enabled
            exact of_decide_eq_true (Bool.and_eq_true _ _ ▸ enabled : _ ∧ _).1
          subst own
          have after := (congrArg (Option.map MonitoredChat.chatType) (get?_touch held)).symm.trans
            (keeps chat held rfl)
          rw [if_pos enabled] at after
          exact (Option.some.inj after).symm
        · rintro same chat held rfl
          refine (congrArg (Option.map MonitoredChat.chatType) (get?_touch held)).trans ?_
          split
          · rename_i enabled
            have listed := Table.mem_rows.2 held
            exact congrArg some
              (same chat listed enabled (storable_of_fits fits listed enabled)).symm
          · rfl
  | addPending | deferVerification | requestVerification | pause | resume | remove => exact Iff.rfl

end Steps

/-- In every run from a table without chats in which blind results only meet chats of the type they
show, every chat that was seen is of the type that was seen last. The step after such a run keeps
this and the type of every chat from blind results exactly when it is such a step. -/
theorem chat_type_remembered {db : Database} {es : List (ChatCall × Time)} {m : Monitor}
    (empty : db.monitoredChats = ∅) (run : Run step Monitor.SameType ⟨db, fun _ => []⟩ es m) :
    m.Remembered ∧ ∀ e t, step m e = some t → (t.Remembered ∧ BlindKeeps m e t ↔ m.SameType e) := by
  have shown : m.Shown := by
    refine run.invariant ?_ (fun _ _ _ shown same next => shown_step shown same next)
    intro chat held
    rw [empty] at held
    exact absurd held (Table.not_mem_empty chat)
  refine ⟨shown.remembered, fun e t next => ?_⟩
  rw [blindKeeps_iff next]
  exact and_iff_right_of_imp (fun same => (shown_step shown same next).remembered)

/-- A chat that is seen as a forum, paused and resumed, and seen as a supergroup. -/
def sampleTypes : List (ChatCall × Time) :=
  [(.addPending 1 ⟨-1001, "Support", none⟩, 0),
    (.applyVerification 1 { outcome := .accessLost, errorCode := some "peer_unavailable" }, 10),
    (.applyVerification 1 { outcome := .active, isSupergroup := true, isForum := true }, 20),
    (.pause 1, 30), (.resume 1, 40), (.deferVerification 1, 50),
    (.applyVerification 1 { outcome := .readOnly, isSupergroup := true }, 60)]

theorem chat_type_remembered_sample : ∃ m : Monitor, m.Remembered ∧
    m.db.monitoredChats.rows.map (fun chat => chat.chatType) = [.supergroup] := by
  have computed : (exec step Monitor.SameType ⟨{}, fun _ => []⟩ sampleTypes).map (fun m =>
      m.db.monitoredChats.rows.map (fun chat => chat.chatType)) = some [.supergroup] := by
    decide +kernel
  rcases Run.exists_of_exec computed with ⟨m, run, value⟩
  exact ⟨m, (chat_type_remembered rfl run).1, value⟩

/-- A forum of which one check fails is a group from then on. -/
theorem forum_forgotten : ∃ m : Monitor,
    Run step anyEvent ⟨{}, fun _ => []⟩
      [(.addPending 1 ⟨-1001, "Support", none⟩, 0),
        (.applyVerification 1 { outcome := .active, isSupergroup := true, isForum := true }, 10),
        (.applyVerification 1
          { outcome := .verificationFailed, errorCode := some "ChatIdInvalidError" }, 20)] m ∧
      m.db.monitoredChats.rows.map (fun chat => chat.chatType) = [.group] ∧ ¬ m.Remembered := by
  have computed : (exec step anyEvent ⟨{}, fun _ => []⟩
      [(.addPending 1 ⟨-1001, "Support", none⟩, 0),
        (.applyVerification 1 { outcome := .active, isSupergroup := true, isForum := true }, 10),
        (.applyVerification 1
          { outcome := .verificationFailed, errorCode := some "ChatIdInvalidError" }, 20)]).map
      (fun m => (m.db.monitoredChats.rows.map (fun chat => (chat.id, chat.chatType)),
        latestType? (m.log 1))) =
      some ([(1, .group)], some .forumSupergroup) := by decide +kernel
  rcases Run.exists_of_exec computed with ⟨m, run, value⟩
  rw [Prod.mk.injEq] at value
  rcases value with ⟨rows, seen⟩
  rcases List.map_eq_singleton_iff.1 rows with ⟨chat, listed, own⟩
  injection own with id type
  refine ⟨m, run, by rw [listed, List.map_singleton, type], fun remembered => ?_⟩
  have held : chat ∈ m.db.monitoredChats := Table.mem_rows.1 (listed ▸ List.mem_singleton_self chat)
  have same := remembered chat held .forumSupergroup (by rw [id, seen])
  rw [type] at same
  cases same

end AccessEvidence

end LeadAssistant
