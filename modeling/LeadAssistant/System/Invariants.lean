/-
Module: LeadAssistant.System.Invariants
Layer: System
Purpose: What holds of the whole system after every step of any service. The reply workflow and the
  pipeline keep the invariants of their own models, although other services commit between their
  steps: those add jobs and detected questions, or delete rows that no open iteration holds.
Trusted boundary: none
Main exports: Assistant.Served, Assistant.step_served, ReplyWorkflow.Posted, Assistant.Sound,
  Assistant.Sound.step
-/
import LeadAssistant.System.Effects
import LeadAssistant.System.NoticeEffects
import LeadAssistant.System.ReplyEffects
import LeadAssistant.Workflow.EditHistory

namespace LeadAssistant

open Relational Transition

/-! ### The reply workflow beside the other services -/

namespace ReplyWorkflow

/-- Every message that a send has brought about is on Telegram, under its question. -/
structure Posted (w : World) : Prop where
  accepted : ∀ iteration ∈ w.sending, iteration.acceptedId?.isSome = true →
    ∃ message, w.IsSent iteration.command.telegramChatId iteration.acceptedId?
      iteration.command.questionId message
  sent : ∀ send ∈ w.db.outboundCommands, send.commandType = .sendReply →
    send.status = .succeeded → ∃ message,
      w.IsSent send.telegramChatId send.sentMessageId send.questionId message

section Worlds

variable {w w' : World}

theorem Claims.congr {db db' : Database} {kind : CommandType} {command : OutboundCommand}
    (claims : Claims db kind command) (same : db'.outboundCommands = db.outboundCommands) :
    Claims db' kind command := by
  obtain ⟨row, found, rest⟩ := claims
  exact ⟨row, same ▸ found, rest⟩

/-- The questions, the commands and the open iterations are all that matters. -/
theorem Consistent.congr_tables (ok : Consistent w)
    (questions : w'.db.detectedQuestions = w.db.detectedQuestions)
    (commands : w'.db.outboundCommands = w.db.outboundCommands)
    (sending : w'.sending = w.sending) (editing : w'.editing = w.editing) : Consistent w' where
  coupled := ok.coupled.congr_tables questions commands
  sends iteration held := (ok.sends iteration (sending ▸ held)).congr commands
  edits iteration held := (ok.edits iteration (editing ▸ held)).congr commands
  validated iteration held := ok.validated iteration (sending ▸ held)
  targeted iteration held := ok.targeted iteration (editing ▸ held)

/-- A question arrives. -/
theorem Consistent.arrived {db : Database} {question : DetectedQuestion} (ok : Consistent w)
    (detected : question.status = .detected)
    (inserted : w.db.detectedQuestions.insert? question = some db.detectedQuestions)
    (commands : db.outboundCommands = w.db.outboundCommands) : Consistent { w with db := db } := by
  have arrived := ok.step (e := .persisted question) (.committed (.arrived detected inserted))
  exact arrived.congr_tables rfl commands rfl rfl

theorem statusOf?_deleteQuestions {db : Database} {questionIds : List UUID} {id : UUID} :
    (RetentionRepository.deleteQuestions questionIds db).statusOf? id =
      if id ∈ questionIds then none else db.statusOf? id := by
  unfold Database.statusOf? RetentionRepository.deleteQuestions
  dsimp only
  rw [Table.get?_deleteWhere]
  cases found : db.detectedQuestions.get? id with
  | none => simp
  | some question =>
      cases Table.key_of_get? found
      by_cases gone : question.id ∈ questionIds <;> simp [gone]

theorem placeOf?_deleteQuestions {db : Database} {questionIds : List UUID} {id : UUID} :
    (RetentionRepository.deleteQuestions questionIds db).placeOf? id =
      if id ∈ questionIds then none else db.placeOf? id := by
  unfold Database.placeOf? RetentionRepository.deleteQuestions
  dsimp only
  rw [Table.get?_deleteWhere]
  cases found : db.detectedQuestions.get? id with
  | none => simp
  | some question =>
      cases Table.key_of_get? found
      by_cases gone : question.id ∈ questionIds <;> simp [gone]

theorem mem_deleteQuestions {db : Database} {questionIds : List UUID} {command : OutboundCommand} :
    command ∈ (RetentionRepository.deleteQuestions questionIds db).outboundCommands ↔
      command ∈ db.outboundCommands ∧ command.questionId ∉ questionIds := by
  unfold RetentionRepository.deleteQuestions
  dsimp only
  rw [Table.mem_deleteWhere]
  simp

/-- A question is deleted together with all of its commands. -/
theorem Coupled.retained {db : Database} (coupled : Coupled db) (questionIds : List UUID) :
    Coupled (RetentionRepository.deleteQuestions questionIds db) where
  owner command held := by
    obtain ⟨old, kept⟩ := mem_deleteQuestions.1 held
    rw [placeOf?_deleteQuestions, if_neg kept]
    exact coupled.owner command old
  oneSend a ha b hb :=
    coupled.oneSend a (mem_deleteQuestions.1 ha).1 b (mem_deleteQuestions.1 hb).1
  sendStatus command held isSend := by
    obtain ⟨old, kept⟩ := mem_deleteQuestions.1 held
    rw [statusOf?_deleteQuestions, if_neg kept]
    exact coupled.sendStatus command old isSend
  sentId command held := coupled.sentId command (mem_deleteQuestions.1 held).1
  drafting id status found unsent := by
    rw [statusOf?_deleteQuestions] at found
    split at found
    · cases found
    · rename_i kept
      apply coupled.drafting id status found
      intro command held owner
      exact unsent command (mem_deleteQuestions.2 ⟨held, owner ▸ kept⟩) owner
  editTarget edit held isEdit := by
    obtain ⟨old, kept⟩ := mem_deleteQuestions.1 held
    obtain ⟨send, there, isSend, owner, sent⟩ := coupled.editTarget edit old isEdit
    exact ⟨send, mem_deleteQuestions.2 ⟨there, owner ▸ kept⟩, isSend, owner, sent⟩

theorem Claims.retained {db : Database} {kind : CommandType} {command : OutboundCommand}
    {questionIds : List UUID} (claims : Claims db kind command)
    (kept : command.questionId ∉ questionIds) :
    Claims (RetentionRepository.deleteQuestions questionIds db) kind command := by
  obtain ⟨row, found, pending, isKind, taken⟩ := claims
  have there := mem_deleteQuestions.2 ⟨Table.mem_of_get? found, taken.same.questionId ▸ kept⟩
  exact ⟨row, Table.get?_of_mem there, pending, isKind, taken⟩

theorem Consistent.retained (ok : Consistent w) {questionIds : List UUID}
    (sends : ∀ iteration ∈ w.sending, iteration.command.questionId ∉ questionIds)
    (edits : ∀ iteration ∈ w.editing, iteration.command.questionId ∉ questionIds) :
    Consistent { w with db := RetentionRepository.deleteQuestions questionIds w.db } where
  coupled := ok.coupled.retained questionIds
  sends iteration held := (ok.sends iteration held).retained (sends iteration held)
  edits iteration held := (ok.edits iteration held).retained (edits iteration held)
  validated := ok.validated
  targeted := ok.targeted

/-! ### What has been sent is on Telegram -/

theorem World.IsSent.grown {chatId : Int} {messageId : Option Int} {questionId : UUID}
    {message : TelegramMessage} (isSent : w.IsSent chatId messageId questionId message)
    (grown : message ∈ w'.telegram) : w'.IsSent chatId messageId questionId message :=
  ⟨grown, isSent.2⟩

/-- An edited message stays the message of its question. -/
theorem World.IsSent.edited {chatId : Int} {messageId : Option Int} {questionId : UUID}
    {message : TelegramMessage} {key : Int × Int} {text : String}
    (isSent : w.IsSent chatId messageId questionId message)
    (edited : w'.telegram = w.telegram.update key (fun old => { old with text := text })) :
    ∃ later, w'.IsSent chatId messageId questionId later := by
  by_cases own : message.key = key
  · refine ⟨{ message with text := text }, ?_, isSent.2⟩
    rw [edited]
    exact Table.mem_update_of_eq isSent.1 own
  · refine ⟨message, ?_, isSent.2⟩
    rw [edited]
    exact Table.mem_update_of_ne isSent.1 own

/-- A step that changes neither Telegram nor what the open sends have learnt. -/
theorem Posted.quiet {lock : Option UUID} (posted : Posted w) (change : Change w.db lock w'.db)
    (telegram : w'.telegram = w.telegram)
    (sending : ∀ iteration ∈ w'.sending, iteration.acceptedId?.isSome = true →
      iteration ∈ w.sending)
    (own : ∀ send ∈ w'.db.outboundCommands, send.commandType = .sendReply →
      send.status = .succeeded → lock = some send.id → ∃ message,
        w.IsSent send.telegramChatId send.sentMessageId send.questionId message) : Posted w' := by
  constructor
  · intro iteration held accepted
    obtain ⟨message, isSent⟩ := posted.accepted iteration (sending iteration held accepted) accepted
    exact ⟨message, isSent.grown (telegram ▸ isSent.1)⟩
  · intro send held isSend succeeded
    by_cases locked : lock = some send.id
    · obtain ⟨message, isSent⟩ := own send held isSend succeeded locked
      exact ⟨message, isSent.grown (telegram ▸ isSent.1)⟩
    · have old := change.succeeded_before held isSend succeeded locked
      obtain ⟨message, isSent⟩ := posted.sent send old isSend succeeded
      exact ⟨message, isSent.grown (telegram ▸ isSent.1)⟩

theorem Posted.closedSend {db' : Database} {iteration : SendIteration} {after : OutboundCommand}
    (posted : Posted w) (held : iteration ∈ w.sending)
    (change : Change w.db (some iteration.command.id) db')
    (stored : db'.outboundCommands.get? iteration.command.id = some after)
    (same : SameCommand iteration.command after)
    (succeeded : after.status = .succeeded →
      after.sentMessageId.isSome = true ∧ after.sentMessageId = iteration.acceptedId?) :
    Posted (w.closeSend iteration.command.id db') := by
  refine posted.quiet change rfl (fun other member _ => (mem_closeSend.1 member).1) ?_
  intro send member _ done own
  have found := Table.get?_of_mem member
  rw [← Option.some.inj own] at found
  cases stored.symm.trans found
  obtain ⟨known, learnt⟩ := succeeded done
  obtain ⟨message, isSent⟩ := posted.accepted iteration held (learnt ▸ known)
  refine ⟨message, ?_⟩
  rw [learnt, same.telegramChatId, same.questionId]
  exact isSent

theorem Posted.acceptedSend {answer : SendAnswer} {messageId : Int} {iteration : SendIteration}
    {telegram : Table TelegramMessage.key} (posted : Posted w) (held : iteration ∈ w.sending)
    (accepted : answer.acceptedId? = some messageId)
    (insert : w.telegram.insert? (TelegramMessage.mk iteration.command.telegramChatId messageId
      iteration.command.questionId iteration.command.text) = some telegram)
    (calls : List SendCall) :
    Posted { w.setSendPhase iteration.command.id (.answered answer) with
      sendCalls := calls, telegram := telegram } := by
  have kept : ∀ message ∈ w.telegram, message ∈ telegram := fun message there =>
    (Table.mem_insert? insert).2 (Or.inl there)
  constructor
  · intro other member answered
    rcases (mem_setSendPhase held).1 member with ⟨old, _⟩ | rfl
    · obtain ⟨message, isSent⟩ := posted.accepted other old answered
      exact ⟨message, isSent.grown (kept message isSent.1)⟩
    · refine ⟨_, (Table.mem_insert? insert).2 (Or.inr rfl), rfl, rfl, ?_⟩
      simp [SendIteration.acceptedId?, accepted]
  · intro send there isSend succeeded
    obtain ⟨message, isSent⟩ := posted.sent send there isSend succeeded
    exact ⟨message, isSent.grown (kept message isSent.1)⟩

/-- An edit changes a text; the messages stay. -/
theorem Posted.appliedEdit {commandId : UUID} {phase : EditPhase} {key : Int × Int} {text : String}
    (posted : Posted w) :
    Posted { w.setEditPhase commandId phase with
      telegram := w.telegram.update key (fun message => { message with text := text }) } := by
  constructor
  · intro iteration held accepted
    obtain ⟨message, isSent⟩ := posted.accepted iteration held accepted
    exact isSent.edited rfl
  · intro send there isSend succeeded
    obtain ⟨message, isSent⟩ := posted.sent send there isSend succeeded
    exact isSent.edited rfl

/-- A settled edit is no send. -/
theorem Posted.closedEdit {settling : Database} {iteration : EditIteration} {after : OutboundCommand}
    (posted : Posted w) (ok : Consistent w) (held : iteration ∈ w.editing)
    (commands : settling.outboundCommands = w.db.outboundCommands)
    (same : SameCommand iteration.command after)
    (change : Change w.db (some iteration.command.id) (settling.putOutboundCommand after)) :
    Posted (w.closeEdit iteration.command.id (settling.putOutboundCommand after)) := by
  refine posted.quiet change rfl (fun _ member _ => member) ?_
  intro send member isSend _ own
  rw [editReply_of_settled ok held commands same member (Option.some.inj own)] at isSend
  cases isSend

theorem Posted.step {e : Event} (posted : Posted w) (ok : Consistent w) (moves : Moves w e w') :
    Posted w' := by
  cases moves with
  | committed change => exact posted.quiet change rfl (fun _ held _ => held) (by simp)
  | @claimedSend _ _ iteration _ _ _ phase insert =>
      refine posted.quiet .idle rfl (fun other member answered => ?_) (by simp)
      rcases (Table.mem_insert? insert).1 member with old | rfl
      · exact old
      · simp [SendIteration.acceptedId?, phase] at answered
  | validatedSend held =>
      refine posted.quiet .idle rfl (fun other member answered => ?_) (by simp)
      rcases (mem_setSendPhase held).1 member with ⟨old, _⟩ | rfl
      · exact old
      · simp [SendIteration.acceptedId?] at answered
  | refusedSend held _ refused =>
      refine posted.quiet .idle rfl (fun other member answered => ?_) (by simp)
      rcases (mem_setSendPhase held).1 member with ⟨old, _⟩ | rfl
      · exact old
      · simp [SendIteration.acceptedId?, refused] at answered
  | acceptedSend held _ accepted insert => exact posted.acceptedSend held accepted insert _
  | closedSend held change stored same succeeded _ =>
      exact posted.closedSend held change stored same succeeded
  | abandonedSend held _ =>
      exact posted.quiet .idle rfl (fun _ member _ => (mem_closeSend.1 member).1) (by simp)
  | claimedEdit _ _ _ insert => exact ⟨posted.accepted, posted.sent⟩
  | refusedEdit => exact ⟨posted.accepted, posted.sent⟩
  | appliedEdit => exact posted.appliedEdit
  | completedEdit held _ insert same _ change =>
      have commands := (Database.insertReplyVersion_spec insert).2.1
      exact posted.closedEdit ok held commands same change
  | failedEdit held _ same _ change => exact posted.closedEdit ok held rfl same change
  | abortedEdit => exact ⟨posted.accepted, posted.sent⟩
  | crashedEdit => exact ⟨posted.accepted, posted.sent⟩

theorem Posted.congr (posted : Posted w)
    (commands : ∀ command ∈ w'.db.outboundCommands, command ∈ w.db.outboundCommands)
    (sending : w'.sending = w.sending) (telegram : w'.telegram = w.telegram) : Posted w' := by
  constructor
  · intro iteration held accepted
    obtain ⟨message, isSent⟩ := posted.accepted iteration (sending ▸ held) accepted
    exact ⟨message, isSent.grown (telegram ▸ isSent.1)⟩
  · intro send held isSend succeeded
    obtain ⟨message, isSent⟩ := posted.sent send (commands send held) isSend succeeded
    exact ⟨message, isSent.grown (telegram ▸ isSent.1)⟩

/-- The message that an edit changes belongs to the question of the edit. -/
theorem Posted.belongs {iteration : EditIteration} {messageId : Int} {message : TelegramMessage}
    (posted : Posted w) (ok : Consistent w) (held : iteration ∈ w.editing)
    (target : iteration.command.sentMessageId = some messageId) (there : message ∈ w.telegram)
    (key : message.key = (iteration.command.telegramChatId, messageId)) :
    message.questionId = iteration.command.questionId := by
  obtain ⟨send, sendHeld, isSend, owner, done, sentId, chat⟩ := ok.sent_of_edit held
  obtain ⟨shown, isShown, owned, inChat, numbered⟩ := posted.sent send sendHeld isSend done
  rw [sentId, target, Option.some.injEq] at numbered
  have same : message.key = shown.key := by
    rw [key, TelegramMessage.key, inChat, chat, numbered]
  rw [Table.eq_of_key_eq there isShown same, owned, owner]

/-- The call to Telegram that an open iteration makes with its command. -/
def World.Calls (w : World) (command : OutboundCommand) : Event → Prop
  | .callSend id _ => command.id = id ∧ ∃ iteration ∈ w.sending, iteration.command = command
  | .callEdit id _ => command.id = id ∧ ∃ iteration ∈ w.editing, iteration.command = command
  | _ => False

theorem World.Calls.outbound {call : Event} {command : OutboundCommand}
    (calls : w.Calls command call) : call.isOutbound = true := by
  cases call with
  | callSend => rfl
  | callEdit => rfl
  | _ => exact calls.elim

theorem World.Calls.knows {call : Event} {command : OutboundCommand}
    (calls : w.Calls command call) : w.Knows command := by
  cases call with
  | callSend => exact Or.inr (Or.inl calls.2)
  | callEdit => exact Or.inr (Or.inr calls.2)
  | _ => exact calls.elim

/-- What Telegram shows has been there, or the step has called Telegram with it. -/
theorem telegram_of_moves {e : Event} {message : TelegramMessage} (posted : Posted w)
    (ok : Consistent w) (moves : Moves w e w') (there : message ∈ w'.telegram) :
    message ∈ w.telegram ∨ ∃ command, w.Calls command e ∧
      message.questionId = command.questionId ∧ message.text = command.text ∧
      message.chatId = command.telegramChatId := by
  cases moves with
  | @acceptedSend answer messageId iteration telegram held phase accepted insert =>
      rcases (Table.mem_insert? insert).1 there with old | rfl
      · exact Or.inl old
      · exact Or.inr ⟨iteration.command, ⟨rfl, iteration, held, rfl⟩, rfl, rfl, rfl⟩
  | @appliedEdit answer messageId iteration held phase valid applied target =>
      dsimp only at there
      rcases Table.mem_update.1 there with ⟨old, -⟩ | ⟨old, before, key, rfl⟩
      · exact Or.inl old
      · right
        have own := posted.belongs ok held target before key
        exact ⟨iteration.command, ⟨rfl, iteration, held, rfl⟩, own, rfl, congrArg Prod.fst key⟩
  | _ => exact Or.inl there

end Worlds

end ReplyWorkflow

/-! ### The steps of the system -/

namespace Assistant

section Steps

variable (settings : AppSettings)

/-- What a step of the system is: a step of one of its services, on what that service sees. -/
inductive Served (s : Assistant) : ServiceEvent → Assistant → Prop where
  | heard (e : ListenerEvent) (l : Listener) (own : ∀ db, e ≠ .others db)
      (next : settings.listen s.intake e = some l) :
      Served s (.listener e) (s.afterIntake l)
  | worked (e : Pipeline.Event) (p : Pipeline.State)
      (own : ∀ job newId now, e ≠ .enqueue job newId now)
      (next : Pipeline.step s.pipeline e = some p) : Served s (.pipeline e) (s.afterPipeline p)
  | refused (user : Option Int) (e : ReplyWorkflow.Event)
      (stranger : user ≠ some settings.operatorUserId) : Served s (.bot user e) s
  | called (e : ReplyWorkflow.Event) (w : ReplyWorkflow.World) (call : e.isCall = true)
      (unlocked : s.waits e = false) (next : ReplyWorkflow.step s.replies e = some w) :
      Served s (.bot (some settings.operatorUserId) e) (s.afterReplies w)
  | delivered (e : ReplyWorkflow.Event) (w : ReplyWorkflow.World) (outbound : e.isOutbound = true)
      (next : ReplyWorkflow.step s.replies e = some w) : Served s (.outbound e) (s.afterReplies w)
  | notified (locked : UUID → Bool) (api : BotApi) (now : Time) (ended : NoticeEnd)
      (notifications : Table BotNotification.questionId)
      (left : notifications = s.db.botNotifications ∨ ∃ known, ended = .committed ∧
        BotNotificationWorker.runOnce {} settings.operatorUserId locked api.toNotificationBot now
          s.db = .ok (known, s.db.setBotNotifications notifications)) :
      Served s (.notify locked api now ended) { s with
        db := s.db.setBotNotifications notifications
        attempts := s.attempts ++ (BotNotificationWorker.attempted settings.operatorUserId locked api
          ended now s.db).toList }
  | written (db : Database) : Served s (.aside db) { s with db := s.besides db }
  | retained (rows : Expired) (now : Time) (free : s.holds rows = false)
      (due : rows.due settings now s.db = true) :
      Served s (.retention rows now) { s with db := rows.deleted s.db }

variable {settings} {s t : Assistant} {e : ServiceEvent}

/-- The middleware lets the operator through, and nobody else. -/
theorem allows_iff {user : Option Int} :
    OperatorAuthorizationMiddleware.allows settings.operatorUserId user = true ↔
      user = some settings.operatorUserId := by
  unfold OperatorAuthorizationMiddleware.allows
  cases user <;> simp

theorem afterNotice_cases {locked : UUID → Bool} {api : BotApi} {now : Time} {ended : NoticeEnd} :
    ∃ notifications, s.afterNotice settings.operatorUserId locked api now ended =
        s.db.setBotNotifications notifications ∧
      (notifications = s.db.botNotifications ∨ ∃ known, ended = .committed ∧
        BotNotificationWorker.runOnce {} settings.operatorUserId locked api.toNotificationBot now
          s.db = .ok (known, s.db.setBotNotifications notifications)) := by
  unfold afterNotice
  split
  · rename_i known db ran
    cases BotNotificationWorker.runOnce_notifies ran with
    | idle => exact ⟨_, rfl, Or.inl rfl⟩
    | attempted => exact ⟨_, rfl, Or.inr ⟨_, rfl, ran⟩⟩
  · exact ⟨_, rfl, Or.inl rfl⟩

theorem step_served (next : step settings s e = some t) :
    Served settings s e t := by
  cases e with
  | listener e =>
      by_cases foreign : ∃ db, e = .others db
      · obtain ⟨db, rfl⟩ := foreign
        simp [step] at next
      · have own : ∀ db, e ≠ .others db := fun db same => foreign ⟨db, same⟩
        have moved : (settings.listen s.intake e).map s.afterIntake =
            some t := by
          cases e with
          | others db => exact absurd rfl (own db)
          | _ => exact next
        obtain ⟨l, heard, rfl⟩ := Option.map_eq_some_iff.1 moved
        exact .heard e l own heard
  | pipeline e =>
      by_cases queues : ∃ job newId now, e = .enqueue job newId now
      · obtain ⟨job, newId, now, rfl⟩ := queues
        simp [step] at next
      · have own : ∀ job newId now, e ≠ .enqueue job newId now :=
          fun job newId now same => queues ⟨job, newId, now, same⟩
        have moved : (Pipeline.step s.pipeline e).map s.afterPipeline = some t := by
          cases e with
          | enqueue job newId now => exact absurd rfl (own job newId now)
          | _ => exact next
        obtain ⟨p, worked, rfl⟩ := Option.map_eq_some_iff.1 moved
        exact .worked e p own worked
  | bot user e =>
      simp only [step] at next
      split at next
      · simp at next
      · rename_i call
        split at next
        · rename_i stranger
          cases next
          apply Served.refused
          intro operator
          rw [allows_iff.2 operator] at stranger
          exact absurd stranger (by decide)
        · rename_i allowed
          split at next
          · simp at next
          · rename_i unlocked
            rw [Bool.not_eq_true, Bool.not_eq_false'] at call allowed
            rw [Bool.not_eq_true] at unlocked
            cases allows_iff.1 allowed
            obtain ⟨w, moved, rfl⟩ := Option.map_eq_some_iff.1 next
            exact .called e w call unlocked moved
  | outbound e =>
      simp only [step] at next
      split at next
      · rename_i outbound
        obtain ⟨w, moved, rfl⟩ := Option.map_eq_some_iff.1 next
        exact .delivered e w outbound moved
      · simp at next
  | notify locked api now ended =>
      obtain ⟨notifications, after, left⟩ := @afterNotice_cases settings s locked api now ended
      simp only [step] at next
      rw [after] at next
      cases next
      exact .notified locked api now ended notifications left
  | aside db =>
      cases next
      exact .written db
  | retention rows now =>
      simp only [step] at next
      split at next
      · simp at next
      · rename_i allowed
        cases next
        simp only [Bool.or_eq_true, not_or, Bool.not_eq_true, Bool.not_eq_false'] at allowed
        exact .retained rows now allowed.1 allowed.2

end Steps

/-! ### The invariants of all services together -/

/-- The reply workflow is consistent, its sends are on Telegram, and the pipeline has its rows. -/
structure Sound (s : Assistant) : Prop where
  consistent : ReplyWorkflow.Consistent s.replies
  posted : ReplyWorkflow.Posted s.replies
  tracked : Pipeline.Tracked s.pipeline

section Services

variable {s t : Assistant}

theorem tracked_of
    (claims : ∀ iteration ∈ s.iterations, ∃ row,
      s.db.processingJobs.get? iteration.jobId = some row ∧ iteration.Claims row)
    (settled : ∀ row ∈ s.db.processingJobs, row.status ≠ .processing) :
    Pipeline.Tracked s.pipeline where
  claims := claims
  settled := settled
  used _ held := List.mem_map_of_mem held

/-- Rows are removed, but none that is claimed. -/
theorem Sound.tracked_of_kept (sound : Sound s) (iterations : t.iterations = s.iterations)
    (rows : ∀ row ∈ t.db.processingJobs, row ∈ s.db.processingJobs)
    (kept : ∀ iteration ∈ s.iterations, ∀ row ∈ s.db.processingJobs, iteration.Claims row →
      row.id = iteration.jobId → row ∈ t.db.processingJobs) : Pipeline.Tracked t.pipeline := by
  apply tracked_of
  · intro iteration open_
    rw [iterations] at open_
    obtain ⟨row, found, claims⟩ := sound.tracked.claims iteration open_
    have same := Table.key_of_get? found
    have there := Table.get?_of_mem (kept iteration open_ row (Table.mem_of_get? found) claims same)
    rw [same] at there
    exact ⟨row, there, claims⟩
  · exact fun row held => sound.tracked.settled row (rows row held)

/-- The same jobs, questions and commands. -/
theorem Sound.congr (sound : Sound s) (jobs : t.db.processingJobs = s.db.processingJobs)
    (questions : t.db.detectedQuestions = s.db.detectedQuestions)
    (commands : t.db.outboundCommands = s.db.outboundCommands)
    (iterations : t.iterations = s.iterations) (sending : t.sending = s.sending)
    (editing : t.editing = s.editing) (telegram : t.telegram = s.telegram) : Sound t where
  consistent := sound.consistent.congr_tables questions commands sending editing
  posted := sound.posted.congr (fun _ held => commands ▸ held) sending telegram
  tracked := by
    refine sound.tracked_of_kept iterations (fun row held => jobs ▸ held) ?_
    exact fun iteration open_ row held claims same => jobs ▸ held

/-- The listener queues a job. -/
theorem Sound.heard (sound : Sound s) {l : Listener} (queues : Queues s.db l.intake.db) :
    Sound (s.afterIntake l) where
  consistent := by
    refine sound.consistent.congr_tables ?_ ?_ rfl rfl
    · change l.intake.db.detectedQuestions = s.db.detectedQuestions
      rw [queues.same]
      rfl
    · change l.intake.db.outboundCommands = s.db.outboundCommands
      rw [queues.same]
      rfl
  posted := by
    refine sound.posted.congr ?_ rfl rfl
    intro command held
    change command ∈ l.intake.db.outboundCommands at held
    rw [queues.same] at held
    exact held
  tracked := by
    rcases queues.jobs with same | ⟨row, pending, inserted⟩
    · refine sound.tracked_of_kept rfl (fun job held => same ▸ held) ?_
      exact fun iteration open_ job held claims own => same ▸ held
    · apply tracked_of
      · intro iteration open_
        obtain ⟨job, found, claims⟩ := sound.tracked.claims iteration open_
        have there := (Table.mem_insert? inserted).2 (Or.inl (Table.mem_of_get? found))
        have held := Table.get?_of_mem there
        rw [Table.key_of_get? found] at held
        exact ⟨job, held, claims⟩
      · intro job held
        rcases (Table.mem_insert? inserted).1 held with old | rfl
        · exact sound.tracked.settled job old
        · simp [pending]

/-- A step of the pipeline. -/
theorem Sound.worked (sound : Sound s) {e : Pipeline.Event} {p : Pipeline.State}
    (own : ∀ job newId now, e ≠ .enqueue job newId now)
    (next : Pipeline.step s.pipeline e = some p) : Sound (s.afterPipeline p) := by
  have tracked := Pipeline.tracked_step sound.tracked next
  have rows : Pipeline.Tracked (s.afterPipeline p).pipeline :=
    tracked_of tracked.claims tracked.settled
  rcases Pipeline.commits_of_step sound.tracked own next with
    same | ⟨iteration, held, w, error, db, -, ran, rfl⟩
  · refine ⟨?_, ?_, rows⟩
    · exact sound.consistent.congr_tables (congrArg _ same) (congrArg _ same) rfl rfl
    · refine sound.posted.congr (fun command held => ?_) rfl rfl
      change command ∈ p.db.outboundCommands at held
      rw [same] at held
      exact held
  · rcases Pipeline.run_asks ran with same | asks
    · refine ⟨?_, ?_, rows⟩
      · exact sound.consistent.congr_tables same.questions same.commands rfl rfl
      · exact sound.posted.congr (fun _ held => same.commands ▸ held) rfl rfl
    · obtain ⟨question, inserted, -, detected, -⟩ := asks.asked
      refine ⟨?_, ?_, rows⟩
      · exact sound.consistent.arrived detected inserted asks.commands
      · exact sound.posted.congr (fun _ held => asks.commands ▸ held) rfl rfl

/-- A transaction of the reply workflow. -/
theorem Sound.replied (sound : Sound s) {e : ReplyWorkflow.Event} {w : ReplyWorkflow.World}
    (own : e.isCall = true ∨ e.isOutbound = true) (unlocked : s.waits e = false)
    (next : ReplyWorkflow.step s.replies e = some w) : Sound (s.afterReplies w) := by
  have moves := ReplyWorkflow.step_moves sound.consistent next
  refine ⟨sound.consistent.step moves, sound.posted.step sound.consistent moves, ?_⟩
  rcases (ReplyWorkflow.step_writes own next).jobs with same | ⟨chatId, rfl, removed⟩
  · refine sound.tracked_of_kept rfl (fun row held => same ▸ held) ?_
    exact fun iteration open_ row held claims own => same ▸ held
  · have jobs : w.db.processingJobs =
        s.db.processingJobs.deleteWhere (fun job => job.monitoredChatId = chatId) := by
      rw [removed]
      rfl
    refine sound.tracked_of_kept rfl ?_ ?_
    · intro row held
      change row ∈ w.db.processingJobs at held
      rw [jobs] at held
      exact (Table.mem_deleteWhere.1 held).1
    · intro iteration open_ row held claims own
      change row ∈ w.db.processingJobs
      rw [jobs]
      apply Table.mem_deleteWhere.2
      refine ⟨held, ?_⟩
      have elsewhere := List.any_eq_false.1 unlocked iteration open_
      have chat := congrArg NewJob.monitoredChatId claims.keeps
      change iteration.job.monitoredChatId = row.monitoredChatId at chat
      rw [chat] at elsewhere
      simpa using elsewhere

/-- Expired rows that nobody has locked are deleted. -/
theorem Sound.retained (sound : Sound s) {rows : Expired} (free : s.holds rows = false) :
    Sound { s with db := rows.deleted s.db } := by
  unfold holds at free
  simp only [Bool.or_eq_false_iff, List.any_eq_false, decide_eq_true_eq] at free
  obtain ⟨⟨jobs, sends⟩, edits⟩ := free
  constructor
  · apply (sound.consistent.retained sends edits).congr_tables <;> rfl
  · exact sound.posted.congr (fun _ held => (ReplyWorkflow.mem_deleteQuestions.1 held).1) rfl rfl
  · refine sound.tracked_of_kept rfl ?_ ?_
    · intro row held
      exact (Table.mem_deleteWhere.1 held).1
    · intro iteration open_ row held claims same
      apply Table.mem_deleteWhere.2
      refine ⟨held, ?_⟩
      simpa [same] using jobs iteration open_

variable {settings : AppSettings} {e : ServiceEvent}

/-- Every step of every service keeps the invariants of all of them. -/
theorem Sound.step (sound : Sound s)
    (next : Assistant.step settings s e = some t) : Sound t := by
  cases step_served next with
  | heard e l own moved => exact sound.heard (Listener.step_queues own moved)
  | worked e p own moved => exact sound.worked own moved
  | refused => exact sound
  | called e w call unlocked moved => exact sound.replied (Or.inl call) unlocked moved
  | delivered e w outbound moved =>
      apply sound.replied (Or.inr outbound) _ moved
      cases e with
      | removeChat => cases outbound
      | _ => rfl
  | notified locked api now ended notifications left => exact sound.congr rfl rfl rfl rfl rfl rfl rfl
  | written db => exact sound.congr rfl rfl rfl rfl rfl rfl rfl
  | retained rows now free => exact sound.retained free

end Services

end Assistant

end LeadAssistant
