/-
Module: LeadAssistant.Workflow.VersionLog
Layer: Workflow
Purpose: The reply versions as a log. The confirmation of a send stores the number after the latest
  version at once, an edit stores the number after its preview when it completes; either way the
  version that is published comes right after the draft that the operator was shown, and has its
  text.
Trusted boundary: none
Main exports: Database.Previews, Previewed, Change.previewed, VersionLog, version_log
-/
import LeadAssistant.Workflow.EditHistory

namespace LeadAssistant

open Relational

/-- The draft before the given number has the given text. -/
def Database.Previews (db : Database) (questionId : UUID) (number : Nat) (text : String) : Prop :=
  ∃ draft ∈ db.replyVersions, draft.questionId = questionId ∧ draft.action = .draft ∧
    draft.versionNumber + 1 = number ∧ draft.text = text

namespace Database

variable {db db' : Database} {questionId : UUID} {number : Nat} {text : String}

theorem Previews.kept (previews : db.Previews questionId number text)
    (kept : ∀ version ∈ db.replyVersions, version ∈ db'.replyVersions) :
    db'.Previews questionId number text := by
  rcases previews with ⟨draft, held, shown⟩
  exact ⟨draft, kept draft held, shown⟩

/-- The draft on top of the log previews the next number. -/
theorem previews_next {shown : ReplyVersion} (top : db.latestVersion? questionId = some shown)
    (isDraft : shown.action = .draft) :
    db.Previews questionId (db.latestVersionNumber questionId + 1) shown.text := by
  rcases latestVersion?_spec top with ⟨held, owner, number⟩
  exact ⟨shown, held, owner, isDraft, congrArg (· + 1) number, rfl⟩

end Database

namespace ReplyWorkflow

open OutboundCommandRepository Transition

/-- What is published or on its way to Telegram was previewed. -/
structure Previewed (db : Database) : Prop where
  positive : ∀ version ∈ db.replyVersions, 0 < version.versionNumber
  versions : ∀ version ∈ db.replyVersions, version.action ≠ .draft →
    db.Previews version.questionId version.versionNumber version.text
  commands : ∀ command ∈ db.outboundCommands,
    db.Previews command.questionId command.replyVersion command.text
  sends : ∀ send ∈ db.outboundCommands, send.commandType = .sendReply →
    ⟨send.questionId, send.replyVersion, send.text, .sent⟩ ∈ db.replyVersions
  sent : ∀ version ∈ db.replyVersions, version.action = .sent →
    ∃ send ∈ db.outboundCommands, send.commandType = .sendReply ∧
      send.questionId = version.questionId ∧ send.replyVersion = version.versionNumber

namespace Previewed

variable {db db' : Database} {added : ReplyVersion} {command : OutboundCommand}

/-- The same versions, and later states of the same commands. -/
theorem later (previewed : Previewed db) (versions : db'.replyVersions = db.replyVersions)
    (before : ∀ command ∈ db'.outboundCommands, ∃ row ∈ db.outboundCommands,
      SameCommand row command)
    (after : ∀ row ∈ db.outboundCommands, ∃ command ∈ db'.outboundCommands,
      SameCommand row command) : Previewed db' where
  positive := versions ▸ previewed.positive
  versions other held published := by
    rw [versions] at held
    exact (previewed.versions other held published).kept (fun _ stored => versions ▸ stored)
  commands other held := by
    rcases before other held with ⟨row, stored, same⟩
    rw [same.questionId, same.replyVersion, same.text]
    exact (previewed.commands row stored).kept (fun _ stored => versions ▸ stored)
  sends send held isSend := by
    rcases before send held with ⟨row, stored, same⟩
    rw [same.questionId, same.replyVersion, same.text, versions]
    exact previewed.sends row stored (same.commandType.symm.trans isSend)
  sent other held isSent := by
    rw [versions] at held
    rcases previewed.sent other held isSent with ⟨row, stored, isSend, owner, number⟩
    rcases after row stored with ⟨send, there, same⟩
    exact ⟨send, there, same.commandType.trans isSend, same.questionId.trans owner,
      same.replyVersion.trans number⟩

/-- Only the versions and the commands matter. -/
theorem congr (previewed : Previewed db) (versions : db'.replyVersions = db.replyVersions)
    (commands : db'.outboundCommands = db.outboundCommands) : Previewed db' :=
  previewed.later versions
    (fun command held => ⟨command, commands ▸ held, SameCommand.refl command⟩)
    (fun command held => ⟨command, commands ▸ held, SameCommand.refl command⟩)

/-- One more draft or edited version, with the commands as they were. -/
theorem extended (previewed : Previewed db)
    (mem : ∀ x, x ∈ db'.replyVersions ↔ x ∈ db.replyVersions ∨ x = added)
    (positive : 0 < added.versionNumber) (unsent : added.action ≠ .sent)
    (shown : added.action ≠ .draft →
      db.Previews added.questionId added.versionNumber added.text)
    (commands : db'.outboundCommands = db.outboundCommands) : Previewed db' := by
  have kept : ∀ other ∈ db.replyVersions, other ∈ db'.replyVersions :=
    fun other held => (mem other).2 (Or.inl held)
  constructor
  · intro other held
    rcases (mem other).1 held with old | rfl
    · exact previewed.positive other old
    · exact positive
  · intro other held published
    rcases (mem other).1 held with old | rfl
    · exact (previewed.versions other old published).kept kept
    · exact (shown published).kept kept
  · rw [commands]
    exact fun other held => (previewed.commands other held).kept kept
  · rw [commands]
    exact fun send held isSend => kept _ (previewed.sends send held isSend)
  · rw [commands]
    intro other held isSent
    rcases (mem other).1 held with old | rfl
    · exact previewed.sent other old isSent
    · exact absurd isSent unsent

/-- One more edit command, for the draft that it previews. -/
theorem confirmedEdit (previewed : Previewed db) (versions : db'.replyVersions = db.replyVersions)
    (mem : ∀ x, x ∈ db'.outboundCommands ↔ x ∈ db.outboundCommands ∨ x = command)
    (isEdit : command.commandType = .editReply)
    (shown : db.Previews command.questionId command.replyVersion command.text) :
    Previewed db' := by
  have kept : ∀ other ∈ db.replyVersions, other ∈ db'.replyVersions :=
    fun other held => versions ▸ held
  constructor
  · exact versions ▸ previewed.positive
  · intro other held published
    rw [versions] at held
    exact (previewed.versions other held published).kept kept
  · intro other held
    rcases (mem other).1 held with old | rfl
    · exact (previewed.commands other old).kept kept
    · exact shown.kept kept
  · intro send held isSend
    rcases (mem send).1 held with old | rfl
    · exact kept _ (previewed.sends send old isSend)
    · rw [isEdit] at isSend
      cases isSend
  · intro other held isSent
    rw [versions] at held
    rcases previewed.sent other held isSent with ⟨send, there, found⟩
    exact ⟨send, (mem send).2 (Or.inl there), found⟩

/-- The version that a confirmed send publishes, with its command. -/
theorem confirmedSend (previewed : Previewed db)
    (mem : ∀ x, x ∈ db'.replyVersions ↔ x ∈ db.replyVersions ∨
      x = ⟨command.questionId, command.replyVersion, command.text, .sent⟩)
    (mem' : ∀ x, x ∈ db'.outboundCommands ↔ x ∈ db.outboundCommands ∨ x = command)
    (isSend : command.commandType = .sendReply)
    (shown : db.Previews command.questionId command.replyVersion command.text) :
    Previewed db' := by
  have kept : ∀ other ∈ db.replyVersions, other ∈ db'.replyVersions :=
    fun other held => (mem other).2 (Or.inl held)
  constructor
  · intro other held
    rcases (mem other).1 held with old | rfl
    · exact previewed.positive other old
    · rcases shown with ⟨draft, _, _, _, number, _⟩
      exact number ▸ Nat.succ_pos _
  · intro other held published
    rcases (mem other).1 held with old | rfl
    · exact (previewed.versions other old published).kept kept
    · exact shown.kept kept
  · intro other held
    rcases (mem' other).1 held with old | rfl
    · exact (previewed.commands other old).kept kept
    · exact shown.kept kept
  · intro other held isSend
    rcases (mem' other).1 held with old | rfl
    · exact kept _ (previewed.sends other old isSend)
    · exact (mem _).2 (Or.inr rfl)
  · intro other held isSent
    rcases (mem other).1 held with old | rfl
    · rcases previewed.sent other old isSent with ⟨before, there, found⟩
      exact ⟨before, (mem' before).2 (Or.inl there), found⟩
    · exact ⟨command, (mem' command).2 (Or.inr rfl), isSend, rfl, rfl⟩

/-- One command in a later state. -/
theorem replaced (previewed : Previewed db) {row after : OutboundCommand}
    (found : db.outboundCommands.get? row.id = some row) (same : SameCommand row after)
    (versions : db'.replyVersions = db.replyVersions)
    (mem : ∀ x, x ∈ db'.outboundCommands ↔
      (x ∈ db.outboundCommands ∧ x.id ≠ row.id) ∨ x = after) : Previewed db' := by
  have held := Table.mem_of_get? found
  refine previewed.later versions (fun other there => ?_) (fun other there => ?_)
  · rcases (mem other).1 there with ⟨old, _⟩ | rfl
    · exact ⟨other, old, .refl other⟩
    · exact ⟨row, held, same⟩
  · by_cases own : other.id = row.id
    · rw [Table.eq_of_key_eq there held own]
      exact ⟨after, (mem after).2 (Or.inr rfl), same⟩
    · exact ⟨other, (mem other).2 (Or.inl ⟨there, own⟩), .refl other⟩

end Previewed

/-- Every committed transaction keeps what was previewed. -/
theorem Change.previewed {db db' : Database} {lock : Option UUID} (change : Change db lock db')
    (previewed : Previewed db) : Previewed db' := by
  have drafted : ∀ {questionId : UUID} {text : String} {inserted : Database},
      db.insertReplyVersion
        ⟨questionId, db.latestVersionNumber questionId + 1, text, .draft⟩ = some inserted →
      Previewed inserted := by
    intro questionId text inserted insert
    rcases Database.insertReplyVersion_spec insert with ⟨_, commands, _, mem⟩
    exact previewed.extended mem (Nat.succ_pos _) (by simp) (by simp) commands
  cases change with
  | idle => exact previewed
  | arrived => exact previewed.congr rfl rfl
  | removedChat => exact previewed.congr rfl rfl
  | redraft => exact previewed.congr rfl rfl
  | draft _ _ insert =>
      have stored := drafted insert
      exact stored.congr rfl rfl
  | preview _ _ insert => exact drafted insert
  | confirmedSend _ _ _ top isDraft version insert =>
      rcases Database.insertReplyVersion_spec version with ⟨_, commands, _, mem⟩
      rcases Database.insertOutboundCommand_spec insert with ⟨_, versions, _, mem'⟩
      rw [commands] at mem'
      rw [← versions] at mem
      have shown := Database.previews_next top isDraft
      have stored : Previewed _ := previewed.confirmedSend mem mem' rfl shown
      exact stored.congr rfl rfl
  | confirmedEdit _ _ top isDraft _ insert =>
      rcases Database.insertOutboundCommand_spec insert with ⟨_, versions, _, mem⟩
      have shown := Database.previews_next top isDraft
      rw [← (Database.latestVersion?_spec top).2.2] at shown
      exact previewed.confirmedEdit versions mem rfl shown
  | retriedEdit found _ _ same =>
      exact previewed.replaced found same rfl (fun _ => mem_putOutboundCommand found same)
  | recovered staleBefore =>
      refine previewed.later rfl (fun command held => ?_) (fun row held => ?_)
      · rcases mem_recoverStale.1 held with ⟨old, _⟩ | ⟨row, old, _, rfl⟩
        · exact ⟨command, old, .refl command⟩
        · exact ⟨row, old, ⟨rfl, rfl, rfl, rfl, rfl, rfl, rfl, rfl, rfl⟩⟩
      · cases stale : isStale staleBefore row with
        | false => exact ⟨row, mem_recoverStale.2 (Or.inl ⟨held, stale⟩), .refl row⟩
        | true =>
            exact ⟨_, mem_recoverStale.2 (Or.inr ⟨row, held, stale, rfl⟩),
              ⟨rfl, rfl, rfl, rfl, rfl, rfl, rfl, rfl, rfl⟩⟩
  | retriedSend found _ _ same =>
      exact previewed.replaced found same rfl (fun _ => mem_putOutboundCommand found same)
  | @settledSend row after chats found _ _ same =>
      have stored : Previewed (db.putOutboundCommand after) :=
        previewed.replaced found same rfl (fun _ => mem_putOutboundCommand found same)
      exact stored.congr rfl rfl
  | failedEdit found _ _ same =>
      exact previewed.replaced found same rfl (fun _ => mem_putOutboundCommand found same)
  | @completedEdit row after inserted found _ _ same _ _ insert =>
      rcases Database.insertReplyVersion_spec insert with ⟨_, commands, _, mem⟩
      have shown := previewed.commands row (Table.mem_of_get? found)
      have stored : Previewed inserted := by
        refine previewed.extended mem ?_ (by simp) (fun _ => shown) commands
        rcases shown with ⟨draft, _, _, _, number, _⟩
        exact number ▸ Nat.succ_pos _
      exact stored.replaced (commands ▸ found) same rfl
        (fun _ => mem_putOutboundCommand (commands ▸ found) same)

/-- A version of a question that was sent by its confirmation. -/
def IsSentVersion (questionId : UUID) (version : ReplyVersion) : Prop :=
  version.questionId = questionId ∧ version.action = .sent

/-- The version log of every question, as a reader of the tables sees it. -/
structure VersionLog (db : Database) : Prop where
  numbered : ∀ questionId, ∃ n, ∀ k,
    (∃ version ∈ db.replyVersions, version.key = (questionId, k)) ↔ 1 ≤ k ∧ k ≤ n
  sent : ∀ send ∈ db.outboundCommands, send.commandType = .sendReply →
    db.replyVersions.IsOnly (IsSentVersion send.questionId)
      ⟨send.questionId, send.replyVersion, send.text, .sent⟩
  unsent : ∀ questionId, (∀ command ∈ db.outboundCommands, command.questionId = questionId →
    command.commandType ≠ .sendReply) → db.replyVersions.Lacks (IsSentVersion questionId)
  published : ∀ version ∈ db.replyVersions, version.action = .sent ∨ version.action = .edited →
    2 ≤ version.versionNumber ∧
      ⟨version.questionId, version.versionNumber - 1, version.text, .draft⟩ ∈ db.replyVersions
  commands : ∀ command ∈ db.outboundCommands,
    ⟨command.questionId, command.replyVersion - 1, command.text, .draft⟩ ∈ db.replyVersions

namespace Previewed

variable {db : Database} {questionId : UUID} {number : Nat} {text : String}

/-- A previewed number has the draft right before it. -/
theorem draft (previewed : Previewed db) (previews : db.Previews questionId number text) :
    2 ≤ number ∧ ⟨questionId, number - 1, text, .draft⟩ ∈ db.replyVersions := by
  rcases previews with ⟨shown, held, rfl, isDraft, rfl, rfl⟩
  have positive := previewed.positive shown held
  rw [Nat.add_sub_cancel, ← isDraft]
  exact ⟨Nat.succ_le_succ positive, held⟩

theorem versionLog (previewed : Previewed db) (history : History db) (coupled : Coupled db) :
    VersionLog db where
  numbered questionId := by
    refine ⟨db.latestVersionNumber questionId, fun k => ?_⟩
    constructor
    · rintro ⟨version, held, key⟩
      simp only [ReplyVersion.key, Prod.mk.injEq] at key
      rcases key with ⟨rfl, rfl⟩
      exact ⟨previewed.positive version held, Database.versionNumber_le_latest held⟩
    · rintro ⟨positive, le⟩
      exact history.below_next k positive (Nat.lt_succ_of_le le)
  sent send held isSend := by
    refine ⟨previewed.sends send held isSend, ⟨rfl, rfl⟩, ?_⟩
    rintro other stored ⟨owner, isSent⟩
    rcases previewed.sent other stored isSent with ⟨before, there, kind, owner', number⟩
    have one := coupled.oneSend before there send held kind isSend (owner'.trans owner)
    apply Table.eq_of_key_eq stored (previewed.sends send held isSend)
    simp only [ReplyVersion.key, Prod.mk.injEq]
    exact ⟨owner, by rw [← number, one]⟩
  unsent questionId alone := by
    rintro version stored ⟨owner, isSent⟩
    rcases previewed.sent version stored isSent with ⟨send, held, isSend, owner', _⟩
    exact alone send held (owner'.trans owner) isSend
  published version held published := by
    refine previewed.draft (previewed.versions version held ?_)
    rcases published with isSent | isEdited
    · simp [isSent]
    · simp [isEdited]
  commands command held := (previewed.draft (previewed.commands command held)).2

theorem of_fresh {w : World} (fresh : w.Fresh) : Previewed w.db where
  positive version held := absurd held (fresh.noVersion version)
  versions version held := absurd held (fresh.noVersion version)
  commands command held := absurd held (fresh.noCommand command)
  sends send held := absurd held (fresh.noCommand send)
  sent version held := absurd held (fresh.noVersion version)

end Previewed

/-- In every state that a run reaches, the version log of every question is without gaps and
nothing in it is published, and nothing on its way to Telegram, that was not previewed. -/
theorem version_log {w v : World} {es : List Event} (fresh : w.Fresh)
    (run : Run step anyEvent w es v) : VersionLog v.db := by
  have kept : Consistent v ∧ History v.db ∧ Previewed v.db := by
    induction run with
    | nil => exact ⟨.of_fresh fresh, .of_fresh fresh, .of_fresh fresh⟩
    | snoc _ _ next ih =>
        rcases ih with ⟨ok, history, previewed⟩
        have moves := step_moves ok next
        rcases moves.change with ⟨_, change⟩
        exact ⟨ok.step moves, change.history ok.coupled history, change.previewed previewed⟩
  rcases kept with ⟨ok, history, previewed⟩
  exact previewed.versionLog history ok.coupled

/-- The log of a reply that is sent and then edited. -/
theorem version_log_sample : ∃ v : World, VersionLog v.db ∧
    v.db.replyVersions.rows.map (fun version => (version.versionNumber, version.action)) =
      [(1, .draft), (2, .sent), (3, .draft), (4, .edited)] := by
  have computed : (exec step anyEvent sampleWorld sampleEdit).map (fun v =>
      v.db.replyVersions.rows.map (fun version => (version.versionNumber, version.action))) =
        some [(1, .draft), (2, .sent), (3, .draft), (4, .edited)] := by decide +kernel
  rcases Run.exists_of_exec computed with ⟨v, run, value⟩
  exact ⟨v, version_log sampleWorld_fresh run, value⟩

end ReplyWorkflow

end LeadAssistant
