/-
Module: LeadAssistant.Workflow.Versions
Layer: Workflow
Purpose: The reply versions of a question and the numbers that edits reserve. Versions are numbered
  without gaps; an edit command reserves the number after its preview when it is confirmed and
  stores it only when it completes. Hence a reserved number that is still free lies above every
  stored version, and of several edits at most one has a free number.
Trusted boundary: none
Main exports: Database.finalText?, History, Change.history, History.free_is_top,
  History.taken_of_other
-/
import LeadAssistant.Workflow.Coupling

namespace LeadAssistant

open Relational

/-- A published version of a question. -/
def ReplyVersion.Published (questionId : UUID) (version : ReplyVersion) : Prop :=
  version.questionId = questionId ∧ (version.action = .sent ∨ version.action = .edited)

namespace Database

variable {db db' : Database} {questionId : UUID}

/-- The text of the highest published version: what a preview of an edit shows as the old text. -/
def finalText? (db : Database) (questionId : UUID) : Option String :=
  (db.latestFinal? questionId).map (fun version => version.text)

/-- The number that a command reserves is stored already. -/
def Taken (db : Database) (command : OutboundCommand) : Prop :=
  ∃ version ∈ db.replyVersions, version.key = (command.questionId, command.replyVersion)

theorem Taken.kept {command command' : OutboundCommand} (taken : db.Taken command)
    (questionId : command'.questionId = command.questionId)
    (number : command'.replyVersion = command.replyVersion)
    (versions : ∀ version ∈ db.replyVersions, version ∈ db'.replyVersions) :
    db'.Taken command' := by
  obtain ⟨version, stored, key⟩ := taken
  exact ⟨version, versions version stored, by rw [key, questionId, number]⟩

/-- The number of an edit is refused when it is taken. -/
theorem insertReplyVersion_eq_none_iff {command : OutboundCommand} {action : ReplyAction} :
    db.insertReplyVersion ⟨command.questionId, command.replyVersion, command.text, action⟩ = none ↔
      db.Taken command := by
  unfold insertReplyVersion
  rw [Option.map_eq_none_iff, Table.insert?_eq_none_iff]
  rfl

theorem latestFinal?_eq_some_iff {version : ReplyVersion} :
    db.latestFinal? questionId = some version ↔
      version ∈ db.replyVersions ∧ version.Published questionId ∧
        ∀ other ∈ db.replyVersions, other.Published questionId →
          other.versionNumber ≤ version.versionNumber := by
  have chosen : ∀ other : ReplyVersion, (other.questionId = questionId &&
      (other.action = .sent || other.action = .edited)) = true ↔ other.Published questionId := by
    intro other
    simp [ReplyVersion.Published]
  constructor
  · intro found
    have held := Table.mem_of_lastBy found
    exact ⟨held.1, (chosen version).1 held.2, fun other member published =>
      Table.le_of_lastBy found member ((chosen other).2 published)⟩
  · rintro ⟨held, published, top⟩
    cases found : db.latestFinal? questionId with
    | none =>
        have skipped := Table.lastBy_eq_none_iff.1 found version held
        rw [(chosen version).2 published] at skipped
        cases skipped
    | some other =>
        have there := (Table.mem_of_lastBy found).1
        have published' := (chosen other).1 (Table.mem_of_lastBy found).2
        have le := Table.le_of_lastBy found held ((chosen version).2 published)
        have number := Nat.le_antisymm (top other there published') le
        have same : other.key = version.key := by
          simp only [ReplyVersion.key, Prod.mk.injEq]
          exact ⟨published'.1.trans published.1.symm, number⟩
        rw [Table.eq_of_key_eq there held same]

/-- Only the published versions of the question matter. -/
theorem finalText?_congr (same : ∀ version : ReplyVersion, version.Published questionId →
    (version ∈ db'.replyVersions ↔ version ∈ db.replyVersions)) :
    db'.finalText? questionId = db.finalText? questionId := by
  unfold finalText?
  congr 1
  ext version
  rw [latestFinal?_eq_some_iff, latestFinal?_eq_some_iff]
  constructor
  · rintro ⟨held, published, top⟩
    exact ⟨(same version published).1 held, published,
      fun other member final => top other ((same other final).2 member) final⟩
  · rintro ⟨held, published, top⟩
    exact ⟨(same version published).2 held, published,
      fun other member final => top other ((same other final).1 member) final⟩

/-- A published version above all others of its question. -/
theorem finalText?_of_top {version : ReplyVersion} (held : version ∈ db.replyVersions)
    (published : version.Published questionId)
    (top : ∀ other ∈ db.replyVersions, other.questionId = questionId →
      other.versionNumber ≤ version.versionNumber) :
    db.finalText? questionId = some version.text := by
  unfold finalText?
  rw [latestFinal?_eq_some_iff.2 ⟨held, published,
    fun other member final => top other member final.1⟩]
  rfl

theorem finalText?_of_versions (same : db'.replyVersions = db.replyVersions) :
    db'.finalText? questionId = db.finalText? questionId :=
  finalText?_congr (fun _ _ => by rw [same])

/-- A draft, or a version of another question, is not a final version. -/
theorem finalText?_insert {version : ReplyVersion}
    (mem : ∀ x, x ∈ db'.replyVersions ↔ x ∈ db.replyVersions ∨ x = version)
    (unpublished : ¬ version.Published questionId) :
    db'.finalText? questionId = db.finalText? questionId := by
  refine finalText?_congr fun other published => ?_
  rw [mem]
  refine ⟨fun held => held.resolve_right ?_, Or.inl⟩
  rintro rfl
  exact unpublished published

end Database

namespace ReplyWorkflow

open OutboundCommandRepository

/-- Stored versions and reserved numbers. -/
structure History (db : Database) : Prop where
  contiguous : ∀ version ∈ db.replyVersions, ∀ n, 0 < n → n ≤ version.versionNumber →
    ∃ other ∈ db.replyVersions, other.key = (version.questionId, n)
  keys : ∀ a ∈ db.outboundCommands, ∀ b ∈ db.outboundCommands,
    a.idempotencyKey = b.idempotencyKey → a = b
  /-- An edit reserves the number after its preview. -/
  reserved : ∀ edit ∈ db.outboundCommands, edit.commandType = .editReply →
    edit.idempotencyKey = ⟨edit.questionId, .editReply, edit.idempotencyKey.version⟩ ∧
      edit.replyVersion = edit.idempotencyKey.version + 1 ∧
      ∃ draft ∈ db.replyVersions, draft.key = (edit.questionId, edit.idempotencyKey.version)
  /-- What an unfinished send publishes is stored with its confirmation. -/
  published : ∀ send ∈ db.outboundCommands, send.commandType = .sendReply →
    send.status ≠ .succeeded → db.finalText? send.questionId = some send.text

namespace History

variable {db db' : Database}

/-- The same versions, and later states of the same commands. -/
theorem later (history : History db) (versions : db'.replyVersions = db.replyVersions)
    (before : ∀ command ∈ db'.outboundCommands, ∃ row ∈ db.outboundCommands,
      SameCommand row command ∧ (row.commandType = .sendReply → row.status = .succeeded →
        command.status = .succeeded)) : History db' where
  contiguous := by
    rw [versions]
    exact history.contiguous
  keys a ha b hb same := by
    obtain ⟨rowA, heldA, sameA, _⟩ := before a ha
    obtain ⟨rowB, heldB, sameB, _⟩ := before b hb
    have rows := history.keys rowA heldA rowB heldB
      (by rw [← sameA.idempotencyKey, same, sameB.idempotencyKey])
    exact Table.eq_of_key_eq ha hb (by rw [sameA.id, sameB.id, rows])
  reserved edit held isEdit := by
    obtain ⟨row, rowHeld, same, _⟩ := before edit held
    rw [same.questionId, same.idempotencyKey, same.replyVersion, versions]
    exact history.reserved row rowHeld (same.commandType.symm.trans isEdit)
  published send held isSend unsent := by
    obtain ⟨row, rowHeld, same, kept⟩ := before send held
    have kind := same.commandType.symm.trans isSend
    rw [Database.finalText?_of_versions versions, same.questionId, same.text]
    exact history.published row rowHeld kind (fun done => unsent (kept kind done))

/-- One more version right after the stored ones, with the commands as they were. -/
theorem version (history : History db) {version : ReplyVersion}
    (mem : ∀ x, x ∈ db'.replyVersions ↔ x ∈ db.replyVersions ∨ x = version)
    (below : ∀ n, 0 < n → n < version.versionNumber →
      ∃ other ∈ db.replyVersions, other.key = (version.questionId, n))
    (commands : db'.outboundCommands = db.outboundCommands)
    (unpublished : ∀ send ∈ db.outboundCommands, send.commandType = .sendReply →
      send.status ≠ .succeeded → ¬ version.Published send.questionId) : History db' where
  contiguous other held n positive le := by
    rcases (mem other).1 held with old | rfl
    · obtain ⟨lower, lowerHeld, same⟩ := history.contiguous other old n positive le
      exact ⟨lower, (mem lower).2 (Or.inl lowerHeld), same⟩
    · rcases Nat.lt_or_eq_of_le le with lt | eq
      · obtain ⟨lower, lowerHeld, same⟩ := below n positive lt
        exact ⟨lower, (mem lower).2 (Or.inl lowerHeld), same⟩
      · exact ⟨other, held, by rw [eq]; rfl⟩
  keys := by
    rw [commands]
    exact history.keys
  reserved edit held isEdit := by
    rw [commands] at held
    obtain ⟨key, number, draft, draftHeld, same⟩ := history.reserved edit held isEdit
    exact ⟨key, number, draft, (mem draft).2 (Or.inl draftHeld), same⟩
  published send held isSend unsent := by
    rw [commands] at held
    rw [Database.finalText?_insert mem (unpublished send held isSend unsent)]
    exact history.published send held isSend unsent

/-- One more command. -/
theorem command (history : History db) {command : OutboundCommand}
    (versions : db'.replyVersions = db.replyVersions)
    (mem : ∀ x, x ∈ db'.outboundCommands ↔ x ∈ db.outboundCommands ∨ x = command)
    (fresh : ∀ other ∈ db.outboundCommands, other.idempotencyKey ≠ command.idempotencyKey)
    (reserved : command.commandType = .editReply →
      command.idempotencyKey =
        ⟨command.questionId, .editReply, command.idempotencyKey.version⟩ ∧
      command.replyVersion = command.idempotencyKey.version + 1 ∧
      ∃ draft ∈ db.replyVersions,
        draft.key = (command.questionId, command.idempotencyKey.version))
    (published : command.commandType = .sendReply →
      db.finalText? command.questionId = some command.text) : History db' where
  contiguous := by
    rw [versions]
    exact history.contiguous
  keys a ha b hb same := by
    rcases (mem a).1 ha with oldA | rfl <;> rcases (mem b).1 hb with oldB | rfl
    · exact history.keys a oldA b oldB same
    · exact absurd same (fresh a oldA)
    · exact absurd same.symm (fresh b oldB)
    · rfl
  reserved edit held isEdit := by
    rw [versions]
    rcases (mem edit).1 held with old | rfl
    · exact history.reserved edit old isEdit
    · exact reserved isEdit
  published send held isSend unsent := by
    rw [Database.finalText?_of_versions versions]
    rcases (mem send).1 held with old | rfl
    · exact history.published send old isSend unsent
    · exact published isSend

/-- Every number up to the highest is stored. -/
theorem below_next (history : History db) {questionId : UUID} :
    ∀ n, 0 < n → n < db.latestVersionNumber questionId + 1 →
      ∃ other ∈ db.replyVersions, other.key = (questionId, n) := by
  intro n positive lt
  obtain ⟨top, held, owner, number⟩ := Database.exists_latest
    (show 0 < db.latestVersionNumber questionId by omega)
  obtain ⟨other, otherHeld, same⟩ := history.contiguous top held n positive (by omega)
  exact ⟨other, otherHeld, owner ▸ same⟩

/-- Every number below a reserved one is stored. -/
theorem below_reserved (history : History db) {edit : OutboundCommand}
    (held : edit ∈ db.outboundCommands) (isEdit : edit.commandType = .editReply) :
    ∀ n, 0 < n → n < edit.replyVersion →
      ∃ other ∈ db.replyVersions, other.key = (edit.questionId, n) := by
  intro n positive lt
  obtain ⟨_, number, draft, draftHeld, same⟩ := history.reserved edit held isEdit
  simp only [ReplyVersion.key, Prod.mk.injEq] at same
  obtain ⟨other, otherHeld, key⟩ := history.contiguous draft draftHeld n positive (by omega)
  exact ⟨other, otherHeld, same.1 ▸ key⟩

/-- A reserved number that is free lies above every stored version of the question. -/
theorem free_is_top (history : History db) {edit : OutboundCommand}
    (positive : 0 < edit.replyVersion) (free : ¬ db.Taken edit) :
    ∀ version ∈ db.replyVersions, version.questionId = edit.questionId →
      version.versionNumber < edit.replyVersion := by
  intro version held owner
  by_contra above
  obtain ⟨other, otherHeld, same⟩ :=
    history.contiguous version held edit.replyVersion positive (Nat.le_of_not_lt above)
  exact free ⟨other, otherHeld, owner ▸ same⟩

/-- Of two edits of one question, at most one has a free number. -/
theorem taken_of_other (history : History db) {edit other : OutboundCommand}
    (held : edit ∈ db.outboundCommands) (isEdit : edit.commandType = .editReply)
    (otherHeld : other ∈ db.outboundCommands) (otherEdit : other.commandType = .editReply)
    (shared : other.questionId = edit.questionId) (ne : other.id ≠ edit.id)
    (free : ¬ db.Taken edit) : db.Taken other := by
  obtain ⟨key, number, _, _, _⟩ := history.reserved edit held isEdit
  obtain ⟨key', number', draft, draftHeld, same⟩ := history.reserved other otherHeld otherEdit
  simp only [ReplyVersion.key, Prod.mk.injEq] at same
  have lt := history.free_is_top (by omega) free draft draftHeld (same.1.trans shared)
  have versions : other.idempotencyKey.version ≠ edit.idempotencyKey.version := by
    intro eq
    rw [shared, eq] at key'
    exact ne (congrArg _ (history.keys other otherHeld edit held (key'.trans key.symm)))
  obtain ⟨stored, storedHeld, storedKey⟩ := history.below_reserved held isEdit
    other.replyVersion (by omega) (by omega)
  exact ⟨stored, storedHeld, shared ▸ storedKey⟩

end History

theorem History.of_fresh {w : World} (fresh : w.Fresh) : History w.db where
  contiguous version held := absurd held (fresh.noVersion version)
  keys a held := absurd held (fresh.noCommand a)
  reserved edit held := absurd held (fresh.noCommand edit)
  published send held := absurd held (fresh.noCommand send)

/-- Every committed transaction keeps the history. -/
theorem Change.history {db db' : Database} {lock : Option UUID} (change : Change db lock db')
    (coupled : Coupled db) (history : History db) : History db' := by
  have unchanged : ∀ command ∈ db.outboundCommands, ∃ row ∈ db.outboundCommands,
      SameCommand row command ∧ (row.commandType = .sendReply → row.status = .succeeded →
        command.status = .succeeded) :=
    fun command held => ⟨command, held, .refl _,
      fun _ done => done⟩
  have replaced : ∀ {row after : OutboundCommand} {commands : Table OutboundCommand.id},
      db.outboundCommands.get? row.id = some row → SameCommand row after →
      (row.commandType = .sendReply → row.status ≠ .succeeded) →
      (∀ x, x ∈ commands ↔ (x ∈ db.outboundCommands ∧ x.id ≠ row.id) ∨ x = after) →
      ∀ command ∈ commands, ∃ row ∈ db.outboundCommands, SameCommand row command ∧
        (row.commandType = .sendReply → row.status = .succeeded →
          command.status = .succeeded) := by
    intro row after commands found same unsent mem command held
    rcases (mem command).1 held with ⟨old, _⟩ | rfl
    · exact unchanged command old
    · exact ⟨row, Table.mem_of_get? found, same, fun send done => absurd done (unsent send)⟩
  cases change with
  | idle => exact history
  | arrived => exact history.later rfl unchanged
  | removedChat => exact history.later rfl unchanged
  | redraft => exact history.later rfl unchanged
  | draft found source insert =>
      obtain ⟨_, commands, _, mem⟩ := Database.insertReplyVersion_spec insert
      exact history.version mem history.below_next commands
        (fun _ _ _ _ published => by simp [ReplyVersion.Published] at published)
  | preview _ _ insert =>
      obtain ⟨_, commands, _, mem⟩ := Database.insertReplyVersion_spec insert
      exact history.version mem history.below_next commands
        (fun _ _ _ _ published => by simp [ReplyVersion.Published] at published)
  | @confirmedSend question shown versioned inserted newId now found source alone _ _ version
      insert =>
      obtain ⟨_, commands, _, mem⟩ := Database.insertReplyVersion_spec version
      obtain ⟨_, versions, fresh, mem'⟩ := Database.insertOutboundCommand_spec insert
      have unsent := coupled.not_drafting found (by simp [source, isDrafting])
      have stored : History versioned := by
        refine history.version mem history.below_next commands (fun send held isSend _ => ?_)
        rintro ⟨owner, _⟩
        exact unsent send held owner.symm isSend
      refine stored.command versions mem' (fun other held => (fresh other held).2)
        (fun isEdit => by simp [newSendCommand] at isEdit) (fun _ => ?_)
      let final : ReplyVersion :=
        ⟨question.id, db.latestVersionNumber question.id + 1, shown.text, .sent⟩
      refine @Database.finalText?_of_top versioned question.id final ((mem final).2 (Or.inr rfl))
        ⟨rfl, Or.inl rfl⟩ ?_
      intro other held owner
      rcases (mem other).1 held with old | rfl
      · have le := Database.versionNumber_le_latest old
        rw [owner] at le
        exact Nat.le_succ_of_le le
      · exact Nat.le_refl _
  | @confirmedEdit question shown inserted newId now sentMessageId found sent top isDraft target
      insert =>
      obtain ⟨_, versions, fresh, mem⟩ := Database.insertOutboundCommand_spec insert
      obtain ⟨held, owner, _⟩ := Database.latestVersion?_spec top
      refine history.command versions mem (fun other old => (fresh other old).2)
        (fun _ => ⟨rfl, rfl, shown, held, ?_⟩) (fun isSend => by simp [newEditCommand] at isSend)
      simp [ReplyVersion.key, newEditCommand, owner]
  | retriedEdit found _ edit same _ _ =>
      exact history.later rfl (replaced found same (fun send => by simp [edit] at send)
        (fun x => mem_putOutboundCommand found same))
  | recovered staleBefore =>
      refine history.later rfl (fun command held => ?_)
      rcases mem_recoverStale.1 held with ⟨old, _⟩ | ⟨row, old, stale, rfl⟩
      · exact unchanged command old
      · refine ⟨row, old, ⟨rfl, rfl, rfl, rfl, rfl, rfl, rfl, rfl, rfl⟩, fun _ done => ?_⟩
        simp [isStale, done] at stale
  | retriedSend found pending _ same _ _ =>
      exact history.later rfl (replaced found same (fun _ => by simp [pending])
        (fun x => mem_putOutboundCommand found same))
  | settledSend found pending _ same _ _ =>
      exact history.later rfl (replaced found same (fun _ => by simp [pending])
        (fun x => mem_putOutboundCommand found same))
  | failedEdit found pending _ same _ _ =>
      exact history.later rfl (replaced found same (fun _ => by simp [pending])
        (fun x => mem_putOutboundCommand found same))
  | @completedEdit row after inserted found pending edit same _ _ insert =>
      obtain ⟨_, commands, _, mem⟩ := Database.insertReplyVersion_spec insert
      have held := Table.mem_of_get? found
      have stored : History inserted := by
        refine history.version mem (history.below_reserved held edit) commands
          (fun send sendHeld isSend unsent => ?_)
        rintro ⟨owner, _⟩
        -- The question of an edit was sent, and it has one send command.
        obtain ⟨sent, sentHeld, kind, target, succeeded, _⟩ := coupled.editTarget row held edit
        have one := coupled.oneSend send sendHeld sent sentHeld isSend kind
          (owner.symm.trans target.symm)
        exact unsent (one ▸ succeeded)
      have found' : inserted.outboundCommands.get? row.id = some row := commands ▸ found
      refine stored.later rfl (fun command member => ?_)
      rcases (mem_putOutboundCommand found' same).1 member with ⟨old, _⟩ | rfl
      · exact ⟨command, old, .refl _, fun _ done => done⟩
      · exact ⟨row, Table.mem_of_get? found', same, fun send => by simp [edit] at send⟩

/-- Stored versions stay. -/
theorem Change.keeps_versions {db db' : Database} {lock : Option UUID} {version : ReplyVersion}
    (change : Change db lock db') (held : version ∈ db.replyVersions) :
    version ∈ db'.replyVersions := by
  cases change with
  | draft _ _ insert => exact ((Database.insertReplyVersion_spec insert).2.2.2 _).2 (Or.inl held)
  | preview _ _ insert => exact ((Database.insertReplyVersion_spec insert).2.2.2 _).2 (Or.inl held)
  | confirmedSend _ _ _ _ _ stored insert =>
      rw [setQuestionStatus_versions, (Database.insertOutboundCommand_spec insert).2.1]
      exact ((Database.insertReplyVersion_spec stored).2.2.2 _).2 (Or.inl held)
  | confirmedEdit _ _ _ _ _ insert => exact (Database.insertOutboundCommand_spec insert).2.1 ▸ held
  | completedEdit _ _ _ _ _ _ insert =>
      exact ((Database.insertReplyVersion_spec insert).2.2.2 _).2 (Or.inl held)
  | idle => exact held
  | arrived => exact held
  | removedChat => exact held
  | redraft => exact held
  | retriedEdit => exact held
  | recovered => exact held
  | retriedSend => exact held
  | settledSend => exact held
  | failedEdit => exact held

/-- After the confirmation the published text changes with a completed edit alone. -/
theorem Change.keeps_finalText {db db' : Database} {lock : Option UUID} {questionId : UUID}
    (change : Change db lock db')
    (confirmed : db.statusOf? questionId ≠ some .waitingConfirmation)
    (noEdit : ∀ row, lock = some row.id → db.outboundCommands.get? row.id = some row →
      row.commandType ≠ .editReply) : db'.finalText? questionId = db.finalText? questionId := by
  cases change with
  | draft _ _ insert =>
      exact Database.finalText?_insert (Database.insertReplyVersion_spec insert).2.2.2
        (by simp [ReplyVersion.Published])
  | preview _ _ insert =>
      exact Database.finalText?_insert (Database.insertReplyVersion_spec insert).2.2.2
        (by simp [ReplyVersion.Published])
  | confirmedSend found source _ _ _ stored insert =>
      have versions := (Database.insertOutboundCommand_spec insert).2.1
      rw [Database.finalText?_of_versions (setQuestionStatus_versions.trans versions)]
      refine Database.finalText?_insert (Database.insertReplyVersion_spec stored).2.2.2 ?_
      rintro ⟨rfl, _⟩
      rw [Database.statusOf?_of_found found, source] at confirmed
      exact confirmed rfl
  | confirmedEdit _ _ _ _ _ insert =>
      exact Database.finalText?_of_versions (Database.insertOutboundCommand_spec insert).2.1
  | completedEdit found _ edit => exact absurd edit (noEdit _ rfl found)
  | idle => rfl
  | arrived => rfl
  | removedChat => rfl
  | redraft => rfl
  | retriedEdit => rfl
  | recovered => rfl
  | retriedSend => rfl
  | settledSend => rfl
  | failedEdit => rfl

/-- A send that succeeded was settled by its own transaction or had succeeded before. -/
theorem Change.succeeded_before {db db' : Database} {lock : Option UUID} {send : OutboundCommand}
    (change : Change db lock db') (held : send ∈ db'.outboundCommands)
    (isSend : send.commandType = .sendReply) (succeeded : send.status = .succeeded)
    (other : lock ≠ some send.id) : send ∈ db.outboundCommands := by
  have replaced : ∀ {row after : OutboundCommand}, SameCommand row after →
      lock = some row.id ∨ after.status ≠ .succeeded →
      (send ∈ db.outboundCommands ∧ send.id ≠ row.id) ∨ send = after →
      send ∈ db.outboundCommands := by
    rintro row after same why (⟨old, _⟩ | rfl)
    · exact old
    · rcases why with eq | unsent
      · exact absurd (eq.trans (congrArg some same.id.symm)) other
      · exact absurd succeeded unsent
  cases change with
  | idle => exact held
  | arrived => exact held
  | removedChat => exact held
  | redraft => exact held
  | draft _ _ insert => exact (Database.insertReplyVersion_spec insert).2.1 ▸ held
  | preview _ _ insert => exact (Database.insertReplyVersion_spec insert).2.1 ▸ held
  | confirmedSend _ _ _ _ _ stored insert =>
      rw [setQuestionStatus_commands, (Database.insertOutboundCommand_spec insert).2.2.2,
        (Database.insertReplyVersion_spec stored).2.1] at held
      rcases held with old | rfl
      · exact old
      · simp [newSendCommand] at succeeded
  | confirmedEdit _ _ _ _ _ insert =>
      rw [(Database.insertOutboundCommand_spec insert).2.2.2] at held
      rcases held with old | rfl
      · exact old
      · simp [newEditCommand] at isSend
  | retriedEdit found _ _ same _ pending =>
      exact replaced same (Or.inr (by simp [pending])) ((mem_putOutboundCommand found same).1 held)
  | recovered staleBefore =>
      rcases mem_recoverStale.1 held with ⟨old, _⟩ | ⟨row, _, _, rfl⟩
      · exact old
      · simp [OutboundCommandRepository.recovered] at succeeded
  | retriedSend found _ _ same =>
      exact replaced same (Or.inl rfl) ((mem_putOutboundCommand found same).1 held)
  | settledSend found _ _ same =>
      exact replaced same (Or.inl rfl) ((mem_putOutboundCommand found same).1 held)
  | failedEdit found _ _ same =>
      exact replaced same (Or.inl rfl) ((mem_putOutboundCommand found same).1 held)
  | completedEdit found _ _ same _ _ insert =>
      obtain ⟨_, commands, _, _⟩ := Database.insertReplyVersion_spec insert
      have mem := (mem_putOutboundCommand (commands ▸ found) same).1 held
      rw [commands] at mem
      exact replaced same (Or.inl rfl) mem

end ReplyWorkflow

end LeadAssistant
