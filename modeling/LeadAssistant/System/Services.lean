/-
Module: LeadAssistant.System.Services
Layer: System
Purpose: The application as one system: the services over one database, each taking the steps of its
  own model. Updates of the bot pass its authorization middleware first. What the remaining services
  write is not in the tables of the messages, the questions and the replies; retention deletes rows
  that nobody has locked.
Trusted boundary: human-reviewed spec
Main exports: Assistant, AppSettings, ServiceEvent, Expired, OperatorAuthorizationMiddleware.allows,
  Assistant.step, Assistant.step_cleanupOnce
-/
import LeadAssistant.Listener.IngestionHandler
import LeadAssistant.Pipeline.Pipeline
import LeadAssistant.Repositories.Retention
import LeadAssistant.System.NoticeEffects
import LeadAssistant.Workflow.ReplyWorkflow

namespace LeadAssistant

open Relational

/-- The database, and what the processes hold beside it. The listener's own `db` is never read. -/
structure Assistant where
  db : Database
  listener : Listener
  iterations : Table Pipeline.Iteration.jobId := ∅
  sending : Table ReplyWorkflow.SendIteration.commandId := ∅
  editing : Table ReplyWorkflow.EditIteration.commandId := ∅
  telegram : Table ReplyWorkflow.TelegramMessage.key := ∅
  sendCalls : List ReplyWorkflow.SendCall := []
  attempts : List Attempt := []

/-- What the services are configured with, and the Unicode tables and the hash of their Python. -/
structure AppSettings where
  unicode : UnicodeData
  messageFingerprint : String → String
  dedupWindow : Int
  operatorUserId : Int
  temporaryTtl : Int
  relevantRetention : Int

/-- The rows that one cleanup deletes. -/
structure Expired where
  jobIds : List UUID := []
  questionIds : List UUID := []
  runs : List (Int × Int × Nat) := []
  fingerprints : List (Int × String) := []

inductive ServiceEvent where
  /-- The listener's intake. -/
  | listener (e : ListenerEvent)
  /-- A worker of the pipeline. -/
  | pipeline (e : Pipeline.Event)
  /-- An update that a user sends to the bot, and the call that its handler makes. -/
  | bot (user : Option Int) (e : ReplyWorkflow.Event)
  /-- A send or edit worker, or the recovery of stale commands. -/
  | outbound (e : ReplyWorkflow.Event)
  /-- An iteration of the notification worker; one that is lost writes nothing. -/
  | notify (locked : UUID → Bool) (api : BotApi) (now : Time) (ended : NoticeEnd)
  /-- The remaining services: chat verification, sessions, languages. -/
  | aside (written : Database)
  /-- `cleanup_once`, with the rows it has chosen among those that nobody has locked. -/
  | retention (rows : Expired) (now : Time)

/-- The calls of the operator's handlers. -/
def ReplyWorkflow.Event.isCall : ReplyWorkflow.Event → Bool
  | .openQuestion .. | .createVersion .. | .reopenForEdit .. | .cancel .. | .dismiss .. | .reopen ..
  | .removeChat .. | .confirmSend .. | .prepareEdit .. | .confirmEdit .. | .retryFailed .. => true
  | _ => false

/-- The steps of the outbound workers and of maintenance. -/
def ReplyWorkflow.Event.isOutbound : ReplyWorkflow.Event → Bool
  | .recoverStale .. | .claimSend .. | .validateSend .. | .callSend .. | .finishSend ..
  | .crashSend .. | .claimEdit .. | .callEdit .. | .finishEdit .. | .crashEdit .. => true
  | _ => false

/-- `user is not None and user.id == self._operator_user_id`. -/
def OperatorAuthorizationMiddleware.allows (operatorUserId : Int) (user : Option Int) : Bool :=
  user.any (fun id => id = operatorUserId)

/-- The listener as it is configured. -/
abbrev AppSettings.listen (settings : AppSettings) : Listener → ListenerEvent → Option Listener :=
  Listener.step settings.unicode settings.messageFingerprint settings.dedupWindow

/-- All of the rows have outlived their time. -/
def Expired.due (rows : Expired) (settings : AppSettings) (now : Time) (db : Database) : Bool :=
  db.processingJobs.rows.all (fun job =>
      job.id ∈ rows.jobIds → RetentionRepository.expiredJob now settings.temporaryTtl job) &&
    db.detectedQuestions.rows.all (fun question => question.id ∈ rows.questionIds →
      RetentionRepository.expiredQuestion now settings.relevantRetention question) &&
    db.classificationRuns.rows.all (fun run =>
      run.key ∈ rows.runs → RetentionRepository.expiredRun now settings.relevantRetention run) &&
    db.recentMessageFingerprints.rows.all (fun row => row.key ∈ rows.fingerprints →
      RetentionRepository.expiredFingerprint now settings.dedupWindow row)

def Expired.deleted (rows : Expired) (db : Database) : Database :=
  { RetentionRepository.deleteQuestions rows.questionIds db with
    processingJobs := db.processingJobs.deleteWhere (fun job => job.id ∈ rows.jobIds)
    classificationRuns := db.classificationRuns.deleteWhere (fun run => run.key ∈ rows.runs)
    recentMessageFingerprints :=
      db.recentMessageFingerprints.deleteWhere (fun row => row.key ∈ rows.fingerprints) }

namespace Assistant

/-- What each service sees. -/
def intake (s : Assistant) : Listener :=
  { s.listener with intake := { s.listener.intake with db := s.db } }

def pipeline (s : Assistant) : Pipeline.State where
  db := s.db
  opened := s.iterations
  usedIds := s.db.processingJobs.rows.map (fun job => job.id)

def replies (s : Assistant) : ReplyWorkflow.World where
  db := s.db
  sending := s.sending
  editing := s.editing
  telegram := s.telegram
  sendCalls := s.sendCalls

/-- The system after a step of a service. -/
def afterIntake (s : Assistant) (l : Listener) : Assistant :=
  { s with db := l.intake.db, listener := l }

def afterPipeline (s : Assistant) (p : Pipeline.State) : Assistant :=
  { s with db := p.db, iterations := p.opened }

def afterReplies (s : Assistant) (w : ReplyWorkflow.World) : Assistant :=
  { s with
    db := w.db, sending := w.sending, editing := w.editing, telegram := w.telegram,
    sendCalls := w.sendCalls }

/-- What an iteration of the notification worker leaves in the database, if it commits. -/
def afterNotice (s : Assistant) (operatorUserId : Int) (locked : UUID → Bool) (api : BotApi)
    (now : Time) (ended : NoticeEnd) : Database :=
  match ended,
    BotNotificationWorker.runOnce {} operatorUserId locked api.toNotificationBot now s.db with
  | .committed, .ok (_, db) => db
  | _, _ => s.db

/-- The tables of the remaining services, as they have written them. -/
def besides (s : Assistant) (written : Database) : Database :=
  { written with
    processingJobs := s.db.processingJobs
    classificationRuns := s.db.classificationRuns
    detectedQuestions := s.db.detectedQuestions
    questionChainMessages := s.db.questionChainMessages
    botNotifications := s.db.botNotifications
    replyVersions := s.db.replyVersions
    outboundCommands := s.db.outboundCommands }

/-- The removal of a chat waits for the iterations that have locked a job of it. -/
def waits (s : Assistant) : ReplyWorkflow.Event → Bool
  | .removeChat chatId =>
      s.iterations.rows.any (fun iteration => iteration.job.monitoredChatId = chatId)
  | _ => false

/-- Some of the rows are locked by an open iteration. -/
def holds (s : Assistant) (rows : Expired) : Bool :=
  s.iterations.rows.any (fun iteration => iteration.job.id ∈ rows.jobIds) ||
    s.sending.rows.any (fun iteration => iteration.command.questionId ∈ rows.questionIds) ||
    s.editing.rows.any (fun iteration => iteration.command.questionId ∈ rows.questionIds)

section Step

variable (settings : AppSettings)

/-- One step of one service. The listener and the pipeline meet at the jobs alone, so neither takes
the step that stands for the other in its own model. -/
def step (s : Assistant) : ServiceEvent → Option Assistant
  | .listener (.others _) => none
  | .listener e => (settings.listen s.intake e).map s.afterIntake
  | .pipeline (.enqueue ..) => none
  | .pipeline e => (Pipeline.step s.pipeline e).map s.afterPipeline
  | .bot user e =>
      if !e.isCall then none
      else if !OperatorAuthorizationMiddleware.allows settings.operatorUserId user then some s
      else if s.waits e then none
      else (ReplyWorkflow.step s.replies e).map s.afterReplies
  | .outbound e =>
      if e.isOutbound then (ReplyWorkflow.step s.replies e).map s.afterReplies else none
  | .notify locked api now ended =>
      some { s with
        db := s.afterNotice settings.operatorUserId locked api now ended
        attempts := s.attempts ++ (BotNotificationWorker.attempted settings.operatorUserId locked api
          ended now s.db).toList }
  | .aside written => some { s with db := s.besides written }
  | .retention rows now =>
      if s.holds rows || !rows.due settings now s.db then none
      else some { s with db := rows.deleted s.db }

/-- A whole pass of `cleanup_once` is a step when the rows that an open iteration works on are among
those that it skips. -/
theorem step_cleanupOnce {settings : AppSettings} {s : Assistant} {locked : RowLocks} {batchSize : Nat}
    {now : Time} (jobs : ∀ iteration ∈ s.iterations.rows, locked.job iteration.job.id = true)
    (sends : ∀ iteration ∈ s.sending.rows, locked.question iteration.command.questionId = true)
    (edits : ∀ iteration ∈ s.editing.rows, locked.question iteration.command.questionId = true) :
    ∃ rows, step settings s (.retention rows now) = some { s with
      db := (RetentionRepository.cleanupOnce locked settings.temporaryTtl settings.relevantRetention
        settings.dedupWindow batchSize now s.db).2 } := by
  let jobRows := s.db.processingJobs.batch
    (fun job => RetentionRepository.expiredJob now settings.temporaryTtl job && !locked.job job.id)
    (fun job => job.expiresAt) batchSize
  let questionRows := s.db.detectedQuestions.batch
    (fun question => RetentionRepository.expiredQuestion now settings.relevantRetention question &&
      !locked.question question.id) (fun question => question.expiresAt) batchSize
  let runRows := s.db.classificationRuns.batch
    (fun run => RetentionRepository.expiredRun now settings.relevantRetention run &&
      !locked.run run.key) (fun run => run.createdAt) batchSize
  let fingerprintRows := s.db.recentMessageFingerprints.batch
    (fun row => RetentionRepository.expiredFingerprint now settings.dedupWindow row &&
      !locked.fingerprint row.key) (fun row => row.lastSeenAt) batchSize
  let rows : Expired := ⟨jobRows.map (fun job => job.id),
    questionRows.map (fun question => question.id), runRows.map ClassificationRun.key,
    fingerprintRows.map RecentMessageFingerprint.key⟩
  have spared_job : ∀ id, locked.job id = true → id ∉ rows.jobIds := by
    intro id taken named
    obtain ⟨job, picked, rfl⟩ := List.mem_map.1 named
    have chosen := (Bool.and_eq_true_iff.1 (Table.mem_of_batch picked).2).2
    rw [taken] at chosen
    cases chosen
  have spared_question : ∀ id, locked.question id = true → id ∉ rows.questionIds := by
    intro id taken named
    obtain ⟨question, picked, rfl⟩ := List.mem_map.1 named
    have chosen := (Bool.and_eq_true_iff.1 (Table.mem_of_batch picked).2).2
    rw [taken] at chosen
    cases chosen
  have free : s.holds rows = false := by
    unfold holds
    simp only [Bool.or_eq_false_iff, List.any_eq_false, decide_eq_true_eq]
    exact ⟨⟨fun iteration held => spared_job _ (jobs iteration held),
      fun iteration held => spared_question _ (sends iteration held)⟩,
      fun iteration held => spared_question _ (edits iteration held)⟩
  have due : rows.due settings now s.db = true := by
    unfold Expired.due
    simp only [Bool.and_eq_true, List.all_eq_true, decide_eq_true_eq]
    refine ⟨⟨⟨?_, ?_⟩, ?_⟩, ?_⟩
    all_goals
      intro row held named
      have chosen := Table.of_key_mem_batch held named
      exact (Bool.and_eq_true_iff.1 chosen).1
  have deleted : rows.deleted s.db = (RetentionRepository.cleanupOnce locked settings.temporaryTtl
      settings.relevantRetention settings.dedupWindow batchSize now s.db).2 := by
    unfold RetentionRepository.cleanupOnce
    dsimp only
    rw [Table.deleteBatch_eq (q := fun job => job.id ∈ rows.jobIds) (fun _ => decide_eq_true_iff),
      Table.deleteBatch_eq (q := fun row => row.key ∈ rows.fingerprints)
        (fun _ => decide_eq_true_iff),
      Table.deleteBatch_eq (q := fun run => run.key ∈ rows.runs) (fun _ => decide_eq_true_iff)]
    rfl
  refine ⟨rows, ?_⟩
  simp only [step]
  rw [free, due, deleted]
  rfl

end Step

end Assistant

end LeadAssistant
