/-
Module: LeadAssistant.System.Provenance
Layer: System
Purpose: Where the messages of the account come from. In every run of the whole system, whatever the
  order of the services' steps, a text that Telegram shows in a chat was sent by a worker, after the
  operator had confirmed it, after the operator had typed it for a question, after the model had
  called a received message of that chat relevant, which the listener had let through.
Trusted boundary: human-reviewed spec
Main exports: Assistant.Received, Assistant.Judged, Assistant.Asked, Assistant.Typed,
  Assistant.Confirmed, Assistant.Sent, Assistant.messages_sent
-/
import LeadAssistant.Listener.IntakeLedger
import LeadAssistant.System.Invariants

namespace LeadAssistant.Assistant

open Relational Transition

section Histories

variable (settings : AppSettings) (s : Assistant)

/-- An event of a run of the system, in the state and after the events it was taken in. -/
abbrev Happened (es : List ServiceEvent)
    (P : List ServiceEvent → Assistant → ServiceEvent → Prop) : Prop :=
  Caused (step settings) anyEvent s es P

/-- The listener's handler has let an update with this message through. -/
def Received (es : List ServiceEvent) (message : NewJob) : Prop :=
  Happened settings s es (fun _ v e =>
    ∃ id event chatId text chat, e = .listener (.update id event) ∧
      Listener.Admits settings.unicode v.intake event chatId ∧
      (Listener.mapped event chatId).text = some text ∧
      message = Ingestion.newJob (Listener.mapped event chatId).toIncomingMessage text chat)

/-- An iteration has called a received message relevant. -/
def Judged (es : List ServiceEvent) (message : NewJob) : Prop :=
  Happened settings s es (fun before v e =>
    ∃ iteration ∈ v.iterations, ∃ w, e = .pipeline (.finish iteration.jobId w) ∧
      iteration.job.asNew = message ∧ iteration.Says w .relevant ∧
      Received settings s before message)

/-- An iteration has asked the question of a relevant message: its commit has inserted it. -/
def Asked (es : List ServiceEvent) (questionId : UUID) (message : NewJob) : Prop :=
  Happened settings s es (fun before v e =>
    ∃ iteration ∈ v.iterations, ∃ w t topicId, e = .pipeline (.finish iteration.jobId w) ∧
      iteration.job.asNew = message ∧ step settings v e = some t ∧
      v.db.placeOf? questionId = none ∧ t.db.placeOf? questionId =
        some (message.telegramChatId, message.telegramMessageId, topicId) ∧
      Judged settings s before message)

/-- The operator has typed a text for the question of a message. -/
def Typed (es : List ServiceEvent) (questionId : UUID) (text : String) (message : NewJob) : Prop :=
  Happened settings s es (fun before _ e =>
    ∃ call, e = .bot (some settings.operatorUserId) call ∧ call.Types questionId text ∧
      Asked settings s before questionId message)

/-- The operator has confirmed a typed text while it was the latest draft of its question. -/
def Confirmed (es : List ServiceEvent) (questionId : UUID) (text : String) (message : NewJob) :
    Prop :=
  Happened settings s es (fun before v e =>
    ∃ call shown, e = .bot (some settings.operatorUserId) call ∧ call.Confirms questionId ∧
      v.db.latestVersion? questionId = some shown ∧ shown.action = .draft ∧ shown.text = text ∧
      Typed settings s before questionId text message)

/-- A worker has sent a confirmed text as an answer to a message. -/
def Sent (es : List ServiceEvent) (questionId : UUID) (text : String) (message : NewJob) : Prop :=
  Happened settings s es (fun before v e =>
    ∃ call command, e = .outbound call ∧ v.replies.Calls command call ∧
      command.questionId = questionId ∧ command.text = text ∧
      command.telegramChatId = message.telegramChatId ∧
      command.sourceMessageId = message.telegramMessageId ∧
      Confirmed settings s before questionId text message)

/-- The place of a question is that of its message. -/
def At (message : NewJob) (place : Int × Int × Option Int) : Prop :=
  place.1 = message.telegramChatId ∧ place.2.1 = message.telegramMessageId

/-- What the tables and Telegram hold has its history in the run. -/
structure History (es : List ServiceEvent) (v : Assistant) : Prop where
  judged : ∀ job ∈ v.db.processingJobs, job.status = .awaitingRelevantProcessing →
    Judged settings s es job.asNew
  asked : ∀ questionId place, v.db.placeOf? questionId = some place → ∃ message,
    At message place ∧ Asked settings s es questionId message
  typed : ∀ version ∈ v.db.replyVersions, ∃ message place,
    v.db.placeOf? version.questionId = some place ∧ At message place ∧
      Typed settings s es version.questionId version.text message
  confirmed : ∀ command ∈ v.db.outboundCommands, ∃ message,
    At message (command.telegramChatId, command.sourceMessageId, command.topicId) ∧
      Confirmed settings s es command.questionId command.text
        message
  sent : ∀ shown ∈ v.telegram, ∃ message : NewJob, shown.chatId = message.telegramChatId ∧
    Sent settings s es shown.questionId shown.text message

end Histories

section Runs

variable {settings : AppSettings} {s v t : Assistant} {es : List ServiceEvent} {e : ServiceEvent}

theorem History.snoc (history : History settings s es v)
    (e : ServiceEvent) : History settings s (es ++ [e]) v where
  judged job held awaiting := (history.judged job held awaiting).snoc e
  asked questionId place found := by
    obtain ⟨message, at_, asked⟩ := history.asked questionId place found
    exact ⟨message, at_, asked.snoc e⟩
  typed version held := by
    obtain ⟨message, place, found, at_, typed⟩ := history.typed version held
    exact ⟨message, place, found, at_, typed.snoc e⟩
  confirmed command held := by
    obtain ⟨message, at_, confirmed⟩ := history.confirmed command held
    exact ⟨message, at_, confirmed.snoc e⟩
  sent shown held := by
    obtain ⟨message, chat, sent⟩ := history.sent shown held
    exact ⟨message, chat, sent.snoc e⟩

/-! ### The listener's part of a run -/

/-- The other services insert no job. -/
theorem jobs_kept (sound : Sound s) (other : ∀ l, e ≠ .listener l)
    (next : step settings s e = some t) :
    ∀ job ∈ t.db.processingJobs, ∃ old ∈ s.db.processingJobs,
      old.id = job.id ∧ old.asNew = job.asNew := by
  intro job held
  cases step_served next with
  | heard e l => exact absurd rfl (other e)
  | worked e p own moved =>
      rcases Pipeline.commits_of_step sound.tracked own moved with
        same | ⟨iteration, open_, w, error, db, -, ran, rfl⟩
      · change job ∈ p.db.processingJobs at held
        rw [same] at held
        exact ⟨job, held, rfl, rfl⟩
      · obtain ⟨row, found, claims, left, leaves, outcome⟩ := sound.tracked.outcome open_ ran
        rcases leaves.mem held with ⟨rfl, own⟩ | ⟨old, -⟩
        · exact ⟨row, Table.mem_of_get? found, (Table.key_of_get? found).trans own.symm,
            (outcome.keeps.trans claims.keeps).symm⟩
        · exact ⟨job, old, rfl, rfl⟩
  | refused => exact ⟨job, held, rfl, rfl⟩
  | called e w call unlocked moved =>
      rcases (ReplyWorkflow.step_writes (Or.inl call) moved).jobs with same | ⟨chatId, -, removed⟩
      · exact ⟨job, same ▸ held, rfl, rfl⟩
      · change job ∈ w.db.processingJobs at held
        rw [removed] at held
        exact ⟨job, (Table.mem_deleteWhere.1 held).1, rfl, rfl⟩
  | delivered e w outbound moved =>
      rcases (ReplyWorkflow.step_writes (Or.inr outbound) moved).jobs with same | ⟨chatId, rfl, -⟩
      · exact ⟨job, same ▸ held, rfl, rfl⟩
      · cases outbound
  | notified locked api now ended notifications left => exact ⟨job, held, rfl, rfl⟩
  | written db => exact ⟨job, held, rfl, rfl⟩
  | retained rows now free => exact ⟨job, (Table.mem_deleteWhere.1 held).1, rfl, rfl⟩

/-- Every step of the system is a step of the listener's own model. -/
theorem intake_step (sound : Sound s)
    (next : step settings s e = some t) :
    ∃ l, settings.listen s.intake l = some t.intake ∧
      ∀ x, (∀ db, x ≠ .others db) → l = x → e = .listener x := by
  by_cases heard : ∃ l, e = .listener l
  · obtain ⟨l, rfl⟩ := heard
    cases step_served next with
    | heard l after own moved => exact ⟨l, moved, fun x _ same => congrArg _ same⟩
  · have other : ∀ l, e ≠ .listener l := fun l same => heard ⟨l, same⟩
    refine ⟨.others t.db, ?_, fun x own same => absurd same.symm (own t.db)⟩
    have may : Listener.othersMay s.intake.intake.db t.db = true := by
      apply List.all_eq_true.2
      intro job held
      obtain ⟨old, there, id, same⟩ := jobs_kept sound other next job held
      exact List.any_eq_true.2 ⟨old, there, by simp [id, same]⟩
    have listener : t.listener = s.listener := by
      cases step_served next with
      | heard e l => exact absurd rfl (other e)
      | _ => rfl
    simp only [Listener.step]
    rw [if_pos may]
    unfold intake
    rw [listener]

/-- The listener's own run, and what happened in it. -/
theorem intake_run (sound : Sound s)
    (run : Run (step settings) anyEvent s es t) :
    ∃ ls, Run (settings.listen) anyEvent s.intake ls t.intake ∧
      ∀ (x : ListenerEvent) (P : Listener → Prop), (∀ db, x ≠ .others db) →
        Caused (settings.listen) anyEvent s.intake ls (fun _ v l => l = x ∧ P v) →
          Happened settings s es
            (fun _ v e => e = .listener x ∧ P v.intake) := by
  induction run with
  | nil =>
      refine ⟨[], .nil, fun x P own caused => ?_⟩
      obtain ⟨front, l, back, v, split, -, -⟩ := caused
      simp at split
  | @snoc v t es e before _ next ih =>
      obtain ⟨ls, heard, found⟩ := ih
      have held := before.invariant sound fun _ _ _ held _ moved => held.step moved
      obtain ⟨l, moved, source⟩ := intake_step held next
      refine ⟨ls ++ [l], .snoc heard trivial moved, fun x P own caused => ?_⟩
      rcases caused.of_snoc with earlier | ⟨w, reached, rfl, holds⟩
      · exact (found x P own earlier).snoc e
      · cases reached.deterministic heard
        exact Caused.last before ⟨source _ own rfl, holds⟩

/-- Every job is that of an update which the handler has let through. -/
theorem received_of_run (sound : Sound s) (idle : s.listener.intake.opened.rows = [])
    (unqueued : ∀ job, job ∉ s.db.processingJobs)
    (run : Run (step settings) anyEvent s es t) :
    ∀ job ∈ t.db.processingJobs,
      Received settings s es job.asNew := by
  intro job held
  obtain ⟨ls, heard, found⟩ := intake_run sound run
  have unopened : s.intake.intake.opened.rows = [] := idle
  have traced := Listener.traced_of_run unopened heard
  rcases traced.jobs job held with ⟨old, there, -⟩ | inserted
  · exact absurd there (unqueued old)
  · obtain ⟨event, chatId, id, text, chat, known, row, opened⟩ := inserted.opened
    apply (found _ _ (by simp) opened).imp
    rintro front v e ⟨rfl, admits⟩
    exact ⟨id, event, chatId, text, chat, rfl, admits, known, row⟩

/-! ### One step of the history -/

/-- The listener asks, stores and sends nothing. -/
theorem History.heard (history : History settings s es v)
    {l : Listener} (queues : Queues v.db l.intake.db) :
    History settings s es (v.afterIntake l) := by
  have kept : SameReplies v.db l.intake.db := by
    rw [queues.same]
    exact ⟨rfl, rfl, rfl, rfl⟩
  have places : ∀ id, l.intake.db.placeOf? id = v.db.placeOf? id := by
    intro id
    unfold Database.placeOf?
    rw [kept.questions]
  constructor
  · intro job held awaiting
    rcases queues.jobs with same | ⟨row, pending, inserted⟩
    · exact history.judged job (same ▸ held) awaiting
    · rcases (Table.mem_insert? inserted).1 held with old | rfl
      · exact history.judged job old awaiting
      · rw [pending] at awaiting
        cases awaiting
  · intro questionId place found
    exact history.asked questionId place ((places questionId).symm.trans found)
  · intro version held
    obtain ⟨message, place, found, rest⟩ := history.typed version (kept.versions ▸ held)
    exact ⟨message, place, (places _).trans found, rest⟩
  · intro command held
    exact history.confirmed command (kept.commands ▸ held)
  · exact history.sent

/-- A job that an iteration holds to be persisted was called relevant. -/
theorem History.held (history : History settings s es v)
    (sound : Sound v) {iteration : Pipeline.Iteration} (held : iteration ∈ v.iterations)
    (awaiting : iteration.job.status = .awaitingRelevantProcessing) :
    Judged settings s es iteration.job.asNew := by
  obtain ⟨row, found, claims⟩ := sound.tracked.claims iteration held
  rw [claims.keeps]
  exact history.judged row (Table.mem_of_get? found) (claims.awaiting awaiting)

/-- An iteration judges its own job, or asks its question. -/
theorem History.committed (history : History settings s es v)
    (sound : Sound v) (before : Run (step settings) anyEvent s es v)
    (received : ∀ job ∈ v.db.processingJobs,
      Received settings s es job.asNew)
    {iteration : Pipeline.Iteration} {w : Pipeline.Surroundings} {error : Option HandlerError}
    {db : Database} (held : iteration ∈ v.iterations) (ran : iteration.run w v.db = (error, .ok db))
    (next : step settings v (.pipeline (.finish iteration.jobId w)) =
      some (v.afterPipeline (v.pipeline.committed iteration error db))) :
    History settings s (es ++ [.pipeline (.finish iteration.jobId w)])
      (v.afterPipeline (v.pipeline.committed iteration error db)) := by
  have later := history.snoc (.pipeline (.finish iteration.jobId w))
  obtain ⟨row, found, claims, left, leaves, outcome⟩ := sound.tracked.outcome held ran
  have judged : ∀ job ∈ db.processingJobs, job.status = .awaitingRelevantProcessing →
      Judged settings s
        (es ++ [.pipeline (.finish iteration.jobId w)]) job.asNew := by
    intro job there awaiting
    rcases leaves.mem there with ⟨rfl, own⟩ | ⟨old, -⟩
    · rw [outcome.keeps]
      have explains := Pipeline.run_explains claims found ran
      rw [leaves iteration.jobId, if_pos rfl] at explains
      rcases explains awaiting with status | called
      · exact (history.held sound held status).snoc _
      · apply Caused.last before
        have arrived := received row (Table.mem_of_get? found)
        rw [← claims.keeps] at arrived
        exact ⟨iteration, held, w, rfl, rfl, called, arrived⟩
    · exact later.judged job old awaiting
  rcases Pipeline.run_asks ran with same | asks
  · have places : ∀ id, db.placeOf? id = v.db.placeOf? id := by
      intro id
      unfold Database.placeOf?
      rw [same.questions]
    refine ⟨judged, ?_, ?_, ?_, later.sent⟩
    · intro questionId place there
      exact later.asked questionId place ((places questionId).symm.trans there)
    · intro version there
      obtain ⟨message, place, known, rest⟩ := later.typed version (same.versions ▸ there)
      exact ⟨message, place, (places _).trans known, rest⟩
    · intro command there
      exact later.confirmed command (same.commands ▸ there)
  · refine ⟨judged, ?_, ?_, ?_, later.sent⟩
    · intro questionId place there
      rcases asks.placeOf? questionId with ⟨-, absent, topicId, new⟩ | ⟨-, kept⟩
      · cases new.symm.trans there
        refine ⟨iteration.job.asNew, ⟨rfl, rfl⟩, Caused.last before ?_⟩
        exact ⟨iteration, held, w, _, topicId, rfl, rfl, next, absent, there,
          history.held sound held asks.awaiting⟩
      · exact later.asked questionId place (kept.symm.trans there)
    · intro version there
      obtain ⟨message, place, known, rest⟩ := later.typed version (asks.versions ▸ there)
      rcases asks.placeOf? version.questionId with ⟨-, absent, -⟩ | ⟨-, kept⟩
      · cases absent.symm.trans known
      · exact ⟨message, place, kept.trans known, rest⟩
    · intro command there
      exact later.confirmed command (asks.commands ▸ there)

/-- A command that is stored or held was confirmed. -/
theorem History.known (history : History settings s es v)
    (sound : Sound v) {command : OutboundCommand} (knows : v.replies.Knows command) :
    ∃ message, At message (command.telegramChatId, command.sourceMessageId, command.topicId) ∧
      Confirmed settings s es command.questionId command.text
        message := by
  have claimed : ∀ {kind}, ReplyWorkflow.Claims v.db kind command → ∃ message,
      At message (command.telegramChatId, command.sourceMessageId, command.topicId) ∧
        Confirmed settings s es command.questionId command.text
          message := by
    rintro kind ⟨row, found, -, -, taken⟩
    obtain ⟨message, at_, confirmed⟩ := history.confirmed row (Table.mem_of_get? found)
    have same := taken.same
    refine ⟨message, ?_, ?_⟩
    · rw [same.telegramChatId, same.sourceMessageId, same.topicId]
      exact at_
    · rw [same.questionId, same.text]
      exact confirmed
  rcases knows with stored | ⟨iteration, held, rfl⟩ | ⟨iteration, held, rfl⟩
  · exact history.confirmed command stored
  · exact claimed (sound.consistent.sends iteration held)
  · exact claimed (sound.consistent.edits iteration held)

/-- What becomes of a command was confirmed with it. -/
theorem History.carried (history : History settings s es v)
    (sound : Sound v) {db : Database} (keeps : ReplyWorkflow.Keeps v.replies db) :
    ∀ command ∈ db.outboundCommands, ∃ message,
      At message (command.telegramChatId, command.sourceMessageId, command.topicId) ∧
        Confirmed settings s es command.questionId command.text
          message := by
  intro command there
  obtain ⟨known, knows, same⟩ := keeps.commands command there
  obtain ⟨message, at_, confirmed⟩ := history.known sound knows
  refine ⟨message, ?_, ?_⟩
  · rw [same.telegramChatId, same.sourceMessageId, same.topicId]
    exact at_
  · rw [same.questionId, same.text]
    exact confirmed

/-- A confirmed text was typed before. -/
theorem Confirmed.typed {questionId : UUID} {text : String} {message : NewJob}
    (confirmed : Confirmed settings s es questionId text message) :
    Typed settings s es questionId text message := by
  obtain ⟨front, e, back, v, rfl, -, call, shown, -, -, -, -, -, typed⟩ := confirmed
  exact typed.append (e :: back)

/-- The texts after a transaction. -/
theorem History.texts (history : History settings s es v)
    (sound : Sound v) (before : Run (step settings) anyEvent s es v)
    {call : ReplyWorkflow.Event} {db : Database} (writes : ReplyWorkflow.Writes v.replies call db)
    (operator : call.isOutbound = false → e = .bot (some settings.operatorUserId) call) :
    ∀ version ∈ db.replyVersions, ∃ message place,
      v.db.placeOf? version.questionId = some place ∧ At message place ∧
        Typed settings s (es ++ [e]) version.questionId
          version.text message := by
  have later := history.snoc e
  intro version there
  cases writes with
  | kept keeps versions => exact later.typed version (versions ▸ there)
  | removed chatId event result =>
      rw [result] at there
      exact later.typed version there
  | typed written types asked keeps versions =>
      rcases versions version there with old | rfl
      · exact later.typed version old
      · obtain ⟨place, found⟩ := Option.isSome_iff_exists.1 asked
        obtain ⟨message, at_, asked⟩ := history.asked version.questionId place found
        refine ⟨message, place, found, at_, Caused.last before ?_⟩
        exact ⟨call, operator types.not_outbound, types, asked⟩
  | confirmed shown confirms top isDraft jobs places versions commands =>
      rcases versions version there with old | ⟨owner, text⟩
      · exact later.typed version old
      · rw [owner, text]
        exact later.typed shown (Database.latestVersion?_spec top).1
  | published iteration held keeps versions =>
      rcases versions version there with old | ⟨owner, text⟩
      · exact later.typed version old
      · obtain ⟨message, at_, confirmed⟩ :=
          history.known sound (Or.inr (Or.inr ⟨iteration, held, rfl⟩))
        obtain ⟨row, stored, -, same, -⟩ := sound.consistent.edit_row held
        have place := sound.consistent.coupled.owner row stored
        rw [owner, text]
        refine ⟨message, _, same.questionId ▸ place, ?_, confirmed.typed.snoc e⟩
        rw [← same.telegramChatId, ← same.sourceMessageId, ← same.topicId]
        exact at_

/-- The commands after a transaction. -/
theorem History.commands (history : History settings s es v)
    (sound : Sound v) (before : Run (step settings) anyEvent s es v)
    {call : ReplyWorkflow.Event} {w : ReplyWorkflow.World} (after : ReplyWorkflow.Consistent w)
    (writes : ReplyWorkflow.Writes v.replies call w.db)
    (operator : call.isOutbound = false → e = .bot (some settings.operatorUserId) call) :
    ∀ command ∈ w.db.outboundCommands, ∃ message,
      At message (command.telegramChatId, command.sourceMessageId, command.topicId) ∧
        Confirmed settings s (es ++ [e]) command.questionId
          command.text message := by
  have later := history.snoc e
  intro command there
  have place := after.coupled.owner command there
  rw [writes.places] at place
  cases writes with
  | kept keeps versions => exact later.carried sound keeps command there
  | removed chatId event result =>
      rw [result] at there
      exact later.confirmed command there
  | typed written types asked keeps versions => exact later.carried sound keeps command there
  | confirmed shown confirms top isDraft jobs places versions commands =>
      rcases commands command there with old | ⟨owner, text⟩
      · exact later.confirmed command old
      · obtain ⟨message, known, found, at_, typed⟩ :=
          history.typed shown (Database.latestVersion?_spec top).1
        rw [owner] at place
        cases found.symm.trans place
        refine ⟨message, at_, Caused.last before ?_⟩
        rw [owner, text]
        exact ⟨call, shown, operator confirms.not_outbound, confirms, top, isDraft, rfl, typed⟩
  | published iteration held keeps versions => exact later.carried sound keeps command there

/-- A transaction of the operator or of a worker. -/
theorem History.replied (history : History settings s es v)
    (sound : Sound v) (before : Run (step settings) anyEvent s es v)
    {call : ReplyWorkflow.Event} {w : ReplyWorkflow.World}
    (own : call.isCall = true ∨ call.isOutbound = true)
    (next : ReplyWorkflow.step v.replies call = some w)
    (operator : call.isOutbound = false → e = .bot (some settings.operatorUserId) call)
    (worker : call.isOutbound = true → e = .outbound call) :
    History settings s (es ++ [e]) (v.afterReplies w) := by
  have later := history.snoc e
  have writes := ReplyWorkflow.step_writes own next
  have moves := ReplyWorkflow.step_moves sound.consistent next
  have after := sound.consistent.step moves
  constructor
  · intro job there awaiting
    change job ∈ w.db.processingJobs at there
    rcases writes.jobs with same | ⟨chatId, -, removed⟩
    · exact later.judged job (same ▸ there) awaiting
    · rw [removed] at there
      exact later.judged job (Table.mem_deleteWhere.1 there).1 awaiting
  · intro questionId place found
    exact later.asked questionId place ((writes.places questionId).symm.trans found)
  · intro version there
    obtain ⟨message, place, found, rest⟩ := history.texts sound before writes operator version there
    exact ⟨message, place, (writes.places _).trans found, rest⟩
  · exact history.commands sound before after writes operator
  · intro shown there
    rcases ReplyWorkflow.telegram_of_moves sound.posted sound.consistent moves there with
      known | ⟨command, calls, owner, text, chat⟩
    · exact later.sent shown known
    · obtain ⟨message, at_, confirmed⟩ := history.known sound calls.knows
      refine ⟨message, chat.trans at_.1, Caused.last before ?_⟩
      rw [owner, text]
      exact ⟨call, command, worker calls.outbound, calls, rfl, rfl, at_.1, at_.2, confirmed⟩

/-- Retention deletes a question with everything that belongs to it. -/
theorem History.retained (history : History settings s es v)
    {rows : Expired} : History settings s es { v with db := rows.deleted v.db } where
  judged job there awaiting := history.judged job (Table.mem_deleteWhere.1 there).1 awaiting
  asked questionId place found := by
    change (RetentionRepository.deleteQuestions rows.questionIds v.db).placeOf? _ = _ at found
    rw [ReplyWorkflow.placeOf?_deleteQuestions] at found
    split at found
    · cases found
    · exact history.asked questionId place found
  typed version there := by
    obtain ⟨old, kept⟩ := Table.mem_deleteWhere.1 there
    obtain ⟨message, place, found, rest⟩ := history.typed version old
    refine ⟨message, place, ?_, rest⟩
    change (RetentionRepository.deleteQuestions rows.questionIds v.db).placeOf? _ = _
    rw [ReplyWorkflow.placeOf?_deleteQuestions, if_neg (by simpa using kept)]
    exact found
  confirmed command there := history.confirmed command (ReplyWorkflow.mem_deleteQuestions.1 there).1
  sent := history.sent

theorem History.step (history : History settings s es v)
    (sound : Sound v) (before : Run (step settings) anyEvent s es v)
    (received : ∀ job ∈ v.db.processingJobs,
      Received settings s es job.asNew)
    (next : Assistant.step settings v e = some t) :
    History settings s (es ++ [e]) t := by
  have later := history.snoc e
  cases step_served next with
  | heard e l own moved => exact later.heard (Listener.step_queues own moved)
  | worked e p own moved =>
      rcases Pipeline.commits_of_step sound.tracked own moved with
        same | ⟨iteration, held, w, error, db, rfl, ran, rfl⟩
      · have kept : p.db = v.db := same
        constructor
        · exact fun job there => later.judged job (kept ▸ there)
        · exact fun questionId place found => later.asked questionId place (kept ▸ found)
        · intro version there
          obtain ⟨message, place, found, rest⟩ := later.typed version (kept ▸ there)
          refine ⟨message, place, ?_, rest⟩
          change p.db.placeOf? version.questionId = some place
          rw [kept]
          exact found
        · exact fun command there => later.confirmed command (kept ▸ there)
        · exact later.sent
      · exact history.committed sound before received held ran next
  | refused => exact later
  | called call w isCall unlocked moved =>
      apply history.replied sound before (Or.inl isCall) moved (fun _ => rfl)
      intro outbound
      rw [ReplyWorkflow.Event.not_outbound_of_isCall isCall] at outbound
      cases outbound
  | delivered call w outbound moved =>
      apply history.replied sound before (Or.inr outbound) moved _ (fun _ => rfl)
      intro other
      exact absurd (outbound.symm.trans other) (by decide)
  | notified locked api now ended notifications left =>
      exact ⟨later.judged, later.asked, later.typed, later.confirmed, later.sent⟩
  | written db => exact ⟨later.judged, later.asked, later.typed, later.confirmed, later.sent⟩
  | retained rows now free => exact later.retained

/-- The start: nothing is queued, asked, typed, confirmed or shown, and nothing is open. -/
structure Fresh (s : Assistant) : Prop where
  replies : s.replies.Fresh
  unqueued : ∀ job, job ∉ s.db.processingJobs
  unasked : ∀ question, question ∉ s.db.detectedQuestions
  idle : ∀ iteration, iteration ∉ s.iterations
  unopened : s.listener.intake.opened.rows = []
  untold : s.attempts = []

theorem Fresh.sound (fresh : Fresh s) : Sound s where
  consistent := .of_fresh fresh.replies
  posted := ⟨fun iteration held => absurd held (fresh.replies.idleSends iteration),
    fun send held => absurd held (fresh.replies.noCommand send)⟩
  tracked := tracked_of (fun iteration held => absurd held (fresh.idle iteration))
    (fun row held => absurd held (fresh.unqueued row))

theorem Fresh.history (fresh : Fresh s) :
    History settings s [] s where
  judged job held := absurd held (fresh.unqueued job)
  asked questionId place found := by
    obtain ⟨question, stored, -⟩ := Option.map_eq_some_iff.1 found
    exact absurd (Table.mem_of_get? stored) (fresh.unasked question)
  typed version held := absurd held (fresh.replies.noVersion version)
  confirmed command held := absurd held (fresh.replies.noCommand command)
  sent shown held := absurd held (fresh.replies.noMessage shown)

theorem history_of_run (fresh : Fresh s)
    (run : Run (step settings) anyEvent s es t) :
    History settings s es t := by
  induction run with
  | nil => exact fresh.history
  | snoc before _ next ih =>
      have sound := before.invariant fresh.sound fun _ _ _ held _ moved => held.step moved
      have received := received_of_run fresh.sound fresh.unopened fresh.unqueued before
      exact ih.step sound before received next

/-- Every text that Telegram shows was sent by a worker as the answer to a message of that chat,
which the operator had confirmed after typing it for the question of that message, which an iteration
had asked after the model had called the message relevant, which the listener had let through. -/
theorem messages_sent (fresh : Fresh s)
    (run : Run (step settings) anyEvent s es t)
    {shown : ReplyWorkflow.TelegramMessage} (there : shown ∈ t.telegram) :
    ∃ message : NewJob, shown.chatId = message.telegramChatId ∧
      Sent settings s es shown.questionId shown.text message :=
  (history_of_run fresh run).sent shown there

end Runs

/-! ### One lead -/

def sampleSettings : AppSettings where
  unicode := sampleUnicode
  messageFingerprint := id
  dedupWindow := 10
  operatorUserId := 42
  temporaryTtl := 20
  relevantRetention := 50

/-- An active chat, and nothing else. -/
def sampleAssistant : Assistant where
  db :=
    { monitoredChats :=
        ⟨[⟨1, -100, "Builders", none, .supergroup, .active, none, 0, 0, none, none⟩],
          List.nodup_singleton _⟩ }
  listener := { intake := { db := {}, clock := 0 } }

/-- The request that a member of the chat posts. -/
def samplePost : TelethonMessageEvent where
  chatId := some (-100)
  message := { id := 40, peerId := -100, replyTo := none, rawText := some "need dev for api" }
  out := false
  hasAction := false
  hasSticker := false
  creates created := absurd created Bool.false_ne_true

/-- The request becomes a question, which a stranger cannot answer and the operator does. -/
def sampleLead : List ServiceEvent :=
  [.listener .load, .listener .publish, .listener (.update 1 samplePost),
    .listener (.statement (.readChat 1)), .listener (.statement (.startRegister 1)),
    .listener (.statement (.write 1)), .listener (.statement (.enqueue 1 5)),
    .listener (.statement (.commit 1)), .pipeline (.claim .stage1 "a" 1),
    .pipeline (.finish 5 (Pipeline.sampleSurroundings none)),
    .pipeline (.claim .replyChain "b" 2),
    .pipeline (.finish 5 (Pipeline.sampleSurroundings none)),
    .pipeline (.claim .classification "c" 3),
    .pipeline (.finish 5 (Pipeline.sampleSurroundings none)),
    .bot (some 42) (.openQuestion 7), .bot (some 42) (.createVersion 7 "I can help."),
    .bot (some 13) (.confirmSend 7 9 4), .bot none (.confirmSend 7 9 4),
    .bot (some 42) (.confirmSend 7 9 4), .outbound (.claimSend "d" 5),
    .outbound (.validateSend 9 (.result .active)
      (some ⟨-100, 40, none, none, none, none, none, 0, ""⟩) 5),
    .outbound (.callSend 9 (.returned 41)), .outbound (.finishSend 9 6)]

theorem sampleAssistant_fresh : sampleAssistant.Fresh where
  replies :=
    { detected := fun question held => absurd held (Table.not_mem_empty question)
      noVersion := fun version => Table.not_mem_empty version
      noCommand := fun command => Table.not_mem_empty command
      noSession := fun session held => absurd held (Table.not_mem_empty session)
      idleSends := fun iteration => Table.not_mem_empty iteration
      idleEdits := fun iteration => Table.not_mem_empty iteration
      noMessage := fun message => Table.not_mem_empty message
      noCall := rfl }
  unqueued job := Table.not_mem_empty job
  unasked question := Table.not_mem_empty question
  idle iteration := Table.not_mem_empty iteration
  unopened := rfl
  untold := rfl

/-- The answer that the chat shows has its history in the run. -/
theorem messages_sent_sample : ∃ t, ∃ message : NewJob,
    Run (step sampleSettings) anyEvent sampleAssistant sampleLead t ∧
      message.telegramChatId = -100 ∧
      Sent sampleSettings sampleAssistant sampleLead 7 "I can help." message := by
  have computed : (exec (step sampleSettings) anyEvent sampleAssistant sampleLead).map
      (fun t => t.telegram.rows) = some [⟨-100, 41, 7, "I can help."⟩] := by
    decide +kernel
  obtain ⟨t, run, rows⟩ := Run.exists_of_exec computed
  have there : ⟨-100, 41, 7, "I can help."⟩ ∈ t.telegram.rows := by
    rw [rows]
    exact List.mem_singleton_self _
  obtain ⟨message, chat, sent⟩ := messages_sent sampleAssistant_fresh run there
  exact ⟨t, message, run, chat.symm, sent⟩

end LeadAssistant.Assistant
