/-
Module: LeadAssistant.Workflow.LiveConfirmations
Layer: Workflow
Purpose: What a confirmation reports. `confirm_send` looks at the question's status before it reports
  an existing command, and through the coupling that status says that the command is still open.
  `confirm_edit` finds its command by the number of the preview and reports it whatever has become
  of it.
Trusted boundary: human-reviewed spec
Main exports: Live, ReportsLive, EndedEdit, confirmation_live_iff, failed_edit_reported
-/
import LeadAssistant.Workflow.Steps

namespace LeadAssistant.ReplyWorkflow

open Relational Transition OutboundCommandRepository

/-- A command that waits for its worker, is being executed, or was executed. -/
def isLive : OutboundCommandStatus → Bool
  | .pending | .processing | .succeeded => true
  | .failed | .needsReview => false

/-- The command is stored and live, with the text that was reported. -/
def Live (db : Database) (result : ConfirmedCommand) : Prop :=
  ∃ command ∈ db.outboundCommands, command.id = result.commandId ∧ command.text = result.text ∧
    isLive command.status = true

/-- If a confirmation is answered, its command is live when it has committed. -/
def ReportsLive (answer : Answer ConfirmedCommand) : Prop :=
  ∀ result, answer.1 = .ok result → Live answer.2 result

/-- The latest version of a sent question is a draft whose edit command has failed or was left for
review. -/
def EndedEdit (db : Database) (questionId : UUID) : Prop :=
  db.statusOf? questionId = some .sent ∧ ∃ preview, db.latestVersion? questionId = some preview ∧
    preview.action = .draft ∧ ∃ command,
      db.commandWithKey? ⟨questionId, .editReply, preview.versionNumber⟩ = some command ∧
      isLive command.status = false

section Answers

variable {db : Database} {questionId newId : UUID} {now : Time}

theorem ReportsLive.of_error {error : RepositoryError} : ReportsLive (.error error, db) := by
  intro result answered
  cases answered

/-- A command that was found is reported as it is. -/
theorem reportsLive_existing {command : OutboundCommand} {created : Bool}
    (held : command ∈ db.outboundCommands) :
    ReportsLive (.ok ⟨command.id, command.replyVersion, command.text, created⟩, db) ↔
      isLive command.status = true := by
  constructor
  · intro live
    rcases live _ rfl with ⟨stored, held', own, _, open_⟩
    rw [← Table.eq_of_key_eq held' held own]
    exact open_
  · intro open_ result answered
    cases answered
    exact ⟨command, held, rfl, rfl, open_⟩

/-- A command that was just created is live. -/
theorem reportsLive_inserted {command : OutboundCommand} {inserted : Database} {created : Bool}
    (insert : db.insertOutboundCommand command = some inserted)
    (open_ : isLive command.status = true) :
    ReportsLive (.ok ⟨command.id, command.replyVersion, command.text, created⟩, inserted) :=
  (reportsLive_existing (((Database.insertOutboundCommand_spec insert).2.2.2 command).2
    (Or.inr rfl))).2 open_

theorem ReportsLive.congr {db' : Database} {answer : Except RepositoryError ConfirmedCommand}
    (commands : db'.outboundCommands = db.outboundCommands) (live : ReportsLive (answer, db)) :
    ReportsLive (answer, db') := by
  intro result answered
  rcases live result answered with ⟨command, held, facts⟩
  exact ⟨command, commands ▸ held, facts⟩

/-- The status of the question says that a send that is reported is open. -/
theorem confirmSend_live (coupled : Coupled db) :
    ReportsLive (confirmSend questionId newId now db) := by
  unfold confirmSend
  split
  · exact .of_error
  · rename_i question found
    obtain ⟨rfl, found⟩ := found_of_get? found
    split
    · rename_i existing listed
      split
      · exact .of_error
      · rename_i requested
        simp only [ne_eq, not_not] at requested
        have held : existing ∈ db.outboundCommands :=
          Table.mem_rows.1 (List.mem_of_find?_eq_some listed)
        have own := List.find?_some listed
        simp only [Bool.and_eq_true, decide_eq_true_eq] at own
        have status := coupled.sendStatus existing held own.2
        rw [own.1, Database.statusOf?_of_found found, requested, Option.some.injEq] at status
        refine (reportsLive_existing held).2 ?_
        cases ended : existing.status <;> rw [ended] at status <;> first | rfl | cases status
    · split
      · exact .of_error
      · split
        · exact .of_error
        · split
          · exact .of_error
          · dsimp only
            split
            · exact .of_error
            · split
              · exact .of_error
              · rename_i inserted insert
                exact (reportsLive_inserted insert rfl).congr (setQuestionStatus_commands ..)

/-- What has ended is read off the command of the draft, if there is a draft. -/
theorem endedEdit_iff {preview : ReplyVersion} (sent : db.statusOf? questionId = some .sent)
    (top : db.latestVersion? questionId = some preview) :
    EndedEdit db questionId ↔ preview.action = .draft ∧ ∃ command,
      db.commandWithKey? ⟨questionId, .editReply, preview.versionNumber⟩ = some command ∧
      isLive command.status = false := by
  unfold EndedEdit
  rw [top]
  simp [sent]

/-- An edit is reported live unless its command has ended. -/
theorem confirmEdit_live_iff :
    ReportsLive (confirmEdit questionId newId now db) ↔ ¬ EndedEdit db questionId := by
  unfold confirmEdit
  split
  · rename_i missing
    refine iff_of_true .of_error (fun ended => ?_)
    have status := ended.1
    unfold Database.statusOf? at status
    rw [missing] at status
    cases status
  · rename_i question found
    obtain ⟨rfl, found⟩ := found_of_get? found
    split
    · rename_i unsent
      refine iff_of_true .of_error (fun ended => unsent ?_)
      rw [EndedEdit, Database.statusOf?_of_found found] at ended
      exact Option.some.inj ended.1
    · rename_i sent
      simp only [ne_eq, not_not] at sent
      have status : db.statusOf? question.id = some .sent := by
        rw [Database.statusOf?_of_found found, sent]
      split
      · rename_i none
        refine iff_of_true .of_error ?_
        rintro ⟨_, preview, top, _⟩
        cases none.symm.trans top
      · rename_i preview top
        rw [endedEdit_iff status top]
        split
        · rename_i published
          exact iff_of_true .of_error (fun ended => published ended.1)
        · rename_i isDraft
          simp only [ne_eq, not_not] at isDraft
          split
          · rename_i existing listed
            have held : existing ∈ db.outboundCommands :=
              Table.mem_rows.1 (List.mem_of_find?_eq_some listed)
            rw [reportsLive_existing held, ← Bool.not_eq_false, not_iff_not]
            constructor
            · exact fun ended => ⟨isDraft, existing, listed, ended⟩
            · rintro ⟨_, command, listed', ended⟩
              cases listed.symm.trans listed'
              exact ended
          · rename_i unlisted
            refine iff_of_true ?created ?alive
            case alive =>
              rintro ⟨_, command, listed, _⟩
              cases unlisted.symm.trans listed
            case created =>
              split
              · exact .of_error
              · dsimp only
                split
                · exact .of_error
                · rename_i inserted insert
                  exact reportsLive_inserted insert rfl

end Answers

/-- In every reachable world a confirmed send is live, and a confirmed edit is live exactly unless
the command of its preview has ended before. -/
theorem confirmation_live_iff {w v : World} {es : List Event} (fresh : w.Fresh)
    (run : Run step anyEvent w es v) (questionId newId : UUID) (now : Time) :
    ReportsLive (confirmSend questionId newId now v.db) ∧
      (ReportsLive (confirmEdit questionId newId now v.db) ↔ ¬ EndedEdit v.db questionId) :=
  ⟨confirmSend_live (consistent_of_run fresh run).coupled, confirmEdit_live_iff⟩

/-- A sent question whose edit was confirmed. -/
def sampleConfirmed : List Event :=
  sampleDraft ++ sampleCall ++ [.finishSend 20 0, .prepareEdit 7 "With make.", .confirmEdit 7 21 1]

/-- A repeated click while the edit waits for its worker. -/
theorem confirmation_live_iff_sample : ∃ v : World,
    (confirmEdit 7 22 2 v.db).1.toOption = some ⟨21, 4, "With make.", false⟩ ∧
      ReportsLive (confirmEdit 7 22 2 v.db) := by
  have computed : (exec step anyEvent sampleWorld sampleConfirmed).map (fun v =>
      ((confirmEdit 7 22 2 v.db).1.toOption,
        (v.db.latestVersion? 7).map (fun preview => preview.versionNumber),
        (v.db.commandWithKey? ⟨7, .editReply, 3⟩).map (fun command => command.status))) =
      some (some ⟨21, 4, "With make.", false⟩, some 3, some .pending) := by decide +kernel
  rcases Run.exists_of_exec computed with ⟨v, run, value⟩
  simp only [Prod.mk.injEq] at value
  rcases value with ⟨answered, number, pending⟩
  refine ⟨v, answered, (confirmation_live_iff sampleWorld_fresh run 7 22 2).2.2 ?_⟩
  rintro ⟨_, preview, top, _, command, listed, ended⟩
  rw [top, Option.map_some, Option.some.injEq] at number
  rw [number] at listed
  rw [listed, Option.map_some, Option.some.injEq] at pending
  rw [pending] at ended
  cases ended

/-- Once Telegram has refused the edit for good, the confirmation reports the failed command. -/
theorem failed_edit_reported : sampleWorld.Fresh ∧ ∃ v : World,
    Run step anyEvent sampleWorld (sampleConfirmed ++ [.claimEdit "listener" 1,
      .callEdit 21 (.refused .chatWriteForbidden false none), .finishEdit 21 1]) v ∧
      (confirmEdit 7 22 2 v.db).1.toOption = some ⟨21, 4, "With make.", false⟩ ∧
      ¬ ReportsLive (confirmEdit 7 22 2 v.db) := by
  have computed : (exec step anyEvent sampleWorld (sampleConfirmed ++ [.claimEdit "listener" 1,
      .callEdit 21 (.refused .chatWriteForbidden false none), .finishEdit 21 1])).map (fun v =>
        (((confirmEdit 7 22 2 v.db).1.toOption, v.db.statusOf? 7), (v.db.latestVersion? 7).map
          (fun preview => (preview.versionNumber, preview.action)),
        (v.db.commandWithKey? ⟨7, .editReply, 3⟩).map (fun command => command.status))) =
      some ((some ⟨21, 4, "With make.", false⟩, some .sent), some (3, .draft), some .failed) := by
    decide +kernel
  rcases Run.exists_of_exec computed with ⟨v, run, value⟩
  simp only [Prod.mk.injEq] at value
  rcases value with ⟨⟨answered, sent⟩, latest, failed⟩
  refine ⟨sampleWorld_fresh, v, run, answered, fun live => ?_⟩
  rcases Option.map_eq_some_iff.1 latest with ⟨preview, top, numbered⟩
  rcases Option.map_eq_some_iff.1 failed with ⟨command, listed, status⟩
  injection numbered with number isDraft
  refine confirmEdit_live_iff.1 live ⟨sent, preview, top, isDraft, command, number ▸ listed, ?_⟩
  rw [status]
  rfl

end LeadAssistant.ReplyWorkflow
