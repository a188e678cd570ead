import LeadAssistant.Library.Transition
import LeadAssistant.Library.Table
import LeadAssistant.Library.Json
import LeadAssistant.Domain.Enums
import LeadAssistant.Database.Models
import LeadAssistant.Repositories.ReplyDrafts
import LeadAssistant.Repositories.OutboundCommands
import LeadAssistant.Listener.ReplyChain
import LeadAssistant.Listener.Outbound
import LeadAssistant.Workflow.ReplyWorkflow
import LeadAssistant.Workflow.Changes
import LeadAssistant.Repositories.Views
import LeadAssistant.Workflow.Coupling
import LeadAssistant.Workflow.Steps
import LeadAssistant.Repositories.OutboundFailures
import LeadAssistant.Workflow.PoisonSend
import LeadAssistant.Listener.TelethonClient
import LeadAssistant.Workflow.FloodWait
import LeadAssistant.Workflow.AtMostOnce
import LeadAssistant.Workflow.Versions
import LeadAssistant.Workflow.EditHistory
import LeadAssistant.Workflow.VersionLog
import LeadAssistant.Repositories.OperatorSessions
import LeadAssistant.Bot.Replies
import LeadAssistant.Bot.ActiveDraft
import LeadAssistant.Bot.ReplyDesk
import LeadAssistant.Bot.RefusedOpen
import LeadAssistant.Repositories.Jobs
import LeadAssistant.Library.SlidingWindow
import LeadAssistant.Repositories.Retention
import LeadAssistant.Repositories.MonitoredChats
import LeadAssistant.Listener.AccessEvidence
import LeadAssistant.Listener.AccessLoss
import LeadAssistant.Listener.Deduplication
import LeadAssistant.Listener.Ingestion
import LeadAssistant.Listener.Admission
import LeadAssistant.Repositories.TranslationLanguages
import LeadAssistant.Translation.Jobs
import LeadAssistant.Translation.FailedJobs
import LeadAssistant.Translation.RequiredLanguages
import LeadAssistant.Listener.ReplyChainSnapshot
import LeadAssistant.Classifier.Usage
import LeadAssistant.Library.Fallible
import LeadAssistant.Library.Aggregate
import LeadAssistant.Classifier.UsageLedger
import LeadAssistant.Classifier.Stages
import LeadAssistant.Library.Lines
import LeadAssistant.Classifier.Stage2Input
import LeadAssistant.Classifier.Relevant
import LeadAssistant.Database.Worker
import LeadAssistant.Pipeline.Pipeline
import LeadAssistant.Pipeline.Outcomes
import LeadAssistant.Library.Walk
import LeadAssistant.Listener.ReplyWalk
import LeadAssistant.Listener.LoadedChain
import LeadAssistant.Pipeline.Handoff
import LeadAssistant.Pipeline.Moves
import LeadAssistant.Pipeline.Bounded
import LeadAssistant.Pipeline.Lifecycle
import LeadAssistant.Pipeline.Leads
import LeadAssistant.Pipeline.StoredDecision
import LeadAssistant.Library.Log
import LeadAssistant.Pipeline.Accounting
import LeadAssistant.Library.Calendar
import LeadAssistant.Bot.Status
import LeadAssistant.Library.Decimal
import LeadAssistant.Library.Episodes
import LeadAssistant.Repositories.OperationalAlerts
import LeadAssistant.Maintenance.AlertEpisodes
import LeadAssistant.Maintenance.RetentionAge
import LeadAssistant.Library.Masking
import LeadAssistant.Library.Dict
import LeadAssistant.Logging.JsonFormatter
import LeadAssistant.Logging.SecretFree
import LeadAssistant.Logging.TwoRuns
import LeadAssistant.Library.Packing
import LeadAssistant.Library.Markup
import LeadAssistant.Bot.Notifications
import LeadAssistant.Bot.RenderedNotifications
import LeadAssistant.Repositories.BotNotifications
import LeadAssistant.Bot.Delivery
import LeadAssistant.Bot.DeliveredOnce
import LeadAssistant.Library.Recency
import LeadAssistant.Listener.TopicTitleCache
import LeadAssistant.Listener.TopicTitles
import LeadAssistant.Bot.MessageLinks
import LeadAssistant.Listener.ChatTypes
import LeadAssistant.Listener.ForumPosts
import LeadAssistant.Workflow.LiveConfirmations
import LeadAssistant.Bot.Previews
import LeadAssistant.Library.Words
import LeadAssistant.Listener.Fingerprint
import LeadAssistant.Listener.IgnoredNoise
import LeadAssistant.Library.Pattern
import LeadAssistant.Library.Runs
import LeadAssistant.Listener.StemTerms
import LeadAssistant.Listener.Prefilter
import LeadAssistant.Listener.IngestionHandler
import LeadAssistant.Listener.IntakeLedger
import LeadAssistant.Listener.Lifecycle
import LeadAssistant.Library.Outbox
import LeadAssistant.Bot.OperationalAlerts
import LeadAssistant.Library.Emissions
import LeadAssistant.Pipeline.Fairness
import LeadAssistant.Library.Drain
import LeadAssistant.Maintenance.RetentionDrain
import LeadAssistant.System.Services
import LeadAssistant.System.Departures
import LeadAssistant.System.Effects
import LeadAssistant.System.NoticeEffects
import LeadAssistant.System.ReplyEffects
import LeadAssistant.System.Invariants
import LeadAssistant.System.Provenance
import LeadAssistant.Rollout.Shadow
import LeadAssistant.System.Notices
import LeadAssistant.System.CommandEffects
import LeadAssistant.System.ShadowWindow
