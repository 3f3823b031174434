import PlatformAudit.Text.Utf8
import PlatformAudit.Text.Column
import PlatformAudit.Text.Json
import PlatformAudit.Text.Inspect
import PlatformAudit.Payload.ProtocolList
import PlatformAudit.Mailbox.Frame
import PlatformAudit.Platform.Scripted
import PlatformAudit.Files.Channel
import PlatformAudit.Mailbox.Mailbox
import PlatformAudit.Mailbox.Served
import PlatformAudit.Plan.Capability
import PlatformAudit.Plan.Context
import PlatformAudit.Plan.Descriptor
import PlatformAudit.Report.Document
import PlatformAudit.Report.Summary
import PlatformAudit.Audit.CaseRun
import PlatformAudit.Audit.PlanRun
import PlatformAudit.Plan.Behaviour
import PlatformAudit.Protocol.Base.Plan
import PlatformAudit.Protocol.Power.Plan
import PlatformAudit.Audit.Agent
import PlatformAudit.Plan.Inspect
import PlatformAudit.CommandLine.Arguments
import PlatformAudit.CommandLine.Execution
import PlatformAudit.Main
import PlatformAudit.Proofs.Audit.Verdicts
import PlatformAudit.Proofs.Audit.LateCompletion
import PlatformAudit.Proofs.Protocol.OptionalCommands
import PlatformAudit.Proofs.Audit.SelfConformance
import PlatformAudit.Proofs.Report.Counting
import PlatformAudit.Proofs.Audit.Counting
import PlatformAudit.Proofs.Word.RangeLens
import PlatformAudit.Proofs.Message.HeaderCodec
import PlatformAudit.Proofs.Mailbox.FrameReading
import PlatformAudit.Proofs.Mailbox.FrameRoundTrip
import PlatformAudit.Proofs.Files.Channel
import PlatformAudit.Proofs.Link.Requests
import PlatformAudit.Proofs.Platform.Posts
import PlatformAudit.Proofs.Platform.Queues
import PlatformAudit.Proofs.Platform.ReplySizes
import PlatformAudit.Proofs.Protocol.ProtocolMap
import PlatformAudit.Proofs.Mailbox.Agreement
import PlatformAudit.Proofs.Mailbox.Sending
import PlatformAudit.Proofs.Mailbox.Waiting
import PlatformAudit.Proofs.Audit.SkipDecisions
import PlatformAudit.Proofs.Protocol.ContainedFailures
import PlatformAudit.Proofs.Audit.Stages
import PlatformAudit.Proofs.Audit.Dispatch
import PlatformAudit.Proofs.Protocol.PowerStates
import PlatformAudit.Proofs.Protocol.ProtocolListing
import PlatformAudit.Proofs.Audit.Preconditions
import PlatformAudit.Proofs.Audit.Registration
import PlatformAudit.Proofs.Audit.Turns
import PlatformAudit.Proofs.Audit.Announcements
import PlatformAudit.Proofs.Protocol.Coverage
import PlatformAudit.Proofs.Protocol.Pagination
import PlatformAudit.Proofs.Protocol.Notifications
import PlatformAudit.Proofs.Payload.CutText
import PlatformAudit.Proofs.Plan.Evaluation
import PlatformAudit.Proofs.Audit.ProgressLog
import PlatformAudit.Proofs.Audit.CaseVerdicts
import PlatformAudit.Proofs.Session.Spelling
