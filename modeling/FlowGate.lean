import FlowGate.Config.Document
import FlowGate.Limiter.Crowd
import FlowGate.Limiter.Executor
import FlowGate.Limiter.Session
import FlowGate.Sampler.Contest
import FlowGate.Sampler.Session
import FlowGate.Snapshot.Pipeline
import FlowGate.Proofs.Limiter.Build
import FlowGate.Proofs.Limiter.Turn
import FlowGate.Proofs.Limiter.Books
import FlowGate.Proofs.Limiter.Overdraft
import FlowGate.Proofs.Limiter.Draining
import FlowGate.Proofs.Limiter.Record
import FlowGate.Proofs.Limiter.Ledger
import FlowGate.Proofs.Limiter.Quota
import FlowGate.Proofs.Sampler.Phase
import FlowGate.Proofs.Sampler.Succession
import FlowGate.Proofs.Sampler.Election
import FlowGate.Proofs.Sampler.DutyCycle
import FlowGate.Proofs.Limiter.Course
import FlowGate.Proofs.Limiter.Failing
import FlowGate.Proofs.Tier.Passage
import FlowGate.Proofs.Limiter.Alone
import FlowGate.Proofs.Limiter.Delay
import FlowGate.Proofs.Limiter.Throttling
import FlowGate.Proofs.Limiter.Apart
import FlowGate.Proofs.Limiter.Burst
import FlowGate.Proofs.Snapshot.Answers
import FlowGate.Proofs.Snapshot.Transparency
import FlowGate.Proofs.Snapshot.Repeats
import FlowGate.Proofs.Snapshot.Clones
import FlowGate.Proofs.Limiter.Tasks
import FlowGate.Proofs.Limiter.Outlook
import FlowGate.Proofs.Limiter.Release
import FlowGate.Proofs.Limiter.Moved
import FlowGate.Proofs.Limiter.Shift
import FlowGate.Proofs.Json.Grammar
import FlowGate.Proofs.Json.Numbers
import FlowGate.Proofs.Json.Strings
import FlowGate.Proofs.Json.Skipping
import FlowGate.Proofs.Json.Readers
import FlowGate.Proofs.Json.Records
import FlowGate.Proofs.Config.Documents
import FlowGate.Proofs.Limiter.FreeRun
import FlowGate.Proofs.Sampler.Polling
import FlowGate.Proofs.Tier.Statement
import FlowGate.Proofs.Tier.SingleCredit
import FlowGate.Proofs.Limiter.Settings
import FlowGate.Proofs.Limiter.Description
import FlowGate.Proofs.Limiter.Faults
import FlowGate.Proofs.Tier.Account
