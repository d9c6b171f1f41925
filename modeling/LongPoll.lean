import LongPoll.Text.Quoted
import LongPoll.Duration
import LongPoll.Json.Parser
import LongPoll.Kv
import LongPoll.Health
import LongPoll.Index
import LongPoll.Query
import LongPoll.Settings.Environment
import LongPoll.Audience.Recital
import LongPoll.Rehearsal
import LongPoll.Agent.Reply
import LongPoll.Program
import LongPoll.Main
import LongPoll.Proofs.Audience.Attendance
import LongPoll.Proofs.Cache.Stop
import LongPoll.Proofs.Cache.Publication
import LongPoll.Proofs.Cache.Worker
import LongPoll.Proofs.Cache.Endurance
import LongPoll.Proofs.Cache.Failures
import LongPoll.Proofs.Cache.Impacts
import LongPoll.Proofs.Cache.Shortcut
import LongPoll.Proofs.Cache.Pacing
import LongPoll.Proofs.Cache.Phases
import LongPoll.Proofs.Cache.Accounts
import LongPoll.Proofs.Agent.Exchanges
import LongPoll.Proofs.Agent.Subtree
import LongPoll.Proofs.Cache.Rearrangement
import LongPoll.Proofs.Cache.BaseQuery
import LongPoll.Proofs.Agent.Encodings
import LongPoll.Proofs.Agent.HealthData
import LongPoll.Proofs.Text.Percent
import LongPoll.Proofs.Url.Append
import LongPoll.Proofs.Agent.Places
import LongPoll.Proofs.Audience.Answers
import LongPoll.Proofs.Audience.Poisoning
import LongPoll.Proofs.Audience.Isolation
import LongPoll.Proofs.Cache.FirstEntries
import LongPoll.Proofs.Settings.Environment
import LongPoll.Proofs.Cache.Teardown
import LongPoll.Proofs.Json.Tolerance
import LongPoll.Proofs.Agent.Tolerance
import LongPoll.Proofs.Index
import LongPoll.Proofs.Query
import LongPoll.Proofs.Url.Trunk
import LongPoll.Proofs.Url.Reading
import LongPoll.Proofs.Agent.Addresses
