import EventFlow.Json.Ascii
import EventFlow.Record.Error
import EventFlow.Record.Execution
import EventFlow.Record.Outcome
import EventFlow.Record.Queue
import EventFlow.Record.Settings
import EventFlow.Settings.Environment
import EventFlow.Simulation.Label
import EventFlow.Simulation.Record
import EventFlow.Simulation.Schedule
import EventFlow.Proofs.Contract
import EventFlow.Proofs.Bag
import EventFlow.Proofs.Store.Change
import EventFlow.Proofs.Shared
import EventFlow.Proofs.Engine.Walk
import EventFlow.Proofs.Engine.Execution
import EventFlow.Proofs.Engine.Alone
import EventFlow.Proofs.Engine.Questions
import EventFlow.Proofs.Queue.Phase
import EventFlow.Proofs.Queue.System
import EventFlow.Proofs.Queue.Claiming
import EventFlow.Proofs.Queue.Attempts
import EventFlow.Proofs.Queue.Agreement
import EventFlow.Proofs.Queue.Table
import EventFlow.Proofs.Notes
import EventFlow.Proofs.Engine.Node
import EventFlow.Proofs.Engine.Tour
import EventFlow.Proofs.Engine.Course
import EventFlow.Proofs.Engine.Log
import EventFlow.Proofs.Engine.Replay
import EventFlow.Proofs.Engine.Enumeration
import EventFlow.Proofs.Engine.Rival
import EventFlow.Proofs.Engine.Contention
import EventFlow.Proofs.Store.Listing
import EventFlow.Proofs.Store.Newest
import EventFlow.Proofs.Timed
import EventFlow.Proofs.RateLimit.Check
import EventFlow.Proofs.RateLimit.Verdict
import EventFlow.Proofs.Engine.Creation
import EventFlow.Proofs.RateLimit.Reset
import EventFlow.Proofs.RateLimit.Admission
import EventFlow.Proofs.RateLimit.Backlog
import EventFlow.Proofs.Engine.Metadata
import EventFlow.Proofs.Engine.Replies
import EventFlow.Proofs.Engine.Forecast
import EventFlow.Proofs.Engine.Repetition
import EventFlow.Proofs.Queue.Processing
import EventFlow.Proofs.Queue.Delivery
import EventFlow.Proofs.Engine.Pruning
import EventFlow.Proofs.Graph.Cycles
import EventFlow.Proofs.Engine.Cycles
import EventFlow.Proofs.Engine.Roots
import EventFlow.Proofs.Engine.Scoping
import EventFlow.Proofs.Queue.Faltering
import EventFlow.Proofs.Dispatch.Resolution
import EventFlow.Proofs.Dispatch.Effect
import EventFlow.Proofs.Dispatch.Selection
import EventFlow.Proofs.Dispatch.Polling
import EventFlow.Proofs.Store.Chronicle
import EventFlow.Proofs.Others
import EventFlow.Proofs.Poll.Visits
import EventFlow.Proofs.Poll.Around
import EventFlow.Proofs.Poll.Row
import EventFlow.Proofs.Poll.Edits
import EventFlow.Proofs.Poll.Spacing
import EventFlow.Proofs.Undisturbed
import EventFlow.Proofs.Queue.Outcome
import EventFlow.Proofs.Poll.Trigger
import EventFlow.Proofs.Poll.Account
import EventFlow.Proofs.Poll.Coverage
import EventFlow.Proofs.Poll.Conservation
import EventFlow.Proofs.Poll.Breakdown
import EventFlow.Proofs.Seed.Storing
import EventFlow.Proofs.Seed.Atomicity
import EventFlow.Proofs.Seed.Loading
import EventFlow.Proofs.Template.Substitution
import EventFlow.Proofs.Json.Ordered
import EventFlow.Proofs.Record.Fields
import EventFlow.Proofs.Record.Spelling
import EventFlow.Proofs.Engine.Losing
import EventFlow.Proofs.Engine.BestEffort
import EventFlow.Proofs.Queue.Muster
import EventFlow.Proofs.Queue.Crew
import EventFlow.Proofs.Queue.Gathering
import EventFlow.Proofs.Queue.Quiescence
import EventFlow.Proofs.Param.Validation
import EventFlow.Proofs.Graph.Additions
import EventFlow.Proofs.Retry.Delays
import EventFlow.Proofs.Text.Decimal
import EventFlow.Proofs.Json.Navigation
import EventFlow.Proofs.Template.Rendering
import EventFlow.Proofs.Id.Reading
import EventFlow.Proofs.Ingredient.Extraction
import EventFlow.Proofs.Queue.Waiting
