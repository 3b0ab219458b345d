import GuestSandbox.Console
import GuestSandbox.Digest
import GuestSandbox.Envelope
import GuestSandbox.Failure
import GuestSandbox.Fetch.Accounted
import GuestSandbox.Fetch.Exchange
import GuestSandbox.Fetch.Message
import GuestSandbox.Fetch.Options
import GuestSandbox.Fetch.Prepared
import GuestSandbox.Fixture.Routes
import GuestSandbox.Fixture.Scripted
import GuestSandbox.Gate
import GuestSandbox.HostCall
import GuestSandbox.Journal
import GuestSandbox.Json.Fault
import GuestSandbox.Json.Lexeme
import GuestSandbox.Json.Parser
import GuestSandbox.Json.Record
import GuestSandbox.Json.Typed
import GuestSandbox.Json.Value
import GuestSandbox.Module.Imports
import GuestSandbox.Module.Library
import GuestSandbox.Module.Loading
import GuestSandbox.Module.Specifier
import GuestSandbox.Number.Binary64
import GuestSandbox.Number.Figure
import GuestSandbox.Number.Shortest
import GuestSandbox.Operation
import GuestSandbox.Package.Host
import GuestSandbox.Package.Installing
import GuestSandbox.Package.Inventory
import GuestSandbox.Package.Place
import GuestSandbox.Package.Record
import GuestSandbox.Package.Spec
import GuestSandbox.Policy
import GuestSandbox.Report
import GuestSandbox.Run.Ending
import GuestSandbox.Run.Engine
import GuestSandbox.Run.EngineCall
import GuestSandbox.Run.Execution
import GuestSandbox.Run.Guest
import GuestSandbox.Run.Overview
import GuestSandbox.Run.Result
import GuestSandbox.Run.Sandbox
import GuestSandbox.Run.State
import GuestSandbox.Settings
import GuestSandbox.Tally
import GuestSandbox.Text.Blank
import GuestSandbox.Text.CodeRanges
import GuestSandbox.Text.Composition
import GuestSandbox.Text.CompositionTable
import GuestSandbox.Text.HiddenTable
import GuestSandbox.Text.Lowercase
import GuestSandbox.Text.LowercaseTable
import GuestSandbox.Text.Quoted
import GuestSandbox.Text.Start
import GuestSandbox.Text.Utf8
import GuestSandbox.Text.Word
import GuestSandbox.Text.WordTable
import GuestSandbox.Url.Address
import GuestSandbox.Url.Domain
import GuestSandbox.Url.Host
import GuestSandbox.Url.LabelTable
import GuestSandbox.Url.NameTable
import GuestSandbox.Url.Parser
import GuestSandbox.Url.Path
import GuestSandbox.Url.Percent
import GuestSandbox.Url.Punycode
import GuestSandbox.Url.Value
import GuestSandbox.Proofs.Steps
import GuestSandbox.Proofs.Url.Authority
import GuestSandbox.Proofs.Module.Confinement
import GuestSandbox.Proofs.Gate.Answer
import GuestSandbox.Proofs.Gate.History
import GuestSandbox.Proofs.Traffic
import GuestSandbox.Proofs.Package.Obtaining
import GuestSandbox.Proofs.Run.Happenings
import GuestSandbox.Proofs.Delivery
import GuestSandbox.Proofs.Run.Rounds
import GuestSandbox.Proofs.Run.Settlement
import GuestSandbox.Proofs.Package.Growth
import GuestSandbox.Proofs.Run.Lockstep
import GuestSandbox.Proofs.Module.Gathering
import GuestSandbox.Proofs.Module.Gaps
import GuestSandbox.Proofs.Run.FailedInstall
import GuestSandbox.Proofs.Fetch.Outcome
import GuestSandbox.Proofs.Fetch.Balance
import GuestSandbox.Proofs.Fetch.Overshoot
import GuestSandbox.Proofs.Run.Phases
import GuestSandbox.Proofs.Run.Lifecycle
import GuestSandbox.Proofs.Run.Provision
import GuestSandbox.Proofs.Text.Trimming
import GuestSandbox.Proofs.Run.Importable
import GuestSandbox.Proofs.Run.Preload
import GuestSandbox.Proofs.Text.ByteOrder
import GuestSandbox.Proofs.Json.Fields
import GuestSandbox.Proofs.Package.Dictionary
import GuestSandbox.Proofs.Package.Hits
import GuestSandbox.Proofs.Module.Budget
import GuestSandbox.Proofs.Wording
import GuestSandbox.Proofs.Run.Uncaught
import GuestSandbox.Proofs.Number.Whole
import GuestSandbox.Proofs.Policy.Forms
import GuestSandbox.Proofs.Report
import GuestSandbox.Proofs.Run.Endings
import GuestSandbox.Proofs.Run.Result
import GuestSandbox.Proofs.Run.Permission
import GuestSandbox.Proofs.Run.Inert
import GuestSandbox.Proofs.Run.Offline
import GuestSandbox.Proofs.Module.Termination
import GuestSandbox.Proofs.Deadline
import GuestSandbox.Proofs.Run.Deadline
import GuestSandbox.Proofs.Package.Finding
import GuestSandbox.Proofs.Package.Provenance
import GuestSandbox.Proofs.Preview
import GuestSandbox.Proofs.Module.Scanning
import GuestSandbox.Proofs.Url.Parts
import GuestSandbox.Proofs.Url.Encoded
import GuestSandbox.Proofs.Url.Domain
import GuestSandbox.Proofs.Url.HostText
import GuestSandbox.Proofs.Url.Segments
import GuestSandbox.Proofs.Url.Canonical
import GuestSandbox.Proofs.Url.Reread
import GuestSandbox.Proofs.Module.Naming
import GuestSandbox.Proofs.Package.Following
import GuestSandbox.Proofs.Recognition
import GuestSandbox.Proofs.Fetch.Headers
import GuestSandbox.Proofs.Text.LetterCase
import GuestSandbox.Proofs.Package.Searching
import GuestSandbox.Proofs.Number.Rounding
import GuestSandbox.Proofs.Number.Numeral
import GuestSandbox.Proofs.Policy.Options
