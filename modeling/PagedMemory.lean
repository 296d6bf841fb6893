import PagedMemory.Address
import PagedMemory.BumpAllocator
import PagedMemory.CallSite
import PagedMemory.CommandLine
import PagedMemory.CommandLine.Arguments
import PagedMemory.CommandLine.Help
import PagedMemory.CommandLine.Report
import PagedMemory.CommandLine.Transcript
import PagedMemory.Config
import PagedMemory.Config.Environment
import PagedMemory.Config.Json
import PagedMemory.Counters
import PagedMemory.ElementRun
import PagedMemory.Error
import PagedMemory.Event
import PagedMemory.EventLog
import PagedMemory.Inspect
import PagedMemory.Json
import PagedMemory.Json.Reader
import PagedMemory.Keystream
import PagedMemory.LayoutReport
import PagedMemory.Link
import PagedMemory.Main
import PagedMemory.MatrixTest
import PagedMemory.Memory
import PagedMemory.MemoryTest
import PagedMemory.Notice
import PagedMemory.Operation
import PagedMemory.PageKind
import PagedMemory.PageTable
import PagedMemory.Session
import PagedMemory.Session.Step
import PagedMemory.Session.Sweep
import PagedMemory.Signature
import PagedMemory.Text.Number
import PagedMemory.Text.Printable
import PagedMemory.Text.Quoted
import PagedMemory.Text.Split
import PagedMemory.Proofs.Memory.Sound
import PagedMemory.Proofs.Memory.Growth
import PagedMemory.Proofs.Memory.Contents
import PagedMemory.Proofs.Memory.Effects
import PagedMemory.Proofs.Access
import PagedMemory.Proofs.Call
import PagedMemory.Proofs.Session.Ledger
import PagedMemory.Proofs.Session.Sweep
import PagedMemory.Proofs.Session.Kept
import PagedMemory.Proofs.Session.Steps
import PagedMemory.Proofs.Session.Runs
import PagedMemory.Proofs.Address
import PagedMemory.Proofs.Session.Coherence
import PagedMemory.Proofs.Session.CachedCalls
import PagedMemory.Proofs.Session.History
import PagedMemory.Proofs.Session.Guards
import PagedMemory.Proofs.Call.Interference
import PagedMemory.Proofs.BumpAllocator
import PagedMemory.Proofs.Memory.Work
import PagedMemory.Proofs.Call.Speculation
import PagedMemory.Proofs.Session.Frame
import PagedMemory.Proofs.Session.Shadows
import PagedMemory.Proofs.Session.Grants
import PagedMemory.Proofs.Session.Threads
import PagedMemory.Proofs.Refusals
import PagedMemory.Proofs.Session.Work
import PagedMemory.Proofs.Session.Refusals
import PagedMemory.Proofs.Memory.Records
import PagedMemory.Proofs.Session.Records
import PagedMemory.Proofs.Memory.Agreement
import PagedMemory.Proofs.Call.Agreement
import PagedMemory.Proofs.Session.Agreement
import PagedMemory.Proofs.Session.Isolation
import PagedMemory.Proofs.BumpAllocator.EqualRequests
import PagedMemory.Proofs.ElementRun
import PagedMemory.Proofs.MatrixTest.Products
import PagedMemory.Proofs.MatrixTest.Layout
import PagedMemory.Proofs.MatrixTest.Refinement
import PagedMemory.Proofs.Text.Split
import PagedMemory.Proofs.Operation.Grammar
import PagedMemory.Proofs.Operation.RoundTrip
import PagedMemory.Proofs.Resolution
import PagedMemory.Proofs.Call.Support
import PagedMemory.Proofs.Session.Support
import PagedMemory.Proofs.EventLog
import PagedMemory.Proofs.Memory.Extent
import PagedMemory.Proofs.Session.Extent
import PagedMemory.Proofs.BumpAllocator.Pages
import PagedMemory.Proofs.Session.Allocators
import PagedMemory.Proofs.MatrixTest.Switches
import PagedMemory.Proofs.MatrixTest.Relinks
import PagedMemory.Proofs.Json
import PagedMemory.Proofs.Config.Json
import PagedMemory.Proofs.Event
import PagedMemory.Proofs.Config.Environment
import PagedMemory.Proofs.MemoryTest
import PagedMemory.Proofs.PageTable
import PagedMemory.Proofs.Session.PagePolicies
