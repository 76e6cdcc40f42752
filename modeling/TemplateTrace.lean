import TemplateTrace.Main
import TemplateTrace.Proofs.Except
import TemplateTrace.Proofs.Json.Compact
import TemplateTrace.Proofs.Marker.RoundTrip
import TemplateTrace.Proofs.Text.Lines
import TemplateTrace.Proofs.Text.Trimming
import TemplateTrace.Proofs.Check.BackMapping
import TemplateTrace.Proofs.Check.Report
import TemplateTrace.Proofs.Code.Snippet
import TemplateTrace.Proofs.Code.Feeding
import TemplateTrace.Proofs.Include.Layout
import TemplateTrace.Proofs.Code.Resume
import TemplateTrace.Proofs.Code.Rest
import TemplateTrace.Proofs.Code.Region
import TemplateTrace.Proofs.Include.Site
import TemplateTrace.Proofs.Include.Attribution
import TemplateTrace.Proofs.Include.Provenance
import TemplateTrace.Proofs.Include.Evaluation
import TemplateTrace.Proofs.Include.Starts
import TemplateTrace.Proofs.Include.Spliced
import TemplateTrace.Proofs.Include.Completeness
import TemplateTrace.Proofs.Include.Opening
import TemplateTrace.Proofs.Include.Guard
import TemplateTrace.Proofs.Include.Data
import TemplateTrace.Proofs.Include.Termination
import TemplateTrace.Proofs.Include.Scoping
import TemplateTrace.Proofs.Files.Instant
import TemplateTrace.Proofs.Files.Way
import TemplateTrace.Proofs.Files.Locate
import TemplateTrace.Proofs.Files.Change
import TemplateTrace.Proofs.Files.Directory
import TemplateTrace.Proofs.Files.Finder
import TemplateTrace.Proofs.Analysis.Dependencies
import TemplateTrace.Proofs.Analysis.Ledger
import TemplateTrace.Proofs.Include.Agreement
import TemplateTrace.Proofs.Files.Scratch
import TemplateTrace.Proofs.Analysis.Writes
import TemplateTrace.Proofs.Analysis.Batch
import TemplateTrace.Proofs.Analysis.Staleness
import TemplateTrace.Proofs.Code.Balanced
import TemplateTrace.Proofs.Marker.Tags
import TemplateTrace.Proofs.Include.Writing
import TemplateTrace.Proofs.Include.Tagged
import TemplateTrace.Proofs.Code.Events
import TemplateTrace.Proofs.Check.Rows
import TemplateTrace.Proofs.Code.Loops
import TemplateTrace.Proofs.Code.Steps
import TemplateTrace.Proofs.Code.Assigned
import TemplateTrace.Proofs.Check.Names
import TemplateTrace.Proofs.Check.Merge
import TemplateTrace.Proofs.Files.Contexts
import TemplateTrace.Proofs.Code.Scan
import TemplateTrace.Proofs.Include.Lists
import TemplateTrace.Proofs.Code.Literals
import TemplateTrace.Proofs.Json.Joined
import TemplateTrace.Proofs.Analysis.Unended
import TemplateTrace.Proofs.Code.Unwrapped
import TemplateTrace.Proofs.Include.Search
import TemplateTrace.Proofs.Include.Frames
import TemplateTrace.Proofs.Include.Depth
import TemplateTrace.Proofs.Text.Offsets
import TemplateTrace.Proofs.Code.Edits
import TemplateTrace.Proofs.Code.LoopEdits
import TemplateTrace.Proofs.Code.Slices
import TemplateTrace.Proofs.Include.Edits
