import UserAgentWorker.Text.Boundary
import UserAgentWorker.Text.Truncation
import UserAgentWorker.Text.Trim
import UserAgentWorker.Text.Segments
import UserAgentWorker.Text.Patterns
import UserAgentWorker.Rows.Traversal
import UserAgentWorker.Arrow.Schema
import UserAgentWorker.Arrow.Array
import UserAgentWorker.Arrow.Builders
import UserAgentWorker.Arrow.Offsets
import UserAgentWorker.Arrow.Record
import UserAgentWorker.Arrow.Rowwise
import UserAgentWorker.Arrow.Crate
import UserAgentWorker.Json.Grammar
import UserAgentWorker.Json.Reader
import UserAgentWorker.Json.Writer
import UserAgentWorker.Threads.Schedule
import UserAgentWorker.Threads.Lazy
import UserAgentWorker.Environment.Defaults
import UserAgentWorker.Model.UserAgent
import UserAgentWorker.Model.ArrowIo
import UserAgentWorker.Model.Scalar
import UserAgentWorker.Model.Fields
import UserAgentWorker.Model.Parse
import UserAgentWorker.Model.Meta
import UserAgentWorker.Model.Worker
import UserAgentWorker.Model.Process
import UserAgentWorker.Model.Offsets
import UserAgentWorker.Model.TestSupport
import UserAgentWorker.Model.PreprocessRequire
import UserAgentWorker.UserAgent.Bound
import UserAgentWorker.UserAgent.Version
import UserAgentWorker.UserAgent.Normal
import UserAgentWorker.UserAgent.Bots
import UserAgentWorker.UserAgent.Dots
import UserAgentWorker.Scalars.Reading
import UserAgentWorker.Scalars.Loops
import UserAgentWorker.Scalars.Register
import UserAgentWorker.Scalars.Agreement
import UserAgentWorker.Scalars.Batches
import UserAgentWorker.Scalars.Nulls
import UserAgentWorker.Scalars.Cap
import UserAgentWorker.Scalars.Surface
import UserAgentWorker.Scalars.Selections
import UserAgentWorker.Scalars.Unknowns
import UserAgentWorker.Metadata.Keywords
import UserAgentWorker.Worker.Naming
import UserAgentWorker.Worker.Turns
import UserAgentWorker.Worker.Calls
import UserAgentWorker.Worker.Ledger
import UserAgentWorker.Worker.Interleavings
import UserAgentWorker.Scalars.Schemas
import UserAgentWorker.Scalars.Texts
import UserAgentWorker.Worker.Streams
import UserAgentWorker.Scalars.Offsets
import UserAgentWorker.Ci.Gates
import UserAgentWorker.Ci.Rewriting
import UserAgentWorker.Ci.Meaning
