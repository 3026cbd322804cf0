import Concordance.CommandLine.Arguments
import Concordance.CommandLine.Flags
import Concordance.CommandLine.Run
import Concordance.Config
import Concordance.Crawl.Frontier
import Concordance.Crawl.Link
import Concordance.Crawl.Visit
import Concordance.Failure
import Concordance.Files.Building
import Concordance.Files.Discovery
import Concordance.Files.Indexing
import Concordance.Files.Path
import Concordance.Files.Tree
import Concordance.Index.Basic
import Concordance.Index.Documents
import Concordance.Index.Format
import Concordance.Index.Lookup
import Concordance.Index.Search
import Concordance.Index.Shared
import Concordance.Json.Number
import Concordance.Json.Printer
import Concordance.Json.Quoted
import Concordance.Json.Reader
import Concordance.Json.Token
import Concordance.Json.Value
import Concordance.Main
import Concordance.Markup.Anchor
import Concordance.Markup.Block
import Concordance.Markup.Comment
import Concordance.Markup.Entity
import Concordance.Markup.Page
import Concordance.Markup.Span
import Concordance.Markup.Tag
import Concordance.Number.Binary64
import Concordance.Number.Numeral
import Concordance.Number.Reading
import Concordance.Number.Shortest
import Concordance.Pool.Basic
import Concordance.Pool.Errand
import Concordance.Pool.Job
import Concordance.Pool.Schedule
import Concordance.Pool.Step
import Concordance.Proofs.CommandLine.Calls
import Concordance.Proofs.CommandLine.Steps
import Concordance.Proofs.CommandLine.Workers
import Concordance.Proofs.Crawl.Balance
import Concordance.Proofs.Crawl.Breadth
import Concordance.Proofs.Crawl.Completeness
import Concordance.Proofs.Crawl.Course
import Concordance.Proofs.Crawl.Coverage
import Concordance.Proofs.Crawl.Jobs
import Concordance.Proofs.Crawl.Links
import Concordance.Proofs.Crawl.Phases
import Concordance.Proofs.Crawl.Reachability
import Concordance.Proofs.Crawl.Safety
import Concordance.Proofs.Crawl.Stages
import Concordance.Proofs.Crawl.Traversal
import Concordance.Proofs.Files.Discovery
import Concordance.Proofs.Files.Indexing
import Concordance.Proofs.Files.Links
import Concordance.Proofs.Files.Reading
import Concordance.Proofs.Files.Walks
import Concordance.Proofs.Index.Consistency
import Concordance.Proofs.Index.Files
import Concordance.Proofs.Index.Membership
import Concordance.Proofs.Index.Merging
import Concordance.Proofs.Index.Runs
import Concordance.Proofs.Index.Snapshots
import Concordance.Proofs.Json.Literals
import Concordance.Proofs.Json.RoundTrip
import Concordance.Proofs.Json.Tokens
import Concordance.Proofs.Markup.Anchors
import Concordance.Proofs.Markup.Elements
import Concordance.Proofs.Markup.Pages
import Concordance.Proofs.Markup.Pieces
import Concordance.Proofs.Markup.References
import Concordance.Proofs.Markup.Remains
import Concordance.Proofs.Markup.Spans
import Concordance.Proofs.Markup.Tags
import Concordance.Proofs.Number.Numerals
import Concordance.Proofs.Number.TotalOrder
import Concordance.Proofs.Pool.Alertness
import Concordance.Proofs.Pool.Batch
import Concordance.Proofs.Pool.Changes
import Concordance.Proofs.Pool.Closing
import Concordance.Proofs.Pool.Commits
import Concordance.Proofs.Pool.Deserted
import Concordance.Proofs.Pool.Execution
import Concordance.Proofs.Pool.Gathering
import Concordance.Proofs.Pool.Growth
import Concordance.Proofs.Pool.History
import Concordance.Proofs.Pool.Idleness
import Concordance.Proofs.Pool.Joining
import Concordance.Proofs.Pool.Moves
import Concordance.Proofs.Pool.Ownership
import Concordance.Proofs.Pool.Pending
import Concordance.Proofs.Pool.Progress
import Concordance.Proofs.Pool.Return
import Concordance.Proofs.Pool.Settling
import Concordance.Proofs.Pool.Shares
import Concordance.Proofs.Pool.Threads
import Concordance.Proofs.Pool.Wakeup
import Concordance.Proofs.Query.Cells
import Concordance.Proofs.Query.Executing
import Concordance.Proofs.Query.Files
import Concordance.Proofs.Query.Keys
import Concordance.Proofs.Query.Memoization
import Concordance.Proofs.Query.Retrieval
import Concordance.Proofs.Query.Sharing
import Concordance.Proofs.Query.Spelling
import Concordance.Proofs.Query.Transparency
import Concordance.Proofs.Search.Answers
import Concordance.Proofs.Search.Bounds
import Concordance.Proofs.Search.Matching
import Concordance.Proofs.Search.Merging
import Concordance.Proofs.Search.Precedence
import Concordance.Proofs.Search.Prefixes
import Concordance.Proofs.Search.Ranking
import Concordance.Proofs.Search.Scanning
import Concordance.Proofs.Text.Bytes
import Concordance.Proofs.Text.Capitals
import Concordance.Proofs.Text.Chunks
import Concordance.Proofs.Text.Insertions
import Concordance.Proofs.Text.Marks
import Concordance.Proofs.Text.Stems
import Concordance.Proofs.Text.Terms
import Concordance.Query.Canonical
import Concordance.Query.Engine
import Concordance.Query.Job
import Concordance.Query.Lines
import Concordance.Search.Format
import Concordance.Search.Ranking
import Concordance.Search.Result
import Concordance.Stem.English
import Concordance.Stem.Letters
import Concordance.Stem.Regions
import Concordance.Stem.Suffix
import Concordance.Text.Alphabetic
import Concordance.Text.Case.Context
import Concordance.Text.Case.Lowercase
import Concordance.Text.CharacterSet
import Concordance.Text.Mark
import Concordance.Text.Normal.CombiningClass
import Concordance.Text.Normal.Composition
import Concordance.Text.Normal.Decomposition
import Concordance.Text.Normal.Form
import Concordance.Text.Terms
import Concordance.Text.WhiteSpace
import Concordance.Text.Words
import Concordance.Url.Address
import Concordance.Url.Authority
import Concordance.Url.Basic
import Concordance.Url.Domain.Direction
import Concordance.Url.Domain.Joining
import Concordance.Url.Domain.Label
import Concordance.Url.Domain.Multiple
import Concordance.Url.Domain.Name
import Concordance.Url.Domain.Punycode
import Concordance.Url.Domain.Single
import Concordance.Url.Domain.Validity
import Concordance.Url.Host
import Concordance.Url.Parser
import Concordance.Url.Path
import Concordance.Url.Percent
import Concordance.Url.Scheme
