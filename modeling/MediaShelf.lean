import MediaShelf.Cli.Arguments
import MediaShelf.Cli.Report
import MediaShelf.Cli.Run
import MediaShelf.Config.Basic
import MediaShelf.Config.Error
import MediaShelf.Config.MediaDirectory
import MediaShelf.FileTree.Basic
import MediaShelf.FileTree.Change
import MediaShelf.FileTree.Disk
import MediaShelf.Html.CharacterName
import MediaShelf.Html.PlainText
import MediaShelf.Json.Basic
import MediaShelf.Json.Decode
import MediaShelf.Json.Float
import MediaShelf.Json.Reader
import MediaShelf.Json.Writer
import MediaShelf.Main
import MediaShelf.Organize.Basic
import MediaShelf.Organize.Identify
import MediaShelf.Organize.Outcome
import MediaShelf.Organize.Scan
import MediaShelf.Organize.VideoSignature
import MediaShelf.Path.Basic
import MediaShelf.Path.FileName
import MediaShelf.Pattern.Basic
import MediaShelf.Pattern.Compile
import MediaShelf.Pattern.Decoration
import MediaShelf.Pattern.Heuristic
import MediaShelf.Pattern.Matcher
import MediaShelf.Pattern.Render
import MediaShelf.Pattern.Segment
import MediaShelf.Proofs.Config.MediaDirFor
import MediaShelf.Proofs.Config.StripTokens
import MediaShelf.Proofs.Config.TimeToLive
import MediaShelf.Proofs.Effects
import MediaShelf.Proofs.FileTree.Canonical
import MediaShelf.Proofs.FileTree.Change
import MediaShelf.Proofs.FileTree.Empty
import MediaShelf.Proofs.FileTree.Entries
import MediaShelf.Proofs.FileTree.Folder
import MediaShelf.Proofs.FileTree.Listing
import MediaShelf.Proofs.FileTree.Locate
import MediaShelf.Proofs.FileTree.Loss
import MediaShelf.Proofs.FileTree.Walk
import MediaShelf.Proofs.Json.RoundTrip
import MediaShelf.Proofs.Json.Truncated
import MediaShelf.Proofs.Lookup
import MediaShelf.Proofs.Organize.Episodes
import MediaShelf.Proofs.Organize.Independence
import MediaShelf.Proofs.Organize.Mirror
import MediaShelf.Proofs.Organize.Progress
import MediaShelf.Proofs.Organize.Scan
import MediaShelf.Proofs.Path.Components
import MediaShelf.Proofs.Path.FileName
import MediaShelf.Proofs.Path.Order
import MediaShelf.Proofs.Path.Relative
import MediaShelf.Proofs.Pattern.Capture
import MediaShelf.Proofs.Pattern.Compile
import MediaShelf.Proofs.Pattern.Cross
import MediaShelf.Proofs.Pattern.Decoration
import MediaShelf.Proofs.Pattern.DecorationPlace
import MediaShelf.Proofs.Pattern.Destination
import MediaShelf.Proofs.Pattern.DigitRun
import MediaShelf.Proofs.Pattern.EpisodePath
import MediaShelf.Proofs.Pattern.FilmPath
import MediaShelf.Proofs.Pattern.Grammar
import MediaShelf.Proofs.Pattern.HeuristicCase
import MediaShelf.Proofs.Pattern.LetterCase
import MediaShelf.Proofs.Pattern.Marker
import MediaShelf.Proofs.Pattern.Match
import MediaShelf.Proofs.Pattern.MultiEpisode
import MediaShelf.Proofs.Pattern.NumberedPath
import MediaShelf.Proofs.Pattern.Piece
import MediaShelf.Proofs.Pattern.Render
import MediaShelf.Proofs.Pattern.TitleMark
import MediaShelf.Proofs.Pattern.Token
import MediaShelf.Proofs.Pattern.TrailingScan
import MediaShelf.Proofs.Record.Codec
import MediaShelf.Proofs.Record.Query
import MediaShelf.Proofs.Record.Season
import MediaShelf.Proofs.Regex.Blind
import MediaShelf.Proofs.Regex.Find
import MediaShelf.Proofs.Regex.Greedy
import MediaShelf.Proofs.Regex.Lazy
import MediaShelf.Proofs.Regex.Reads
import MediaShelf.Proofs.Regex.Replace
import MediaShelf.Proofs.Regex.Table
import MediaShelf.Proofs.Regex.WholeWord
import MediaShelf.Proofs.Rename.Copy
import MediaShelf.Proofs.Rename.FirstFree
import MediaShelf.Proofs.Rename.Move
import MediaShelf.Proofs.Rename.Numbered
import MediaShelf.Proofs.Rename.Plan
import MediaShelf.Proofs.Rename.Prune
import MediaShelf.Proofs.Rename.Rerun
import MediaShelf.Proofs.Resolver.Alike
import MediaShelf.Proofs.Resolver.Coherence
import MediaShelf.Proofs.Resolver.Failure
import MediaShelf.Proofs.Resolver.Journal
import MediaShelf.Proofs.Resolver.Keeps
import MediaShelf.Proofs.Resolver.Lift
import MediaShelf.Proofs.Resolver.Process
import MediaShelf.Proofs.Resolver.Provenance
import MediaShelf.Proofs.Resolver.ReadThrough
import MediaShelf.Proofs.Resolver.Refresh
import MediaShelf.Proofs.Resolver.Repeat
import MediaShelf.Proofs.Resolver.SearchCache
import MediaShelf.Proofs.Resolver.SearchThrough
import MediaShelf.Proofs.Resolver.Searches
import MediaShelf.Proofs.Resolver.Stability
import MediaShelf.Proofs.Resolver.Transparency
import MediaShelf.Proofs.Resolver.Truth
import MediaShelf.Proofs.Resolver.Truthful
import MediaShelf.Proofs.Search.Query
import MediaShelf.Proofs.Search.ReleaseJunk
import MediaShelf.Proofs.Search.ReleaseName
import MediaShelf.Proofs.Search.Show
import MediaShelf.Proofs.Search.SplitYear
import MediaShelf.Proofs.Search.Term
import MediaShelf.Proofs.Sorting
import MediaShelf.Proofs.Source.Hit
import MediaShelf.Proofs.Source.Season
import MediaShelf.Proofs.Store.Consistent
import MediaShelf.Proofs.Store.FailedReplacement
import MediaShelf.Proofs.Store.JsonFiles
import MediaShelf.Proofs.Store.Memory
import MediaShelf.Proofs.Store.Origin
import MediaShelf.Proofs.Store.ReadBack
import MediaShelf.Proofs.Store.RecordFolder
import MediaShelf.Proofs.Store.Removal
import MediaShelf.Proofs.Store.Session
import MediaShelf.Proofs.Store.Shelf
import MediaShelf.Proofs.Store.StoredName
import MediaShelf.Proofs.Text.CaseFold
import MediaShelf.Proofs.Text.LetterCase
import MediaShelf.Proofs.Text.Lowercase
import MediaShelf.Proofs.Text.NormalForm
import MediaShelf.Proofs.Text.Normalize
import MediaShelf.Proofs.Text.Numeral
import MediaShelf.Proofs.Text.Separators
import MediaShelf.Proofs.Text.Split
import MediaShelf.Proofs.Text.Words
import MediaShelf.Record.Basic
import MediaShelf.Record.Codec
import MediaShelf.Regex.Class
import MediaShelf.Regex.Find
import MediaShelf.Regex.Node
import MediaShelf.Regex.Reader
import MediaShelf.Regex.Table
import MediaShelf.Rename.Execute
import MediaShelf.Rename.Operation
import MediaShelf.Rename.Plan
import MediaShelf.Rename.Prune
import MediaShelf.Resolver
import MediaShelf.Search.Film
import MediaShelf.Search.Outcome
import MediaShelf.Search.Show
import MediaShelf.Source.Basic
import MediaShelf.Source.Call
import MediaShelf.Source.Error
import MediaShelf.Source.TvMaze
import MediaShelf.Store.Basic
import MediaShelf.Store.Call
import MediaShelf.Store.JsonFiles
import MediaShelf.Store.Memory
import MediaShelf.Store.RecordFolder
import MediaShelf.Text.Blank
import MediaShelf.Text.CaseFold
import MediaShelf.Text.CharTable
import MediaShelf.Text.DecimalDigit
import MediaShelf.Text.Lowercase
import MediaShelf.Text.Normalize
import MediaShelf.Text.Numeral
import MediaShelf.Text.Separators
import MediaShelf.Text.WordChar
import MediaShelf.Text.Words
import MediaShelf.Toml.Quoted
import MediaShelf.Toml.Reader
import MediaShelf.Toml.Scalar
import MediaShelf.Toml.Table
import MediaShelf.Web.Request
import MediaShelf.Workspace
