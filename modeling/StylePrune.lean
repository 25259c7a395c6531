import StylePrune.Cache.Basic
import StylePrune.Cache.File
import StylePrune.Calendar
import StylePrune.CommandLine.Arguments
import StylePrune.CommandLine.Option
import StylePrune.Config.Basic
import StylePrune.Config.Data
import StylePrune.Config.File
import StylePrune.Config.Plan
import StylePrune.Content.Expression
import StylePrune.Content.Find
import StylePrune.Content.Heuristics
import StylePrune.Content.Position
import StylePrune.Css.Balance
import StylePrune.Css.Generate
import StylePrune.Css.Lexer
import StylePrune.Css.Nesting
import StylePrune.Css.Selector
import StylePrune.Css.Serialize
import StylePrune.Css.Token
import StylePrune.Css.Tree
import StylePrune.Css.Walk
import StylePrune.Decimal.Exact
import StylePrune.Decimal.Read
import StylePrune.Decimal.Shortest
import StylePrune.Digest.Sha256
import StylePrune.Disk
import StylePrune.Extractor.Basic
import StylePrune.Extractor.Run
import StylePrune.Extractor.Value
import StylePrune.Glob.Basic
import StylePrune.Glob.Resolve
import StylePrune.Json.Parser
import StylePrune.Json.Printer
import StylePrune.Json.Shown
import StylePrune.Json.Value
import StylePrune.Main
import StylePrune.Names
import StylePrune.Options
import StylePrune.Path
import StylePrune.Pattern
import StylePrune.Program
import StylePrune.Project.Context
import StylePrune.Project.Options
import StylePrune.Project.Outputs
import StylePrune.Project.Scanner
import StylePrune.Proofs.Cache.Answers
import StylePrune.Proofs.Cache.Edits
import StylePrune.Proofs.Cache.File
import StylePrune.Proofs.Cache.Scanner
import StylePrune.Proofs.Cache.SecondPass
import StylePrune.Proofs.Cache.Transparency
import StylePrune.Proofs.Config.Lists
import StylePrune.Proofs.Config.Loading
import StylePrune.Proofs.Content.Arguments
import StylePrune.Proofs.Content.Attribute
import StylePrune.Proofs.Content.Braced
import StylePrune.Proofs.Content.Braces
import StylePrune.Proofs.Content.Calls
import StylePrune.Proofs.Content.Constants
import StylePrune.Proofs.Content.Declarations
import StylePrune.Proofs.Content.Find
import StylePrune.Proofs.Content.FixedLists
import StylePrune.Proofs.Content.Grammar
import StylePrune.Proofs.Content.Literals
import StylePrune.Proofs.Content.Origins
import StylePrune.Proofs.Content.Renderer
import StylePrune.Proofs.Content.Shape
import StylePrune.Proofs.Css.BracketLines
import StylePrune.Proofs.Css.Comments
import StylePrune.Proofs.Css.Compacted
import StylePrune.Proofs.Css.Drafts
import StylePrune.Proofs.Css.Encodable
import StylePrune.Proofs.Css.Endings
import StylePrune.Proofs.Css.Escapes
import StylePrune.Proofs.Css.Explicit
import StylePrune.Proofs.Css.Flattened
import StylePrune.Proofs.Css.Forms
import StylePrune.Proofs.Css.Granted
import StylePrune.Proofs.Css.Headed
import StylePrune.Proofs.Css.Joined
import StylePrune.Proofs.Css.Leaves
import StylePrune.Proofs.Css.LineEnds
import StylePrune.Proofs.Css.Lines
import StylePrune.Proofs.Css.Marks
import StylePrune.Proofs.Css.Neighbours
import StylePrune.Proofs.Css.NextLine
import StylePrune.Proofs.Css.Numerals
import StylePrune.Proofs.Css.Occurs
import StylePrune.Proofs.Css.Order
import StylePrune.Proofs.Css.Parted
import StylePrune.Proofs.Css.Passing
import StylePrune.Proofs.Css.RawBrackets
import StylePrune.Proofs.Css.Readback
import StylePrune.Proofs.Css.Removal
import StylePrune.Proofs.Css.RootMarked
import StylePrune.Proofs.Css.RootShown
import StylePrune.Proofs.Css.Spaceless
import StylePrune.Proofs.Css.Spelled
import StylePrune.Proofs.Css.Tightened
import StylePrune.Proofs.Css.Unplaced
import StylePrune.Proofs.Css.WrittenNames
import StylePrune.Proofs.Disk.Frame
import StylePrune.Proofs.Disk.Location
import StylePrune.Proofs.Disk.Places
import StylePrune.Proofs.Extractor.Isolation
import StylePrune.Proofs.Glob.Alternatives
import StylePrune.Proofs.Glob.Exact
import StylePrune.Proofs.Glob.Growth
import StylePrune.Proofs.Glob.Moved
import StylePrune.Proofs.Glob.Segments
import StylePrune.Proofs.Json.Grammar
import StylePrune.Proofs.Json.Keys
import StylePrune.Proofs.Json.Reader
import StylePrune.Proofs.Json.RoundTrip
import StylePrune.Proofs.Json.Strings
import StylePrune.Proofs.Json.Written
import StylePrune.Proofs.Outcome
import StylePrune.Proofs.Program.Refusals
import StylePrune.Proofs.Project.Rerun
import StylePrune.Proofs.Project.ScanOrder
import StylePrune.Proofs.Project.Snapshot
import StylePrune.Proofs.Project.StyleFiles
import StylePrune.Proofs.Project.Tokens
import StylePrune.Proofs.Project.Yields
import StylePrune.Proofs.Prune.Again
import StylePrune.Proofs.Prune.Answers
import StylePrune.Proofs.Prune.ClassLists
import StylePrune.Proofs.Prune.Emptied
import StylePrune.Proofs.Prune.EscapedNames
import StylePrune.Proofs.Prune.JoinedClasses
import StylePrune.Proofs.Prune.Minified
import StylePrune.Proofs.Prune.Passes
import StylePrune.Proofs.Prune.RootProperties
import StylePrune.Proofs.Prune.Safelist
import StylePrune.Proofs.Prune.Stages
import StylePrune.Proofs.Prune.Together
import StylePrune.Proofs.Prune.Unmatched
import StylePrune.Proofs.Prune.Usage
import StylePrune.Proofs.Regex.Blind
import StylePrune.Proofs.Regex.Literals
import StylePrune.Proofs.Regex.OwnFlags
import StylePrune.Proofs.Report.Entries
import StylePrune.Proofs.Report.Markup
import StylePrune.Proofs.Scan.Merge
import StylePrune.Proofs.Scan.Order
import StylePrune.Proofs.Scan.Plain
import StylePrune.Proofs.Scan.Text
import StylePrune.Proofs.Selectors.Document
import StylePrune.Proofs.Selectors.Matching
import StylePrune.Proofs.Selectors.Signs
import StylePrune.Proofs.Selectors.Spelling
import StylePrune.Proofs.Sorted
import StylePrune.Proofs.Text.Utf8
import StylePrune.Proofs.Text.Words
import StylePrune.Prune
import StylePrune.Regex.CharTest
import StylePrune.Regex.Choice
import StylePrune.Regex.Cursor
import StylePrune.Regex.Flags
import StylePrune.Regex.Lead
import StylePrune.Regex.Matcher
import StylePrune.Regex.Reader
import StylePrune.Regex.Reader.Basic
import StylePrune.Regex.Reader.Escape
import StylePrune.Regex.Reader.Group
import StylePrune.Regex.Syntax
import StylePrune.Report.Basic
import StylePrune.Report.Budget
import StylePrune.Report.Data
import StylePrune.Report.Output
import StylePrune.Report.Page
import StylePrune.Scan
import StylePrune.Service.Basic
import StylePrune.Service.Field
import StylePrune.Service.Message
import StylePrune.Settings
import StylePrune.Tally
import StylePrune.Text.Basic
import StylePrune.Text.CharClass
import StylePrune.Text.CharName
import StylePrune.Text.CharName.Alphabets
import StylePrune.Text.CharName.Basic
import StylePrune.Text.CharName.Forms
import StylePrune.Text.CharName.Historic
import StylePrune.Text.CharName.Notations
import StylePrune.Text.CharName.Pictographs
import StylePrune.Text.CharName.Syllabics
import StylePrune.Text.CharName.Symbols
import StylePrune.Text.LetterCase
import StylePrune.Text.Point
import StylePrune.Text.Quoted
import StylePrune.Text.Utf8
import StylePrune.Text.Words
import StylePrune.Toml.Document
import StylePrune.Toml.Number
import StylePrune.Toml.Text
import StylePrune.Toml.Value
