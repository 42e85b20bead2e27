import Graft.Build
import Graft.Command
import Graft.Command.Arguments
import Graft.Command.Help
import Graft.Command.Reach
import Graft.Command.Report
import Graft.Command.Run
import Graft.Component
import Graft.Component.Search
import Graft.Component.Similarity
import Graft.Decimal
import Graft.Diff
import Graft.Diff.Change
import Graft.Diff.Shortest
import Graft.Diff.Slide
import Graft.Edit
import Graft.Main
import Graft.Markup.Attribute
import Graft.Markup.Draft
import Graft.Markup.Element
import Graft.Markup.Lexeme
import Graft.Markup.Selector
import Graft.Markup.Token
import Graft.Path
import Graft.Pattern
import Graft.Pattern.Bracket
import Graft.Pattern.CharSet
import Graft.Pattern.Escape
import Graft.Pattern.Expr
import Graft.Pattern.Flags
import Graft.Pattern.Matcher
import Graft.Pattern.Program
import Graft.Pattern.Reader
import Graft.Pattern.Size
import Graft.Pattern.Utf8
import Graft.Proofs.Apart
import Graft.Proofs.AttributeList
import Graft.Proofs.AttributeRevision
import Graft.Proofs.Batch
import Graft.Proofs.ByteOrder
import Graft.Proofs.Check
import Graft.Proofs.CleanHead
import Graft.Proofs.Combination
import Graft.Proofs.Commit
import Graft.Proofs.Continue
import Graft.Proofs.CurrentValue
import Graft.Proofs.Decoding
import Graft.Proofs.Diff
import Graft.Proofs.Directive
import Graft.Proofs.DryRun
import Graft.Proofs.ElementEnd
import Graft.Proofs.Excerpt
import Graft.Proofs.Folder
import Graft.Proofs.Forest
import Graft.Proofs.HeadPart
import Graft.Proofs.Independence
import Graft.Proofs.Isolation
import Graft.Proofs.Lexeme
import Graft.Proofs.Located
import Graft.Proofs.Marker
import Graft.Proofs.Output
import Graft.Proofs.Pairing
import Graft.Proofs.Patch
import Graft.Proofs.Path
import Graft.Proofs.Place
import Graft.Proofs.Produce
import Graft.Proofs.Quoting
import Graft.Proofs.RawText
import Graft.Proofs.ReadBack
import Graft.Proofs.Rebuild
import Graft.Proofs.Refusal
import Graft.Proofs.Rejoin
import Graft.Proofs.Removal
import Graft.Proofs.Rename
import Graft.Proofs.Retag
import Graft.Proofs.Revision
import Graft.Proofs.Rewrite
import Graft.Proofs.Run
import Graft.Proofs.Search
import Graft.Proofs.SectionTag
import Graft.Proofs.Selection
import Graft.Proofs.Splice
import Graft.Proofs.Tag
import Graft.Proofs.Target
import Graft.Proofs.TemplateRevision
import Graft.Proofs.TemplateSection
import Graft.Proofs.Text
import Graft.Proofs.Tiling
import Graft.Proofs.Token
import Graft.Proofs.TokenOrder
import Graft.Proofs.Traversal
import Graft.Proofs.Tree
import Graft.Proofs.Turn
import Graft.Proofs.Validity
import Graft.Proofs.Write
import Graft.Recipe
import Graft.Recipe.Datum
import Graft.Recipe.Decode
import Graft.Recipe.Encode
import Graft.Recipe.Issue
import Graft.Recipe.Load
import Graft.Recipe.Print
import Graft.Section
import Graft.Section.Combine
import Graft.Text
import Graft.Text.Age
import Graft.Text.Blank
import Graft.Text.CaseFold
import Graft.Text.Category
import Graft.Text.Property
import Graft.Text.Quoted
import Graft.Text.Ranges
import Graft.Text.Script
import Graft.Text.Uppercase
import Graft.Text.Word
import Graft.Toml
import Graft.Toml.Reader
import Graft.Toml.Recovery
import Graft.Toml.Scalar
import Graft.Tree
import Graft.Tree.Write
