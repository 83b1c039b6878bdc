import Stencil.Artifacts
import Stencil.Digest
import Stencil.Engine
import Stencil.Expression.Check
import Stencil.Expression.Evaluate
import Stencil.Expression.Language
import Stencil.Expression.Parser
import Stencil.Expression.Sigil
import Stencil.Expression.Syntax
import Stencil.Expression.Token
import Stencil.Fault
import Stencil.Files
import Stencil.Json.Basic
import Stencil.Json.Reader
import Stencil.Json.Writer
import Stencil.Memo
import Stencil.Number.Arithmetic
import Stencil.Number.Binary
import Stencil.Number.Decimal
import Stencil.Number.Fixed
import Stencil.Number.Notation
import Stencil.Number.Reading
import Stencil.Number.Shortest
import Stencil.Path
import Stencil.Proofs.Artifacts.Calls
import Stencil.Proofs.Artifacts.Ensure
import Stencil.Proofs.Artifacts.Read
import Stencil.Proofs.Artifacts.RoundTrip
import Stencil.Proofs.Artifacts.Write
import Stencil.Proofs.Engine.Bake
import Stencil.Proofs.Engine.Folder
import Stencil.Proofs.Engine.History
import Stencil.Proofs.Engine.Work
import Stencil.Proofs.Expression.Names
import Stencil.Proofs.Expression.Reader
import Stencil.Proofs.Expression.Sigil
import Stencil.Proofs.Files.Disk
import Stencil.Proofs.Files.Folders
import Stencil.Proofs.Files.Path
import Stencil.Proofs.Files.Places
import Stencil.Proofs.Json.Canonical
import Stencil.Proofs.Json.Complete
import Stencil.Proofs.Json.Grammar
import Stencil.Proofs.Json.Ordered
import Stencil.Proofs.Json.Scalar
import Stencil.Proofs.Json.Sound
import Stencil.Proofs.Render.Block
import Stencil.Proofs.Render.Concat
import Stencil.Proofs.Render.Echo
import Stencil.Proofs.Render.Free
import Stencil.Proofs.Render.Indifferent
import Stencil.Proofs.Render.Markup
import Stencil.Proofs.Render.Recency
import Stencil.Proofs.Run
import Stencil.Proofs.Tag.Append
import Stencil.Proofs.Tag.Argument
import Stencil.Proofs.Tag.Balanced
import Stencil.Proofs.Tag.Echo
import Stencil.Proofs.Tag.Found
import Stencil.Proofs.Tag.Loop
import Stencil.Proofs.Tag.Order
import Stencil.Proofs.Tag.Picked
import Stencil.Proofs.Tag.Scan
import Stencil.Proofs.Tag.Split
import Stencil.Proofs.Template.Accepted
import Stencil.Proofs.Template.Artifact
import Stencil.Proofs.Template.Block
import Stencil.Proofs.Template.Calls
import Stencil.Proofs.Template.Comment
import Stencil.Proofs.Template.Concat
import Stencil.Proofs.Template.Earliest
import Stencil.Proofs.Template.Expansion
import Stencil.Proofs.Template.Grammar
import Stencil.Proofs.Template.Inclusion
import Stencil.Proofs.Template.Instruction
import Stencil.Proofs.Template.Later
import Stencil.Proofs.Template.Linear
import Stencil.Proofs.Template.Needed
import Stencil.Proofs.Template.Normal
import Stencil.Proofs.Template.Own
import Stencil.Proofs.Template.Parse
import Stencil.Proofs.Template.PrintRead
import Stencil.Proofs.Template.Printer
import Stencil.Proofs.Template.Proper
import Stencil.Proofs.Template.Root
import Stencil.Proofs.Template.Seam
import Stencil.Proofs.Template.Shape
import Stencil.Proofs.Template.Sight
import Stencil.Proofs.Template.Slot
import Stencil.Proofs.Template.Tidy
import Stencil.Proofs.Template.Tree
import Stencil.Proofs.Template.Viable
import Stencil.Proofs.Template.Visit
import Stencil.Proofs.Text.Class
import Stencil.Proofs.Text.Entity
import Stencil.Proofs.Text.Search
import Stencil.Proofs.Text.Split
import Stencil.Proofs.Value.Cursor
import Stencil.Proofs.Value.Slots
import Stencil.Render.Language
import Stencil.Render.Run
import Stencil.Render.Session
import Stencil.Scope
import Stencil.Sink
import Stencil.Tag.Argument
import Stencil.Tag.Loop
import Stencil.Tag.Rule
import Stencil.Tag.Scan
import Stencil.Template.Artifact
import Stencil.Template.Compile
import Stencil.Template.Inclusion
import Stencil.Template.Instruction
import Stencil.Template.Piece
import Stencil.Template.Root
import Stencil.Template.Substitution
import Stencil.Template.Tree
import Stencil.Text.Blank
import Stencil.Text.Bounds
import Stencil.Text.Case
import Stencil.Text.CaseTable
import Stencil.Text.Digit
import Stencil.Text.Entity
import Stencil.Text.Identifier
import Stencil.Text.Lead
import Stencil.Text.Line
import Stencil.Text.Printable
import Stencil.Text.Quoted
import Stencil.Text.Search
import Stencil.Text.Word
import Stencil.Value.Access
import Stencil.Value.Arguments
import Stencil.Value.Arithmetic
import Stencil.Value.Basic
import Stencil.Value.Cursor
import Stencil.Value.Display
import Stencil.Value.Equality
import Stencil.Value.Evaluator
import Stencil.Value.Filter
import Stencil.Value.Format
import Stencil.Value.Layout
import Stencil.Value.Method
import Stencil.Value.Placeholder
import Stencil.Value.Slots
import Stencil.Value.Sort
import Stencil.Value.Test
