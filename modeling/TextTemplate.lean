import TextTemplate.Code.Grammar
import TextTemplate.Template.Node
import TextTemplate.Tree.Stream
import TextTemplate.Tree.Value
import TextTemplate.Program.Chunk
import TextTemplate.Program.Nested
import TextTemplate.Program.Debug
import TextTemplate.Expansion.Invocation
import TextTemplate.Script.Command
import TextTemplate.Script.Handler
import TextTemplate.Proofs.Template.Automaton
import TextTemplate.Proofs.Template.Descent
import TextTemplate.Proofs.Template.Places
import TextTemplate.Proofs.Template.Relocation
import TextTemplate.Proofs.Template.RoundTrip
import TextTemplate.Proofs.Template.Braces
import TextTemplate.Proofs.Template.Splitting
import TextTemplate.Proofs.Template.Lookahead
import TextTemplate.Proofs.Template.Seam
import TextTemplate.Proofs.Template.Finality
import TextTemplate.Proofs.Template.NormalForm
import TextTemplate.Proofs.Template.Cutting
import TextTemplate.Proofs.Template.Remarks
import TextTemplate.Proofs.Program.Action
import TextTemplate.Proofs.Program.Entry
import TextTemplate.Proofs.Program.Binding
import TextTemplate.Proofs.Program.Outcome
import TextTemplate.Proofs.Program.Session
import TextTemplate.Proofs.Program.Chunks
import TextTemplate.Proofs.Program.Numbering
import TextTemplate.Proofs.Program.Nesting
import TextTemplate.Proofs.Program.Isolation
import TextTemplate.Proofs.Program.Stem
import TextTemplate.Proofs.Program.Interpolation
import TextTemplate.Proofs.Program.Shape
import TextTemplate.Proofs.Code.Quoting
import TextTemplate.Proofs.Expansion.Reading
import TextTemplate.Proofs.Expansion.Meaning
import TextTemplate.Proofs.Expansion.Entries
import TextTemplate.Proofs.Expansion.Uncommented
import TextTemplate.Proofs.Expansion.Preservation
import TextTemplate.Proofs.Expansion.Scoping
import TextTemplate.Proofs.Expansion.Listing
import TextTemplate.Proofs.Expansion.Spelling
import TextTemplate.Proofs.Expansion.Texts
import TextTemplate.Proofs.Expansion.Additions
import TextTemplate.Proofs.Expansion.Refusals
import TextTemplate.Proofs.Expansion.Arguments
import TextTemplate.Proofs.Code.Verbatim
import TextTemplate.Proofs.Expansion.Pointing
import TextTemplate.Proofs.Template.Bindings
import TextTemplate.Proofs.Template.Loops
import TextTemplate.Proofs.Tree.Visit
import TextTemplate.Proofs.Tree.Streaming
