import Treewalk.Number.Double
import Treewalk.Number.Decimal
import Treewalk.Number.Power
import Treewalk.Number.Bits
import Treewalk.Text.Basic
import Treewalk.Text.Runs
import Treewalk.Text.Printable
import Treewalk.Text.Name
import Treewalk.Text.Quoted
import Treewalk.Text.Quotes
import Treewalk.Host
import Treewalk.Number.Integer
import Treewalk.Syntax.Operator
import Treewalk.Syntax.Literal
import Treewalk.Syntax.Tree
import Treewalk.Syntax.Outline
import Treewalk.Syntax.Source
import Treewalk.Bindings
import Treewalk.Unwritable
import Treewalk.Error
import Treewalk.Value.Basic
import Treewalk.Value.Text
import Treewalk.Value.Equal
import Treewalk.Value.Heap
import Treewalk.Operator.Arithmetic
import Treewalk.Operator.Comparison
import Treewalk.Scope.Overlay
import Treewalk.Scope.Environment
import Treewalk.Scope.Shared
import Treewalk.Syntax.Placement
import Treewalk.Syntax.Visit
import Treewalk.Eval.State
import Treewalk.Eval.Expression
import Treewalk.Eval.Statement
import Treewalk.Eval.Call
import Treewalk.Token.Basic
import Treewalk.Token.Number
import Treewalk.Token.NormalTable
import Treewalk.Token.Normal
import Treewalk.Token.Lexer
import Treewalk.Grammar.Parse
import Treewalk.Grammar.Escape
import Treewalk.Grammar.Target
import Treewalk.Grammar.Params
import Treewalk.Grammar.Expression
import Treewalk.Grammar.Pattern
import Treewalk.Grammar.Statement
import Treewalk.Run
import Treewalk.Command
import Treewalk.Main
import Treewalk.Proofs.Placement
import Treewalk.Proofs.Visits
import Treewalk.Proofs.Discipline
import Treewalk.Proofs.Scope
import Treewalk.Proofs.SharedScopes
import Treewalk.Proofs.Contract
import Treewalk.Proofs.Standard
import Treewalk.Proofs.Rules
import Treewalk.Proofs.Confinement
import Treewalk.Proofs.Exits
import Treewalk.Proofs.Reachable
import Treewalk.Proofs.Soundness
import Treewalk.Proofs.Locality
import Treewalk.Proofs.Composition
import Treewalk.Proofs.Depth
import Treewalk.Proofs.Enclosure
import Treewalk.Proofs.Journal
import Treewalk.Proofs.History
import Treewalk.Proofs.Law
import Treewalk.Proofs.Upholding
import Treewalk.Proofs.Binding
import Treewalk.Proofs.Homes
import Treewalk.Proofs.Ownership
import Treewalk.Proofs.Account
import Treewalk.Proofs.Bookkeeping
import Treewalk.Proofs.Legible
import Treewalk.Proofs.Tracing
import Treewalk.Proofs.Spelling
import Treewalk.Proofs.Rendering
import Treewalk.Proofs.Quoting
import Treewalk.Proofs.Shortest
import Treewalk.Proofs.Numerals
import Treewalk.Proofs.Unambiguous
import Treewalk.Proofs.Genuine
import Treewalk.Proofs.Scanning
import Treewalk.Proofs.Reading
import Treewalk.Proofs.Parsed
import Treewalk.Proofs.Escapes
import Treewalk.Proofs.Purity
import Treewalk.Proofs.Dispatch
import Treewalk.Proofs.Kinship
import Treewalk.Proofs.Unrolling
import Treewalk.Proofs.Passage
import Treewalk.Proofs.Rounding
import Treewalk.Proofs.Finiteness
import Treewalk.Proofs.Chains
import Treewalk.Proofs.Arithmetic
import Treewalk.Proofs.Equality
import Treewalk.Proofs.Outlines
import Treewalk.Proofs.Unplaced
import Treewalk.Proofs.FunctionEquality
import Treewalk.Proofs.Comparison
import Treewalk.Proofs.Overlay
import Treewalk.Proofs.Leaves
import Treewalk.Proofs.FloorDivision
import Treewalk.Proofs.TwosComplement
