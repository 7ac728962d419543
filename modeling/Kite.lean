import Kite.Journal
import Kite.SyntaxTree.CallForm
import Kite.Proofs.Positions
import Kite.Proofs.Scanning.Run
import Kite.Proofs.Stream.Raw
import Kite.Proofs.Stream.QuotedLiterals
import Kite.Proofs.Grammar.Actions
import Kite.Proofs.Grammar.Derivation
import Kite.Proofs.Grammar.Soundness
import Kite.Proofs.Grammar.Rules
import Kite.Proofs.Grammar.Completeness
import Kite.Proofs.Grammar.RoundTrip
import Kite.Proofs.Number.Exact
import Kite.Proofs.Number.Numerals
import Kite.Proofs.Scanning.Progress
import Kite.Proofs.Stream.Ending
import Kite.Proofs.Scanning.Symbols
import Kite.Proofs.Stream.OperatorFormation
import Kite.Proofs.Grammar.Lookahead
import Kite.Proofs.Scanning.Separation
import Kite.Proofs.Grammar.Likeness
import Kite.Proofs.Stream.Relocation
import Kite.Proofs.Grammar.Continuation
import Kite.Proofs.Concatenation
import Kite.Proofs.Grammar.Composition
import Kite.Proofs.Grammar.NestingLimit
import Kite.Proofs.Grammar.Sessions
import Kite.Proofs.Spacing
import Kite.Proofs.Stream.Conservation
import Kite.Proofs.SyntaxTree.CallForm
import Kite.Proofs.Stream.Remapping
import Kite.Proofs.Grammar.Window
import Kite.Proofs.Grammar.Brackets
import Kite.Proofs.Grammar.Blame
import Kite.Proofs.SyntaxTree.OperatorForm
import Kite.Proofs.Grammar.Provenance
import Kite.Proofs.Grammar.Refusals
import Kite.Proofs.Grammar.Explanations
import Kite.Proofs.Number.Unsigned
import Kite.Proofs.Stream.Lexemes
import Kite.Proofs.SourceContents
import Kite.Proofs.SyntaxTree.Height
import Kite.Proofs.Grammar.Height
import Kite.Proofs.Stream.LiteralStretches
import Kite.Proofs.Stream.OperatorBlocks
import Kite.Proofs.Stream.Failure
import Kite.Proofs.Stream.Shapes
import Kite.Proofs.Scanning.Compounds
import Kite.Proofs.Scanning.Roles
import Kite.Proofs.Grammar.Wrapping
import Kite.Proofs.Grammar.Readings
import Kite.Proofs.Grammar.Termination
