import ExprFront.Source.Basic
import ExprFront.Source.LineIndex
import ExprFront.Source.Buffer
import ExprFront.Source.Walk
import ExprFront.Text.Ranges
import ExprFront.Text.Identifier
import ExprFront.Text.GraphemeExtend
import ExprFront.Text.Unprintable
import ExprFront.Text.WhiteSpace
import ExprFront.Text.Quoted
import ExprFront.Literal.Flags
import ExprFront.Literal.Delimiter
import ExprFront.Literal.DelimiterStack
import ExprFront.Literal.Escape
import ExprFront.Literal.Body
import ExprFront.Scan.Limits
import ExprFront.Scan.Tag
import ExprFront.Scan.State
import ExprFront.Scan.FString
import ExprFront.Scan.Code
import ExprFront.Scan.Run
import ExprFront.Config
import ExprFront.Token.Kind
import ExprFront.Token.Error
import ExprFront.Token.Lexer
import ExprFront.Syntax.Expr
import ExprFront.Syntax.Error
import ExprFront.Syntax.Cursor
import ExprFront.Syntax.Grammar
import ExprFront.Syntax.Dump
import ExprFront.Syntax.Outline
import ExprFront.Syntax.Parse
import ExprFront.Syntax.Arena
import ExprFront.Proofs.Boundary
import ExprFront.Proofs.BodyWalk
import ExprFront.Proofs.ScanMonad
import ExprFront.Proofs.Advance
import ExprFront.Proofs.Coverage
import ExprFront.Proofs.Nesting
import ExprFront.Proofs.Frames
import ExprFront.Proofs.Opener
import ExprFront.Proofs.StreamShape
import ExprFront.Proofs.Closers
import ExprFront.Proofs.Lockstep
import ExprFront.Proofs.DoubledBraces
import ExprFront.Proofs.Precedence.Term
import ExprFront.Proofs.Precedence.Levels
import ExprFront.Proofs.Precedence.Brackets
import ExprFront.Proofs.Precedence.Written
import ExprFront.Proofs.Precedence.Lexing
import ExprFront.Proofs.Precedence.RoundTrip
import ExprFront.Proofs.ErrorSite
import ExprFront.Proofs.WellFormed.Grammar
import ExprFront.Proofs.WellFormed.Reading
import ExprFront.Proofs.WellFormed.Scan
import ExprFront.Proofs.WellFormed.Accept
import ExprFront.Proofs.StackDiscipline
import ExprFront.Proofs.EscapeFaults
import ExprFront.Proofs.DecodeRange
import ExprFront.Proofs.DecodeShortcut
import ExprFront.Proofs.Limits.Step
import ExprFront.Proofs.Limits.Run
import ExprFront.Proofs.Spans.Tree
import ExprFront.Proofs.Spans.Stream
import ExprFront.Proofs.Spans.Contract
import ExprFront.Proofs.Spans.Operators
import ExprFront.Proofs.Spans.Trailers
import ExprFront.Proofs.Spans.Expressions
import ExprFront.Proofs.Spans.Displays
import ExprFront.Proofs.Spans.Literals
import ExprFront.Proofs.Spans.Sound
import ExprFront.Proofs.Spans.Lexed
import ExprFront.Proofs.Positions
import ExprFront.Proofs.CallArguments
import ExprFront.Proofs.Fuel.Settled
import ExprFront.Proofs.Fuel.Levels
import ExprFront.Proofs.Fuel.Operators
import ExprFront.Proofs.Fuel.Expressions
import ExprFront.Proofs.Fuel.Displays
import ExprFront.Proofs.Fuel.Literals
import ExprFront.Proofs.Fuel.Run
import ExprFront.Proofs.Moved.Text
import ExprFront.Proofs.Moved.Scan
import ExprFront.Proofs.Moved.Tokens
import ExprFront.Proofs.Moved.Runs
import ExprFront.Proofs.FirstSet.Productions
import ExprFront.Proofs.FirstSet.Brackets
import ExprFront.Proofs.FirstSet.Descent
import ExprFront.Proofs.Moved.Grammar
import ExprFront.Proofs.Moved.Brackets
import ExprFront.Proofs.Moved.Parse
import ExprFront.Proofs.Arena.Forest
import ExprFront.Proofs.Arena.Postorder
import ExprFront.Proofs.Tiling.Reading
import ExprFront.Proofs.Tiling.Joined
import ExprFront.Proofs.Tiling.Contract
import ExprFront.Proofs.Tiling.Operators
import ExprFront.Proofs.Tiling.Trailers
import ExprFront.Proofs.Tiling.Expressions
import ExprFront.Proofs.Tiling.Displays
import ExprFront.Proofs.Tiling.Literals
import ExprFront.Proofs.Tiling.Parse
