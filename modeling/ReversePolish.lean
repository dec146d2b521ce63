import ReversePolish.Brackets
import ReversePolish.Calculator
import ReversePolish.Cursor
import ReversePolish.Decimal.Numeral
import ReversePolish.Decimal.Shortest
import ReversePolish.Decimal.Written
import ReversePolish.Evaluation
import ReversePolish.History
import ReversePolish.Lexeme
import ReversePolish.LineEditor
import ReversePolish.Log
import ReversePolish.Main
import ReversePolish.Operator
import ReversePolish.OperatorTable
import ReversePolish.Postfix
import ReversePolish.Prompt
import ReversePolish.Session
import ReversePolish.Terminal.Cluster
import ReversePolish.Terminal.ClusterBreak
import ReversePolish.Terminal.CommandLine
import ReversePolish.Terminal.Editor
import ReversePolish.Text.Blank
import ReversePolish.Text.Lines
import ReversePolish.Text.Printable
import ReversePolish.Text.Quoted
import ReversePolish.Text.Spelling
import ReversePolish.Vocabulary
import ReversePolish.Proofs.Balance
import ReversePolish.Proofs.BlankRuns
import ReversePolish.Proofs.BracketErrors
import ReversePolish.Proofs.Characters
import ReversePolish.Proofs.Fields
import ReversePolish.Proofs.FlatText
import ReversePolish.Proofs.Forests
import ReversePolish.Proofs.Insertions
import ReversePolish.Proofs.Layers
import ReversePolish.Proofs.Lexing
import ReversePolish.Proofs.Lines
import ReversePolish.Proofs.LongestNames
import ReversePolish.Proofs.Names
import ReversePolish.Proofs.Numerals
import ReversePolish.Proofs.Passes
import ReversePolish.Proofs.Places
import ReversePolish.Proofs.PlainText
import ReversePolish.Proofs.Reading
import ReversePolish.Proofs.Records
import ReversePolish.Proofs.Reflattening
import ReversePolish.Proofs.Replacement
import ReversePolish.Proofs.Restarts
import ReversePolish.Proofs.Scanning
import ReversePolish.Proofs.Sessions
import ReversePolish.Proofs.SetOff
import ReversePolish.Proofs.Shifting
import ReversePolish.Proofs.SingleExpression
import ReversePolish.Proofs.Spacing
import ReversePolish.Proofs.Stopping
import ReversePolish.Proofs.TokenKinds
import ReversePolish.Proofs.Trimming
import ReversePolish.Proofs.Unrelated
import ReversePolish.Proofs.WaitingShape
import ReversePolish.Proofs.Walks
import ReversePolish.Proofs.WordOrder
