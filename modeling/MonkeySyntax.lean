import MonkeySyntax.Token
import MonkeySyntax.Token.Lexing
import MonkeySyntax.Token.Window
import MonkeySyntax.Operator
import MonkeySyntax.Decimal
import MonkeySyntax.Tree
import MonkeySyntax.Tree.Measure
import MonkeySyntax.Source
import MonkeySyntax.Cursor
import MonkeySyntax.SyntaxError
import MonkeySyntax.Log
import MonkeySyntax.Operand
import MonkeySyntax.Reading
import MonkeySyntax.Reading.Program
import MonkeySyntax.Reading.Run
import MonkeySyntax.Parser
import MonkeySyntax.Tree.Canonical
import MonkeySyntax.Tree.Equality
import MonkeySyntax.Text.Unprintable
import MonkeySyntax.Text.Quoted
import MonkeySyntax.Outline
import MonkeySyntax.Tree.Outline
import MonkeySyntax.Summary
import MonkeySyntax.CommandLine
import MonkeySyntax.Main
import MonkeySyntax.Token.Tokenisation
import MonkeySyntax.Tree.Parts
import MonkeySyntax.Tree.Relabelled
import MonkeySyntax.Grammar
import MonkeySyntax.Proofs.DecimalText
import MonkeySyntax.Proofs.Completeness
import MonkeySyntax.Proofs.Guarantee
import MonkeySyntax.Proofs.Soundness
import MonkeySyntax.Proofs.Content
import MonkeySyntax.Proofs.RoundTrip
import MonkeySyntax.Proofs.Agreement
import MonkeySyntax.Proofs.Runs
import MonkeySyntax.Proofs.Absence
import MonkeySyntax.Proofs.ErrorBound
import MonkeySyntax.Proofs.TokenOrder
import MonkeySyntax.Proofs.Exhaustion
import MonkeySyntax.Proofs.Correspondence
import MonkeySyntax.Proofs.Lockstep
import MonkeySyntax.Proofs.Locality
import MonkeySyntax.Proofs.Relabelling
import MonkeySyntax.Proofs.TerminatedPrefix
import MonkeySyntax.Proofs.Consistency
import MonkeySyntax.Proofs.UniqueTokenisation
import MonkeySyntax.Proofs.Chronicle
import MonkeySyntax.Proofs.Delivery
import MonkeySyntax.Proofs.Precedence
import MonkeySyntax.Proofs.Concatenation
import MonkeySyntax.Proofs.UnbalancedGroups
import MonkeySyntax.Proofs.IntegerLiterals
import MonkeySyntax.Proofs.Names
