import MonkeySyntax.Parser

namespace MonkeySyntax

/-- A parser is asked for the next program, for an accepted program or for its errors so far. -/
inductive Request where
  | readProgram
  | parse
  | errors
deriving DecidableEq

inductive Answer where
  | program (program : Program)
  | result (result : Except (List SyntaxError) Program)
  | errors (errors : List SyntaxError)

namespace Parser

/-- An answer comes with the parser that is left; only reading changes it. -/
def answer (parser : Parser) : Request → Answer × Parser
  | .readProgram => (.program parser.readProgram.1, parser.readProgram.2)
  | .parse => (.result parser.parse.1, parser.parse.2)
  | .errors => (.errors parser.errors, parser)

/-- The requests of a session are answered one after the other. -/
def session (parser : Parser) : List Request → List Answer × Parser
  | [] => ([], parser)
  | request :: requests =>
    let (answer, next) := parser.answer request
    let (answers, last) := next.session requests
    (answer :: answers, last)

end Parser

end MonkeySyntax
