import MonkeySyntax.Token

namespace MonkeySyntax

/-- An error says why a part of the text could not be read. -/
inductive SyntaxError where
  /-- A construct needs a token of one kind and another follows. -/
  | unexpected (expected found : TokenKind)
  /-- An expression cannot start with a token of this kind. -/
  | noOperand (found : TokenKind)
  /-- The literal is not the text of a 64-bit integer. -/
  | notInteger (literal : String)
deriving DecidableEq

namespace SyntaxError

/-- The message shows kinds of tokens as they are spelled. -/
def message : SyntaxError → String
  | unexpected expected found =>
    "expected next token to be " ++ expected.display ++ ", got " ++ found.display ++ " instead"
  | noOperand found => "no prefix parse function for " ++ found.display ++ " found"
  | notInteger literal => "could not parse " ++ literal ++ " as integer"

def headline (errors : List SyntaxError) : String :=
  "parser has " ++ errors.length.repr ++ " errors:"

/-- A report has the headline and then one message a line. -/
def report (errors : List SyntaxError) : String :=
  "\n".intercalate (headline errors :: errors.map message)

end SyntaxError

end MonkeySyntax
