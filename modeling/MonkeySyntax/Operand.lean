import MonkeySyntax.Operator

namespace MonkeySyntax

/-- The forms of operands are told apart by their first token. -/
inductive OperandForm where
  | identifier
  | integer
  | boolean (value : Bool)
  | unary (operator : UnaryOperator)
  | group
  | conditional
  | function
deriving DecidableEq

/-- A kind of token starts at most one form of operand. -/
def TokenKind.operandForm? : TokenKind → Option OperandForm
  | identifier => some .identifier
  | integer => some .integer
  | trueKeyword => some (.boolean true)
  | falseKeyword => some (.boolean false)
  | minus => some (.unary .minus)
  | bang => some (.unary .bang)
  | leftParenthesis => some .group
  | ifKeyword => some .conditional
  | functionKeyword => some .function
  | _ => none

/-- The kind of token that starts a form of operand. -/
def OperandForm.kind : OperandForm → TokenKind
  | identifier => .identifier
  | integer => .integer
  | boolean true => .trueKeyword
  | boolean false => .falseKeyword
  | unary operator => operator.kind
  | group => .leftParenthesis
  | conditional => .ifKeyword
  | function => .functionKeyword

/-- The form of an operand is told by the kind of its first token alone. -/
theorem TokenKind.operandForm?_eq_some_iff {kind : TokenKind} {form : OperandForm} :
    kind.operandForm? = some form ↔ form.kind = kind := by
  cases form with
  | boolean value => cases value <;> cases kind <;> decide
  | unary operator => cases operator <;> cases kind <;> decide
  | identifier => cases kind <;> decide
  | integer => cases kind <;> decide
  | group => cases kind <;> decide
  | conditional => cases kind <;> decide
  | function => cases kind <;> decide

end MonkeySyntax
