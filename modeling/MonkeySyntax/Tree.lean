import MonkeySyntax.Operator

namespace MonkeySyntax

/-- An identifier is a token that stands where a name is expected, with the name that it spells. -/
structure Identifier where
  token : Token
  name : String
  spelled : name = token.literal
deriving DecidableEq

/-- The name of an identifier is taken from its token. -/
def Identifier.ofToken (token : Token) : Identifier :=
  ⟨token, token.literal, rfl⟩

/-- An identifier is made from its token alone. -/
@[simp] theorem Identifier.ofToken_token (identifier : Identifier) :
    ofToken identifier.token = identifier := by
  obtain ⟨token, name, spelled⟩ := identifier
  subst spelled
  rfl

mutual

/-- An expression keeps the token it was made from beside its parts. A part that could not be read
is absent, so a tree exists for every text. -/
inductive Expression where
  | identifier (name : Identifier)
  | integer (token : Token) (value : Int64)
  | boolean (token : Token) (value : Bool)
  | unary (token : Token) (operator : UnaryOperator) (operand : Option Expression)
  | binary (token : Token) (left : Option Expression) (operator : BinaryOperator)
      (right : Option Expression)
  | conditional (token : Token) (condition : Expression) (consequence : Block)
      (alternative : Option Block)
  | function (token : Token) (parameters : List Identifier) (body : Block)
  | call (token : Token) (callee : Expression) (arguments : List Expression)

/-- A statement keeps the token it starts with. -/
inductive Statement where
  | letBinding (token : Token) (name : Identifier) (value : Option Expression)
  | returnValue (token : Token) (value : Option Expression)
  | expression (token : Token) (value : Option Expression)

/-- A block is a list of statements behind an opening brace. -/
structure Block where
  token : Token
  statements : List Statement

end

/-- A program is a list of statements. -/
structure Program where
  statements : List Statement

/-- The main token of an expression is an operator or a keyword, or a leaf itself. -/
def Expression.token : Expression → Token
  | .identifier name => name.token
  | .integer token _ => token
  | .boolean token _ => token
  | .unary token _ _ => token
  | .binary token _ _ _ => token
  | .conditional token _ _ _ => token
  | .function token _ _ => token
  | .call token _ _ => token

def Statement.token : Statement → Token
  | .letBinding token _ _ => token
  | .returnValue token _ => token
  | .expression token _ => token

def Statement.value : Statement → Option Expression
  | .letBinding _ _ value => value
  | .returnValue _ value => value
  | .expression _ value => value

/-- The literal of a program is that of its first statement. -/
def Program.literal (program : Program) : String :=
  (program.statements.head?.map fun statement => statement.token.literal).getD ""

end MonkeySyntax
