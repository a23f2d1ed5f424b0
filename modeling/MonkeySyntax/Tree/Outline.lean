import MonkeySyntax.Decimal
import MonkeySyntax.Outline
import MonkeySyntax.SyntaxError
import MonkeySyntax.Text.Quoted
import MonkeySyntax.Tree

namespace MonkeySyntax

/-- A token is outlined with its kind and its literal. -/
def Token.outline (token : Token) : Outline :=
  .record "Token" [("kind", .word token.kind.name), ("literal", .word (Text.quoted token.literal))]

def SyntaxError.outline : SyntaxError → Outline
  | unexpected expected found =>
    .record "UnexpectedToken" [("expected", .word expected.name), ("got", .word found.name)]
  | noOperand found => .application "NoPrefixParseFn" (.word found.name)
  | notInteger literal => .application "InvalidInteger" (.word (Text.quoted literal))

def Identifier.outline (identifier : Identifier) : Outline :=
  .record "Identifier"
    [("token", identifier.token.outline), ("value", .word (Text.quoted identifier.name))]

mutual

/-- An expression is outlined with the name of its form and all its parts. -/
def Expression.outline : Expression → Outline
  | .identifier name => .application "Identifier" name.outline
  | .integer token value =>
    .record "IntegerLiteral"
      [("token", token.outline), ("value", .word (Decimal.text value.toInt))]
  | .boolean token value =>
    .record "Boolean"
      [("token", token.outline), ("value", .word (if value then "true" else "false"))]
  | .unary token operator operand =>
    .record "PrefixExpression"
      [("token", token.outline), ("operator", .word operator.kind.name),
        ("right", Expression.outlineOption operand)]
  | .binary token left operator right =>
    .record "InfixExpression"
      [("token", token.outline), ("left", Expression.outlineOption left),
        ("operator", .word operator.kind.name), ("right", Expression.outlineOption right)]
  | .conditional token condition consequence alternative =>
    .record "IfExpression"
      [("token", token.outline), ("condition", condition.outline),
        ("consequence", consequence.outline), ("alternative", Block.outlineOption alternative)]
  | .function token parameters body =>
    .record "FunctionLiteral"
      [("token", token.outline), ("parameters", .list (parameters.map Identifier.outline)),
        ("body", body.outline)]
  | .call token callee arguments =>
    .record "CallExpression"
      [("token", token.outline), ("function", callee.outline),
        ("arguments", .list (Expression.outlineList arguments))]

def Expression.outlineOption : Option Expression → Outline
  | none => .word "None"
  | some value => .application "Some" value.outline

def Expression.outlineList : List Expression → List Outline
  | [] => []
  | first :: rest => first.outline :: Expression.outlineList rest

/-- A statement is outlined with the name of its form and all its parts. -/
def Statement.outline : Statement → Outline
  | .letBinding token name value =>
    .record "LetStatement"
      [("token", token.outline), ("name", name.outline),
        ("value", Expression.outlineOption value)]
  | .returnValue token value =>
    .record "ReturnStatement"
      [("token", token.outline), ("value", Expression.outlineOption value)]
  | .expression token value =>
    .record "ExpressionStatement"
      [("token", token.outline), ("expression", Expression.outlineOption value)]

/-- A block is outlined with its brace and its statements. -/
def Block.outline : Block → Outline
  | ⟨token, statements⟩ =>
    .record "BlockStatement"
      [("token", token.outline), ("statements", .list (Statement.outlineList statements))]

def Block.outlineOption : Option Block → Outline
  | none => .word "None"
  | some block => .application "Some" block.outline

def Statement.outlineList : List Statement → List Outline
  | [] => []
  | first :: rest => first.outline :: Statement.outlineList rest

end

def Program.outline (program : Program) : Outline :=
  .record "Program" [("statements", .list (Statement.outlineList program.statements))]

end MonkeySyntax
