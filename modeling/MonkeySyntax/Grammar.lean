import MonkeySyntax.Decimal
import MonkeySyntax.Tree

/-!
This module holds the grammar of the language. Operators are stratified and left-recursive, so the
grammar alone decides how expressions nest.
-/

namespace MonkeySyntax.Grammar

/-- The documented language closes every block and names every parameter. The accepted one lets
the last block end with the input and takes any token as a parameter. -/
inductive Dialect where
  | documented
  | accepted
deriving DecidableEq

/-- The strata of expressions run from the loosest binary operators to single operands. -/
inductive Stratum where
  | equality
  | comparison
  | sum
  | product
  | unary
  | call
  | atom
deriving DecidableEq

/-- The stratum that binds one step tighter; atoms are the tightest. -/
def Stratum.tighter : Stratum → Stratum
  | equality => comparison
  | comparison => sum
  | sum => product
  | product => unary
  | unary => call
  | call => atom
  | atom => atom

/-- A binary operator belongs to the stratum in which it is introduced. -/
def stratumOf : BinaryOperator → Stratum
  | .equal | .notEqual => .equality
  | .less | .greater => .comparison
  | .plus | .minus => .sum
  | .asterisk | .slash => .product

/-- A parameter is an identifier; the accepted language takes any token. -/
def Parameter (dialect : Dialect) (token : Token) : Prop :=
  dialect = .accepted ∨ token.kind = .identifier

/-- The parameters of a function follow each other with commas between them. -/
inductive Parameters (dialect : Dialect) : List Token → List Token → List Identifier → Prop where
  | one {token : Token} {rest : List Token} (parameter : Parameter dialect token) :
      Parameters dialect (token :: rest) rest [.ofToken token]
  | more {token comma : Token} {input rest : List Token} {parameters : List Identifier}
      (parameter : Parameter dialect token) (isComma : comma.kind = .comma)
      (others : Parameters dialect input rest parameters) :
      Parameters dialect (token :: comma :: input) rest (.ofToken token :: parameters)

/-- The parameters stand in parentheses; a closing parenthesis is never the first of them. -/
inductive ParameterList (dialect : Dialect) :
    List Token → List Token → List Identifier → Prop where
  | none {opening closing : Token} {rest : List Token}
      (opens : opening.kind = .leftParenthesis) (closes : closing.kind = .rightParenthesis) :
      ParameterList dialect (opening :: closing :: rest) rest []
  | some {opening first closing : Token} {input rest : List Token} {parameters : List Identifier}
      (opens : opening.kind = .leftParenthesis) (named : first.kind ≠ .rightParenthesis)
      (inner : Parameters dialect (first :: input) (closing :: rest) parameters)
      (closes : closing.kind = .rightParenthesis) :
      ParameterList dialect (opening :: first :: input) rest parameters

/-- A statement that is not terminated must not run into a token behind it. In the documented
language no statement behind it starts with a minus sign or a parenthesis; in the accepted one no
binary operator and no parenthesis stands behind it at all. -/
def Separated : Dialect → List Token → Prop
  | .documented, following =>
    ∀ token ∈ following.head?, token.kind ≠ .minus ∧ token.kind ≠ .leftParenthesis
  | .accepted, following =>
    ∀ token ∈ following.head?,
      BinaryOperator.ofKind? token.kind = none ∧ token.kind ≠ .leftParenthesis

mutual

/-- An expression of a stratum is made from operands of the same and of the next tighter one. -/
inductive ExpressionAt (dialect : Dialect) :
    Stratum → List Token → List Token → Expression → Prop where
  | tighter {stratum : Stratum} {input rest : List Token} {value : Expression}
      (inner : ExpressionAt dialect stratum.tighter input rest value) :
      ExpressionAt dialect stratum input rest value
  | binary {operator : BinaryOperator} {token : Token} {input middle rest : List Token}
      {left right : Expression}
      (leftOperand : ExpressionAt dialect (stratumOf operator) input (token :: middle) left)
      (spells : token.kind = operator.kind)
      (rightOperand : ExpressionAt dialect (stratumOf operator).tighter middle rest right) :
      ExpressionAt dialect (stratumOf operator) input rest
        (.binary token (some left) operator (some right))
  | unary {operator : UnaryOperator} {token : Token} {input rest : List Token}
      {operand : Expression} (spells : token.kind = operator.kind)
      (inner : ExpressionAt dialect .unary input rest operand) :
      ExpressionAt dialect .unary (token :: input) rest (.unary token operator (some operand))
  | call {opening : Token} {input middle rest : List Token} {callee : Expression}
      {arguments : List Expression}
      (function : ExpressionAt dialect .call input (opening :: middle) callee)
      (list : ArgumentList dialect (opening :: middle) rest arguments) :
      ExpressionAt dialect .call input rest (.call opening callee arguments)
  | identifier {token : Token} {rest : List Token} (isName : token.kind = .identifier) :
      ExpressionAt dialect .atom (token :: rest) rest (.identifier (.ofToken token))
  | integer {token : Token} {value : Int64} {rest : List Token} (isInteger : token.kind = .integer)
      (denotes : token.literal = Decimal.text value.toInt) :
      ExpressionAt dialect .atom (token :: rest) rest (.integer token value)
  | trueLiteral {token : Token} {rest : List Token} (isKeyword : token.kind = .trueKeyword) :
      ExpressionAt dialect .atom (token :: rest) rest (.boolean token true)
  | falseLiteral {token : Token} {rest : List Token} (isKeyword : token.kind = .falseKeyword) :
      ExpressionAt dialect .atom (token :: rest) rest (.boolean token false)
  | group {opening closing : Token} {input rest : List Token} {value : Expression}
      (opens : opening.kind = .leftParenthesis)
      (inner : ExpressionAt dialect .equality input (closing :: rest) value)
      (closes : closing.kind = .rightParenthesis) :
      ExpressionAt dialect .atom (opening :: input) rest value
  | conditional {token opening closing : Token} {input middle rest : List Token}
      {condition : Expression} {consequence : Block} (isKeyword : token.kind = .ifKeyword)
      (opens : opening.kind = .leftParenthesis)
      (test : ExpressionAt dialect .equality input (closing :: middle) condition)
      (closes : closing.kind = .rightParenthesis)
      (branch : BlockAt dialect middle rest consequence) :
      ExpressionAt dialect .atom (token :: opening :: input) rest
        (.conditional token condition consequence none)
  | alternative {token opening closing otherwise : Token} {input middle ending rest : List Token}
      {condition : Expression} {consequence other : Block} (isKeyword : token.kind = .ifKeyword)
      (opens : opening.kind = .leftParenthesis)
      (test : ExpressionAt dialect .equality input (closing :: middle) condition)
      (closes : closing.kind = .rightParenthesis)
      (branch : BlockAt dialect middle (otherwise :: ending) consequence)
      (isElse : otherwise.kind = .elseKeyword)
      (otherBranch : BlockAt dialect ending rest other) :
      ExpressionAt dialect .atom (token :: opening :: input) rest
        (.conditional token condition consequence (some other))
  | function {token : Token} {input middle rest : List Token} {parameters : List Identifier}
      {body : Block} (isKeyword : token.kind = .functionKeyword)
      (list : ParameterList dialect input middle parameters)
      (inner : BlockAt dialect middle rest body) :
      ExpressionAt dialect .atom (token :: input) rest (.function token parameters body)

inductive ArgumentList (dialect : Dialect) :
    List Token → List Token → List Expression → Prop where
  | none {opening closing : Token} {rest : List Token}
      (opens : opening.kind = .leftParenthesis) (closes : closing.kind = .rightParenthesis) :
      ArgumentList dialect (opening :: closing :: rest) rest []
  | some {opening closing : Token} {input rest : List Token} {arguments : List Expression}
      (opens : opening.kind = .leftParenthesis)
      (inner : Arguments dialect input (closing :: rest) arguments)
      (closes : closing.kind = .rightParenthesis) :
      ArgumentList dialect (opening :: input) rest arguments

inductive Arguments (dialect : Dialect) : List Token → List Token → List Expression → Prop where
  | one {input rest : List Token} {value : Expression}
      (inner : ExpressionAt dialect .equality input rest value) :
      Arguments dialect input rest [value]
  | more {comma : Token} {input middle rest : List Token} {value : Expression}
      {values : List Expression}
      (first : ExpressionAt dialect .equality input (comma :: middle) value)
      (isComma : comma.kind = .comma) (others : Arguments dialect middle rest values) :
      Arguments dialect input rest (value :: values)

/-- A statement comes without its semicolon, which is not part of its tree. -/
inductive StatementAt (dialect : Dialect) : List Token → List Token → Statement → Prop where
  | letBinding {token name assign : Token} {input rest : List Token} {value : Expression}
      (isKeyword : token.kind = .letKeyword) (isName : name.kind = .identifier)
      (isAssign : assign.kind = .assign)
      (inner : ExpressionAt dialect .equality input rest value) :
      StatementAt dialect (token :: name :: assign :: input) rest
        (.letBinding token (.ofToken name) (some value))
  | returnValue {token : Token} {input rest : List Token} {value : Expression}
      (isKeyword : token.kind = .returnKeyword)
      (inner : ExpressionAt dialect .equality input rest value) :
      StatementAt dialect (token :: input) rest (.returnValue token (some value))
  | expression {token : Token} {input rest : List Token} {value : Expression}
      (inner : ExpressionAt dialect .equality (token :: input) rest value) :
      StatementAt dialect (token :: input) rest (.expression token (some value))

/-- Statements follow each other, each with a semicolon or separated from what is behind it. -/
inductive StatementsAt (dialect : Dialect) :
    List Token → List Token → List Statement → Prop where
  | none {rest : List Token} : StatementsAt dialect rest rest []
  | terminated {semicolon : Token} {input middle rest : List Token} {statement : Statement}
      {statements : List Statement}
      (first : StatementAt dialect input (semicolon :: middle) statement)
      (terminates : semicolon.kind = .semicolon)
      (others : StatementsAt dialect middle rest statements) :
      StatementsAt dialect input rest (statement :: statements)
  | separated {input middle rest : List Token} {statement : Statement}
      {statements : List Statement} (first : StatementAt dialect input middle statement)
      (apart : Separated dialect middle) (others : StatementsAt dialect middle rest statements) :
      StatementsAt dialect input rest (statement :: statements)

/-- A block stands in braces; the accepted language lets the input end in it. -/
inductive BlockAt (dialect : Dialect) : List Token → List Token → Block → Prop where
  | closed {opening closing : Token} {input rest : List Token} {statements : List Statement}
      (opens : opening.kind = .leftBrace)
      (inner : StatementsAt dialect input (closing :: rest) statements)
      (closes : closing.kind = .rightBrace) :
      BlockAt dialect (opening :: input) rest ⟨opening, statements⟩
  | unclosed {opening : Token} {input : List Token} {statements : List Statement}
      (lenient : dialect = .accepted) (opens : opening.kind = .leftBrace)
      (inner : StatementsAt dialect input [] statements) :
      BlockAt dialect (opening :: input) [] ⟨opening, statements⟩

end

/-- A program derives from all of its tokens. -/
def Derives (dialect : Dialect) (tokens : List Token) (program : Program) : Prop :=
  StatementsAt dialect tokens [] program.statements

end MonkeySyntax.Grammar
