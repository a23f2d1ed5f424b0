import MonkeySyntax.Reading.Program

/-!
This module describes the runs of the reader. Each constructor is one way through a construct, so
the ways on which a construct fails stand beside those on which it is read.
-/

namespace MonkeySyntax

namespace Cursor

/-- The start of a statement is noted with its first token. -/
def statementEvent (cursor : Cursor) : Event :=
  .statement cursor.current.kind cursor.current.literal

/-- An error is noted beside the literal of the current token. -/
def errorEvent (cursor : Cursor) (cause : SyntaxError) : Event :=
  .error cause cursor.current.literal

/-- A construct that needs another token next notes what it finds instead. -/
def unexpectedEvent (cursor : Cursor) (expected : TokenKind) : Event :=
  cursor.errorEvent (.unexpected expected cursor.next.kind)

/-- A statement takes the semicolon behind it. -/
def terminated (cursor : Cursor) : Cursor :=
  if cursor.next.kind = .semicolon then cursor.advance else cursor

end Cursor

/-- A parameter is whatever token stands there, and a comma leads to the next one. -/
inductive ParametersRun : Cursor → List Identifier → Cursor → Prop where
  | one {start : Cursor} (noComma : start.next.kind ≠ .comma) :
      ParametersRun start [.ofToken start.current] start
  | more {start stop : Cursor} {parameters : List Identifier}
      (isComma : start.next.kind = .comma)
      (others : ParametersRun start.advance.advance parameters stop) :
      ParametersRun start (.ofToken start.current :: parameters) stop

/-- A list of parameters is lost when no parenthesis closes it. -/
inductive ParameterListRun :
    Cursor → Option (List Identifier) → List Event → Cursor → Prop where
  | none {start : Cursor} (closes : start.next.kind = .rightParenthesis) :
      ParameterListRun start (.some []) [] start.advance
  | some {start last : Cursor} {parameters : List Identifier}
      (named : start.next.kind ≠ .rightParenthesis)
      (inner : ParametersRun start.advance parameters last)
      (closes : last.next.kind = .rightParenthesis) :
      ParameterListRun start (.some parameters) [] last.advance
  | unclosed {start last : Cursor} {parameters : List Identifier}
      (named : start.next.kind ≠ .rightParenthesis)
      (inner : ParametersRun start.advance parameters last)
      (stays : last.next.kind ≠ .rightParenthesis) :
      ParameterListRun start .none [last.unexpectedEvent .rightParenthesis] last

mutual

/-- An expression starts with an operand; where none can start nothing is read. -/
inductive ExpressionRun :
    Level → Cursor → Option Expression → List Event → Cursor → Prop where
  | missing {level : Level} {start : Cursor}
      (noOperand : start.current.kind.operandForm? = none) :
      ExpressionRun level start none [start.errorEvent (.noOperand start.current.kind)] start
  | operand {level : Level} {start middle stop : Cursor} {left value : Option Expression}
      {first others : List Event} (operand : OperandRun start left first middle)
      (extension : ExtensionRun level left middle value others stop) :
      ExpressionRun level start value (first ++ others) stop

/-- An operand that is lost is told by an error or by the loss of an expression inside it. -/
inductive OperandRun : Cursor → Option Expression → List Event → Cursor → Prop where
  | identifier {start : Cursor} (isName : start.current.kind = .identifier) :
      OperandRun start (some (.identifier (.ofToken start.current))) [] start
  | integer {start : Cursor} {value : Int64} (isInteger : start.current.kind = .integer)
      (denotes : Decimal.int64? start.current.literal = some value) :
      OperandRun start (some (.integer start.current value)) [] start
  | notInteger {start : Cursor} (isInteger : start.current.kind = .integer)
      (denotes : Decimal.int64? start.current.literal = none) :
      OperandRun start none [start.errorEvent (.notInteger start.current.literal)] start
  | boolean {start : Cursor} {value : Bool}
      (isKeyword : start.current.kind = if value then .trueKeyword else .falseKeyword) :
      OperandRun start (some (.boolean start.current value)) [] start
  | unary {operator : UnaryOperator} {start stop : Cursor} {operand : Option Expression}
      {events : List Event} (spells : start.current.kind = operator.kind)
      (inner : ExpressionRun .unary start.advance operand events stop) :
      OperandRun start (some (.unary start.current operator operand)) events stop
  | group {start last : Cursor} {value : Option Expression} {events : List Event}
      (opens : start.current.kind = .leftParenthesis)
      (inner : ExpressionRun .lowest start.advance value events last)
      (closes : last.next.kind = .rightParenthesis) :
      OperandRun start value events last.advance
  | unclosedGroup {start last : Cursor} {value : Option Expression} {events : List Event}
      (opens : start.current.kind = .leftParenthesis)
      (inner : ExpressionRun .lowest start.advance value events last)
      (stays : last.next.kind ≠ .rightParenthesis) :
      OperandRun start none (events ++ [last.unexpectedEvent .rightParenthesis]) last
  | bareConditional {start : Cursor} (isKeyword : start.current.kind = .ifKeyword)
      (bare : start.next.kind ≠ .leftParenthesis) :
      OperandRun start none [start.unexpectedEvent .leftParenthesis] start
  | unclosedCondition {start last : Cursor} {condition : Option Expression}
      {events : List Event} (isKeyword : start.current.kind = .ifKeyword)
      (opens : start.next.kind = .leftParenthesis)
      (test : ExpressionRun .lowest start.advance.advance condition events last)
      (stays : last.next.kind ≠ .rightParenthesis) :
      OperandRun start none (events ++ [last.unexpectedEvent .rightParenthesis]) last
  | bareConsequence {start last : Cursor} {condition : Option Expression} {events : List Event}
      (isKeyword : start.current.kind = .ifKeyword) (opens : start.next.kind = .leftParenthesis)
      (test : ExpressionRun .lowest start.advance.advance condition events last)
      (closes : last.next.kind = .rightParenthesis)
      (bare : last.advance.next.kind ≠ .leftBrace) :
      OperandRun start none (events ++ [last.advance.unexpectedEvent .leftBrace]) last.advance
  | conditional {start last stop : Cursor} {condition : Option Expression}
      {consequence : Block} {events branchEvents : List Event}
      (isKeyword : start.current.kind = .ifKeyword) (opens : start.next.kind = .leftParenthesis)
      (test : ExpressionRun .lowest start.advance.advance condition events last)
      (closes : last.next.kind = .rightParenthesis)
      (isBrace : last.advance.next.kind = .leftBrace)
      (branch : BlockRun last.advance.advance consequence branchEvents stop)
      (noElse : stop.next.kind ≠ .elseKeyword) :
      OperandRun start
        (condition.map fun condition => .conditional start.current condition consequence none)
        (events ++ branchEvents) stop
  | bareAlternative {start last closed : Cursor} {condition : Option Expression}
      {consequence : Block} {events branchEvents : List Event}
      (isKeyword : start.current.kind = .ifKeyword) (opens : start.next.kind = .leftParenthesis)
      (test : ExpressionRun .lowest start.advance.advance condition events last)
      (closes : last.next.kind = .rightParenthesis)
      (isBrace : last.advance.next.kind = .leftBrace)
      (branch : BlockRun last.advance.advance consequence branchEvents closed)
      (isElse : closed.next.kind = .elseKeyword)
      (bare : closed.advance.next.kind ≠ .leftBrace) :
      OperandRun start none
        (events ++ (branchEvents ++ [closed.advance.unexpectedEvent .leftBrace])) closed.advance
  | alternative {start last closed stop : Cursor} {condition : Option Expression}
      {consequence alternative : Block} {events branchEvents otherEvents : List Event}
      (isKeyword : start.current.kind = .ifKeyword) (opens : start.next.kind = .leftParenthesis)
      (test : ExpressionRun .lowest start.advance.advance condition events last)
      (closes : last.next.kind = .rightParenthesis)
      (isBrace : last.advance.next.kind = .leftBrace)
      (branch : BlockRun last.advance.advance consequence branchEvents closed)
      (isElse : closed.next.kind = .elseKeyword)
      (isOtherBrace : closed.advance.next.kind = .leftBrace)
      (otherBranch : BlockRun closed.advance.advance alternative otherEvents stop) :
      OperandRun start
        (condition.map fun condition =>
          .conditional start.current condition consequence (some alternative))
        (events ++ (branchEvents ++ otherEvents)) stop
  | bareFunction {start : Cursor} (isKeyword : start.current.kind = .functionKeyword)
      (bare : start.next.kind ≠ .leftParenthesis) :
      OperandRun start none [start.unexpectedEvent .leftParenthesis] start
  | lostParameters {start stop : Cursor} {events : List Event}
      (isKeyword : start.current.kind = .functionKeyword)
      (opens : start.next.kind = .leftParenthesis)
      (list : ParameterListRun start.advance none events stop) :
      OperandRun start none events stop
  | bareBody {start closed : Cursor} {parameters : List Identifier} {events : List Event}
      (isKeyword : start.current.kind = .functionKeyword)
      (opens : start.next.kind = .leftParenthesis)
      (list : ParameterListRun start.advance (some parameters) events closed)
      (bare : closed.next.kind ≠ .leftBrace) :
      OperandRun start none (events ++ [closed.unexpectedEvent .leftBrace]) closed
  | function {start closed stop : Cursor} {parameters : List Identifier} {body : Block}
      {events bodyEvents : List Event} (isKeyword : start.current.kind = .functionKeyword)
      (opens : start.next.kind = .leftParenthesis)
      (list : ParameterListRun start.advance (some parameters) events closed)
      (isBrace : closed.next.kind = .leftBrace)
      (inner : BlockRun closed.advance body bodyEvents stop) :
      OperandRun start (some (.function start.current parameters body)) (events ++ bodyEvents)
        stop

/-- A left operand, lost or not, grows as long as something binds it above the level. -/
inductive ExtensionRun :
    Level → Option Expression → Cursor → Option Expression → List Event → Cursor → Prop where
  | stop {level : Level} {left : Option Expression} {start : Cursor}
      (stops : ¬level < start.next.kind.level) : ExtensionRun level left start left [] start
  | binary {level : Level} {operator : BinaryOperator} {start middle stop : Cursor}
      {left right value : Option Expression} {events others : List Event}
      (binds : level < start.next.kind.level) (spells : start.next.kind = operator.kind)
      (rightOperand :
        ExpressionRun start.next.kind.level start.advance.advance right events middle)
      (extension : ExtensionRun level (some (.binary start.next left operator right)) middle
        value others stop) :
      ExtensionRun level left start value (events ++ others) stop
  | call {level : Level} {start middle stop : Cursor} {left value : Option Expression}
      {arguments : Option (List Expression)} {events others : List Event}
      (binds : level < start.next.kind.level) (opens : start.next.kind = .leftParenthesis)
      (list : ArgumentListRun start.advance arguments events middle)
      (extension : ExtensionRun level (Expression.called start.next left arguments) middle
        value others stop) :
      ExtensionRun level left start value (events ++ others) stop

/-- A list of arguments is lost when no parenthesis closes it. -/
inductive ArgumentListRun :
    Cursor → Option (List Expression) → List Event → Cursor → Prop where
  | none {start : Cursor} (closes : start.next.kind = .rightParenthesis) :
      ArgumentListRun start (.some []) [] start.advance
  | some {start last : Cursor} {arguments : List Expression} {events : List Event}
      (filled : start.next.kind ≠ .rightParenthesis)
      (inner : ArgumentsRun start.advance arguments events last)
      (closes : last.next.kind = .rightParenthesis) :
      ArgumentListRun start (.some arguments) events last.advance
  | unclosed {start last : Cursor} {arguments : List Expression} {events : List Event}
      (filled : start.next.kind ≠ .rightParenthesis)
      (inner : ArgumentsRun start.advance arguments events last)
      (stays : last.next.kind ≠ .rightParenthesis) :
      ArgumentListRun start .none (events ++ [last.unexpectedEvent .rightParenthesis]) last

/-- An argument that is lost is left out of the list. -/
inductive ArgumentsRun : Cursor → List Expression → List Event → Cursor → Prop where
  | one {start stop : Cursor} {value : Option Expression} {events : List Event}
      (inner : ExpressionRun .lowest start value events stop)
      (noComma : stop.next.kind ≠ .comma) : ArgumentsRun start value.toList events stop
  | more {start middle stop : Cursor} {value : Option Expression} {values : List Expression}
      {events others : List Event} (first : ExpressionRun .lowest start value events middle)
      (isComma : middle.next.kind = .comma)
      (list : ArgumentsRun middle.advance.advance values others stop) :
      ArgumentsRun start (value.toList ++ values) (events ++ others) stop

/-- Only a let statement can be lost. -/
inductive StatementRun : Cursor → Option Statement → List Event → Cursor → Prop where
  | unnamed {start : Cursor} (isKeyword : start.current.kind = .letKeyword)
      (noName : start.next.kind ≠ .identifier) :
      StatementRun start none [start.statementEvent, start.unexpectedEvent .identifier] start
  | unassigned {start : Cursor} (isKeyword : start.current.kind = .letKeyword)
      (isName : start.next.kind = .identifier) (noAssign : start.advance.next.kind ≠ .assign) :
      StatementRun start none [start.statementEvent, start.advance.unexpectedEvent .assign]
        start.advance
  | letBinding {start last : Cursor} {value : Option Expression} {events : List Event}
      (isKeyword : start.current.kind = .letKeyword) (isName : start.next.kind = .identifier)
      (isAssign : start.advance.next.kind = .assign)
      (inner : ExpressionRun .lowest start.advance.advance.advance value events last) :
      StatementRun start (some (.letBinding start.current (.ofToken start.next) value))
        (start.statementEvent :: events) last.terminated
  | returnValue {start last : Cursor} {value : Option Expression} {events : List Event}
      (isKeyword : start.current.kind = .returnKeyword)
      (inner : ExpressionRun .lowest start.advance value events last) :
      StatementRun start (some (.returnValue start.current value))
        (start.statementEvent :: events) last.terminated
  | expression {start last : Cursor} {value : Option Expression} {events : List Event}
      (notLet : start.current.kind ≠ .letKeyword)
      (notReturn : start.current.kind ≠ .returnKeyword)
      (inner : ExpressionRun .lowest start value events last) :
      StatementRun start (some (.expression start.current value))
        (start.statementEvent :: events) last.terminated

/-- Statements follow each other up to the end of their scope. -/
inductive StatementsRun :
    Scope → Cursor → List Statement → List Event → Cursor → Prop where
  | none {scope : Scope} {start : Cursor} (ends : scope.endsAt start.current.kind) :
      StatementsRun scope start [] [] start
  | more {scope : Scope} {start middle stop : Cursor} {statement : Option Statement}
      {statements : List Statement} {events others : List Event}
      (continues : ¬scope.endsAt start.current.kind)
      (first : StatementRun start statement events middle)
      (list : StatementsRun scope middle.advance statements others stop) :
      StatementsRun scope start (statement.toList ++ statements) (events ++ others) stop

/-- A block keeps the token in front of its statements. -/
inductive BlockRun : Cursor → Block → List Event → Cursor → Prop where
  | block {start stop : Cursor} {statements : List Statement} {events : List Event}
      (inner : StatementsRun .block start.advance statements events stop) :
      BlockRun start ⟨start.current, statements⟩ events stop

end

end MonkeySyntax
