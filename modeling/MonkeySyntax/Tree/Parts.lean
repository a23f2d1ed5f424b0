import MonkeySyntax.Tree

namespace MonkeySyntax

/-- A part of a tree is a node, a name that is no expression, or the absence of an expression. -/
inductive Part where
  | statement (statement : Statement)
  | expression (expression : Expression)
  | block (block : Block)
  | name (identifier : Identifier)
  | absent

namespace Part

/-- Every node stores a token but an expression statement, whose token is one of its expression. -/
def token? : Part → Option Token
  | statement (.expression _ _) => none
  | statement node => some node.token
  | expression node => some node.token
  | block node => some node.token
  | name identifier => some identifier.token
  | absent => none

/-- A name is an expression of its own, or is bound by a statement or a function. -/
def identifier? : Part → Option Identifier
  | expression (.identifier leaf) => some leaf
  | name identifier => some identifier
  | _ => none

def expression? : Part → Option Expression
  | expression node => some node
  | _ => none

def statement? : Part → Option Statement
  | statement node => some node
  | _ => none

/-- An absent part takes the place of an expression. -/
def isAbsent : Part → Bool
  | absent => true
  | _ => false

end Part

mutual

/-- A binary operation stands between its operands and a call behind its callee; all other nodes
stand before their parts. -/
def Expression.parts : Expression → List Part
  | .identifier name => [.expression (.identifier name)]
  | .integer token value => [.expression (.integer token value)]
  | .boolean token value => [.expression (.boolean token value)]
  | .unary token operator operand =>
    .expression (.unary token operator operand) :: Expression.partsOption operand
  | .binary token left operator right =>
    Expression.partsOption left ++
      .expression (.binary token left operator right) :: Expression.partsOption right
  | .conditional token condition consequence alternative =>
    .expression (.conditional token condition consequence alternative) ::
      (condition.parts ++ consequence.parts ++ Block.partsOption alternative)
  | .function token parameters body =>
    .expression (.function token parameters body) :: (parameters.map .name ++ body.parts)
  | .call token callee arguments =>
    callee.parts ++ .expression (.call token callee arguments) :: Expression.partsList arguments

/-- The absence of an expression is a part. -/
def Expression.partsOption : Option Expression → List Part
  | none => [.absent]
  | some value => value.parts

def Expression.partsList : List Expression → List Part
  | [] => []
  | first :: rest => first.parts ++ Expression.partsList rest

/-- A statement stands before its parts. -/
def Statement.parts : Statement → List Part
  | .letBinding token name value =>
    .statement (.letBinding token name value) :: .name name :: Expression.partsOption value
  | .returnValue token value =>
    .statement (.returnValue token value) :: Expression.partsOption value
  | .expression token value =>
    .statement (.expression token value) :: Expression.partsOption value

/-- A block stands before its statements. -/
def Block.parts : Block → List Part
  | ⟨token, statements⟩ => .block ⟨token, statements⟩ :: Statement.partsList statements

def Block.partsOption : Option Block → List Part
  | none => []
  | some block => block.parts

def Statement.partsList : List Statement → List Part
  | [] => []
  | first :: rest => first.parts ++ Statement.partsList rest

end

/-- A list of expressions that is lost is one absence. -/
def Expression.partsListOption : Option (List Expression) → List Part
  | none => [.absent]
  | some values => Expression.partsList values

/-- The parts of two lists of expressions stand behind each other. -/
theorem Expression.partsList_append (first second : List Expression) :
    Expression.partsList (first ++ second) =
      Expression.partsList first ++ Expression.partsList second := by
  induction first with
  | nil => rfl
  | cons value rest inductionHypothesis =>
    rw [List.cons_append, partsList, partsList, inductionHypothesis, List.append_assoc]

/-- The parts of two lists of statements stand behind each other. -/
theorem Statement.partsList_append (first second : List Statement) :
    Statement.partsList (first ++ second) =
      Statement.partsList first ++ Statement.partsList second := by
  induction first with
  | nil => rfl
  | cons statement rest inductionHypothesis =>
    rw [List.cons_append, partsList, partsList, inductionHypothesis, List.append_assoc]

/-- A single expression has no other parts in a list. -/
@[simp] theorem Expression.partsList_singleton (value : Expression) :
    Expression.partsList [value] = value.parts := by
  simp [Expression.partsList]

@[simp] theorem Statement.partsList_singleton (statement : Statement) :
    Statement.partsList [statement] = statement.parts := by
  simp [Statement.partsList]

def Program.parts (program : Program) : List Part :=
  Statement.partsList program.statements

end MonkeySyntax
