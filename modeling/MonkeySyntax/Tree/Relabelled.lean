import MonkeySyntax.Tree

namespace MonkeySyntax

/-- The name of an identifier changes with its token. -/
def Identifier.relabelled (change : Token → Token) (identifier : Identifier) : Identifier :=
  .ofToken (change identifier.token)

mutual

/-- The form, the value and the operators of an expression stay as they are. -/
def Expression.relabelled (change : Token → Token) : Expression → Expression
  | .identifier name => .identifier (name.relabelled change)
  | .integer token value => .integer (change token) value
  | .boolean token value => .boolean (change token) value
  | .unary token operator operand =>
    .unary (change token) operator (Expression.relabelledOption change operand)
  | .binary token left operator right =>
    .binary (change token) (Expression.relabelledOption change left) operator
      (Expression.relabelledOption change right)
  | .conditional token condition consequence alternative =>
    .conditional (change token) (condition.relabelled change) (consequence.relabelled change)
      (Block.relabelledOption change alternative)
  | .function token parameters body =>
    .function (change token) (parameters.map (Identifier.relabelled change))
      (body.relabelled change)
  | .call token callee arguments =>
    .call (change token) (callee.relabelled change) (Expression.relabelledList change arguments)

def Expression.relabelledOption (change : Token → Token) : Option Expression → Option Expression
  | none => none
  | some value => some (value.relabelled change)

def Expression.relabelledList (change : Token → Token) : List Expression → List Expression
  | [] => []
  | first :: rest => first.relabelled change :: Expression.relabelledList change rest

/-- The form of a statement stays as it is. -/
def Statement.relabelled (change : Token → Token) : Statement → Statement
  | .letBinding token name value =>
    .letBinding (change token) (name.relabelled change)
      (Expression.relabelledOption change value)
  | .returnValue token value =>
    .returnValue (change token) (Expression.relabelledOption change value)
  | .expression token value =>
    .expression (change token) (Expression.relabelledOption change value)

/-- The brace of a block is changed as well. -/
def Block.relabelled (change : Token → Token) : Block → Block
  | ⟨token, statements⟩ => ⟨change token, Statement.relabelledList change statements⟩

def Block.relabelledOption (change : Token → Token) : Option Block → Option Block
  | none => none
  | some block => some (block.relabelled change)

def Statement.relabelledList (change : Token → Token) : List Statement → List Statement
  | [] => []
  | first :: rest => first.relabelled change :: Statement.relabelledList change rest

end

/-- Two lists of expressions are changed one behind the other. -/
theorem Expression.relabelledList_append (change : Token → Token) (first second : List Expression) :
    Expression.relabelledList change (first ++ second) =
      Expression.relabelledList change first ++ Expression.relabelledList change second := by
  induction first with
  | nil => rfl
  | cons value rest inductionHypothesis =>
    rw [List.cons_append, relabelledList, relabelledList, inductionHypothesis, List.cons_append]

theorem Statement.relabelledList_append (change : Token → Token) (first second : List Statement) :
    Statement.relabelledList change (first ++ second) =
      Statement.relabelledList change first ++ Statement.relabelledList change second := by
  induction first with
  | nil => rfl
  | cons statement rest inductionHypothesis =>
    rw [List.cons_append, relabelledList, relabelledList, inductionHypothesis, List.cons_append]

/-- An expression that is kept in a list is changed there. -/
theorem Expression.relabelledList_toList (change : Token → Token) (value : Option Expression) :
    Expression.relabelledList change value.toList =
      (Expression.relabelledOption change value).toList := by
  cases value <;> rfl

theorem Statement.relabelledList_toList (change : Token → Token) (statement : Option Statement) :
    Statement.relabelledList change statement.toList =
      (statement.map (Statement.relabelled change)).toList := by
  cases statement <;> rfl

/-- A name whose token stays as it is stays the same. -/
theorem Identifier.relabelled_id (identifier : Identifier) :
    identifier.relabelled id = identifier :=
  identifier.ofToken_token

mutual

/-- A tree whose tokens stay as they are is the same tree. -/
theorem Expression.relabelled_id : ∀ value : Expression, value.relabelled id = value
  | .identifier name => congrArg Expression.identifier name.relabelled_id
  | .integer _ _ | .boolean _ _ => rfl
  | .unary _ _ operand => by
    rw [Expression.relabelled, Expression.relabelledOption_id operand, id]
  | .binary _ left _ right => by
    rw [Expression.relabelled, Expression.relabelledOption_id left,
      Expression.relabelledOption_id right, id]
  | .conditional _ condition consequence alternative => by
    rw [Expression.relabelled, Expression.relabelled_id condition, Block.relabelled_id consequence,
      Block.relabelledOption_id alternative, id]
  | .function _ parameters body => by
    have same : parameters.map (Identifier.relabelled id) = parameters := by
      rw [funext Identifier.relabelled_id]
      exact List.map_id parameters
    rw [Expression.relabelled, same, Block.relabelled_id body, id]
  | .call _ callee arguments => by
    rw [Expression.relabelled, Expression.relabelled_id callee,
      Expression.relabelledList_id arguments, id]

/-- An optional expression stays the same with its tokens. -/
theorem Expression.relabelledOption_id :
    ∀ value : Option Expression, Expression.relabelledOption id value = value
  | none => rfl
  | some value => by rw [Expression.relabelledOption, Expression.relabelled_id value]

/-- Several expressions stay the same with their tokens. -/
theorem Expression.relabelledList_id :
    ∀ values : List Expression, Expression.relabelledList id values = values
  | [] => rfl
  | first :: rest => by
    rw [Expression.relabelledList, Expression.relabelled_id first,
      Expression.relabelledList_id rest]

/-- A statement stays the same with its tokens. -/
theorem Statement.relabelled_id : ∀ statement : Statement, statement.relabelled id = statement
  | .letBinding _ name value => by
    rw [Statement.relabelled, Expression.relabelledOption_id value, name.relabelled_id, id]
  | .returnValue _ value => by rw [Statement.relabelled, Expression.relabelledOption_id value, id]
  | .expression _ value => by rw [Statement.relabelled, Expression.relabelledOption_id value, id]

/-- A block stays the same with its tokens. -/
theorem Block.relabelled_id : ∀ block : Block, block.relabelled id = block
  | ⟨_, statements⟩ => by rw [Block.relabelled, Statement.relabelledList_id statements, id]

/-- An optional block stays the same with its tokens. -/
theorem Block.relabelledOption_id :
    ∀ block : Option Block, Block.relabelledOption id block = block
  | none => rfl
  | some block => by rw [Block.relabelledOption, Block.relabelled_id block]

/-- Several statements stay the same with their tokens. -/
theorem Statement.relabelledList_id :
    ∀ statements : List Statement, Statement.relabelledList id statements = statements
  | [] => rfl
  | first :: rest => by
    rw [Statement.relabelledList, Statement.relabelled_id first,
      Statement.relabelledList_id rest]

end

def Program.relabelled (change : Token → Token) (program : Program) : Program :=
  ⟨Statement.relabelledList change program.statements⟩

end MonkeySyntax
