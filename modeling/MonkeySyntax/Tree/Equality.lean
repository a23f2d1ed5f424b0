import MonkeySyntax.Tree

namespace MonkeySyntax

mutual

/-- Two expressions agree when they have the same form and all their parts agree. -/
def Expression.agree : Expression → Expression → Bool
  | .identifier name, .identifier name' => name == name'
  | .integer token value, .integer token' value' => token == token' && value == value'
  | .boolean token value, .boolean token' value' => token == token' && value == value'
  | .unary token operator operand, .unary token' operator' operand' =>
    token == token' && operator == operator' && Expression.agreeOption operand operand'
  | .binary token left operator right, .binary token' left' operator' right' =>
    token == token' && Expression.agreeOption left left' && operator == operator' &&
      Expression.agreeOption right right'
  | .conditional token condition consequence alternative,
      .conditional token' condition' consequence' alternative' =>
    token == token' && condition.agree condition' && consequence.agree consequence' &&
      Block.agreeOption alternative alternative'
  | .function token parameters body, .function token' parameters' body' =>
    token == token' && parameters == parameters' && body.agree body'
  | .call token callee arguments, .call token' callee' arguments' =>
    token == token' && callee.agree callee' && Expression.agreeList arguments arguments'
  | _, _ => false

def Expression.agreeOption : Option Expression → Option Expression → Bool
  | none, none => true
  | some value, some value' => value.agree value'
  | _, _ => false

def Expression.agreeList : List Expression → List Expression → Bool
  | [], [] => true
  | first :: rest, first' :: rest' => first.agree first' && Expression.agreeList rest rest'
  | _, _ => false

/-- Two statements agree when they have the same form and all their parts agree. -/
def Statement.agree : Statement → Statement → Bool
  | .letBinding token name value, .letBinding token' name' value' =>
    token == token' && name == name' && Expression.agreeOption value value'
  | .returnValue token value, .returnValue token' value' =>
    token == token' && Expression.agreeOption value value'
  | .expression token value, .expression token' value' =>
    token == token' && Expression.agreeOption value value'
  | _, _ => false

def Block.agree : Block → Block → Bool
  | ⟨token, statements⟩, ⟨token', statements'⟩ =>
    token == token' && Statement.agreeList statements statements'

def Block.agreeOption : Option Block → Option Block → Bool
  | none, none => true
  | some block, some block' => block.agree block'
  | _, _ => false

def Statement.agreeList : List Statement → List Statement → Bool
  | [], [] => true
  | first :: rest, first' :: rest' => first.agree first' && Statement.agreeList rest rest'
  | _, _ => false

end

mutual

/-- Two expressions agree when they are equal. -/
theorem Expression.agree_iff : ∀ value other : Expression, value.agree other ↔ value = other
  | .identifier _, other => by cases other <;> simp [Expression.agree]
  | .integer _ _, other => by cases other <;> simp [Expression.agree]
  | .boolean _ _, other => by cases other <;> simp [Expression.agree]
  | .unary _ _ operand, other => by
    cases other <;> simp [Expression.agree, Expression.agreeOption_iff operand, and_assoc]
  | .binary _ left _ right, other => by
    cases other <;> simp [Expression.agree, Expression.agreeOption_iff left,
      Expression.agreeOption_iff right, and_assoc]
  | .conditional _ condition consequence alternative, other => by
    cases other <;> simp [Expression.agree, Expression.agree_iff condition,
      Block.agree_iff consequence, Block.agreeOption_iff alternative, and_assoc]
  | .function _ _ body, other => by
    cases other <;> simp [Expression.agree, Block.agree_iff body, and_assoc]
  | .call _ callee arguments, other => by
    cases other <;> simp [Expression.agree, Expression.agree_iff callee,
      Expression.agreeList_iff arguments, and_assoc]

/-- An absent expression agrees with an absent one alone. -/
theorem Expression.agreeOption_iff :
    ∀ value other : Option Expression, Expression.agreeOption value other ↔ value = other
  | none, other => by cases other <;> simp [Expression.agreeOption]
  | some value, other => by
    cases other <;> simp [Expression.agreeOption, Expression.agree_iff value]

/-- Lists of expressions agree one by one. -/
theorem Expression.agreeList_iff :
    ∀ list others : List Expression, Expression.agreeList list others ↔ list = others
  | [], others => by cases others <;> simp [Expression.agreeList]
  | first :: rest, others => by
    cases others <;> simp [Expression.agreeList, Expression.agree_iff first,
      Expression.agreeList_iff rest]

/-- Two statements agree when they are equal. -/
theorem Statement.agree_iff : ∀ statement other : Statement,
    statement.agree other ↔ statement = other
  | .letBinding _ _ value, other => by
    cases other <;> simp [Statement.agree, Expression.agreeOption_iff value, and_assoc]
  | .returnValue _ value, other => by
    cases other <;> simp [Statement.agree, Expression.agreeOption_iff value]
  | .expression _ value, other => by
    cases other <;> simp [Statement.agree, Expression.agreeOption_iff value]

/-- Two blocks agree when they are equal. -/
theorem Block.agree_iff : ∀ block other : Block, block.agree other ↔ block = other
  | ⟨_, statements⟩, ⟨_, _⟩ => by simp [Block.agree, Statement.agreeList_iff statements]

/-- An absent block agrees with an absent one alone. -/
theorem Block.agreeOption_iff :
    ∀ block other : Option Block, Block.agreeOption block other ↔ block = other
  | none, other => by cases other <;> simp [Block.agreeOption]
  | some block, other => by cases other <;> simp [Block.agreeOption, Block.agree_iff block]

/-- Lists of statements agree one by one. -/
theorem Statement.agreeList_iff :
    ∀ list others : List Statement, Statement.agreeList list others ↔ list = others
  | [], others => by cases others <;> simp [Statement.agreeList]
  | first :: rest, others => by
    cases others <;> simp [Statement.agreeList, Statement.agree_iff first,
      Statement.agreeList_iff rest]

end

instance : DecidableEq Expression := fun value other =>
  decidable_of_iff _ (Expression.agree_iff value other)

instance : DecidableEq Statement := fun statement other =>
  decidable_of_iff _ (Statement.agree_iff statement other)

instance : DecidableEq Block := fun block other =>
  decidable_of_iff _ (Block.agree_iff block other)

/-- Programs are equal when their statements are. -/
instance : DecidableEq Program := fun ⟨statements⟩ ⟨others⟩ =>
  decidable_of_iff (statements = others) (by simp)

end MonkeySyntax
