import MonkeySyntax.Tree

namespace MonkeySyntax

mutual

/-- The size of an expression counts it and every expression inside it. -/
def Expression.size : Expression → Nat
  | .identifier _ => 1
  | .integer _ _ => 1
  | .boolean _ _ => 1
  | .unary _ _ operand => 1 + Expression.sizeOption operand
  | .binary _ left _ right => 1 + Expression.sizeOption left + Expression.sizeOption right
  | .conditional _ condition consequence alternative =>
    1 + condition.size + consequence.size + Block.sizeOption alternative
  | .function _ _ body => 1 + body.size
  | .call _ callee arguments => 1 + callee.size + Expression.sizeList arguments

def Expression.sizeOption : Option Expression → Nat
  | none => 0
  | some value => value.size

def Expression.sizeList : List Expression → Nat
  | [] => 0
  | first :: rest => first.size + Expression.sizeList rest

def Statement.size : Statement → Nat
  | .letBinding _ _ value => Expression.sizeOption value
  | .returnValue _ value => Expression.sizeOption value
  | .expression _ value => Expression.sizeOption value

def Block.size : Block → Nat
  | ⟨_, statements⟩ => Statement.sizeList statements

def Block.sizeOption : Option Block → Nat
  | none => 0
  | some block => block.size

def Statement.sizeList : List Statement → Nat
  | [] => 0
  | first :: rest => first.size + Statement.sizeList rest

end

mutual

/-- The depth of an expression is one more than that of the deepest expression inside it. -/
def Expression.depth : Expression → Nat
  | .identifier _ => 1
  | .integer _ _ => 1
  | .boolean _ _ => 1
  | .unary _ _ operand => 1 + Expression.depthOption operand
  | .binary _ left _ right => 1 + max (Expression.depthOption left) (Expression.depthOption right)
  | .conditional _ condition consequence alternative =>
    1 + max condition.depth (max consequence.depth (Block.depthOption alternative))
  | .function _ _ body => 1 + body.depth
  | .call _ callee arguments => 1 + max callee.depth (Expression.depthList arguments)

def Expression.depthOption : Option Expression → Nat
  | none => 0
  | some value => value.depth

def Expression.depthList : List Expression → Nat
  | [] => 0
  | first :: rest => max first.depth (Expression.depthList rest)

def Statement.depth : Statement → Nat
  | .letBinding _ _ value => Expression.depthOption value
  | .returnValue _ value => Expression.depthOption value
  | .expression _ value => Expression.depthOption value

def Block.depth : Block → Nat
  | ⟨_, statements⟩ => Statement.depthList statements

def Block.depthOption : Option Block → Nat
  | none => 0
  | some block => block.depth

def Statement.depthList : List Statement → Nat
  | [] => 0
  | first :: rest => max first.depth (Statement.depthList rest)

end

/-- The size of a program counts its expressions. -/
def Program.size (program : Program) : Nat :=
  Statement.sizeList program.statements

/-- The depth of a program is that of its deepest expression. -/
def Program.depth (program : Program) : Nat :=
  Statement.depthList program.statements

end MonkeySyntax
