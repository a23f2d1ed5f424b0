import MonkeySyntax.Tree

namespace MonkeySyntax

mutual

/-- Every operation is put in parentheses, and every child is written the same way. -/
def Expression.canonical : Expression → String
  | .identifier name => name.name
  | .integer token _ => token.literal
  | .boolean token _ => token.literal
  | .unary _ operator operand =>
    "(" ++ operator.display ++ Expression.canonicalOption operand ++ ")"
  | .binary _ left operator right =>
    "(" ++ Expression.canonicalOption left ++ " " ++ operator.display ++ " " ++
      Expression.canonicalOption right ++ ")"
  | .conditional _ condition consequence alternative =>
    "if" ++ condition.canonical ++ " " ++ consequence.canonical ++
      Block.canonicalAlternative alternative
  | .function token parameters body =>
    token.literal ++ "(" ++ ", ".intercalate (parameters.map Identifier.name) ++ ") " ++
      body.canonical
  | .call _ callee arguments =>
    callee.canonical ++ "(" ++ ", ".intercalate (Expression.canonicalList arguments) ++ ")"

def Expression.canonicalOption : Option Expression → String
  | none => ""
  | some value => value.canonical

def Expression.canonicalList : List Expression → List String
  | [] => []
  | first :: rest => first.canonical :: Expression.canonicalList rest

/-- Only let and return statements are closed by a semicolon. -/
def Statement.canonical : Statement → String
  | .letBinding token name value =>
    token.literal ++ " " ++ name.name ++ " = " ++ Expression.canonicalOption value ++ ";"
  | .returnValue token value => token.literal ++ " " ++ Expression.canonicalOption value ++ ";"
  | .expression _ value => Expression.canonicalOption value

/-- A block is written as its statements, one behind the other. -/
def Block.canonical : Block → String
  | ⟨_, statements⟩ => String.join (Statement.canonicalList statements)

/-- Only a present alternative is announced. -/
def Block.canonicalAlternative : Option Block → String
  | none => ""
  | some block => "else " ++ block.canonical

def Statement.canonicalList : List Statement → List String
  | [] => []
  | first :: rest => first.canonical :: Statement.canonicalList rest

end

/-- Some expressions have some texts. -/
theorem Expression.canonicalList_ne_nil {values : List Expression} (nonempty : values ≠ []) :
    Expression.canonicalList values ≠ [] := by
  cases values with
  | nil => exact absurd rfl nonempty
  | cons first rest => simp [Expression.canonicalList]

/-- Texts of a list are kept apart by a comma and a blank. -/
theorem toList_intercalate_cons {first : String} {rest : List String} (nonempty : rest ≠ []) :
    (", ".intercalate (first :: rest)).toList =
      first.toList ++ ',' :: ' ' :: (", ".intercalate rest).toList := by
  rw [String.intercalate_cons_of_ne_nil nonempty]
  simp

def Program.canonical (program : Program) : String :=
  String.join (Statement.canonicalList program.statements)

end MonkeySyntax
