import MonkeySyntax.Token

namespace MonkeySyntax

/-- A unary operator stands before its operand. -/
inductive UnaryOperator where
  | minus
  | bang
deriving DecidableEq

namespace UnaryOperator

def kind : UnaryOperator → TokenKind
  | minus => .minus
  | bang => .bang

/-- A kind of token spells at most one unary operator. -/
def ofKind? : TokenKind → Option UnaryOperator
  | .minus => some minus
  | .bang => some bang
  | _ => none

/-- A token spells a unary operator when it is of the kind of that operator. -/
theorem ofKind?_eq_some_iff {kind : TokenKind} {operator : UnaryOperator} :
    ofKind? kind = some operator ↔ operator.kind = kind := by
  cases operator <;> cases kind <;> decide

/-- Canonical text spells an operator as its token is shown. -/
def display (operator : UnaryOperator) : String :=
  operator.kind.display

end UnaryOperator

/-- A binary operator stands between its operands. -/
inductive BinaryOperator where
  | plus
  | minus
  | asterisk
  | slash
  | less
  | greater
  | equal
  | notEqual
deriving DecidableEq

namespace BinaryOperator

def kind : BinaryOperator → TokenKind
  | plus => .plus
  | minus => .minus
  | asterisk => .asterisk
  | slash => .slash
  | less => .less
  | greater => .greater
  | equal => .equal
  | notEqual => .notEqual

/-- A kind of token spells at most one binary operator. -/
def ofKind? : TokenKind → Option BinaryOperator
  | .plus => some plus
  | .minus => some minus
  | .asterisk => some asterisk
  | .slash => some slash
  | .less => some less
  | .greater => some greater
  | .equal => some equal
  | .notEqual => some notEqual
  | _ => none

/-- A token spells a binary operator when it is of the kind of that operator. -/
theorem ofKind?_eq_some_iff {kind : TokenKind} {operator : BinaryOperator} :
    ofKind? kind = some operator ↔ operator.kind = kind := by
  cases operator <;> cases kind <;> decide

/-- Canonical text spells an operator as its token is shown. -/
def display (operator : BinaryOperator) : String :=
  operator.kind.display

end BinaryOperator

/-- The levels run from the loosest binding to the tightest. -/
inductive Level where
  | lowest
  | equality
  | comparison
  | sum
  | product
  | unary
  | call
deriving DecidableEq

namespace Level

/-- The rank of a level counts the levels below it. -/
def rank : Level → Nat
  | lowest => 0
  | equality => 1
  | comparison => 2
  | sum => 3
  | product => 4
  | unary => 5
  | call => 6

instance : LT Level := ⟨fun lower upper => lower.rank < upper.rank⟩

instance (lower upper : Level) : Decidable (lower < upper) :=
  inferInstanceAs (Decidable (lower.rank < upper.rank))

theorem lt_iff {lower upper : Level} : lower < upper ↔ lower.rank < upper.rank := Iff.rfl

end Level

/-- A token behind an operand binds it at this level; most kinds do not bind at all. -/
def TokenKind.level : TokenKind → Level
  | equal | notEqual => .equality
  | less | greater => .comparison
  | plus | minus => .sum
  | asterisk | slash => .product
  | leftParenthesis => .call
  | _ => .lowest

/-- A kind that binds is the parenthesis of a call or spells a binary operator. -/
theorem TokenKind.lowest_lt_level_iff (kind : TokenKind) :
    Level.lowest < kind.level ↔
      kind = .leftParenthesis ∨ (BinaryOperator.ofKind? kind).isSome := by
  cases kind <;> decide

/-- What binds without being an operator is an opening parenthesis. -/
theorem TokenKind.eq_leftParenthesis_of_binds {level : Level} {kind : TokenKind}
    (binds : level < kind.level) (noOperator : BinaryOperator.ofKind? kind = none) :
    kind = .leftParenthesis := by
  have above : Level.lowest < kind.level := Nat.lt_of_le_of_lt (Nat.zero_le _) binds
  obtain opens | isOperator := (TokenKind.lowest_lt_level_iff kind).mp above
  · exact opens
  · rw [noOperator] at isOperator
    cases isOperator

/-- The end of the input binds nothing. -/
theorem TokenKind.not_lt_level_endOfInput (level : Level) :
    ¬level < TokenKind.endOfInput.level := by
  cases level <;> decide

end MonkeySyntax
