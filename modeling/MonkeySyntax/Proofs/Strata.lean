import Mathlib.Tactic
import MonkeySyntax.Cursor
import MonkeySyntax.Grammar

namespace MonkeySyntax

open Grammar

/-- A reader at a level reads the expressions of this stratum. No token binds above the level of
calls, so only atoms are left there. -/
def Level.stratum : Level → Stratum
  | lowest => .equality
  | equality => .comparison
  | comparison => .sum
  | sum => .product
  | product => .unary
  | unary => .unary
  | call => .atom

/-- The level of a reader is the bound above which operators bind. Tokens stop the reader when the
first of them does not bind above it. -/
def Level.Stops (level : Level) (following : List Token) : Prop :=
  ∀ token ∈ following.head?, ¬level < token.kind.level

namespace Level

/-- The end of the input stops every expression. -/
@[simp] theorem stops_nil (level : Level) : level.Stops [] := by
  simp [Stops]

/-- A token that does not bind above the level stops the expression in front of it. -/
@[simp] theorem stops_cons {level : Level} {token : Token} {rest : List Token} :
    level.Stops (token :: rest) ↔ ¬level < token.kind.level := by
  simp [Stops]

/-- A cursor decides by its next token alone whether the reader stops. -/
theorem stops_tail_iff {level : Level} {cursor : Cursor} :
    level.Stops cursor.tokens.tail ↔ ¬level < cursor.next.kind.level := by
  rw [Cursor.next_eq]
  cases cursor.tokens.tail with
  | nil => simpa using TokenKind.not_lt_level_endOfInput level
  | cons token rest => simp

/-- Where the loosest reader stops, an accepted statement may end without a semicolon. -/
theorem separated_of_stops {following : List Token} (stops : lowest.Stops following) :
    Separated .accepted following := by
  intro token first
  have notAbove := stops token first
  revert notAbove
  cases token.kind <;> decide

/-- Nothing binds above the level of calls. -/
theorem stops_call (following : List Token) : Level.call.Stops following := by
  intro token _ binds
  revert binds
  cases token.kind <;> decide

/-- A tighter reader stops wherever a looser one does. -/
theorem Stops.mono {lower upper : Level} {following : List Token} (stops : lower.Stops following)
    (ordered : lower.rank ≤ upper.rank) : upper.Stops following := by
  intro token first binds
  exact stops token first (Nat.lt_of_le_of_lt ordered binds)

end Level

namespace Grammar

/-- The rank of a stratum counts the looser ones. -/
def Stratum.rank : Stratum → Nat
  | equality => 0
  | comparison => 1
  | sum => 2
  | product => 3
  | unary => 4
  | call => 5
  | atom => 6

instance : LE Stratum := ⟨fun looser tighter => looser.rank ≤ tighter.rank⟩

instance (looser tighter : Stratum) : Decidable (looser ≤ tighter) :=
  inferInstanceAs (Decidable (looser.rank ≤ tighter.rank))

/-- No token behind an expression of the stratum binds it above this level unless the expression
is put into a looser stratum. -/
def Stratum.level : Stratum → Level
  | equality => .equality
  | comparison => .comparison
  | sum => .sum
  | product => .product
  | unary => .unary
  | call => .call
  | atom => .call

namespace Stratum

theorem le_rfl {stratum : Stratum} : stratum ≤ stratum :=
  Nat.le_refl _

/-- The order of the strata is transitive. -/
theorem le_trans {first second third : Stratum} (looser : first ≤ second)
    (tighter : second ≤ third) : first ≤ third :=
  Nat.le_trans looser tighter

/-- The next stratum is tighter. -/
theorem le_tighter (stratum : Stratum) : stratum ≤ stratum.tighter := by
  cases stratum <;> decide

/-- So is its level, or it is the same. -/
theorem rank_level_le_tighter (stratum : Stratum) :
    stratum.level.rank ≤ stratum.tighter.level.rank := by
  cases stratum <;> decide

/-- The operators of a stratum bind at its level. -/
@[simp] theorem level_stratumOf (operator : BinaryOperator) :
    (stratumOf operator).level = operator.kind.level := by
  cases operator <;> rfl

/-- The right operand of an operator is read at the level of the operator. -/
theorem stratum_level_kind (operator : BinaryOperator) :
    operator.kind.level.stratum = (stratumOf operator).tighter := by
  cases operator <;> rfl

/-- A reader of a stratum goes on at the operators of that stratum. -/
theorem lt_level_of_le_stratumOf {level : Level} {operator : BinaryOperator}
    (reads : level.stratum ≤ stratumOf operator) : level < operator.kind.level := by
  revert reads
  cases level <;> cases operator <;> decide

/-- A reader that goes on at an operator reads a stratum with the operator in it. -/
theorem le_stratumOf_of_lt_level {level : Level} {operator : BinaryOperator}
    (binds : level < operator.kind.level) : level.stratum ≤ stratumOf operator := by
  revert binds
  cases level <;> cases operator <;> decide

/-- An operator that does not bind above the level of a stratum belongs to it or to a looser one. -/
theorem stratumOf_le_of_not_lt {stratum : Stratum} {operator : BinaryOperator}
    (stops : ¬stratum.level < operator.kind.level) : stratumOf operator ≤ stratum := by
  revert stops
  cases stratum <;> cases operator <;> decide

/-- A reader of calls goes on at the parenthesis of a call. -/
theorem lt_call_of_le_call {level : Level} (reads : level.stratum ≤ call) :
    level < Level.call := by
  revert reads
  cases level <;> decide

/-- Where a parenthesis does not bind above the level of a stratum, the stratum is that of calls
or a tighter one. -/
theorem call_le_of_not_lt {stratum : Stratum} (stops : ¬stratum.level < Level.call) :
    call ≤ stratum := by
  revert stops
  cases stratum <;> decide

/-- What stops a reader stops the expressions of its stratum as well. -/
theorem rank_le_rank_level {level : Level} {stratum : Stratum} (reads : level.stratum ≤ stratum) :
    level.rank ≤ stratum.level.rank := by
  revert reads
  cases level <;> cases stratum <;> decide

/-- All readers but one at the level of calls read unary operations. -/
theorem stratum_le_unary {level : Level} (binding : level ≠ .call) : level.stratum ≤ unary := by
  revert binding
  cases level <;> decide

end Stratum

/-- An expression belongs to all strata that are looser than its own. -/
theorem ExpressionAt.loosen {dialect : Dialect} {looser tighter : Stratum}
    {input rest : List Token} {value : Expression} (ordered : looser ≤ tighter)
    (expression : ExpressionAt dialect tighter input rest value) :
    ExpressionAt dialect looser input rest value := by
  -- The strata between the two are left one by one, from the tighter side.
  by_cases reached : tighter.rank ≤ looser.rank
  · obtain rfl : looser = tighter := by
      have same : looser.rank = tighter.rank := Nat.le_antisymm ordered reached
      revert same
      cases looser <;> cases tighter <;> decide
    exact expression
  · have step : looser.tighter ≤ tighter ∧ looser.tighter.rank = looser.rank + 1 := by
      revert reached
      cases looser <;> cases tighter <;> decide
    exact .tighter (loosen step.1 expression)
termination_by tighter.rank - looser.rank
decreasing_by omega

end Grammar

end MonkeySyntax
