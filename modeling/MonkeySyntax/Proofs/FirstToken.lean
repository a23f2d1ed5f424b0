import Mathlib.Tactic
import MonkeySyntax.Grammar
import MonkeySyntax.Operand
import MonkeySyntax.Reading.Program

namespace MonkeySyntax

open Grammar

/-- Statements start with one of two keywords or with the first token of an operand. -/
def TokenKind.StartsStatement (kind : TokenKind) : Prop :=
  kind = .letKeyword ∨ kind = .returnKeyword ∨ kind.operandForm?.isSome

namespace TokenKind.StartsStatement

variable {kind : TokenKind}

/-- No scope ends where a statement can start. -/
theorem endsAt_eq_false (starts : kind.StartsStatement) (scope : Scope) :
    scope.endsAt kind = false := by
  obtain rfl | rfl | isOperand := starts
  · cases scope <;> rfl
  · cases scope <;> rfl
  · revert isOperand
    cases scope <;> cases kind <;> decide

/-- Of the tokens that start a statement only two can bind. -/
theorem level_eq_lowest (starts : kind.StartsStatement)
    (apart : kind ≠ .minus ∧ kind ≠ .leftParenthesis) : kind.level = .lowest := by
  obtain rfl | rfl | isOperand := starts
  · rfl
  · rfl
  · revert isOperand apart
    cases kind <;> decide

/-- A semicolon starts no statement. -/
theorem ne_semicolon (starts : kind.StartsStatement) : kind ≠ .semicolon := by
  rintro rfl
  obtain isLet | isReturn | isOperand := starts
  · cases isLet
  · cases isReturn
  · cases isOperand

/-- Nor does the keyword of an alternative. -/
theorem ne_elseKeyword (starts : kind.StartsStatement) : kind ≠ .elseKeyword := by
  rintro rfl
  obtain isLet | isReturn | isOperand := starts
  · cases isLet
  · cases isReturn
  · cases isOperand

end TokenKind.StartsStatement

namespace Grammar

variable {dialect : Dialect} {input rest : List Token}

/-- A derived expression starts with the first token of an operand. -/
theorem ExpressionAt.exists_first {stratum : Stratum} {input rest : List Token}
    {value : Expression} (derived : ExpressionAt dialect stratum input rest value) :
    ∃ token behind, input = token :: behind ∧ token.kind.operandForm?.isSome := by
  match derived with
  | .tighter inner => exact inner.exists_first
  | .binary leftOperand _ _ => exact leftOperand.exists_first
  | @ExpressionAt.unary _ operator token _ _ _ spells _ =>
    have form : token.kind.operandForm? = some (.unary operator) :=
      TokenKind.operandForm?_eq_some_iff.mpr spells.symm
    exact ⟨_, _, rfl, by rw [form]; rfl⟩
  | .call callee _ => exact callee.exists_first
  | .identifier isName => exact ⟨_, _, rfl, by rw [isName]; rfl⟩
  | .integer isInteger _ => exact ⟨_, _, rfl, by rw [isInteger]; rfl⟩
  | .trueLiteral isKeyword => exact ⟨_, _, rfl, by rw [isKeyword]; rfl⟩
  | .falseLiteral isKeyword => exact ⟨_, _, rfl, by rw [isKeyword]; rfl⟩
  | .group opens _ _ => exact ⟨_, _, rfl, by rw [opens]; rfl⟩
  | .conditional isKeyword _ _ _ _ => exact ⟨_, _, rfl, by rw [isKeyword]; rfl⟩
  | .alternative isKeyword _ _ _ _ _ _ => exact ⟨_, _, rfl, by rw [isKeyword]; rfl⟩
  | .function isKeyword _ _ => exact ⟨_, _, rfl, by rw [isKeyword]; rfl⟩

theorem Arguments.exists_first {arguments : List Expression}
    (list : Arguments dialect input rest arguments) :
    ∃ token behind, input = token :: behind ∧ token.kind.operandForm?.isSome := by
  cases list with
  | one inner => exact inner.exists_first
  | more first => exact first.exists_first

/-- A derived statement starts with a token that starts one. -/
theorem StatementAt.exists_first {statement : Statement}
    (derived : StatementAt dialect input rest statement) :
    ∃ token behind, input = token :: behind ∧ token.kind.StartsStatement := by
  cases derived with
  | letBinding isKeyword => exact ⟨_, _, rfl, .inl isKeyword⟩
  | returnValue isKeyword => exact ⟨_, _, rfl, .inr (.inl isKeyword)⟩
  | expression inner =>
    obtain ⟨token, behind, same, isOperand⟩ := inner.exists_first
    exact ⟨token, behind, same, .inr (.inr isOperand)⟩

/-- A derived block starts with a brace. -/
theorem BlockAt.exists_first {block : Block} (derived : BlockAt dialect input rest block) :
    ∃ token behind, input = token :: behind ∧ token.kind = .leftBrace := by
  cases derived with
  | closed opens => exact ⟨_, _, rfl, opens⟩
  | unclosed _ opens => exact ⟨_, _, rfl, opens⟩

end Grammar

end MonkeySyntax
