import MonkeySyntax.Proofs.Correspondence
import MonkeySyntax.Proofs.Runs

namespace MonkeySyntax

variable {correspondence : Correspondence}

/-- A reader of expressions goes in step wherever a cursor corresponds to its own. -/
def Expression.ReadInStep (correspondence : Correspondence) (level : Level) (cursor : Cursor) :
    Prop :=
  ∀ other, correspondence.Related cursor other →
    (Expression.read level cursor).InStep correspondence
      (Expression.relabelledOption correspondence.change) (Expression.read level other)

/-- Also the left operand in the other input has other tokens in it. -/
def Expression.ExtendInStep (correspondence : Correspondence) (level : Level)
    (left : Option Expression) (cursor : Cursor) : Prop :=
  ∀ other, correspondence.Related cursor other →
    (Expression.extend level left cursor).InStep correspondence
      (Expression.relabelledOption correspondence.change)
      (Expression.extend level (Expression.relabelledOption correspondence.change left) other)

def Expression.ArgumentsInStep (correspondence : Correspondence) (cursor : Cursor) : Prop :=
  ∀ other, correspondence.Related cursor other →
    (Expression.readArguments cursor).InStep correspondence
      (Option.map (Expression.relabelledList correspondence.change))
      (Expression.readArguments other)

def Expression.ListInStep (correspondence : Correspondence) (cursor : Cursor) : Prop :=
  ∀ other, correspondence.Related cursor other →
    (Expression.readList cursor).InStep correspondence
      (Expression.relabelledList correspondence.change) (Expression.readList other)

/-- An operand is read only where the current token is of the kind that starts it. -/
def Expression.OperandInStep (correspondence : Correspondence) (form : OperandForm)
    (cursor : Cursor) (present : 0 < cursor.remaining) : Prop :=
  ∀ other presentImage, correspondence.Related cursor other →
    cursor.current.kind = form.kind →
      (Expression.readOperand form cursor present).InStep correspondence
        (Expression.relabelledOption correspondence.change)
        (Expression.readOperand form other presentImage)

def Block.ReadInStep (correspondence : Correspondence) (cursor : Cursor) : Prop :=
  ∀ other, correspondence.Related cursor other → cursor.current.kind = .leftBrace →
    (Block.read cursor).InStep correspondence (Block.relabelled correspondence.change)
      (Block.read other)

def Statement.ListInStep (correspondence : Correspondence) (scope : Scope) (cursor : Cursor) :
    Prop :=
  ∀ other, correspondence.Related cursor other →
    (Statement.readList scope cursor).InStep correspondence
      (Statement.relabelledList correspondence.change) (Statement.readList scope other)

def Statement.ReadInStep (correspondence : Correspondence) (cursor : Cursor) : Prop :=
  ∀ other, correspondence.Related cursor other → cursor.current.kind ≠ .endOfInput →
    (Statement.read cursor).InStep correspondence
      (Option.map (Statement.relabelled correspondence.change)) (Statement.read other)

namespace Correspondence

variable {cursor other : Cursor}

/-- A current token that is no end of the input is changed in the other input. -/
theorem current_eq_of_ne (related : correspondence.Related cursor other)
    (present : cursor.current.kind ≠ .endOfInput) :
    other.current = correspondence.change cursor.current :=
  correspondence.current_eq related (Cursor.remaining_pos present)

/-- The next tokens correspond as well, except at the end of the input. -/
theorem next_eq_of_ne (related : correspondence.Related cursor other)
    (present : cursor.next.kind ≠ .endOfInput) :
    other.next = correspondence.change cursor.next :=
  correspondence.next_eq related (Cursor.one_lt_remaining present)

end Correspondence

namespace Identifier

/-- No token is wrong as a parameter. -/
theorem errors_readList (cursor : Cursor) : (Identifier.readList cursor).errors = [] := by
  rw [(readList_coherent cursor).errors_eq, (readList_runs cursor).1, List.filterMap_nil]

/-- Parameters are read in step. They correspond unless the last one stands at the end of the
input, where a parameter is no token of the input. -/
theorem readList_inStep (cursor other : Cursor) (related : correspondence.Related cursor other)
    (within : correspondence.limit ≤ (Identifier.readList cursor).rest.remaining) :
    correspondence.Related (Identifier.readList cursor).rest (Identifier.readList other).rest ∧
      ((Identifier.readList cursor).rest.next.kind ≠ .endOfInput →
        (Identifier.readList other).value = (Identifier.readList cursor).value.map
          (Identifier.relabelled correspondence.change)) := by
  induction cursor using Identifier.readList.induct generalizing other with
  | case1 cursor isComma present inductionHypothesis =>
    have isCommaImage : other.next.kind = .comma := by
      rw [correspondence.kind_next related, isComma]
    rw [Identifier.readList, dif_pos isComma] at within ⊢
    rw [Identifier.readList.eq_def other, dif_pos isCommaImage]
    have withinOthers : correspondence.limit ≤ cursor.advance.advance.remaining :=
      within.trans (Identifier.readList cursor.advance.advance).within
    have withinNext : correspondence.limit ≤ cursor.advance.remaining :=
      withinOthers.trans cursor.advance.tokens_advance_suffix.length_le
    have relatedOthers := correspondence.advance (correspondence.advance related withinNext)
      withinOthers
    obtain ⟨relatedRest, same⟩ := inductionHypothesis _ relatedOthers within
    refine ⟨relatedRest, ?_⟩
    intro more
    simp only [Reading.value_fromNext, Reading.value_map, List.map_cons]
    rw [same more, correspondence.current_eq related (Nat.lt_of_succ_lt present)]
    rfl
  | case2 cursor noComma =>
    have noCommaImage : other.next.kind ≠ .comma := by
      rw [correspondence.kind_next related]
      exact noComma
    rw [Identifier.readList, dif_neg noComma] at within ⊢
    rw [Identifier.readList.eq_def other, dif_neg noCommaImage]
    refine ⟨related, ?_⟩
    intro more
    have present := Nat.lt_of_succ_lt (Cursor.one_lt_remaining more)
    rw [Reading.value_pure, Reading.value_pure, correspondence.current_eq related present]
    rfl

/-- Parameters that a parenthesis closes are tokens of the input. -/
theorem readParameters_inStep (cursor other : Cursor)
    (related : correspondence.Related cursor other) :
    (Identifier.readParameters cursor).InStep correspondence
      (Option.map (List.map (Identifier.relabelled correspondence.change)))
      (Identifier.readParameters other) := by
  have sameKind := correspondence.kind_next related
  by_cases closes : cursor.next.kind = .rightParenthesis
  · rw [Identifier.readParameters, if_pos closes, Identifier.readParameters,
      if_pos (sameKind.trans closes)]
    apply Reading.InStep.fromNext related
    intro relatedNext
    exact Reading.inStep_pure relatedNext rfl
  · rw [Identifier.readParameters, if_neg closes, Identifier.readParameters,
      if_neg (by rw [sameKind]; exact closes)]
    apply Reading.InStep.fromNext related
    intro relatedNext
    apply Reading.inStep_andThen
    intro reached
    obtain ⟨relatedLast, same⟩ := readList_inStep _ _ relatedNext reached
    refine ⟨by rw [errors_readList, errors_readList], ?_⟩
    apply Cursor.inStep_expecting relatedLast rfl
    intro isClosing _ relatedClosing
    apply Reading.inStep_pure relatedClosing
    rw [same (by rw [isClosing]; decide), Option.map_some]

end Identifier

namespace Expression

variable {level : Level} {left : Option Expression} {cursor : Cursor}

/-- Both readings miss their operands at once. -/
theorem readInStep_of_no_operand (missing : cursor.current.kind.operandForm? = none) :
    ReadInStep correspondence level cursor := by
  intro other related
  have sameKind := correspondence.kind_current related
  rw [read_of_operandForm?_eq_none missing,
    read_of_operandForm?_eq_none (by rw [sameKind]; exact missing)]
  exact Reading.inStep_fail related (by rw [sameKind]) rfl

/-- Both readings start with the same form of operand. -/
theorem readInStep_of_operand {form : OperandForm} {present : 0 < cursor.remaining}
    (starts : cursor.current.kind.operandForm? = some form)
    (operand : OperandInStep correspondence form cursor present)
    (extended : ∀ left rest, rest.remaining ≤ cursor.remaining →
      ExtendInStep correspondence level left rest) :
    ReadInStep correspondence level cursor := by
  intro other related
  have hasForm := TokenKind.operandForm?_eq_some_iff.mp starts
  have startsImage : other.current.kind.operandForm? = some form := by
    rw [correspondence.kind_current related, starts]
  have presentImage : 0 < other.remaining :=
    Cursor.remaining_pos fun ended => by simp [ended, TokenKind.operandForm?] at startsImage
  rw [read_of_operandForm?_eq_some starts present,
    read_of_operandForm?_eq_some startsImage presentImage]
  apply (operand other presentImage related hasForm.symm).andThen
  intro left rest image within _ relatedRest
  exact extended left rest within image relatedRest

/-- Both operands are extended by the same operator. -/
theorem extendInStep_of_operator {operator : BinaryOperator}
    (binds : level < cursor.next.kind.level)
    (spells : BinaryOperator.ofKind? cursor.next.kind = some operator)
    (rightOperand : ReadInStep correspondence cursor.next.kind.level cursor.advance.advance)
    (extended : ∀ right rest, rest.remaining ≤ cursor.advance.advance.remaining →
      ExtendInStep correspondence level (some (.binary cursor.next left operator right)) rest) :
    ExtendInStep correspondence level left cursor := by
  intro other related
  have sameKind := correspondence.kind_next related
  have sameToken := correspondence.next_eq_of_ne related (Level.next_ne binds)
  rw [extend_of_operator binds spells,
    extend_of_operator (by rw [sameKind]; exact binds) (by rw [sameKind]; exact spells), sameKind,
    sameToken]
  apply Reading.InStep.fromNext related
  intro relatedOperator
  apply Reading.InStep.fromNext relatedOperator
  intro relatedRight
  apply (rightOperand _ relatedRight).andThen
  intro right rest image within _ relatedRest
  exact extended right rest within image relatedRest

/-- Both operands are called. -/
theorem extendInStep_of_call (binds : level < cursor.next.kind.level)
    (noOperator : BinaryOperator.ofKind? cursor.next.kind = none)
    (list : ArgumentsInStep correspondence cursor.advance)
    (extended : ∀ arguments rest, rest.remaining ≤ cursor.advance.remaining →
      ExtendInStep correspondence level (called cursor.next left arguments) rest) :
    ExtendInStep correspondence level left cursor := by
  intro other related
  have sameKind := correspondence.kind_next related
  have sameToken := correspondence.next_eq_of_ne related (Level.next_ne binds)
  rw [extend_of_call binds noOperator,
    extend_of_call (by rw [sameKind]; exact binds) (by rw [sameKind]; exact noOperator), sameToken]
  apply Reading.InStep.fromNext related
  intro relatedNext
  apply (list _ relatedNext).andThen
  intro arguments rest image within _ relatedRest
  have inStep := extended arguments rest within image relatedRest
  cases left <;> cases arguments <;> exact inStep

/-- Neither operand is extended. -/
theorem extendInStep_of_stop (stops : ¬level < cursor.next.kind.level) :
    ExtendInStep correspondence level left cursor := by
  intro other related
  have sameKind := correspondence.kind_next related
  rw [extend_of_not_lt stops, extend_of_not_lt (by rw [sameKind]; exact stops)]
  exact Reading.inStep_pure related rfl

/-- Neither call has arguments. -/
theorem argumentsInStep_of_none (closes : cursor.next.kind = .rightParenthesis) :
    ArgumentsInStep correspondence cursor := by
  intro other related
  have closesImage := (correspondence.kind_next related).trans closes
  rw [readArguments, if_pos closes, readArguments, if_pos closesImage]
  apply Reading.InStep.fromNext related
  intro relatedNext
  exact Reading.inStep_pure relatedNext rfl

/-- Both calls have arguments and need a closing parenthesis. -/
theorem argumentsInStep_of_some (filled : ¬cursor.next.kind = .rightParenthesis)
    (list : ListInStep correspondence cursor.advance) : ArgumentsInStep correspondence cursor := by
  intro other related
  have filledImage : ¬other.next.kind = .rightParenthesis := by
    rw [correspondence.kind_next related]
    exact filled
  rw [readArguments, if_neg filled, readArguments, if_neg filledImage]
  apply Reading.InStep.fromNext related
  intro relatedNext
  apply (list _ relatedNext).andThen
  intro arguments last image _ _ relatedLast
  apply Cursor.inStep_expecting relatedLast rfl
  intro _ _ relatedClosing
  exact Reading.inStep_pure relatedClosing rfl

/-- Both lists of arguments go on behind a comma or end together. -/
theorem listInStep_step (first : ReadInStep correspondence .lowest cursor)
    (others : ∀ last : Cursor, last.remaining ≤ cursor.remaining → last.next.kind = .comma →
      ListInStep correspondence last.advance.advance) : ListInStep correspondence cursor := by
  intro other related
  rw [readList, readList.eq_def other]
  apply (first other related).andThen
  intro value last image within _ relatedLast
  have sameKind := correspondence.kind_next relatedLast
  have sameFirst := relabelledList_toList correspondence.change value
  by_cases isComma : last.next.kind = .comma
  · rw [dif_pos isComma, dif_pos (sameKind.trans isComma)]
    apply Reading.InStep.fromNext relatedLast
    intro relatedComma
    apply Reading.InStep.fromNext relatedComma
    intro relatedOthers
    apply (others last within isComma _ relatedOthers).map
    intro values
    rw [relabelledList_append, sameFirst]
  · rw [dif_neg isComma, dif_neg (by rw [sameKind]; exact isComma)]
    exact Reading.inStep_pure relatedLast sameFirst.symm

section Operands

variable {present : 0 < cursor.remaining}

/-- Names are read from corresponding tokens. -/
theorem operandInStep_identifier : OperandInStep correspondence .identifier cursor present := by
  intro other _ related _
  rw [readOperand, readOperand, correspondence.current_eq related present]
  exact Reading.inStep_pure related rfl

/-- An integer is the same token in both inputs. -/
theorem current_eq_of_integer {other : Cursor} (related : correspondence.Related cursor other)
    (present : 0 < cursor.remaining) (isInteger : cursor.current.kind = .integer) :
    other.current = cursor.current := by
  rw [correspondence.current_eq related present, correspondence.keepsIntegers isInteger]

/-- The literal of an integer is kept, and so is its value. -/
theorem operandInStep_integer {value : Int64}
    (denotes : Decimal.int64? cursor.current.literal = some value) :
    OperandInStep correspondence .integer cursor present := by
  intro other _ related isInteger
  have same := current_eq_of_integer related present isInteger
  rw [readOperand, readOperand, same]
  simp only [denotes]
  apply Reading.inStep_pure related
  rw [relabelledOption, relabelled, correspondence.keepsIntegers isInteger]

/-- A literal that is no integer is reported on both sides. -/
theorem operandInStep_notInteger (denotes : Decimal.int64? cursor.current.literal = none) :
    OperandInStep correspondence .integer cursor present := by
  intro other _ related isInteger
  have same := current_eq_of_integer related present isInteger
  rw [readOperand, readOperand, same]
  simp only [denotes]
  exact Reading.inStep_fail related rfl rfl

/-- Truth values depend on kinds alone. -/
theorem operandInStep_boolean (value : Bool) :
    OperandInStep correspondence (.boolean value) cursor present := by
  intro other _ related _
  rw [readOperand, readOperand, correspondence.current_eq related present]
  exact Reading.inStep_pure related rfl

/-- Prefix operators are the same on both sides. -/
theorem operandInStep_unary (operator : UnaryOperator)
    (inner : ReadInStep correspondence .unary cursor.advance) :
    OperandInStep correspondence (.unary operator) cursor present := by
  intro other _ related _
  rw [readOperand, readOperand, correspondence.current_eq related present]
  apply Reading.InStep.fromNext related
  intro relatedNext
  exact (inner _ relatedNext).map fun _ => rfl

/-- Both groups are closed or left open. -/
theorem operandInStep_group (inner : ReadInStep correspondence .lowest cursor.advance) :
    OperandInStep correspondence .group cursor present := by
  intro other _ related _
  rw [readOperand, readOperand]
  apply Reading.InStep.fromNext related
  intro relatedNext
  apply (inner _ relatedNext).andThen
  intro value last image _ _ relatedLast
  apply Cursor.inStep_expecting relatedLast rfl
  intro _ _ relatedClosing
  exact Reading.inStep_pure relatedClosing rfl

/-- Both conditionals go as far as each other. -/
theorem operandInStep_conditional
    (test : ReadInStep correspondence .lowest cursor.advance.advance)
    (branch : ∀ tested : Cursor, tested.remaining ≤ cursor.advance.advance.remaining →
      Block.ReadInStep correspondence tested.advance.advance)
    (otherBranch : ∀ tested : Cursor, tested.remaining ≤ cursor.advance.advance.remaining →
      ∀ closed : Cursor, closed.remaining ≤ tested.advance.advance.remaining →
        Block.ReadInStep correspondence closed.advance.advance) :
    OperandInStep correspondence .conditional cursor present := by
  intro other _ related _
  rw [readOperand, readOperand, correspondence.current_eq related present]
  apply Cursor.inStep_expecting related rfl
  intro _ _ relatedOpening
  apply Reading.InStep.fromNext relatedOpening
  intro relatedTest
  apply (test _ relatedTest).andThen
  intro condition tested _ within _ relatedTested
  apply Cursor.inStep_expecting relatedTested rfl
  intro _ _ relatedClosing
  apply Cursor.inStep_expecting relatedClosing rfl
  intro isBrace _ relatedBrace
  have atBrace : tested.advance.advance.current.kind = .leftBrace := by
    rw [Cursor.current_advance, isBrace]
  apply (branch tested within _ relatedBrace atBrace).andThen
  intro consequence closed image withinBranch _ relatedClosed
  have sameKind := correspondence.kind_next relatedClosed
  by_cases isElse : closed.next.kind = .elseKeyword
  · rw [if_pos isElse, if_pos (sameKind.trans isElse)]
    apply Reading.InStep.fromNext relatedClosed
    intro relatedElse
    apply Cursor.inStep_expecting relatedElse rfl
    intro isOtherBrace _ relatedOther
    have atOtherBrace : closed.advance.advance.current.kind = .leftBrace := by
      rw [Cursor.current_advance, isOtherBrace]
    apply (otherBranch tested within closed withinBranch _ relatedOther atOtherBrace).map
    intro alternative
    cases condition <;> rfl
  · rw [if_neg isElse, if_neg (by rw [sameKind]; exact isElse)]
    apply Reading.inStep_pure relatedClosed
    cases condition <;> rfl

/-- Both functions go as far as each other. -/
theorem operandInStep_function
    (inner : ∀ closed : Cursor, closed.remaining ≤ cursor.advance.remaining →
      Block.ReadInStep correspondence closed.advance) :
    OperandInStep correspondence .function cursor present := by
  intro other _ related _
  rw [readOperand, readOperand, correspondence.current_eq related present]
  apply Cursor.inStep_expecting related rfl
  intro _ _ relatedOpening
  apply (Identifier.readParameters_inStep _ _ relatedOpening).andThen
  intro parameters closed image within _ relatedClosed
  cases parameters with
  | none => exact Reading.inStep_pure relatedClosed rfl
  | some parameters =>
    apply Cursor.inStep_expecting relatedClosed rfl
    intro isBrace _ relatedBrace
    have atBrace : closed.advance.current.kind = .leftBrace := by
      rw [Cursor.current_advance, isBrace]
    exact (inner closed within _ relatedBrace atBrace).map fun _ => rfl

end Operands

end Expression

/-- Blocks keep in step when their statements do. -/
theorem Block.readInStep_step {cursor : Cursor}
    (statements : Statement.ListInStep correspondence .block cursor.advance) :
    Block.ReadInStep correspondence cursor := by
  intro other related opens
  have same := correspondence.current_eq_of_ne related (by rw [opens]; decide)
  rw [Block.read, Block.read, same]
  apply Reading.InStep.fromNext related
  intro relatedNext
  exact (statements _ relatedNext).map fun _ => rfl

namespace Statement

variable {scope : Scope} {cursor : Cursor}

/-- Both scopes end at once. -/
theorem listInStep_of_end (ends : scope.endsAt cursor.current.kind) :
    ListInStep correspondence scope cursor := by
  intro other related
  have endsImage : scope.endsAt other.current.kind := by
    rw [correspondence.kind_current related, ends]
  rw [readList, dif_pos ends, readList, dif_pos endsImage]
  exact Reading.inStep_pure related rfl

/-- Both scopes go on with a statement. -/
theorem listInStep_of_statement (continues : ¬scope.endsAt cursor.current.kind)
    (first : ReadInStep correspondence cursor)
    (others : ∀ last : Cursor, last.remaining ≤ cursor.remaining →
      ListInStep correspondence scope last.advance) : ListInStep correspondence scope cursor := by
  intro other related
  have continuesImage : ¬scope.endsAt other.current.kind := by
    rw [correspondence.kind_current related]
    exact continues
  rw [readList, dif_neg continues, readList.eq_def scope other, dif_neg continuesImage]
  apply (first other related (Scope.current_ne continues)).andThen
  intro statement last image within _ relatedLast
  apply Reading.InStep.fromNext relatedLast
  intro relatedNext
  apply (others last within _ relatedNext).map
  intro statements
  rw [relabelledList_append, relabelledList_toList]

/-- Both statements have the same form. -/
theorem readInStep_step
    (bound : Expression.ReadInStep correspondence .lowest cursor.advance.advance.advance)
    (returned : Expression.ReadInStep correspondence .lowest cursor.advance)
    (expression : Expression.ReadInStep correspondence .lowest cursor) :
    ReadInStep correspondence cursor := by
  intro other related present
  have same := correspondence.current_eq_of_ne related present
  have sameKind := correspondence.kind_current related
  rw [read, read, sameKind]
  apply Reading.InStep.noting
  rw [same]
  split
  · apply Cursor.inStep_expecting related rfl
    intro isName _ relatedName
    have sameName := correspondence.next_eq_of_ne related (by rw [isName]; decide)
    apply Cursor.inStep_expecting relatedName rfl
    intro _ _ relatedAssign
    rw [sameName]
    apply Reading.InStep.fromNext relatedAssign
    intro relatedValue
    apply Reading.InStep.terminated
    exact (bound _ relatedValue).map fun _ => rfl
  · apply Reading.InStep.fromNext related
    intro relatedValue
    apply Reading.InStep.terminated
    exact (returned _ relatedValue).map fun _ => rfl
  · apply Reading.InStep.terminated
    exact (expression _ related).map fun _ => rfl

/-- Lists of statements and single statements are read in step. No reader looks further than the
next token, or at more than its kind and the literal of an integer. -/
theorem inStep (correspondence : Correspondence) :
    (∀ scope cursor, ListInStep correspondence scope cursor) ∧
      ∀ cursor, ReadInStep correspondence cursor := by
  have steps := Expression.read.mutual_induct (Expression.ReadInStep correspondence)
    (Expression.ExtendInStep correspondence) (Expression.ArgumentsInStep correspondence)
    (Expression.ListInStep correspondence) (Expression.OperandInStep correspondence)
    (Block.ReadInStep correspondence) (ListInStep correspondence) (ReadInStep correspondence)
    (fun _ _ => Expression.readInStep_of_no_operand)
    (fun _ _ _ starts _ => Expression.readInStep_of_operand starts)
    (fun _ _ _ binds _ _ => Expression.extendInStep_of_operator binds)
    (fun _ _ _ binds _ => Expression.extendInStep_of_call binds)
    (fun _ _ _ => Expression.extendInStep_of_stop)
    (fun _ => Expression.argumentsInStep_of_none)
    (fun _ => Expression.argumentsInStep_of_some)
    (fun _ => Expression.listInStep_step)
    (fun _ _ => Expression.operandInStep_identifier)
    (fun _ _ _ => Expression.operandInStep_integer)
    (fun _ _ => Expression.operandInStep_notInteger)
    (fun _ _ => Expression.operandInStep_boolean)
    (fun _ _ => Expression.operandInStep_unary)
    (fun _ _ => Expression.operandInStep_group)
    (fun _ _ => Expression.operandInStep_conditional)
    (fun _ _ => Expression.operandInStep_function)
    (fun _ => Block.readInStep_step)
    (fun _ _ => listInStep_of_end)
    (fun _ _ continues _ => listInStep_of_statement continues)
    (fun _ => readInStep_step)
  exact ⟨steps.2.2.2.2.2.2.1, steps.2.2.2.2.2.2.2⟩

end Statement

end MonkeySyntax
