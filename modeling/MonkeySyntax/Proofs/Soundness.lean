import MonkeySyntax.Parser
import MonkeySyntax.Proofs.DecimalText
import MonkeySyntax.Proofs.FirstToken
import MonkeySyntax.Proofs.Guarantee
import MonkeySyntax.Proofs.Strata

namespace MonkeySyntax

open Grammar

/-- The result is an expression of the stratum of the level, and the level stops behind it. -/
def Expression.Derived (level : Level) (input : List Token) (result : Option Expression)
    (rest : Cursor) : Prop :=
  ∃ value, result = some value ∧
    ExpressionAt .accepted level.stratum input rest.tokens.tail value ∧
      level.Stops rest.tokens.tail

def Expression.ReadSound (level : Level) (cursor : Cursor) : Prop :=
  cursor.EndFree → level ≠ .call →
    (Expression.read level cursor).Guarantees (Expression.Derived level cursor.tokens)

/-- The left operand belongs to a stratum that the reader reads and that ends behind it. The stratum
grows looser with each operator. -/
def Expression.ExtendSound (level : Level) (left : Option Expression) (cursor : Cursor) : Prop :=
  ∀ stratum input value, cursor.EndFree → level ≠ .call → left = some value →
    level.stratum ≤ stratum → stratum.level.Stops cursor.tokens.tail →
      ExpressionAt .accepted stratum input cursor.tokens.tail value →
        (Expression.extend level left cursor).Guarantees (Expression.Derived level input)

def Expression.ArgumentsSound (cursor : Cursor) : Prop :=
  cursor.EndFree → cursor.current.kind = .leftParenthesis →
    (Expression.readArguments cursor).Guarantees fun result rest =>
      ∃ arguments, result = some arguments ∧
        ArgumentList .accepted cursor.tokens rest.tokens.tail arguments

def Expression.ListSound (cursor : Cursor) : Prop :=
  cursor.EndFree → (Expression.readList cursor).Guarantees fun arguments rest =>
    Arguments .accepted cursor.tokens rest.tokens.tail arguments

/-- An operand is a unary operation or tighter, and its stratum ends behind it. -/
def Expression.OperandSound (form : OperandForm) (cursor : Cursor)
    (present : 0 < cursor.remaining) : Prop :=
  cursor.EndFree → form.kind = cursor.current.kind →
    (Expression.readOperand form cursor present).Guarantees fun result rest =>
      ∃ value stratum, result = some value ∧ .unary ≤ stratum ∧
        stratum.level.Stops rest.tokens.tail ∧
          ExpressionAt .accepted stratum cursor.tokens rest.tokens.tail value

def Block.ReadSound (cursor : Cursor) : Prop :=
  cursor.EndFree → cursor.current.kind = .leftBrace →
    (Block.read cursor).Guarantees fun block rest =>
      BlockAt .accepted cursor.tokens rest.tokens.tail block

def Statement.ListSound (scope : Scope) (cursor : Cursor) : Prop :=
  cursor.EndFree → (Statement.readList scope cursor).Guarantees fun statements rest =>
    StatementsAt .accepted cursor.tokens rest.tokens statements ∧ scope.endsAt rest.current.kind

/-- A statement ends where its expression does, or with a semicolon behind that place. -/
def Statement.ReadSound (cursor : Cursor) : Prop :=
  cursor.EndFree → (Statement.read cursor).Guarantees fun result rest =>
    ∃ behind, (∃ statement, result = some statement ∧
      StatementAt .accepted cursor.tokens behind statement ∧ Level.lowest.Stops behind) ∧
        rest.tokens.tail = Reading.behindSemicolon behind

/-- A derived list of parameters has a first token. -/
theorem Grammar.Parameters.exists_first {dialect : Dialect} {input rest : List Token}
    {parameters : List Identifier} (list : Parameters dialect input rest parameters) :
    ∃ first others, input = first :: others := by
  cases list with
  | one => exact ⟨_, _, rfl⟩
  | more => exact ⟨_, _, rfl⟩

namespace Identifier

/-- Parameters are derived unless the input ends behind them. -/
theorem readList_guarantees (cursor : Cursor) :
    (Identifier.readList cursor).Guarantees fun parameters rest =>
      rest.tokens.tail ≠ [] → Parameters .accepted cursor.tokens rest.tokens.tail parameters := by
  induction cursor using Identifier.readList.induct with
  | case1 cursor isComma present inductionHypothesis =>
    rw [Identifier.readList, dif_pos isComma]
    have behind : cursor.tokens.tail = cursor.next :: cursor.advance.advance.tokens :=
      Cursor.tail_eq_cons (by rw [isComma]; decide)
    have tokens : cursor.tokens = cursor.current :: cursor.tokens.tail :=
      Cursor.tokens_eq_cons_of_tail (by rw [behind]; exact List.cons_ne_nil _ _)
    apply Reading.Guarantees.fromNext
    apply Reading.Guarantees.fromNext
    apply Reading.Guarantees.map
    apply inductionHypothesis.mono
    intro parameters rest derives more
    rw [tokens, behind]
    exact .more (.inl rfl) isComma (derives more)
  | case2 cursor noComma =>
    rw [Identifier.readList, dif_neg noComma]
    apply Reading.guarantees_pure
    intro more
    rw [Cursor.tokens_eq_cons_of_tail more]
    exact .one (.inl rfl)

/-- Parameters without an error are derived from their tokens. -/
theorem readParameters_guarantees {cursor : Cursor}
    (opens : cursor.current.kind = .leftParenthesis) :
    (Identifier.readParameters cursor).Guarantees fun result rest =>
      ∃ parameters, result = some parameters ∧
        ParameterList .accepted cursor.tokens rest.tokens.tail parameters := by
  have tokens : cursor.tokens = cursor.current :: cursor.tokens.tail :=
    Cursor.tokens_eq_cons (by rw [opens]; decide)
  rw [Identifier.readParameters]
  split
  · next closes =>
    have list : ParameterList .accepted cursor.tokens cursor.advance.tokens.tail [] := by
      rw [tokens, Cursor.tail_eq_cons (by rw [closes]; decide), ← Cursor.tokens_advance]
      exact .none opens closes
    apply Reading.Guarantees.fromNext
    exact Reading.guarantees_pure ⟨[], rfl, list⟩
  · next named =>
    apply Reading.Guarantees.fromNext
    apply (readList_guarantees cursor.advance).andThen
    intro parameters last _ _ derives
    apply Cursor.guarantees_expecting
    intro closes
    have behind : last.tokens.tail = last.next :: last.advance.advance.tokens :=
      Cursor.tail_eq_cons (by rw [closes]; decide)
    have inner := derives (by rw [behind]; exact List.cons_ne_nil _ _)
    obtain ⟨first, others, input⟩ := inner.exists_first
    rw [← Cursor.current_advance, Cursor.current_of_tokens input] at named
    rw [behind, input] at inner
    have list : ParameterList .accepted cursor.tokens last.advance.advance.tokens parameters := by
      rw [tokens, ← Cursor.tokens_advance, input]
      exact .some opens named inner closes
    rw [Cursor.tokens_advance last.advance] at list
    exact Reading.guarantees_pure ⟨parameters, rfl, list⟩

end Identifier

namespace Expression

variable {level : Level} {cursor : Cursor}

/-- A missing operand is an error. -/
theorem readSound_of_no_operand (missing : cursor.current.kind.operandForm? = none) :
    ReadSound level cursor := by
  intro _ _
  rw [read_of_operandForm?_eq_none missing]
  exact Reading.guarantees_fail

/-- An operand without an error is derived, and then what extends it. -/
theorem readSound_of_operand {form : OperandForm} {present : 0 < cursor.remaining}
    (starts : cursor.current.kind.operandForm? = some form)
    (operand : OperandSound form cursor present)
    (extended : ∀ left rest, rest.remaining ≤ cursor.remaining → ExtendSound level left rest) :
    ReadSound level cursor := by
  intro endFree binding
  rw [read_of_operandForm?_eq_some starts present]
  have hasForm := TokenKind.operandForm?_eq_some_iff.mp starts
  apply (operand endFree hasForm).andThen
  intro left rest within suffix derived
  obtain ⟨value, stratum, isValue, tight, stops, derives⟩ := derived
  exact extended left rest within stratum cursor.tokens value (endFree.of_suffix suffix) binding
    isValue (Stratum.le_trans (Stratum.stratum_le_unary binding) tight) stops derives

/-- Behind an operator the left operand is put into the stratum of the operator. -/
theorem extendSound_of_operator {left : Option Expression} {operator : BinaryOperator}
    (binds : level < cursor.next.kind.level)
    (spells : BinaryOperator.ofKind? cursor.next.kind = some operator)
    (rightOperand : ReadSound cursor.next.kind.level cursor.advance.advance)
    (extended : ∀ right rest, rest.remaining ≤ cursor.advance.advance.remaining →
      ExtendSound level (some (.binary cursor.next left operator right)) rest) :
    ExtendSound level left cursor := by
  intro stratum input value endFree binding isValue reads stops derives
  subst isValue
  have kind : operator.kind = cursor.next.kind := BinaryOperator.ofKind?_eq_some_iff.mp spells
  have behind : cursor.tokens.tail = cursor.next :: cursor.advance.advance.tokens :=
    Cursor.tail_eq_cons (by rw [← kind]; cases operator <;> decide)
  rw [behind, Level.stops_cons, ← kind] at stops
  rw [behind] at derives
  rw [extend_of_operator binds spells]
  have notCall : cursor.next.kind.level ≠ .call := by
    rw [← kind]
    cases operator <;> decide
  apply Reading.Guarantees.fromNext
  apply Reading.Guarantees.fromNext
  apply (rightOperand endFree.advance.advance notCall).andThen
  intro right rest within suffix derived
  obtain ⟨operand, isOperand, derivesRight, stopsRight⟩ := derived
  rw [← kind] at binds derivesRight stopsRight
  rw [Stratum.stratum_level_kind] at derivesRight
  rw [← Stratum.level_stratumOf] at stopsRight
  subst isOperand
  have operation : ExpressionAt .accepted (stratumOf operator) input rest.tokens.tail
      (.binary cursor.next (some value) operator (some operand)) :=
    .binary (derives.loosen (Stratum.stratumOf_le_of_not_lt stops)) kind.symm derivesRight
  exact extended (some operand) rest within (stratumOf operator) input _
    (endFree.advance.advance.of_suffix suffix) binding rfl
    (Stratum.le_stratumOf_of_lt_level binds) stopsRight operation

/-- Behind a parenthesis the callee is put into the stratum of calls. -/
theorem extendSound_of_call {left : Option Expression}
    (binds : level < cursor.next.kind.level)
    (spells : BinaryOperator.ofKind? cursor.next.kind = none)
    (list : ArgumentsSound cursor.advance)
    (extended : ∀ arguments rest, rest.remaining ≤ cursor.advance.remaining →
      ExtendSound level (called cursor.next left arguments) rest) :
    ExtendSound level left cursor := by
  intro stratum input value endFree binding isValue reads stops derives
  subst isValue
  have opens := TokenKind.eq_leftParenthesis_of_binds binds spells
  have behind : cursor.tokens.tail = cursor.next :: cursor.advance.advance.tokens :=
    Cursor.tail_eq_cons (by rw [opens]; decide)
  rw [behind, Level.stops_cons, opens] at stops
  rw [extend_of_call binds spells]
  have opensNext : cursor.advance.current.kind = .leftParenthesis := by
    rw [Cursor.current_advance, opens]
  apply Reading.Guarantees.fromNext
  apply (list endFree.advance opensNext).andThen
  intro arguments rest within suffix derived
  obtain ⟨values, isValues, derivesList⟩ := derived
  subst isValues
  rw [Cursor.tokens_advance, behind] at derivesList
  rw [behind] at derives
  have call : ExpressionAt .accepted .call input rest.tokens.tail
      (.call cursor.next value values) :=
    .call (derives.loosen (Stratum.call_le_of_not_lt stops)) derivesList
  have readsCall : level.stratum ≤ .call :=
    Stratum.le_trans (Stratum.stratum_le_unary binding) (by decide)
  exact extended (some values) rest within .call input _ (endFree.advance.of_suffix suffix)
    binding rfl readsCall (Level.stops_call _) call

/-- An operand that is not extended is derived as it stands. -/
theorem extendSound_of_stop {left : Option Expression}
    (stops : ¬level < cursor.next.kind.level) : ExtendSound level left cursor := by
  intro stratum input value _ _ isValue reads _ derives
  rw [extend_of_not_lt stops]
  exact Reading.guarantees_pure
    ⟨value, isValue, derives.loosen reads, Level.stops_tail_iff.mpr stops⟩

/-- Empty parentheses are a derived list of arguments. -/
theorem argumentsSound_of_none (closes : cursor.next.kind = .rightParenthesis) :
    ArgumentsSound cursor := by
  intro _ opens
  rw [Expression.readArguments, if_pos closes]
  have list : ArgumentList .accepted cursor.tokens cursor.advance.tokens.tail [] := by
    rw [Cursor.tokens_eq_cons (by rw [opens]; decide), Cursor.tail_eq_cons (by rw [closes]; decide),
      ← Cursor.tokens_advance]
    exact .none opens closes
  apply Reading.Guarantees.fromNext
  exact Reading.guarantees_pure ⟨[], rfl, list⟩

/-- Arguments between parentheses are a derived list. -/
theorem argumentsSound_of_some (notClosing : ¬cursor.next.kind = .rightParenthesis)
    (list : ListSound cursor.advance) : ArgumentsSound cursor := by
  intro endFree opens
  rw [Expression.readArguments, if_neg notClosing]
  apply Reading.Guarantees.fromNext
  apply (list endFree.advance).andThen
  intro arguments last _ _ derives
  apply Cursor.guarantees_expecting
  intro closes
  rw [Cursor.tail_eq_cons (by rw [closes]; decide), Cursor.tokens_advance,
    Cursor.tokens_advance last.advance] at derives
  have list : ArgumentList .accepted cursor.tokens last.advance.tokens.tail arguments := by
    rw [Cursor.tokens_eq_cons (by rw [opens]; decide)]
    exact .some opens derives closes
  exact Reading.guarantees_pure ⟨arguments, rfl, list⟩

/-- Arguments without an error are derived one by one. -/
theorem listSound_step (first : ReadSound .lowest cursor)
    (others : ∀ last : Cursor, last.remaining ≤ cursor.remaining → last.next.kind = .comma →
      ListSound last.advance.advance) : ListSound cursor := by
  intro endFree
  rw [Expression.readList]
  apply (first endFree (by decide)).andThen
  intro result last within suffix derived
  obtain ⟨value, isValue, derives, _⟩ := derived
  subst isValue
  split
  · next isComma =>
    have endFreeOthers := (endFree.of_suffix suffix).advance.advance
    apply Reading.Guarantees.fromNext
    apply Reading.Guarantees.fromNext
    apply Reading.Guarantees.map
    apply (others last within isComma endFreeOthers).mono
    intro values rest derivesOthers
    rw [Cursor.tail_eq_cons (by rw [isComma]; decide)] at derives
    exact .more derives isComma derivesOthers
  · exact Reading.guarantees_pure (.one derives)

section Operands

variable {present : 0 < cursor.remaining}

/-- The first token of an operand is in view. -/
theorem tokens_of_form {form : OperandForm} (hasForm : form.kind = cursor.current.kind) :
    cursor.tokens = cursor.current :: cursor.tokens.tail := by
  apply Cursor.tokens_eq_cons
  rw [← hasForm]
  cases form with
  | boolean value => cases value <;> decide
  | unary operator => cases operator <;> decide
  | identifier => decide
  | integer => decide
  | group => decide
  | conditional => decide
  | function => decide

/-- An atom is tighter than all operations, and nothing binds it more tightly. -/
theorem guarantees_atom {reading : Reading (Option Expression) cursor}
    (guarantees : reading.Guarantees fun result rest => ∃ value, result = some value ∧
      ExpressionAt .accepted .atom cursor.tokens rest.tokens.tail value) :
    reading.Guarantees fun result rest => ∃ value stratum, result = some value ∧
      .unary ≤ stratum ∧ stratum.level.Stops rest.tokens.tail ∧
        ExpressionAt .accepted stratum cursor.tokens rest.tokens.tail value := by
  apply guarantees.mono
  intro result rest derived
  obtain ⟨value, isValue, derives⟩ := derived
  exact ⟨value, .atom, isValue, by decide, Level.stops_call _, derives⟩

/-- A name is derived by itself. -/
theorem operandSound_identifier : OperandSound .identifier cursor present := by
  intro _ hasForm
  rw [Expression.readOperand]
  apply guarantees_atom
  apply Reading.guarantees_pure
  rw [tokens_of_form hasForm]
  exact ⟨_, rfl, .identifier hasForm.symm⟩

/-- An integer is derived with its value. -/
theorem operandSound_integer {value : Int64}
    (denotes : Decimal.int64? cursor.current.literal = some value) :
    OperandSound .integer cursor present := by
  intro _ hasForm
  rw [Expression.readOperand]
  simp only [denotes]
  apply guarantees_atom
  apply Reading.guarantees_pure
  rw [tokens_of_form hasForm]
  exact ⟨_, rfl, .integer hasForm.symm (Decimal.int64?_eq_some_iff.mp denotes)⟩

/-- A literal that is no integer is an error. -/
theorem operandSound_not_integer (denotes : Decimal.int64? cursor.current.literal = none) :
    OperandSound .integer cursor present := by
  intro _ _
  rw [Expression.readOperand]
  simp only [denotes]
  exact Reading.guarantees_fail

/-- A truth value is derived by itself. -/
theorem operandSound_boolean (value : Bool) : OperandSound (.boolean value) cursor present := by
  intro _ hasForm
  rw [Expression.readOperand]
  apply guarantees_atom
  apply Reading.guarantees_pure
  rw [tokens_of_form hasForm]
  cases value with
  | true => exact ⟨_, rfl, .trueLiteral hasForm.symm⟩
  | false => exact ⟨_, rfl, .falseLiteral hasForm.symm⟩

/-- A prefix operator is derived with its operand. -/
theorem operandSound_unary (operator : UnaryOperator) (inner : ReadSound .unary cursor.advance) :
    OperandSound (.unary operator) cursor present := by
  intro endFree hasForm
  rw [Expression.readOperand]
  apply Reading.Guarantees.fromNext
  apply Reading.Guarantees.map
  apply (inner endFree.advance (by decide)).mono
  intro result rest derived
  obtain ⟨operand, isOperand, derives, stops⟩ := derived
  subst isOperand
  rw [Cursor.tokens_advance] at derives
  rw [tokens_of_form hasForm]
  exact ⟨_, .unary, rfl, Stratum.le_rfl, stops, .unary hasForm.symm derives⟩

/-- A closed group is derived as what is in it. -/
theorem operandSound_group (inner : ReadSound .lowest cursor.advance) :
    OperandSound .group cursor present := by
  intro endFree hasForm
  rw [Expression.readOperand]
  apply guarantees_atom
  apply Reading.Guarantees.fromNext
  apply (inner endFree.advance (by decide)).andThen
  intro result last _ _ derived
  apply Cursor.guarantees_expecting
  intro closes
  obtain ⟨value, isValue, derives, _⟩ := derived
  rw [Cursor.tail_eq_cons (by rw [closes]; decide), Cursor.tokens_advance,
    Cursor.tokens_advance last.advance] at derives
  apply Reading.guarantees_pure
  rw [tokens_of_form hasForm]
  exact ⟨value, isValue, .group hasForm.symm derives closes⟩

/-- A function is derived with its parameters and its body. -/
theorem operandSound_function
    (inner : ∀ closed : Cursor, closed.remaining ≤ cursor.advance.remaining →
      Block.ReadSound closed.advance) : OperandSound .function cursor present := by
  intro endFree hasForm
  rw [Expression.readOperand]
  apply guarantees_atom
  apply Cursor.guarantees_expecting
  intro opens
  have opensNext : cursor.advance.current.kind = .leftParenthesis := by
    rw [Cursor.current_advance, opens]
  apply (Identifier.readParameters_guarantees opensNext).andThen
  intro result closed within suffix derived
  obtain ⟨parameters, isParameters, list⟩ := derived
  subst isParameters
  apply Cursor.guarantees_expecting
  intro isBrace
  have isBraceNext : closed.advance.current.kind = .leftBrace := by
    rw [Cursor.current_advance, isBrace]
  have endFreeBody := (endFree.advance.of_suffix suffix).advance
  apply Reading.Guarantees.map
  apply (inner closed within endFreeBody isBraceNext).mono
  intro body rest derives
  rw [Cursor.tokens_advance closed] at derives
  rw [tokens_of_form hasForm, ← Cursor.tokens_advance]
  exact ⟨_, rfl, .function hasForm.symm list derives⟩

/-- A conditional is derived with its branches. -/
theorem operandSound_conditional (test : ReadSound .lowest cursor.advance.advance)
    (branch : ∀ tested : Cursor, tested.remaining ≤ cursor.advance.advance.remaining →
      Block.ReadSound tested.advance.advance)
    (other : ∀ tested : Cursor, tested.remaining ≤ cursor.advance.advance.remaining →
      ∀ closed : Cursor, closed.remaining ≤ tested.advance.advance.remaining →
        Block.ReadSound closed.advance.advance) :
    OperandSound .conditional cursor present := by
  intro endFree hasForm
  rw [Expression.readOperand]
  apply guarantees_atom
  apply Cursor.guarantees_expecting
  intro opens
  apply Reading.Guarantees.fromNext
  apply (test endFree.advance.advance (by decide)).andThen
  intro result tested within suffix derived
  obtain ⟨condition, isCondition, derivesTest, _⟩ := derived
  subst isCondition
  apply Cursor.guarantees_expecting
  intro closes
  apply Cursor.guarantees_expecting
  intro isBrace
  have endFreeTested := endFree.advance.advance.of_suffix suffix
  have braceNext : tested.advance.advance.current.kind = .leftBrace := by
    rw [Cursor.current_advance, isBrace]
  apply (branch tested within endFreeTested.advance.advance braceNext).andThen
  intro consequence closed withinBranch suffixBranch derivesBranch
  have starts : cursor.tokens =
      cursor.current :: cursor.next :: cursor.advance.advance.tokens := by
    rw [tokens_of_form hasForm, Cursor.tail_eq_cons (by rw [opens]; decide)]
  rw [Cursor.tail_eq_cons (by rw [closes]; decide)] at derivesTest
  rw [starts]
  split
  · next isElse =>
    apply Reading.Guarantees.fromNext
    apply Cursor.guarantees_expecting
    intro isOtherBrace
    have otherBraceNext : closed.advance.advance.current.kind = .leftBrace := by
      rw [Cursor.current_advance, isOtherBrace]
    have endFreeClosed := endFreeTested.advance.advance.of_suffix suffixBranch
    have otherBranch := other tested within closed withinBranch endFreeClosed.advance.advance
      otherBraceNext
    apply Reading.Guarantees.map
    apply otherBranch.mono
    intro alternative rest derivesOther
    rw [Cursor.tail_eq_cons (by rw [isElse]; decide)] at derivesBranch
    exact ⟨_, rfl, .alternative hasForm.symm opens derivesTest closes derivesBranch isElse
      derivesOther⟩
  · exact Reading.guarantees_pure
      ⟨_, rfl, .conditional hasForm.symm opens derivesTest closes derivesBranch⟩

end Operands

end Expression

/-- A block that no brace closes has come to the end of the input. -/
theorem Block.readSound_step {cursor : Cursor}
    (statements : Statement.ListSound .block cursor.advance) : Block.ReadSound cursor := by
  intro endFree opens
  rw [Block.read]
  apply Reading.Guarantees.fromNext
  apply Reading.Guarantees.map
  apply (statements endFree.advance).with_suffix.mono
  intro values rest derived
  obtain ⟨suffix, derives, ended⟩ := derived
  have starts : cursor.tokens = cursor.current :: cursor.advance.tokens := by
    rw [Cursor.tokens_advance]
    exact Cursor.tokens_eq_cons (by rw [opens]; decide)
  rw [starts]
  obtain isEnd | isBrace := Scope.endsAt_block_iff.mp ended
  · have noneLeft := (endFree.advance.of_suffix suffix).tokens_eq_nil isEnd
    rw [noneLeft] at derives ⊢
    exact .unclosed rfl opens derives
  · have atBrace : rest.tokens = rest.current :: rest.tokens.tail :=
      Cursor.tokens_eq_cons (by rw [isBrace]; decide)
    rw [atBrace] at derives
    exact .closed opens derives isBrace

namespace Statement

variable {scope : Scope} {cursor : Cursor}

/-- At its end a scope derives nothing more. -/
theorem listSound_of_end (ends : scope.endsAt cursor.current.kind) : ListSound scope cursor := by
  intro _
  rw [Statement.readList, dif_pos ends]
  exact Reading.guarantees_pure ⟨.none, ends⟩

/-- The statements of a scope are derived one behind the other. -/
theorem listSound_of_statement (continues : ¬scope.endsAt cursor.current.kind)
    (first : ReadSound cursor)
    (others : ∀ last : Cursor, last.remaining ≤ cursor.remaining →
      ListSound scope last.advance) : ListSound scope cursor := by
  intro endFree
  rw [Statement.readList, dif_neg continues]
  apply (first endFree).andThen
  intro result last within suffix derived
  obtain ⟨behind, ⟨statement, isStatement, derives, stops⟩, follows⟩ := derived
  subst isStatement
  have endFreeOthers := (endFree.of_suffix suffix).advance
  apply Reading.Guarantees.fromNext
  apply Reading.Guarantees.map
  apply (others last within endFreeOthers).mono
  intro statements rest derived
  obtain ⟨derivesOthers, ended⟩ := derived
  apply And.intro _ ended
  rw [Cursor.tokens_advance, follows] at derivesOthers
  cases behind with
  | nil => exact .separated derives (by simp [Separated]) derivesOthers
  | cons token input =>
    by_cases terminates : token.kind = .semicolon
    · rw [Reading.behindSemicolon, if_pos terminates] at derivesOthers
      exact .terminated derives terminates derivesOthers
    · rw [Reading.behindSemicolon, if_neg terminates] at derivesOthers
      exact .separated derives (Level.separated_of_stops stops) derivesOthers

/-- A statement without an error is derived in its form. -/
theorem readSound_step
    (value : Expression.ReadSound .lowest cursor.advance.advance.advance)
    (returned : Expression.ReadSound .lowest cursor.advance)
    (expression : Expression.ReadSound .lowest cursor) : ReadSound cursor := by
  intro endFree
  rw [Statement.read]
  apply Reading.Guarantees.noting
  split
  · next isLet =>
    apply Cursor.guarantees_expecting
    intro isName
    apply Cursor.guarantees_expecting
    intro isAssign
    have starts : cursor.tokens = cursor.current :: cursor.next :: cursor.advance.next ::
        cursor.advance.advance.advance.tokens := by
      rw [Cursor.tokens_eq_cons (by rw [isLet]; decide),
        Cursor.tail_eq_cons (by rw [isName]; decide), Cursor.tokens_advance cursor.advance,
        Cursor.tail_eq_cons (by rw [isAssign]; decide)]
    apply Reading.Guarantees.fromNext
    apply Reading.Guarantees.terminated
    apply Reading.Guarantees.map
    apply (value endFree.advance.advance.advance (by decide)).mono
    intro result rest derived
    obtain ⟨bound, isBound, derives, stops⟩ := derived
    subst isBound
    rw [starts]
    exact ⟨_, rfl, .letBinding isLet isName isAssign derives, stops⟩
  · next isReturn =>
    apply Reading.Guarantees.fromNext
    apply Reading.Guarantees.terminated
    apply Reading.Guarantees.map
    apply (returned endFree.advance (by decide)).mono
    intro result rest derived
    obtain ⟨bound, isBound, derives, stops⟩ := derived
    subst isBound
    rw [Cursor.tokens_eq_cons (by rw [isReturn]; decide), ← Cursor.tokens_advance]
    exact ⟨_, rfl, .returnValue isReturn derives, stops⟩
  · apply Reading.Guarantees.terminated
    apply Reading.Guarantees.map
    apply (expression endFree (by decide)).mono
    intro result rest derived
    obtain ⟨bound, isBound, derives, stops⟩ := derived
    subst isBound
    obtain ⟨token, behind, tokens, _⟩ := derives.exists_first
    rw [tokens] at derives ⊢
    rw [Cursor.current_of_tokens tokens]
    exact ⟨_, rfl, .expression derives, stops⟩

end Statement

/-- Every reading is sound. -/
theorem Statement.listSound (scope : Scope) (cursor : Cursor) : ListSound scope cursor := by
  have sound := Expression.read.mutual_induct Expression.ReadSound Expression.ExtendSound
    Expression.ArgumentsSound Expression.ListSound Expression.OperandSound Block.ReadSound
    Statement.ListSound Statement.ReadSound
    (fun _ _ => Expression.readSound_of_no_operand)
    (fun _ _ _ starts _ => Expression.readSound_of_operand starts)
    (fun _ _ _ binds _ _ => Expression.extendSound_of_operator binds)
    (fun _ _ _ binds _ => Expression.extendSound_of_call binds)
    (fun _ _ _ => Expression.extendSound_of_stop)
    (fun _ => Expression.argumentsSound_of_none)
    (fun _ => Expression.argumentsSound_of_some)
    (fun _ => Expression.listSound_step)
    (fun _ _ => Expression.operandSound_identifier)
    (fun _ _ _ => Expression.operandSound_integer)
    (fun _ _ => Expression.operandSound_not_integer)
    (fun _ _ => Expression.operandSound_boolean)
    (fun _ _ => Expression.operandSound_unary)
    (fun _ _ => Expression.operandSound_group)
    (fun _ _ => Expression.operandSound_conditional)
    (fun _ _ => Expression.operandSound_function)
    (fun _ => Block.readSound_step)
    (fun _ _ => Statement.listSound_of_end)
    (fun _ _ continues _ => Statement.listSound_of_statement continues)
    (fun _ => Statement.readSound_step)
  exact sound.2.2.2.2.2.2.1 scope cursor

/-- A source without an end in it whose reading has no error derives its program. -/
theorem Source.derives_of_errors_eq_nil {source : Source}
    (endFree : ∀ token ∈ source.tokens, token.kind ≠ .endOfInput)
    (clean : source.read.2.errors = []) : Derives .accepted source.tokens source.read.1 := by
  have endFreeStart : (Cursor.start source).EndFree := by
    rw [Cursor.EndFree, Cursor.tokens_start]
    exact endFree
  rw [Source.errors_read] at clean
  have sound := Statement.listSound .program (.start source) endFreeStart
  obtain ⟨derives, ended⟩ := sound.holds clean
  have endFreeRest := endFreeStart.of_suffix (Statement.readList .program (.start source)).suffix
  have noneLeft := endFreeRest.tokens_eq_nil (Scope.endsAt_program_iff.mp ended)
  rw [noneLeft, Cursor.tokens_start] at derives
  exact derives

/-- The parser is sound: when it records no error, all tokens in their order derive the program.
A statement without a semicolon is then apart from what follows it. -/
theorem derives_read_ofTokens (tokens : List Token)
    (endFree : ∀ token ∈ tokens, token.kind ≠ .endOfInput)
    (clean : (Source.ofTokens tokens).read.2.errors = []) :
    Derives .accepted tokens (Source.ofTokens tokens).read.1 := by
  have endFreeSource : ∀ token ∈ (Source.ofTokens tokens).tokens, token.kind ≠ .endOfInput := by
    rw [Source.tokens_ofTokens]
    exact endFree
  have derives := Source.derives_of_errors_eq_nil endFreeSource clean
  rw [Source.tokens_ofTokens] at derives
  exact derives

/-- These are the tokens of `fn(1) { -x y`: a number is taken as a parameter, two statements have
no semicolon, and the input ends in the block. -/
def unclosedTokens : List Token :=
  [⟨.functionKeyword, "fn"⟩, ⟨.leftParenthesis, "("⟩, ⟨.integer, "1"⟩, ⟨.rightParenthesis, ")"⟩,
    ⟨.leftBrace, "\x7b"⟩, ⟨.minus, "-"⟩, ⟨.identifier, "x"⟩, ⟨.identifier, "y"⟩]

/-- The tokens with an unclosed block derive the program that is read from them. -/
theorem derives_unclosedTokens :
    (∀ token ∈ unclosedTokens, token.kind ≠ .endOfInput) ∧
      (Source.ofTokens unclosedTokens).read.2.errors = [] ∧
        Derives .accepted unclosedTokens (Source.ofTokens unclosedTokens).read.1 := by
  have endFree : ∀ token ∈ unclosedTokens, token.kind ≠ .endOfInput := by decide
  have clean : (Source.ofTokens unclosedTokens).read.2.errors = [] := by decide +kernel
  exact ⟨endFree, clean, derives_read_ofTokens unclosedTokens endFree clean⟩

end MonkeySyntax
