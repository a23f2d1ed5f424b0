import MonkeySyntax.Proofs.DecimalText
import MonkeySyntax.Proofs.FirstToken
import MonkeySyntax.Proofs.Strata
import MonkeySyntax.Proofs.Success

namespace MonkeySyntax

open Grammar

/-- Tokens end an expression at a level when the first of them neither binds above the level nor
goes on with a conditional. -/
def Level.Ends (level : Level) (following : List Token) : Prop :=
  level.Stops following ∧ (following.headD .endOfInput).kind ≠ .elseKeyword

namespace Level

variable {level : Level} {token : Token} {rest : List Token}

/-- What ends a level ends every tighter one. -/
theorem Ends.mono {lower upper : Level} (ends : lower.Ends rest)
    (ordered : lower.rank ≤ upper.rank) : upper.Ends rest :=
  ⟨ends.1.mono ordered, ends.2⟩

/-- Tokens that neither bind nor go on with a conditional end an expression. -/
theorem ends_cons (stops : ¬level < token.kind.level) (noElse : token.kind ≠ .elseKeyword) :
    level.Ends (token :: rest) :=
  ⟨stops_cons.mpr stops, noElse⟩

/-- A token of the lowest level ends every expression in front of it. -/
theorem ends_of_lowest (lowest : token.kind.level = .lowest)
    (noElse : token.kind ≠ .elseKeyword) : level.Ends (token :: rest) := by
  apply ends_cons _ noElse
  rw [lowest, lt_iff]
  exact Nat.not_lt_zero _

/-- A closing parenthesis ends every expression. -/
theorem ends_closing (closes : token.kind = .rightParenthesis) : level.Ends (token :: rest) :=
  ends_of_lowest (by rw [closes]; rfl) (by rw [closes]; decide)

/-- A comma ends an expression at every level. -/
theorem ends_comma (isComma : token.kind = .comma) : level.Ends (token :: rest) :=
  ends_of_lowest (by rw [isComma]; rfl) (by rw [isComma]; decide)

theorem ends_semicolon (terminates : token.kind = .semicolon) : level.Ends (token :: rest) :=
  ends_of_lowest (by rw [terminates]; rfl) (by rw [terminates]; decide)

end Level

/-- A branch of a conditional is a block with its opening brace in front. -/
def Block.ReadsAs (block : Block) (input rest : List Token) : Prop :=
  ∃ brace inner, input = brace :: inner ∧ brace.kind = .leftBrace ∧
    ∀ {start : Cursor}, start.tokens = input → (Block.read start).Succeeds block rest

/-- Behind the first branch of a conditional stands a second one, or nothing of the conditional. -/
def Block.OptionReadsAs (input rest : List Token) : Option Block → Prop
  | none => input = rest ∧ (input.headD .endOfInput).kind ≠ .elseKeyword
  | some block => ∃ otherwise inner, input = otherwise :: inner ∧
      otherwise.kind = .elseKeyword ∧ block.ReadsAs inner rest

/-- A reader at a level comes to an expression when it goes on behind it with the expression as
its left operand. -/
def Expression.ComesTo (level : Level) (cursor : Cursor) (value : Expression)
    (behind : List Token) : Prop :=
  ∃ later : Cursor, later.tokens.tail = behind ∧
    (Expression.read level cursor).GoesOn id (Expression.extend level (some value) later)

namespace Grammar

/-- Parameters are read up to a token that is no comma. -/
theorem Parameters.succeeds {dialect : Dialect} {input rest : List Token}
    {parameters : List Identifier} (list : Parameters dialect input rest parameters)
    {cursor : Cursor} (starts : cursor.tokens = input)
    (ends : (rest.headD .endOfInput).kind ≠ .comma) :
    (Identifier.readList cursor).Succeeds parameters rest := by
  induction list generalizing cursor with
  | one parameter =>
    have noComma : cursor.next.kind ≠ .comma := by
      rw [Cursor.next_eq, starts]
      exact ends
    rw [Identifier.readList, dif_neg noComma, Cursor.current_of_tokens starts]
    exact Reading.succeeds_pure_of_tokens starts _
  | @more token comma input rest others parameter isComma list inductionHypothesis =>
    have next : cursor.next = comma := Cursor.next_of_tail (by rw [starts, List.tail_cons])
    rw [Identifier.readList, dif_pos (by rw [next]; exact isComma),
      Cursor.current_of_tokens starts]
    exact ((inductionHypothesis (by simp [starts]) ends).map _).fromNext.fromNext

/-- Parameters in parentheses are read with both parentheses. -/
theorem ParameterList.succeeds {dialect : Dialect} {input rest : List Token}
    {parameters : List Identifier} (list : ParameterList dialect input rest parameters)
    {cursor : Cursor} (starts : cursor.tokens = input) :
    (Identifier.readParameters cursor).Succeeds (.some parameters) rest := by
  cases list with
  | @none opening closing _ opens closes =>
    have next : cursor.next = closing := Cursor.next_of_tail (by rw [starts, List.tail_cons])
    rw [Identifier.readParameters, if_pos (by rw [next]; exact closes)]
    exact (Reading.succeeds_pure_of_tokens (by rw [Cursor.tokens_advance, starts, List.tail_cons])
      _).fromNext
  | @some opening first closing input _ _ opens named inner closes =>
    have next : cursor.next = first := Cursor.next_of_tail (by rw [starts, List.tail_cons])
    rw [Identifier.readParameters, if_neg (by rw [next]; exact named)]
    have noComma : closing.kind ≠ .comma := by rw [closes]; decide
    have startsInner : cursor.advance.tokens = first :: input := by
      rw [Cursor.tokens_advance, starts, List.tail_cons]
    apply Reading.Succeeds.fromNext
    apply (inner.succeeds startsInner noComma).andThen
    intro last _ follows
    apply Cursor.succeeds_expecting follows closes
    intro _ atClosing
    exact Reading.succeeds_pure_of_tokens atClosing _

/-- A list of parameters starts with a parenthesis. -/
theorem ParameterList.exists_opening {dialect : Dialect} {input rest : List Token}
    {parameters : List Identifier} (list : ParameterList dialect input rest parameters) :
    ∃ opening inner, input = opening :: inner ∧ opening.kind = .leftParenthesis := by
  cases list with
  | none opens => exact ⟨_, _, rfl, opens⟩
  | some opens => exact ⟨_, _, rfl, opens⟩

end Grammar

namespace Expression

variable {level : Level} {cursor : Cursor} {value : Expression} {behind : List Token}

/-- A reader that comes to an expression reads just that expression where its level stops. -/
theorem ComesTo.succeeds (comes : ComesTo level cursor value behind) (stops : level.Stops behind) :
    (Expression.read level cursor).Succeeds (some value) behind := by
  obtain ⟨later, rfl, goesOn⟩ := comes
  rw [extend_of_not_lt (Level.stops_tail_iff.mp stops)] at goesOn
  exact goesOn.succeeds (Reading.succeeds_pure _)

/-- A reader of a stratum reads just the expression where its own level ends. -/
theorem succeeds_of_ends {stratum : Stratum} (reads : level.stratum ≤ stratum)
    (ends : level.Ends behind)
    (comes : stratum.level.Ends behind → ComesTo level cursor value behind) :
    (Expression.read level cursor).Succeeds (some value) behind :=
  (comes (ends.mono (Stratum.rank_le_rank_level reads))).succeeds ends.1

/-- A reader comes to the operand that it starts with. -/
theorem comesTo_operand (form : OperandForm) {token : Token} {input : List Token}
    (starts : cursor.tokens = token :: input) (hasForm : form.kind = token.kind)
    (succeeds : ∀ present,
      (Expression.readOperand form cursor present).Succeeds (some value) behind) :
    ComesTo level cursor value behind := by
  have present : 0 < cursor.remaining := by simp [Cursor.remaining, starts]
  have found : cursor.current.kind.operandForm? = some form := by
    rw [Cursor.current_of_tokens starts]
    exact TokenKind.operandForm?_eq_some_iff.mpr hasForm
  refine ⟨_, (succeeds present).behind_eq, ?_⟩
  rw [read_of_operandForm?_eq_some found present]
  exact (succeeds present).andThen_goesOn _

/-- Behind a left operand a reader goes on to the operation with it. -/
theorem ComesTo.binary {left right : Expression} {operator : BinaryOperator} {token : Token}
    {middle : List Token} (comes : ComesTo level cursor left (token :: middle))
    (binds : level < operator.kind.level) (spells : token.kind = operator.kind)
    (rightOperand : ∀ {start : Cursor}, start.tokens = middle →
      (Expression.read operator.kind.level start).Succeeds (some right) behind) :
    ComesTo level cursor (.binary token (some left) operator (some right)) behind := by
  obtain ⟨later, follows, goesOn⟩ := comes
  obtain rfl := Cursor.next_of_tail follows
  have found : BinaryOperator.ofKind? later.next.kind = some operator :=
    BinaryOperator.ofKind?_eq_some_iff.mpr spells.symm
  have succeeds : (Expression.read operator.kind.level later.advance.advance).Succeeds
      (some right) behind := rightOperand (by simp [follows])
  rw [← spells] at binds succeeds
  refine ⟨_, succeeds.behind_eq, goesOn.trans ?_⟩
  rw [extend_of_operator binds found]
  exact (succeeds.andThen_goesOn _).fromNext.fromNext

/-- Behind a callee a reader goes on to the call of it. -/
theorem ComesTo.call {callee : Expression} {arguments : List Expression} {opening : Token}
    {middle : List Token} (comes : ComesTo level cursor callee (opening :: middle))
    (binds : level < Level.call) (opens : opening.kind = .leftParenthesis)
    (list : ∀ {start : Cursor}, start.tokens = opening :: middle →
      (Expression.readArguments start).Succeeds (some arguments) behind) :
    ComesTo level cursor (.call opening callee arguments) behind := by
  obtain ⟨later, follows, goesOn⟩ := comes
  obtain rfl := Cursor.next_of_tail follows
  have missing : BinaryOperator.ofKind? later.next.kind = none := by rw [opens]; rfl
  have bindsNext : level < later.next.kind.level := by rw [opens]; exact binds
  have succeeds : (Expression.readArguments later.advance).Succeeds (some arguments) behind :=
    list (by simp [follows])
  refine ⟨_, succeeds.behind_eq, goesOn.trans ?_⟩
  rw [extend_of_call bindsNext missing]
  exact (succeeds.andThen_goesOn _).fromNext

section Operands

variable {token : Token} {input middle ending rest : List Token} {present : 0 < cursor.remaining}

/-- A name is an operand by itself. -/
theorem succeeds_identifier (starts : cursor.tokens = token :: rest) :
    (Expression.readOperand .identifier cursor present).Succeeds
      (some (.identifier (.ofToken token))) rest := by
  rw [Expression.readOperand, Cursor.current_of_tokens starts]
  exact Reading.succeeds_pure_of_tokens starts _

/-- A literal that is the text of its value is read as that value. -/
theorem succeeds_integer {value : Int64} (starts : cursor.tokens = token :: rest)
    (denotes : token.literal = Decimal.text value.toInt) :
    (Expression.readOperand .integer cursor present).Succeeds
      (some (.integer token value)) rest := by
  have read := Decimal.int64?_eq_some_iff.mpr denotes
  rw [Expression.readOperand, Cursor.current_of_tokens starts]
  simp only [read]
  exact Reading.succeeds_pure_of_tokens starts _

/-- A truth value is an operand by itself. -/
theorem succeeds_boolean {value : Bool} (starts : cursor.tokens = token :: rest) :
    (Expression.readOperand (.boolean value) cursor present).Succeeds
      (some (.boolean token value)) rest := by
  rw [Expression.readOperand, Cursor.current_of_tokens starts]
  exact Reading.succeeds_pure_of_tokens starts _

/-- A prefix operator takes the operand behind it. -/
theorem succeeds_unary {operator : UnaryOperator} {operand : Expression}
    (starts : cursor.tokens = token :: input)
    (inner : ∀ {start : Cursor}, start.tokens = input →
      (Expression.read .unary start).Succeeds (some operand) rest) :
    (Expression.readOperand (.unary operator) cursor present).Succeeds
      (some (.unary token operator (some operand))) rest := by
  rw [Expression.readOperand, Cursor.current_of_tokens starts]
  exact ((inner (by simp [starts])).map _).fromNext

/-- A group is read as what stands in its parentheses. -/
theorem succeeds_group {closing : Token} (starts : cursor.tokens = token :: input)
    (inner : ∀ {start : Cursor}, start.tokens = input →
      (Expression.read .lowest start).Succeeds (some value) (closing :: rest))
    (closes : closing.kind = .rightParenthesis) :
    (Expression.readOperand .group cursor present).Succeeds (some value) rest := by
  rw [Expression.readOperand]
  apply Reading.Succeeds.fromNext
  apply (inner (by simp [starts])).andThen
  intro last within follows
  apply Cursor.succeeds_expecting follows closes
  intro found starts
  exact Reading.succeeds_pure_of_tokens starts _

/-- A conditional is read from its condition, its consequence and what may follow it. -/
theorem succeeds_conditional {opening closing : Token} {condition : Expression}
    {consequence : Block} {alternative : Option Block}
    (starts : cursor.tokens = token :: opening :: input)
    (opens : opening.kind = .leftParenthesis)
    (test : ∀ {start : Cursor}, start.tokens = input →
      (Expression.read .lowest start).Succeeds (some condition) (closing :: middle))
    (closes : closing.kind = .rightParenthesis)
    (branch : consequence.ReadsAs middle ending)
    (otherwise : Block.OptionReadsAs ending rest alternative) :
    (Expression.readOperand .conditional cursor present).Succeeds
      (some (.conditional token condition consequence alternative)) rest := by
  obtain ⟨brace, inner, rfl, isBrace, branchReads⟩ := branch
  rw [Expression.readOperand, Cursor.current_of_tokens starts]
  apply Cursor.succeeds_expecting (by rw [starts, List.tail_cons]) opens
  intro _ atOpening
  apply Reading.Succeeds.fromNext
  apply (test (by simp [starts])).andThen
  intro tested _ behindTest
  apply Cursor.succeeds_expecting behindTest closes
  intro _ atClosing
  apply Cursor.succeeds_expecting (by rw [atClosing, List.tail_cons]) isBrace
  intro _ atBrace
  apply (branchReads atBrace).andThen
  intro closed _ behindBranch
  cases alternative with
  | none =>
    obtain ⟨rfl, noElse⟩ := otherwise
    rw [if_neg (by rw [Cursor.next_eq, behindBranch]; exact noElse)]
    exact ⟨rfl, rfl, behindBranch⟩
  | some other =>
    obtain ⟨elseToken, inner, rfl, isElse, otherBrace, otherInner, rfl, isOtherBrace, reads⟩ :=
      otherwise
    have next : closed.next = elseToken := Cursor.next_of_tail behindBranch
    rw [if_pos (by rw [next]; exact isElse)]
    have atElse : closed.advance.tokens = elseToken :: otherBrace :: otherInner := by
      rw [Cursor.tokens_advance, behindBranch]
    apply Reading.Succeeds.fromNext
    apply Cursor.succeeds_expecting (by rw [atElse, List.tail_cons]) isOtherBrace
    intro _ atOtherBrace
    exact (reads atOtherBrace).map _

/-- A function is read from its parameters and its body. -/
theorem succeeds_function {dialect : Dialect} {parameters : List Identifier} {body : Block}
    (starts : cursor.tokens = token :: input)
    (list : ParameterList dialect input middle parameters) (inner : body.ReadsAs middle rest) :
    (Expression.readOperand .function cursor present).Succeeds
      (some (.function token parameters body)) rest := by
  obtain ⟨opening, behindOpening, rfl, opens⟩ := list.exists_opening
  obtain ⟨brace, behindBrace, rfl, isBrace, reads⟩ := inner
  rw [Expression.readOperand, Cursor.current_of_tokens starts]
  apply Cursor.succeeds_expecting (by rw [starts, List.tail_cons]) opens
  intro _ atOpening
  apply (list.succeeds atOpening).andThen
  intro closed _ follows
  apply Cursor.succeeds_expecting follows isBrace
  intro _ atBrace
  exact (reads atBrace).map _

end Operands

section Arguments

variable {token : Token} {input middle rest : List Token}

/-- The last argument has no comma behind it. -/
theorem succeeds_one_argument (inner : (Expression.read .lowest cursor).Succeeds (some value) rest)
    (ends : (rest.headD .endOfInput).kind ≠ .comma) :
    (Expression.readList cursor).Succeeds [value] rest := by
  rw [Expression.readList]
  apply inner.andThen
  intro last _ behind
  have noComma : last.next.kind ≠ .comma := by
    rw [Cursor.next_eq, behind]
    exact ends
  rw [dif_neg noComma]
  exact ⟨rfl, rfl, behind⟩

/-- Arguments behind a comma are read in the same way. -/
theorem succeeds_more_arguments {comma : Token} {values : List Expression}
    (inner : (Expression.read .lowest cursor).Succeeds (some value) (comma :: middle))
    (isComma : comma.kind = .comma)
    (others : ∀ {start : Cursor}, start.tokens = middle →
      (Expression.readList start).Succeeds values rest) :
    (Expression.readList cursor).Succeeds (value :: values) rest := by
  rw [Expression.readList]
  apply inner.andThen
  intro last _ behind
  have next : last.next = comma := Cursor.next_of_tail behind
  rw [dif_pos (by rw [next]; exact isComma)]
  exact ((others (by simp [behind])).map _).fromNext.fromNext

/-- The parentheses of a call may be empty. -/
theorem succeeds_no_arguments {opening closing : Token}
    (starts : cursor.tokens = opening :: closing :: rest)
    (closes : closing.kind = .rightParenthesis) :
    (Expression.readArguments cursor).Succeeds (some []) rest := by
  have next : cursor.next = closing := Cursor.next_of_tail (by rw [starts, List.tail_cons])
  rw [Expression.readArguments, if_pos (by rw [next]; exact closes)]
  exact (Reading.succeeds_pure_of_tokens (by rw [Cursor.tokens_advance, starts, List.tail_cons])
    _).fromNext

/-- Arguments stand between parentheses. -/
theorem succeeds_some_arguments {opening first closing : Token} {values : List Expression}
    (starts : cursor.tokens = opening :: first :: input)
    (some : first.kind ≠ .rightParenthesis)
    (inner : ∀ {start : Cursor}, start.tokens = first :: input →
      (Expression.readList start).Succeeds values (closing :: rest))
    (closes : closing.kind = .rightParenthesis) :
    (Expression.readArguments cursor).Succeeds (.some values) rest := by
  have next : cursor.next = first := Cursor.next_of_tail (by rw [starts, List.tail_cons])
  rw [Expression.readArguments, if_neg (by rw [next]; exact some)]
  apply Reading.Succeeds.fromNext
  apply (inner (by rw [Cursor.tokens_advance, starts, List.tail_cons])).andThen
  intro last _ follows
  apply Cursor.succeeds_expecting follows closes
  intro _ atClosing
  exact Reading.succeeds_pure_of_tokens atClosing _

end Arguments

end Expression

namespace Statement

variable {cursor : Cursor} {value : Expression} {token : Token} {input rest : List Token}

/-- A let statement reads the value of its name and takes the semicolon behind it. -/
theorem succeeds_letBinding {name assign : Token}
    (starts : cursor.tokens = token :: name :: assign :: input)
    (isKeyword : token.kind = .letKeyword) (isName : name.kind = .identifier)
    (isAssign : assign.kind = .assign)
    (inner : ∀ {start : Cursor}, start.tokens = input →
      (Expression.read .lowest start).Succeeds (some value) rest) :
    (Statement.read cursor).Succeeds (some (.letBinding token (.ofToken name) (some value)))
      (Reading.behindSemicolon rest) := by
  have current : cursor.current = token := Cursor.current_of_tokens starts
  have next : cursor.next = name := Cursor.next_of_tail (by rw [starts, List.tail_cons])
  rw [Statement.read]
  apply Reading.Succeeds.noting
  split
  · apply Cursor.succeeds_expecting (by rw [starts, List.tail_cons]) isName
    intro _ atName
    apply Cursor.succeeds_expecting (by rw [atName, List.tail_cons]) isAssign
    intro _ atAssign
    rw [current, next]
    exact ((inner (by rw [Cursor.tokens_advance, atAssign, List.tail_cons])).map
      _).terminated.fromNext
  · next isReturn => rw [current, isKeyword] at isReturn; cases isReturn
  · next notLet _ => exact absurd (by rw [current, isKeyword]) notLet

/-- A return statement reads its value and takes the semicolon behind it. -/
theorem succeeds_returnValue (starts : cursor.tokens = token :: input)
    (isKeyword : token.kind = .returnKeyword)
    (inner : ∀ {start : Cursor}, start.tokens = input →
      (Expression.read .lowest start).Succeeds (some value) rest) :
    (Statement.read cursor).Succeeds (some (.returnValue token (some value)))
      (Reading.behindSemicolon rest) := by
  have current : cursor.current = token := Cursor.current_of_tokens starts
  rw [Statement.read]
  apply Reading.Succeeds.noting
  split
  · next isLet => rw [current, isKeyword] at isLet; cases isLet
  · rw [current]
    exact ((inner (by rw [Cursor.tokens_advance, starts, List.tail_cons])).map
      _).terminated.fromNext
  · next notReturn => exact absurd (by rw [current, isKeyword]) notReturn

/-- An expression is a statement and takes the semicolon behind it. -/
theorem succeeds_expression (starts : cursor.tokens = token :: input)
    (isOperand : token.kind.operandForm?.isSome)
    (inner : (Expression.read .lowest cursor).Succeeds (some value) rest) :
    (Statement.read cursor).Succeeds (some (.expression token (some value)))
      (Reading.behindSemicolon rest) := by
  have current : cursor.current = token := Cursor.current_of_tokens starts
  rw [Statement.read]
  apply Reading.Succeeds.noting
  split
  · next isLet => rw [← current, isLet] at isOperand; cases isOperand
  · next isReturn => rw [← current, isReturn] at isOperand; cases isOperand
  · rw [current]
    exact (inner.map _).terminated

/-- A list of statements goes on behind its first statement. -/
theorem readList_goesOn {scope : Scope} {statement : Statement} {middle : List Token}
    (notEnded : scope.endsAt cursor.current.kind = false)
    (first : (Statement.read cursor).Succeeds (some statement) middle) :
    ∃ later : Cursor, later.tokens = middle ∧
      (Statement.readList scope cursor).GoesOn (statement :: ·)
        (Statement.readList scope later) := by
  refine ⟨(Statement.read cursor).rest.advance, by simp [first.behind_eq], ?_⟩
  rw [Statement.readList, dif_neg (by simp [notEnded])]
  exact (first.andThen_goesOn _).trans ⟨rfl, rfl, rfl⟩

end Statement

/-- A block is read up to its closing brace. -/
theorem Block.succeeds_closed {cursor later : Cursor} {opening closing : Token}
    {input rest : List Token} {statements : List Statement}
    (starts : cursor.tokens = opening :: input) (atEnd : later.tokens = closing :: rest)
    (closes : closing.kind = .rightBrace)
    (goesOn : (Statement.readList .block cursor.advance).GoesOn (statements ++ ·)
      (Statement.readList .block later)) :
    (Block.read cursor).Succeeds ⟨opening, statements⟩ rest := by
  have ended : Statement.readList .block later = .pure [] := by
    rw [Statement.readList, dif_pos (by rw [Cursor.current_of_tokens atEnd, closes]; rfl)]
  have done : (Statement.readList .block later).Succeeds [] rest := by
    rw [ended]
    exact Reading.succeeds_pure_of_tokens atEnd _
  have read := goesOn.succeeds done
  rw [List.append_nil] at read
  rw [Block.read, Cursor.current_of_tokens starts]
  exact (read.map _).fromNext

end MonkeySyntax
