import MonkeySyntax.Reading
import MonkeySyntax.Operand
import MonkeySyntax.Decimal
import MonkeySyntax.Tree

namespace MonkeySyntax

/-- A program ends with the input; a block ends at its closing brace as well. -/
inductive Scope where
  | program
  | block
deriving DecidableEq

/-- A list of statements stops in front of a token of these kinds. -/
def Scope.endsAt : Scope → TokenKind → Bool
  | _, .endOfInput => true
  | .block, .rightBrace => true
  | _, _ => false

/-- A program ends with the input alone. -/
theorem Scope.endsAt_program_iff {kind : TokenKind} :
    Scope.program.endsAt kind ↔ kind = .endOfInput := by
  cases kind <;> decide

/-- A block ends with the input or at its closing brace. -/
theorem Scope.endsAt_block_iff {kind : TokenKind} :
    Scope.block.endsAt kind ↔ kind = .endOfInput ∨ kind = .rightBrace := by
  cases kind <;> decide

/-- A list of parameters starts on a parameter and takes one token for each. -/
def Identifier.readList (cursor : Cursor) : Reading (List Identifier) cursor :=
  if comma : cursor.next.kind = .comma then
    have present : 1 < cursor.remaining := Cursor.one_lt_remaining (by simp [comma])
    ((readList cursor.advance.advance).map fun others =>
      .ofToken cursor.current :: others).fromNext.fromNext
  else
    .pure [.ofToken cursor.current]
termination_by cursor.remaining
decreasing_by
  simp only [Cursor.remaining_advance]
  omega

/-- The parameters of a function start on the opening parenthesis and need a closing one. -/
def Identifier.readParameters (cursor : Cursor) : Reading (Option (List Identifier)) cursor :=
  if cursor.next.kind = .rightParenthesis then
    Reading.fromNext (.pure (some []))
  else
    ((readList cursor.advance).andThen fun parameters last _ =>
      last.expecting .rightParenthesis fun _ => .pure (some parameters)).fromNext

mutual

/-- An expression is an operand and whatever binds to it above the level. Each reading starts on the
first token of its construct and stops on the last one, or at the place where it fails. -/
def Expression.read (level : Level) (cursor : Cursor) : Reading (Option Expression) cursor :=
  match starts : cursor.current.kind.operandForm? with
  | none => .fail (.noOperand cursor.current.kind)
  | some form =>
    have present : 0 < cursor.remaining :=
      Cursor.remaining_pos fun ended => by simp [ended, TokenKind.operandForm?] at starts
    (Expression.readOperand form cursor present).andThen fun left rest _ =>
      Expression.extend level left rest
termination_by 6 * cursor.remaining + 2

/-- An operand is a leaf, or starts with an operator, a parenthesis or a keyword. -/
def Expression.readOperand (form : OperandForm) (cursor : Cursor)
    (_present : 0 < cursor.remaining) : Reading (Option Expression) cursor :=
  match form with
  | .identifier => .pure (some (.identifier (.ofToken cursor.current)))
  | .integer =>
    match Decimal.int64? cursor.current.literal with
    | some value => .pure (some (.integer cursor.current value))
    | none => .fail (.notInteger cursor.current.literal)
  | .boolean value => .pure (some (.boolean cursor.current value))
  | .unary operator =>
    ((Expression.read .unary cursor.advance).map fun operand =>
      some (.unary cursor.current operator operand)).fromNext
  | .group =>
    ((Expression.read .lowest cursor.advance).andThen fun value last _ =>
      last.expecting .rightParenthesis fun _ => .pure value).fromNext
  | .conditional =>
    cursor.expecting .leftParenthesis fun _ =>
      ((Expression.read .lowest cursor.advance.advance).andThen fun condition tested _ =>
        tested.expecting .rightParenthesis fun _ =>
        tested.advance.expecting .leftBrace fun _ =>
        (Block.read tested.advance.advance).andThen fun consequence closed _ =>
          -- A missing condition is told only after both branches have been read.
          if closed.next.kind = .elseKeyword then
            (closed.advance.expecting .leftBrace fun _ =>
              (Block.read closed.advance.advance).map fun alternative =>
                condition.map fun condition =>
                  .conditional cursor.current condition consequence (some alternative)).fromNext
          else
            .pure (condition.map fun condition =>
              .conditional cursor.current condition consequence none)).fromNext
  | .function =>
    cursor.expecting .leftParenthesis fun _ =>
      (Identifier.readParameters cursor.advance).andThen fun parameters closed _ =>
        match parameters with
        | none => .pure none
        | some parameters =>
          closed.expecting .leftBrace fun _ =>
            (Block.read closed.advance).map fun body =>
              some (.function cursor.current parameters body)
termination_by 6 * cursor.remaining + 1
decreasing_by
  all_goals try simp only [Cursor.remaining_advance] at *
  all_goals omega

/-- An operand grows by the operators and calls behind it that bind above the level. The right
operand is read at the level of its operator, so equal levels group to the left. -/
def Expression.extend (level : Level) (left : Option Expression) (cursor : Cursor) :
    Reading (Option Expression) cursor :=
  if binds : level < cursor.next.kind.level then
    have present : 1 < cursor.remaining :=
      Cursor.one_lt_remaining fun ended =>
        TokenKind.not_lt_level_endOfInput level (by simpa [ended] using binds)
    match BinaryOperator.ofKind? cursor.next.kind with
    | some operator =>
      ((Expression.read cursor.next.kind.level cursor.advance.advance).andThen fun right rest _ =>
        Expression.extend level (some (.binary cursor.next left operator right))
          rest).fromNext.fromNext
    | none =>
      -- Only the parenthesis of a call binds without being an operator.
      ((Expression.readArguments cursor.advance).andThen fun arguments rest _ =>
        Expression.extend level
          (left.bind fun callee => arguments.map fun arguments =>
            .call cursor.next callee arguments) rest).fromNext
  else
    .pure left
termination_by 6 * cursor.remaining
decreasing_by
  all_goals try simp only [Cursor.remaining_advance] at *
  all_goals omega

/-- The arguments of a call start on the opening parenthesis and need a closing one. -/
def Expression.readArguments (cursor : Cursor) : Reading (Option (List Expression)) cursor :=
  if cursor.next.kind = .rightParenthesis then
    Reading.fromNext (.pure (some []))
  else
    ((Expression.readList cursor.advance).andThen fun arguments last _ =>
      last.expecting .rightParenthesis fun _ => .pure (some arguments)).fromNext
termination_by 6 * cursor.remaining + 4
decreasing_by
  simp only [Cursor.remaining_advance]
  omega

/-- A list of arguments drops those that could not be read. -/
def Expression.readList (cursor : Cursor) : Reading (List Expression) cursor :=
  (Expression.read .lowest cursor).andThen fun first last _ =>
    if comma : last.next.kind = .comma then
      have present : 1 < last.remaining := Cursor.one_lt_remaining (by simp [comma])
      ((Expression.readList last.advance.advance).map fun others =>
        first.toList ++ others).fromNext.fromNext
    else
      .pure first.toList
termination_by 6 * cursor.remaining + 3
decreasing_by
  all_goals try simp only [Cursor.remaining_advance] at *
  all_goals omega

/-- A statement is noted when it starts; only a let statement can be abandoned. -/
def Statement.read (cursor : Cursor) : Reading (Option Statement) cursor :=
  Reading.noting cursor.current.kind cursor.current.literal <|
    match cursor.current.kind with
    | .letKeyword =>
      cursor.expecting .identifier fun _ =>
      cursor.advance.expecting .assign fun _ =>
        ((Expression.read .lowest cursor.advance.advance.advance).map fun value =>
          some (.letBinding cursor.current (.ofToken cursor.next) value)).terminated.fromNext
    | .returnKeyword =>
      ((Expression.read .lowest cursor.advance).map fun value =>
        some (.returnValue cursor.current value)).terminated.fromNext
    | _ =>
      ((Expression.read .lowest cursor).map fun value =>
        some (.expression cursor.current value)).terminated
termination_by 6 * cursor.remaining + 3
decreasing_by
  all_goals try simp only [Cursor.remaining_advance] at *
  all_goals omega

/-- The statements of a scope follow each other up to its end. -/
def Statement.readList (scope : Scope) (cursor : Cursor) : Reading (List Statement) cursor :=
  if ends : scope.endsAt cursor.current.kind then
    .pure []
  else
    have present : 0 < cursor.remaining :=
      Cursor.remaining_pos fun ended => ends (by simp [ended, Scope.endsAt])
    (Statement.read cursor).andThen fun first last _ =>
      ((Statement.readList scope last.advance).map fun others =>
        first.toList ++ others).fromNext
termination_by 6 * cursor.remaining + 4
decreasing_by
  all_goals try simp only [Cursor.remaining_advance] at *
  all_goals omega

/-- A block starts on the opening brace and stops on the closing one or at the end of the input. -/
def Block.read (cursor : Cursor) : Reading Block cursor :=
  ((Statement.readList .block cursor.advance).map fun statements =>
    ⟨cursor.current, statements⟩).fromNext
termination_by 6 * cursor.remaining + 5
decreasing_by
  simp only [Cursor.remaining_advance]
  omega

end

/-- A call needs its callee and all of its arguments. -/
def Expression.called (token : Token) (callee : Option Expression)
    (arguments : Option (List Expression)) : Option Expression :=
  callee.bind fun callee => arguments.map fun arguments => .call token callee arguments

namespace Expression

variable {level : Level} {left : Option Expression} {cursor : Cursor}

/-- A token that starts no operand is a failure. -/
theorem read_of_operandForm?_eq_none (missing : cursor.current.kind.operandForm? = none) :
    Expression.read level cursor = .fail (.noOperand cursor.current.kind) := by
  rw [Expression.read]
  split
  · rfl
  · next found => rw [missing] at found; cases found

/-- An expression starts with the operand that its first token announces. -/
theorem read_of_operandForm?_eq_some {form : OperandForm}
    (starts : cursor.current.kind.operandForm? = some form) (present : 0 < cursor.remaining) :
    Expression.read level cursor =
      (Expression.readOperand form cursor present).andThen fun left rest _ =>
        Expression.extend level left rest := by
  rw [Expression.read]
  split
  · next missing => rw [missing] at starts; cases starts
  · next other found =>
    obtain rfl := Option.some.inj (starts.symm.trans found)
    rfl

/-- An operator that binds takes a right operand at its own level. -/
theorem extend_of_operator {operator : BinaryOperator} (binds : level < cursor.next.kind.level)
    (spells : BinaryOperator.ofKind? cursor.next.kind = some operator) :
    Expression.extend level left cursor =
      ((Expression.read cursor.next.kind.level cursor.advance.advance).andThen fun right rest _ =>
        Expression.extend level (some (.binary cursor.next left operator right))
          rest).fromNext.fromNext := by
  rw [Expression.extend, dif_pos binds]
  split
  · next other found =>
    obtain rfl := Option.some.inj (spells.symm.trans found)
    rfl
  · next missing => rw [spells] at missing; cases missing

/-- Any other token that binds opens the arguments of a call. -/
theorem extend_of_call (binds : level < cursor.next.kind.level)
    (noOperator : BinaryOperator.ofKind? cursor.next.kind = none) :
    Expression.extend level left cursor =
      ((Expression.readArguments cursor.advance).andThen fun arguments rest _ =>
        Expression.extend level (Expression.called cursor.next left arguments) rest).fromNext := by
  rw [Expression.extend, dif_pos binds]
  split
  · next found => rw [noOperator] at found; cases found
  · rfl

/-- Where nothing binds above the level, the operand is all there is. -/
theorem extend_of_not_lt (stops : ¬level < cursor.next.kind.level) :
    Expression.extend level left cursor = .pure left := by
  rw [Expression.extend, dif_neg stops]

end Expression

end MonkeySyntax
