import MonkeySyntax.Session

namespace MonkeySyntax

/-- A record is coherent when it is made of starts and failures, one behind the other. -/
inductive Record.Coherent : Record → Prop where
  | empty : Coherent .empty
  | started (kind : TokenKind) (literal : String) : Coherent (.started kind literal)
  | failed (cause : SyntaxError) (literal : String) : Coherent (.failed cause literal)
  | append {earlier later : Record} (first : Coherent earlier) (second : Coherent later) :
      Coherent (earlier.append later)

/-- The list of errors in a coherent record holds those of its error events, in the same order. -/
theorem Record.Coherent.errors_eq {record : Record} (coherent : record.Coherent) :
    record.errors = record.events.filterMap Event.error? := by
  induction coherent with
  | empty => rfl
  | started kind literal => rfl
  | failed cause literal => rfl
  | append _ _ first second =>
    rw [Record.errors_append, Record.events_append, List.filterMap_append, first, second]

namespace Reading

variable {α β : Type} {start : Cursor}

/-- A reading is coherent when its record is. -/
def Coherent (reading : Reading α start) : Prop :=
  reading.record.Coherent

/-- The errors of a coherent reading are those of its error events. -/
theorem Coherent.errors_eq {reading : Reading α start} (coherent : reading.Coherent) :
    reading.errors = reading.events.filterMap Event.error? :=
  Record.Coherent.errors_eq coherent

/-- A value alone records nothing. -/
theorem coherent_pure (value : α) : (pure value : Reading α start).Coherent :=
  .empty

/-- A failure is added to both lists at once. -/
theorem coherent_fail (cause : SyntaxError) : (fail cause : Reading (Option α) start).Coherent :=
  .failed cause _

/-- The start of a statement is put in front of a coherent record. -/
theorem Coherent.noting {reading : Reading α start} (coherent : reading.Coherent) (kind : TokenKind)
    (literal : String) : (reading.noting kind literal).Coherent :=
  .append (.started kind literal) coherent

/-- Another value has the same record. -/
theorem Coherent.map {reading : Reading α start} (coherent : reading.Coherent) (f : α → β) :
    (reading.map f).Coherent :=
  coherent

/-- So does a reading from the next token. -/
theorem Coherent.fromNext {reading : Reading α start.advance} (coherent : reading.Coherent) :
    reading.fromNext.Coherent :=
  coherent

/-- The record of the second part stands behind that of the first. -/
theorem Coherent.andThen {first : Reading α start}
    {second : α → (rest : Cursor) → rest.remaining ≤ start.remaining → Reading β rest}
    (coherent : first.Coherent)
    (continues : ∀ value rest within, (second value rest within).Coherent) :
    (first.andThen second).Coherent :=
  .append coherent (continues _ _ _)

/-- A semicolon leaves the record as it is. -/
theorem Coherent.terminated {reading : Reading α start} (coherent : reading.Coherent) :
    reading.terminated.Coherent := by
  unfold Reading.terminated
  split
  · exact coherent
  · exact coherent

end Reading

/-- A construct is coherent whether or not the expected token is there. -/
theorem Cursor.coherent_expecting {α : Type} {cursor : Cursor} {kind : TokenKind}
    {continued : cursor.next.kind = kind → Reading (Option α) cursor.advance}
    (coherent : ∀ found, (continued found).Coherent) :
    (cursor.expecting kind continued).Coherent := by
  by_cases found : cursor.next.kind = kind
  · rw [Cursor.expecting_of_eq found]
    exact (coherent found).fromNext
  · rw [Cursor.expecting_of_ne found]
    exact Reading.coherent_fail _

namespace Identifier

/-- The names of parameters record nothing. -/
theorem readList_coherent (cursor : Cursor) : (Identifier.readList cursor).Coherent := by
  induction cursor using Identifier.readList.induct with
  | case1 cursor isComma present inductionHypothesis =>
    rw [Identifier.readList, dif_pos isComma]
    exact (inductionHypothesis.map _).fromNext.fromNext
  | case2 cursor noComma =>
    rw [Identifier.readList, dif_neg noComma]
    exact Reading.coherent_pure _

/-- A list of parameters may miss its closing parenthesis. -/
theorem readParameters_coherent (cursor : Cursor) :
    (Identifier.readParameters cursor).Coherent := by
  rw [Identifier.readParameters]
  split
  · exact (Reading.coherent_pure _).fromNext
  · apply Reading.Coherent.fromNext
    apply (readList_coherent cursor.advance).andThen
    intro parameters last within
    exact Cursor.coherent_expecting fun _ => Reading.coherent_pure _

end Identifier

namespace Expression

variable {level : Level} {cursor : Cursor} {left : Option Expression}

/-- An expression that does not start is a failure. -/
theorem read_coherent_missing (noOperand : cursor.current.kind.operandForm? = none) :
    (Expression.read level cursor).Coherent := by
  rw [read_of_operandForm?_eq_none noOperand]
  exact Reading.coherent_fail _

/-- An expression is coherent when its operand and whatever extends it are. -/
theorem read_coherent_operand {form : OperandForm} {present : 0 < cursor.remaining}
    (starts : cursor.current.kind.operandForm? = some form)
    (operand : (Expression.readOperand form cursor present).Coherent)
    (extended : ∀ left rest, rest.remaining ≤ cursor.remaining →
      (Expression.extend level left rest).Coherent) :
    (Expression.read level cursor).Coherent := by
  rw [read_of_operandForm?_eq_some starts present]
  exact operand.andThen extended

/-- An operator adds the record of its right operand. -/
theorem extend_coherent_binary {operator : BinaryOperator}
    (binds : level < cursor.next.kind.level)
    (spells : BinaryOperator.ofKind? cursor.next.kind = some operator)
    (rightOperand : (Expression.read cursor.next.kind.level cursor.advance.advance).Coherent)
    (extended : ∀ right rest, rest.remaining ≤ cursor.advance.advance.remaining →
      (Expression.extend level (some (.binary cursor.next left operator right)) rest).Coherent) :
    (Expression.extend level left cursor).Coherent := by
  rw [extend_of_operator binds spells]
  exact (rightOperand.andThen extended).fromNext.fromNext

/-- A call adds the record of its arguments. -/
theorem extend_coherent_call (binds : level < cursor.next.kind.level)
    (noOperator : BinaryOperator.ofKind? cursor.next.kind = none)
    (list : (Expression.readArguments cursor.advance).Coherent)
    (extended : ∀ arguments rest, rest.remaining ≤ cursor.advance.remaining →
      (Expression.extend level (Expression.called cursor.next left arguments) rest).Coherent) :
    (Expression.extend level left cursor).Coherent := by
  rw [extend_of_call binds noOperator]
  exact (list.andThen extended).fromNext

/-- An operand that is not extended records nothing more. -/
theorem extend_coherent_stop (stops : ¬level < cursor.next.kind.level) :
    (Expression.extend level left cursor).Coherent := by
  rw [extend_of_not_lt stops]
  exact Reading.coherent_pure _

/-- A call without arguments records nothing. -/
theorem readArguments_coherent_none (closes : cursor.next.kind = .rightParenthesis) :
    (Expression.readArguments cursor).Coherent := by
  rw [Expression.readArguments, if_pos closes]
  exact (Reading.coherent_pure _).fromNext

/-- A list of arguments may miss its closing parenthesis. -/
theorem readArguments_coherent_some (filled : cursor.next.kind ≠ .rightParenthesis)
    (inner : (Expression.readList cursor.advance).Coherent) :
    (Expression.readArguments cursor).Coherent := by
  rw [Expression.readArguments, if_neg filled]
  apply Reading.Coherent.fromNext
  apply inner.andThen
  intro arguments last within
  exact Cursor.coherent_expecting fun _ => Reading.coherent_pure _

/-- The records of arguments stand behind each other, dropped ones included. -/
theorem readList_coherent (first : (Expression.read .lowest cursor).Coherent)
    (others : ∀ last : Cursor, last.remaining ≤ cursor.remaining → last.next.kind = .comma →
      (Expression.readList last.advance.advance).Coherent) :
    (Expression.readList cursor).Coherent := by
  rw [Expression.readList]
  apply first.andThen
  intro value last within
  split
  · next isComma => exact ((others last within isComma).map _).fromNext.fromNext
  · exact Reading.coherent_pure _

section Operands

variable {present : 0 < cursor.remaining}

/-- A name records nothing. -/
theorem readOperand_coherent_identifier :
    (Expression.readOperand .identifier cursor present).Coherent := by
  rw [Expression.readOperand]
  exact Reading.coherent_pure _

/-- A literal that is no integer is a failure. -/
theorem readOperand_coherent_integer :
    (Expression.readOperand .integer cursor present).Coherent := by
  rw [Expression.readOperand]
  split
  · exact Reading.coherent_pure _
  · exact Reading.coherent_fail _

/-- A truth value records nothing. -/
theorem readOperand_coherent_boolean (value : Bool) :
    (Expression.readOperand (.boolean value) cursor present).Coherent := by
  rw [Expression.readOperand]
  exact Reading.coherent_pure _

/-- A prefix operator has the record of its operand. -/
theorem readOperand_coherent_unary (operator : UnaryOperator)
    (inner : (Expression.read .unary cursor.advance).Coherent) :
    (Expression.readOperand (.unary operator) cursor present).Coherent := by
  rw [Expression.readOperand]
  exact (inner.map _).fromNext

/-- A group may miss its closing parenthesis. -/
theorem readOperand_coherent_group (inner : (Expression.read .lowest cursor.advance).Coherent) :
    (Expression.readOperand .group cursor present).Coherent := by
  rw [Expression.readOperand]
  apply Reading.Coherent.fromNext
  apply inner.andThen
  intro value last within
  exact Cursor.coherent_expecting fun _ => Reading.coherent_pure _

/-- A conditional joins the records of its condition and its branches. -/
theorem readOperand_coherent_conditional
    (test : (Expression.read .lowest cursor.advance.advance).Coherent)
    (branch : ∀ tested : Cursor, tested.remaining ≤ cursor.advance.advance.remaining →
      (Block.read tested.advance.advance).Coherent)
    (other : ∀ tested : Cursor, tested.remaining ≤ cursor.advance.advance.remaining →
      ∀ closed : Cursor, closed.remaining ≤ tested.advance.advance.remaining →
        (Block.read closed.advance.advance).Coherent) :
    (Expression.readOperand .conditional cursor present).Coherent := by
  rw [Expression.readOperand]
  apply Cursor.coherent_expecting
  intro opens
  apply Reading.Coherent.fromNext
  apply test.andThen
  intro condition tested within
  apply Cursor.coherent_expecting
  intro closes
  apply Cursor.coherent_expecting
  intro isBrace
  apply (branch tested within).andThen
  intro consequence closed withinBranch
  split
  · apply Reading.Coherent.fromNext
    exact Cursor.coherent_expecting fun _ => (other tested within closed withinBranch).map _
  · exact Reading.coherent_pure _

/-- A function joins the records of its parameters and its body. -/
theorem readOperand_coherent_function
    (inner : ∀ closed : Cursor, closed.remaining ≤ cursor.advance.remaining →
      (Block.read closed.advance).Coherent) :
    (Expression.readOperand .function cursor present).Coherent := by
  rw [Expression.readOperand]
  apply Cursor.coherent_expecting
  intro opens
  apply (Identifier.readParameters_coherent cursor.advance).andThen
  intro parameters closed within
  cases parameters with
  | none => exact Reading.coherent_pure _
  | some names => exact Cursor.coherent_expecting fun _ => (inner closed within).map _

end Operands

end Expression

/-- A block has the record of its statements. -/
theorem Block.read_coherent {cursor : Cursor}
    (inner : (Statement.readList .block cursor.advance).Coherent) :
    (Block.read cursor).Coherent := by
  rw [Block.read]
  exact (inner.map _).fromNext

namespace Statement

variable {scope : Scope} {cursor : Cursor}

/-- The end of a scope records nothing. -/
theorem readList_coherent_none (ends : scope.endsAt cursor.current.kind) :
    (Statement.readList scope cursor).Coherent := by
  rw [Statement.readList, dif_pos ends]
  exact Reading.coherent_pure _

/-- The records of statements stand behind each other. -/
theorem readList_coherent_more (continues : ¬scope.endsAt cursor.current.kind)
    (first : (Statement.read cursor).Coherent)
    (others : ∀ last : Cursor, last.remaining ≤ cursor.remaining →
      (Statement.readList scope last.advance).Coherent) :
    (Statement.readList scope cursor).Coherent := by
  rw [Statement.readList, dif_neg continues]
  apply first.andThen
  intro value last within
  exact ((others last within).map _).fromNext

/-- A statement is coherent whichever form it has. -/
theorem read_coherent (bound : (Expression.read .lowest cursor.advance.advance.advance).Coherent)
    (returned : (Expression.read .lowest cursor.advance).Coherent)
    (expression : (Expression.read .lowest cursor).Coherent) :
    (Statement.read cursor).Coherent := by
  rw [Statement.read]
  apply Reading.Coherent.noting
  split
  · apply Cursor.coherent_expecting
    intro isName
    apply Cursor.coherent_expecting
    intro isAssign
    exact (bound.map _).terminated.fromNext
  · exact (returned.map _).terminated.fromNext
  · exact (expression.map _).terminated

/-- Every reader keeps its record, by their common induction. -/
theorem readList_coherent (scope : Scope) (cursor : Cursor) :
    (Statement.readList scope cursor).Coherent := by
  have coherent := Expression.read.mutual_induct
    (fun level cursor => (Expression.read level cursor).Coherent)
    (fun level left cursor => (Expression.extend level left cursor).Coherent)
    (fun cursor => (Expression.readArguments cursor).Coherent)
    (fun cursor => (Expression.readList cursor).Coherent)
    (fun form cursor present => (Expression.readOperand form cursor present).Coherent)
    (fun cursor => (Block.read cursor).Coherent)
    (fun scope cursor => (Statement.readList scope cursor).Coherent)
    (fun cursor => (Statement.read cursor).Coherent)
    (fun _ _ => Expression.read_coherent_missing)
    (fun _ _ _ starts _ => Expression.read_coherent_operand starts)
    (fun _ _ _ binds _ _ => Expression.extend_coherent_binary binds)
    (fun _ _ _ binds _ => Expression.extend_coherent_call binds)
    (fun _ _ _ => Expression.extend_coherent_stop)
    (fun _ => Expression.readArguments_coherent_none)
    (fun _ => Expression.readArguments_coherent_some)
    (fun _ => Expression.readList_coherent)
    (fun _ _ => Expression.readOperand_coherent_identifier)
    (fun _ _ _ _ => Expression.readOperand_coherent_integer)
    (fun _ _ _ => Expression.readOperand_coherent_integer)
    (fun _ _ => Expression.readOperand_coherent_boolean)
    (fun _ _ => Expression.readOperand_coherent_unary)
    (fun _ _ => Expression.readOperand_coherent_group)
    (fun _ _ => Expression.readOperand_coherent_conditional)
    (fun _ _ => Expression.readOperand_coherent_function)
    (fun _ => Block.read_coherent)
    (fun _ _ => Statement.readList_coherent_none)
    (fun _ _ continues _ => Statement.readList_coherent_more continues)
    (fun _ => Statement.read_coherent)
  exact coherent.2.2.2.2.2.2.1 scope cursor

end Statement

namespace Parser

/-- Reading a program keeps the record of a parser. -/
theorem coherent_readProgram {parser : Parser} (coherent : parser.record.Coherent) :
    parser.readProgram.2.record.Coherent :=
  .append coherent (Statement.readList_coherent .program parser.cursor)

/-- So does every request. -/
theorem coherent_answer {parser : Parser} (coherent : parser.record.Coherent) (request : Request) :
    (parser.answer request).2.record.Coherent := by
  cases request with
  | readProgram => exact coherent_readProgram coherent
  | parse => exact coherent_readProgram coherent
  | errors => exact coherent

/-- After any session the list of errors agrees with the events of that session. -/
theorem errors_session_eq (source : Source) (requests : List Request) :
    ((ofSource source).session requests).2.errors =
      ((ofSource source).session requests).2.events.filterMap Event.error? := by
  suffices coherent : ∀ parser : Parser, parser.record.Coherent →
      (parser.session requests).2.record.Coherent from (coherent (ofSource source) .empty).errors_eq
  induction requests with
  | nil => exact fun _ coherent => coherent
  | cons request requests inductionHypothesis =>
    intro parser coherent
    exact inductionHypothesis _ (coherent_answer coherent request)

end Parser

/-- The errors of a source are those of the error events in its log. -/
theorem Source.errors_read_eq (source : Source) :
    source.read.2.errors = source.read.2.events.filterMap Event.error? :=
  have coherent : (Parser.ofSource source).record.Coherent := .empty
  (Parser.coherent_readProgram coherent).errors_eq

end MonkeySyntax
