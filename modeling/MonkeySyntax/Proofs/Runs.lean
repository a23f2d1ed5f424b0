import Mathlib.Tactic
import MonkeySyntax.Parser
import MonkeySyntax.Proofs.Agreement
import MonkeySyntax.Reading.Run

namespace MonkeySyntax

/-- A reading follows a run that gives its value and its events and stops where it does. -/
def Reading.Follows {α : Type} {start : Cursor} (reading : Reading α start)
    (run : Cursor → α → List Event → Cursor → Prop) : Prop :=
  run start reading.value reading.events reading.rest

/-- The errors among the events are counted. -/
def errorCount (events : List Event) : Nat :=
  (events.filterMap Event.error?).length

@[simp] theorem errorCount_nil : errorCount [] = 0 := rfl

/-- The errors of two lists of events add up. -/
@[simp] theorem errorCount_append (first second : List Event) :
    errorCount (first ++ second) = errorCount first + errorCount second := by
  simp [errorCount]

/-- An error event is counted. -/
@[simp] theorem errorCount_errorEvent (cursor : Cursor) (cause : SyntaxError)
    (events : List Event) :
    errorCount (cursor.errorEvent cause :: events) = errorCount events + 1 := rfl

@[simp] theorem errorCount_unexpectedEvent (cursor : Cursor) (expected : TokenKind)
    (events : List Event) :
    errorCount (cursor.unexpectedEvent expected :: events) = errorCount events + 1 := rfl

/-- The start of a statement is not. -/
@[simp] theorem errorCount_statementEvent (cursor : Cursor) (events : List Event) :
    errorCount (cursor.statementEvent :: events) = errorCount events := rfl

/-- The end of the input ends every scope. -/
theorem Scope.current_ne {scope : Scope} {cursor : Cursor}
    (continues : ¬scope.endsAt cursor.current.kind) : cursor.current.kind ≠ .endOfInput :=
  fun ended => continues (by simp [ended, Scope.endsAt])

/-- The end of the input binds nothing. -/
theorem Level.next_ne {level : Level} {cursor : Cursor}
    (binds : level < cursor.next.kind.level) : cursor.next.kind ≠ .endOfInput :=
  fun ended => TokenKind.not_lt_level_endOfInput level (by simpa [ended] using binds)

/-- The end of the input starts no operand. -/
theorem OperandRun.current_ne {start stop : Cursor} {value : Option Expression}
    {events : List Event} (run : OperandRun start value events stop) :
    start.current.kind ≠ .endOfInput := by
  cases run with
  | boolean isKeyword =>
    rw [isKeyword]
    split <;> decide
  | @unary operator _ _ _ _ spells _ =>
    rw [spells]
    cases operator <;> decide
  | _ => simp_all

/-- Statements are read up to the end of their scope. -/
theorem StatementsRun.endsAt_current {scope : Scope} {start stop : Cursor}
    {statements : List Statement} {events : List Event}
    (run : StatementsRun scope start statements events stop) : scope.endsAt stop.current.kind :=
  match run with
  | .none ends => ends
  | .more _ _ list => list.endsAt_current

/-- A next token that is there becomes the current one. -/
theorem Cursor.remaining_advance_pos {cursor : Cursor}
    (present : cursor.next.kind ≠ .endOfInput) : 0 < cursor.advance.remaining :=
  Cursor.remaining_pos (by rwa [Cursor.current_advance])

/-- A reading steps over a semicolon as its cursor does. -/
theorem Reading.rest_terminated_eq {α : Type} {start : Cursor} (reading : Reading α start) :
    reading.terminated.rest = reading.rest.terminated :=
  Reading.rest_terminated reading

namespace Identifier

/-- The names of parameters are read in a run without events. -/
theorem readList_runs (cursor : Cursor) :
    (Identifier.readList cursor).events = [] ∧
      ParametersRun cursor (Identifier.readList cursor).value
        (Identifier.readList cursor).rest := by
  induction cursor using Identifier.readList.induct with
  | case1 cursor isComma present inductionHypothesis =>
    obtain ⟨silent, others⟩ := inductionHypothesis
    rw [Identifier.readList, dif_pos isComma]
    exact ⟨silent, .more isComma others⟩
  | case2 cursor noComma =>
    rw [Identifier.readList, dif_neg noComma]
    exact ⟨rfl, .one noComma⟩

/-- A list of parameters is read in a run. -/
theorem readParameters_follows (cursor : Cursor) :
    (Identifier.readParameters cursor).Follows ParameterListRun := by
  rw [Identifier.readParameters]
  split
  · next closes => exact .none closes
  · next named =>
    obtain ⟨silent, inner⟩ := readList_runs cursor.advance
    by_cases closes : (Identifier.readList cursor.advance).rest.next.kind = .rightParenthesis
    · have run := ParameterListRun.some named inner closes
      simpa [Reading.Follows, Cursor.expecting_of_eq closes, silent] using run
    · have run := ParameterListRun.unclosed named inner closes
      simpa [Reading.Follows, Cursor.expecting_of_ne closes, Cursor.unexpectedEvent,
        Cursor.errorEvent, silent] using run

end Identifier

namespace Expression

/-- An operand is read only where the current token is of the kind that starts it. -/
def OperandFollows (form : OperandForm) (cursor : Cursor) (present : 0 < cursor.remaining) :
    Prop :=
  cursor.current.kind = form.kind →
    (Expression.readOperand form cursor present).Follows OperandRun

section Expressions

variable {level : Level} {cursor : Cursor} {left : Option Expression}

/-- Without an operand the run of an expression ends at once. -/
theorem read_follows_missing (noOperand : cursor.current.kind.operandForm? = none) :
    (Expression.read level cursor).Follows (ExpressionRun level) := by
  rw [read_of_operandForm?_eq_none noOperand]
  exact .missing noOperand

/-- The run of an expression goes from its operand to what extends it. -/
theorem read_follows_operand {form : OperandForm} {present : 0 < cursor.remaining}
    (starts : cursor.current.kind.operandForm? = some form)
    (operand : OperandFollows form cursor present)
    (extended : ∀ left rest, rest.remaining ≤ cursor.remaining →
      (Expression.extend level left rest).Follows
        fun start => ExtensionRun level left start) :
    (Expression.read level cursor).Follows (ExpressionRun level) := by
  rw [read_of_operandForm?_eq_some starts present]
  have isForm := TokenKind.operandForm?_eq_some_iff.mp starts
  have first := operand isForm.symm
  have run := ExpressionRun.operand first (extended _ _ (Reading.within _))
  simpa [Reading.Follows] using run

/-- A run goes on through an operator and its right operand. -/
theorem extend_follows_binary {operator : BinaryOperator}
    (binds : level < cursor.next.kind.level)
    (spells : BinaryOperator.ofKind? cursor.next.kind = some operator)
    (rightOperand : (Expression.read cursor.next.kind.level cursor.advance.advance).Follows
      (ExpressionRun cursor.next.kind.level))
    (extended : ∀ right rest, rest.remaining ≤ cursor.advance.advance.remaining →
      (Expression.extend level (some (.binary cursor.next left operator right)) rest).Follows
        fun start => ExtensionRun level (some (.binary cursor.next left operator right)) start) :
    (Expression.extend level left cursor).Follows fun start => ExtensionRun level left start := by
  rw [extend_of_operator binds spells]
  have isKind := BinaryOperator.ofKind?_eq_some_iff.mp spells
  have run := ExtensionRun.binary binds isKind.symm rightOperand
    (extended _ _ (Reading.within _))
  simpa [Reading.Follows] using run

/-- A run goes on through the arguments of a call. -/
theorem extend_follows_call (binds : level < cursor.next.kind.level)
    (noOperator : BinaryOperator.ofKind? cursor.next.kind = none)
    (list : (Expression.readArguments cursor.advance).Follows ArgumentListRun)
    (extended : ∀ arguments rest, rest.remaining ≤ cursor.advance.remaining →
      (Expression.extend level (Expression.called cursor.next left arguments) rest).Follows
        fun start => ExtensionRun level (Expression.called cursor.next left arguments) start) :
    (Expression.extend level left cursor).Follows fun start => ExtensionRun level left start := by
  have opens := TokenKind.eq_leftParenthesis_of_binds binds noOperator
  rw [extend_of_call binds noOperator]
  have run := ExtensionRun.call binds opens list (extended _ _ (Reading.within _))
  simpa [Reading.Follows] using run

/-- A run stops where nothing binds. -/
theorem extend_follows_stop (stops : ¬level < cursor.next.kind.level) :
    (Expression.extend level left cursor).Follows fun start => ExtensionRun level left start := by
  rw [extend_of_not_lt stops]
  exact .stop stops

/-- A call without arguments is read in a run. -/
theorem readArguments_follows_none (closes : cursor.next.kind = .rightParenthesis) :
    (Expression.readArguments cursor).Follows ArgumentListRun := by
  rw [Expression.readArguments, if_pos closes]
  exact .none closes

/-- A call with arguments is read in a run, closed or not. -/
theorem readArguments_follows_some (filled : cursor.next.kind ≠ .rightParenthesis)
    (inner : (Expression.readList cursor.advance).Follows ArgumentsRun) :
    (Expression.readArguments cursor).Follows ArgumentListRun := by
  rw [Expression.readArguments, if_neg filled]
  by_cases closes : (Expression.readList cursor.advance).rest.next.kind = .rightParenthesis
  · have run := ArgumentListRun.some filled inner closes
    simpa [Reading.Follows, Cursor.expecting_of_eq closes] using run
  · have run := ArgumentListRun.unclosed filled inner closes
    simpa [Reading.Follows, Cursor.expecting_of_ne closes, Cursor.unexpectedEvent,
      Cursor.errorEvent] using run

/-- Arguments are read in a run, one by one. -/
theorem readList_follows
    (first : (Expression.read .lowest cursor).Follows (ExpressionRun .lowest))
    (others : ∀ last : Cursor, last.remaining ≤ cursor.remaining → last.next.kind = .comma →
      (Expression.readList last.advance.advance).Follows ArgumentsRun) :
    (Expression.readList cursor).Follows ArgumentsRun := by
  rw [Expression.readList]
  by_cases isComma : (Expression.read .lowest cursor).rest.next.kind = .comma
  · have run := ArgumentsRun.more first isComma (others _ (Reading.within _) isComma)
    simpa [Reading.Follows, isComma] using run
  · have run := ArgumentsRun.one first isComma
    simpa [Reading.Follows, isComma] using run

end Expressions

section Operands

variable {cursor : Cursor} {present : 0 < cursor.remaining}

/-- A name is read in a run of one token. -/
theorem operandFollows_identifier : OperandFollows .identifier cursor present := by
  intro isName
  rw [Expression.readOperand]
  exact .identifier isName

/-- An integer is read in its run when its literal denotes a value. -/
theorem operandFollows_integer {value : Int64}
    (denotes : Decimal.int64? cursor.current.literal = some value) :
    OperandFollows .integer cursor present := by
  intro isInteger
  rw [Expression.readOperand]
  simp only [denotes]
  exact .integer isInteger denotes

/-- Any other literal is read in a run that notes its error. -/
theorem operandFollows_notInteger (denotes : Decimal.int64? cursor.current.literal = none) :
    OperandFollows .integer cursor present := by
  intro isInteger
  rw [Expression.readOperand]
  simp only [denotes]
  exact .notInteger isInteger denotes

theorem operandFollows_boolean (value : Bool) :
    OperandFollows (.boolean value) cursor present := by
  intro isKeyword
  rw [Expression.readOperand]
  apply OperandRun.boolean
  cases value <;> exact isKeyword

/-- A prefix operator is read in a run with its operand. -/
theorem operandFollows_unary (operator : UnaryOperator)
    (inner : (Expression.read .unary cursor.advance).Follows (ExpressionRun .unary)) :
    OperandFollows (.unary operator) cursor present := by
  intro spells
  rw [Expression.readOperand]
  exact .unary spells inner

/-- A group is read in a run, closed or not. -/
theorem operandFollows_group
    (inner : (Expression.read .lowest cursor.advance).Follows (ExpressionRun .lowest)) :
    OperandFollows .group cursor present := by
  intro opens
  rw [Expression.readOperand]
  by_cases closes : (Expression.read .lowest cursor.advance).rest.next.kind = .rightParenthesis
  · have run := OperandRun.group opens inner closes
    simpa [Reading.Follows, Cursor.expecting_of_eq closes] using run
  · have run := OperandRun.unclosedGroup opens inner closes
    simpa [Reading.Follows, Cursor.expecting_of_ne closes, Cursor.unexpectedEvent,
      Cursor.errorEvent] using run

/-- A function is read in a run, as far as it goes. -/
theorem operandFollows_function
    (inner : ∀ closed : Cursor, closed.remaining ≤ cursor.advance.remaining →
      (Block.read closed.advance).Follows BlockRun) :
    OperandFollows .function cursor present := by
  intro isKeyword
  rw [Expression.readOperand]
  by_cases opens : cursor.next.kind = .leftParenthesis
  · rw [Cursor.expecting_of_eq opens]
    have list := Identifier.readParameters_follows cursor.advance
    cases parameters : (Identifier.readParameters cursor.advance).value with
    | none =>
      rw [Reading.Follows, parameters] at list
      have run := OperandRun.lostParameters isKeyword opens list
      simpa [Reading.Follows, parameters] using run
    | some names =>
      rw [Reading.Follows, parameters] at list
      by_cases isBrace : (Identifier.readParameters cursor.advance).rest.next.kind = .leftBrace
      · have body := inner _ (Identifier.readParameters cursor.advance).within
        have run := OperandRun.function isKeyword opens list isBrace body
        simpa [Reading.Follows, parameters, Cursor.expecting_of_eq isBrace] using run
      · have run := OperandRun.bareBody isKeyword opens list isBrace
        simpa [Reading.Follows, parameters, Cursor.expecting_of_ne isBrace,
          Cursor.unexpectedEvent, Cursor.errorEvent] using run
  · rw [Cursor.expecting_of_ne opens]
    exact .bareFunction isKeyword opens

/-- A conditional is read in a run, as far as it goes. -/
theorem operandFollows_conditional
    (test : (Expression.read .lowest cursor.advance.advance).Follows (ExpressionRun .lowest))
    (branch : ∀ tested : Cursor, tested.remaining ≤ cursor.advance.advance.remaining →
      (Block.read tested.advance.advance).Follows BlockRun)
    (other : ∀ tested : Cursor, tested.remaining ≤ cursor.advance.advance.remaining →
      ∀ closed : Cursor, closed.remaining ≤ tested.advance.advance.remaining →
        (Block.read closed.advance.advance).Follows BlockRun) :
    OperandFollows .conditional cursor present := by
  intro isKeyword
  rw [Expression.readOperand]
  by_cases opens : cursor.next.kind = .leftParenthesis
  · rw [Cursor.expecting_of_eq opens]
    set tested := Expression.read .lowest cursor.advance.advance
    by_cases closes : tested.rest.next.kind = .rightParenthesis
    · by_cases isBrace : tested.rest.advance.next.kind = .leftBrace
      · have consequence := branch _ tested.within
        by_cases isElse :
            (Block.read tested.rest.advance.advance).rest.next.kind = .elseKeyword
        · by_cases isOtherBrace :
              (Block.read tested.rest.advance.advance).rest.advance.next.kind = .leftBrace
          · have alternative := other _ tested.within _
              (Block.read tested.rest.advance.advance).within
            have run := OperandRun.alternative isKeyword opens test closes isBrace consequence
              isElse isOtherBrace alternative
            simpa [Reading.Follows, Cursor.expecting_of_eq closes, Cursor.expecting_of_eq isBrace,
              isElse, Cursor.expecting_of_eq isOtherBrace] using run
          · have run := OperandRun.bareAlternative isKeyword opens test closes isBrace consequence
              isElse isOtherBrace
            simpa [Reading.Follows, Cursor.expecting_of_eq closes, Cursor.expecting_of_eq isBrace,
              isElse, Cursor.expecting_of_ne isOtherBrace, Cursor.unexpectedEvent,
              Cursor.errorEvent] using run
        · have run := OperandRun.conditional isKeyword opens test closes isBrace consequence isElse
          simpa [Reading.Follows, Cursor.expecting_of_eq closes, Cursor.expecting_of_eq isBrace,
            isElse] using run
      · have run := OperandRun.bareConsequence isKeyword opens test closes isBrace
        simpa [Reading.Follows, Cursor.expecting_of_eq closes, Cursor.expecting_of_ne isBrace,
          Cursor.unexpectedEvent, Cursor.errorEvent] using run
    · have run := OperandRun.unclosedCondition isKeyword opens test closes
      simpa [Reading.Follows, Cursor.expecting_of_ne closes, Cursor.unexpectedEvent,
        Cursor.errorEvent] using run
  · rw [Cursor.expecting_of_ne opens]
    exact .bareConditional isKeyword opens

end Operands

end Expression

/-- A block is read in the run of its statements. -/
theorem Block.read_follows {cursor : Cursor}
    (inner : (Statement.readList .block cursor.advance).Follows (StatementsRun .block)) :
    (Block.read cursor).Follows BlockRun := by
  rw [Block.read]
  exact .block inner

namespace Statement

variable {scope : Scope} {cursor : Cursor}

/-- The run of a scope ends where the scope does. -/
theorem readList_follows_none (ends : scope.endsAt cursor.current.kind) :
    (Statement.readList scope cursor).Follows (StatementsRun scope) := by
  rw [Statement.readList, dif_pos ends]
  exact .none ends

/-- The run of a scope goes from one statement to the next. -/
theorem readList_follows_more (continues : ¬scope.endsAt cursor.current.kind)
    (first : (Statement.read cursor).Follows StatementRun)
    (others : ∀ last : Cursor, last.remaining ≤ cursor.remaining →
      (Statement.readList scope last.advance).Follows (StatementsRun scope)) :
    (Statement.readList scope cursor).Follows (StatementsRun scope) := by
  rw [Statement.readList, dif_neg continues]
  have run := StatementsRun.more continues first (others _ (Reading.within _))
  simpa [Reading.Follows] using run

/-- A statement is read in a run of its form. -/
theorem read_follows
    (bound : (Expression.read .lowest cursor.advance.advance.advance).Follows
      (ExpressionRun .lowest))
    (returned : (Expression.read .lowest cursor.advance).Follows (ExpressionRun .lowest))
    (expression : (Expression.read .lowest cursor).Follows (ExpressionRun .lowest)) :
    (Statement.read cursor).Follows StatementRun := by
  rw [Statement.read]
  split
  · next isKeyword =>
    by_cases isName : cursor.next.kind = .identifier
    · by_cases isAssign : cursor.advance.next.kind = .assign
      · have run := StatementRun.letBinding isKeyword isName isAssign bound
        simpa [Reading.Follows, Cursor.expecting_of_eq isName, Cursor.expecting_of_eq isAssign,
          Reading.rest_terminated_eq, Cursor.statementEvent] using run
      · have run := StatementRun.unassigned isKeyword isName isAssign
        simpa [Reading.Follows, Cursor.expecting_of_eq isName, Cursor.expecting_of_ne isAssign,
          Cursor.statementEvent, Cursor.unexpectedEvent, Cursor.errorEvent] using run
    · have run := StatementRun.unnamed isKeyword isName
      simpa [Reading.Follows, Cursor.expecting_of_ne isName, Cursor.statementEvent,
        Cursor.unexpectedEvent, Cursor.errorEvent] using run
  · next isKeyword =>
    have run := StatementRun.returnValue isKeyword returned
    simpa [Reading.Follows, Reading.rest_terminated_eq, Cursor.statementEvent]
      using run
  · next notLet notReturn =>
    have run := StatementRun.expression notLet notReturn expression
    simpa [Reading.Follows, Reading.rest_terminated_eq, Cursor.statementEvent]
      using run

end Statement

/-- The statements of a scope are read in a run. -/
theorem Statement.readList_run (scope : Scope) (cursor : Cursor) :
    (Statement.readList scope cursor).Follows (StatementsRun scope) := by
  have follows := Expression.read.mutual_induct
    (fun level cursor => (Expression.read level cursor).Follows (ExpressionRun level))
    (fun level left cursor => (Expression.extend level left cursor).Follows
      fun start => ExtensionRun level left start)
    (fun cursor => (Expression.readArguments cursor).Follows ArgumentListRun)
    (fun cursor => (Expression.readList cursor).Follows ArgumentsRun)
    Expression.OperandFollows
    (fun cursor => (Block.read cursor).Follows BlockRun)
    (fun scope cursor => (Statement.readList scope cursor).Follows (StatementsRun scope))
    (fun cursor => (Statement.read cursor).Follows StatementRun)
    (fun _ _ => Expression.read_follows_missing)
    (fun _ _ _ starts _ => Expression.read_follows_operand starts)
    (fun _ _ _ binds _ _ => Expression.extend_follows_binary binds)
    (fun _ _ _ binds _ => Expression.extend_follows_call binds)
    (fun _ _ _ => Expression.extend_follows_stop)
    (fun _ => Expression.readArguments_follows_none)
    (fun _ => Expression.readArguments_follows_some)
    (fun _ => Expression.readList_follows)
    (fun _ _ => Expression.operandFollows_identifier)
    (fun _ _ _ => Expression.operandFollows_integer)
    (fun _ _ => Expression.operandFollows_notInteger)
    (fun _ _ => Expression.operandFollows_boolean)
    (fun _ _ => Expression.operandFollows_unary)
    (fun _ _ => Expression.operandFollows_group)
    (fun _ _ => Expression.operandFollows_conditional)
    (fun _ _ => Expression.operandFollows_function)
    (fun _ => Block.read_follows)
    (fun _ _ => Statement.readList_follows_none)
    (fun _ _ continues _ => Statement.readList_follows_more continues)
    (fun _ => Statement.read_follows)
  exact follows.2.2.2.2.2.2.1 scope cursor

/-- The program, the events and the last place of a source are those of one run. -/
theorem Source.read_follows (source : Source) :
    StatementsRun .program (.start source) source.read.1.statements source.read.2.events
      source.read.2.cursor := by
  rw [Source.events_read]
  exact Statement.readList_run .program (.start source)

/-- The errors of a source are counted among the events of its run. -/
theorem Source.exists_run (source : Source) :
    ∃ events, StatementsRun .program (.start source) source.read.1.statements events
      source.read.2.cursor ∧ source.read.2.errors.length = errorCount events :=
  ⟨_, source.read_follows, congrArg List.length source.errors_read_eq⟩

end MonkeySyntax
