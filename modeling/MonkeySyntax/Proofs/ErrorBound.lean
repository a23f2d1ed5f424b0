import MonkeySyntax.Proofs.Runs

namespace MonkeySyntax

/-- Parameters are taken from the tokens that are there. -/
theorem ParametersRun.remaining_le {start stop : Cursor} {parameters : List Identifier}
    (run : ParametersRun start parameters stop) : stop.remaining ≤ start.remaining := by
  induction run with
  | one _ => exact Nat.le_refl _
  | more _ _ inductionHypothesis =>
    simp only [Cursor.remaining_advance] at inductionHypothesis
    omega

/-- A list of parameters notes one error at most, for its missing parenthesis. -/
theorem ParameterListRun.errorCount_le {start stop : Cursor}
    {parameters : Option (List Identifier)} {events : List Event}
    (run : ParameterListRun start parameters events stop) :
    errorCount events + stop.remaining ≤ start.remaining + 1 := by
  cases run with
  | none _ =>
    simp only [errorCount_nil, Cursor.remaining_advance]
    omega
  | some _ inner _ =>
    have within := inner.remaining_le
    simp only [errorCount_nil, Cursor.remaining_advance] at within ⊢
    omega
  | unclosed _ inner _ =>
    have within := inner.remaining_le
    simp only [errorCount_unexpectedEvent, errorCount_nil, Cursor.remaining_advance] at within ⊢
    omega

/-- The semicolon of a statement is one of the tokens that remain. -/
theorem Cursor.remaining_terminated_le (cursor : Cursor) :
    cursor.terminated.remaining ≤ cursor.remaining := by
  unfold Cursor.terminated
  split
  · rw [Cursor.remaining_advance]
    omega
  · exact Nat.le_refl _

mutual

/-- An expression that fails has charged the token on which it stops. What remains pays for the
tokens behind that one and for the end of the input. -/
theorem ExpressionRun.errorCount_le {level : Level} {start stop : Cursor}
    {value : Option Expression} {events : List Event}
    (run : ExpressionRun level start value events stop) :
    errorCount events + stop.remaining ≤ start.remaining + 1 :=
  match run with
  | .missing _ => by
    rw [errorCount_errorEvent, errorCount_nil]
    omega
  | .operand operand extension => by
    have first := operand.errorCount_le
    have grown := extension.errorCount_le
    rw [errorCount_append]
    omega

/-- An operand notes one error more than it takes tokens, at most. -/
theorem OperandRun.errorCount_le {start stop : Cursor} {value : Option Expression}
    {events : List Event} (run : OperandRun start value events stop) :
    errorCount events + stop.remaining ≤ start.remaining + 1 := by
  have present := Cursor.remaining_pos run.current_ne
  match run with
  | .identifier _ | .integer _ _ | .boolean _ =>
    rw [errorCount_nil]
    omega
  | .notInteger _ _ =>
    rw [errorCount_errorEvent, errorCount_nil]
    omega
  | .bareConditional _ _ | .bareFunction _ _ =>
    rw [errorCount_unexpectedEvent, errorCount_nil]
    omega
  | .unary _ inner =>
    have operand := inner.errorCount_le
    rw [Cursor.remaining_advance] at operand
    omega
  | .group _ inner _ =>
    have value := inner.errorCount_le
    rw [Cursor.remaining_advance] at value ⊢
    omega
  | .unclosedGroup _ inner _ =>
    have value := inner.errorCount_le
    rw [Cursor.remaining_advance] at value
    rw [errorCount_append, errorCount_unexpectedEvent, errorCount_nil]
    omega
  | .unclosedCondition _ opens test _ =>
    have entered := Cursor.one_lt_remaining (by rw [opens]; decide)
    have condition := test.errorCount_le
    simp only [Cursor.remaining_advance] at condition
    rw [errorCount_append, errorCount_unexpectedEvent, errorCount_nil]
    omega
  | .bareConsequence _ opens test _ _ =>
    have entered := Cursor.one_lt_remaining (by rw [opens]; decide)
    have condition := test.errorCount_le
    simp only [Cursor.remaining_advance] at condition ⊢
    rw [errorCount_append, errorCount_unexpectedEvent, errorCount_nil]
    omega
  | .conditional _ opens test _ isBrace branch _ =>
    have entered := Cursor.one_lt_remaining (by rw [opens]; decide)
    have atBrace := Cursor.remaining_advance_pos (by rw [isBrace]; decide)
    have condition := test.errorCount_le
    have consequence := branch.errorCount_le atBrace
    simp only [Cursor.remaining_advance] at atBrace condition consequence
    rw [errorCount_append]
    omega
  | .bareAlternative _ opens test _ isBrace branch isElse _ =>
    have entered := Cursor.one_lt_remaining (by rw [opens]; decide)
    have atBrace := Cursor.remaining_advance_pos (by rw [isBrace]; decide)
    have beforeElse := Cursor.one_lt_remaining (by rw [isElse]; decide)
    have condition := test.errorCount_le
    have consequence := branch.errorCount_le atBrace
    simp only [Cursor.remaining_advance] at atBrace condition consequence ⊢
    rw [errorCount_append, errorCount_append, errorCount_unexpectedEvent, errorCount_nil]
    omega
  | .alternative _ opens test _ isBrace branch isElse isOtherBrace otherBranch =>
    have entered := Cursor.one_lt_remaining (by rw [opens]; decide)
    have atBrace := Cursor.remaining_advance_pos (by rw [isBrace]; decide)
    have atOtherBrace := Cursor.remaining_advance_pos (by rw [isOtherBrace]; decide)
    have condition := test.errorCount_le
    have consequence := branch.errorCount_le atBrace
    have alternative := otherBranch.errorCount_le atOtherBrace
    simp only [Cursor.remaining_advance] at atBrace atOtherBrace condition consequence alternative
    rw [errorCount_append, errorCount_append]
    omega
  | .lostParameters _ _ list =>
    have parameters := list.errorCount_le
    rw [Cursor.remaining_advance] at parameters
    omega
  | .bareBody _ _ list _ =>
    have parameters := list.errorCount_le
    rw [Cursor.remaining_advance] at parameters
    rw [errorCount_append, errorCount_unexpectedEvent, errorCount_nil]
    omega
  | .function _ _ list isBrace inner =>
    have atBrace := Cursor.remaining_advance_pos (by rw [isBrace]; decide)
    have parameters := list.errorCount_le
    have body := inner.errorCount_le atBrace
    simp only [Cursor.remaining_advance] at atBrace parameters body
    rw [errorCount_append]
    omega

/-- What binds behind a left operand pays with its own token. -/
theorem ExtensionRun.errorCount_le {level : Level} {start stop : Cursor}
    {left value : Option Expression} {events : List Event}
    (run : ExtensionRun level left start value events stop) :
    errorCount events + stop.remaining ≤ start.remaining :=
  match run with
  | .stop _ => by
    rw [errorCount_nil]
    omega
  | .binary binds _ rightOperand extension => by
    have present := Cursor.one_lt_remaining (Level.next_ne binds)
    have right := rightOperand.errorCount_le
    have grown := extension.errorCount_le
    rw [Cursor.remaining_advance, Cursor.remaining_advance] at right
    rw [errorCount_append]
    omega
  | .call binds _ list extension => by
    have present := Cursor.one_lt_remaining (Level.next_ne binds)
    have arguments := list.errorCount_le (by rw [Cursor.remaining_advance]; omega)
    have grown := extension.errorCount_le
    rw [Cursor.remaining_advance] at arguments
    rw [errorCount_append]
    omega

/-- The opening parenthesis pays for the missing one. -/
theorem ArgumentListRun.errorCount_le {start stop : Cursor}
    {arguments : Option (List Expression)} {events : List Event}
    (run : ArgumentListRun start arguments events stop) (present : 0 < start.remaining) :
    errorCount events + stop.remaining ≤ start.remaining + 1 :=
  match run with
  | .none _ => by
    rw [errorCount_nil, Cursor.remaining_advance]
    omega
  | .some _ inner _ => by
    have arguments := inner.errorCount_le
    rw [Cursor.remaining_advance] at arguments ⊢
    omega
  | .unclosed _ inner _ => by
    have arguments := inner.errorCount_le
    rw [Cursor.remaining_advance] at arguments
    rw [errorCount_append, errorCount_unexpectedEvent, errorCount_nil]
    omega

/-- Each comma pays for the argument behind it. -/
theorem ArgumentsRun.errorCount_le {start stop : Cursor} {arguments : List Expression}
    {events : List Event} (run : ArgumentsRun start arguments events stop) :
    errorCount events + stop.remaining ≤ start.remaining + 1 :=
  match run with
  | .one inner _ => inner.errorCount_le
  | .more first isComma list => by
    have present := Cursor.one_lt_remaining (by rw [isComma]; decide)
    have value := first.errorCount_le
    have others := list.errorCount_le
    rw [Cursor.remaining_advance, Cursor.remaining_advance] at others
    rw [errorCount_append]
    omega

/-- A statement notes one error more than it takes tokens, at most. -/
theorem StatementRun.errorCount_le {start stop : Cursor} {statement : Option Statement}
    {events : List Event} (run : StatementRun start statement events stop)
    (present : 0 < start.remaining) :
    errorCount events + stop.remaining ≤ start.remaining + 1 :=
  match run with
  | .unnamed _ _ => by
    rw [errorCount_statementEvent, errorCount_unexpectedEvent, errorCount_nil]
    omega
  | .unassigned _ _ _ => by
    rw [errorCount_statementEvent, errorCount_unexpectedEvent, errorCount_nil,
      Cursor.remaining_advance]
    omega
  | .letBinding _ isName _ inner => by
    have named := Cursor.one_lt_remaining (by rw [isName]; decide)
    have value := (Nat.add_le_add_left (Cursor.remaining_terminated_le _) _).trans
      inner.errorCount_le
    simp only [Cursor.remaining_advance] at value
    rw [errorCount_statementEvent]
    omega
  | .returnValue _ inner => by
    have value := (Nat.add_le_add_left (Cursor.remaining_terminated_le _) _).trans
      inner.errorCount_le
    rw [Cursor.remaining_advance] at value
    rw [errorCount_statementEvent]
    omega
  | .expression _ _ inner => by
    rw [errorCount_statementEvent]
    exact (Nat.add_le_add_left (Cursor.remaining_terminated_le _) _).trans inner.errorCount_le

/-- Behind the last token there is no statement, so the end of the input is charged only once. -/
theorem StatementsRun.errorCount_le {scope : Scope} {start stop : Cursor}
    {statements : List Statement} {events : List Event}
    (run : StatementsRun scope start statements events stop) :
    errorCount events + stop.remaining ≤ start.remaining + min start.remaining 1 :=
  match run with
  | .none _ => by
    rw [errorCount_nil]
    omega
  | .more continues first list => by
    have present := Cursor.remaining_pos (Scope.current_ne continues)
    have statement := first.errorCount_le present
    have others := list.errorCount_le
    rw [Cursor.remaining_advance] at others
    rw [errorCount_append]
    omega

/-- The opening brace of a block pays for what its statements may owe. -/
theorem BlockRun.errorCount_le {start stop : Cursor} {block : Block} {events : List Event}
    (run : BlockRun start block events stop) (present : 0 < start.remaining) :
    errorCount events + stop.remaining ≤ start.remaining :=
  match run with
  | .block inner => by
    have statements := inner.errorCount_le
    rw [Cursor.remaining_advance] at statements
    omega

end

/-- A source has at most one error for each of its tokens and one for their end. -/
theorem length_errors_read_le (source : Source) :
    source.read.2.errors.length ≤ source.tokens.length + 1 := by
  obtain ⟨events, run, counted⟩ := source.exists_run
  have bound := run.errorCount_le
  have tokens : (Cursor.start source).remaining = source.tokens.length := by
    rw [Cursor.remaining, Cursor.tokens_start]
  rw [tokens] at bound
  rw [counted]
  omega

/-- Each parenthesis that is left open has an error, and so has the missing operand. -/
example : (Source.ofText "((").read.2.errors.length = (Source.ofText "((").tokens.length + 1 := by
  decide +kernel

end MonkeySyntax
