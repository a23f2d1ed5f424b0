import MonkeySyntax.Proofs.Runs
import MonkeySyntax.Tree.Parts

namespace MonkeySyntax

/-- A statement is marked by the kind and the literal of its first token. -/
def Statement.mark (statement : Statement) : TokenKind × String :=
  (statement.token.kind, statement.token.literal)

/-- The statements among the parts of a tree are marked in their order. -/
def statementMarks (parts : List Part) : List (TokenKind × String) :=
  parts.filterMap fun part => part.statement?.map Statement.mark

/-- The statements among the events are marked in the order in which they started. -/
def startedMarks (events : List Event) : List (TokenKind × String) :=
  events.filterMap Event.statement?

/-- The statements of two lists of parts follow each other. -/
@[simp] theorem statementMarks_append (first second : List Part) :
    statementMarks (first ++ second) = statementMarks first ++ statementMarks second :=
  List.filterMap_append

/-- So do those that two lists of events have started. -/
@[simp] theorem startedMarks_append (first second : List Event) :
    startedMarks (first ++ second) = startedMarks first ++ startedMarks second :=
  List.filterMap_append

/-- The statements among the parts have started in their order. Where no error is noted nothing is
absent and no other statement has started. -/
structure Told (parts : List Part) (events : List Event) : Prop where
  ordered : (statementMarks parts).Sublist (startedMarks events)
  complete : errorCount events = 0 →
    Part.absent ∉ parts ∧ statementMarks parts = startedMarks events

namespace Told

variable {part : Part} {parts first second : List Part} {events others : List Event}
  {cursor : Cursor}

/-- Where nothing is read nothing is told. -/
theorem nothing : Told [] [] where
  ordered := List.Sublist.refl _
  complete := fun _ => ⟨List.not_mem_nil, rfl⟩

/-- What is told of two parts follows in the same order. -/
theorem append (front : Told first events) (back : Told second others) :
    Told (first ++ second) (events ++ others) where
  ordered := by
    rw [statementMarks_append, startedMarks_append]
    exact front.ordered.append back.ordered
  complete := by
    intro clean
    rw [errorCount_append, Nat.add_eq_zero_iff] at clean
    obtain ⟨present, same⟩ := front.complete clean.1
    obtain ⟨presentBehind, sameBehind⟩ := back.complete clean.2
    refine ⟨fun lost => ?_, ?_⟩
    · exact (List.mem_append.mp lost).elim present presentBehind
    · rw [statementMarks_append, startedMarks_append, same, sameBehind]

/-- A part that is no statement is not noted. -/
theorem behind (noStatement : part.statement? = none) (present : part.isAbsent = false)
    (told : Told parts events) : Told (part :: parts) events := by
  have unmarked : statementMarks (part :: parts) = statementMarks parts :=
    List.filterMap_cons_none (by rw [noStatement, Option.map_none])
  refine ⟨unmarked ▸ told.ordered, fun clean => ?_⟩
  obtain ⟨presentBehind, same⟩ := told.complete clean
  refine ⟨fun lost => ?_, unmarked.trans same⟩
  rcases List.mem_cons.mp lost with rfl | lostBehind
  · cases present
  · exact presentBehind lostBehind

/-- A part that is no statement is told by no event. -/
theorem single (noStatement : part.statement? = none) (present : part.isAbsent = false) :
    Told [part] [] :=
  behind noStatement present nothing

/-- Names are told by no event. -/
theorem names (parameters : List Identifier) : Told (parameters.map .name) [] := by
  induction parameters with
  | nil => exact nothing
  | cons parameter parameters inductionHypothesis => exact behind rfl rfl inductionHypothesis

/-- A statement is noted in front of its parts. -/
theorem started {statement : Statement} (starts : statement.token = cursor.current)
    (told : Told parts events) :
    Told (.statement statement :: parts) (cursor.statementEvent :: events) := by
  have marked : statement.mark = (cursor.current.kind, cursor.current.literal) := by
    rw [Statement.mark, starts]
  have marks : statementMarks (.statement statement :: parts) =
      (cursor.current.kind, cursor.current.literal) :: statementMarks parts :=
    marked ▸ List.filterMap_cons_some rfl
  have noted : startedMarks (cursor.statementEvent :: events) =
      (cursor.current.kind, cursor.current.literal) :: startedMarks events :=
    List.filterMap_cons_some rfl
  refine ⟨?_, fun clean => ?_⟩
  · rw [marks, noted]
    exact told.ordered.cons_cons _
  · rw [errorCount_statementEvent] at clean
    obtain ⟨present, same⟩ := told.complete clean
    refine ⟨fun lost => ?_, by rw [marks, noted, same]⟩
    exact present ((List.mem_cons.mp lost).resolve_left (by simp))

/-- What is absent has been told by an error. -/
theorem errorCount_ne_zero (told : Told parts events) (lost : Part.absent ∈ parts) :
    errorCount events ≠ 0 :=
  fun clean => (told.complete clean).1 lost

/-- Parts that are left out need an error among the events. -/
theorem dropped (erroneous : errorCount events ≠ 0) : Told [] events where
  ordered := List.nil_sublist _
  complete := fun clean => absurd clean erroneous

/-- An absent part may stand for whatever was noted, if an error was. -/
theorem lost (erroneous : errorCount events ≠ 0) : Told [.absent] events where
  ordered := List.nil_sublist _
  complete := fun clean => absurd clean erroneous

/-- An argument that is dropped is told like one that is absent. -/
theorem toList {value : Option Expression}
    (told : Told (Expression.partsOption value) events) :
    Told (Expression.partsList value.toList) events := by
  cases value with
  | none => exact dropped (told.errorCount_ne_zero List.mem_cons_self)
  | some value =>
    rw [Option.toList_some, Expression.partsList_singleton]
    exact told

/-- A call that lost its callee or its arguments is lost, and an error has told so. -/
theorem called {token : Token} {callee : Option Expression}
    {arguments : Option (List Expression)} (function : Told (Expression.partsOption callee) events)
    (list : Told (Expression.partsListOption arguments) others) :
    Told (Expression.partsOption (Expression.called token callee arguments))
      (events ++ others) := by
  have both := function.append list
  cases callee with
  | none => exact lost (both.errorCount_ne_zero (List.mem_append_left _ List.mem_cons_self))
  | some value =>
    cases arguments with
    | none => exact lost (both.errorCount_ne_zero (List.mem_append_right _ List.mem_cons_self))
    | some values => exact function.append (list.behind rfl rfl)

/-- A conditional that lost its condition is lost with its branches. -/
theorem conditional {token : Token} {condition : Option Expression} {consequence : Block}
    {alternative : Option Block} (test : Told (Expression.partsOption condition) events)
    (branches : Told (consequence.parts ++ Block.partsOption alternative) others) :
    Told (Expression.partsOption (condition.map fun condition =>
      .conditional token condition consequence alternative)) (events ++ others) := by
  have both := test.append branches
  cases condition with
  | none => exact lost (both.errorCount_ne_zero (List.mem_append_left _ List.mem_cons_self))
  | some value =>
    rw [Option.map_some, Expression.partsOption, Expression.parts, List.append_assoc]
    exact both.behind rfl rfl

end Told

/-- No event is noted for the parameters of a function that has them. -/
theorem ParameterListRun.events_eq_nil {start stop : Cursor} {parameters : List Identifier}
    {events : List Event} (run : ParameterListRun start (.some parameters) events stop) :
    events = [] := by
  cases run <;> rfl

mutual

/-- The events of an expression tell its parts. -/
theorem ExpressionRun.told {level : Level} {start stop : Cursor} {value : Option Expression}
    {events : List Event} (run : ExpressionRun level start value events stop) :
    Told (Expression.partsOption value) events :=
  match run with
  | .missing _ => .lost (by simp)
  | .operand operand extension => extension.told operand.told

/-- The events of an operand tell its parts. -/
theorem OperandRun.told {start stop : Cursor} {value : Option Expression} {events : List Event}
    (run : OperandRun start value events stop) : Told (Expression.partsOption value) events :=
  match run with
  | .identifier _ | .integer _ _ | .boolean _ => .single rfl rfl
  | .notInteger _ _ | .bareConditional _ _ | .bareFunction _ _ => .lost (by simp)
  | .unclosedGroup _ _ _ | .unclosedCondition _ _ _ _ | .bareConsequence _ _ _ _ _
  | .bareAlternative _ _ _ _ _ _ _ _ | .bareBody _ _ _ _ => .lost (by simp)
  | .unary _ inner => inner.told.behind rfl rfl
  | .group _ inner _ => inner.told
  | .conditional _ _ test _ _ branch _ => by
    apply test.told.conditional
    rw [Block.partsOption, List.append_nil]
    exact branch.told
  | .alternative _ _ test _ _ branch _ _ otherBranch =>
    test.told.conditional (branch.told.append otherBranch.told)
  | .lostParameters _ _ list => by
    cases list
    exact .lost (by simp)
  | .function _ _ list _ inner => by
    rw [list.events_eq_nil]
    exact ((Told.names _).append inner.told).behind rfl rfl

/-- What is noted of the left operand stands in front of what is noted behind it. -/
theorem ExtensionRun.told {level : Level} {start stop : Cursor}
    {left value : Option Expression} {before events : List Event}
    (run : ExtensionRun level left start value events stop)
    (operand : Told (Expression.partsOption left) before) :
    Told (Expression.partsOption value) (before ++ events) :=
  match run with
  | .stop _ => by
    rw [List.append_nil]
    exact operand
  | .binary _ _ rightOperand extension => by
    rw [← List.append_assoc]
    exact extension.told (operand.append (rightOperand.told.behind rfl rfl))
  | .call _ _ list extension => by
    rw [← List.append_assoc]
    exact extension.told (operand.called list.told)

/-- The events of a list of arguments tell the arguments in it. -/
theorem ArgumentListRun.told {start stop : Cursor} {arguments : Option (List Expression)}
    {events : List Event} (run : ArgumentListRun start arguments events stop) :
    Told (Expression.partsListOption arguments) events :=
  match run with
  | .none _ => .nothing
  | .some _ inner _ => inner.told
  | .unclosed _ _ _ => .lost (by simp)

/-- The events of arguments tell them one by one. -/
theorem ArgumentsRun.told {start stop : Cursor} {arguments : List Expression}
    {events : List Event} (run : ArgumentsRun start arguments events stop) :
    Told (Expression.partsList arguments) events :=
  match run with
  | .one inner _ => inner.told.toList
  | .more first _ list => by
    rw [Expression.partsList_append]
    exact first.told.toList.append list.told

/-- A statement is told by its start and by the events of its value. -/
theorem StatementRun.told {start stop : Cursor} {statement : Option Statement}
    {events : List Event} (run : StatementRun start statement events stop) :
    Told (Statement.partsList statement.toList) events :=
  match run with
  | .unnamed _ _ | .unassigned _ _ _ => .dropped (by simp)
  | .letBinding _ _ _ inner => by
    rw [Option.toList_some, Statement.partsList_singleton]
    exact (inner.told.behind rfl rfl).started rfl
  | .returnValue _ inner | .expression _ _ inner => by
    rw [Option.toList_some, Statement.partsList_singleton]
    exact inner.told.started rfl

/-- The events of statements tell them one by one. -/
theorem StatementsRun.told {scope : Scope} {start stop : Cursor} {statements : List Statement}
    {events : List Event} (run : StatementsRun scope start statements events stop) :
    Told (Statement.partsList statements) events :=
  match run with
  | .none _ => .nothing
  | .more _ first list => by
    rw [Statement.partsList_append]
    exact first.told.append list.told

/-- The events of a block tell its statements. -/
theorem BlockRun.told {start stop : Cursor} {block : Block} {events : List Event}
    (run : BlockRun start block events stop) : Told block.parts events :=
  match run with
  | .block inner => inner.told.behind rfl rfl

end

/-- The log of a source tells what was read from it. The errors in it are those in the list of the
parser, and its texts are their messages; the statements of the program have started in the order
of the text; and without an error no other statement has started. -/
theorem statementMarks_read_sublist (source : Source) :
    source.read.2.events.filterMap Event.error? = source.read.2.errors ∧
      source.read.2.events.filterMap Event.message? =
        source.read.2.errors.map SyntaxError.message ∧
      (statementMarks source.read.1.parts).Sublist (startedMarks source.read.2.events) ∧
      (source.read.2.errors = [] →
        statementMarks source.read.1.parts = startedMarks source.read.2.events) := by
  have told := source.read_follows.told
  have agree := source.errors_read_eq
  refine ⟨agree.symm, ?_, told.ordered, fun clean => ?_⟩
  · rw [agree, List.map_filterMap]
    rfl
  · rw [agree] at clean
    exact (told.complete (congrArg List.length clean)).2

/-- The branch of a conditional that is lost has started a statement, which only the log tells. -/
example :
    statementMarks (Source.ofText "if (a) \x7b b \x7d else").read.1.parts = [(.ifKeyword, "if")] ∧
      startedMarks (Source.ofText "if (a) \x7b b \x7d else").read.2.events =
        [(.ifKeyword, "if"), (.identifier, "b")] := by
  decide +kernel

end MonkeySyntax
