import MonkeySyntax.Proofs.Runs
import MonkeySyntax.Tree.Parts

namespace MonkeySyntax

/-- The absent children among the parts of a tree are counted. -/
def absences (parts : List Part) : Nat :=
  parts.countP Part.isAbsent

@[simp] theorem absences_nil : absences [] = 0 := rfl

/-- The absences of two lists of parts add up. -/
@[simp] theorem absences_append (first second : List Part) :
    absences (first ++ second) = absences first + absences second :=
  List.countP_append

/-- An absent part is counted. -/
@[simp] theorem absences_absent (parts : List Part) :
    absences (.absent :: parts) = absences parts + 1 :=
  List.countP_cons_of_pos rfl

/-- Any other part is not. -/
theorem absences_cons_of_present {part : Part} (present : part.isAbsent = false)
    (parts : List Part) : absences (part :: parts) = absences parts :=
  List.countP_cons_of_neg (by simp [present])

/-- Names are never absent. -/
@[simp] theorem absences_map_name (names : List Identifier) :
    absences (names.map .name) = 0 := by
  induction names with
  | nil => rfl
  | cons name names inductionHypothesis =>
    rw [List.map_cons, absences_cons_of_present rfl, inductionHypothesis]

/-- A lost callee or a lost list of arguments is an absence, and so is the call that needs it. -/
theorem absences_called_le (token : Token) (callee : Option Expression)
    (arguments : Option (List Expression)) :
    absences (Expression.partsOption (Expression.called token callee arguments)) ≤
      absences (Expression.partsOption callee) +
        absences (Expression.partsListOption arguments) := by
  cases callee with
  | none => simp [Expression.called, Expression.partsOption]
  | some value =>
    cases arguments with
    | none => simp [Expression.called, Expression.partsOption, Expression.partsListOption]
    | some values =>
      rw [Expression.called, Option.bind_some, Option.map_some, Expression.partsOption,
        Expression.parts, absences_append, absences_cons_of_present rfl]
      exact Nat.le_refl _

/-- A lost condition is an absence, and so is the conditional that needs it. -/
theorem absences_conditional_le (token : Token) (condition : Option Expression)
    (consequence : Block) (alternative : Option Block) :
    absences (Expression.partsOption (condition.map fun condition =>
        .conditional token condition consequence alternative)) ≤
      absences (Expression.partsOption condition) +
        (absences consequence.parts + absences (Block.partsOption alternative)) := by
  cases condition with
  | none => simp [Expression.partsOption]
  | some value =>
    rw [Option.map_some, Expression.partsOption, Expression.parts, absences_cons_of_present rfl,
      absences_append, absences_append, Nat.add_assoc]
    exact Nat.le_refl _

/-- A lost argument is left out of the list, so it costs nothing there. -/
theorem absences_toList_le (value : Option Expression) :
    absences (Expression.partsList value.toList) ≤ absences (Expression.partsOption value) := by
  cases value with
  | none => simp [Expression.partsList]
  | some value => simp [Expression.partsOption]

mutual

/-- Each absence in an expression is paid for by an error noted on the way. A lost expression is an
absence before its place in the tree is known. -/
theorem ExpressionRun.absences_le {level : Level} {start stop : Cursor}
    {value : Option Expression} {events : List Event}
    (run : ExpressionRun level start value events stop) :
    absences (Expression.partsOption value) ≤ errorCount events :=
  match run with
  | .missing _ => by simp [Expression.partsOption]
  | .operand operand extension => by
    have first := operand.absences_le
    have grown := extension.absences_le
    rw [errorCount_append]
    omega

/-- A failed operand is one absence and has noted an error of its own. -/
theorem OperandRun.absences_le {start stop : Cursor} {value : Option Expression}
    {events : List Event} (run : OperandRun start value events stop) :
    absences (Expression.partsOption value) ≤ errorCount events :=
  match run with
  | .identifier _ | .integer _ _ | .boolean _ => Nat.zero_le _
  | .notInteger _ _ | .bareConditional _ _ | .bareFunction _ _ => by
    simp [Expression.partsOption]
  | .unclosedGroup _ _ _ | .unclosedCondition _ _ _ _ | .bareConsequence _ _ _ _ _
  | .bareBody _ _ _ _ => by
    simp [Expression.partsOption]
  | .bareAlternative _ _ _ _ _ _ _ _ => by
    simp only [Expression.partsOption, absences_absent, absences_nil, errorCount_append,
      errorCount_unexpectedEvent]
    omega
  | .unary _ inner => by
    rw [Expression.partsOption, Expression.parts, absences_cons_of_present rfl]
    exact inner.absences_le
  | .group _ inner _ => inner.absences_le
  | .conditional _ _ test _ _ branch _ => by
    have condition := test.absences_le
    have consequence := branch.absences_le
    apply (absences_conditional_le _ _ _ _).trans
    rw [Block.partsOption, absences_nil, errorCount_append]
    omega
  | .alternative _ _ test _ _ branch _ _ otherBranch => by
    have condition := test.absences_le
    have consequence := branch.absences_le
    have alternative := otherBranch.absences_le
    apply (absences_conditional_le _ _ _ _).trans
    rw [Block.partsOption, errorCount_append, errorCount_append]
    omega
  | .lostParameters _ _ list => by
    cases list
    simp [Expression.partsOption]
  | .function _ _ _ _ inner => by
    have body := inner.absences_le
    rw [Expression.partsOption, Expression.parts, absences_cons_of_present rfl, absences_append,
      absences_map_name, errorCount_append]
    omega

/-- What was lost of the left operand has been paid for before it grows. -/
theorem ExtensionRun.absences_le {level : Level} {start stop : Cursor}
    {left value : Option Expression} {events : List Event}
    (run : ExtensionRun level left start value events stop) :
    absences (Expression.partsOption value) ≤
      absences (Expression.partsOption left) + errorCount events :=
  match run with
  | .stop _ => Nat.le_add_right _ _
  | .binary _ _ rightOperand extension => by
    have right := rightOperand.absences_le
    have grown := extension.absences_le
    rw [Expression.partsOption, Expression.parts, absences_append,
      absences_cons_of_present rfl] at grown
    rw [errorCount_append]
    omega
  | .call _ _ list extension => by
    have arguments := list.absences_le
    have grown := extension.absences_le.trans
      (Nat.add_le_add_right (absences_called_le _ _ _) _)
    rw [errorCount_append]
    omega

/-- A list of arguments that is lost has noted its missing parenthesis. -/
theorem ArgumentListRun.absences_le {start stop : Cursor}
    {arguments : Option (List Expression)} {events : List Event}
    (run : ArgumentListRun start arguments events stop) :
    absences (Expression.partsListOption arguments) ≤ errorCount events :=
  match run with
  | .none _ => by simp [Expression.partsListOption, Expression.partsList]
  | .some _ inner _ => inner.absences_le
  | .unclosed _ _ _ => by simp [Expression.partsListOption]

/-- An argument that is dropped leaves no absence behind. -/
theorem ArgumentsRun.absences_le {start stop : Cursor} {arguments : List Expression}
    {events : List Event} (run : ArgumentsRun start arguments events stop) :
    absences (Expression.partsList arguments) ≤ errorCount events :=
  match run with
  | .one inner _ => (absences_toList_le _).trans inner.absences_le
  | .more first _ list => by
    have value := (absences_toList_le _).trans first.absences_le
    have others := list.absences_le
    rw [Expression.partsList_append, absences_append, errorCount_append]
    exact Nat.add_le_add value others

/-- A statement that is lost has no parts. -/
theorem StatementRun.absences_le {start stop : Cursor} {statement : Option Statement}
    {events : List Event} (run : StatementRun start statement events stop) :
    absences (Statement.partsList statement.toList) ≤ errorCount events :=
  match run with
  | .unnamed _ _ | .unassigned _ _ _ => Nat.zero_le _
  | .letBinding _ _ _ inner => by
    rw [Option.toList_some, Statement.partsList_singleton, Statement.parts,
      absences_cons_of_present rfl, absences_cons_of_present rfl]
    exact inner.absences_le
  | .returnValue _ inner | .expression _ _ inner => by
    rw [Option.toList_some, Statement.partsList_singleton, Statement.parts,
      absences_cons_of_present rfl]
    exact inner.absences_le

/-- The absences of statements add up, and so do their errors. -/
theorem StatementsRun.absences_le {scope : Scope} {start stop : Cursor}
    {statements : List Statement} {events : List Event}
    (run : StatementsRun scope start statements events stop) :
    absences (Statement.partsList statements) ≤ errorCount events :=
  match run with
  | .none _ => Nat.zero_le _
  | .more _ first list => by
    have statement := first.absences_le
    have others := list.absences_le
    rw [Statement.partsList_append, absences_append, errorCount_append]
    exact Nat.add_le_add statement others

/-- A block has the absences of its statements. -/
theorem BlockRun.absences_le {start stop : Cursor} {block : Block} {events : List Event}
    (run : BlockRun start block events stop) : absences block.parts ≤ errorCount events :=
  match run with
  | .block inner => by
    rw [Block.parts, absences_cons_of_present rfl]
    exact inner.absences_le

end

/-- Every absent child of the program of a source is paid for by an error of its own. A program
without errors has no absent child. -/
theorem absences_read_le (source : Source) :
    absences source.read.1.parts ≤ source.read.2.errors.length ∧
      (source.read.2.errors = [] → Part.absent ∉ source.read.1.parts) := by
  obtain ⟨events, run, counted⟩ := source.exists_run
  have paid : absences source.read.1.parts ≤ source.read.2.errors.length := by
    rw [counted]
    exact run.absences_le
  apply And.intro paid
  intro clean isPart
  rw [clean, List.length_nil, Nat.le_zero] at paid
  exact List.countP_eq_zero.mp paid .absent isPart rfl

end MonkeySyntax
