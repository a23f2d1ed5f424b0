import MonkeySyntax.Proofs.Runs
import MonkeySyntax.Tree.Measure
import MonkeySyntax.Tree.Parts

namespace MonkeySyntax

/-- Where tokens remain the current one is the first of them. -/
theorem Cursor.tokens_eq_current_cons {cursor : Cursor} (present : 0 < cursor.remaining) :
    cursor.tokens = cursor.current :: cursor.advance.tokens := by
  rw [Cursor.tokens_advance, Cursor.current_eq]
  cases tokens : cursor.tokens with
  | nil => simp [Cursor.remaining, tokens] at present
  | cons token rest => rfl

/-- The tokens stored in a tree stand in the order of its parts. -/
def storedTokens (parts : List Part) : List Token :=
  parts.filterMap Part.token?

/-- The tokens of two lists of parts follow each other. -/
@[simp] theorem storedTokens_append (first second : List Part) :
    storedTokens (first ++ second) = storedTokens first ++ storedTokens second :=
  List.filterMap_append

/-- The parts store tokens of the input in their order, up to the tokens behind. The token of a
statement is one of the input as well, also where the statement shares it with its expression. -/
structure Kept (parts : List Part) (input behind : List Token) : Prop where
  ordered : (storedTokens parts ++ behind).Sublist input
  started : ∀ statement, Part.statement statement ∈ parts →
    statement.token ∈ input ∧ statement.token.kind ≠ .endOfInput

namespace Kept

variable {part : Part} {parts first second : List Part} {token : Token}
  {input middle behind later : List Token} {cursor : Cursor}

/-- Where nothing is read no token is stored. -/
theorem nothing : Kept [] behind behind where
  ordered := List.Sublist.refl behind
  started := fun _ isPart => absurd isPart List.not_mem_nil

/-- What is behind was there before. -/
theorem behind_sublist (kept : Kept parts input behind) : behind.Sublist input :=
  (List.sublist_append_right _ _).trans kept.ordered

/-- Tokens stored in front come before those stored behind. -/
theorem trans (front : Kept first input middle) (back : Kept second middle behind) :
    Kept (first ++ second) input behind where
  ordered := by
    rw [storedTokens_append, List.append_assoc]
    exact ((List.Sublist.refl _).append back.ordered).trans front.ordered
  started := by
    intro statement isPart
    obtain inFirst | inSecond := List.mem_append.mp isPart
    · exact front.started statement inFirst
    · obtain ⟨inMiddle, present⟩ := back.started statement inSecond
      exact ⟨front.behind_sublist.mem inMiddle, present⟩

/-- Parts that are left out take their tokens with them. -/
theorem dropped (kept : Kept parts input behind) : Kept [] input behind where
  ordered := kept.behind_sublist
  started := nothing.started

/-- An absent expression stores no token. -/
theorem lost (kept : Kept parts input behind) : Kept [.absent] input behind where
  ordered := kept.behind_sublist
  started := fun _ isPart => absurd (List.mem_singleton.mp isPart) (by simp)

/-- A token may be passed over in front of the parts. -/
theorem before (kept : Kept parts cursor.advance.tokens behind) :
    Kept parts cursor.tokens behind where
  ordered := kept.ordered.trans cursor.tokens_advance_suffix.sublist
  started := by
    intro statement isPart
    obtain ⟨inRest, present⟩ := kept.started statement isPart
    exact ⟨cursor.tokens_advance_suffix.mem inRest, present⟩

/-- A token may be passed over behind the parts. -/
theorem past (kept : Kept parts input cursor.tokens) :
    Kept parts input cursor.advance.tokens where
  ordered :=
    ((List.Sublist.refl _).append cursor.tokens_advance_suffix.sublist).trans kept.ordered
  started := kept.started

/-- A semicolon is stepped over and not stored. -/
theorem terminated (kept : Kept parts input cursor.advance.tokens) :
    Kept parts input cursor.terminated.advance.tokens := by
  unfold Cursor.terminated
  split
  · exact kept.past
  · exact kept

/-- A stored current token stands in front of all that follow. -/
theorem ordered_current (present : 0 < cursor.remaining)
    (stores : part.token? = some cursor.current) :
    (storedTokens [part] ++ cursor.advance.tokens).Sublist cursor.tokens := by
  rw [Cursor.tokens_eq_current_cons present, storedTokens, List.filterMap_cons_some stores]
  exact List.Sublist.refl _

/-- A statement that stores the current token starts on a token of the input. -/
theorem started_current {statement other : Statement}
    (present : cursor.current.kind ≠ .endOfInput) (starts : statement.token = cursor.current)
    (isPart : Part.statement other ∈ [Part.statement statement]) :
    other.token ∈ cursor.tokens ∧ other.token.kind ≠ .endOfInput := by
  obtain rfl := Part.statement.inj (List.mem_singleton.mp isPart)
  rw [starts, Cursor.tokens_eq_current_cons (Cursor.remaining_pos present)]
  exact ⟨List.mem_cons_self, present⟩

/-- A node that is no statement may store the current token where there is one. -/
theorem node (present : 0 < cursor.remaining) (stores : part.token? = some cursor.current)
    (noStatement : part.statement? = none) :
    Kept [part] cursor.tokens cursor.advance.tokens where
  ordered := ordered_current present stores
  started := by
    intro statement isPart
    rw [← List.mem_singleton.mp isPart] at noStatement
    cases noStatement

/-- A statement with a keyword stores it. -/
theorem keyword {statement : Statement} (present : cursor.current.kind ≠ .endOfInput)
    (starts : statement.token = cursor.current)
    (stores : (Part.statement statement).token? = some cursor.current) :
    Kept [.statement statement] cursor.tokens cursor.advance.tokens where
  ordered := ordered_current (Cursor.remaining_pos present) stores
  started := fun _ => started_current present starts

/-- An expression statement leaves its token to its expression. -/
theorem shared {value : Option Expression} (present : cursor.current.kind ≠ .endOfInput) :
    Kept [.statement (.expression cursor.current value)] cursor.tokens cursor.tokens where
  ordered := List.Sublist.refl _
  started := fun _ => started_current present rfl

/-- An argument that is dropped stores no token. -/
theorem toList {value : Option Expression}
    (kept : Kept (Expression.partsOption value) input behind) :
    Kept (Expression.partsList value.toList) input behind := by
  cases value with
  | none => exact kept.dropped
  | some value =>
    rw [Option.toList_some, Expression.partsList_singleton]
    exact kept

/-- A call that lost its callee or its arguments is lost with all that was read of it. -/
theorem called {callee : Option Expression} {arguments : Option (List Expression)}
    (function : Kept (Expression.partsOption callee) input cursor.tokens)
    (present : 0 < cursor.remaining)
    (list : Kept (Expression.partsListOption arguments) cursor.advance.tokens behind) :
    Kept (Expression.partsOption (Expression.called cursor.current callee arguments)) input
      behind := by
  cases callee with
  | none => exact (function.trans list.before).lost
  | some value =>
    cases arguments with
    | none => exact (function.trans list.before).lost
    | some values => exact function.trans ((node present rfl rfl).trans list)

/-- A conditional that lost its condition is lost with its branches. -/
theorem conditional {condition : Option Expression} {consequence : Block}
    {alternative : Option Block} (present : 0 < cursor.remaining)
    (test : Kept (Expression.partsOption condition) cursor.advance.tokens middle)
    (branches : Kept (consequence.parts ++ Block.partsOption alternative) middle behind) :
    Kept (Expression.partsOption (condition.map fun condition =>
      .conditional cursor.current condition consequence alternative)) cursor.tokens behind := by
  cases condition with
  | none => exact (test.trans branches).before.lost
  | some value =>
    rw [Option.map_some, Expression.partsOption, Expression.parts, List.append_assoc]
    exact (node present rfl rfl).trans (test.trans branches)

end Kept

/-- Parameters that are lost are passed over. -/
theorem ParametersRun.passed {start stop : Cursor} {parameters : List Identifier}
    (run : ParametersRun start parameters stop) : Kept [] start.tokens stop.tokens := by
  induction run with
  | one _ => exact .nothing
  | more _ _ inductionHypothesis => exact inductionHypothesis.before.before

/-- A list of parameters that is lost stores nothing. -/
theorem ParameterListRun.passed {start stop : Cursor} {parameters : Option (List Identifier)}
    {events : List Event} (run : ParameterListRun start parameters events stop) :
    Kept [] start.tokens stop.tokens := by
  cases run with
  | none _ => exact Kept.nothing.past
  | some _ inner _ => exact inner.passed.before.past
  | unclosed _ inner _ => exact inner.passed.before

/-- A parameter with a token behind it is itself a token, whatever its kind. -/
theorem ParametersRun.kept {start stop : Cursor} {parameters : List Identifier}
    (run : ParametersRun start parameters stop) (present : stop.next.kind ≠ .endOfInput) :
    Kept (parameters.map .name) start.tokens stop.advance.tokens := by
  induction run with
  | one _ =>
    have named := Nat.lt_of_succ_lt (Cursor.one_lt_remaining present)
    exact Kept.node named rfl rfl
  | more isComma _ inductionHypothesis =>
    have named := Nat.lt_of_succ_lt (Cursor.one_lt_remaining (by rw [isComma]; decide))
    exact (Kept.node named rfl rfl).trans (inductionHypothesis present).before

/-- A list of parameters stores their tokens alone. -/
theorem ParameterListRun.kept {start stop : Cursor} {parameters : List Identifier}
    {events : List Event} (run : ParameterListRun start (.some parameters) events stop) :
    Kept (parameters.map .name) start.advance.tokens stop.advance.tokens := by
  cases run with
  | none _ => exact Kept.nothing.past
  | some _ inner closes => exact (inner.kept (by rw [closes]; decide)).past

mutual

/-- An expression stores tokens in the order of the input. -/
theorem ExpressionRun.kept {level : Level} {start stop : Cursor} {value : Option Expression}
    {events : List Event} (run : ExpressionRun level start value events stop) :
    Kept (Expression.partsOption value) start.tokens stop.advance.tokens :=
  match run with
  | .missing _ => Kept.nothing.past.lost
  | .operand operand extension => extension.kept operand.kept

/-- An operand stores the token that starts it and then those of its parts. -/
theorem OperandRun.kept {start stop : Cursor} {value : Option Expression} {events : List Event}
    (run : OperandRun start value events stop) :
    Kept (Expression.partsOption value) start.tokens stop.advance.tokens := by
  have present := Cursor.remaining_pos run.current_ne
  match run with
  | .identifier _ | .integer _ _ | .boolean _ => exact Kept.node present rfl rfl
  | .notInteger _ _ | .bareConditional _ _ | .bareFunction _ _ => exact Kept.nothing.past.lost
  | .unary _ inner => exact (Kept.node present rfl rfl).trans inner.kept
  | .group _ inner _ => exact inner.kept.before.past
  | .unclosedGroup _ inner _ => exact inner.kept.before.lost
  | .unclosedCondition _ _ test _ => exact test.kept.before.before.lost
  | .bareConsequence _ _ test _ _ => exact test.kept.before.before.past.lost
  | .conditional _ _ test _ isBrace branch _ =>
    have atBrace := Cursor.remaining_advance_pos (by rw [isBrace]; decide)
    have consequence := (branch.kept atBrace).before
    exact Kept.conditional present test.kept.before
      (consequence.trans .nothing)
  | .bareAlternative _ _ test _ isBrace branch _ _ =>
    have atBrace := Cursor.remaining_advance_pos (by rw [isBrace]; decide)
    have consequence := (branch.kept atBrace).before
    exact (test.kept.before.before.trans consequence).past.lost
  | .alternative _ _ test _ isBrace branch _ isOtherBrace otherBranch =>
    have atBrace := Cursor.remaining_advance_pos (by rw [isBrace]; decide)
    have atOtherBrace := Cursor.remaining_advance_pos (by rw [isOtherBrace]; decide)
    have consequence := (branch.kept atBrace).before
    have alternative := (otherBranch.kept atOtherBrace).before
    exact Kept.conditional present test.kept.before (consequence.trans alternative)
  | .lostParameters _ _ list => exact list.passed.before.past.lost
  | .bareBody _ _ list _ => exact list.kept.before.before.lost
  | .function _ _ list isBrace inner =>
    have atBrace := Cursor.remaining_advance_pos (by rw [isBrace]; decide)
    have body := inner.kept atBrace
    exact (Kept.node present rfl rfl).trans (list.kept.before.trans body)

/-- What extends an operand stores later tokens. -/
theorem ExtensionRun.kept {level : Level} {start stop : Cursor} {left value : Option Expression}
    {events : List Event} {input : List Token}
    (run : ExtensionRun level left start value events stop)
    (operand : Kept (Expression.partsOption left) input start.advance.tokens) :
    Kept (Expression.partsOption value) input stop.advance.tokens :=
  match run with
  | .stop _ => operand
  | .binary binds _ rightOperand extension => by
    have present := Cursor.remaining_advance_pos (Level.next_ne binds)
    apply extension.kept
    rw [← Cursor.current_advance]
    exact operand.trans ((Kept.node present rfl rfl).trans rightOperand.kept)
  | .call binds _ list extension => by
    have present := Cursor.remaining_advance_pos (Level.next_ne binds)
    apply extension.kept
    rw [← Cursor.current_advance]
    exact operand.called present list.kept

/-- A list of arguments stores the tokens of the arguments. -/
theorem ArgumentListRun.kept {start stop : Cursor} {arguments : Option (List Expression)}
    {events : List Event} (run : ArgumentListRun start arguments events stop) :
    Kept (Expression.partsListOption arguments) start.advance.tokens stop.advance.tokens :=
  match run with
  | .none _ => Kept.nothing.past
  | .some _ inner _ => inner.kept.past
  | .unclosed _ inner _ => inner.kept.lost

/-- Arguments store their tokens one behind the other. -/
theorem ArgumentsRun.kept {start stop : Cursor} {arguments : List Expression}
    {events : List Event} (run : ArgumentsRun start arguments events stop) :
    Kept (Expression.partsList arguments) start.tokens stop.advance.tokens :=
  match run with
  | .one inner _ => inner.kept.toList
  | .more first _ list => by
    rw [Expression.partsList_append]
    exact first.kept.toList.past.trans list.kept

/-- A statement stores its first token and those of its value. -/
theorem StatementRun.kept {start stop : Cursor} {statement : Option Statement}
    {events : List Event} (run : StatementRun start statement events stop)
    (present : start.current.kind ≠ .endOfInput) :
    Kept (Statement.partsList statement.toList) start.tokens stop.advance.tokens :=
  match run with
  | .unnamed _ _ => Kept.nothing.past
  | .unassigned _ _ _ => Kept.nothing.past.past
  | .letBinding _ isName _ inner => by
    have named := Cursor.remaining_advance_pos (by rw [isName]; decide)
    rw [Option.toList_some, Statement.partsList_singleton, ← Cursor.current_advance]
    exact ((Kept.keyword present rfl rfl).trans
      ((Kept.node named rfl rfl).trans inner.kept.before)).terminated
  | .returnValue _ inner => by
    rw [Option.toList_some, Statement.partsList_singleton]
    exact ((Kept.keyword present rfl rfl).trans inner.kept).terminated
  | .expression _ _ inner => by
    rw [Option.toList_some, Statement.partsList_singleton]
    exact ((Kept.shared present).trans inner.kept).terminated

/-- Statements store their tokens one behind the other. -/
theorem StatementsRun.kept {scope : Scope} {start stop : Cursor} {statements : List Statement}
    {events : List Event} (run : StatementsRun scope start statements events stop) :
    Kept (Statement.partsList statements) start.tokens stop.tokens :=
  match run with
  | .none _ => .nothing
  | .more continues first list => by
    rw [Statement.partsList_append]
    exact (first.kept (Scope.current_ne continues)).trans list.kept

/-- A block stores its opening brace and the tokens of its statements. -/
theorem BlockRun.kept {start stop : Cursor} {block : Block} {events : List Event}
    (run : BlockRun start block events stop) (present : 0 < start.remaining) :
    Kept block.parts start.tokens stop.advance.tokens :=
  match run with
  | .block inner => ((Kept.node present rfl rfl).trans inner.kept).past

end

/-- The expressions among the parts of a tree are counted. -/
def expressionCount (parts : List Part) : Nat :=
  (parts.filterMap Part.expression?).length

/-- The expressions in two lists of parts add up. -/
@[simp] theorem expressionCount_append (first second : List Part) :
    expressionCount (first ++ second) = expressionCount first + expressionCount second := by
  simp [expressionCount]

@[simp] theorem expressionCount_expression (value : Expression) (parts : List Part) :
    expressionCount (.expression value :: parts) = expressionCount parts + 1 := rfl

/-- Other parts are not counted. -/
theorem expressionCount_of_other {part : Part} {parts : List Part}
    (other : part.expression? = none) :
    expressionCount (part :: parts) = expressionCount parts := by
  rw [expressionCount, List.filterMap_cons_none other, expressionCount]

/-- Names are no expressions. -/
@[simp] theorem expressionCount_map_name (names : List Identifier) :
    expressionCount (names.map .name) = 0 := by
  induction names with
  | nil => rfl
  | cons name names inductionHypothesis =>
    rw [List.map_cons, expressionCount_of_other rfl, inductionHypothesis]

/-- Every expression among the parts stores a token. -/
theorem expressionCount_le_length_storedTokens (parts : List Part) :
    expressionCount parts ≤ (storedTokens parts).length := by
  induction parts with
  | nil => exact Nat.le_refl _
  | cons part parts inductionHypothesis =>
    cases part with
    | expression value => exact Nat.succ_le_succ inductionHypothesis
    | statement statement =>
      rw [expressionCount_of_other rfl]
      have behind := (List.sublist_cons_self (.statement statement) parts).filterMap Part.token?
      exact inductionHypothesis.trans behind.length_le
    | block block => exact inductionHypothesis.trans (Nat.le_succ _)
    | name identifier => exact inductionHypothesis.trans (Nat.le_succ _)
    | absent => exact inductionHypothesis

mutual

/-- The size of an expression counts the expressions among its parts. -/
theorem Expression.expressionCount_parts :
    ∀ value : Expression, expressionCount value.parts = value.size
  | .identifier _ | .integer _ _ | .boolean _ _ => rfl
  | .unary _ _ operand => by
    rw [Expression.parts, Expression.size, expressionCount_expression,
      Expression.expressionCount_partsOption operand]
    omega
  | .binary _ left _ right => by
    rw [Expression.parts, Expression.size, expressionCount_append, expressionCount_expression,
      Expression.expressionCount_partsOption left, Expression.expressionCount_partsOption right]
    omega
  | .conditional _ condition consequence alternative => by
    rw [Expression.parts, Expression.size, expressionCount_expression, expressionCount_append,
      expressionCount_append, condition.expressionCount_parts,
      consequence.expressionCount_parts, Block.expressionCount_partsOption alternative]
    omega
  | .function _ parameters body => by
    rw [Expression.parts, Expression.size, expressionCount_expression, expressionCount_append,
      expressionCount_map_name, body.expressionCount_parts]
    omega
  | .call _ callee arguments => by
    rw [Expression.parts, Expression.size, expressionCount_append, expressionCount_expression,
      callee.expressionCount_parts, Expression.expressionCount_partsList arguments]
    omega

/-- An absent expression counts for nothing. -/
theorem Expression.expressionCount_partsOption :
    ∀ value : Option Expression,
      expressionCount (Expression.partsOption value) = Expression.sizeOption value
  | none => rfl
  | some value => value.expressionCount_parts

/-- The sizes of expressions add up. -/
theorem Expression.expressionCount_partsList :
    ∀ values : List Expression,
      expressionCount (Expression.partsList values) = Expression.sizeList values
  | [] => rfl
  | value :: values => by
    rw [Expression.partsList, Expression.sizeList, expressionCount_append,
      value.expressionCount_parts, Expression.expressionCount_partsList values]

/-- A statement has the size of its value. -/
theorem Statement.expressionCount_parts :
    ∀ statement : Statement, expressionCount statement.parts = statement.size
  | .letBinding _ _ value => Expression.expressionCount_partsOption value
  | .returnValue _ value => Expression.expressionCount_partsOption value
  | .expression _ value => Expression.expressionCount_partsOption value

/-- A block has the size of its statements. -/
theorem Block.expressionCount_parts :
    ∀ block : Block, expressionCount block.parts = block.size
  | ⟨_, statements⟩ => Statement.expressionCount_partsList statements

/-- An absent block counts for nothing. -/
theorem Block.expressionCount_partsOption :
    ∀ block : Option Block, expressionCount (Block.partsOption block) = Block.sizeOption block
  | none => rfl
  | some block => block.expressionCount_parts

/-- The sizes of statements add up. -/
theorem Statement.expressionCount_partsList :
    ∀ statements : List Statement,
      expressionCount (Statement.partsList statements) = Statement.sizeList statements
  | [] => rfl
  | statement :: statements => by
    rw [Statement.partsList, Statement.sizeList, expressionCount_append,
      statement.expressionCount_parts, Statement.expressionCount_partsList statements]

end

/-- A tree stores tokens of its source in their order and each at most once. The end of the input
is no token of a source, so it is stored nowhere, and expressions do not outnumber tokens. -/
theorem storedTokens_read_sublist (source : Source) :
    (storedTokens source.read.1.parts).Sublist source.tokens ∧
      (∀ statement, Part.statement statement ∈ source.read.1.parts →
        statement.token ∈ source.tokens ∧ statement.token.kind ≠ .endOfInput) ∧
      source.read.1.size ≤ source.tokens.length := by
  obtain ⟨events, run, -⟩ := source.exists_run
  have kept := run.kept
  rw [Cursor.tokens_start] at kept
  have ordered : (storedTokens source.read.1.parts).Sublist source.tokens :=
    (List.sublist_append_left _ _).trans kept.ordered
  have bounded : source.read.1.size ≤ source.tokens.length := calc
    source.read.1.size = expressionCount source.read.1.parts :=
      (Statement.expressionCount_partsList _).symm
    _ ≤ (storedTokens source.read.1.parts).length := expressionCount_le_length_storedTokens _
    _ ≤ source.tokens.length := ordered.length_le
  exact ⟨ordered, kept.started, bounded⟩

end MonkeySyntax
