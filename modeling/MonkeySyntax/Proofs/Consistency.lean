import MonkeySyntax.Proofs.DecimalText
import MonkeySyntax.Proofs.Runs
import MonkeySyntax.Tree.Equality
import MonkeySyntax.Tree.Parts

namespace MonkeySyntax

/-- The token of a part has the kind of its form, and what the part says of the token is true. A
statement without a keyword starts neither at the end of the input nor on a keyword of another
statement. -/
def Part.Consistent : Part → Prop
  | .statement (.letBinding token bound _) =>
    token.kind = .letKeyword ∧ bound.token.kind = .identifier
  | .statement (.returnValue token _) => token.kind = .returnKeyword
  | .statement (.expression token _) =>
    token.kind ≠ .endOfInput ∧ token.kind ≠ .letKeyword ∧ token.kind ≠ .returnKeyword
  | .expression (.identifier leaf) =>
    leaf.token.kind = .identifier ∧ leaf.name = leaf.token.literal
  | .expression (.integer token value) =>
    token.kind = .integer ∧ Decimal.text value.toInt = token.literal
  | .expression (.boolean token value) =>
    (token.kind = .trueKeyword ∨ token.kind = .falseKeyword) ∧
      (value ↔ token.kind = .trueKeyword)
  | .expression (.unary token operator _) => UnaryOperator.ofKind? token.kind = some operator
  | .expression (.binary token _ operator _) => BinaryOperator.ofKind? token.kind = some operator
  | .expression (.conditional token _ _ _) => token.kind = .ifKeyword
  | .expression (.function token _ _) => token.kind = .functionKeyword
  | .expression (.call token _ _) => token.kind = .leftParenthesis
  | .block ⟨token, _⟩ => token.kind = .leftBrace
  | .name identifier => identifier.name = identifier.token.literal
  | .absent => True

/-- Parts are consistent one by one. -/
def Consistent (parts : List Part) : Prop :=
  ∀ part ∈ parts, part.Consistent

namespace Consistent

variable {part : Part} {parts first second : List Part}

theorem nil : Consistent [] :=
  fun _ isPart => absurd isPart List.not_mem_nil

/-- Parts are consistent when the first one and the others are. -/
theorem cons (node : part.Consistent) (others : Consistent parts) : Consistent (part :: parts) :=
  List.forall_mem_cons.mpr ⟨node, others⟩

theorem single (node : part.Consistent) : Consistent [part] :=
  cons node nil

/-- Two lists of consistent parts are consistent together. -/
theorem append (front : Consistent first) (back : Consistent second) :
    Consistent (first ++ second) :=
  List.forall_mem_append.mpr ⟨front, back⟩

/-- Nothing is said of what could not be read. -/
theorem absent : Consistent [.absent] :=
  single trivial

/-- Every identifier has the name that its token spells. -/
theorem names (parameters : List Identifier) : Consistent (parameters.map .name) := by
  intro part isPart
  obtain ⟨identifier, -, rfl⟩ := List.mem_map.mp isPart
  exact identifier.spelled

/-- A dropped argument leaves no part behind. -/
theorem toList {value : Option Expression}
    (consistent : Consistent (Expression.partsOption value)) :
    Consistent (Expression.partsList value.toList) := by
  cases value with
  | none => exact nil
  | some value =>
    rw [Option.toList_some, Expression.partsList_singleton]
    exact consistent

/-- A call that is read stands at its opening parenthesis. -/
theorem called {token : Token} {callee : Option Expression}
    {arguments : Option (List Expression)} (opens : token.kind = .leftParenthesis)
    (function : Consistent (Expression.partsOption callee))
    (list : Consistent (Expression.partsListOption arguments)) :
    Consistent (Expression.partsOption (Expression.called token callee arguments)) := by
  cases callee with
  | none => exact absent
  | some value =>
    cases arguments with
    | none => exact absent
    | some values => exact function.append (cons opens list)

/-- A conditional that is read stands at its keyword. -/
theorem conditional {token : Token} {condition : Option Expression} {consequence : Block}
    {alternative : Option Block} (isKeyword : token.kind = .ifKeyword)
    (test : Consistent (Expression.partsOption condition))
    (branch : Consistent consequence.parts) (other : Consistent (Block.partsOption alternative)) :
    Consistent (Expression.partsOption (condition.map fun condition =>
      .conditional token condition consequence alternative)) := by
  cases condition with
  | none => exact absent
  | some value => exact cons isKeyword ((test.append branch).append other)

end Consistent

/-- The token of a keyword tells its value. -/
theorem Part.consistent_boolean {token : Token} {value : Bool}
    (isKeyword : token.kind = if value then .trueKeyword else .falseKeyword) :
    (Part.expression (.boolean token value)).Consistent := by
  cases value with
  | false => exact ⟨.inr isKeyword, by rw [isKeyword]; decide⟩
  | true => exact ⟨.inl isKeyword, by rw [isKeyword]; decide⟩

mutual

/-- The parts of an expression are consistent with their tokens. -/
theorem ExpressionRun.consistent {level : Level} {start stop : Cursor}
    {value : Option Expression} {events : List Event}
    (run : ExpressionRun level start value events stop) :
    Consistent (Expression.partsOption value) :=
  match run with
  | .missing _ => .absent
  | .operand operand extension => extension.consistent operand.consistent

/-- Each operand stands at the token that starts it. -/
theorem OperandRun.consistent {start stop : Cursor} {value : Option Expression}
    {events : List Event} (run : OperandRun start value events stop) :
    Consistent (Expression.partsOption value) :=
  match run with
  | .identifier isName => .single ⟨isName, rfl⟩
  | .integer isInteger denotes =>
    .single ⟨isInteger, (Decimal.int64?_eq_some_iff.mp denotes).symm⟩
  | .boolean isKeyword => .single (Part.consistent_boolean isKeyword)
  | .unary spells inner =>
    .cons (UnaryOperator.ofKind?_eq_some_iff.mpr spells.symm) inner.consistent
  | .group _ inner _ => inner.consistent
  | .notInteger _ _ | .unclosedGroup _ _ _ => .absent
  | .bareConditional _ _ | .unclosedCondition _ _ _ _ | .bareConsequence _ _ _ _ _ => .absent
  | .bareAlternative _ _ _ _ _ _ _ _ => .absent
  | .bareFunction _ _ | .lostParameters _ _ _ | .bareBody _ _ _ _ => .absent
  | .conditional isKeyword _ test _ isBrace branch _ => by
    have consequence := branch.consistent (by rw [Cursor.current_advance, isBrace])
    exact .conditional isKeyword test.consistent consequence .nil
  | .alternative isKeyword _ test _ isBrace branch _ isOtherBrace otherBranch => by
    have consequence := branch.consistent (by rw [Cursor.current_advance, isBrace])
    have alternative := otherBranch.consistent (by rw [Cursor.current_advance, isOtherBrace])
    exact .conditional isKeyword test.consistent consequence alternative
  | .function isKeyword _ _ isBrace inner => by
    have body := inner.consistent (by rw [Cursor.current_advance, isBrace])
    exact .cons isKeyword ((Consistent.names _).append body)

/-- What grows behind an operand is consistent when the operand is. -/
theorem ExtensionRun.consistent {level : Level} {start stop : Cursor}
    {left value : Option Expression} {events : List Event}
    (run : ExtensionRun level left start value events stop)
    (operand : Consistent (Expression.partsOption left)) :
    Consistent (Expression.partsOption value) :=
  match run with
  | .stop _ => operand
  | .binary _ spells rightOperand extension => by
    have operator := BinaryOperator.ofKind?_eq_some_iff.mpr spells.symm
    exact extension.consistent (operand.append (.cons operator rightOperand.consistent))
  | .call _ opens list extension => extension.consistent (.called opens operand list.consistent)

/-- The parts of a list of arguments are consistent. -/
theorem ArgumentListRun.consistent {start stop : Cursor} {arguments : Option (List Expression)}
    {events : List Event} (run : ArgumentListRun start arguments events stop) :
    Consistent (Expression.partsListOption arguments) :=
  match run with
  | .none _ => .nil
  | .some _ inner _ => inner.consistent
  | .unclosed _ _ _ => .absent

/-- The parts of arguments are consistent one by one. -/
theorem ArgumentsRun.consistent {start stop : Cursor} {arguments : List Expression}
    {events : List Event} (run : ArgumentsRun start arguments events stop) :
    Consistent (Expression.partsList arguments) :=
  match run with
  | .one inner _ => inner.consistent.toList
  | .more first _ list => by
    rw [Expression.partsList_append]
    exact first.consistent.toList.append list.consistent

/-- A statement stands at the token that decides its form. -/
theorem StatementRun.consistent {start stop : Cursor} {statement : Option Statement}
    {events : List Event} (run : StatementRun start statement events stop)
    (present : start.current.kind ≠ .endOfInput) :
    Consistent (Statement.partsList statement.toList) :=
  match run with
  | .unnamed _ _ | .unassigned _ _ _ => .nil
  | .letBinding isKeyword isName _ inner => by
    rw [Option.toList_some, Statement.partsList_singleton]
    exact .cons ⟨isKeyword, isName⟩ (.cons rfl inner.consistent)
  | .returnValue isKeyword inner => by
    rw [Option.toList_some, Statement.partsList_singleton]
    exact .cons isKeyword inner.consistent
  | .expression notLet notReturn inner => by
    rw [Option.toList_some, Statement.partsList_singleton]
    exact .cons ⟨present, notLet, notReturn⟩ inner.consistent

/-- The parts of statements are consistent one by one. -/
theorem StatementsRun.consistent {scope : Scope} {start stop : Cursor}
    {statements : List Statement} {events : List Event}
    (run : StatementsRun scope start statements events stop) :
    Consistent (Statement.partsList statements) :=
  match run with
  | .none _ => .nil
  | .more continues first list => by
    rw [Statement.partsList_append]
    exact (first.consistent (Scope.current_ne continues)).append list.consistent

/-- A block stands at its opening brace. -/
theorem BlockRun.consistent {start stop : Cursor} {block : Block} {events : List Event}
    (run : BlockRun start block events stop) (opens : start.current.kind = .leftBrace) :
    Consistent block.parts :=
  match run with
  | .block inner => .cons opens inner.consistent

end

/-- Every part of every tree that is read is consistent, whatever is wrong with the input. -/
theorem consistent_parts_read (source : Source) :
    ∀ part ∈ source.read.1.parts, part.Consistent := by
  obtain ⟨events, run, -⟩ := source.exists_run
  exact run.consistent

/-- These are the tokens of `let let a = -true )`. The first keyword is lost, and the reader goes
on from the second one. -/
def doubledLetTokens : List Token :=
  [⟨.letKeyword, "let"⟩, ⟨.letKeyword, "let"⟩, ⟨.identifier, "a"⟩, ⟨.assign, "="⟩, ⟨.minus, "-"⟩,
    ⟨.trueKeyword, "true"⟩, ⟨.rightParenthesis, ")"⟩]

/-- The value that is bound is a negation, though of a truth value. -/
def negatedTruth : Expression :=
  .unary ⟨.minus, "-"⟩ .minus (some (.boolean ⟨.trueKeyword, "true"⟩ true))

/-- A truth value behind a prefix operator is consistent with its tokens. -/
theorem consistent_negatedTruth :
    .expression negatedTruth ∈ (Source.ofTokens doubledLetTokens).read.1.parts ∧
      (Part.expression negatedTruth).Consistent := by
  have program : (Source.ofTokens doubledLetTokens).read.1 =
      ⟨[.letBinding ⟨.letKeyword, "let"⟩ (.ofToken ⟨.identifier, "a"⟩) (some negatedTruth),
        .expression ⟨.rightParenthesis, ")"⟩ none]⟩ := by decide +kernel
  have isPart : .expression negatedTruth ∈ (Source.ofTokens doubledLetTokens).read.1.parts := by
    rw [program]
    exact .tail _ (.tail _ (.head _))
  exact ⟨isPart, consistent_parts_read (Source.ofTokens doubledLetTokens) _ isPart⟩

end MonkeySyntax
