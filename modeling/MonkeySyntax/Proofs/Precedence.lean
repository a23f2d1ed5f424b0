import MonkeySyntax.Proofs.Exhaustion
import MonkeySyntax.Tree.Equality
import MonkeySyntax.Tree.Parts

namespace MonkeySyntax

namespace Expression

/-- A binary operation binds at the level of its operator; no other expression binds. -/
def level? : Expression → Option Level
  | .binary _ _ operator _ => some operator.kind.level
  | _ => none

/-- A binary operation is cut short when its right operand is absent. -/
def IsCutShort : Expression → Prop
  | .binary _ _ _ right => right = none
  | _ => False

/-- An operation that stands here binds above the level. -/
def BindsAbove (level : Level) (value : Option Expression) : Prop :=
  ∀ expression ∈ value, ∀ own ∈ expression.level?, level < own

/-- An operation that stands here binds at least at the level, unless it is cut short. -/
def Settled (level : Level) (value : Option Expression) : Prop :=
  ∀ expression ∈ value, ∀ own ∈ expression.level?,
    level.rank ≤ own.rank ∨ expression.IsCutShort

end Expression

/-- Operands group by precedence: the right one binds tighter than its operator and the left one
no looser, and the operand of a unary operator is no binary operation. -/
def Part.Ranked : Part → Prop
  | .expression (.unary _ _ operand) => ∀ value ∈ operand, value.level? = none
  | .expression (.binary _ left operator right) =>
    Expression.BindsAbove operator.kind.level right ∧
      Expression.Settled operator.kind.level left
  | _ => True

/-- What could not be read has no operands. -/
theorem Part.ranked_absent : ∀ part ∈ Expression.partsOption none, part.Ranked :=
  List.forall_mem_singleton.mpr trivial

/-- No binary operator binds tighter than the unary ones. -/
theorem BinaryOperator.not_unary_lt_level (operator : BinaryOperator) :
    ¬Level.unary < operator.kind.level := by
  cases operator <;> decide

/-- No token in view has the kind. -/
def Cursor.Lacks (kind : TokenKind) (cursor : Cursor) : Prop :=
  ∀ token ∈ cursor.tokens, token.kind ≠ kind

namespace Cursor

variable {kind : TokenKind} {cursor later : Cursor}

/-- A kind that is not ahead is not met later on. -/
theorem Lacks.of_reaches (lacks : cursor.Lacks kind) (reaches : cursor.Reaches later) :
    later.Lacks kind :=
  fun token member => lacks token (reaches.suffix.mem member)

/-- A kind that is not in view is not that of the current token, unless the input ends there. -/
theorem Lacks.current_ne (lacks : cursor.Lacks kind) (inside : kind ≠ .endOfInput) :
    cursor.current.kind ≠ kind := by
  rw [Cursor.current_eq]
  cases tokens : cursor.tokens with
  | nil => exact inside.symm
  | cons token rest => exact lacks token (by simp [tokens])

theorem Lacks.next_ne (lacks : cursor.Lacks kind) (inside : kind ≠ .endOfInput) :
    cursor.next.kind ≠ kind := by
  rw [← Cursor.current_advance]
  exact (lacks.of_reaches (.advance .here)).current_ne inside

end Cursor

namespace Expression

variable {value : Option Expression}

/-- Whatever is asked of the level of an operation is true of what is none. -/
theorem forall_level?_of_leaf {condition : Expression → Level → Prop}
    (leaf : ∀ expression ∈ value, expression.level? = none) :
    ∀ expression ∈ value, ∀ own ∈ expression.level?, condition expression own := by
  intro expression stands own isOwn
  rw [leaf expression stands] at isOwn
  cases isOwn

/-- What binds above the level of unary operators is no binary operation. -/
theorem level?_eq_none_of_bindsAbove (above : BindsAbove .unary value) :
    ∀ expression ∈ value, expression.level? = none := by
  intro expression stands
  cases expression with
  | binary token left operator right =>
    exact absurd (above _ stands _ rfl) operator.not_unary_lt_level
  | _ => rfl

end Expression

/-- What is read at a level has its operands ranked and binds above the level. If anything was
read, the next token does not bind above the level; where nothing was, a tighter operator may
follow. -/
structure Climbed (level : Level) (value : Option Expression) (stop : Cursor) : Prop where
  ranked : ∀ part ∈ Expression.partsOption value, part.Ranked
  above : Expression.BindsAbove level value
  stops : value ≠ none → ¬level < stop.next.kind.level

namespace Climbed

variable {level : Level} {left right : Option Expression} {operator : BinaryOperator}
  {token : Token} {stop : Cursor}

/-- The operands of an operator are ranked when the right one has been read at its level. -/
theorem ranked_binary (rankedLeft : ∀ part ∈ Expression.partsOption left, part.Ranked)
    (settled : Expression.Settled operator.kind.level left)
    (climbed : Climbed operator.kind.level right stop) :
    ∀ part ∈ Expression.partsOption (some (.binary token left operator right)), part.Ranked :=
  List.forall_mem_append.mpr
    ⟨rankedLeft, List.forall_mem_cons.mpr ⟨⟨climbed.above, settled⟩, climbed.ranked⟩⟩

/-- Behind its right operand an operation is settled: what follows has not bound that operand, or
there is none. -/
theorem settled_binary (climbed : Climbed operator.kind.level right stop) :
    Expression.Settled stop.next.kind.level (some (.binary token left operator right)) := by
  rintro expression ⟨⟩ own ⟨⟩
  by_cases cutShort : right = none
  · exact .inr cutShort
  · exact .inl (Nat.le_of_not_lt (climbed.stops cutShort))

/-- An operation binds above a level when its operator does. -/
theorem bindsAbove_binary (binds : level < operator.kind.level) :
    Expression.BindsAbove level (some (.binary token left operator right)) := by
  rintro expression ⟨⟩ own ⟨⟩
  exact binds

end Climbed

mutual

/-- What is read at a level has climbed as far as it could. -/
theorem ExpressionRun.climbed {level : Level} {start stop : Cursor} {value : Option Expression}
    {events : List Event} (run : ExpressionRun level start value events stop)
    (lacks : start.Lacks .leftParenthesis) : Climbed level value stop :=
  match run with
  | .missing _ =>
    ⟨Part.ranked_absent, Expression.forall_level?_of_leaf (by simp),
      fun present => absurd rfl present⟩
  | .operand operand extension => by
    obtain ⟨ranked, leaf⟩ := operand.ranked lacks
    exact extension.climbed (lacks.of_reaches (operand.reaches .here)) ranked
      (Expression.forall_level?_of_leaf leaf) (Expression.forall_level?_of_leaf leaf)

/-- Without parentheses no operand is a binary operation. -/
theorem OperandRun.ranked {start stop : Cursor} {value : Option Expression} {events : List Event}
    (run : OperandRun start value events stop) (lacks : start.Lacks .leftParenthesis) :
    (∀ part ∈ Expression.partsOption value, part.Ranked) ∧
      ∀ expression ∈ value, expression.level? = none := by
  have notAtParenthesis := lacks.current_ne (by decide)
  have notBeforeParenthesis := lacks.next_ne (by decide)
  match run with
  | .identifier _ | .integer _ _ | .boolean _ =>
    exact ⟨List.forall_mem_singleton.mpr trivial, by rintro expression ⟨⟩; rfl⟩
  | .notInteger _ _ | .bareConditional _ _ | .bareFunction _ _ =>
    exact ⟨Part.ranked_absent, by simp⟩
  | .unary _ inner =>
    have climbed := inner.climbed (lacks.of_reaches (.advance .here))
    have operand := Expression.level?_eq_none_of_bindsAbove climbed.above
    exact ⟨List.forall_mem_cons.mpr ⟨operand, climbed.ranked⟩, by rintro expression ⟨⟩; rfl⟩
  | .group opens _ _ | .unclosedGroup opens _ _ => exact absurd opens notAtParenthesis
  | .unclosedCondition _ opens _ _ | .bareConsequence _ opens _ _ _
  | .conditional _ opens _ _ _ _ _ | .bareAlternative _ opens _ _ _ _ _ _
  | .alternative _ opens _ _ _ _ _ _ _ => exact absurd opens notBeforeParenthesis
  | .lostParameters _ opens _ | .bareBody _ opens _ _ | .function _ opens _ _ _ =>
    exact absurd opens notBeforeParenthesis

/-- A settled left operand that binds above the level grows to another one. -/
theorem ExtensionRun.climbed {level : Level} {start stop : Cursor}
    {left value : Option Expression} {events : List Event}
    (run : ExtensionRun level left start value events stop)
    (lacks : start.Lacks .leftParenthesis)
    (ranked : ∀ part ∈ Expression.partsOption left, part.Ranked)
    (above : Expression.BindsAbove level left)
    (settled : Expression.Settled start.next.kind.level left) : Climbed level value stop :=
  match run with
  | .stop stops => ⟨ranked, above, fun _ => stops⟩
  | .binary binds spells rightOperand extension => by
    -- The new operation is the left operand from here on. It is settled by what stopped its own
    -- right operand, and not by what stopped the old left one.
    have climbed := rightOperand.climbed (lacks.of_reaches (.advance (.advance .here)))
    have lacksBehind := lacks.of_reaches (rightOperand.reaches (.advance (.advance .here)))
    rw [spells] at binds settled climbed
    exact extension.climbed lacksBehind (Climbed.ranked_binary ranked settled climbed)
      (Climbed.bindsAbove_binary binds) climbed.settled_binary
  | .call _ opens _ _ => absurd opens (lacks.next_ne (by decide))

/-- The parts of a statement are ranked like those of its value. -/
theorem StatementRun.ranked {start stop : Cursor} {statement : Option Statement}
    {events : List Event} (run : StatementRun start statement events stop)
    (lacks : start.Lacks .leftParenthesis) :
    ∀ part ∈ Statement.partsList statement.toList, part.Ranked :=
  match run with
  | .unnamed _ _ | .unassigned _ _ _ => by simp [Statement.partsList]
  | .letBinding _ _ _ inner => by
    have climbed := inner.climbed (lacks.of_reaches (.advance (.advance (.advance .here))))
    rw [Option.toList_some, Statement.partsList_singleton]
    exact List.forall_mem_cons.mpr ⟨trivial, List.forall_mem_cons.mpr ⟨trivial, climbed.ranked⟩⟩
  | .returnValue _ inner => by
    have climbed := inner.climbed (lacks.of_reaches (.advance .here))
    rw [Option.toList_some, Statement.partsList_singleton]
    exact List.forall_mem_cons.mpr ⟨trivial, climbed.ranked⟩
  | .expression _ _ inner => by
    have climbed := inner.climbed lacks
    rw [Option.toList_some, Statement.partsList_singleton]
    exact List.forall_mem_cons.mpr ⟨trivial, climbed.ranked⟩

/-- The parts of statements are ranked one by one. -/
theorem StatementsRun.ranked {scope : Scope} {start stop : Cursor} {statements : List Statement}
    {events : List Event} (run : StatementsRun scope start statements events stop)
    (lacks : start.Lacks .leftParenthesis) :
    ∀ part ∈ Statement.partsList statements, part.Ranked :=
  match run with
  | .none _ => by simp [Statement.partsList]
  | .more _ first list => by
    have lacksBehind := lacks.of_reaches (first.reaches .here).advance
    rw [Statement.partsList_append]
    exact List.forall_mem_append.mpr ⟨first.ranked lacks, list.ranked lacksBehind⟩

end

/-- Without parentheses in the source every operation of the tree has its operands ranked by
precedence, whatever is wrong with the input. -/
theorem ranked_parts_read (source : Source)
    (lacks : ∀ token ∈ source.tokens, token.kind ≠ .leftParenthesis) :
    ∀ part ∈ source.read.1.parts, part.Ranked := by
  have lacksAtStart : (Cursor.start source).Lacks .leftParenthesis := by
    rw [Cursor.Lacks, Cursor.tokens_start]
    exact lacks
  exact source.read_follows.ranked lacksAtStart

/-- These are the tokens of `a == b + ) * c`. No operand can be read behind the plus sign, and the
product takes the sum that is cut short as its left operand. -/
def cutSumTokens : List Token :=
  [⟨.identifier, "a"⟩, ⟨.equal, "=="⟩, ⟨.identifier, "b"⟩, ⟨.plus, "+"⟩,
    ⟨.rightParenthesis, ")"⟩, ⟨.asterisk, "*"⟩, ⟨.identifier, "c"⟩]

def cutSum : Expression :=
  .binary ⟨.plus, "+"⟩ (some (.identifier (.ofToken ⟨.identifier, "b"⟩))) .plus none

/-- The left operand of the product binds looser than the product. -/
def productOfCutSum : Expression :=
  .binary ⟨.asterisk, "*"⟩ (some cutSum) .asterisk
    (some (.identifier (.ofToken ⟨.identifier, "c"⟩)))

/-- A product may hold a sum that was cut short, and is still ranked. -/
theorem ranked_productOfCutSum :
    (∀ token ∈ (Source.ofTokens cutSumTokens).tokens, token.kind ≠ .leftParenthesis) ∧
      .expression productOfCutSum ∈ (Source.ofTokens cutSumTokens).read.1.parts ∧
      (Part.expression productOfCutSum).Ranked := by
  have lacks : ∀ token ∈ (Source.ofTokens cutSumTokens).tokens,
      token.kind ≠ .leftParenthesis := by
    decide
  have program : (Source.ofTokens cutSumTokens).read.1 =
      ⟨[.expression ⟨.identifier, "a"⟩ (some (.binary ⟨.equal, "=="⟩
        (some (.identifier (.ofToken ⟨.identifier, "a"⟩))) .equal (some productOfCutSum)))]⟩ := by
    decide +kernel
  have isPart : .expression productOfCutSum ∈ (Source.ofTokens cutSumTokens).read.1.parts := by
    rw [program]
    simp [Program.parts, Statement.partsList, Statement.parts, Expression.partsOption,
      Expression.parts, productOfCutSum]
  exact ⟨lacks, isPart, ranked_parts_read (Source.ofTokens cutSumTokens) lacks _ isPart⟩

end MonkeySyntax
