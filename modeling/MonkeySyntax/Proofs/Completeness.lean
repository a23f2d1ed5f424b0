import MonkeySyntax.Parser
import MonkeySyntax.Proofs.Constructs

namespace MonkeySyntax

open Grammar

namespace Grammar

variable {dialect : Dialect} {input rest : List Token}

/-- Statements end with the input or in front of the closing brace of their block. -/
def EndsStatements (rest : List Token) : Prop :=
  ∀ token ∈ rest.head?, token.kind = .rightBrace

/-- What follows a statement without a semicolon ends it. -/
theorem StatementsAt.ends_lowest {statements : List Statement}
    (others : StatementsAt .documented input rest statements)
    (apart : Separated .documented input) (ends : EndsStatements rest) :
    Level.lowest.Ends input ∧ Reading.behindSemicolon input = input := by
  have opening (token : Token) (starts : token.kind.StartsStatement) (behind : List Token)
      (same : input = token :: behind) :
      Level.lowest.Ends input ∧ Reading.behindSemicolon input = input := by
    subst same
    exact ⟨Level.ends_of_lowest (starts.level_eq_lowest (apart token rfl)) starts.ne_elseKeyword,
      if_neg starts.ne_semicolon⟩
  cases others with
  | none =>
    cases input with
    | nil => exact ⟨⟨Level.stops_nil _, by decide⟩, rfl⟩
    | cons token behind =>
      have isBrace : token.kind = .rightBrace := ends token rfl
      exact ⟨Level.ends_of_lowest (by rw [isBrace]; rfl) (by rw [isBrace]; decide),
        if_neg (by rw [isBrace]; decide)⟩
  | terminated first _ _ =>
    obtain ⟨token, behind, same, starts⟩ := first.exists_first
    exact opening token starts behind same
  | separated first _ _ =>
    obtain ⟨token, behind, same, starts⟩ := first.exists_first
    exact opening token starts behind same

/-- A list of arguments starts with a parenthesis. -/
theorem ArgumentList.opens {opening : Token} {arguments : List Expression}
    (list : ArgumentList dialect (opening :: input) rest arguments) :
    opening.kind = .leftParenthesis := by
  cases list with
  | none opens => exact opens
  | some opens => exact opens

/-- No scope ends where a statement starts. -/
theorem StatementAt.endsAt_current {statement : Statement}
    (derived : StatementAt dialect input rest statement) {cursor : Cursor}
    (starts : cursor.tokens = input) (scope : Scope) :
    scope.endsAt cursor.current.kind = false := by
  obtain ⟨token, behind, rfl, startsStatement⟩ := derived.exists_first
  rw [Cursor.current_of_tokens starts]
  exact startsStatement.endsAt_eq_false scope

/-- A block that succeeds is read as its derivation says. -/
theorem BlockAt.readsAs {block : Block} (derived : BlockAt dialect input rest block)
    (succeeds : ∀ {start : Cursor}, start.tokens = input →
      (Block.read start).Succeeds block rest) : block.ReadsAs input rest := by
  obtain ⟨brace, inner, same, isBrace⟩ := derived.exists_first
  exact ⟨brace, inner, same, isBrace, succeeds⟩

mutual

/-- A reader comes to every expression that derives in its stratum or in a tighter one. -/
theorem ExpressionAt.comesTo {stratum : Stratum} {input rest : List Token} {value : Expression}
    (derived : ExpressionAt .documented stratum input rest value) {level : Level}
    {cursor : Cursor} (reads : level.stratum ≤ stratum) (starts : cursor.tokens = input)
    (ends : stratum.level.Ends rest) : Expression.ComesTo level cursor value rest := by
  match derived with
  | .tighter inner =>
    exact inner.comesTo (Stratum.le_trans reads stratum.le_tighter) starts
      (ends.mono stratum.rank_level_le_tighter)
  | @ExpressionAt.binary _ operator token _ middle _ _ _ leftOperand spells rightOperand =>
    rw [Stratum.level_stratumOf] at ends
    have between : (stratumOf operator).level.Ends (token :: middle) := by
      rw [Stratum.level_stratumOf, ← spells]
      exact Level.ends_cons (Nat.lt_irrefl _) (by rw [spells]; cases operator <;> decide)
    have readsRight : operator.kind.level.stratum ≤ (stratumOf operator).tighter :=
      Nat.le_of_eq (congrArg Stratum.rank (Stratum.stratum_level_kind operator))
    have left := leftOperand.comesTo reads starts between
    apply left.binary (Stratum.lt_level_of_le_stratumOf reads) spells
    intro start startsRight
    exact Expression.succeeds_of_ends readsRight ends (rightOperand.comesTo readsRight startsRight)
  | @ExpressionAt.unary _ operator _ _ _ _ spells inner =>
    apply Expression.comesTo_operand (.unary operator) starts spells.symm
    intro present
    apply Expression.succeeds_unary starts
    intro start startsInner
    exact Expression.succeeds_of_ends Stratum.le_rfl ends
      (inner.comesTo Stratum.le_rfl startsInner)
  | @ExpressionAt.call _ opening _ middle _ _ _ callee list =>
    have opens : opening.kind = .leftParenthesis := list.opens
    have between : Stratum.call.level.Ends (opening :: middle) :=
      Level.ends_cons (by rw [opens]; decide) (by rw [opens]; decide)
    exact (callee.comesTo reads starts between).call (Stratum.lt_call_of_le_call reads) opens
      fun startsList => list.succeeds startsList
  | .identifier isName =>
    exact Expression.comesTo_operand .identifier starts isName.symm fun _ =>
      Expression.succeeds_identifier starts
  | .integer isInteger denotes =>
    exact Expression.comesTo_operand .integer starts isInteger.symm fun _ =>
      Expression.succeeds_integer starts denotes
  | .trueLiteral isKeyword =>
    exact Expression.comesTo_operand (.boolean true) starts isKeyword.symm fun _ =>
      Expression.succeeds_boolean starts
  | .falseLiteral isKeyword =>
    exact Expression.comesTo_operand (.boolean false) starts isKeyword.symm fun _ =>
      Expression.succeeds_boolean starts
  | .group opens inner closes =>
    apply Expression.comesTo_operand .group starts opens.symm
    intro present
    apply Expression.succeeds_group starts _ closes
    intro start startsInner
    exact Expression.succeeds_of_ends Stratum.le_rfl (Level.ends_closing closes)
      (inner.comesTo Stratum.le_rfl startsInner)
  | .conditional isKeyword opens test closes branch =>
    have branchReads := branch.readsAs fun startsBranch => branch.succeeds startsBranch
    have nothingBehind : Block.OptionReadsAs rest rest none := ⟨rfl, ends.2⟩
    apply Expression.comesTo_operand .conditional starts isKeyword.symm
    intro present
    apply Expression.succeeds_conditional starts opens _ closes branchReads nothingBehind
    intro start startsTest
    exact Expression.succeeds_of_ends Stratum.le_rfl (Level.ends_closing closes)
      (test.comesTo Stratum.le_rfl startsTest)
  | .alternative isKeyword opens test closes branch isElse otherBranch =>
    have branchReads := branch.readsAs fun startsBranch => branch.succeeds startsBranch
    have otherReads := otherBranch.readsAs fun startsOther => otherBranch.succeeds startsOther
    have otherwise : Block.OptionReadsAs _ rest (some _) := ⟨_, _, rfl, isElse, otherReads⟩
    apply Expression.comesTo_operand .conditional starts isKeyword.symm
    intro present
    apply Expression.succeeds_conditional starts opens _ closes branchReads otherwise
    intro start startsTest
    exact Expression.succeeds_of_ends Stratum.le_rfl (Level.ends_closing closes)
      (test.comesTo Stratum.le_rfl startsTest)
  | .function isKeyword list inner =>
    exact Expression.comesTo_operand .function starts isKeyword.symm fun _ =>
      Expression.succeeds_function starts list
        (inner.readsAs fun startsBody => inner.succeeds startsBody)

/-- The arguments of a call are read with both parentheses. -/
theorem ArgumentList.succeeds {input rest : List Token} {arguments : List Expression}
    (list : ArgumentList .documented input rest arguments) {cursor : Cursor}
    (starts : cursor.tokens = input) :
    (Expression.readArguments cursor).Succeeds (.some arguments) rest := by
  match list with
  | .none _ closes => exact Expression.succeeds_no_arguments starts closes
  | @ArgumentList.some _ _ closing input _ arguments _ inner closes =>
    have read {start : Cursor} (startsInner : start.tokens = input) :
        (Expression.readList start).Succeeds arguments (closing :: rest) :=
      inner.succeeds startsInner (Level.ends_closing closes) (by simp [closes])
    obtain ⟨first, behind, rfl, isOperand⟩ := inner.exists_first
    have notClosing : first.kind ≠ .rightParenthesis := by
      intro isClosing
      rw [isClosing] at isOperand
      cases isOperand
    exact Expression.succeeds_some_arguments starts notClosing read closes

/-- Arguments are read up to a token that is no comma. -/
theorem Arguments.succeeds {input rest : List Token} {arguments : List Expression}
    (list : Arguments .documented input rest arguments) {cursor : Cursor}
    (starts : cursor.tokens = input) (ends : Level.lowest.Ends rest)
    (noComma : (rest.headD .endOfInput).kind ≠ .comma) :
    (Expression.readList cursor).Succeeds arguments rest := by
  match list with
  | .one inner =>
    apply Expression.succeeds_one_argument _ noComma
    exact Expression.succeeds_of_ends Stratum.le_rfl ends (inner.comesTo Stratum.le_rfl starts)
  | .more first isComma others =>
    apply Expression.succeeds_more_arguments _ isComma
    · intro start startsOthers
      exact others.succeeds startsOthers ends noComma
    · exact Expression.succeeds_of_ends Stratum.le_rfl (Level.ends_comma isComma)
        (first.comesTo Stratum.le_rfl starts)

/-- A statement is read with the semicolon behind it. -/
theorem StatementAt.succeeds {input rest : List Token} {statement : Statement}
    (derived : StatementAt .documented input rest statement) {cursor : Cursor}
    (starts : cursor.tokens = input) (ends : Level.lowest.Ends rest) :
    (Statement.read cursor).Succeeds (some statement) (Reading.behindSemicolon rest) := by
  match derived with
  | .letBinding isKeyword isName isAssign inner =>
    apply Statement.succeeds_letBinding starts isKeyword isName isAssign
    intro start startsInner
    exact Expression.succeeds_of_ends Stratum.le_rfl ends
      (inner.comesTo Stratum.le_rfl startsInner)
  | .returnValue isKeyword inner =>
    apply Statement.succeeds_returnValue starts isKeyword
    intro start startsInner
    exact Expression.succeeds_of_ends Stratum.le_rfl ends
      (inner.comesTo Stratum.le_rfl startsInner)
  | .expression inner =>
    obtain ⟨first, behind, same, isOperand⟩ := inner.exists_first
    rw [List.cons.injEq] at same
    apply Statement.succeeds_expression starts (by rw [same.1]; exact isOperand)
    exact Expression.succeeds_of_ends Stratum.le_rfl ends (inner.comesTo Stratum.le_rfl starts)

/-- Statements are read one by one, and then the list goes on behind them. -/
theorem StatementsAt.goesOn {input rest : List Token} {statements : List Statement}
    (derived : StatementsAt .documented input rest statements) (scope : Scope) {cursor : Cursor}
    (starts : cursor.tokens = input) (ends : EndsStatements rest) :
    ∃ later : Cursor, later.tokens = rest ∧
      (Statement.readList scope cursor).GoesOn (statements ++ ·)
        (Statement.readList scope later) := by
  match derived with
  | .none => exact ⟨cursor, starts, rfl, rfl, rfl⟩
  | .terminated first terminates others =>
    have read := first.succeeds starts (Level.ends_semicolon terminates)
    rw [Reading.behindSemicolon, if_pos terminates] at read
    obtain ⟨middle, startsOthers, onFirst⟩ :=
      Statement.readList_goesOn (first.endsAt_current starts scope) read
    obtain ⟨later, startsLater, onOthers⟩ := others.goesOn scope startsOthers ends
    exact ⟨later, startsLater, onFirst.trans onOthers⟩
  | .separated first apart others =>
    have follows := others.ends_lowest apart ends
    have read := first.succeeds starts follows.1
    rw [follows.2] at read
    obtain ⟨middle, startsOthers, onFirst⟩ :=
      Statement.readList_goesOn (first.endsAt_current starts scope) read
    obtain ⟨later, startsLater, onOthers⟩ := others.goesOn scope startsOthers ends
    exact ⟨later, startsLater, onFirst.trans onOthers⟩

/-- A block is read up to its closing brace. -/
theorem BlockAt.succeeds {input rest : List Token} {block : Block}
    (derived : BlockAt .documented input rest block) {cursor : Cursor}
    (starts : cursor.tokens = input) : (Block.read cursor).Succeeds block rest := by
  match derived with
  | @BlockAt.closed _ opening closing input rest statements opens inner closes =>
    have startsInner : cursor.advance.tokens = input := by
      rw [Cursor.tokens_advance, starts, List.tail_cons]
    have ends : EndsStatements (closing :: rest) := by simpa [EndsStatements] using closes
    obtain ⟨later, startsLater, goesOn⟩ := inner.goesOn .block startsInner ends
    exact Block.succeeds_closed starts startsLater closes goesOn
  | .unclosed lenient _ _ => cases lenient

end

end Grammar

/-- A source whose tokens derive a program is read as that program without an error. -/
theorem Source.read_of_derives {source : Source} {program : Program}
    (derives : Derives .documented source.tokens program) :
    source.read.1 = program ∧ source.read.2.errors = [] := by
  have noneLeft : EndsStatements [] := by simp [EndsStatements]
  obtain ⟨later, atEnd, goesOn⟩ :=
    StatementsAt.goesOn derives .program (Cursor.tokens_start source) noneLeft
  have ended : Statement.readList .program later = .pure [] := by
    rw [Statement.readList, dif_pos (by rw [Cursor.current_eq, atEnd]; rfl)]
  rw [ended] at goesOn
  have value := goesOn.value_eq
  rw [Reading.value_pure, List.append_nil] at value
  constructor
  · rw [Source.program_read, value]
  · rw [Source.errors_read, goesOn.errors_eq, Reading.errors_pure]

/-- The parser is complete: tokens that derive a program of the documented grammar are read as
exactly that program, and no error is recorded. -/
theorem read_ofTokens_of_derives (tokens : List Token) (program : Program)
    (derives : Derives .documented tokens program) :
    (Source.ofTokens tokens).read.1 = program ∧ (Source.ofTokens tokens).read.2.errors = [] :=
  Source.read_of_derives (by rw [Source.tokens_ofTokens]; exact derives)

/-- These are the tokens of `-f(a) == 1 b`, two statements without a semicolon. -/
def comparisonTokens : List Token :=
  [⟨.minus, "-"⟩, ⟨.identifier, "f"⟩, ⟨.leftParenthesis, "("⟩, ⟨.identifier, "a"⟩,
    ⟨.rightParenthesis, ")"⟩, ⟨.equal, "=="⟩, ⟨.integer, "1"⟩, ⟨.identifier, "b"⟩]

/-- The minus sign applies to the call, and the comparison to both. -/
def comparisonProgram : Program :=
  ⟨[.expression ⟨.minus, "-"⟩ (some (.binary ⟨.equal, "=="⟩
      (some (.unary ⟨.minus, "-"⟩ .minus (some (.call ⟨.leftParenthesis, "("⟩
        (.identifier (.ofToken ⟨.identifier, "f"⟩)) [.identifier (.ofToken ⟨.identifier, "a"⟩)]))))
      .equal (some (.integer ⟨.integer, "1"⟩ 1)))),
    .expression ⟨.identifier, "b"⟩ (some (.identifier (.ofToken ⟨.identifier, "b"⟩)))]⟩

/-- The documented grammar derives this program from the tokens. -/
theorem comparisonTokens_derive :
    Derives .documented comparisonTokens comparisonProgram := by
  have name (text : String) (rest : List Token) (stratum : Stratum) :
      ExpressionAt .documented stratum (⟨.identifier, text⟩ :: rest) rest
        (.identifier (.ofToken ⟨.identifier, text⟩)) :=
    .loosen (by cases stratum <;> decide) (.identifier rfl)
  have one (rest : List Token) : ExpressionAt .documented .comparison
      (⟨.integer, "1"⟩ :: rest) rest (.integer ⟨.integer, "1"⟩ 1) :=
    .loosen (by decide) (.integer rfl (by decide +kernel))
  have list (rest : List Token) : ArgumentList .documented
      (⟨.leftParenthesis, "("⟩ :: ⟨.identifier, "a"⟩ :: ⟨.rightParenthesis, ")"⟩ :: rest) rest
      [.identifier (.ofToken ⟨.identifier, "a"⟩)] :=
    .some rfl (.one (name "a" _ .equality)) rfl
  have negated (rest : List Token) : ExpressionAt .documented .unary
      (⟨.minus, "-"⟩ :: ⟨.identifier, "f"⟩ :: ⟨.leftParenthesis, "("⟩ :: ⟨.identifier, "a"⟩ ::
        ⟨.rightParenthesis, ")"⟩ :: rest) rest _ :=
    @ExpressionAt.unary _ .minus _ _ _ _ rfl (.tighter (.call (name "f" _ .call) (list rest)))
  have compared := @ExpressionAt.binary _ .equal ⟨.equal, "=="⟩ _ _ _ _ _
    ((negated _).loosen (by decide)) rfl (one [⟨.identifier, "b"⟩])
  exact .separated (.expression compared) (by simp [Separated])
    (.separated (.expression (name "b" [] .equality)) (by simp [Separated]) .none)

/-- These tokens are read as the program derived from them. -/
theorem read_comparisonTokens : Derives .documented comparisonTokens comparisonProgram ∧
    (Source.ofTokens comparisonTokens).read.1 = comparisonProgram ∧
      (Source.ofTokens comparisonTokens).read.2.errors = [] :=
  ⟨comparisonTokens_derive, read_ofTokens_of_derives _ _ comparisonTokens_derive⟩

end MonkeySyntax
