import MonkeySyntax.Proofs.Completeness
import MonkeySyntax.Proofs.Locality

namespace MonkeySyntax

open Grammar

namespace Grammar

/-- Tokens are terminated when the last of them, if there is one, is a semicolon. -/
def Terminated (tokens : List Token) : Prop :=
  ∀ token ∈ tokens.getLast?, token.kind = .semicolon

/-- An end of terminated tokens is terminated. -/
theorem Terminated.of_suffix {input rest : List Token} (terminated : Terminated input)
    (suffix : rest <:+ input) : Terminated rest := by
  obtain ⟨front, rfl⟩ := suffix
  intro token isLast
  apply terminated token
  rw [List.getLast?_append, Option.mem_def.mp isLast]
  rfl

/-- The tokens of a construct are those up to the tokens behind it, and the last of them is no
semicolon. -/
def Unterminated (input rest : List Token) : Prop :=
  ∃ front last, input = front ++ last :: rest ∧ last.kind ≠ .semicolon

namespace Unterminated

variable {input middle rest : List Token} {token : Token}

/-- A construct that ends on a token of another kind is not terminated. -/
theorem closed (suffix : token :: rest <:+ input) (other : token.kind ≠ .semicolon) :
    Unterminated input rest := by
  obtain ⟨front, rfl⟩ := suffix
  exact ⟨front, token, rfl, other⟩

/-- A single token of another kind is not terminated. -/
theorem last (other : token.kind ≠ .semicolon) : Unterminated (token :: rest) rest :=
  closed List.suffix_rfl other

/-- What is behind a construct is an end of its tokens. -/
theorem suffix (unterminated : Unterminated input rest) : rest <:+ input := by
  obtain ⟨front, last, rfl, -⟩ := unterminated
  exact (List.suffix_cons last rest).trans (List.suffix_append front _)

/-- Tokens in front of a construct do not terminate it. -/
theorem after (unterminated : Unterminated middle rest) (suffix : middle <:+ input) :
    Unterminated input rest := by
  obtain ⟨front, last, rfl, other⟩ := unterminated
  obtain ⟨before, rfl⟩ := suffix
  exact ⟨before ++ front, last, (List.append_assoc _ _ _).symm, other⟩

/-- A token in front of a construct does not terminate it. -/
theorem behind (unterminated : Unterminated middle rest) :
    Unterminated (token :: middle) rest :=
  unterminated.after (List.suffix_cons token middle)

end Unterminated

/-- Parameters leave an end of their tokens. -/
theorem Parameters.suffix {dialect : Dialect} {input rest : List Token}
    {parameters : List Identifier} (list : Parameters dialect input rest parameters) :
    rest <:+ input := by
  induction list with
  | one _ => exact List.suffix_cons _ _
  | more _ _ _ inductionHypothesis =>
    exact inductionHypothesis.trans ((List.suffix_cons _ _).trans (List.suffix_cons _ _))

/-- A list of parameters leaves an end of its tokens too. -/
theorem ParameterList.suffix {dialect : Dialect} {input rest : List Token}
    {parameters : List Identifier} (list : ParameterList dialect input rest parameters) :
    rest <:+ input := by
  cases list with
  | none _ _ => exact (List.suffix_cons _ _).trans (List.suffix_cons _ _)
  | some _ _ inner _ =>
    exact (List.suffix_cons _ _).trans (inner.suffix.trans (List.suffix_cons _ _))

mutual

/-- An expression never ends on a semicolon. -/
theorem ExpressionAt.unterminated {stratum : Stratum} {input rest : List Token}
    {value : Expression} (derived : ExpressionAt .documented stratum input rest value) :
    Unterminated input rest :=
  match derived with
  | .tighter inner => inner.unterminated
  | .binary leftOperand _ rightOperand =>
    rightOperand.unterminated.behind.after leftOperand.unterminated.suffix
  | .unary _ inner => inner.unterminated.behind
  | .call function list => list.unterminated.after function.unterminated.suffix
  | .identifier isName => .last (by rw [isName]; decide)
  | .integer isInteger _ => .last (by rw [isInteger]; decide)
  | .trueLiteral isKeyword => .last (by rw [isKeyword]; decide)
  | .falseLiteral isKeyword => .last (by rw [isKeyword]; decide)
  | .group _ inner closes =>
    (Unterminated.closed inner.unterminated.suffix (by rw [closes]; decide)).behind
  | .conditional _ _ test _ branch =>
    (branch.unterminated.behind.after test.unterminated.suffix).behind.behind
  | .alternative _ _ test _ branch _ otherBranch => by
    have branches := otherBranch.unterminated.behind.after branch.unterminated.suffix
    exact (branches.behind.after test.unterminated.suffix).behind.behind
  | .function _ list inner => (inner.unterminated.after list.suffix).behind

/-- A list of arguments ends on a closing parenthesis. -/
theorem ArgumentList.unterminated {input rest : List Token} {arguments : List Expression}
    (list : ArgumentList .documented input rest arguments) : Unterminated input rest :=
  match list with
  | .none _ closes => (Unterminated.last (by rw [closes]; decide)).behind
  | .some _ inner closes =>
    (Unterminated.closed inner.unterminated.suffix (by rw [closes]; decide)).behind

/-- Arguments end where the last of them does. -/
theorem Arguments.unterminated {input rest : List Token} {arguments : List Expression}
    (list : Arguments .documented input rest arguments) : Unterminated input rest :=
  match list with
  | .one inner => inner.unterminated
  | .more first _ others => others.unterminated.behind.after first.unterminated.suffix

/-- The semicolon behind a statement is not part of it. -/
theorem StatementAt.unterminated {input rest : List Token} {statement : Statement}
    (derived : StatementAt .documented input rest statement) : Unterminated input rest :=
  match derived with
  | .letBinding _ _ _ inner => inner.unterminated.behind.behind.behind
  | .returnValue _ inner => inner.unterminated.behind
  | .expression inner => inner.unterminated

/-- Statements leave an end of their tokens. -/
theorem StatementsAt.suffix {input rest : List Token} {statements : List Statement}
    (derived : StatementsAt .documented input rest statements) : rest <:+ input :=
  match derived with
  | .none => List.suffix_rfl
  | .terminated first _ others =>
    others.suffix.trans ((List.suffix_cons _ _).trans first.unterminated.suffix)
  | .separated first _ others => others.suffix.trans first.unterminated.suffix

/-- A block does not end on a semicolon. -/
theorem BlockAt.unterminated {input rest : List Token} {block : Block}
    (derived : BlockAt .documented input rest block) : Unterminated input rest :=
  match derived with
  | .closed _ inner closes =>
    (Unterminated.closed inner.suffix (by rw [closes]; decide)).behind
  | .unclosed lenient _ _ => by cases lenient

end

/-- Parameters are derived in front of any other tokens. -/
theorem Parameters.append {input rest : List Token} {parameters : List Identifier}
    (list : Parameters .documented input rest parameters) (more : List Token) :
    Parameters .documented (input ++ more) (rest ++ more) parameters := by
  induction list with
  | one parameter => exact .one parameter
  | more parameter isComma _ inductionHypothesis =>
    exact .more parameter isComma inductionHypothesis

/-- The parentheses close a list of parameters, so more tokens do not change it. -/
theorem ParameterList.append {input rest : List Token} {parameters : List Identifier}
    (list : ParameterList .documented input rest parameters) (more : List Token) :
    ParameterList .documented (input ++ more) (rest ++ more) parameters := by
  cases list with
  | none opens closes => exact .none opens closes
  | some opens named inner closes => exact .some opens named (inner.append more) closes

/-- Statements that are kept apart stay so in front of more tokens. -/
theorem Separated.append {following : List Token} (apart : Separated .documented following)
    (nonempty : following ≠ []) (more : List Token) :
    Separated .documented (following ++ more) := by
  cases following with
  | nil => exact absurd rfl nonempty
  | cons token rest => exact apart

mutual

/-- An expression is derived from the same tokens when more of them stand behind it. -/
theorem ExpressionAt.append {stratum : Stratum} {input rest : List Token} {value : Expression}
    (derived : ExpressionAt .documented stratum input rest value) (more : List Token) :
    ExpressionAt .documented stratum (input ++ more) (rest ++ more) value :=
  match derived with
  | .tighter inner => .tighter (inner.append more)
  | .binary leftOperand spells rightOperand =>
    .binary (leftOperand.append more) spells (rightOperand.append more)
  | .unary spells inner => .unary spells (inner.append more)
  | .call function list => .call (function.append more) (list.append more)
  | .identifier isName => .identifier isName
  | .integer isInteger denotes => .integer isInteger denotes
  | .trueLiteral isKeyword => .trueLiteral isKeyword
  | .falseLiteral isKeyword => .falseLiteral isKeyword
  | .group opens inner closes => .group opens (inner.append more) closes
  | .conditional isKeyword opens test closes branch =>
    .conditional isKeyword opens (test.append more) closes (branch.append more)
  | .alternative isKeyword opens test closes branch isElse otherBranch =>
    .alternative isKeyword opens (test.append more) closes (branch.append more) isElse
      (otherBranch.append more)
  | .function isKeyword list inner =>
    .function isKeyword (list.append more) (inner.append more)

/-- A list of arguments is derived in front of any other tokens. -/
theorem ArgumentList.append {input rest : List Token} {arguments : List Expression}
    (list : ArgumentList .documented input rest arguments) (more : List Token) :
    ArgumentList .documented (input ++ more) (rest ++ more) arguments :=
  match list with
  | .none opens closes => .none opens closes
  | .some opens inner closes => .some opens (inner.append more) closes

/-- Arguments stay the same when more tokens stand behind them. -/
theorem Arguments.append {input rest : List Token} {arguments : List Expression}
    (list : Arguments .documented input rest arguments) (more : List Token) :
    Arguments .documented (input ++ more) (rest ++ more) arguments :=
  match list with
  | .one inner => .one (inner.append more)
  | .more first isComma others => .more (first.append more) isComma (others.append more)

/-- So is a statement that ends in front of the last token. -/
theorem StatementAt.append {input rest : List Token} {statement : Statement}
    (derived : StatementAt .documented input rest statement) (more : List Token) :
    StatementAt .documented (input ++ more) (rest ++ more) statement :=
  match derived with
  | .letBinding isKeyword isName isAssign inner =>
    .letBinding isKeyword isName isAssign (inner.append more)
  | .returnValue isKeyword inner => .returnValue isKeyword (inner.append more)
  | .expression inner => .expression (inner.append more)

/-- A statement without a semicolon is apart from a token that is behind it already. -/
theorem StatementsAt.append {input rest : List Token} {statements : List Statement}
    (derived : StatementsAt .documented input rest statements) (more : List Token)
    (nonempty : rest ≠ []) :
    StatementsAt .documented (input ++ more) (rest ++ more) statements :=
  match derived with
  | .none => .none
  | .terminated first terminates others =>
    .terminated (first.append more) terminates (others.append more nonempty)
  | .separated first apart others =>
    .separated (first.append more) (apart.append (others.suffix.ne_nil nonempty) more)
      (others.append more nonempty)

/-- The braces close a block, so more tokens do not change it. -/
theorem BlockAt.append {input rest : List Token} {block : Block}
    (derived : BlockAt .documented input rest block) (more : List Token) :
    BlockAt .documented (input ++ more) (rest ++ more) block :=
  match derived with
  | .closed opens inner closes =>
    .closed opens (inner.append more (List.cons_ne_nil _ _)) closes
  | .unclosed lenient _ _ => by cases lenient

end

/-- Terminated statements are read one by one, and then the list goes on with what is behind. -/
theorem StatementsAt.goesOn_append {input rest : List Token} {statements : List Statement}
    (derived : StatementsAt .documented input rest statements) (atEnd : rest = [])
    (terminated : Terminated input) (scope : Scope) {cursor : Cursor} {more : List Token}
    (starts : cursor.tokens = input ++ more) :
    ∃ later : Cursor, later.tokens = more ∧
      (Statement.readList scope cursor).GoesOn (statements ++ ·)
        (Statement.readList scope later) := by
  match derived with
  | .none =>
    subst atEnd
    exact ⟨cursor, starts, rfl, rfl, rfl⟩
  | .terminated first terminates others =>
    have whole := first.append more
    have read := whole.succeeds starts (Level.ends_semicolon terminates)
    rw [List.cons_append, Reading.behindSemicolon, if_pos terminates] at read
    obtain ⟨middle, startsOthers, onFirst⟩ :=
      Statement.readList_goesOn (whole.endsAt_current starts scope) read
    have behind := (List.suffix_cons _ _).trans first.unterminated.suffix
    obtain ⟨later, startsLater, onOthers⟩ :=
      others.goesOn_append atEnd (terminated.of_suffix behind) scope startsOthers
    exact ⟨later, startsLater, onFirst.trans onOthers⟩
  | @StatementsAt.separated _ _ [] _ _ _ first _ _ =>
    -- Without anything behind it the statement would end with the semicolon.
    obtain ⟨front, last, rfl, other⟩ := first.unterminated
    exact absurd (terminated last (by simp)) other
  | @StatementsAt.separated _ _ (token :: behind) _ _ _ first apart others =>
    have noneLeft : EndsStatements rest := by simp [EndsStatements, atEnd]
    obtain ⟨ends, noSemicolon⟩ := others.ends_lowest apart noneLeft
    have whole := first.append more
    have read := whole.succeeds starts (Level.ends_cons (Level.stops_cons.mp ends.1) ends.2)
    have other : token.kind ≠ .semicolon := by
      intro terminates
      rw [Reading.behindSemicolon, if_pos terminates] at noSemicolon
      exact List.cons_ne_self token behind noSemicolon.symm
    rw [List.cons_append, Reading.behindSemicolon, if_neg other] at read
    obtain ⟨middle, startsOthers, onFirst⟩ :=
      Statement.readList_goesOn (whole.endsAt_current starts scope) read
    obtain ⟨later, startsLater, onOthers⟩ :=
      others.goesOn_append atEnd (terminated.of_suffix first.unterminated.suffix) scope
        startsOthers
    exact ⟨later, startsLater, onFirst.trans onOthers⟩

end Grammar

/-- A program whose last statement ends with a semicolon is read in front of any tokens as it is
read alone, and these tokens are read as if they stood alone, errors included. -/
theorem read_append_of_terminated (tokens others : List Token) (program : Program)
    (derives : Derives .documented tokens program) (terminated : Terminated tokens) :
    (Source.ofTokens (tokens ++ others)).read.1.statements =
        (Source.ofTokens tokens).read.1.statements ++
          (Source.ofTokens others).read.1.statements ∧
      (Source.ofTokens (tokens ++ others)).read.2.errors =
        (Source.ofTokens others).read.2.errors := by
  have starts : (Cursor.start (Source.ofTokens (tokens ++ others))).tokens = tokens ++ others := by
    rw [Cursor.tokens_start, Source.tokens_ofTokens]
  obtain ⟨later, startsLater, goesOn⟩ :=
    StatementsAt.goesOn_append derives rfl terminated .program starts
  have same : (Cursor.start (Source.ofTokens others)).tokens = later.tokens := by
    rw [Cursor.tokens_start, Source.tokens_ofTokens, startsLater]
  obtain ⟨sameValue, sameErrors⟩ := Statement.readList_of_tokens_eq .program same
  have alone : (Source.ofTokens tokens).read.1 = program :=
    (Source.read_of_derives (by rw [Source.tokens_ofTokens]; exact derives)).1
  constructor
  · rw [Source.program_read, goesOn.value_eq, alone, Source.program_read, sameValue]
  · rw [Source.errors_read, Source.errors_read, goesOn.errors_eq, sameErrors]

/-- These are the tokens of `let f = fn(a) { a b };`. Without the semicolon a parenthesis behind
them would start a call. -/
def namedFunctionTokens : List Token :=
  [⟨.letKeyword, "let"⟩, ⟨.identifier, "f"⟩, ⟨.assign, "="⟩, ⟨.functionKeyword, "fn"⟩,
    ⟨.leftParenthesis, "("⟩, ⟨.identifier, "a"⟩, ⟨.rightParenthesis, ")"⟩, ⟨.leftBrace, "\x7b"⟩,
    ⟨.identifier, "a"⟩, ⟨.identifier, "b"⟩, ⟨.rightBrace, "\x7d"⟩, ⟨.semicolon, ";"⟩]

/-- The body of the function has two statements, and neither has a semicolon. -/
def namedFunctionProgram : Program :=
  ⟨[.letBinding ⟨.letKeyword, "let"⟩ (.ofToken ⟨.identifier, "f"⟩)
      (some (.function ⟨.functionKeyword, "fn"⟩ [.ofToken ⟨.identifier, "a"⟩]
        ⟨⟨.leftBrace, "\x7b"⟩,
          [.expression ⟨.identifier, "a"⟩ (some (.identifier (.ofToken ⟨.identifier, "a"⟩))),
            .expression ⟨.identifier, "b"⟩ (some (.identifier (.ofToken ⟨.identifier, "b"⟩)))]⟩))]⟩

/-- The documented grammar derives this program from the tokens. -/
theorem namedFunctionTokens_derive :
    Derives .documented namedFunctionTokens namedFunctionProgram := by
  have name (text : String) (rest : List Token) :
      StatementAt .documented (⟨.identifier, text⟩ :: rest) rest
        (.expression ⟨.identifier, text⟩ (some (.identifier (.ofToken ⟨.identifier, text⟩)))) :=
    .expression (.loosen (by decide) (.identifier rfl))
  have parameters (rest : List Token) : ParameterList .documented
      (⟨.leftParenthesis, "("⟩ :: ⟨.identifier, "a"⟩ :: ⟨.rightParenthesis, ")"⟩ :: rest) rest
      [.ofToken ⟨.identifier, "a"⟩] :=
    .some rfl (by decide) (.one (.inr rfl)) rfl
  have body (rest : List Token) : BlockAt .documented
      (⟨.leftBrace, "\x7b"⟩ :: ⟨.identifier, "a"⟩ :: ⟨.identifier, "b"⟩ ::
        ⟨.rightBrace, "\x7d"⟩ :: rest) rest ⟨⟨.leftBrace, "\x7b"⟩, _⟩ :=
    .closed rfl (.separated (name "a" _) (by simp [Separated])
      (.separated (name "b" _) (by simp [Separated]) .none)) rfl
  have value : ExpressionAt .documented .atom (⟨.functionKeyword, "fn"⟩ :: _) _ _ :=
    .function rfl (parameters _) (body [⟨.semicolon, ";"⟩])
  exact .terminated (.letBinding rfl rfl rfl (value.loosen (by decide))) rfl .none

/-- An open parenthesis behind the program changes nothing in front of it. -/
theorem read_namedFunctionTokens_append :
    Derives .documented namedFunctionTokens namedFunctionProgram ∧
      Terminated namedFunctionTokens ∧
      (Source.ofTokens (namedFunctionTokens ++
          [⟨.leftParenthesis, "("⟩, ⟨.endOfInput, ""⟩])).read.1.statements =
        (Source.ofTokens namedFunctionTokens).read.1.statements ++
          (Source.ofTokens [⟨.leftParenthesis, "("⟩, ⟨.endOfInput, ""⟩]).read.1.statements ∧
      (Source.ofTokens (namedFunctionTokens ++
          [⟨.leftParenthesis, "("⟩, ⟨.endOfInput, ""⟩])).read.2.errors =
        (Source.ofTokens [⟨.leftParenthesis, "("⟩, ⟨.endOfInput, ""⟩]).read.2.errors := by
  have terminated : Terminated namedFunctionTokens := by simp [Terminated, namedFunctionTokens]
  exact ⟨namedFunctionTokens_derive, terminated,
    read_append_of_terminated namedFunctionTokens _ namedFunctionProgram
      namedFunctionTokens_derive terminated⟩

end MonkeySyntax
