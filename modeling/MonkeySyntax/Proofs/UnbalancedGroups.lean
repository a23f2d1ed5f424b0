import MonkeySyntax.Proofs.TerminatedPrefix

namespace MonkeySyntax

open Grammar

namespace Reading

variable {α β : Type} {start : Cursor}

/-- A reading yields this value with these errors and leaves these tokens behind the last token that
it read. -/
structure Yields (reading : Reading α start) (value : α) (errors : List SyntaxError)
    (behind : List Token) : Prop where
  value_eq : reading.value = value
  errors_eq : reading.errors = errors
  behind_eq : reading.rest.tokens.tail = behind

/-- What succeeds yields its value without an error. -/
theorem Succeeds.yields {reading : Reading α start} {value : α} {behind : List Token}
    (succeeds : reading.Succeeds value behind) : reading.Yields value [] behind :=
  ⟨succeeds.value_eq, succeeds.errors_eq, succeeds.behind_eq⟩

/-- A failure yields nothing but its cause. -/
theorem yields_fail (cause : SyntaxError) :
    (fail cause : Reading (Option α) start).Yields none [cause] start.tokens.tail :=
  ⟨rfl, rfl, rfl⟩

/-- The second part starts from what the first one yields and reports its errors behind those. -/
theorem Yields.andThen {first : Reading α start} {value : α} {result : β}
    {errors others : List SyntaxError} {middle behind : List Token}
    {second : α → (rest : Cursor) → rest.remaining ≤ start.remaining → Reading β rest}
    (yields : first.Yields value errors middle)
    (continues : ∀ rest within, rest.tokens.tail = middle →
      (second value rest within).Yields result others behind) :
    (first.andThen second).Yields result (errors ++ others) behind := by
  obtain ⟨rfl, rfl, follows⟩ := yields
  obtain ⟨value_eq, errors_eq, behind_eq⟩ := continues first.rest first.within follows
  exact ⟨value_eq, by rw [errors_andThen, errors_eq], behind_eq⟩

/-- What is yielded from the next token is yielded from here. -/
theorem Yields.fromNext {reading : Reading α start.advance} {value : α}
    {errors : List SyntaxError} {behind : List Token}
    (yields : reading.Yields value errors behind) :
    reading.fromNext.Yields value errors behind :=
  ⟨yields.value_eq, yields.errors_eq, yields.behind_eq⟩

end Reading

/-- Closing parentheses end an expression, and so does the end of the input. -/
theorem Level.ends_closings {level : Level} {closing : List Token}
    (closes : ∀ token ∈ closing, token.kind = .rightParenthesis) : level.Ends closing := by
  cases closing with
  | nil => exact ⟨level.stops_nil, by decide⟩
  | cons token rest => exact Level.ends_closing (closes token List.mem_cons_self)

/-- An expression in matching parentheses is the same expression. -/
theorem Grammar.ExpressionAt.grouped {dialect : Dialect} {opening closing input rest : List Token}
    {value : Expression} (opens : ∀ token ∈ opening, token.kind = .leftParenthesis)
    (closes : ∀ token ∈ closing, token.kind = .rightParenthesis)
    (matching : opening.length = closing.length)
    (derived : ExpressionAt dialect .equality input (closing ++ rest) value) :
    ExpressionAt dialect .equality (opening ++ input) rest value := by
  -- The last of the opening parentheses is the first one to be closed.
  induction opening using List.reverseRecOn generalizing closing input with
  | nil =>
    obtain rfl := List.length_eq_zero_iff.mp matching.symm
    exact derived
  | append_singleton others token inductionHypothesis =>
    cases closing with
    | nil => simp at matching
    | cons closer closers =>
      have isOpening : token.kind = .leftParenthesis := opens token (by simp)
      have isClosing : closer.kind = .rightParenthesis := closes closer List.mem_cons_self
      have inner : ExpressionAt dialect .equality (token :: input) (closers ++ rest) value :=
        (ExpressionAt.group isOpening derived isClosing).loosen (by decide)
      rw [List.append_assoc, List.singleton_append]
      apply inductionHypothesis _ _ _ inner
      · exact fun other member => opens other (List.mem_append_left _ member)
      · exact fun other member => closes other (List.mem_cons_of_mem _ member)
      · simpa using matching

namespace Expression

variable {level : Level} {cursor : Cursor}

/-- Where no operand starts no expression can be read, and nothing is read of the tokens. -/
theorem yields_missing {input : List Token} (starts : cursor.tokens = input)
    (missing : (input.headD .endOfInput).kind.operandForm? = none) :
    (Expression.read level cursor).Yields none [.noOperand (input.headD .endOfInput).kind]
      input.tail := by
  subst starts
  rw [← Cursor.current_eq] at missing ⊢
  rw [read_of_operandForm?_eq_none missing]
  exact Reading.yields_fail _

/-- An operand in front of the end of an expression is the whole expression. -/
theorem yields_of_operand {form : OperandForm} {present : 0 < cursor.remaining}
    {operand : Option Expression} {errors : List SyntaxError} {behind : List Token}
    (starts : cursor.current.kind.operandForm? = some form)
    (yields : (Expression.readOperand form cursor present).Yields operand errors behind)
    (stops : level.Stops behind) :
    (Expression.read level cursor).Yields operand errors behind := by
  rw [read_of_operandForm?_eq_some starts present, ← List.append_nil errors]
  apply yields.andThen
  intro rest _ follows
  rw [← follows] at stops
  rw [extend_of_not_lt (Level.stops_tail_iff.mp stops)]
  exact ⟨rfl, rfl, follows⟩

/-- A group that the end of the input leaves open is lost and reports the end behind the errors
inside it. -/
theorem yields_unclosedGroup {token : Token} {input : List Token} {value : Option Expression}
    {errors : List SyntaxError} (starts : cursor.tokens = token :: input)
    (opens : token.kind = .leftParenthesis)
    (inner : ∀ start : Cursor, start.tokens = input →
      (Expression.read .lowest start).Yields value errors []) :
    (Expression.read level cursor).Yields none
      (errors ++ [.unexpected .rightParenthesis .endOfInput]) [] := by
  have present : 0 < cursor.remaining := by simp [Cursor.remaining, starts]
  have isGroup : cursor.current.kind.operandForm? = some .group := by
    rw [Cursor.current_of_tokens starts, opens]
    rfl
  have group : (Expression.readOperand .group cursor present).Yields none
      (errors ++ [.unexpected .rightParenthesis .endOfInput]) [] := by
    rw [Expression.readOperand]
    apply Reading.Yields.fromNext
    apply (inner cursor.advance (by simp [starts])).andThen
    intro last _ noneBehind
    have ended : last.next.kind = .endOfInput := by rw [Cursor.next_eq, noneBehind]; rfl
    rw [Cursor.expecting_of_ne (by rw [ended]; decide), ended, ← noneBehind]
    exact Reading.yields_fail _
  exact yields_of_operand isGroup group level.stops_nil

/-- An expression of the grammar is yielded where it ends. -/
theorem yields_of_derived {input rest : List Token} {value : Expression}
    (derived : ExpressionAt .documented .equality input rest value) (ends : Level.lowest.Ends rest)
    (starts : cursor.tokens = input) :
    (Expression.read .lowest cursor).Yields (some value) [] rest :=
  (succeeds_of_ends Stratum.le_rfl ends (derived.comesTo Stratum.le_rfl starts)).yields

/-- Each of several groups inside each other reports the end of the input that leaves it open. -/
theorem yields_unclosedGroups {token : Token} {opening input : List Token}
    {value : Option Expression} {errors : List SyntaxError}
    (starts : cursor.tokens = token :: (opening ++ input))
    (isOpening : token.kind = .leftParenthesis)
    (opens : ∀ token ∈ opening, token.kind = .leftParenthesis)
    (inner : ∀ start : Cursor, start.tokens = input →
      (Expression.read .lowest start).Yields value errors []) :
    (Expression.read level cursor).Yields none
      (errors ++ List.replicate (opening.length + 1) (.unexpected .rightParenthesis .endOfInput))
      [] := by
  induction opening generalizing token level cursor with
  | nil => exact yields_unclosedGroup starts isOpening inner
  | cons next others inductionHypothesis =>
    have isOpeningNext := opens next List.mem_cons_self
    have opensOthers : ∀ token ∈ others, token.kind = .leftParenthesis :=
      fun other member => opens other (List.mem_cons_of_mem _ member)
    rw [List.replicate_succ', ← List.append_assoc]
    apply yields_unclosedGroup starts isOpening
    intro start startsInner
    exact inductionHypothesis startsInner isOpeningNext opensOthers

end Expression

namespace Statement

variable {cursor : Cursor} {closing : List Token}

/-- A statement without a keyword has the value that the expression in it yields. -/
theorem yields_expression {value : Option Expression} {errors : List SyntaxError}
    {behind : List Token} (notLet : cursor.current.kind ≠ .letKeyword)
    (notReturn : cursor.current.kind ≠ .returnKeyword)
    (yields : (Expression.read .lowest cursor).Yields value errors behind) :
    (Statement.read cursor).Yields (some (.expression cursor.current value)) errors
      (Reading.behindSemicolon behind) := by
  rw [Statement.read]
  split
  · next isLet => exact absurd isLet notLet
  · next isReturn => exact absurd isReturn notReturn
  · constructor
    · rw [Reading.value_noting, Reading.value_terminated, Reading.value_map, yields.value_eq]
    · rw [Reading.errors_noting, Reading.errors_terminated, Reading.errors_map,
        yields.errors_eq]
    · rw [Reading.rest_noting, Reading.tail_rest_terminated, Reading.rest_map, yields.behind_eq]

/-- In front of closing parentheses the statements behind an expression start on the first of
them. -/
theorem readList_of_yields {value : Option Expression} {errors : List SyntaxError}
    (notEnded : cursor.current.kind ≠ .endOfInput) (notLet : cursor.current.kind ≠ .letKeyword)
    (notReturn : cursor.current.kind ≠ .returnKeyword)
    (yields : (Expression.read .lowest cursor).Yields value errors closing)
    (closes : ∀ token ∈ closing, token.kind = .rightParenthesis) :
    ∃ later : Cursor, later.tokens = closing ∧
      (Statement.readList .program cursor).value =
        .expression cursor.current value :: (Statement.readList .program later).value ∧
      (Statement.readList .program cursor).errors =
        errors ++ (Statement.readList .program later).errors := by
  have noSemicolon : Reading.behindSemicolon closing = closing := by
    cases closing with
    | nil => rfl
    | cons token rest => exact if_neg (by rw [closes token List.mem_cons_self]; decide)
  have first := yields_expression notLet notReturn yields
  rw [noSemicolon] at first
  refine ⟨(Statement.read cursor).rest.advance, by rw [Cursor.tokens_advance, first.behind_eq], ?_⟩
  rw [Statement.readList.eq_def _ cursor, dif_neg (mt Scope.endsAt_program_iff.mp notEnded)]
  constructor
  · rw [Reading.value_andThen, Reading.value_fromNext, Reading.value_map, first.value_eq]
    rfl
  · rw [Reading.errors_andThen, Reading.errors_fromNext, Reading.errors_map, first.errors_eq]

/-- Each parenthesis that closes nothing is a statement without an expression and an error. -/
theorem readList_closings (closes : ∀ token ∈ closing, token.kind = .rightParenthesis)
    (starts : cursor.tokens = closing) :
    (Statement.readList .program cursor).value =
        closing.map (fun token => .expression token none) ∧
      (Statement.readList .program cursor).errors =
        List.replicate closing.length (.noOperand .rightParenthesis) := by
  induction closing generalizing cursor with
  | nil =>
    have ended : cursor.current.kind = .endOfInput := by rw [Cursor.current_eq, starts]; rfl
    rw [Statement.readList, dif_pos (Scope.endsAt_program_iff.mpr ended)]
    exact ⟨rfl, rfl⟩
  | cons token others inductionHypothesis =>
    have isClosing := closes token List.mem_cons_self
    have closesOthers : ∀ token ∈ others, token.kind = .rightParenthesis :=
      fun other member => closes other (List.mem_cons_of_mem _ member)
    have current : cursor.current = token := Cursor.current_of_tokens starts
    have missing : (Expression.read .lowest cursor).Yields none [.noOperand token.kind] others :=
      Expression.yields_missing starts (by rw [List.headD_cons, isClosing]; rfl)
    obtain ⟨later, startsLater, values, causes⟩ := readList_of_yields
      (by rw [current, isClosing]; decide) (by rw [current, isClosing]; decide)
      (by rw [current, isClosing]; decide) missing closesOthers
    obtain ⟨otherValues, otherCauses⟩ := inductionHypothesis closesOthers startsLater
    rw [values, causes, otherValues, otherCauses, current, isClosing]
    exact ⟨rfl, rfl⟩

end Statement

/-- Tokens are read as these statements, and these messages report the errors. -/
def ReadAs (tokens : List Token) (statements : List Statement) (messages : List String) : Prop :=
  (Source.ofTokens tokens).read.1.statements = statements ∧
    (Source.ofTokens tokens).read.2.errors.map SyntaxError.message = messages

/-- A program starts with the expression that its tokens yield, and the closing parentheses behind
that follow one by one. -/
theorem readAs_of_yields {tokens closing : List Token} {value : Option Expression}
    {errors : List SyntaxError}
    (isOperand : (tokens.headD .endOfInput).kind.operandForm?.isSome)
    (closes : ∀ token ∈ closing, token.kind = .rightParenthesis)
    (yields : ∀ start : Cursor, start.tokens = tokens →
      (Expression.read .lowest start).Yields value errors closing) :
    ReadAs tokens
      (.expression (tokens.headD .endOfInput) value ::
        closing.map fun token => .expression token none)
      (errors.map SyntaxError.message ++
        List.replicate closing.length "no prefix parse function for ) found") := by
  have starts : (Cursor.start (Source.ofTokens tokens)).tokens = tokens := by
    rw [Cursor.tokens_start, Source.tokens_ofTokens]
  have current : (Cursor.start (Source.ofTokens tokens)).current = tokens.headD .endOfInput := by
    rw [Cursor.current_eq, starts]
  have startsOperand {kind : TokenKind} (noOperand : kind.operandForm? = none) :
      (Cursor.start (Source.ofTokens tokens)).current.kind ≠ kind := by
    rintro rfl
    rw [current] at noOperand
    rw [noOperand] at isOperand
    cases isOperand
  obtain ⟨later, startsLater, values, causes⟩ := Statement.readList_of_yields
    (startsOperand rfl) (startsOperand rfl) (startsOperand rfl) (yields _ starts) closes
  obtain ⟨otherValues, otherCauses⟩ := Statement.readList_closings closes startsLater
  constructor
  · rw [Source.program_read, values, otherValues, current]
  · rw [Source.errors_read, causes, otherCauses, List.map_append, List.map_replicate]
    rfl

/-- Groups inside each other that the end of the input leaves open are one statement without an
expression; behind the errors inside them each reports the end. -/
theorem readAs_unclosedGroups {token : Token} {opening input : List Token}
    {value : Option Expression} {errors : List SyntaxError}
    (isOpening : token.kind = .leftParenthesis)
    (opens : ∀ token ∈ opening, token.kind = .leftParenthesis)
    (inner : ∀ start : Cursor, start.tokens = input →
      (Expression.read .lowest start).Yields value errors []) :
    ReadAs (token :: (opening ++ input)) [.expression token none]
      (errors.map SyntaxError.message ++
        List.replicate (opening.length + 1) "expected next token to be ), got EOF instead") := by
  have isOperand :
      ((token :: (opening ++ input)).headD .endOfInput).kind.operandForm?.isSome := by
    rw [List.headD_cons, isOpening]
    rfl
  have read := readAs_of_yields isOperand (List.forall_mem_nil _) fun start starts =>
    Expression.yields_unclosedGroups starts isOpening opens inner
  rw [List.map_append, List.map_replicate, List.length_nil, List.replicate_zero,
    List.append_nil] at read
  exact read

section Parentheses

variable {opening inner closing : List Token} {value : Expression}

/-- Where all parentheses are closed the expression is read, and each further one is a statement. -/
theorem readAs_closed (opens : ∀ token ∈ opening, token.kind = .leftParenthesis)
    (closes : ∀ token ∈ closing, token.kind = .rightParenthesis)
    (derived : ExpressionAt .documented .equality inner [] value)
    (closed : opening.length ≤ closing.length) :
    ReadAs (opening ++ inner ++ closing)
      (.expression ((opening ++ inner ++ closing).headD .endOfInput) (some value) ::
        (closing.drop opening.length).map fun token => .expression token none)
      (List.replicate (closing.length - opening.length)
        "no prefix parse function for ) found") := by
  have closesInner : ∀ token ∈ closing.take opening.length, token.kind = .rightParenthesis :=
    fun token member => closes token (List.mem_of_mem_take member)
  have closesNothing : ∀ token ∈ closing.drop opening.length, token.kind = .rightParenthesis :=
    fun token member => closes token (List.mem_of_mem_drop member)
  have matching : opening.length = (closing.take opening.length).length := by
    rw [List.length_take, Nat.min_eq_left closed]
  have grouped : ExpressionAt .documented .equality (opening ++ (inner ++ closing))
      (closing.drop opening.length) value := by
    apply ExpressionAt.grouped opens closesInner matching
    rw [List.take_append_drop]
    exact derived.append closing
  rw [← List.append_assoc] at grouped
  have isOperand : ((opening ++ inner ++ closing).headD .endOfInput).kind.operandForm?.isSome := by
    obtain ⟨token, behind, same, isOperand⟩ := grouped.exists_first
    rw [same]
    exact isOperand
  have read := readAs_of_yields isOperand closesNothing fun start starts =>
    Expression.yields_of_derived grouped (Level.ends_closings closesNothing) starts
  rwa [List.length_drop] at read

/-- Where a parenthesis is left open nothing is read of the expression. -/
theorem readAs_unclosed (opens : ∀ token ∈ opening, token.kind = .leftParenthesis)
    (closes : ∀ token ∈ closing, token.kind = .rightParenthesis)
    (derived : ExpressionAt .documented .equality inner [] value)
    (unclosed : closing.length < opening.length) :
    ReadAs (opening ++ inner ++ closing)
      [.expression ((opening ++ inner ++ closing).headD .endOfInput) none]
      (List.replicate (opening.length - closing.length)
        "expected next token to be ), got EOF instead") := by
  -- The last of the opening parentheses are closed, the ones in front of them stay open.
  obtain ⟨outer, nested, rfl, matching⟩ : ∃ outer nested, opening = outer ++ nested ∧
      nested.length = closing.length := by
    refine ⟨opening.take (opening.length - closing.length),
      opening.drop (opening.length - closing.length), (List.take_append_drop _ _).symm, ?_⟩
    rw [List.length_drop]
    omega
  rw [List.length_append, matching, Nat.add_sub_cancel]
  cases outer with
  | nil => simp [matching] at unclosed
  | cons token others =>
    have isOpening : token.kind = .leftParenthesis := opens token (by simp)
    have opensOthers : ∀ token ∈ others, token.kind = .leftParenthesis :=
      fun other member => opens other (by simp [member])
    have opensNested : ∀ token ∈ nested, token.kind = .leftParenthesis :=
      fun other member => opens other (List.mem_append_right _ member)
    have grouped : ExpressionAt .documented .equality (nested ++ (inner ++ closing)) [] value := by
      apply ExpressionAt.grouped opensNested closes matching
      rw [List.append_nil]
      exact derived.append closing
    have read := readAs_unclosedGroups isOpening opensOthers fun start starts =>
      Expression.yields_of_derived grouped ⟨Level.lowest.stops_nil, by decide⟩ starts
    simpa [List.append_assoc] using read

/-- Parentheses with nothing behind them miss an operand and then each its closing parenthesis. -/
theorem readAs_openings (opens : ∀ token ∈ opening, token.kind = .leftParenthesis)
    (nonempty : opening ≠ []) :
    ReadAs opening [.expression (opening.headD .endOfInput) none]
      ("no prefix parse function for EOF found" ::
        List.replicate opening.length "expected next token to be ), got EOF instead") := by
  cases opening with
  | nil => exact absurd rfl nonempty
  | cons token others =>
    have isOpening := opens token List.mem_cons_self
    have opensOthers : ∀ token ∈ others, token.kind = .leftParenthesis :=
      fun other member => opens other (List.mem_cons_of_mem _ member)
    have missing (start : Cursor) (ended : start.tokens = []) :
        (Expression.read .lowest start).Yields none [.noOperand .endOfInput] [] :=
      Expression.yields_missing ended rfl
    have read := readAs_unclosedGroups isOpening opensOthers missing
    rw [List.append_nil] at read
    exact read

end Parentheses

/-- An expression in parentheses that need not match is read once if all of them are closed, and
lost otherwise. Each parenthesis left open and each one that closes nothing reports one error. -/
theorem readAs_parenthesised (opening closing : List Token)
    (opens : ∀ token ∈ opening, token.kind = .leftParenthesis)
    (closes : ∀ token ∈ closing, token.kind = .rightParenthesis) :
    (∀ inner value, ExpressionAt .documented .equality inner [] value →
      (opening.length = closing.length →
        ReadAs (opening ++ inner ++ closing)
          [.expression ((opening ++ inner ++ closing).headD .endOfInput) (some value)] []) ∧
      (closing.length < opening.length →
        ReadAs (opening ++ inner ++ closing)
          [.expression ((opening ++ inner ++ closing).headD .endOfInput) none]
          (List.replicate (opening.length - closing.length)
            "expected next token to be ), got EOF instead")) ∧
      (opening.length < closing.length →
        ReadAs (opening ++ inner ++ closing)
          (.expression ((opening ++ inner ++ closing).headD .endOfInput) (some value) ::
            (closing.drop opening.length).map fun token => .expression token none)
          (List.replicate (closing.length - opening.length)
            "no prefix parse function for ) found"))) ∧
    (opening ≠ [] →
      ReadAs opening [.expression (opening.headD .endOfInput) none]
        ("no prefix parse function for EOF found" ::
          List.replicate opening.length "expected next token to be ), got EOF instead")) := by
  refine ⟨fun inner value derived => ⟨?_, ?_, ?_⟩, readAs_openings opens⟩
  · intro matching
    have read := readAs_closed opens closes derived (Nat.le_of_eq matching)
    rwa [matching, List.drop_length, Nat.sub_self] at read
  · exact readAs_unclosed opens closes derived
  · intro surplus
    exact readAs_closed opens closes derived (Nat.le_of_lt surplus)

/-- These are two parentheses that open groups. -/
def openings : List Token :=
  [⟨.leftParenthesis, "("⟩, ⟨.leftParenthesis, "("⟩]

/-- The inner group of `((-x)` is closed, the outer one is not, and the expression is lost. -/
theorem readAs_halfClosedGroups :
    (∀ token ∈ openings, token.kind = .leftParenthesis) ∧
      (∀ token ∈ ([⟨.rightParenthesis, ")"⟩] : List Token), token.kind = .rightParenthesis) ∧
      ExpressionAt .documented .equality [⟨.minus, "-"⟩, ⟨.identifier, "x"⟩] []
        (.unary ⟨.minus, "-"⟩ .minus (some (.identifier (.ofToken ⟨.identifier, "x"⟩)))) ∧
      ReadAs (openings ++ [⟨.minus, "-"⟩, ⟨.identifier, "x"⟩] ++ [⟨.rightParenthesis, ")"⟩])
        [.expression ⟨.leftParenthesis, "("⟩ none]
        ["expected next token to be ), got EOF instead"] ∧
      ReadAs openings [.expression ⟨.leftParenthesis, "("⟩ none]
        ["no prefix parse function for EOF found", "expected next token to be ), got EOF instead",
          "expected next token to be ), got EOF instead"] := by
  have opens : ∀ token ∈ openings, token.kind = .leftParenthesis := by decide
  have closes : ∀ token ∈ ([⟨.rightParenthesis, ")"⟩] : List Token),
      token.kind = .rightParenthesis := by decide
  have name : ExpressionAt .documented .unary [⟨.identifier, "x"⟩] []
      (.identifier (.ofToken ⟨.identifier, "x"⟩)) := .loosen (by decide) (.identifier rfl)
  have negation : ExpressionAt .documented .unary [⟨.minus, "-"⟩, ⟨.identifier, "x"⟩] []
      (.unary ⟨.minus, "-"⟩ .minus (some (.identifier (.ofToken ⟨.identifier, "x"⟩)))) :=
    .unary rfl name
  have derived : ExpressionAt .documented .equality [⟨.minus, "-"⟩, ⟨.identifier, "x"⟩] []
      (.unary ⟨.minus, "-"⟩ .minus (some (.identifier (.ofToken ⟨.identifier, "x"⟩)))) :=
    negation.loosen (by decide)
  obtain ⟨parenthesised, alone⟩ := readAs_parenthesised openings _ opens closes
  exact ⟨opens, closes, derived, (parenthesised _ _ derived).2.1 (by decide), alone (by decide)⟩

end MonkeySyntax
