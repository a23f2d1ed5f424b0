import MonkeySyntax.Proofs.Completeness
import MonkeySyntax.Proofs.MaximalMunch
import MonkeySyntax.Tree.Canonical

namespace MonkeySyntax

open Grammar

/-- A name is a word that is no keyword. -/
def Token.IsName (token : Token) : Prop :=
  token.IsWord ∧ token.kind = .identifier

/-- An expression is printable when no child is absent, no integer in it is negative, and its tokens
are those that its canonical text has. Blocks lose their braces there, so it holds none. -/
inductive Expression.Printable : Expression → Prop where
  | identifier {name : Identifier} (isName : name.token.IsName) : Printable (.identifier name)
  | integer {value : Int64} (nonnegative : 0 ≤ value.toInt) :
      Printable (.integer ⟨.integer, Decimal.text value.toInt⟩ value)
  | trueLiteral : Printable (.boolean ⟨.trueKeyword, "true"⟩ true)
  | falseLiteral : Printable (.boolean ⟨.falseKeyword, "false"⟩ false)
  | unary {operator : UnaryOperator} {operand : Expression} (inner : Printable operand) :
      Printable (.unary ⟨operator.kind, operator.display⟩ operator (some operand))
  | binary {operator : BinaryOperator} {left right : Expression} (leftOperand : Printable left)
      (rightOperand : Printable right) :
      Printable (.binary ⟨operator.kind, operator.display⟩ (some left) operator (some right))
  | call {callee : Expression} {arguments : List Expression} (function : Printable callee)
      (all : ∀ argument ∈ arguments, Printable argument) :
      Printable (.call ⟨.leftParenthesis, "("⟩ callee arguments)

/-- Let and return statements are printable with a printable value; canonical text closes them. -/
inductive Statement.Printable : Statement → Prop where
  | letBinding {name : Identifier} {value : Expression} (isName : name.token.IsName)
      (inner : value.Printable) :
      Printable (.letBinding ⟨.letKeyword, "let"⟩ name (some value))
  | returnValue {value : Expression} (inner : value.Printable) :
      Printable (.returnValue ⟨.returnKeyword, "return"⟩ (some value))

/-- Only the last of several statements may be an expression, since canonical text leaves it open.
Its own token is not written. -/
inductive Statement.PrintableList : List Statement → Prop where
  | none : PrintableList []
  | last {token : Token} {value : Expression} (inner : value.Printable) :
      PrintableList [.expression token (some value)]
  | more {statement : Statement} {rest : List Statement} (first : statement.Printable)
      (others : PrintableList rest) : PrintableList (statement :: rest)

/-- A program is printable when its statements are. -/
def Program.Printable (program : Program) : Prop :=
  Statement.PrintableList program.statements

/-- A statement made from its canonical text starts with the first token of that text. -/
def Statement.anchored : Statement → Statement
  | .expression token (some value) =>
    .expression ((Token.ofText value.canonical).headD token) (some value)
  | statement => statement

/-- An anchored program has the same statements but for the tokens of expression statements. -/
def Program.anchored (program : Program) : Program :=
  ⟨program.statements.map Statement.anchored⟩

/-- A text does not go on with a word when it starts with no word character. -/
def EndsWord (text : List Char) : Prop :=
  ∀ character ∈ text.head?, ¬isWordCharacter character

/-- A text without characters goes on with no word. -/
theorem endsWord_nil : EndsWord [] := by
  intro character member
  cases member

/-- A word stops in front of any other character. -/
theorem endsWord_cons {character : Char} {text : List Char}
    (noWord : isWordCharacter character = false) : EndsWord (character :: text) := by
  intro first member
  cases member
  simp [noWord]

namespace Token

variable {text : List Char}

/-- The blanks of a canonical text are dropped. -/
theorem ofCharacters_blank : ofCharacters (' ' :: text) = ofCharacters text :=
  ofCharacters_of_isBlank rfl

/-- Every keyword is a word. -/
theorem isWord_of_mem_keywords {word : String} {kind : TokenKind}
    (keyword : (word, kind) ∈ TokenKind.keywords) : (⟨kind, word⟩ : Token).IsWord := by
  have letters : ∀ entry ∈ TokenKind.keywords, entry.1.toList.head?.any isLetter ∧
      entry.1.toList.tail.all isWordCharacter ∧ entry.2 = .ofWord entry.1 := by
    decide
  obtain ⟨first, others, kind⟩ := letters _ keyword
  obtain ⟨letter, first, isLetter⟩ := (Option.any_eq_true _ _).mp first
  exact ⟨letter, word.toList.tail, List.eq_cons_of_mem_head? first, isLetter,
    List.all_eq_true.mp others, kind⟩

/-- A keyword ends where no word character goes on. -/
theorem ofCharacters_keyword {word : String} {kind : TokenKind}
    (keyword : (word, kind) ∈ TokenKind.keywords) (apart : EndsWord text) :
    ofCharacters (word.toList ++ text) = ⟨kind, word⟩ :: ofCharacters text := by
  have isWord : (⟨kind, word⟩ : Token).IsWord := isWord_of_mem_keywords keyword
  exact isWord.ofCharacters_append apart

/-- An operator, a separator or a bracket is a token in front of any text that it does not join. -/
theorem ofCharacters_display {kind : TokenKind} (isPunctuation : kind ∈ punctuation)
    (apart : kind = .assign ∨ kind = .bang → text.head? ≠ some '=') :
    ofCharacters (kind.display.toList ++ text) = ⟨kind, kind.display⟩ :: ofCharacters text := by
  have spelled : (⟨kind, kind.display⟩ : Token).IsPunctuation := ⟨isPunctuation, rfl⟩
  exact spelled.ofCharacters_append apart

/-- An opening parenthesis is a token wherever it stands. -/
theorem ofCharacters_leftParenthesis :
    ofCharacters ('(' :: text) = ⟨.leftParenthesis, "("⟩ :: ofCharacters text :=
  @ofCharacters_display text .leftParenthesis (by decide) (by simp)

theorem ofCharacters_rightParenthesis :
    ofCharacters (')' :: text) = ⟨.rightParenthesis, ")"⟩ :: ofCharacters text :=
  @ofCharacters_display text .rightParenthesis (by decide) (by simp)

theorem ofCharacters_comma : ofCharacters (',' :: text) = ⟨.comma, ","⟩ :: ofCharacters text :=
  @ofCharacters_display text .comma (by decide) (by simp)

theorem ofCharacters_semicolon :
    ofCharacters (';' :: text) = ⟨.semicolon, ";"⟩ :: ofCharacters text :=
  @ofCharacters_display text .semicolon (by decide) (by simp)

/-- A prefix operator is a token where no equals sign follows. -/
theorem ofCharacters_unaryOperator (operator : UnaryOperator) (apart : text.head? ≠ some '=') :
    ofCharacters (operator.display.toList ++ text) =
      ⟨operator.kind, operator.display⟩ :: ofCharacters text :=
  ofCharacters_display (by cases operator <;> decide) fun _ => apart

/-- The blank behind an operator ends it. -/
theorem ofCharacters_binaryOperator (operator : BinaryOperator) :
    ofCharacters (operator.display.toList ++ ' ' :: text) =
      ⟨operator.kind, operator.display⟩ :: ofCharacters text := by
  have isPunctuation : operator.kind ∈ punctuation := by
    cases operator <;> decide
  have shown := @ofCharacters_display (' ' :: text) _ isPunctuation (by simp)
  rw [ofCharacters_blank] at shown
  exact shown

/-- A natural number is written as one number token. -/
theorem isNumber_text {value : Int} (nonnegative : 0 ≤ value) :
    (⟨.integer, Decimal.text value⟩ : Token).IsNumber := by
  obtain ⟨number, rfl⟩ := Int.eq_ofNat_of_zero_le nonnegative
  have nonempty : Decimal.text number ≠ "" := by
    simpa [Decimal.text] using Decimal.digits_ne_nil number
  have digits : ∀ character ∈ (Decimal.text number).toList, character.isDigit := by
    intro character member
    exact Decimal.isDigit_of_mem_digits number (by simpa [Decimal.text] using member)
  exact ⟨nonempty, digits, rfl⟩

end Token

namespace Expression

/-- An expression is read back when it is read from the front of every text that starts with its
canonical text and does not go on with a word. -/
def ReadBack (expression : Expression) : Prop :=
  ∀ text : List Char, EndsWord text →
    ExpressionAt .documented .call (Token.ofCharacters (expression.canonical.toList ++ text))
      (Token.ofCharacters text) expression

variable {stratum : Stratum} {value operand left right callee : Expression}
  {body text : List Char}

/-- A group is read up to its closing parenthesis. -/
theorem derives_group
    (inner : ExpressionAt .documented stratum (Token.ofCharacters body)
      (Token.ofCharacters (')' :: text)) value) :
    ExpressionAt .documented .call (Token.ofCharacters ('(' :: body)) (Token.ofCharacters text)
      value := by
  have loosest : Stratum.equality ≤ stratum := by
    cases stratum <;> decide
  have whole := inner.loosen loosest
  rw [Token.ofCharacters_rightParenthesis] at whole
  rw [Token.ofCharacters_leftParenthesis]
  exact .tighter (.group rfl whole rfl)

/-- The operand stops at the parenthesis that closes the operation. -/
theorem ReadBack.unary {operator : UnaryOperator} (readBack : operand.ReadBack)
    (apart : ∀ text, (operand.canonical.toList ++ text).head? ≠ some '=') :
    (Expression.unary ⟨operator.kind, operator.display⟩ operator (some operand)).ReadBack := by
  intro text _
  have inner := readBack (')' :: text) (endsWord_cons rfl)
  have operation : ExpressionAt .documented .unary
      (Token.ofCharacters (operator.display.toList ++ (operand.canonical.toList ++ ')' :: text)))
      (Token.ofCharacters (')' :: text))
      (.unary ⟨operator.kind, operator.display⟩ operator (some operand)) := by
    rw [Token.ofCharacters_unaryOperator operator (apart _)]
    exact .unary rfl (.tighter inner)
  have shape : (Expression.unary ⟨operator.kind, operator.display⟩ operator
      (some operand)).canonical.toList ++ text =
        '(' :: (operator.display.toList ++ (operand.canonical.toList ++ ')' :: text)) := by
    simp [canonical, canonicalOption]
  rw [shape]
  exact derives_group operation

/-- The left operand stops at the blank before the operator, the right one at the parenthesis. -/
theorem ReadBack.binary {operator : BinaryOperator} (leftBack : left.ReadBack)
    (rightBack : right.ReadBack) :
    (Expression.binary ⟨operator.kind, operator.display⟩ (some left) operator
      (some right)).ReadBack := by
  intro text _
  have leftOperand := leftBack
    (' ' :: (operator.display.toList ++ ' ' :: (right.canonical.toList ++ ')' :: text)))
    (endsWord_cons rfl)
  have rightOperand := rightBack (')' :: text) (endsWord_cons rfl)
  rw [Token.ofCharacters_blank, Token.ofCharacters_binaryOperator] at leftOperand
  have leftLoose : stratumOf operator ≤ .call := by
    cases operator <;> decide
  have rightLoose : (stratumOf operator).tighter ≤ .call := by
    cases operator <;> decide
  have operation := ExpressionAt.binary (leftOperand.loosen leftLoose) rfl
    (rightOperand.loosen rightLoose)
  have shape : (Expression.binary ⟨operator.kind, operator.display⟩ (some left) operator
      (some right)).canonical.toList ++ text =
        '(' :: (left.canonical.toList ++
          ' ' :: (operator.display.toList ++ ' ' :: (right.canonical.toList ++ ')' :: text))) := by
    simp [canonical, canonicalOption]
  rw [shape]
  exact derives_group operation

/-- Each argument stops at the comma behind it, the last one at the parenthesis. -/
theorem ReadBack.arguments {arguments : List Expression} (nonempty : arguments ≠ [])
    (readBack : ∀ argument ∈ arguments, argument.ReadBack) (text : List Char) :
    Arguments .documented
      (Token.ofCharacters ((", ".intercalate (canonicalList arguments)).toList ++ ')' :: text))
      (Token.ofCharacters (')' :: text)) arguments := by
  induction arguments with
  | nil => exact absurd rfl nonempty
  | cons first others inductionHypothesis =>
    have firstBack := readBack first List.mem_cons_self
    by_cases single : others = []
    · subst single
      rw [canonicalList, canonicalList, String.intercalate_singleton]
      have argument := firstBack (')' :: text) (endsWord_cons rfl)
      exact .one (argument.loosen (by decide))
    · have behind := inductionHypothesis single fun argument member =>
        readBack argument (List.mem_cons_of_mem _ member)
      have argument := firstBack
        (',' :: ' ' :: ((", ".intercalate (canonicalList others)).toList ++ ')' :: text))
        (endsWord_cons rfl)
      rw [Token.ofCharacters_comma, Token.ofCharacters_blank] at argument
      have shape : (", ".intercalate (canonicalList (first :: others))).toList ++ ')' :: text =
          first.canonical.toList ++
            ',' :: ' ' :: ((", ".intercalate (canonicalList others)).toList ++ ')' :: text) := by
        rw [canonicalList, toList_intercalate_cons (canonicalList_ne_nil single)]
        simp
      rw [shape]
      exact .more (argument.loosen (by decide)) rfl behind

/-- A call is read back when its callee and its arguments are. -/
theorem ReadBack.call {arguments : List Expression} (function : callee.ReadBack)
    (readBack : ∀ argument ∈ arguments, argument.ReadBack) :
    (Expression.call ⟨.leftParenthesis, "("⟩ callee arguments).ReadBack := by
  intro text _
  have shape : (Expression.call ⟨.leftParenthesis, "("⟩ callee arguments).canonical.toList ++ text =
      callee.canonical.toList ++
        '(' :: ((", ".intercalate (canonicalList arguments)).toList ++ ')' :: text) := by
    simp [canonical]
  have called := function
    ('(' :: ((", ".intercalate (canonicalList arguments)).toList ++ ')' :: text))
    (endsWord_cons rfl)
  rw [Token.ofCharacters_leftParenthesis] at called
  rw [shape]
  apply ExpressionAt.call called
  by_cases none : arguments = []
  · subst none
    rw [canonicalList, String.intercalate_nil, String.toList_empty, List.nil_append,
      Token.ofCharacters_rightParenthesis]
    exact .none rfl rfl
  · have inner := ReadBack.arguments none readBack text
    rw [Token.ofCharacters_rightParenthesis] at inner
    exact .some rfl inner rfl

/-- No printable expression starts with an equals sign. -/
theorem Printable.head_ne (printable : value.Printable) (text : List Char) :
    (value.canonical.toList ++ text).head? ≠ some '=' := by
  induction printable generalizing text with
  | @identifier name isName =>
    obtain ⟨⟨letter, rest, spelled, isLetter, others⟩, kind⟩ := isName
    rw [canonical, name.spelled, spelled, List.cons_append, List.head?_cons]
    rintro ⟨⟩
    cases isLetter
  | integer nonnegative =>
    obtain ⟨nonempty, digits, kind⟩ := Token.isNumber_text nonnegative
    rw [canonical]
    cases spelled : (Decimal.text _).toList with
    | nil => exact absurd (String.toList_eq_nil_iff.mp spelled) nonempty
    | cons digit rest =>
      rw [List.cons_append, List.head?_cons]
      rintro ⟨⟩
      exact absurd (digits '=' (spelled ▸ List.mem_cons_self)) (by decide)
  | trueLiteral => simp [canonical]
  | falseLiteral => simp [canonical]
  | unary inner => simp [canonical]
  | binary leftOperand rightOperand => simp [canonical]
  | call function all inductionHypothesis =>
    rw [canonical, String.append_assoc, String.append_assoc, String.toList_append,
      List.append_assoc]
    exact inductionHypothesis _

/-- Printable expressions are read back. -/
theorem Printable.readBack (printable : value.Printable) : value.ReadBack := by
  induction printable with
  | @identifier name isName =>
    obtain ⟨isWord, isIdentifier⟩ := isName
    intro text apart
    rw [canonical, name.spelled, isWord.ofCharacters_append apart, ← name.ofToken_token]
    exact .tighter (.identifier isIdentifier)
  | integer nonnegative =>
    intro text apart
    have maximal : ∀ character ∈ text.head?, ¬character.isDigit := by
      intro character member digit
      exact apart character member (by simp [isWordCharacter, digit])
    have number := (Token.isNumber_text nonnegative).ofCharacters_append maximal
    rw [canonical, number]
    exact .tighter (.integer rfl rfl)
  | trueLiteral =>
    intro text apart
    have keyword : ("true", TokenKind.trueKeyword) ∈ TokenKind.keywords := by
      decide
    rw [canonical, Token.ofCharacters_keyword keyword apart]
    exact .tighter (.trueLiteral rfl)
  | falseLiteral =>
    intro text apart
    have keyword : ("false", TokenKind.falseKeyword) ∈ TokenKind.keywords := by
      decide
    rw [canonical, Token.ofCharacters_keyword keyword apart]
    exact .tighter (.falseLiteral rfl)
  | unary inner inductionHypothesis => exact inductionHypothesis.unary inner.head_ne
  | binary _ _ leftHypothesis rightHypothesis => exact leftHypothesis.binary rightHypothesis
  | call _ _ functionHypothesis argumentsHypothesis =>
    exact functionHypothesis.call argumentsHypothesis

end Expression

namespace Statement

variable {statement : Statement} {statements : List Statement}

/-- Statements with a keyword keep their first token. -/
theorem Printable.anchored_eq (printable : statement.Printable) :
    statement.anchored = statement := by
  cases printable <;> rfl

/-- The value of a printable statement stops at the semicolon. -/
theorem Printable.derives (printable : statement.Printable) (text : List Char) :
    StatementAt .documented (Token.ofCharacters (statement.canonical.toList ++ text))
      (⟨.semicolon, ";"⟩ :: Token.ofCharacters text) statement := by
  cases printable with
  | @letBinding name value isName inner =>
    obtain ⟨isWord, isIdentifier⟩ := isName
    have bound := inner.readBack (';' :: text) (endsWord_cons rfl)
    have keyword : ("let", TokenKind.letKeyword) ∈ TokenKind.keywords := by
      decide
    have shape :
        (Statement.letBinding ⟨.letKeyword, "let"⟩ name (some value)).canonical.toList ++ text =
        "let".toList ++ ' ' :: (name.token.literal.toList ++
          ' ' :: (TokenKind.assign.display.toList ++
            ' ' :: (value.canonical.toList ++ ';' :: text))) := by
      simp [canonical, Expression.canonicalOption, name.spelled, TokenKind.display]
    rw [shape, Token.ofCharacters_keyword keyword (endsWord_cons rfl), Token.ofCharacters_blank,
      isWord.ofCharacters_append (endsWord_cons rfl), Token.ofCharacters_blank,
      Token.ofCharacters_display (by decide) (by simp), Token.ofCharacters_blank]
    rw [Token.ofCharacters_semicolon] at bound
    rw [← name.ofToken_token]
    exact .letBinding rfl isIdentifier rfl (bound.loosen (by decide))
  | @returnValue value inner =>
    have returned := inner.readBack (';' :: text) (endsWord_cons rfl)
    have keyword : ("return", TokenKind.returnKeyword) ∈ TokenKind.keywords := by
      decide
    have shape :
        (Statement.returnValue ⟨.returnKeyword, "return"⟩ (some value)).canonical.toList ++ text =
        "return".toList ++ ' ' :: (value.canonical.toList ++ ';' :: text) := by
      simp [canonical, Expression.canonicalOption]
    rw [shape, Token.ofCharacters_keyword keyword (endsWord_cons rfl), Token.ofCharacters_blank]
    rw [Token.ofCharacters_semicolon] at returned
    exact .returnValue rfl (returned.loosen (by decide))

/-- An expression is a statement that starts with its first token. -/
theorem derives_expression {token : Token} {value : Expression} (printable : value.Printable) :
    StatementAt .documented (Token.ofText value.canonical) []
      (expression token (some value)).anchored := by
  have whole := printable.readBack [] endsWord_nil
  rw [List.append_nil, Token.ofCharacters, ← Token.ofText_eq] at whole
  obtain ⟨first, behind, starts, isOperand⟩ := whole.exists_first
  rw [anchored, starts, List.headD_cons]
  rw [starts] at whole
  exact .expression (whole.loosen (by decide))

/-- Printable statements are read from their texts, one behind the other. -/
theorem PrintableList.derives (printable : PrintableList statements) :
    StatementsAt .documented (Token.ofText (String.join (canonicalList statements))) []
      (statements.map anchored) := by
  induction printable with
  | none =>
    rw [canonicalList, String.join_nil, Token.ofText_eq, String.toList_empty, Token.ofCharacters]
    exact .none
  | @last token value inner =>
    rw [canonicalList, canonicalList, String.join_cons, String.join_nil, String.append_empty]
    have nothingBehind : Separated .documented [] := by
      simp [Separated]
    exact .separated (derives_expression inner) nothingBehind .none
  | @more statement rest first others inductionHypothesis =>
    have closed := first.derives (String.join (canonicalList rest)).toList
    rw [Token.ofText_eq] at inductionHypothesis
    rw [canonicalList, String.join_cons, Token.ofText_eq, String.toList_append, List.map_cons,
      first.anchored_eq]
    exact .terminated closed rfl inductionHypothesis

end Statement

/-- The canonical text of a printable program is read as that program without an error, but for
the token of its last expression statement, which is the first one of the text. -/
theorem read_ofText_canonical {program : Program} (printable : program.Printable) :
    (Source.ofText program.canonical).read.1 = program.anchored ∧
      (Source.ofText program.canonical).read.2.errors = [] := by
  have derives : Derives .documented (Source.ofText program.canonical).tokens program.anchored := by
    rw [Source.ofText, Source.tokens_ofTokens]
    exact Statement.PrintableList.derives printable
  exact Source.read_of_derives derives

/-- These are the statements of `let x = !true; f(-1)`; the token of the last one is not written. -/
def negationProgram : Program :=
  ⟨[.letBinding ⟨.letKeyword, "let"⟩ (.ofToken ⟨.identifier, "x"⟩)
      (some (.unary ⟨.bang, "!"⟩ .bang (some (.boolean ⟨.trueKeyword, "true"⟩ true)))),
    .expression .endOfInput (some (.call ⟨.leftParenthesis, "("⟩
      (.identifier (.ofToken ⟨.identifier, "f"⟩))
      [.unary ⟨.minus, "-"⟩ .minus (some (.integer ⟨.integer, "1"⟩ 1))]))]⟩

/-- The canonical text of this program is read as the program with its tokens. -/
theorem read_ofText_negationProgram :
    negationProgram.Printable ∧
      (Source.ofText negationProgram.canonical).read.1 = negationProgram.anchored ∧
      (Source.ofText negationProgram.canonical).read.2.errors = [] := by
  have isName (letter : Char) (isLetter : isLetter letter)
      (kind : TokenKind.ofWord (String.ofList [letter]) = .identifier) :
      (⟨.identifier, String.ofList [letter]⟩ : Token).IsName :=
    ⟨⟨letter, [], String.toList_ofList, isLetter, by simp, kind.symm⟩, rfl⟩
  have one : Expression.Printable (.integer ⟨.integer, "1"⟩ 1) := by
    have spelled : Decimal.text (1 : Int64).toInt = "1" := by
      decide +kernel
    rw [← spelled]
    exact .integer (by decide)
  have argument : Expression.Printable (.unary ⟨.minus, "-"⟩ .minus
      (some (.integer ⟨.integer, "1"⟩ 1))) :=
    @Expression.Printable.unary .minus _ one
  have called : Expression.Printable (.call ⟨.leftParenthesis, "("⟩
      (.identifier (.ofToken ⟨.identifier, "f"⟩))
      [.unary ⟨.minus, "-"⟩ .minus (some (.integer ⟨.integer, "1"⟩ 1))]) :=
    .call (.identifier (isName 'f' rfl (by decide))) (by simpa using argument)
  have negated : Expression.Printable (.unary ⟨.bang, "!"⟩ .bang
      (some (.boolean ⟨.trueKeyword, "true"⟩ true))) :=
    @Expression.Printable.unary .bang _ .trueLiteral
  have printable : negationProgram.Printable :=
    .more (.letBinding (isName 'x' rfl (by decide)) negated) (.last called)
  exact ⟨printable, read_ofText_canonical printable⟩

end MonkeySyntax
