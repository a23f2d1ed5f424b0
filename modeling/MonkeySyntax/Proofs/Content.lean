import MonkeySyntax.Proofs.MaximalMunch
import MonkeySyntax.Proofs.Soundness
import MonkeySyntax.Tree.Canonical

namespace MonkeySyntax

open Grammar

/-- Blanks, parentheses, braces and semicolons are layout. -/
def isLayout (character : Char) : Bool :=
  isBlank character || character == '(' || character == ')' || character == '{' ||
    character == '}' || character == ';'

/-- The content of a text is the text without its layout. -/
def content (text : List Char) : List Char :=
  text.filter fun character => !isLayout character

/-- A string is stripped to its content. -/
def stripped (text : String) : String :=
  String.ofList (content text.toList)

@[simp] theorem content_nil : content [] = [] := rfl

/-- The content of two texts is joined. -/
@[simp] theorem content_append (first second : List Char) :
    content (first ++ second) = content first ++ content second :=
  List.filter_append first second

/-- A character is content unless it is layout. -/
theorem content_cons (character : Char) (text : List Char) :
    content (character :: text) =
      if isLayout character then content text else character :: content text := by
  cases layout : isLayout character <;> simp [content, layout]

/-- Every blank is layout. -/
theorem isLayout_of_isBlank {character : Char} (blank : isBlank character) :
    isLayout character := by
  simp [isLayout, blank]

/-- Texts that follow each other with commas between them have commas in their content. -/
theorem content_intercalate {first : String} {others : List String} (nonempty : others ≠ []) :
    content (", ".intercalate (first :: others)).toList =
      content first.toList ++ ',' :: content (", ".intercalate others).toList := by
  rw [toList_intercalate_cons nonempty]
  simp [content, isLayout, isBlank]

/-- Texts that are joined join their content. -/
theorem content_join (first : String) (others : List String) :
    content (String.join (first :: others)).toList =
      content first.toList ++ content (String.join others).toList := by
  rw [String.join_cons, String.toList_append, content_append]

/-- Tokens of these kinds are layout. -/
def TokenKind.layout : List TokenKind :=
  [semicolon, leftParenthesis, rightParenthesis, leftBrace, rightBrace]

/-- The kinds of layout are spelled by layout alone. -/
theorem TokenKind.content_display_of_mem_layout :
    ∀ kind ∈ layout, content kind.display.toList = [] := by
  decide

/-- Each of them has one spelling. -/
theorem TokenKind.not_mem_varied_of_mem_layout : ∀ kind ∈ layout, kind ∉ varied := by
  decide

/-- A unary operator has one spelling. -/
theorem UnaryOperator.kind_not_mem_varied (operator : UnaryOperator) :
    operator.kind ∉ TokenKind.varied := by
  cases operator <;> decide

/-- A binary operator has one spelling. -/
theorem BinaryOperator.kind_not_mem_varied (operator : BinaryOperator) :
    operator.kind ∉ TokenKind.varied := by
  cases operator <;> decide

namespace Token

/-- The content of tokens is that of their spellings, one behind the other. -/
def contents (tokens : List Token) : List Char :=
  tokens.flatMap fun token => content token.literal.toList

@[simp] theorem contents_nil : contents [] = [] := rfl

/-- The content of tokens starts with that of the first one. -/
@[simp] theorem contents_cons (token : Token) (tokens : List Token) :
    contents (token :: tokens) = content token.literal.toList ++ contents tokens :=
  List.flatMap_cons

/-- A text and its tokens have the same content. -/
theorem contents_ofCharacters (text : List Char) : contents (ofCharacters text) = content text := by
  induction text using ofCharacters.induct with
  | case1 => simp [ofCharacters]
  | case2 character rest blank inductionHypothesis =>
    rw [ofCharacters_of_isBlank blank, inductionHypothesis,
      content_cons, if_pos (isLayout_of_isBlank blank)]
  | case3 character rest notBlank inductionHypothesis =>
    rw [Bool.not_eq_true] at notBlank
    rw [ofCharacters_of_not_isBlank notBlank, contents_cons, inductionHypothesis, ← content_append,
      toList_literal_first]

end Token

/-- Tokens carry a content up to the rest of them. Well-formed tokens alone have to, since others
can be spelled in any way. -/
def Carries (input rest : List Token) (carried : List Char) : Prop :=
  (∀ token ∈ input, token.WellFormed) →
    (∀ token ∈ rest, token.WellFormed) ∧ Token.contents input = carried ++ Token.contents rest

namespace Carries

variable {token : Token} {kind : TokenKind} {input middle rest : List Token}
  {first second carried : List Char}

/-- Where no token is taken no content is carried. -/
theorem nothing : Carries rest rest [] :=
  fun wellFormed => ⟨wellFormed, by simp⟩

/-- Content is carried from one place to the next and on from there. -/
theorem trans (start : Carries input middle first) (behind : Carries middle rest second) :
    Carries input rest (first ++ second) := by
  intro wellFormed
  obtain ⟨wellFormedMiddle, contentsInput⟩ := start wellFormed
  obtain ⟨wellFormedRest, contentsMiddle⟩ := behind wellFormedMiddle
  rw [contentsInput, contentsMiddle, List.append_assoc]
  exact ⟨wellFormedRest, rfl⟩

/-- Content can be written in another way. -/
theorem congr (start : Carries input rest first) (same : second = first) :
    Carries input rest second := by
  rw [same]
  exact start

/-- A token carries its spelling. -/
theorem behindSpelling (behind : Carries middle rest carried) :
    Carries (token :: middle) rest (content token.literal.toList ++ carried) := by
  intro wellFormed
  have wellFormedMiddle : ∀ other ∈ middle, other.WellFormed :=
    fun other member => wellFormed other (List.mem_cons_of_mem _ member)
  obtain ⟨wellFormedRest, contentsMiddle⟩ := behind wellFormedMiddle
  rw [Token.contents_cons, contentsMiddle, List.append_assoc]
  exact ⟨wellFormedRest, rfl⟩

/-- A token of a kind with one spelling carries that spelling. -/
theorem behindDisplay (behind : Carries middle rest carried) (isKind : token.kind = kind)
    (fixed : kind ∉ TokenKind.varied) :
    Carries (token :: middle) rest (content kind.display.toList ++ carried) := by
  intro wellFormed
  have spelled := (wellFormed token List.mem_cons_self).literal_eq_display (by rwa [isKind])
  rw [← isKind, ← spelled]
  exact behind.behindSpelling wellFormed

/-- A bracket carries nothing. -/
theorem behindLayout (behind : Carries middle rest carried) (isKind : token.kind = kind)
    (silent : kind ∈ TokenKind.layout) : Carries (token :: middle) rest carried := by
  have shown := behind.behindDisplay isKind (TokenKind.not_mem_varied_of_mem_layout kind silent)
  rw [TokenKind.content_display_of_mem_layout kind silent] at shown
  exact shown

/-- A bracket or a semicolon at the end carries nothing either. -/
theorem beforeLayout (front : Carries input (token :: rest) carried) (isKind : token.kind = kind)
    (silent : kind ∈ TokenKind.layout) : Carries input rest carried := by
  have closed := front.trans (nothing.behindLayout isKind silent)
  rw [List.append_nil] at closed
  exact closed

end Carries

namespace Grammar

variable {dialect : Dialect}

/-- A derived list of parameters has one. -/
theorem Parameters.ne_nil {input rest : List Token} {parameters : List Identifier}
    (derived : Parameters dialect input rest parameters) : parameters ≠ [] := by
  cases derived <;> simp

/-- A derived list of arguments has one. -/
theorem Arguments.ne_nil {input rest : List Token} {values : List Expression}
    (derived : Arguments dialect input rest values) : values ≠ [] := by
  cases derived <;> simp

/-- A parameter carries its name, whatever token is taken for it. -/
theorem Parameters.carries {input rest : List Token} {parameters : List Identifier}
    (derived : Parameters dialect input rest parameters) :
    Carries input rest (content (", ".intercalate (parameters.map Identifier.name)).toList) := by
  induction derived with
  | one parameter =>
    apply Carries.nothing.behindSpelling.congr
    simp [Identifier.ofToken]
  | more parameter isComma others inductionHypothesis =>
    have separated := inductionHypothesis.behindDisplay isComma (by decide)
    apply separated.behindSpelling.congr
    have nonempty : List.map Identifier.name _ ≠ [] :=
      fun empty => others.ne_nil (List.map_eq_nil_iff.mp empty)
    rw [List.map_cons, content_intercalate nonempty]
    rfl

/-- The parentheses around parameters are layout. -/
theorem ParameterList.carries {input rest : List Token} {parameters : List Identifier}
    (derived : ParameterList dialect input rest parameters) :
    Carries input rest (content (", ".intercalate (parameters.map Identifier.name)).toList) := by
  cases derived with
  | none opens closes =>
    exact (Carries.nothing.behindLayout closes (by decide)).behindLayout opens (by decide)
  | some opens named inner closes =>
    have closed := inner.carries.beforeLayout closes (by decide)
    exact closed.behindLayout opens (by decide)

mutual

/-- An expression carries its canonical text. -/
theorem ExpressionAt.carries {stratum : Stratum} {input rest : List Token} {value : Expression}
    (derived : ExpressionAt dialect stratum input rest value) :
    Carries input rest (content value.canonical.toList) :=
  match derived with
  | .tighter inner => inner.carries
  | .binary leftOperand spells rightOperand => by
    have right := rightOperand.carries.behindDisplay spells (BinaryOperator.kind_not_mem_varied _)
    apply (leftOperand.carries.trans right).congr
    simp [Expression.canonical, Expression.canonicalOption, BinaryOperator.display, content_cons,
      isLayout, isBlank]
  | .unary spells inner => by
    have operand := inner.carries.behindDisplay spells (UnaryOperator.kind_not_mem_varied _)
    apply operand.congr
    simp [Expression.canonical, Expression.canonicalOption, UnaryOperator.display, content_cons,
      isLayout]
  | .call function list => by
    apply (function.carries.trans list.carries).congr
    simp [Expression.canonical, content_cons, isLayout]
  | .identifier isName => Carries.nothing.behindSpelling.congr (List.append_nil _).symm
  | .integer isInteger denotes => Carries.nothing.behindSpelling.congr (List.append_nil _).symm
  | .trueLiteral isKeyword => Carries.nothing.behindSpelling.congr (List.append_nil _).symm
  | .falseLiteral isKeyword => Carries.nothing.behindSpelling.congr (List.append_nil _).symm
  | .group opens inner closes =>
    (inner.carries.beforeLayout closes (by decide)).behindLayout opens (by decide)
  | .conditional isKeyword opens test closes branch => by
    have closed := test.carries.beforeLayout closes (by decide)
    have condition := closed.behindLayout opens (by decide)
    have all := (condition.trans branch.carries).behindDisplay isKeyword (by decide)
    apply all.congr
    simp [Expression.canonical, Block.canonicalAlternative, TokenKind.display, content_cons,
      isLayout, isBlank]
  | .alternative isKeyword opens test closes branch isElse otherBranch => by
    have closed := test.carries.beforeLayout closes (by decide)
    have condition := closed.behindLayout opens (by decide)
    have branches := branch.carries.trans (otherBranch.carries.behindDisplay isElse (by decide))
    have all := (condition.trans branches).behindDisplay isKeyword (by decide)
    apply all.congr
    simp [Expression.canonical, Block.canonicalAlternative, TokenKind.display, content_cons,
      isLayout, isBlank]
  | .function isKeyword list inner => by
    apply (list.carries.trans inner.carries).behindSpelling.congr
    simp [Expression.canonical, content_cons, isLayout, isBlank]

/-- The parentheses around arguments are layout. -/
theorem ArgumentList.carries {input rest : List Token} {arguments : List Expression}
    (derived : ArgumentList dialect input rest arguments) :
    Carries input rest
      (content (", ".intercalate (Expression.canonicalList arguments)).toList) :=
  match derived with
  | .none opens closes =>
    (Carries.nothing.behindLayout closes (by decide)).behindLayout opens (by decide)
  | .some opens inner closes =>
    (inner.carries.beforeLayout closes (by decide)).behindLayout opens (by decide)

/-- Arguments carry their texts with the commas between them. -/
theorem Arguments.carries {input rest : List Token} {arguments : List Expression}
    (derived : Arguments dialect input rest arguments) :
    Carries input rest
      (content (", ".intercalate (Expression.canonicalList arguments)).toList) :=
  match derived with
  | .one inner => by
    rw [Expression.canonicalList, Expression.canonicalList, String.intercalate_singleton]
    exact inner.carries
  | .more first isComma others => by
    have separated := others.carries.behindDisplay isComma (by decide)
    have nonempty := Expression.canonicalList_ne_nil others.ne_nil
    rw [Expression.canonicalList, content_intercalate nonempty]
    exact first.carries.trans separated

/-- A statement carries its canonical text. -/
theorem StatementAt.carries {input rest : List Token} {statement : Statement}
    (derived : StatementAt dialect input rest statement) :
    Carries input rest (content statement.canonical.toList) :=
  match derived with
  | .letBinding isKeyword isName isAssign inner => by
    have value := inner.carries.behindDisplay isAssign (by decide)
    apply value.behindSpelling.behindSpelling.congr
    simp [Statement.canonical, Expression.canonicalOption, Identifier.ofToken, TokenKind.display,
      content_cons, isLayout, isBlank]
  | .returnValue isKeyword inner => by
    apply inner.carries.behindSpelling.congr
    simp [Statement.canonical, Expression.canonicalOption, content_cons, isLayout, isBlank]
  | .expression inner => inner.carries

/-- Statements carry their texts, and the semicolons between them are layout. -/
theorem StatementsAt.carries {input rest : List Token} {statements : List Statement}
    (derived : StatementsAt dialect input rest statements) :
    Carries input rest (content (String.join (Statement.canonicalList statements)).toList) :=
  match derived with
  | .none => .nothing
  | .terminated first terminates others => by
    rw [Statement.canonicalList, content_join]
    exact (first.carries.beforeLayout terminates (by decide)).trans others.carries
  | .separated first apart others => by
    rw [Statement.canonicalList, content_join]
    exact first.carries.trans others.carries

/-- A block carries its statements alone, whether or not it is closed. -/
theorem BlockAt.carries {input rest : List Token} {block : Block}
    (derived : BlockAt dialect input rest block) :
    Carries input rest (content block.canonical.toList) :=
  match derived with
  | .closed opens inner closes =>
    (inner.carries.beforeLayout closes (by decide)).behindLayout opens (by decide)
  | .unclosed lenient opens inner => inner.carries.behindLayout opens (by decide)

end

end Grammar

/-- A program without errors has canonical text with the content of its source. -/
theorem stripped_canonical_read_ofText (text : String)
    (clean : (Source.ofText text).read.2.errors = []) :
    stripped (Source.ofText text).read.1.canonical = stripped text := by
  have tokens : (Source.ofText text).tokens = Token.ofText text := Source.tokens_ofTokens _
  have wellFormed : ∀ token ∈ Token.ofText text, token.WellFormed := by
    intro token member
    rw [Token.ofText_eq] at member
    exact Token.wellFormed_of_mem_ofCharacters member
  have endFree : ∀ token ∈ (Source.ofText text).tokens, token.kind ≠ .endOfInput := by
    intro token member
    rw [tokens] at member
    exact (wellFormed token member).kind_ne_endOfInput
  have derives := Source.derives_of_errors_eq_nil endFree clean
  rw [tokens] at derives
  obtain ⟨-, same⟩ := derives.carries wellFormed
  rw [Token.ofText_eq, Token.contents_ofCharacters, Token.contents_nil, List.append_nil] at same
  rw [stripped, stripped, same]
  rfl

/-- The last block of this text ends with the input. -/
def unclosedText : String :=
  "let f = fn(x, y) \x7b x + y; \x7d; if (!a) \x7b f(1, -2 * (3 + b))"

/-- Even the text with an unclosed block keeps its content. -/
theorem stripped_canonical_read_unclosedText :
    (Source.ofText unclosedText).read.2.errors = [] ∧
      stripped (Source.ofText unclosedText).read.1.canonical = stripped unclosedText := by
  have clean : (Source.ofText unclosedText).read.2.errors = [] := by
    decide +kernel
  exact ⟨clean, stripped_canonical_read_ofText unclosedText clean⟩

end MonkeySyntax
