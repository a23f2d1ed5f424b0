import MonkeySyntax.Token.Lexing

/-!
This module says what it means to split a text into tokens, without splitting it.
-/

namespace MonkeySyntax

namespace Token

/-- A word is a letter with letters and digits behind it; the table of keywords decides its kind. -/
def IsWord (token : Token) : Prop :=
  ∃ letter rest, token.literal.toList = letter :: rest ∧ isLetter letter ∧
    (∀ character ∈ rest, isWordCharacter character) ∧ token.kind = .ofWord token.literal

/-- A number is a run of at least one digit. -/
def IsNumber (token : Token) : Prop :=
  token.literal ≠ "" ∧ (∀ character ∈ token.literal.toList, character.isDigit) ∧
    token.kind = .integer

/-- The kinds of operators, separators and brackets are shown as they are spelled. -/
def punctuation : List TokenKind :=
  [.assign, .equal, .bang, .notEqual, .plus, .minus, .asterisk, .slash, .less, .greater, .comma,
    .semicolon, .leftParenthesis, .rightParenthesis, .leftBrace, .rightBrace]

/-- An operator, a separator or a bracket is spelled as its kind is shown. -/
def IsPunctuation (token : Token) : Prop :=
  token.kind ∈ punctuation ∧ token.literal = token.kind.display

/-- Any other character than a blank is an illegal token. -/
def IsIllegal (token : Token) : Prop :=
  ∃ character, token.literal = String.singleton character ∧ token.kind = .illegal ∧
    ¬isBlank character ∧ ¬isLetter character ∧ ¬character.isDigit ∧
    ∀ kind ∈ punctuation, kind.display ≠ String.singleton character

/-- A token is well formed when it has the spelling and the kind of one of the four classes. -/
def WellFormed (token : Token) : Prop :=
  token.IsWord ∨ token.IsNumber ∨ token.IsPunctuation ∨ token.IsIllegal

/-- A token and a character directly behind it join when they make a longer token. -/
def Joins (token : Token) (character : Char) : Prop :=
  (token.IsWord ∧ isWordCharacter character) ∨ (token.IsNumber ∧ character.isDigit) ∨
    ((token.kind = .assign ∨ token.kind = .bang) ∧ character = '=')

end Token

/-- A text is split into tokens with blanks between them, each token as long as it can be. -/
inductive Tokenisation : List Char → List Token → Prop where
  | done : Tokenisation [] []
  | blank {character : Char} {text : List Char} {tokens : List Token}
      (isBlank : isBlank character) (rest : Tokenisation text tokens) :
      Tokenisation (character :: text) tokens
  | token {token : Token} {text : List Char} {tokens : List Token}
      (wellFormed : token.WellFormed)
      (maximal : ∀ character ∈ text.head?, ¬token.Joins character)
      (rest : Tokenisation text tokens) :
      Tokenisation (token.literal.toList ++ text) (token :: tokens)

end MonkeySyntax
