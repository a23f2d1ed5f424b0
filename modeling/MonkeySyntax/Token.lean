namespace MonkeySyntax

/-- A kind says what a token is, whatever its spelling. -/
inductive TokenKind where
  | illegal
  | endOfInput
  | identifier
  | integer
  | assign
  | plus
  | minus
  | bang
  | asterisk
  | slash
  | less
  | greater
  | equal
  | notEqual
  | comma
  | semicolon
  | leftParenthesis
  | rightParenthesis
  | leftBrace
  | rightBrace
  | functionKeyword
  | letKeyword
  | trueKeyword
  | falseKeyword
  | ifKeyword
  | elseKeyword
  | returnKeyword
deriving DecidableEq

namespace TokenKind

/-- Messages show a kind by its spelling, or by a word where the spelling varies. -/
def display : TokenKind → String
  | illegal => "ILLEGAL"
  | endOfInput => "EOF"
  | identifier => "IDENT"
  | integer => "INT"
  | assign => "="
  | plus => "+"
  | minus => "-"
  | bang => "!"
  | asterisk => "*"
  | slash => "/"
  | less => "<"
  | greater => ">"
  | equal => "=="
  | notEqual => "!="
  | comma => ","
  | semicolon => ";"
  | leftParenthesis => "("
  | rightParenthesis => ")"
  | leftBrace => "\x7b"
  | rightBrace => "\x7d"
  | functionKeyword => "fn"
  | letKeyword => "let"
  | trueKeyword => "true"
  | falseKeyword => "false"
  | ifKeyword => "if"
  | elseKeyword => "else"
  | returnKeyword => "return"

/-- Outlines of trees show a kind by a name in capital letters. -/
def name : TokenKind → String
  | illegal => "ILLEGAL"
  | endOfInput => "EOF"
  | identifier => "IDENT"
  | integer => "INT"
  | assign => "ASSIGN"
  | plus => "PLUS"
  | minus => "MINUS"
  | bang => "BANG"
  | asterisk => "ASTERISK"
  | slash => "SLASH"
  | less => "LT"
  | greater => "GT"
  | equal => "EQ"
  | notEqual => "NEQ"
  | comma => "COMMA"
  | semicolon => "SEMICOLON"
  | leftParenthesis => "LPAREN"
  | rightParenthesis => "RPAREN"
  | leftBrace => "LBRACE"
  | rightBrace => "RBRACE"
  | functionKeyword => "FUNCTION"
  | letKeyword => "LET"
  | trueKeyword => "TRUE"
  | falseKeyword => "FALSE"
  | ifKeyword => "IF"
  | elseKeyword => "ELSE"
  | returnKeyword => "RETURN"

/-- The list holds every kind once. -/
def all : List TokenKind :=
  [illegal, endOfInput, identifier, integer, assign, plus, minus, bang, asterisk, slash, less,
    greater, equal, notEqual, comma, semicolon, leftParenthesis, rightParenthesis, leftBrace,
    rightBrace, functionKeyword, letKeyword, trueKeyword, falseKeyword, ifKeyword, elseKeyword,
    returnKeyword]

/-- No kind is left out. -/
theorem mem_all (kind : TokenKind) : kind ∈ all := by
  cases kind <;> decide

/-- A kind is found by its name. -/
def ofName? (text : String) : Option TokenKind :=
  all.find? fun kind => kind.name == text

/-- A kind is found by its name. -/
theorem ofName?_name (kind : TokenKind) : ofName? kind.name = some kind := by
  cases kind <;> decide

/-- The keywords are the words that cannot name anything. -/
def keywords : List (String × TokenKind) :=
  [("fn", functionKeyword), ("let", letKeyword), ("true", trueKeyword), ("false", falseKeyword),
    ("if", ifKeyword), ("else", elseKeyword), ("return", returnKeyword)]

/-- A word is a keyword or else an identifier. -/
def ofWord (word : String) : TokenKind :=
  (keywords.lookup word).getD identifier

end TokenKind

/-- A token is a kind together with its spelling in the text. -/
structure Token where
  kind : TokenKind
  literal : String
deriving DecidableEq

/-- This token stands for whatever lies behind the last token; it has no spelling. -/
def Token.endOfInput : Token :=
  ⟨.endOfInput, ""⟩

@[simp] theorem Token.kind_endOfInput : Token.endOfInput.kind = .endOfInput := rfl

end MonkeySyntax
