import MonkeySyntax.Text.Unprintable

namespace MonkeySyntax.Text

/-- A code point is written in hexadecimal digits, without leading zeros. -/
def codePoint (character : Char) : List Char :=
  ['\\', 'u', '{'] ++ Nat.toDigits 16 character.toNat ++ ['}']

/-- The quote, the backslash and a few controls have short forms; other unprintable characters are
written by their code points. -/
def escape (character : Char) : List Char :=
  match character with
  | '"' => ['\\', '"']
  | '\\' => ['\\', '\\']
  | '\n' => ['\\', 'n']
  | '\r' => ['\\', 'r']
  | '\t' => ['\\', 't']
  | '\x00' => ['\\', '0']
  | character => if isUnprintable character then codePoint character else [character]

/-- A quoted text has its characters escaped between two quotes. -/
def quoted (text : String) : String :=
  String.ofList (['"'] ++ text.toList.flatMap escape ++ ['"'])

end MonkeySyntax.Text
