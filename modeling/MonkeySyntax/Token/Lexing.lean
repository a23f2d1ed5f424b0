import MonkeySyntax.Token

namespace MonkeySyntax

/-- The blanks are the space, the tab, the line feed, the form feed and the carriage return. -/
def isBlank (character : Char) : Bool :=
  character == ' ' || character == '\t' || character == '\n' || character == '\x0c' ||
    character == '\r'

/-- A word starts with an ASCII letter or an underscore. -/
def isLetter (character : Char) : Bool :=
  character.isAlpha || character == '_'

/-- A word goes on with letters and ASCII digits. -/
def isWordCharacter (character : Char) : Bool :=
  isLetter character || character.isDigit

/-- No letter stands in front of the capital ones. -/
theorem le_toNat_of_isAlpha {character : Char} (alpha : character.isAlpha) :
    'A'.toNat ≤ character.toNat := by
  rcases (Bool.or_eq_true _ _).mp alpha with upper | lower
  · exact (of_decide_eq_true upper).1
  · have bound := ((Bool.and_eq_true _ _).mp lower).1
    have above : 'a'.toNat ≤ character.toNat := of_decide_eq_true bound
    exact Nat.le_trans (by decide) above

/-- The digits stand in front of the letters and the underscore. -/
theorem isLetter_eq_false_of_isDigit {character : Char} (digit : character.isDigit) :
    isLetter character = false := by
  have below : character.toNat ≤ '9'.toNat := (Char.isDigit_iff_toNat.mp digit).2
  rw [isLetter, Bool.or_eq_false_iff, beq_eq_false_iff_ne]
  constructor
  · apply Bool.eq_false_iff.mpr
    intro alpha
    have above := le_toNat_of_isAlpha alpha
    exact absurd (Nat.le_trans above below) (by decide)
  · rintro rfl
    exact absurd below (by decide)

/-- A character outside words, numbers and two-character operators has one of these kinds. -/
def TokenKind.ofCharacter : Char → TokenKind
  | '=' => .assign
  | '!' => .bang
  | '+' => .plus
  | '-' => .minus
  | '*' => .asterisk
  | '/' => .slash
  | '<' => .less
  | '>' => .greater
  | ',' => .comma
  | ';' => .semicolon
  | '(' => .leftParenthesis
  | ')' => .rightParenthesis
  | '{' => .leftBrace
  | '}' => .rightBrace
  | _ => .illegal

namespace Token

def ofWord (word : List Char) : Token :=
  ⟨.ofWord (String.ofList word), String.ofList word⟩

def ofDigits (digits : List Char) : Token :=
  ⟨.integer, String.ofList digits⟩

def ofCharacter (character : Char) : Token :=
  ⟨.ofCharacter character, String.singleton character⟩

/-- The longest token that starts with the given character comes with the text behind it. A
character that starts no longer token is one of its own. -/
def first (character : Char) (rest : List Char) : Token × List Char :=
  if isLetter character then
    (ofWord (character :: rest.takeWhile isWordCharacter), rest.dropWhile isWordCharacter)
  else if character.isDigit then
    (ofDigits (character :: rest.takeWhile Char.isDigit), rest.dropWhile Char.isDigit)
  else
    match character, rest with
    | '=', '=' :: rest => (⟨.equal, "=="⟩, rest)
    | '!', '=' :: rest => (⟨.notEqual, "!="⟩, rest)
    | character, rest => (ofCharacter character, rest)

variable {character : Char} {rest text : List Char}

/-- A letter starts the longest word. -/
theorem first_of_isLetter (letter : isLetter character) :
    first character rest =
      (ofWord (character :: rest.takeWhile isWordCharacter), rest.dropWhile isWordCharacter) := by
  unfold first
  rw [if_pos letter]

/-- A digit starts the longest number. -/
theorem first_of_isDigit (digit : character.isDigit) :
    first character rest =
      (ofDigits (character :: rest.takeWhile Char.isDigit), rest.dropWhile Char.isDigit) := by
  unfold first
  rw [if_neg (by simp [isLetter_eq_false_of_isDigit digit]), if_pos digit]

/-- Outside words and numbers the first token has one character, or an equals sign joins it. -/
theorem first_of_single (notLetter : isLetter character = false)
    (notDigit : character.isDigit = false)
    (apart : character = '=' ∨ character = '!' → text.head? ≠ some '=') :
    first character text = (ofCharacter character, text) := by
  unfold first
  rw [if_neg (by simp [notLetter]), if_neg (by simp [notDigit])]
  split
  · exact absurd rfl (apart (.inl rfl))
  · exact absurd rfl (apart (.inr rfl))
  · rfl

/-- An equals sign behind the first one joins it. -/
theorem first_equal (rest : List Char) : first '=' ('=' :: rest) = (⟨.equal, "=="⟩, rest) := by
  simp [first, isLetter]

/-- An equals sign joins an exclamation mark as well. -/
theorem first_notEqual (rest : List Char) :
    first '!' ('=' :: rest) = (⟨.notEqual, "!="⟩, rest) := by
  simp [first, isLetter]

/-- What stands behind the first token is no longer than what stands behind its first character. -/
theorem length_first_le (character : Char) (rest : List Char) :
    (first character rest).2.length ≤ rest.length := by
  unfold first
  split
  · exact (List.dropWhile_sublist _).length_le
  · split
    · exact (List.dropWhile_sublist _).length_le
    · split <;> simp

/-- The tokens of a text come in the order in which they stand in it. -/
def ofCharacters : List Char → List Token
  | [] => []
  | character :: rest =>
    if isBlank character then
      ofCharacters rest
    else
      (first character rest).1 :: ofCharacters (first character rest).2
termination_by text => text.length
decreasing_by
  · simp
  · simpa [Nat.lt_succ_iff] using length_first_le character rest

/-- A blank is dropped. -/
theorem ofCharacters_of_isBlank (blank : isBlank character) :
    ofCharacters (character :: rest) = ofCharacters rest := by
  rw [ofCharacters, if_pos blank]

/-- Any other character starts a token. -/
theorem ofCharacters_of_not_isBlank (notBlank : isBlank character = false) :
    ofCharacters (character :: rest) =
      (first character rest).1 :: ofCharacters (first character rest).2 := by
  rw [ofCharacters, if_neg (by simp [notBlank])]

/-- So are all blanks in front of a token. -/
theorem ofCharacters_dropWhile (text : List Char) :
    ofCharacters (text.dropWhile isBlank) = ofCharacters text := by
  induction text with
  | nil => rfl
  | cons character rest inductionHypothesis =>
    rw [List.dropWhile_cons]
    split
    · next blank => rw [inductionHypothesis, ofCharacters_of_isBlank blank]
    · rfl

end Token

end MonkeySyntax
