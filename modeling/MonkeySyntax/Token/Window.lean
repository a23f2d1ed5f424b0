import MonkeySyntax.Token.Lexing

namespace MonkeySyntax

/-- A window on a text holds the current character, the one behind it and all that come later. -/
structure Window where
  current : Option Char
  peek : Option Char
  rest : List Char

namespace Window

/-- The character behind the current one becomes the current one. -/
def readCharacter (window : Window) : Window :=
  ⟨window.peek, window.rest.head?, window.rest.tail⟩

/-- An empty window reads the first two characters of a text. -/
def start (text : List Char) : Window :=
  (⟨none, none, text⟩ : Window).readCharacter.readCharacter

/-- The characters in a window and behind it are still to be read. -/
def size (window : Window) : Nat :=
  window.current.toList.length + window.peek.toList.length + window.rest.length

/-- Reading takes the current character away, if there is one. -/
theorem size_readCharacter (window : Window) :
    window.current.toList.length + window.readCharacter.size = window.size := by
  have split : window.rest.head?.toList.length + window.rest.tail.length = window.rest.length := by
    cases window.rest with
    | nil => rfl
    | cons first others => exact Nat.add_comm 1 others.length
  rw [size, size, ← split]
  simp only [readCharacter, Nat.add_assoc]

/-- Reading never makes more characters. -/
theorem size_readCharacter_le (window : Window) : window.readCharacter.size ≤ window.size :=
  Nat.le_of_add_left_le (Nat.le_of_eq window.size_readCharacter)

/-- Reading a character leaves fewer of them. -/
theorem size_readCharacter_lt {window : Window} {character : Char}
    (present : window.current = some character) : window.readCharacter.size < window.size := by
  have counted := window.size_readCharacter
  rw [present, Nat.add_comm] at counted
  exact Nat.lt_of_succ_le (Nat.le_of_eq counted)

/-- Blanks in front of a token are passed over. -/
def skipBlanks (window : Window) : Window :=
  if blank : window.current.any isBlank then
    have : window.readCharacter.size < window.size := by
      obtain ⟨character, present, -⟩ := (Option.any_eq_true _ _).mp blank
      exact size_readCharacter_lt present
    window.readCharacter.skipBlanks
  else
    window
termination_by window.size

/-- Characters are collected as long as they continue the token. -/
def readWhile (continues : Char → Bool) (text : String) (window : Window) : String × Window :=
  match found : window.current.filter continues with
  | some character =>
    have : window.readCharacter.size < window.size :=
      size_readCharacter_lt (Option.filter_eq_some_iff.mp found).1
    readWhile continues (text.push character) window.readCharacter
  | none => (text, window)
termination_by window.size

/-- The first character of an operator is read, and an equals sign behind it belongs to it. -/
def either (first : Char) (one two : TokenKind) (window : Window) : Token × Window :=
  if window.readCharacter.current = some '=' then
    (⟨two, (String.singleton first).push '='⟩, window.readCharacter.readCharacter)
  else
    (⟨one, String.singleton first⟩, window.readCharacter)

/-- The token that starts with the current character is as long as it can be. -/
def readToken (character : Char) (window : Window) : Token × Window :=
  if character = '=' then
    window.either character .assign .equal
  else if character = '!' then
    window.either character .bang .notEqual
  else if isLetter character then
    (window.readWhile isWordCharacter "").map (fun word => ⟨.ofWord word, word⟩) id
  else if character.isDigit then
    (window.readWhile Char.isDigit "").map (fun digits => ⟨.integer, digits⟩) id
  else
    (Token.ofCharacter character, window.readCharacter)

/-- The current character, if there is one, starts a token. -/
def readToken? (window : Window) : Option Token × Window :=
  match window.current with
  | none => (none, window)
  | some character => (window.readToken character).map some id

/-- The next token stands behind the blanks. -/
def next (window : Window) : Option Token × Window :=
  window.skipBlanks.readToken?

/-- Passing over blanks never makes more characters. -/
theorem size_skipBlanks_le (window : Window) : window.skipBlanks.size ≤ window.size := by
  induction window using skipBlanks.induct with
  | case1 window blank _ inductionHypothesis =>
    rw [skipBlanks, dif_pos blank]
    exact Nat.le_trans inductionHypothesis window.size_readCharacter_le
  | case2 window stops => exact Nat.le_of_eq (by rw [skipBlanks, dif_neg stops])

/-- Nor does collecting them. -/
theorem size_readWhile_le (continues : Char → Bool) (text : String) (window : Window) :
    (window.readWhile continues text).2.size ≤ window.size := by
  fun_induction readWhile continues text window with
  | case1 text window character found _ inductionHypothesis =>
    exact Nat.le_trans inductionHypothesis window.size_readCharacter_le
  | case2 text window stops => exact Nat.le_refl _

/-- Collecting at least the current character leaves fewer of them. -/
theorem size_readWhile_lt {continues : Char → Bool} {window : Window} {character : Char}
    (present : window.current = some character) (fits : continues character) (text : String) :
    (window.readWhile continues text).2.size < window.size := by
  have found : window.current.filter continues = some character :=
    Option.filter_eq_some_iff.mpr ⟨present, fits⟩
  rw [readWhile]
  split
  · exact Nat.lt_of_le_of_lt (size_readWhile_le _ _ _) (size_readCharacter_lt present)
  · next missing => rw [found] at missing; cases missing

/-- An operator takes its first character away. -/
theorem size_either_lt {window : Window} {character : Char}
    (present : window.current = some character) (first : Char) (one two : TokenKind) :
    (window.either first one two).2.size < window.size := by
  have smaller := size_readCharacter_lt present
  unfold either
  split
  · exact Nat.lt_of_le_of_lt (size_readCharacter_le _) smaller
  · exact smaller

/-- So does every token. -/
theorem size_readToken_lt {window : Window} {character : Char}
    (present : window.current = some character) :
    (window.readToken character).2.size < window.size := by
  unfold readToken
  split
  · exact size_either_lt present _ _ _
  · split
    · exact size_either_lt present _ _ _
    · split
      · next isLetter =>
        have continues : isWordCharacter character := by simp [isWordCharacter, isLetter]
        exact size_readWhile_lt present continues ""
      · split
        · next isDigit => exact size_readWhile_lt present isDigit ""
        · exact size_readCharacter_lt present

/-- A token that is there leaves fewer characters. -/
theorem size_next_lt {window : Window} {token : Token} (given : window.next.1 = some token) :
    window.next.2.size < window.size := by
  rw [next, readToken?] at given ⊢
  cases present : window.skipBlanks.current with
  | none => rw [present] at given; cases given
  | some character =>
    exact Nat.lt_of_lt_of_le (size_readToken_lt present) window.size_skipBlanks_le

/-- The tokens of a window are given one by one up to the end of the text. -/
def tokens (window : Window) : List Token :=
  match given : window.next.1 with
  | none => []
  | some token =>
    have := size_next_lt given
    token :: window.next.2.tokens
termination_by window.size

/-- A window shows a text when it holds the first two characters and those behind them. -/
structure Shows (window : Window) (text : List Char) : Prop where
  current_eq : window.current = text.head?
  peek_eq : window.peek = text.tail.head?
  rest_eq : window.rest = text.tail.tail

/-- A window starts with the whole text. -/
theorem shows_start (text : List Char) : (start text).Shows text :=
  ⟨rfl, rfl, rfl⟩

namespace Shows

variable {window : Window} {text : List Char}

/-- The text without its first character is shown once that has been read. -/
theorem readCharacter (shows : window.Shows text) : window.readCharacter.Shows text.tail := by
  refine ⟨shows.peek_eq, ?_, ?_⟩
  · exact congrArg List.head? shows.rest_eq
  · exact congrArg List.tail shows.rest_eq

/-- The text without the blanks in front of it is shown behind them. -/
theorem skipBlanks (shows : window.Shows text) :
    window.skipBlanks.Shows (text.dropWhile isBlank) := by
  induction text generalizing window with
  | nil =>
    rw [Window.skipBlanks, dif_neg (by simp [shows.current_eq])]
    exact shows
  | cons character others inductionHypothesis =>
    have current : window.current.any isBlank = isBlank character := by
      rw [shows.current_eq, List.head?_cons, Option.any_some]
    rw [Window.skipBlanks, List.dropWhile_cons]
    split
    · next blank =>
      rw [if_pos (current ▸ blank)]
      exact inductionHypothesis shows.readCharacter
    · next stops =>
      rw [if_neg (current ▸ stops)]
      exact shows

/-- The longest run of fitting characters is collected behind the text so far. -/
theorem readWhile (shows : window.Shows text) (continues : Char → Bool) (before : String) :
    (window.readWhile continues before).1 = before ++ String.ofList (text.takeWhile continues) ∧
      (window.readWhile continues before).2.Shows (text.dropWhile continues) := by
  induction text generalizing window before with
  | nil =>
    have stops : window.current.filter continues = none := by simp [shows.current_eq]
    rw [Window.readWhile]
    split
    · next found => rw [stops] at found; cases found
    · exact ⟨by simp, shows⟩
  | cons character others inductionHypothesis =>
    rw [Window.readWhile, List.takeWhile_cons, List.dropWhile_cons]
    split
    · next other found =>
      rw [Option.filter_eq_some_iff, shows.current_eq, List.head?_cons, Option.some_inj] at found
      obtain ⟨rfl, fits⟩ := found
      obtain ⟨collected, behind⟩ := inductionHypothesis shows.readCharacter (before.push character)
      rw [if_pos fits, if_pos fits]
      exact ⟨by rw [collected]; simp [← String.toList_inj], behind⟩
    · next stops =>
      have ends : ¬continues character := by
        simpa [shows.current_eq, Option.filter_eq_none_iff] using stops
      rw [if_neg ends, if_neg ends]
      exact ⟨by simp, shows⟩

/-- An operator takes in an equals sign behind it, if the first token of the text does. -/
theorem either {first : Char} {others : List Char} {one two : TokenKind}
    (shows : window.Shows (first :: others))
    (joined : ∀ behind, Token.first first ('=' :: behind) =
      (⟨two, (String.singleton first).push '='⟩, behind))
    (alone : others.head? ≠ some '=' →
      Token.first first others = (⟨one, String.singleton first⟩, others)) :
    (window.either first one two).1 = (Token.first first others).1 ∧
      (window.either first one two).2.Shows (Token.first first others).2 := by
  have behind := shows.readCharacter
  rw [List.tail_cons] at behind
  by_cases equals : others.head? = some '='
  · obtain ⟨later, rfl⟩ := List.head?_eq_some_iff.mp equals
    have joins : window.readCharacter.current = some '=' := behind.current_eq
    rw [Window.either, if_pos joins, joined]
    exact ⟨rfl, behind.readCharacter⟩
  · rw [Window.either, if_neg (behind.current_eq ▸ equals), alone equals]
    exact ⟨rfl, behind⟩

/-- The token read is the first one of the text, and what is behind it is shown next. -/
theorem readToken {character : Char} {others : List Char}
    (shows : window.Shows (character :: others)) :
    (window.readToken character).1 = (Token.first character others).1 ∧
      (window.readToken character).2.Shows (Token.first character others).2 := by
  unfold Window.readToken
  split
  · next isEquals =>
    subst isEquals
    exact shows.either Token.first_equal fun apart =>
      Token.first_of_single (by decide) (by decide) fun _ => apart
  split
  · next isBang =>
    subst isBang
    exact shows.either Token.first_notEqual fun apart =>
      Token.first_of_single (by decide) (by decide) fun _ => apart
  next notEquals notBang =>
  split
  · next letter =>
    have continues : isWordCharacter character := by simp [isWordCharacter, letter]
    obtain ⟨collected, behind⟩ := shows.readWhile isWordCharacter ""
    rw [List.takeWhile_cons, if_pos continues, String.empty_append] at collected
    rw [List.dropWhile_cons, if_pos continues] at behind
    rw [Token.first_of_isLetter letter]
    exact ⟨by simp [collected, Token.ofWord], behind⟩
  next notLetter =>
  split
  · next digit =>
    obtain ⟨collected, behind⟩ := shows.readWhile Char.isDigit ""
    rw [List.takeWhile_cons, if_pos digit, String.empty_append] at collected
    rw [List.dropWhile_cons, if_pos digit] at behind
    rw [Token.first_of_isDigit digit]
    exact ⟨by simp [collected, Token.ofDigits], behind⟩
  next notDigit =>
  have single : Token.first character others = (Token.ofCharacter character, others) :=
    Token.first_of_single (by simpa using notLetter) (by simpa using notDigit)
      fun isOperator => absurd isOperator (by simp [notEquals, notBang])
  rw [single]
  exact ⟨rfl, shows.readCharacter⟩

/-- Where only blanks are left there is no token. -/
theorem next_of_nil (shows : window.Shows text) (blank : text.dropWhile isBlank = []) :
    window.next.1 = none := by
  have behind := shows.skipBlanks
  rw [blank] at behind
  rw [Window.next, Window.readToken?, behind.current_eq, List.head?_nil]

/-- The next token is the first one behind the blanks. -/
theorem next_of_cons {character : Char} {others : List Char} (shows : window.Shows text)
    (starts : text.dropWhile isBlank = character :: others) :
    window.next.1 = some (Token.first character others).1 ∧
      window.next.2.Shows (Token.first character others).2 := by
  have behind := shows.skipBlanks
  rw [starts] at behind
  obtain ⟨token, later⟩ := behind.readToken
  rw [Window.next, Window.readToken?, behind.current_eq, List.head?_cons]
  exact ⟨congrArg some token, later⟩

/-- The tokens of a window are those of the text that it shows. -/
theorem tokens_eq (shows : window.Shows text) : window.tokens = Token.ofCharacters text := by
  rw [← Token.ofCharacters_dropWhile]
  fun_induction Window.tokens window generalizing text with
  | case1 window ended =>
    cases starts : text.dropWhile isBlank with
    | nil => rw [Token.ofCharacters]
    | cons character others =>
      rw [(shows.next_of_cons starts).1] at ended
      cases ended
  | case2 window token given _ inductionHypothesis =>
    cases starts : text.dropWhile isBlank with
    | nil =>
      rw [shows.next_of_nil starts] at given
      cases given
    | cons character others =>
      obtain ⟨isFirst, behind⟩ := shows.next_of_cons starts
      have notBlank := List.head?_dropWhile_not isBlank text
      rw [starts] at notBlank
      rw [Token.ofCharacters_of_not_isBlank notBlank, inductionHypothesis behind,
        Token.ofCharacters_dropWhile, Option.some.inj (given.symm.trans isFirst)]

end Shows

end Window

namespace Token

/-- The tokens of a string are given by a window on its characters. -/
def ofText (text : String) : List Token :=
  (Window.start text.toList).tokens

/-- The tokens of a string are those of its characters, as the longest match splits them. -/
theorem ofText_eq (text : String) : ofText text = ofCharacters text.toList :=
  (Window.shows_start text.toList).tokens_eq

end Token

end MonkeySyntax
