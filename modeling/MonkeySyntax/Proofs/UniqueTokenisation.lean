import MonkeySyntax.Proofs.MaximalMunch
import MonkeySyntax.Source

namespace MonkeySyntax

/-- A run ends where the text does not go on with it. -/
theorem not_mem_head?_dropWhile (test : Char → Bool) (text : List Char) :
    ∀ character ∈ (text.dropWhile test).head?, ¬test character := by
  intro character follows
  have stops := List.head?_dropWhile_not test text
  rw [Option.mem_def.mp follows] at stops
  simp [stops]

/-- A word goes on with digits. -/
theorem isWordCharacter_of_isDigit {character : Char} (digit : character.isDigit) :
    isWordCharacter character := by
  simp [isWordCharacter, digit]

/-- A word is of no other kind than those of identifiers and keywords. -/
theorem TokenKind.ofWord_ne {kind : TokenKind} (noIdentifier : kind ≠ .identifier)
    (noKeyword : ∀ entry ∈ keywords, entry.2 ≠ kind) (word : String) : ofWord word ≠ kind := by
  rcases ofWord_eq_or_mem word with isIdentifier | isKeyword
  · rw [isIdentifier]
    exact noIdentifier.symm
  · exact noKeyword _ isKeyword

/-- Of the single characters only these two can start a longer operator. -/
theorem TokenKind.eq_of_ofCharacter {character : Char}
    (isKind : ofCharacter character = .assign ∨ ofCharacter character = .bang) :
    character = '=' ∨ character = '!' := by
  unfold ofCharacter at isKind
  split at isKind
  case h_1 => exact .inl rfl
  case h_2 => exact .inr rfl
  all_goals rcases isKind with assigns | negates
  all_goals contradiction

namespace Token

variable {token : Token} {character next : Char} {rest : List Char}

/-- A word starts with a letter. -/
theorem IsWord.isLetter_head (word : token.IsWord)
    (spelled : token.literal.toList = character :: rest) : isLetter character := by
  obtain ⟨letter, others, shape, isLetter, -, -⟩ := word
  rw [spelled, List.cons.injEq] at shape
  rw [shape.1]
  exact isLetter

/-- A number starts with a digit. -/
theorem IsNumber.isDigit_head (number : token.IsNumber)
    (spelled : token.literal.toList = character :: rest) : character.isDigit := by
  apply number.2.1
  rw [spelled]
  exact List.mem_cons_self

/-- A word is joined by what a word goes on with, and by nothing else. -/
theorem not_joins_ofWord (word : List Char) (stops : ¬isWordCharacter next) :
    ¬(ofWord word).Joins next := by
  rintro (⟨-, goesOn⟩ | ⟨-, digit⟩ | ⟨kind, -⟩)
  · exact stops goesOn
  · exact stops (isWordCharacter_of_isDigit digit)
  · rcases kind with assigns | negates
    · exact TokenKind.ofWord_ne (by decide) (by decide) _ assigns
    · exact TokenKind.ofWord_ne (by decide) (by decide) _ negates

/-- A number is joined by digits alone. -/
theorem not_joins_ofDigits (digit : character.isDigit) (stops : ¬next.isDigit) :
    ¬(ofDigits (character :: rest)).Joins next := by
  rintro (⟨word, -⟩ | ⟨-, goesOn⟩ | ⟨kind, -⟩)
  · have letter := word.isLetter_head (String.toList_ofList (l := character :: rest))
    rw [isLetter_eq_false_of_isDigit digit] at letter
    cases letter
  · exact stops goesOn
  · rcases kind with assigns | negates
    · cases assigns
    · cases negates

/-- A token that starts with no letter and no digit is joined by an equals sign alone. -/
theorem not_joins_of_head (spelled : token.literal.toList = character :: rest)
    (notLetter : ¬isLetter character) (notDigit : ¬character.isDigit)
    (apart : token.kind = .assign ∨ token.kind = .bang → next ≠ '=') : ¬token.Joins next := by
  rintro (⟨word, -⟩ | ⟨number, -⟩ | ⟨kind, follows⟩)
  · exact notLetter (word.isLetter_head spelled)
  · exact notDigit (number.isDigit_head spelled)
  · exact apart kind follows

/-- Nothing behind the first token of a text joins it. -/
theorem not_joins_first (character : Char) (rest : List Char) :
    ∀ next ∈ (first character rest).2.head?, ¬(first character rest).1.Joins next := by
  intro next follows
  by_cases letter : isLetter character
  · rw [first_of_isLetter letter] at follows ⊢
    exact not_joins_ofWord _ (not_mem_head?_dropWhile _ _ next follows)
  by_cases digit : character.isDigit
  · rw [first_of_isDigit digit] at follows ⊢
    exact not_joins_ofDigits digit (not_mem_head?_dropWhile _ _ next follows)
  by_cases apart : character = '=' ∨ character = '!' → rest.head? ≠ some '='
  · rw [first_of_single (by simpa using letter) (by simpa using digit) apart] at follows ⊢
    have spelled : (ofCharacter character).literal.toList = [character] :=
      String.toList_singleton character
    dsimp only at follows ⊢
    apply not_joins_of_head spelled letter digit
    rintro isKind rfl
    exact apart (TokenKind.eq_of_ofCharacter isKind) follows
  · -- The equals sign behind the character is part of the token, and no token is longer than that.
    push Not at apart
    obtain ⟨isSign, equals⟩ := apart
    obtain ⟨behind, rfl⟩ := List.head?_eq_some_iff.mp equals
    rcases isSign with rfl | rfl
    · have spelled : "==".toList = ['=', '='] := by simp
      rw [first_equal]
      exact not_joins_of_head spelled letter digit (by simp)
    · have spelled : "!=".toList = ['!', '='] := by simp
      rw [first_notEqual]
      exact not_joins_of_head spelled letter digit (by simp)

end Token

/-- The tokens of a text are a tokenisation of it. -/
theorem tokenisation_ofCharacters (text : List Char) :
    Tokenisation text (Token.ofCharacters text) := by
  induction text using Token.ofCharacters.induct with
  | case1 =>
    rw [Token.ofCharacters]
    exact .done
  | case2 character rest blank inductionHypothesis =>
    rw [Token.ofCharacters_of_isBlank blank]
    exact .blank blank inductionHypothesis
  | case3 character rest notBlank inductionHypothesis =>
    rw [Bool.not_eq_true] at notBlank
    rw [Token.ofCharacters_of_not_isBlank notBlank]
    have tokenisation := Tokenisation.token (Token.wellFormed_first notBlank)
      (Token.not_joins_first character rest) inductionHypothesis
    rwa [Token.toList_literal_first] at tokenisation

/-- Every tokenisation of a text has the tokens of that text. -/
theorem Tokenisation.eq_ofCharacters {text : List Char} {tokens : List Token}
    (tokenisation : Tokenisation text tokens) : tokens = Token.ofCharacters text := by
  induction tokenisation with
  | done => rw [Token.ofCharacters]
  | blank isBlank _ inductionHypothesis =>
    rw [Token.ofCharacters_of_isBlank isBlank, inductionHypothesis]
  | token wellFormed maximal _ inductionHypothesis =>
    rw [wellFormed.ofCharacters_append maximal, inductionHypothesis]

/-- The tokens of a text are the one list of well-formed tokens that makes up the text with blanks
between them and leaves no token that could have been longer. The end of the input is none of
them. -/
theorem tokenisation_iff_eq_ofText (text : String) (tokens : List Token) :
    (Tokenisation text.toList tokens ↔ tokens = (Source.ofText text).tokens) ∧
      .endOfInput ∉ (Source.ofText text).tokens.map Token.kind := by
  rw [Source.ofText, Source.tokens_ofTokens, Token.ofText_eq]
  constructor
  · constructor
    · exact Tokenisation.eq_ofCharacters
    · rintro rfl
      exact tokenisation_ofCharacters _
  · intro isKind
    obtain ⟨token, member, ends⟩ := List.mem_map.mp isKind
    exact (Token.wellFormed_of_mem_ofCharacters member).kind_ne_endOfInput ends

/-- Equals signs are taken two at a time, and the third one is left over. -/
example : (Source.ofText "===").tokens = [⟨.equal, "=="⟩, ⟨.assign, "="⟩] := by
  decide +kernel

end MonkeySyntax
