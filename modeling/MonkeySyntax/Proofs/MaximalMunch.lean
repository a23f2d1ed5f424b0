import Mathlib.Data.List.TakeWhile
import Mathlib.Tactic
import MonkeySyntax.Token.Tokenisation

namespace MonkeySyntax

/-- A run in front of a text that does not go on with it is taken as a whole. -/
theorem takeWhile_run {run text : List Char} {test : Char → Bool}
    (all : ∀ character ∈ run, test character) (stops : ∀ character ∈ text.head?, ¬test character) :
    (run ++ text).takeWhile test = run := by
  rw [List.takeWhile_append_of_pos all]
  cases text with
  | nil => simp
  | cons character rest => simp [stops character rfl]

/-- What is behind such a run is left. -/
theorem dropWhile_run {run text : List Char} {test : Char → Bool}
    (all : ∀ character ∈ run, test character) (stops : ∀ character ∈ text.head?, ¬test character) :
    (run ++ text).dropWhile test = text := by
  rw [List.dropWhile_append_of_pos all]
  cases text with
  | nil => simp
  | cons character rest => simp [stops character rfl]

/-- No letter is a blank. -/
theorem isBlank_eq_false_of_isLetter {character : Char} (letter : isLetter character) :
    isBlank character = false := by
  by_contra blank
  rw [Bool.not_eq_false] at blank
  simp only [isBlank, Bool.or_eq_true, beq_iff_eq] at blank
  rcases blank with (((rfl | rfl) | rfl) | rfl) | rfl <;> revert letter <;> decide

/-- No digit is a blank. -/
theorem isBlank_eq_false_of_isDigit {character : Char} (digit : character.isDigit) :
    isBlank character = false := by
  by_contra blank
  rw [Bool.not_eq_false] at blank
  simp only [isBlank, Bool.or_eq_true, beq_iff_eq] at blank
  rcases blank with (((rfl | rfl) | rfl) | rfl) | rfl <;> revert digit <;> decide

/-- Tokens of these kinds are spelled in more than one way. -/
def TokenKind.varied : List TokenKind :=
  [illegal, identifier, integer]

/-- A word is an identifier or stands in the table of keywords with its kind. -/
theorem TokenKind.ofWord_eq_or_mem (word : String) :
    ofWord word = .identifier ∨ (word, ofWord word) ∈ keywords := by
  unfold ofWord
  cases found : keywords.lookup word with
  | none => exact .inl rfl
  | some kind =>
    obtain ⟨before, behind, split, -⟩ := List.lookup_eq_some_iff.mp found
    have member : (word, kind) ∈ keywords := by simp [split]
    exact .inr member

/-- The kind of a keyword is shown as the keyword. -/
theorem TokenKind.display_ofWord {word : String} (keyword : ofWord word ≠ .identifier) :
    (ofWord word).display = word := by
  have spelled : ∀ entry ∈ keywords, entry.2.display = entry.1 := by decide
  exact spelled _ ((ofWord_eq_or_mem word).resolve_left keyword)

namespace Token

/-- These characters are operators, separators and brackets on their own. -/
def signs : List Char :=
  ['=', '!', '+', '-', '*', '/', '<', '>', ',', ';', '(', ')', '{', '}']

/-- A sign is neither a blank nor part of a word or a number, and it spells its kind. -/
theorem facts_of_mem_signs (sign : Char) (isSign : sign ∈ signs) :
    isBlank sign = false ∧ isLetter sign = false ∧ sign.isDigit = false ∧
      (TokenKind.ofCharacter sign).display = String.singleton sign ∧
        TokenKind.ofCharacter sign ∈ punctuation := by
  have all : signs.all fun sign => isBlank sign = false ∧ isLetter sign = false ∧
      sign.isDigit = false ∧ (TokenKind.ofCharacter sign).display = String.singleton sign ∧
        TokenKind.ofCharacter sign ∈ punctuation := by
    decide
  exact of_decide_eq_true (List.all_eq_true.mp all sign isSign)

/-- All operators, separators and brackets but two have one character. -/
theorem kind_of_mem_punctuation : ∀ kind ∈ punctuation,
    kind = .equal ∨ kind = .notEqual ∨ kind ∈ signs.map TokenKind.ofCharacter := by
  decide

/-- Any other character is illegal. -/
theorem ofCharacter_eq_illegal {character : Char} (noSign : character ∉ signs) :
    TokenKind.ofCharacter character = .illegal := by
  unfold TokenKind.ofCharacter
  split
  all_goals first
    | rfl
    | exact absurd (by decide) noSign

variable {character : Char} {rest text : List Char}

/-- The first token and what is behind it make up the text. -/
theorem toList_literal_first (character : Char) (rest : List Char) :
    (first character rest).1.literal.toList ++ (first character rest).2 = character :: rest := by
  unfold first
  split
  · simp [ofWord]
  · split
    · simp [ofDigits]
    · split
      · simp
      · simp
      · simp [ofCharacter]

/-- A word that does not go on is taken as a whole. -/
theorem IsWord.ofCharacters_append {token : Token} (word : token.IsWord)
    (maximal : ∀ character ∈ text.head?, ¬isWordCharacter character) :
    ofCharacters (token.literal.toList ++ text) = token :: ofCharacters text := by
  obtain ⟨letter, rest, spelled, isLetter, all, kind⟩ := word
  have same : ofWord (letter :: rest) = token := by
    rw [ofWord, ← spelled, String.ofList_toList, ← kind]
  rw [spelled, List.cons_append,
    ofCharacters_of_not_isBlank (isBlank_eq_false_of_isLetter isLetter),
    first_of_isLetter isLetter, takeWhile_run all maximal, dropWhile_run all maximal, same]

/-- A number that does not go on is taken as a whole. -/
theorem IsNumber.ofCharacters_append {token : Token} (number : token.IsNumber)
    (maximal : ∀ character ∈ text.head?, ¬character.isDigit) :
    ofCharacters (token.literal.toList ++ text) = token :: ofCharacters text := by
  obtain ⟨nonempty, all, kind⟩ := number
  cases spelled : token.literal.toList with
  | nil => exact absurd (String.toList_eq_nil_iff.mp spelled) nonempty
  | cons digit rest =>
    rw [spelled] at all
    have isDigit := all digit List.mem_cons_self
    have others : ∀ character ∈ rest, character.isDigit :=
      fun character member => all character (List.mem_cons_of_mem _ member)
    have same : ofDigits (digit :: rest) = token := by
      rw [ofDigits, ← spelled, String.ofList_toList, ← kind]
    rw [List.cons_append, ofCharacters_of_not_isBlank (isBlank_eq_false_of_isDigit isDigit),
      first_of_isDigit isDigit, takeWhile_run others maximal, dropWhile_run others maximal, same]

/-- An operator, a separator or a bracket is taken as a whole where no equals sign joins it. -/
theorem IsPunctuation.ofCharacters_append {token : Token} (isPunctuation : token.IsPunctuation)
    (maximal : token.kind = .assign ∨ token.kind = .bang → text.head? ≠ some '=') :
    ofCharacters (token.literal.toList ++ text) = token :: ofCharacters text := by
  obtain ⟨kind, literal⟩ := token
  obtain ⟨member, spelled⟩ := isPunctuation
  dsimp only at member spelled maximal ⊢
  subst spelled
  rcases kind_of_mem_punctuation kind member with rfl | rfl | single
  · simp [TokenKind.display, ofCharacters, isBlank, first, isLetter]
  · simp [TokenKind.display, ofCharacters, isBlank, first, isLetter]
  · obtain ⟨sign, isSign, rfl⟩ := List.mem_map.mp single
    obtain ⟨notBlank, notLetter, notDigit, shown, -⟩ := facts_of_mem_signs sign isSign
    have apart : sign = '=' ∨ sign = '!' → text.head? ≠ some '=' := by
      rintro (rfl | rfl)
      · exact maximal (.inl rfl)
      · exact maximal (.inr rfl)
    rw [shown, String.toList_singleton, List.singleton_append, ofCharacters_of_not_isBlank notBlank,
      first_of_single notLetter notDigit apart, ofCharacter]

/-- An illegal character is a token of its own. -/
theorem IsIllegal.ofCharacters_append {token : Token} (illegal : token.IsIllegal) :
    ofCharacters (token.literal.toList ++ text) = token :: ofCharacters text := by
  obtain ⟨kind, literal⟩ := token
  obtain ⟨character, spelled, kind, notBlank, notLetter, notDigit, foreign⟩ := illegal
  dsimp only at spelled kind
  subst spelled kind
  have noSign : character ∉ signs := by
    intro isSign
    obtain ⟨-, -, -, shown, member⟩ := facts_of_mem_signs character isSign
    exact foreign _ member shown
  have isIllegal := ofCharacter_eq_illegal noSign
  have apart : character = '=' ∨ character = '!' → text.head? ≠ some '=' := by
    rintro (rfl | rfl)
    · exact absurd (by decide) noSign
    · exact absurd (by decide) noSign
  rw [String.toList_singleton, List.singleton_append,
    ofCharacters_of_not_isBlank (by simpa using notBlank),
    first_of_single (by simpa using notLetter) (by simpa using notDigit) apart, ofCharacter,
    isIllegal]

/-- A well-formed token in front of a text is its first token when nothing joins it. -/
theorem WellFormed.ofCharacters_append {token : Token} (wellFormed : token.WellFormed)
    (maximal : ∀ character ∈ text.head?, ¬token.Joins character) :
    ofCharacters (token.literal.toList ++ text) = token :: ofCharacters text := by
  rcases wellFormed with word | number | isPunctuation | illegal
  · exact word.ofCharacters_append fun character member goesOn =>
      maximal character member (.inl ⟨word, goesOn⟩)
  · exact number.ofCharacters_append fun character member goesOn =>
      maximal character member (.inr (.inl ⟨number, goesOn⟩))
  · exact isPunctuation.ofCharacters_append fun kind follows =>
      maximal '=' follows (.inr (.inr ⟨kind, rfl⟩))
  · exact illegal.ofCharacters_append

/-- A single character that is no blank, letter or digit is a well-formed token. -/
theorem wellFormed_ofCharacter (notBlank : isBlank character = false)
    (notLetter : isLetter character = false) (notDigit : character.isDigit = false) :
    (ofCharacter character).WellFormed := by
  by_cases isSign : character ∈ signs
  · obtain ⟨-, -, -, shown, member⟩ := facts_of_mem_signs character isSign
    exact .inr (.inr (.inl ⟨member, shown.symm⟩))
  · have foreign : ∀ kind ∈ punctuation, kind.display ≠ String.singleton character := by
      intro kind member shown
      rcases kind_of_mem_punctuation kind member with rfl | rfl | single
      · have twoCharacters := congrArg String.toList shown
        simp [TokenKind.display] at twoCharacters
      · have twoCharacters := congrArg String.toList shown
        simp [TokenKind.display] at twoCharacters
      · obtain ⟨sign, signMember, rfl⟩ := List.mem_map.mp single
        obtain ⟨-, -, -, signShown, -⟩ := facts_of_mem_signs sign signMember
        have same : sign = character := by
          simpa using congrArg String.toList (signShown.symm.trans shown)
        exact isSign (same ▸ signMember)
    exact .inr (.inr (.inr ⟨character, rfl, ofCharacter_eq_illegal isSign, by simp [notBlank],
      by simp [notLetter], by simp [notDigit], foreign⟩))

/-- The first token of a text that starts with no blank is well formed. -/
theorem wellFormed_first (notBlank : isBlank character = false) :
    (first character rest).1.WellFormed := by
  by_cases letter : isLetter character
  · rw [first_of_isLetter letter]
    have others : ∀ other ∈ rest.takeWhile isWordCharacter, isWordCharacter other :=
      fun _ member => List.mem_takeWhile_imp member
    exact .inl ⟨character, _, by simp [ofWord], letter, others, rfl⟩
  by_cases digit : character.isDigit
  · rw [first_of_isDigit digit]
    have digits : ∀ other ∈ character :: rest.takeWhile Char.isDigit, other.isDigit := by
      intro other member
      rcases List.mem_cons.mp member with rfl | member
      · exact digit
      · exact List.mem_takeWhile_imp member
    exact .inr (.inl ⟨by simp [ofDigits], by simpa [ofDigits] using digits, rfl⟩)
  rw [Bool.not_eq_true] at letter digit
  unfold first
  rw [if_neg (by simp [letter]), if_neg (by simp [digit])]
  split
  · exact .inr (.inr (.inl ⟨show TokenKind.equal ∈ punctuation by decide, rfl⟩))
  · exact .inr (.inr (.inl ⟨show TokenKind.notEqual ∈ punctuation by decide, rfl⟩))
  · exact wellFormed_ofCharacter notBlank letter digit

/-- All tokens of a text are well formed. -/
theorem wellFormed_of_mem_ofCharacters {token : Token}
    (member : token ∈ ofCharacters text) : token.WellFormed := by
  induction text using ofCharacters.induct with
  | case1 => simp [ofCharacters] at member
  | case2 character rest blank inductionHypothesis =>
    rw [ofCharacters_of_isBlank blank] at member
    exact inductionHypothesis member
  | case3 character rest notBlank inductionHypothesis =>
    rw [Bool.not_eq_true] at notBlank
    rw [ofCharacters_of_not_isBlank notBlank, List.mem_cons] at member
    rcases member with rfl | member
    · exact wellFormed_first notBlank
    · exact inductionHypothesis member

/-- Only names, numbers and illegal tokens have spellings of their own. -/
theorem WellFormed.literal_eq_display {token : Token} (wellFormed : token.WellFormed)
    (fixed : token.kind ∉ TokenKind.varied) : token.literal = token.kind.display := by
  simp only [TokenKind.varied, List.mem_cons, List.not_mem_nil, or_false, not_or] at fixed
  obtain ⟨notIllegal, notIdentifier, notInteger⟩ := fixed
  rcases wellFormed with word | number | isPunctuation | illegal
  · obtain ⟨letter, rest, spelled, isLetter, all, kind⟩ := word
    rw [kind] at notIdentifier ⊢
    exact (TokenKind.display_ofWord notIdentifier).symm
  · exact absurd number.2.2 notInteger
  · exact isPunctuation.2
  · obtain ⟨character, spelled, kind, others⟩ := illegal
    exact absurd kind notIllegal

/-- No text spells the end of the input. -/
theorem WellFormed.kind_ne_endOfInput {token : Token} (wellFormed : token.WellFormed) :
    token.kind ≠ .endOfInput := by
  intro ends
  have spelled := wellFormed.literal_eq_display (by rw [ends]; decide)
  rw [ends] at spelled
  rcases wellFormed with word | number | isPunctuation | illegal
  · obtain ⟨letter, rest, shape, isLetter, all, kind⟩ := word
    rw [ends, spelled] at kind
    exact absurd kind (by decide)
  · exact absurd (ends.symm.trans number.2.2) (by decide)
  · exact absurd (ends ▸ isPunctuation.1) (by decide)
  · obtain ⟨character, shape, kind, others⟩ := illegal
    exact absurd (ends.symm.trans kind) (by decide)

end Token

end MonkeySyntax
