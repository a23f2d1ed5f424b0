import MonkeySyntax.Proofs.UniqueTokenisation

namespace MonkeySyntax

/-- A text ends in its last token when no blank stands behind that token. -/
def Token.Ends (token : Token) (text : List Char) : Prop :=
  token ∈ (Token.ofCharacters text).getLast? ∧ ∀ character ∈ text.getLast?, ¬isBlank character

/-- A character joins a word that it goes on with, a number if it is a digit, and a single sign that
an equals sign makes into another one. -/
def TokenKind.Joins (kind : TokenKind) (character : Char) : Prop :=
  ((kind = .identifier ∨ kind ∈ keywords.map Prod.snd) ∧ isWordCharacter character) ∨
    (kind = .integer ∧ character.isDigit) ∨ ((kind = .assign ∨ kind = .bang) ∧ character = '=')

/-- A text runs into another one when the token in which it ends joins the first character there. -/
def RunsInto (text following : List Char) : Prop :=
  ∃ token, Token.Ends token text ∧ ∃ character ∈ following.head?, token.kind.Joins character

/-- No blank goes on with a word. -/
theorem isBlank_eq_false_of_isWordCharacter {character : Char}
    (goesOn : isWordCharacter character) : isBlank character = false := by
  rcases (Bool.or_eq_true _ _).mp goesOn with letter | digit
  · exact isBlank_eq_false_of_isLetter letter
  · exact isBlank_eq_false_of_isDigit digit

namespace Token

variable {token other : Token} {text more : List Char} {character : Char}

/-- Of the well-formed tokens words alone are identifiers and keywords. -/
theorem WellFormed.isWord_iff (wellFormed : token.WellFormed) :
    token.IsWord ↔ token.kind = .identifier ∨ token.kind ∈ TokenKind.keywords.map Prod.snd := by
  constructor
  · rintro ⟨letter, rest, spelled, isLetter, all, kind⟩
    rw [kind]
    exact (TokenKind.ofWord_eq_or_mem token.literal).imp_right
      fun isKeyword => List.mem_map.mpr ⟨_, isKeyword, rfl⟩
  · intro isKind
    rcases wellFormed with word | number | isPunctuation | illegal
    · exact word
    · rw [number.2.2] at isKind
      exact absurd isKind (by decide)
    · have others : ∀ kind ∈ punctuation,
          ¬(kind = .identifier ∨ kind ∈ TokenKind.keywords.map Prod.snd) := by decide
      exact absurd isKind (others _ isPunctuation.1)
    · obtain ⟨character, spelled, kind, -⟩ := illegal
      rw [kind] at isKind
      exact absurd isKind (by decide)

/-- Of the well-formed tokens numbers alone are integers. -/
theorem WellFormed.isNumber_iff (wellFormed : token.WellFormed) :
    token.IsNumber ↔ token.kind = .integer := by
  constructor
  · exact fun number => number.2.2
  · intro isInteger
    rcases wellFormed with word | number | isPunctuation | illegal
    · obtain ⟨letter, rest, spelled, isLetter, all, kind⟩ := word
      have other : TokenKind.ofWord token.literal ≠ .integer :=
        TokenKind.ofWord_ne (by decide) (by decide) _
      exact absurd (kind.symm.trans isInteger) other
    · exact number
    · exact absurd (isInteger ▸ isPunctuation.1) (by decide)
    · obtain ⟨character, spelled, kind, -⟩ := illegal
      exact absurd (isInteger.symm.trans kind) (by decide)

/-- What joins a well-formed token is decided by its kind. -/
theorem WellFormed.joins_iff (wellFormed : token.WellFormed) :
    token.Joins character ↔ token.kind.Joins character := by
  rw [Joins, TokenKind.Joins, wellFormed.isWord_iff, wellFormed.isNumber_iff]

/-- No well-formed token is empty. -/
theorem WellFormed.toList_ne_nil (wellFormed : token.WellFormed) : token.literal.toList ≠ [] := by
  rcases wellFormed with word | number | isPunctuation | illegal
  · obtain ⟨letter, rest, spelled, -⟩ := word
    rw [spelled]
    exact List.cons_ne_nil _ _
  · exact mt String.toList_eq_nil_iff.mp number.1
  · have shown : ∀ kind ∈ punctuation, kind.display.toList ≠ [] := by decide
    rw [isPunctuation.2]
    exact shown _ isPunctuation.1
  · obtain ⟨character, spelled, -⟩ := illegal
    rw [spelled, String.toList_singleton]
    exact List.cons_ne_nil _ _

/-- No well-formed token has a blank in it. -/
theorem WellFormed.isBlank_eq_false (wellFormed : token.WellFormed)
    (member : character ∈ token.literal.toList) : isBlank character = false := by
  rcases wellFormed with word | number | isPunctuation | illegal
  · obtain ⟨letter, rest, spelled, isLetter, all, -⟩ := word
    rw [spelled] at member
    rcases List.mem_cons.mp member with rfl | behind
    · exact isBlank_eq_false_of_isLetter isLetter
    · exact isBlank_eq_false_of_isWordCharacter (all _ behind)
  · exact isBlank_eq_false_of_isDigit (number.2.1 _ member)
  · have shown : ∀ kind ∈ punctuation, kind.display.toList.all fun character =>
        !isBlank character := by decide
    rw [isPunctuation.2] at member
    simpa using List.all_eq_true.mp (shown _ isPunctuation.1) _ member
  · obtain ⟨single, spelled, -, notBlank, -⟩ := illegal
    rw [spelled, String.toList_singleton, List.mem_singleton] at member
    rw [member, ← Bool.not_eq_true]
    exact notBlank

/-- A well-formed token is the first token of a text that starts with it exactly when nothing
behind it joins it. -/
theorem WellFormed.ofCharacters_append_iff (wellFormed : token.WellFormed) :
    ofCharacters (token.literal.toList ++ text) = token :: ofCharacters text ↔
      ∀ character ∈ text.head?, ¬token.Joins character := by
  constructor
  · intro split
    cases spelled : token.literal.toList with
    | nil => exact absurd spelled wellFormed.toList_ne_nil
    | cons start rest =>
      have notBlank : isBlank start = false :=
        wellFormed.isBlank_eq_false (spelled ▸ List.mem_cons_self)
      rw [spelled, List.cons_append, ofCharacters_of_not_isBlank notBlank, List.cons.injEq] at split
      have whole := toList_literal_first start (rest ++ text)
      rw [split.1, spelled, List.cons_append, List.cons.injEq] at whole
      have behind : (first start (rest ++ text)).2 = text := List.append_cancel_left whole.2
      have apart := not_joins_first start (rest ++ text)
      rw [split.1, behind] at apart
      exact apart
  · exact wellFormed.ofCharacters_append

/-- A text without tokens is blank. -/
theorem isBlank_of_ofCharacters_eq_nil (none : ofCharacters text = []) :
    ∀ character ∈ text, isBlank character := by
  induction text using ofCharacters.induct with
  | case1 => simp
  | case2 start rest blank inductionHypothesis =>
    rw [ofCharacters_of_isBlank blank] at none
    exact List.forall_mem_cons.mpr ⟨blank, inductionHypothesis none⟩
  | case3 start rest notBlank _ =>
    rw [Bool.not_eq_true] at notBlank
    rw [ofCharacters_of_not_isBlank notBlank] at none
    cases none

/-- No token ends a text without characters. -/
theorem not_ends_nil : ¬token.Ends [] := by
  rintro ⟨isLast, -⟩
  simp [ofCharacters] at isLast

/-- A blank in front of a text does not change how the text ends. -/
theorem ends_cons_of_isBlank (blank : isBlank character) :
    token.Ends (character :: text) ↔ token.Ends text := by
  cases text with
  | nil =>
    simp only [Ends, ofCharacters_of_isBlank blank]
    simp [ofCharacters]
  | cons start rest =>
    simp only [Ends, ofCharacters_of_isBlank blank, List.getLast?_cons_cons]

/-- A token by itself is a text of one token. -/
theorem WellFormed.ofCharacters_literal (wellFormed : token.WellFormed) :
    ofCharacters token.literal.toList = [token] := by
  have maximal : ∀ character ∈ ([] : List Char).head?, ¬token.Joins character := by simp
  have split := wellFormed.ofCharacters_append maximal
  rwa [List.append_nil, ofCharacters] at split

/-- A token by itself ends in itself. -/
theorem WellFormed.ends_iff (wellFormed : token.WellFormed) :
    other.Ends token.literal.toList ↔ other = token := by
  have noBlank : ∀ character ∈ token.literal.toList.getLast?, ¬isBlank character := by
    intro character isLast
    rw [wellFormed.isBlank_eq_false (List.mem_of_getLast? isLast)]
    exact Bool.false_ne_true
  simp only [Ends, wellFormed.ofCharacters_literal, List.getLast?_singleton, Option.mem_some_iff]
  exact ⟨fun ends => ends.1.symm, fun same => ⟨same.symm, noBlank⟩⟩

/-- A token in front of a text does not change how the text ends. -/
theorem WellFormed.ends_append_iff (wellFormed : token.WellFormed) (nonempty : text ≠ [])
    (maximal : ∀ character ∈ text.head?, ¬token.Joins character) :
    other.Ends (token.literal.toList ++ text) ↔ other.Ends text := by
  have sameEnd : (token.literal.toList ++ text).getLast? = text.getLast? :=
    List.getLast?_append_of_ne_nil _ nonempty
  rw [Ends, Ends, wellFormed.ofCharacters_append maximal, sameEnd]
  cases tokens : ofCharacters text with
  | nil =>
    -- Behind the token there are only blanks, so neither text ends in a token.
    have blank := isBlank_of_ofCharacters_eq_nil tokens _ (List.getLast_mem nonempty)
    have isLast := List.getLast?_eq_getLast_of_ne_nil nonempty
    simp [isLast, blank]
  | cons start rest => rw [List.getLast?_cons_cons]

end Token

/-- The text behind a tokenised one is split by itself exactly when the tokenised one does not run
into it. -/
theorem Tokenisation.ofCharacters_append_iff {text more : List Char} {tokens : List Token}
    (tokenisation : Tokenisation text tokens) :
    Token.ofCharacters (text ++ more) = tokens ++ Token.ofCharacters more ↔
      ¬RunsInto text more := by
  induction tokenisation with
  | done => simp [RunsInto, Token.not_ends_nil]
  | @blank character text tokens isBlank rest inductionHypothesis =>
    have same : RunsInto (character :: text) more ↔ RunsInto text more := by
      simp only [RunsInto, Token.ends_cons_of_isBlank isBlank]
    rw [List.cons_append, Token.ofCharacters_of_isBlank isBlank, inductionHypothesis, same]
  | @token token text tokens wellFormed maximal rest inductionHypothesis =>
    cases text with
    | nil =>
      have none : tokens = [] := by rw [rest.eq_ofCharacters, Token.ofCharacters]
      have runs : RunsInto token.literal.toList more ↔
          ∃ character ∈ more.head?, token.Joins character := by
        simp only [RunsInto, wellFormed.ends_iff, exists_eq_left, wellFormed.joins_iff]
      rw [none, List.append_nil, List.singleton_append, wellFormed.ofCharacters_append_iff, runs]
      push Not
      rfl
    | cons start behind =>
      have apart : ∀ character ∈ (start :: behind ++ more).head?, ¬token.Joins character := maximal
      have same : RunsInto (token.literal.toList ++ start :: behind) more ↔
          RunsInto (start :: behind) more := by
        simp only [RunsInto, wellFormed.ends_append_iff (List.cons_ne_nil _ _) maximal]
      rw [List.append_assoc, wellFormed.ofCharacters_append apart, same, ← inductionHypothesis]
      exact List.cons_inj_right token

/-- The tokens of a text are well formed. -/
theorem Source.wellFormed_of_mem_ofText {text : String} {token : Token}
    (member : token ∈ (Source.ofText text).tokens) : token.WellFormed := by
  rw [Source.ofText, Source.tokens_ofTokens, Token.ofText_eq] at member
  exact Token.wellFormed_of_mem_ofCharacters member

/-- Two texts have together the tokens of the first and then those of the second, unless the first
text ends in a token that the first character of the second one joins. -/
theorem tokens_ofText_append_iff (first second : String) :
    (Source.ofText (first ++ second)).tokens =
        (Source.ofText first).tokens ++ (Source.ofText second).tokens ↔
      ¬RunsInto first.toList second.toList := by
  simp only [Source.ofText, Source.tokens_ofTokens, Token.ofText_eq, String.toList_append]
  exact (tokenisation_ofCharacters first.toList).ofCharacters_append_iff

/-- An equals sign joins another one in front of it, but not the pair of them. -/
example : (Source.ofText "===").tokens ≠
      (Source.ofText "=").tokens ++ (Source.ofText "==").tokens ∧
    (Source.ofText "===").tokens =
      (Source.ofText "==").tokens ++ (Source.ofText "=").tokens := by
  decide +kernel

end MonkeySyntax
