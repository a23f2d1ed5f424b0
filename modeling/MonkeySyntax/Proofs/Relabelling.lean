import MonkeySyntax.Proofs.Lockstep

namespace MonkeySyntax

/-- A change of literals, but of no kind and of no integer, leads to the same errors and to the
tree with the changed tokens. -/
theorem read_ofTokens_map (tokens : List Token) (change : Token → Token)
    (keepsKind : ∀ token, (change token).kind = token.kind)
    (keepsIntegers : ∀ token, token.kind = .integer → change token = token) :
    (Source.ofTokens (tokens.map change)).read.1 =
        (Source.ofTokens tokens).read.1.relabelled change ∧
      (Source.ofTokens (tokens.map change)).read.2.errors =
        (Source.ofTokens tokens).read.2.errors := by
  have related : (Cursor.start (Source.ofTokens (tokens.map change))).tokens =
      (Cursor.start (Source.ofTokens tokens)).tokens.map change := by simp
  have repeats := (Statement.inStep (.ofChange change keepsKind keepsIntegers)).1 .program _ _
    related (Nat.zero_le _)
  constructor
  · rw [Source.program_read, repeats.value_eq]
    rfl
  · rw [Source.errors_read, Source.errors_read, repeats.errors_eq]

/-- Every token but an integer gets another literal. -/
def Token.marked (token : Token) : Token :=
  if token.kind = .integer then token else ⟨token.kind, token.literal ++ "'"⟩

/-- Marking a token keeps its kind. -/
theorem Token.kind_marked (token : Token) : token.marked.kind = token.kind := by
  unfold marked
  split <;> rfl

/-- Marking keeps an integer altogether. -/
theorem Token.marked_of_integer (token : Token) (isInteger : token.kind = .integer) :
    token.marked = token :=
  if_pos isInteger

/-- These are the tokens of `fn(a, EOF) { 07 let + a }`: an end of the input is taken as a
parameter, the integer has no value and the let statement is lost. -/
def lostNameTokens : List Token :=
  [⟨.functionKeyword, "fn"⟩, ⟨.leftParenthesis, "("⟩, ⟨.identifier, "a"⟩, ⟨.comma, ","⟩,
    ⟨.endOfInput, ""⟩, ⟨.rightParenthesis, ")"⟩, ⟨.leftBrace, "\x7b"⟩, ⟨.integer, "07"⟩,
    ⟨.letKeyword, "let"⟩, ⟨.plus, "+"⟩, ⟨.identifier, "a"⟩, ⟨.rightBrace, "\x7d"⟩]

/-- A text with an error is marked in its tree and reports the same error. -/
theorem read_lostNameTokens_marked :
    (∀ token, (Token.marked token).kind = token.kind) ∧
      (∀ token, token.kind = .integer → Token.marked token = token) ∧
        (Source.ofTokens (lostNameTokens.map Token.marked)).read.1 =
            (Source.ofTokens lostNameTokens).read.1.relabelled Token.marked ∧
          (Source.ofTokens (lostNameTokens.map Token.marked)).read.2.errors =
            (Source.ofTokens lostNameTokens).read.2.errors :=
  ⟨Token.kind_marked, Token.marked_of_integer,
    read_ofTokens_map lostNameTokens Token.marked Token.kind_marked Token.marked_of_integer⟩

end MonkeySyntax
