import MonkeySyntax.SyntaxError
import MonkeySyntax.Tree.Measure

namespace MonkeySyntax

/-- Equal neighbours in a list are counted instead of repeated. -/
def runs {α : Type} [DecidableEq α] : List α → List (α × Nat)
  | [] => []
  | first :: rest =>
    match runs rest with
    | [] => [(first, 1)]
    | (value, count) :: others =>
      if first = value then (value, count + 1) :: others
      else (first, 1) :: (value, count) :: others

/-- A summary counts what a program and its list of errors contain. -/
structure Summary where
  statements : Nat
  nodes : Nat
  depth : Nat
  errorRuns : List (String × Nat)

/-- The messages of equal errors in a row are counted. -/
def Summary.of (program : Program) (errors : List SyntaxError) : Summary :=
  ⟨program.statements.length, program.size, program.depth, runs (errors.map SyntaxError.message)⟩

/-- An excerpt keeps the length of a text and the characters at its two ends. -/
structure Excerpt where
  length : Nat
  head : String
  tail : String

/-- A text no longer than the width is kept at both ends. -/
def Excerpt.of (width : Nat) (text : String) : Excerpt :=
  let characters := text.toList
  let length := characters.length
  ⟨length, String.ofList (characters.take width), String.ofList (characters.drop (length - width))⟩

end MonkeySyntax
