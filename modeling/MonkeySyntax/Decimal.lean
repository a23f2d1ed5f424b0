namespace MonkeySyntax.Decimal

def digit (value : Nat) : Char :=
  Char.ofNat ('0'.toNat + value)

/-- The decimal digits of a number start with a zero only where the number is zero. -/
def digits (number : Nat) : List Char :=
  if number < 10 then [digit number] else digits (number / 10) ++ [digit (number % 10)]

/-- The decimal text of a negative integer has a minus sign before the digits. -/
def text : Int → String
  | .ofNat number => String.ofList (digits number)
  | .negSucc number => String.ofList ('-' :: digits (number + 1))

/-- Each digit of a run adds to ten times what the digits before it denote. -/
def numberOfDigits (run : List Char) : Nat :=
  run.foldl (fun number character => 10 * number + (character.toNat - '0'.toNat)) 0

/-- A run of ASCII digits denotes a number; it has at least one digit. -/
def number? (run : List Char) : Option Nat :=
  if run ≠ [] ∧ run.all Char.isDigit then some (numberOfDigits run) else none

/-- An integer is a run of digits that may follow a sign. -/
def integer? : List Char → Option Int
  | '+' :: run => (number? run).map fun number => (number : Int)
  | '-' :: run => (number? run).map fun number => -(number : Int)
  | run => (number? run).map fun number => (number : Int)

/-- A text denotes a 64-bit integer when that integer is written in exactly this way. -/
def int64? (literal : String) : Option Int64 :=
  (integer? literal.toList).bind fun value =>
    if Int64.minValue.toInt ≤ value ∧ value ≤ Int64.maxValue.toInt ∧ text value = literal then
      some (Int64.ofInt value)
    else
      none

end MonkeySyntax.Decimal
