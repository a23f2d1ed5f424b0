import Mathlib.Tactic
import MonkeySyntax.Decimal

namespace MonkeySyntax.Decimal

/-- A number below ten is written as a digit. -/
theorem isDigit_digit {value : Nat} (small : value < 10) : (digit value).isDigit := by
  interval_cases value <;> decide

/-- The digit of a number has its value. -/
theorem toNat_digit {value : Nat} (small : value < 10) :
    (digit value).toNat - '0'.toNat = value := by
  interval_cases value <;> decide

/-- Every number has a digit. -/
theorem digits_ne_nil (number : Nat) : digits number ≠ [] := by
  rw [digits]
  split <;> simp

/-- A number is written with digits alone. -/
theorem isDigit_of_mem_digits (number : Nat) {character : Char}
    (member : character ∈ digits number) : character.isDigit := by
  induction number using digits.induct with
  | case1 number small =>
    rw [digits, if_pos small, List.mem_singleton] at member
    rw [member]
    exact isDigit_digit small
  | case2 number large inductionHypothesis =>
    rw [digits, if_neg large, List.mem_append, List.mem_singleton] at member
    rcases member with front | rfl
    · exact inductionHypothesis front
    · exact isDigit_digit (Nat.mod_lt _ (by decide))

/-- The value of a run grows with each digit behind it. -/
theorem numberOfDigits_append_singleton (run : List Char) (character : Char) :
    numberOfDigits (run ++ [character]) =
      10 * numberOfDigits run + (character.toNat - '0'.toNat) := by
  rw [numberOfDigits, List.foldl_append, ← numberOfDigits]
  rfl

/-- The digits of a number denote it. -/
theorem numberOfDigits_digits (number : Nat) : numberOfDigits (digits number) = number := by
  induction number using digits.induct with
  | case1 number small =>
    rw [digits, if_pos small]
    simpa [numberOfDigits] using toNat_digit small
  | case2 number large inductionHypothesis =>
    rw [digits, if_neg large, numberOfDigits_append_singleton, inductionHypothesis,
      toNat_digit (Nat.mod_lt _ (by decide))]
    omega

/-- The digits of a number denote it. -/
theorem number?_digits (number : Nat) : number? (digits number) = some number := by
  have run : digits number ≠ [] ∧ (digits number).all Char.isDigit :=
    ⟨digits_ne_nil number, List.all_eq_true.mpr fun _ member => isDigit_of_mem_digits number member⟩
  rw [number?, if_pos run, numberOfDigits_digits]

/-- A run of digits has no sign in front. -/
theorem integer?_digits (number : Nat) : integer? (digits number) = some (number : Int) := by
  unfold integer?
  split
  · next run starts =>
    have signed : '+' ∈ digits number := by simp [starts]
    exact absurd (isDigit_of_mem_digits number signed) (by decide)
  · next run starts =>
    have signed : '-' ∈ digits number := by simp [starts]
    exact absurd (isDigit_of_mem_digits number signed) (by decide)
  · rw [number?_digits]
    rfl

/-- An integer is read back from its text. -/
theorem integer?_text (value : Int) : integer? (text value).toList = some value := by
  cases value with
  | ofNat number => simpa [text] using integer?_digits number
  | negSucc number =>
    rw [text, String.toList_ofList, integer?, number?_digits]
    simp [Int.negSucc_eq]

/-- A numeral is a run of digits without a needless zero in front. -/
structure IsNumeral (run : List Char) : Prop where
  nonempty : run ≠ []
  areDigits : ∀ character ∈ run, character.isDigit
  noLeadingZero : run.head? = some '0' → run = ['0']

/-- An integer is denoted by its numeral, behind a minus sign where it is negative. -/
inductive Denotes : List Char → Int → Prop where
  | nonnegative {run : List Char} (numeral : IsNumeral run) : Denotes run (numberOfDigits run)
  | negative {run : List Char} (numeral : IsNumeral run) (nonzero : run ≠ ['0']) :
      Denotes ('-' :: run) (-(numberOfDigits run : Int))

/-- A digit is the one of its value. -/
theorem digit_toNat {character : Char} (isDigit : character.isDigit) :
    character.toNat - '0'.toNat < 10 ∧ digit (character.toNat - '0'.toNat) = character := by
  have zero : '0'.toNat = 48 := rfl
  have bounds : 48 ≤ character.toNat ∧ character.toNat ≤ 57 := by
    simpa [Char.isDigit, UInt32.le_iff_toNat_le] using isDigit
  constructor
  · omega
  · rw [digit, Nat.add_sub_cancel' (by omega), Char.ofNat_toNat]

/-- The digits of a number have no needless zero in front. -/
theorem isNumeral_digits (number : Nat) : IsNumeral (digits number) := by
  refine ⟨digits_ne_nil number, fun _ member => isDigit_of_mem_digits number member, ?_⟩
  induction number using digits.induct with
  | case1 number small =>
    rw [digits, if_pos small]
    intro zero
    rw [Option.some.inj zero]
  | case2 number large inductionHypothesis =>
    intro zero
    rw [digits, if_neg large, List.head?_append_of_ne_nil _ (digits_ne_nil _)] at zero
    -- What stands in front of the last digit is not zero.
    have front : numberOfDigits (digits (number / 10)) = numberOfDigits ['0'] :=
      congrArg numberOfDigits (inductionHypothesis zero)
    rw [numberOfDigits_digits] at front
    have none : number / 10 = 0 := front
    omega

/-- Zero has a digit of its own. -/
theorem digits_zero : digits 0 = ['0'] := by
  rw [digits]
  rfl

/-- No other numeral denotes zero. -/
theorem numberOfDigits_pos {run : List Char} (written : digits (numberOfDigits run) = run)
    (nonzero : run ≠ ['0']) : 0 < numberOfDigits run := by
  apply Nat.pos_of_ne_zero
  intro zero
  rw [zero, digits_zero] at written
  exact nonzero written.symm

/-- A numeral is made of the digits of the number that it denotes. -/
theorem digits_numberOfDigits {run : List Char} (numeral : IsNumeral run) :
    digits (numberOfDigits run) = run := by
  induction run using List.reverseRecOn with
  | nil => exact absurd rfl numeral.nonempty
  | append_singleton front last inductionHypothesis =>
    obtain ⟨small, written⟩ := digit_toNat (numeral.areDigits last (by simp))
    by_cases alone : front = []
    · subst alone
      have value : numberOfDigits [last] = last.toNat - '0'.toNat := by simp [numberOfDigits]
      rw [List.nil_append, value, digits, if_pos small, written]
    · have notZero : front.head? ≠ some '0' := by
        intro zero
        have single := numeral.noLeadingZero (by rwa [List.head?_append_of_ne_nil _ alone])
        simpa [alone] using congrArg List.length single
      have inner : digits (numberOfDigits front) = front := inductionHypothesis
        ⟨alone, fun character member => numeral.areDigits character (by simp [member]),
          fun zero => absurd zero notZero⟩
      have positive : 0 < numberOfDigits front :=
        numberOfDigits_pos inner fun zero => notZero (by rw [zero]; rfl)
      rw [numberOfDigits_append_singleton, digits, if_neg (by omega)]
      have quotient : (10 * numberOfDigits front + (last.toNat - '0'.toNat)) / 10 =
          numberOfDigits front := by omega
      have remainder : (10 * numberOfDigits front + (last.toNat - '0'.toNat)) % 10 =
          last.toNat - '0'.toNat := by omega
      rw [quotient, remainder, inner, written]

/-- A number is written as its digits. -/
theorem toList_text_natCast (number : Nat) : (text number).toList = digits number :=
  String.toList_ofList

/-- A negative number has a sign in front of them. -/
theorem toList_text_neg {number : Nat} (positive : 0 < number) :
    (text (-(number : Int))).toList = '-' :: digits number := by
  obtain ⟨before, rfl⟩ := Nat.exists_eq_succ_of_ne_zero positive.ne'
  exact String.toList_ofList

/-- The decimal text of an integer is the one text that denotes it. -/
theorem denotes_iff {literal : String} {value : Int} :
    Denotes literal.toList value ↔ literal = text value := by
  constructor
  · intro denotes
    apply String.toList_injective
    generalize literal.toList = characters at denotes
    cases denotes with
    | nonnegative numeral => rw [toList_text_natCast, digits_numberOfDigits numeral]
    | @negative run numeral nonzero =>
      have written := digits_numberOfDigits numeral
      rw [toList_text_neg (numberOfDigits_pos written nonzero), written]
  · rintro rfl
    obtain ⟨number, rfl | rfl⟩ := value.eq_nat_or_neg
    · have denotes := Denotes.nonnegative (isNumeral_digits number)
      rwa [numberOfDigits_digits, ← toList_text_natCast] at denotes
    · rcases Nat.eq_zero_or_pos number with rfl | positive
      · have denotes := Denotes.nonnegative (isNumeral_digits 0)
        rwa [numberOfDigits_digits, ← toList_text_natCast] at denotes
      · have nonzero : digits number ≠ ['0'] := by
          intro zero
          have value := congrArg numberOfDigits zero
          rw [numberOfDigits_digits] at value
          exact positive.ne' value
        have denotes := Denotes.negative (isNumeral_digits number) nonzero
        rwa [numberOfDigits_digits, ← toList_text_neg positive] at denotes

/-- A text denotes a 64-bit integer exactly when it is the decimal text of that integer. -/
theorem int64?_eq_some_iff {literal : String} {value : Int64} :
    int64? literal = some value ↔ literal = text value.toInt := by
  constructor
  · intro denotes
    obtain ⟨number, -, selected⟩ := Option.bind_eq_some_iff.mp denotes
    split at selected
    · next bounded =>
      obtain ⟨least, most, written⟩ := bounded
      obtain rfl := Option.some.inj selected
      have exact : (Int64.ofInt number).toInt = number :=
        Int64.toInt_ofInt_of_le least (Int.lt_of_le_of_lt most (by decide))
      rw [exact, written]
    · cases selected
  · intro written
    have least : Int64.minValue.toInt ≤ value.toInt := Int64.minValue_le_toInt value
    have most : value.toInt ≤ Int64.maxValue.toInt := Int64.toInt_le value
    rw [int64?, written, integer?_text, Option.bind_some, if_pos ⟨least, most, rfl⟩,
      Int64.ofInt_toInt]

end MonkeySyntax.Decimal
