import MonkeySyntax.Proofs.Concatenation
import MonkeySyntax.Proofs.DecimalText
import MonkeySyntax.Proofs.UnbalancedGroups

namespace MonkeySyntax

namespace Decimal

/-- These are the integers of 64 bits. -/
def Fits (value : Int) : Prop :=
  -9223372036854775808 ≤ value ∧ value < 9223372036854775808

/-- A number fits when it has no needless zero in front and is at most the greatest integer of 64
bits. -/
def NumberFits (run : List Char) : Prop :=
  (run = ['0'] ∨ run.head? ≠ some '0') ∧ numberOfDigits run ≤ 9223372036854775807

instance (run : List Char) : Decidable (NumberFits run) :=
  inferInstanceAs (Decidable (_ ∧ _))

/-- Every stored integer fits. -/
theorem fits_toInt (stored : Int64) : Fits stored.toInt :=
  ⟨stored.le_toInt, stored.toInt_lt⟩

/-- What fits is stored without a loss. -/
theorem toInt_ofInt {value : Int} (fits : Fits value) : (Int64.ofInt value).toInt = value :=
  Int64.toInt_ofInt_of_le fits.1 fits.2

/-- A literal has a 64-bit integer exactly when it denotes one. -/
theorem int64?_eq_some_iff_denotes {literal : String} {stored : Int64} :
    int64? literal = some stored ↔ Denotes literal.toList stored.toInt :=
  int64?_eq_some_iff.trans denotes_iff.symm

/-- A literal is refused when no value that fits is denoted by it. -/
theorem int64?_eq_none_iff {literal : String} :
    int64? literal = none ↔ ¬∃ value, Denotes literal.toList value ∧ Fits value := by
  constructor
  · rintro missing ⟨value, denotes, fits⟩
    rw [← toInt_ofInt fits, ← int64?_eq_some_iff_denotes, missing] at denotes
    cases denotes
  · intro nothing
    rw [Option.eq_none_iff_forall_ne_some]
    intro stored read
    exact nothing ⟨stored.toInt, int64?_eq_some_iff_denotes.mp read, fits_toInt stored⟩

/-- A run of digits denotes an integer of 64 bits exactly when it fits. -/
theorem denotes_fits_iff_numberFits {run : List Char} (nonempty : run ≠ [])
    (areDigits : ∀ character ∈ run, character.isDigit) :
    (∃ value, Denotes run value ∧ Fits value) ↔ NumberFits run := by
  constructor
  · rintro ⟨value, denotes, fits⟩
    cases denotes with
    | nonnegative numeral =>
      refine ⟨?_, Int.ofNat_le.mp (Int.le_of_lt_add_one fits.2)⟩
      by_cases zero : run.head? = some '0'
      · exact .inl (numeral.noLeadingZero zero)
      · exact .inr zero
    | negative numeral nonzero =>
      exact absurd (areDigits '-' List.mem_cons_self) (by decide)
  · rintro ⟨noLeadingZero, small⟩
    have numeral : IsNumeral run :=
      ⟨nonempty, areDigits, fun zero => noLeadingZero.resolve_right (not_not_intro zero)⟩
    refine ⟨numberOfDigits run, .nonnegative numeral, ?_⟩
    constructor <;> omega

end Decimal

namespace Expression

variable {level : Level} {cursor : Cursor} {operand : Option Expression}
  {errors : List SyntaxError}

/-- The current token is an operand by itself, with this value and these errors, and the expression
goes on behind it. -/
def ReadsLeaf (level : Level) (cursor : Cursor) (operand : Option Expression)
    (errors : List SyntaxError) : Prop :=
  ∃ form, ∃ present : 0 < cursor.remaining, cursor.current.kind.operandForm? = some form ∧
    (Expression.readOperand form cursor present).Yields operand errors cursor.tokens.tail ∧
    Expression.read level cursor =
      (Expression.readOperand form cursor present).andThen fun left rest _ =>
        Expression.extend level left rest

/-- The literal of an integer decides what is read. -/
theorem readsLeaf_integer_iff (isInteger : cursor.current.kind = .integer) :
    ReadsLeaf level cursor operand errors ↔
      operand = (Decimal.int64? cursor.current.literal).map (.integer cursor.current) ∧
        errors = if (Decimal.int64? cursor.current.literal).isSome then []
          else [.notInteger cursor.current.literal] := by
  have hasForm : cursor.current.kind.operandForm? = some .integer := by rw [isInteger]; rfl
  have present : 0 < cursor.remaining := Cursor.remaining_pos (by rw [isInteger]; decide)
  have leaf : (Expression.readOperand .integer cursor present).Yields
      ((Decimal.int64? cursor.current.literal).map (.integer cursor.current))
      (if (Decimal.int64? cursor.current.literal).isSome then []
        else [.notInteger cursor.current.literal]) cursor.tokens.tail := by
    rw [Expression.readOperand]
    cases Decimal.int64? cursor.current.literal with
    | none => exact Reading.yields_fail _
    | some stored => exact ⟨rfl, rfl, rfl⟩
  constructor
  · rintro ⟨form, _, starts, reads, -⟩
    obtain rfl := Option.some.inj (hasForm.symm.trans starts)
    exact ⟨reads.value_eq.symm.trans leaf.value_eq, reads.errors_eq.symm.trans leaf.errors_eq⟩
  · rintro ⟨rfl, rfl⟩
    exact ⟨.integer, present, hasForm, leaf, read_of_operandForm?_eq_some hasForm present⟩

/-- An integer is read as a node exactly where its literal denotes an integer of 64 bits. -/
theorem readsLeaf_some_integer_iff (isInteger : cursor.current.kind = .integer)
    {node : Expression} :
    ReadsLeaf level cursor (some node) errors ↔
      ∃ value, Decimal.Denotes cursor.current.literal.toList value ∧ Decimal.Fits value ∧
        (Int64.ofInt value).toInt = value ∧
        node = .integer cursor.current (Int64.ofInt value) ∧ errors = [] := by
  rw [readsLeaf_integer_iff isInteger]
  constructor
  · rintro ⟨isNode, noErrors⟩
    obtain ⟨stored, read, rfl⟩ := Option.map_eq_some_iff.mp isNode.symm
    rw [read] at noErrors
    have denotes := Decimal.int64?_eq_some_iff_denotes.mp read
    exact ⟨stored.toInt, denotes, Decimal.fits_toInt stored, by rw [Int64.ofInt_toInt],
      by rw [Int64.ofInt_toInt], noErrors⟩
  · rintro ⟨value, denotes, fits, exact, rfl, rfl⟩
    rw [← exact, ← Decimal.int64?_eq_some_iff_denotes] at denotes
    rw [denotes]
    exact ⟨rfl, rfl⟩

/-- Every other literal is reported, and no node is made of it. -/
theorem readsLeaf_none_integer_iff (isInteger : cursor.current.kind = .integer) :
    ReadsLeaf level cursor none errors ↔
      (¬∃ value, Decimal.Denotes cursor.current.literal.toList value ∧ Decimal.Fits value) ∧
        errors = [.notInteger cursor.current.literal] := by
  rw [readsLeaf_integer_iff isInteger, ← Decimal.int64?_eq_none_iff, eq_comm,
    Option.map_eq_none_iff]
  constructor
  · rintro ⟨missing, noted⟩
    rw [missing] at noted
    exact ⟨missing, noted⟩
  · rintro ⟨missing, rfl⟩
    rw [missing]
    exact ⟨rfl, rfl⟩

end Expression

/-- A place in a text that is an integer is a number. -/
theorem Cursor.isNumber_of_suffix {cursor : Cursor} {text : String}
    (inText : cursor.tokens <:+ (Source.ofText text).tokens)
    (isInteger : cursor.current.kind = .integer) : cursor.current.IsNumber := by
  have present : 0 < cursor.remaining := Cursor.remaining_pos (by rw [isInteger]; decide)
  have member : cursor.current ∈ cursor.tokens := by
    rw [Cursor.current_eq, List.headD_eq_head?_getD]
    obtain ⟨token, rest, same⟩ := List.exists_cons_of_length_pos present
    simp [same]
  have wellFormed := Source.wellFormed_of_mem_ofText (inText.subset member)
  exact wellFormed.isNumber_iff.mpr isInteger

/-- An integer by itself is a program of one statement. -/
theorem readAs_integer {token : Token} (isInteger : token.kind = .integer) :
    ReadAs [token] [.expression token ((Decimal.int64? token.literal).map (.integer token))]
      (if (Decimal.int64? token.literal).isSome then []
        else [(SyntaxError.notInteger token.literal).message]) := by
  have isOperand : ([token].headD .endOfInput).kind.operandForm?.isSome := by
    rw [List.headD_cons, isInteger]
    rfl
  have yields (start : Cursor) (starts : start.tokens = [token]) :
      (Expression.read .lowest start).Yields
        ((Decimal.int64? token.literal).map (.integer token))
        (if (Decimal.int64? token.literal).isSome then [] else [.notInteger token.literal]) [] := by
    have current : start.current = token := Cursor.current_of_tokens starts
    have behind : start.tokens.tail = [] := by rw [starts, List.tail_cons]
    rw [← current] at isInteger ⊢
    have reads : Expression.ReadsLeaf .lowest start _ _ :=
      (Expression.readsLeaf_integer_iff isInteger).mpr ⟨rfl, rfl⟩
    obtain ⟨form, _, starts, leaf, -⟩ := reads
    rw [behind] at leaf
    exact Expression.yields_of_operand starts leaf Level.lowest.stops_nil
  have read := readAs_of_yields isOperand (List.forall_mem_nil _) yields
  rw [List.length_nil, List.replicate_zero, List.append_nil, apply_ite (List.map _)] at read
  exact read

/-- A number by itself is read without an error exactly where it fits. -/
theorem errors_read_number {run : String} (nonempty : run ≠ "")
    (areDigits : ∀ character ∈ run.toList, character.isDigit) :
    (Source.ofText run).read.2.errors = [] ↔ Decimal.NumberFits run.toList := by
  have number : (⟨.integer, run⟩ : Token).IsNumber := ⟨nonempty, areDigits, rfl⟩
  obtain ⟨-, messages⟩ := readAs_integer number.2.2
  have alone : Token.ofText run = [⟨.integer, run⟩] := by
    rw [Token.ofText_eq]
    exact Token.WellFormed.ofCharacters_literal (.inr (.inl number))
  rw [← alone] at messages
  rw [← Decimal.denotes_fits_iff_numberFits (mt String.toList_eq_nil_iff.mp nonempty) areDigits,
    ← not_iff_not, ← Decimal.int64?_eq_none_iff, ← List.map_eq_nil_iff, Source.ofText, messages]
  cases Decimal.int64? run <;> simp

/-- An integer is read from the decimal texts of the integers of 64 bits; every other literal is
reported. In a text, where integers are numbers, those that fit are read. -/
theorem integer_read_iff_denotes :
    (∀ (level : Level) (cursor : Cursor), cursor.current.kind = .integer →
      (∀ node errors, Expression.ReadsLeaf level cursor (some node) errors ↔
        ∃ value, Decimal.Denotes cursor.current.literal.toList value ∧ Decimal.Fits value ∧
          (Int64.ofInt value).toInt = value ∧
          node = .integer cursor.current (Int64.ofInt value) ∧ errors = []) ∧
      (∀ errors, Expression.ReadsLeaf level cursor none errors ↔
        (¬∃ value, Decimal.Denotes cursor.current.literal.toList value ∧ Decimal.Fits value) ∧
          errors = [.notInteger cursor.current.literal]) ∧
      (SyntaxError.notInteger cursor.current.literal).message =
        "could not parse " ++ cursor.current.literal ++ " as integer") ∧
    (∀ (text : String) (level : Level) (cursor : Cursor),
      cursor.tokens <:+ (Source.ofText text).tokens → cursor.current.kind = .integer →
      cursor.current.IsNumber ∧
        ((∃ node errors, Expression.ReadsLeaf level cursor (some node) errors) ↔
          Decimal.NumberFits cursor.current.literal.toList)) ∧
    (∀ run : String, run ≠ "" → (∀ character ∈ run.toList, character.isDigit) →
      ((Source.ofText run).read.2.errors = [] ↔ Decimal.NumberFits run.toList)) := by
  refine ⟨?_, ?_, fun run nonempty areDigits => errors_read_number nonempty areDigits⟩
  · intro level cursor isInteger
    exact ⟨fun node errors => Expression.readsLeaf_some_integer_iff isInteger,
      fun errors => Expression.readsLeaf_none_integer_iff isInteger, rfl⟩
  · intro text level cursor inText isInteger
    have number := Cursor.isNumber_of_suffix inText isInteger
    have nonempty := mt String.toList_eq_nil_iff.mp number.1
    refine ⟨number, ?_⟩
    rw [← Decimal.denotes_fits_iff_numberFits nonempty number.2.1]
    constructor
    · rintro ⟨node, errors, reads⟩
      obtain ⟨value, denotes, fits, -⟩ :=
        (Expression.readsLeaf_some_integer_iff isInteger).mp reads
      exact ⟨value, denotes, fits⟩
    · rintro ⟨value, denotes, fits⟩
      exact ⟨_, _, (Expression.readsLeaf_some_integer_iff isInteger).mpr
        ⟨value, denotes, fits, Decimal.toInt_ofInt fits, rfl, rfl⟩⟩

/-- This cursor stands on the least integer of 64 bits. -/
def leastInteger : Cursor :=
  .last ⟨.integer, "-9223372036854775808"⟩ (.ofTokens [])

/-- The least integer is read from its text, as is the greatest; the next one is too great, and a
zero in front is not read. -/
theorem integer_read_bounds :
    leastInteger.current.kind = .integer ∧
      Expression.ReadsLeaf .lowest leastInteger
        (some (.integer leastInteger.current (Int64.ofInt (-9223372036854775808)))) [] ∧
      (Source.ofText "9223372036854775807").read.2.errors = [] ∧
      (Source.ofText "9223372036854775808").read.2.errors ≠ [] ∧
      (Source.ofText "007").read.2.errors ≠ [] := by
  obtain ⟨literals, -, numbers⟩ := integer_read_iff_denotes
  have numeral : Decimal.IsNumeral "9223372036854775808".toList :=
    ⟨by decide, List.all_eq_true.mp (by decide), by decide⟩
  have denotes : Decimal.Denotes leastInteger.current.literal.toList (-9223372036854775808) :=
    .negative numeral (by decide)
  have isInteger : leastInteger.current.kind = .integer := rfl
  refine ⟨isInteger, ?_, ?_, ?_, ?_⟩
  · exact ((literals .lowest leastInteger isInteger).1 _ _).mpr
      ⟨_, denotes, ⟨by decide, by decide⟩, by decide, rfl, rfl⟩
  · exact (numbers _ (by decide) (List.all_eq_true.mp (by decide))).mpr (by decide)
  · exact (numbers _ (by decide) (List.all_eq_true.mp (by decide))).not.mpr (by decide)
  · exact (numbers _ (by decide) (List.all_eq_true.mp (by decide))).not.mpr (by decide)

end MonkeySyntax
