import MonkeySyntax.Proofs.Constructs
import MonkeySyntax.Tree.Relabelled

namespace MonkeySyntax

/-- A correspondence relates the places of two inputs. Where a token is left in the first input,
the second one has the changed token in its place. Advancing keeps the relation as long as enough
tokens remain. -/
structure Correspondence where
  change : Token → Token
  limit : Nat
  Related : Cursor → Cursor → Prop
  keepsIntegers {token : Token} (isInteger : token.kind = .integer) : change token = token
  kind_current {first second : Cursor} (related : Related first second) :
    second.current.kind = first.current.kind
  kind_next {first second : Cursor} (related : Related first second) :
    second.next.kind = first.next.kind
  current_eq {first second : Cursor} (related : Related first second)
    (present : 0 < first.remaining) : second.current = change first.current
  next_eq {first second : Cursor} (related : Related first second)
    (present : 1 < first.remaining) : second.next = change first.next
  advance {first second : Cursor} (related : Related first second)
    (within : limit ≤ first.advance.remaining) : Related first.advance second.advance

/-- Of two tokens one is behind the other. -/
theorem Cursor.tail_ne_nil {cursor : Cursor} (present : 1 < cursor.remaining) :
    cursor.tokens.tail ≠ [] := by
  intro ended
  have short := congrArg List.length ended
  rw [List.length_tail, List.length_nil] at short
  rw [Cursor.remaining] at present
  omega

/-- Every place in an input corresponds to the same place in the changed input, when the change
keeps kinds and integers. -/
def Correspondence.ofChange (change : Token → Token)
    (keepsKind : ∀ token, (change token).kind = token.kind)
    (keepsIntegers : ∀ token, token.kind = .integer → change token = token) : Correspondence where
  change := change
  limit := 0
  Related first second := second.tokens = first.tokens.map change
  keepsIntegers isInteger := keepsIntegers _ isInteger
  kind_current {first second} related := by
    rw [Cursor.current_eq, Cursor.current_eq, related]
    cases first.tokens with
    | nil => rfl
    | cons token rest => exact keepsKind token
  kind_next {first second} related := by
    rw [Cursor.next_eq, Cursor.next_eq, related, ← List.map_tail]
    cases first.tokens.tail with
    | nil => rfl
    | cons token rest => exact keepsKind token
  current_eq {first second} related present := by
    rw [Cursor.current_eq, Cursor.current_eq, related]
    cases tokens : first.tokens with
    | nil => simp [Cursor.remaining, tokens] at present
    | cons token rest => rfl
  next_eq {first second} related present := by
    rw [Cursor.next_eq, Cursor.next_eq, related, ← List.map_tail]
    cases tokens : first.tokens.tail with
    | nil => exact absurd tokens (Cursor.tail_ne_nil present)
    | cons token rest => rfl
  advance {first second} related _ := by
    rw [Cursor.tokens_advance, Cursor.tokens_advance, related, List.map_tail]

namespace Reading

variable {α β : Type} {start other : Cursor} {correspondence : Correspondence}

/-- A second reading repeats a first one when it gives the changed value, notes the same errors
and stops at the related place. -/
structure Repeats (correspondence : Correspondence) (f : α → α) (first : Reading α start)
    (second : Reading α other) : Prop where
  value_eq : second.value = f first.value
  errors_eq : second.errors = first.errors
  related : correspondence.Related first.rest second.rest

/-- Two readings are in step when the second one repeats the first, as far as the correspondence
reaches. -/
def InStep (correspondence : Correspondence) (f : α → α) (first : Reading α start)
    (second : Reading α other) : Prop :=
  correspondence.limit ≤ first.rest.remaining → first.Repeats correspondence f second

/-- Values that correspond are given in step. -/
theorem inStep_pure {f : α → α} {value image : α} (related : correspondence.Related start other)
    (same : image = f value) :
    InStep correspondence f (pure value : Reading α start) (pure image : Reading α other) :=
  fun _ => ⟨same, rfl, related⟩

/-- Both readings fail with one cause. -/
theorem inStep_fail {f : Option α → Option α} {cause image : SyntaxError}
    (related : correspondence.Related start other) (same : image = cause)
    (lost : f none = none) :
    InStep correspondence f (fail cause : Reading (Option α) start)
      (fail image : Reading (Option α) other) :=
  fun _ => ⟨lost.symm, by rw [errors_fail, errors_fail, same], related⟩

/-- The starts of statements may differ, for they are no errors. -/
theorem InStep.noting {f : α → α} {first : Reading α start} {second : Reading α other}
    (inStep : first.InStep correspondence f second) (kind image : TokenKind)
    (literal spelling : String) :
    InStep correspondence f (first.noting kind literal)
      (second.noting image spelling) := by
  intro within
  have repeats := inStep within
  refine ⟨repeats.value_eq, ?_, repeats.related⟩
  rw [errors_noting, errors_noting, repeats.errors_eq]

/-- Values made in corresponding ways keep in step. -/
theorem InStep.map {f : α → α} {g : β → β} {make remake : α → β} {first : Reading α start}
    {second : Reading α other} (inStep : first.InStep correspondence f second)
    (commutes : ∀ value, remake (f value) = g (make value)) :
    InStep correspondence g (first.map make) (second.map remake) := by
  intro within
  have repeats := inStep within
  refine ⟨?_, repeats.errors_eq, repeats.related⟩
  rw [value_map, value_map, repeats.value_eq, commutes]

/-- Readings from the next places are in step when these places are related. -/
theorem InStep.fromNext {f : α → α} {first : Reading α start.advance}
    {second : Reading α other.advance} (related : correspondence.Related start other)
    (inStep : correspondence.Related start.advance other.advance →
      first.InStep correspondence f second) :
    InStep correspondence f first.fromNext second.fromNext := by
  intro within
  have relatedNext := correspondence.advance related (within.trans first.within)
  have repeats := inStep relatedNext within
  exact ⟨repeats.value_eq, repeats.errors_eq, repeats.related⟩

/-- The second parts go on in step from the places where the first parts stopped. -/
theorem inStep_andThen {g : β → β} {first : Reading α start} {second : Reading α other}
    {next : α → (rest : Cursor) → rest.remaining ≤ start.remaining → Reading β rest}
    {after : α → (rest : Cursor) → rest.remaining ≤ other.remaining → Reading β rest}
    (continues : correspondence.limit ≤ first.rest.remaining → second.errors = first.errors ∧
      (next first.value first.rest first.within).InStep correspondence g
        (after second.value second.rest second.within)) :
    InStep correspondence g (first.andThen next) (second.andThen after) := by
  intro within
  have reached : correspondence.limit ≤ first.rest.remaining :=
    within.trans (next first.value first.rest first.within).within
  obtain ⟨sameErrors, inStep⟩ := continues reached
  have repeats := inStep within
  refine ⟨repeats.value_eq, ?_, repeats.related⟩
  rw [errors_andThen, errors_andThen, sameErrors, repeats.errors_eq]

/-- Two readings keep in step when what follows them does. -/
theorem InStep.andThen {f : α → α} {g : β → β} {first : Reading α start}
    {second : Reading α other}
    {next : α → (rest : Cursor) → rest.remaining ≤ start.remaining → Reading β rest}
    {after : α → (rest : Cursor) → rest.remaining ≤ other.remaining → Reading β rest}
    (inStep : first.InStep correspondence f second)
    (continues : ∀ value rest image within withinImage, correspondence.Related rest image →
      (next value rest within).InStep correspondence g (after (f value) image withinImage)) :
    InStep correspondence g (first.andThen next) (second.andThen after) := by
  apply inStep_andThen
  intro reached
  have repeats := inStep reached
  have later := continues first.value first.rest second.rest first.within second.within
    repeats.related
  rw [← repeats.value_eq] at later
  exact ⟨repeats.errors_eq, later⟩

/-- Both readings take a semicolon or neither does. -/
theorem InStep.terminated {f : α → α} {first : Reading α start} {second : Reading α other}
    (inStep : first.InStep correspondence f second) :
    InStep correspondence f first.terminated second.terminated := by
  intro within
  rw [rest_terminated] at within
  have reached : correspondence.limit ≤ first.rest.remaining := by
    split at within
    · exact within.trans first.rest.tokens_advance_suffix.length_le
    · exact within
  have repeats := inStep reached
  have sameKind := correspondence.kind_next repeats.related
  refine ⟨?_, ?_, ?_⟩
  · rw [value_terminated, value_terminated, repeats.value_eq]
  · rw [errors_terminated, errors_terminated, repeats.errors_eq]
  · rw [rest_terminated, rest_terminated, sameKind]
    split at within
    · next terminates =>
      rw [if_pos terminates, if_pos terminates]
      exact correspondence.advance repeats.related within
    · next separates =>
      rw [if_neg separates, if_neg separates]
      exact repeats.related

end Reading

/-- Both constructs find the expected token or fail over the same kind. -/
theorem Cursor.inStep_expecting {α : Type} {correspondence : Correspondence} {start other : Cursor}
    {kind : TokenKind} {f : Option α → Option α}
    {next : start.next.kind = kind → Reading (Option α) start.advance}
    {after : other.next.kind = kind → Reading (Option α) other.advance}
    (related : correspondence.Related start other) (lost : f none = none)
    (continues : ∀ found foundImage, correspondence.Related start.advance other.advance →
      (next found).InStep correspondence f (after foundImage)) :
    (start.expecting kind next).InStep correspondence f (other.expecting kind after) := by
  have sameKind := correspondence.kind_next related
  by_cases found : start.next.kind = kind
  · rw [Cursor.expecting_of_eq found, Cursor.expecting_of_eq (sameKind.trans found)]
    exact Reading.InStep.fromNext related (continues found (sameKind.trans found))
  · rw [Cursor.expecting_of_ne found, Cursor.expecting_of_ne (by rw [sameKind]; exact found)]
    exact Reading.inStep_fail related (by rw [sameKind]) lost

end MonkeySyntax
