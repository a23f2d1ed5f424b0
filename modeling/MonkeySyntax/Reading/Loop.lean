import MonkeySyntax.Parser

namespace MonkeySyntax

/-- The loop comes to a place with the statements and the errors that it has collected in front of
that place. -/
inductive Cursor.LoopReaches (origin : Cursor) :
    List Statement → List SyntaxError → Cursor → Prop where
  | start : Cursor.LoopReaches origin [] [] origin
  | next {statements : List Statement} {errors : List SyntaxError} {place : Cursor}
      (before : Cursor.LoopReaches origin statements errors place)
      (continues : place.current.kind ≠ .endOfInput) :
      Cursor.LoopReaches origin (statements ++ (Statement.read place).value.toList)
        (errors ++ (Statement.read place).errors) (Statement.read place).rest.advance

/-- From a place of the loop on the rest of the program is read. -/
theorem Cursor.LoopReaches.readList {origin place : Cursor} {statements : List Statement}
    {errors : List SyntaxError} (reaches : origin.LoopReaches statements errors place) :
    (Statement.readList .program origin).value =
        statements ++ (Statement.readList .program place).value ∧
      (Statement.readList .program origin).errors =
        errors ++ (Statement.readList .program place).errors := by
  induction reaches with
  | start => exact ⟨rfl, rfl⟩
  | @next statements errors place before continues inductionHypothesis =>
    obtain ⟨values, causes⟩ := inductionHypothesis
    rw [Statement.readList.eq_def .program place,
      dif_neg (mt Scope.endsAt_program_iff.mp continues)] at values causes
    constructor
    · rw [values, List.append_assoc]
      rfl
    · rw [causes, Reading.errors_andThen, List.append_assoc]
      rfl

/-- From each of its places the loop goes on to the end, where it has collected the whole program
and all errors. -/
theorem Cursor.LoopReaches.to_end {origin place : Cursor} {statements : List Statement}
    {errors : List SyntaxError} (reaches : origin.LoopReaches statements errors place) :
    origin.LoopReaches (statements ++ (Statement.readList .program place).value)
      (errors ++ (Statement.readList .program place).errors)
      (Statement.readList .program place).rest := by
  generalize counted : place.remaining = size
  induction size using Nat.strongRecOn generalizing statements errors place with
  | ind size inductionHypothesis =>
    by_cases ended : place.current.kind = .endOfInput
    · rw [Statement.readList, dif_pos (Scope.endsAt_program_iff.mpr ended), Reading.value_pure,
        Reading.errors_pure, Reading.rest_pure, List.append_nil, List.append_nil]
      exact reaches
    · have shorter : (Statement.read place).rest.advance.remaining < size := by
        have present := Cursor.remaining_pos ended
        have within := (Statement.read place).within
        rw [Cursor.remaining_advance]
        omega
      have onwards := inductionHypothesis _ shorter (reaches.next ended) rfl
      rw [List.append_assoc, List.append_assoc] at onwards
      rw [Statement.readList.eq_def .program place,
        dif_neg (mt Scope.endsAt_program_iff.mp ended), Reading.errors_andThen]
      exact onwards

end MonkeySyntax
