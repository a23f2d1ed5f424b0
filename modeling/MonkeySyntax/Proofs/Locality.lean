import MonkeySyntax.Proofs.Guarantee
import MonkeySyntax.Proofs.Lockstep
import MonkeySyntax.Reading.Loop
import MonkeySyntax.Tree.Equality

namespace MonkeySyntax

/-- Places in front of a shared token correspond when the tokens up to that one are the same. The
current token of a place is in front of the shared one, so the next one is shared at the latest. -/
def Correspondence.sharing (shared : Token) (behind others : List Token) : Correspondence where
  change := id
  limit := behind.length + 2
  Related first second := ∃ token front, first.tokens = token :: (front ++ shared :: behind) ∧
    second.tokens = token :: (front ++ shared :: others)
  keepsIntegers _ := rfl
  kind_current := by
    rintro first second ⟨token, front, starts, startsImage⟩
    rw [Cursor.current_of_tokens starts, Cursor.current_of_tokens startsImage]
  kind_next := by
    rintro first second ⟨token, front, starts, startsImage⟩
    rw [Cursor.next_eq, Cursor.next_eq, starts, startsImage]
    cases front <;> rfl
  current_eq := by
    rintro first second ⟨token, front, starts, startsImage⟩ _
    rw [Cursor.current_of_tokens starts, Cursor.current_of_tokens startsImage, id]
  next_eq := by
    rintro first second ⟨token, front, starts, startsImage⟩ _
    rw [Cursor.next_eq, Cursor.next_eq, starts, startsImage]
    cases front <;> rfl
  advance := by
    rintro first second ⟨token, front, starts, startsImage⟩ within
    rw [Cursor.tokens_advance, Cursor.tokens_advance, starts, startsImage, List.tail_cons,
      List.tail_cons]
    cases front with
    | nil => simp [Cursor.remaining, starts] at within
    | cons next front => exact ⟨next, front, rfl, rfl⟩

/-- What is read depends on the tokens in view only. -/
theorem Statement.readList_of_tokens_eq {first second : Cursor} (scope : Scope)
    (same : second.tokens = first.tokens) :
    (Statement.readList scope second).value = (Statement.readList scope first).value ∧
      (Statement.readList scope second).errors = (Statement.readList scope first).errors := by
  have unchanged : second.tokens = first.tokens.map id := by rw [same, List.map_id]
  have repeats := (Statement.inStep (.ofChange id (fun _ => rfl) fun _ _ => rfl)).1 scope first
    second unchanged (Nat.zero_le _)
  refine ⟨repeats.value_eq.trans ?_, repeats.errors_eq⟩
  exact Statement.relabelledList_id _

/-- A statement in front of a shared token is the same whatever stands behind that token. -/
theorem Statement.read_of_shared {first second : Cursor} {token last shared : Token}
    {front left behind others : List Token} (present : first.current.kind ≠ .endOfInput)
    (starts : first.tokens = token :: (front ++ shared :: behind))
    (startsImage : second.tokens = token :: (front ++ shared :: others))
    (stops : (Statement.read first).rest.tokens = last :: (left ++ shared :: behind)) :
    (Statement.read second).value = (Statement.read first).value ∧
      (Statement.read second).errors = (Statement.read first).errors ∧
        (Statement.read second).rest.tokens = last :: (left ++ shared :: others) := by
  have within : behind.length + 2 ≤ (Statement.read first).rest.remaining := by
    rw [Cursor.remaining, stops, List.length_cons, List.length_append, List.length_cons]
    omega
  have repeats := (Statement.inStep (.sharing shared behind others)).2 first second
    ⟨token, front, starts, startsImage⟩ present within
  obtain ⟨other, between, stopsFirst, stopsSecond⟩ := repeats.related
  rw [stops, List.cons.injEq] at stopsFirst
  obtain ⟨rfl, sameFront⟩ := stopsFirst
  obtain rfl := List.append_cancel_right sameFront
  refine ⟨repeats.value_eq.trans ?_, repeats.errors_eq, stopsSecond⟩
  have kept : Statement.relabelled id = id := funext Statement.relabelled_id
  rw [Correspondence.sharing, kept, Option.map_id, id]

/-- The loop comes to a token in the same way whatever stands behind that token. -/
theorem Cursor.LoopReaches.of_shared {first second place : Cursor} {statements : List Statement}
    {errors : List SyntaxError} {shared : Token} {front left behind others : List Token}
    (reaches : first.LoopReaches statements errors place)
    (starts : first.tokens = front ++ shared :: behind)
    (startsImage : second.tokens = front ++ shared :: others)
    (stops : place.tokens = left ++ shared :: behind) :
    ∃ image, second.LoopReaches statements errors image ∧
      image.tokens = left ++ shared :: others := by
  induction reaches generalizing left with
  | start =>
    rw [starts] at stops
    obtain rfl := List.append_cancel_right stops
    exact ⟨second, .start, startsImage⟩
  | @next statements errors place before continues inductionHypothesis =>
    rw [Cursor.tokens_advance] at stops
    have atLast : (Statement.read place).rest.tokens =
        (Statement.read place).rest.current :: (left ++ shared :: behind) := by
      rw [Cursor.tokens_eq_cons_of_tail (by rw [stops]; simp), stops]
    -- The tokens of the statement stand between its own place and the shared token.
    obtain ⟨passed, suffix⟩ := (Statement.read place).suffix
    obtain ⟨token, between, split⟩ := List.exists_cons_of_ne_nil
      (List.append_ne_nil_of_right_ne_nil passed
        (List.cons_ne_nil (Statement.read place).rest.current left))
    have atPlace : place.tokens = token :: (between ++ shared :: behind) := by
      rw [← suffix, atLast, ← List.cons_append, ← List.cons_append, ← split, List.append_assoc]
    obtain ⟨image, reachesImage, atImage⟩ := @inductionHypothesis (token :: between) atPlace
    obtain ⟨sameValue, sameErrors, stopsImage⟩ :=
      Statement.read_of_shared continues atPlace atImage atLast
    have continuesImage : image.current.kind ≠ .endOfInput := by
      rw [Cursor.current_of_tokens atImage, ← Cursor.current_of_tokens atPlace]
      exact continues
    refine ⟨(Statement.read image).rest.advance, ?_, ?_⟩
    · rw [← sameValue, ← sameErrors]
      exact .next reachesImage continuesImage
    · rw [Cursor.tokens_advance, stopsImage, List.tail_cons]

/-- Statements end at places that are visible from both sides: the tokens behind the one to which
the loop has come have no influence on what has been collected, and the tokens and errors in front
of it have none on what is read from there on. -/
theorem read_take_append (tokens : List Token) (index : Nat) (inside : index < tokens.length)
    (statements : List Statement) (errors : List SyntaxError) (place : Cursor)
    (reaches : (Cursor.start (Source.ofTokens tokens)).LoopReaches statements errors place)
    (atToken : place.tokens = tokens.drop index) (others : List Token) :
    (Source.ofTokens (tokens.take (index + 1) ++ others)).read.1.statements =
        statements ++ (Source.ofTokens (tokens[index] :: others)).read.1.statements ∧
      (Source.ofTokens (tokens.take (index + 1) ++ others)).read.2.errors =
        errors ++ (Source.ofTokens (tokens[index] :: others)).read.2.errors := by
  have starts : (Cursor.start (Source.ofTokens tokens)).tokens =
      tokens.take index ++ tokens[index] :: tokens.drop (index + 1) := by
    rw [Cursor.tokens_start, Source.tokens_ofTokens, List.getElem_cons_drop,
      List.take_append_drop]
  have startsImage : (Cursor.start (Source.ofTokens (tokens.take (index + 1) ++ others))).tokens =
      tokens.take index ++ tokens[index] :: others := by
    rw [Cursor.tokens_start, Source.tokens_ofTokens, List.take_succ_eq_append_getElem inside,
      List.append_assoc, List.singleton_append]
  have stops : place.tokens = [] ++ tokens[index] :: tokens.drop (index + 1) := by
    rw [atToken, List.getElem_cons_drop, List.nil_append]
  obtain ⟨image, reachesImage, atImage⟩ := reaches.of_shared starts startsImage stops
  have same : (Cursor.start (Source.ofTokens (tokens[index] :: others))).tokens =
      image.tokens := by
    rw [Cursor.tokens_start, Source.tokens_ofTokens, atImage, List.nil_append]
  obtain ⟨value, causes⟩ := reachesImage.readList
  obtain ⟨sameValue, sameErrors⟩ := Statement.readList_of_tokens_eq .program same
  constructor
  · rw [Source.program_read, Source.program_read, value, sameValue]
  · rw [Source.errors_read, Source.errors_read, causes, sameErrors]

/-- These are the tokens of `(x; y`, where no parenthesis closes the group. -/
def openGroupTokens : List Token :=
  [⟨.leftParenthesis, "("⟩, ⟨.identifier, "x"⟩, ⟨.semicolon, ";"⟩, ⟨.identifier, "y"⟩]

/-- This is the place in front of `y`. -/
def openGroupPlace : Cursor :=
  (Statement.read (.start (Source.ofTokens openGroupTokens))).rest.advance

/-- The failed group is a statement without a value, and one error is noted for it. -/
theorem loopReaches_openGroupPlace :
    (Cursor.start (Source.ofTokens openGroupTokens)).LoopReaches
      [.expression ⟨.leftParenthesis, "("⟩ none] [.unexpected .rightParenthesis .semicolon]
      openGroupPlace := by
  have statements : (Statement.read (.start (Source.ofTokens openGroupTokens))).value.toList =
      [.expression ⟨.leftParenthesis, "("⟩ none] := by decide +kernel
  have errors : (Statement.read (.start (Source.ofTokens openGroupTokens))).errors =
      [.unexpected .rightParenthesis .semicolon] := by decide +kernel
  have reaches := Cursor.LoopReaches.start.next
    (show (Cursor.start (Source.ofTokens openGroupTokens)).current.kind ≠ .endOfInput by decide)
  rw [statements, errors] at reaches
  exact reaches

/-- Other tokens behind the second statement leave the open group in front of it as it is. -/
theorem read_openGroupTokens_append :
    3 < openGroupTokens.length ∧
      (Cursor.start (Source.ofTokens openGroupTokens)).LoopReaches
        [.expression ⟨.leftParenthesis, "("⟩ none] [.unexpected .rightParenthesis .semicolon]
        openGroupPlace ∧
      openGroupPlace.tokens = openGroupTokens.drop 3 ∧
      (Source.ofTokens (openGroupTokens ++ [⟨.plus, "+"⟩])).read.1.statements =
        .expression ⟨.leftParenthesis, "("⟩ none ::
          (Source.ofTokens [⟨.identifier, "y"⟩, ⟨.plus, "+"⟩]).read.1.statements ∧
      (Source.ofTokens (openGroupTokens ++ [⟨.plus, "+"⟩])).read.2.errors =
        .unexpected .rightParenthesis .semicolon ::
          (Source.ofTokens [⟨.identifier, "y"⟩, ⟨.plus, "+"⟩]).read.2.errors := by
  have inside : 3 < openGroupTokens.length := by decide
  have atToken : openGroupPlace.tokens = openGroupTokens.drop 3 := by decide +kernel
  exact ⟨inside, loopReaches_openGroupPlace, atToken,
    read_take_append openGroupTokens 3 inside _ _ _ loopReaches_openGroupPlace atToken
      [⟨.plus, "+"⟩]⟩

end MonkeySyntax
