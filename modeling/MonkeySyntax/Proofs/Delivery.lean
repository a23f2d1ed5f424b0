import MonkeySyntax.Proofs.Lockstep

namespace MonkeySyntax

/-- The second place sees the tokens of the first, and behind them nothing but ends of the
input. -/
def Cursor.EndsBehind (first second : Cursor) : Prop :=
  ∃ ends : List Token, (∀ token ∈ ends, token.kind = .endOfInput) ∧
    second.tokens = first.tokens ++ ends

namespace Cursor.EndsBehind

variable {first second : Cursor}

/-- Past the tokens of the first place the second one goes on over the ends of the input. -/
theorem advance (related : first.EndsBehind second) : first.advance.EndsBehind second.advance := by
  obtain ⟨ends, isEnd, sees⟩ := related
  rw [EndsBehind, tokens_advance, tokens_advance, sees]
  cases first.tokens with
  | nil => exact ⟨ends.tail, fun token member => isEnd token (List.mem_of_mem_tail member), rfl⟩
  | cons token rest => exact ⟨ends, isEnd, rfl⟩

/-- The current tokens have the same kind. -/
theorem kind_current (related : first.EndsBehind second) :
    second.current.kind = first.current.kind := by
  obtain ⟨ends, isEnd, sees⟩ := related
  rw [current_eq, current_eq, sees]
  cases first.tokens with
  | nil =>
    cases ends with
    | nil => rfl
    | cons token rest => exact isEnd token List.mem_cons_self
  | cons token rest => rfl

/-- While tokens are left the current ones are the same. -/
theorem current_eq (related : first.EndsBehind second) (present : 0 < first.remaining) :
    second.current = first.current := by
  obtain ⟨ends, isEnd, sees⟩ := related
  rw [Cursor.current_eq, Cursor.current_eq, sees]
  cases tokens : first.tokens with
  | nil => simp [remaining, tokens] at present
  | cons token rest => rfl

/-- What is next will be current, so it corresponds for the same reason. -/
theorem kind_next (related : first.EndsBehind second) : second.next.kind = first.next.kind := by
  rw [← Cursor.current_advance, ← Cursor.current_advance]
  exact related.advance.kind_current

theorem next_eq (related : first.EndsBehind second) (present : 1 < first.remaining) :
    second.next = first.next := by
  rw [← Cursor.current_advance, ← Cursor.current_advance]
  apply related.advance.current_eq
  rw [Cursor.remaining_advance]
  omega

end Cursor.EndsBehind

/-- Where no token is changed no integer is. -/
theorem Correspondence.keepsIntegers_id {token : Token} (_ : token.kind = .integer) :
    id token = token := rfl

/-- Places correspond when only ends of the input are left behind what both have in common. -/
def Correspondence.ending : Correspondence where
  change := id
  limit := 0
  Related := Cursor.EndsBehind
  keepsIntegers := @Correspondence.keepsIntegers_id
  kind_current related := related.kind_current
  kind_next related := related.kind_next
  current_eq related present := related.current_eq present
  next_eq related present := related.next_eq present
  advance related _ := related.advance

/-- Ends of the input behind the tokens of a source change neither the program nor the errors. -/
theorem Source.read_eq_of_ends {first second : Source} (ends : List Token)
    (isEnd : ∀ token ∈ ends, token.kind = .endOfInput)
    (sees : second.tokens = first.tokens ++ ends) :
    second.read.1 = first.read.1 ∧ second.read.2.errors = first.read.2.errors := by
  have related : (Cursor.start first).EndsBehind (Cursor.start second) := by
    refine ⟨ends, isEnd, ?_⟩
    rw [Cursor.tokens_start, Cursor.tokens_start, sees]
  have repeats := (Statement.inStep .ending).1 .program _ _ related (Nat.zero_le _)
  constructor
  · rw [Source.program_read, Source.program_read, repeats.value_eq]
    exact congrArg Program.mk (Statement.relabelledList_id _)
  · rw [Source.errors_read, Source.errors_read, repeats.errors_eq]

/-- A source may give its tokens, then ends of the input with any spelling, then an empty answer,
and then go on with anything. -/
def Source.ofEnded (tokens : List Token) (literals : List String)
    (later : List (Option Token)) : Source :=
  ofAnswers ((tokens ++ literals.map (Token.mk .endOfInput)).map some ++ none :: later)

/-- The program and the errors of a source are those of the plain list of its tokens. So are those
of a source that gives the same tokens and then comes to its end in any other way. The tokens of a
chain are those of its sources, each up to its first empty answer. -/
theorem read_depends_on_tokens (source : Source) (literals : List String)
    (later : List (Option Token)) :
    (source.read.1 = (Source.ofTokens source.tokens).read.1 ∧
        source.read.2.errors = (Source.ofTokens source.tokens).read.2.errors) ∧
      ((Source.ofEnded source.tokens literals later).read.1 =
          (Source.ofTokens source.tokens).read.1 ∧
        (Source.ofEnded source.tokens literals later).read.2.errors =
          (Source.ofTokens source.tokens).read.2.errors) ∧
      ∀ segments, source.answers = Source.chain segments →
        source.tokens = segments.flatMap Source.visible := by
  refine ⟨?_, ?_, ?_⟩
  · apply Source.read_eq_of_ends [] (by simp)
    rw [Source.tokens_ofTokens, List.append_nil]
  · apply Source.read_eq_of_ends (literals.map (Token.mk .endOfInput)) (by simp)
    rw [Source.tokens_ofTokens]
    exact Source.visible_map_some_append_none _ later
  · intro segments delivers
    rw [Source.tokens, delivers, Source.visible_chain]

end MonkeySyntax
