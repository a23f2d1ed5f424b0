import MonkeySyntax.Token.Window

namespace MonkeySyntax

/-- A source is the list of its answers to come and the number of times it has been asked. A settled
source has promised to give no token behind an empty answer. -/
structure Source where
  answers : List (Option Token)
  polls : Nat
  settled : Bool
  kept : settled = true → none ∉ answers
deriving DecidableEq

namespace Source

/-- A fresh source has not been asked yet and promises nothing. -/
def ofAnswers (answers : List (Option Token)) : Source :=
  ⟨answers, 0, false, fun promise => absurd promise Bool.false_ne_true⟩

/-- A list of tokens is a source that gives them one by one. -/
def ofTokens (tokens : List Token) : Source :=
  ofAnswers (tokens.map some)

/-- A text is a source of the tokens in it. -/
def ofText (text : String) : Source :=
  ofTokens (Token.ofText text)

/-- A list may also promise that nothing comes behind its tokens. -/
def ofSettledTokens (tokens : List Token) : Source :=
  ⟨tokens.map some, 0, true, fun _ => by simp⟩

/-- A source without answers left has no token to give. -/
def poll (source : Source) : Option Token × Source :=
  (source.answers.head?.join,
    ⟨source.answers.tail, source.polls + 1, source.settled, fun promise empty =>
      source.kept promise (List.mem_of_mem_tail empty)⟩)

/-- Behind an empty answer a reader asks a settled source again and leaves any other alone. -/
def again (source : Source) : Source :=
  if source.settled then source.poll.2 else source

/-- The tokens in front of the first empty answer are those that a reader will see. -/
def visible : List (Option Token) → List Token
  | some token :: answers => token :: visible answers
  | _ => []

/-- The tokens of a source are the visible ones among its answers. -/
def tokens (source : Source) : List Token :=
  visible source.answers

/-- A chain of sources leaves each one but the last at its first empty answer. -/
def chain : List (List (Option Token)) → List (Option Token)
  | [] => []
  | [last] => last
  | first :: rest => first.takeWhile Option.isSome ++ chain rest

/-- Without an empty answer all tokens are visible. -/
@[simp] theorem visible_map_some (list : List Token) : visible (list.map some) = list := by
  induction list with
  | nil => rfl
  | cons token rest inductionHypothesis => simp [visible, inductionHypothesis]

/-- An empty answer hides all that would be answered later. -/
@[simp] theorem visible_map_some_append_none (list : List Token) (later : List (Option Token)) :
    visible (list.map some ++ none :: later) = list := by
  induction list with
  | nil => rfl
  | cons token rest inductionHypothesis => simp [visible, inductionHypothesis]

/-- The next source is seen behind the visible part of the one before it. -/
theorem visible_takeWhile_append (first later : List (Option Token)) :
    visible (first.takeWhile Option.isSome ++ later) = visible first ++ visible later := by
  induction first with
  | nil => rfl
  | cons answer rest inductionHypothesis =>
    cases answer with
    | none => rfl
    | some token => simp [visible, inductionHypothesis]

/-- A chain shows the visible tokens of its sources one source after the other. -/
theorem visible_chain (segments : List (List (Option Token))) :
    visible (chain segments) = segments.flatMap visible := by
  induction segments using chain.induct with
  | case1 => rfl
  | case2 last => simp [chain]
  | case3 first rest more inductionHypothesis =>
    rw [chain, visible_takeWhile_append, inductionHypothesis, List.flatMap_cons]
    exact more

/-- A list of tokens shows all of them. -/
@[simp] theorem tokens_ofTokens (list : List Token) : (ofTokens list).tokens = list := by
  simp [ofTokens, ofAnswers, tokens]

/-- So does a settled one. -/
@[simp] theorem tokens_ofSettledTokens (list : List Token) :
    (ofSettledTokens list).tokens = list := by
  simp [ofSettledTokens, tokens]

/-- Each poll is counted. -/
@[simp] theorem polls_poll (source : Source) : source.poll.2.polls = source.polls + 1 := rfl

/-- An empty answer means that no token is left to see. -/
theorem tokens_of_poll_eq_none {source : Source} (empty : source.poll.1 = none) :
    source.tokens = [] := by
  obtain ⟨answers, polls, settled, kept⟩ := source
  cases answers with
  | nil => rfl
  | cons answer answers =>
    cases answer with
    | none => rfl
    | some token => simp [poll] at empty

/-- A token given is the first of the tokens to see. -/
theorem tokens_of_poll_eq_some {source : Source} {token : Token}
    (given : source.poll.1 = some token) : source.tokens = token :: source.poll.2.tokens := by
  obtain ⟨answers, polls, settled, kept⟩ := source
  cases answers with
  | nil => simp [poll] at given
  | cons answer answers =>
    cases answer with
    | none => simp [poll] at given
    | some token => simp_all [poll, tokens, visible]

end Source

end MonkeySyntax
