import MonkeySyntax.Proofs.Guarantee
import MonkeySyntax.Proofs.Runs

namespace MonkeySyntax

/-- A cursor reaches the places to which it advances. -/
inductive Cursor.Reaches (origin : Cursor) : Cursor → Prop where
  | here : Cursor.Reaches origin origin
  | advance {cursor : Cursor} (before : Cursor.Reaches origin cursor) :
      Cursor.Reaches origin cursor.advance

/-- A semicolon is stepped over by advancing. -/
theorem Cursor.Reaches.terminated {origin cursor : Cursor} (before : origin.Reaches cursor) :
    origin.Reaches cursor.terminated := by
  unfold Cursor.terminated
  split
  · exact before.advance
  · exact before

/-- What is in view is always an end of the tokens that there were. -/
theorem Cursor.Reaches.suffix {origin cursor : Cursor} (reaches : origin.Reaches cursor) :
    cursor.tokens <:+ origin.tokens := by
  induction reaches with
  | here => exact List.suffix_rfl
  | @advance cursor _ inductionHypothesis =>
    exact cursor.tokens_advance_suffix.trans inductionHypothesis

section Runs

variable {origin start stop : Cursor}

/-- Two steps lead to the next parameter. -/
theorem ParametersRun.reaches {parameters : List Identifier}
    (run : ParametersRun start parameters stop) (before : origin.Reaches start) :
    origin.Reaches stop := by
  induction run with
  | one _ => exact before
  | more _ _ inductionHypothesis => exact inductionHypothesis before.advance.advance

/-- A list of parameters ends at a place that is reached. -/
theorem ParameterListRun.reaches {parameters : Option (List Identifier)} {events : List Event}
    (run : ParameterListRun start parameters events stop) (before : origin.Reaches start) :
    origin.Reaches stop := by
  cases run with
  | none _ => exact before.advance
  | some _ inner _ => exact (inner.reaches before.advance).advance
  | unclosed _ inner _ => exact inner.reaches before.advance

end Runs

mutual

/-- A run moves its cursor by advancing alone. -/
theorem ExpressionRun.reaches {origin start stop : Cursor} {level : Level}
    {value : Option Expression} {events : List Event}
    (run : ExpressionRun level start value events stop) (before : origin.Reaches start) :
    origin.Reaches stop :=
  match run with
  | .missing _ => before
  | .operand operand extension => extension.reaches (operand.reaches before)

/-- An operand ends at a place that is reached. -/
theorem OperandRun.reaches {origin start stop : Cursor} {value : Option Expression}
    {events : List Event} (run : OperandRun start value events stop)
    (before : origin.Reaches start) : origin.Reaches stop :=
  match run with
  | .identifier _ | .integer _ _ | .notInteger _ _ | .boolean _ => before
  | .bareConditional _ _ | .bareFunction _ _ => before
  | .unary _ inner => inner.reaches before.advance
  | .group _ inner _ => (inner.reaches before.advance).advance
  | .unclosedGroup _ inner _ => inner.reaches before.advance
  | .unclosedCondition _ _ test _ => test.reaches before.advance.advance
  | .bareConsequence _ _ test _ _ => (test.reaches before.advance.advance).advance
  | .conditional _ _ test _ _ branch _ => by
    have tested := test.reaches before.advance.advance
    exact branch.reaches tested.advance.advance
  | .bareAlternative _ _ test _ _ branch _ _ => by
    have tested := test.reaches before.advance.advance
    exact (branch.reaches tested.advance.advance).advance
  | .alternative _ _ test _ _ branch _ _ otherBranch => by
    have tested := test.reaches before.advance.advance
    have closed := branch.reaches tested.advance.advance
    exact otherBranch.reaches closed.advance.advance
  | .lostParameters _ _ list => list.reaches before.advance
  | .bareBody _ _ list _ => list.reaches before.advance
  | .function _ _ list _ inner => inner.reaches (list.reaches before.advance).advance

/-- So does what extends it. -/
theorem ExtensionRun.reaches {origin start stop : Cursor} {level : Level}
    {left value : Option Expression} {events : List Event}
    (run : ExtensionRun level left start value events stop) (before : origin.Reaches start) :
    origin.Reaches stop :=
  match run with
  | .stop _ => before
  | .binary _ _ rightOperand extension =>
    extension.reaches (rightOperand.reaches before.advance.advance)
  | .call _ _ list extension => extension.reaches (list.reaches before.advance)

/-- A list of arguments ends at a place that is reached. -/
theorem ArgumentListRun.reaches {origin start stop : Cursor}
    {arguments : Option (List Expression)} {events : List Event}
    (run : ArgumentListRun start arguments events stop) (before : origin.Reaches start) :
    origin.Reaches stop :=
  match run with
  | .none _ => before.advance
  | .some _ inner _ => (inner.reaches before.advance).advance
  | .unclosed _ inner _ => inner.reaches before.advance

/-- Two steps lead from an argument to the next one. -/
theorem ArgumentsRun.reaches {origin start stop : Cursor} {arguments : List Expression}
    {events : List Event} (run : ArgumentsRun start arguments events stop)
    (before : origin.Reaches start) : origin.Reaches stop :=
  match run with
  | .one inner _ => inner.reaches before
  | .more first _ list => list.reaches (first.reaches before).advance.advance

/-- A statement ends at a place that is reached. -/
theorem StatementRun.reaches {origin start stop : Cursor} {statement : Option Statement}
    {events : List Event} (run : StatementRun start statement events stop)
    (before : origin.Reaches start) : origin.Reaches stop :=
  match run with
  | .unnamed _ _ => before
  | .unassigned _ _ _ => before.advance
  | .letBinding _ _ _ inner => (inner.reaches before.advance.advance.advance).terminated
  | .returnValue _ inner => (inner.reaches before.advance).terminated
  | .expression _ _ inner => (inner.reaches before).terminated

/-- One step leads from a statement to the next one. -/
theorem StatementsRun.reaches {origin start stop : Cursor} {scope : Scope}
    {statements : List Statement} {events : List Event}
    (run : StatementsRun scope start statements events stop) (before : origin.Reaches start) :
    origin.Reaches stop :=
  match run with
  | .none _ => before
  | .more _ first list => list.reaches (first.reaches before).advance

/-- A block ends at a place that is reached. -/
theorem BlockRun.reaches {origin start stop : Cursor} {block : Block} {events : List Event}
    (run : BlockRun start block events stop) (before : origin.Reaches start) :
    origin.Reaches stop :=
  match run with
  | .block inner => inner.reaches before.advance

end

/-- A source that has been asked a number of times has as many answers less to give. -/
def Source.after (source : Source) (polls : Nat) : Source :=
  ⟨source.answers.drop polls, source.polls + polls, source.settled, fun promise empty =>
    source.kept promise (List.mem_of_mem_drop empty)⟩

namespace Source

variable {source : Source} {polls : Nat}

@[simp] theorem after_zero (source : Source) : source.after 0 = source := rfl

/-- One more poll gives the next answer, if there is one. -/
theorem poll_after (source : Source) (polls : Nat) :
    (source.after polls).poll.2 = source.after (polls + 1) := by
  simp [after, poll, List.tail_drop, Nat.add_assoc]

/-- Asked again, a settled source has been polled once more and any other is left as it was. -/
theorem again_after (source : Source) (polls : Nat) :
    (source.after polls).again =
      source.after (if source.settled then polls + 1 else polls) := by
  change (if source.settled then (source.after polls).poll.2 else source.after polls) = _
  rw [poll_after]
  exact (apply_ite source.after _ _ _).symm

/-- The end of the tokens has been asked for: once, or more often if the source is settled. -/
structure AskedForEnd (source : Source) (polls : Nat) : Prop where
  seen : source.tokens.length + 1 ≤ polls
  once : source.settled = false → polls = source.tokens.length + 1
  again : source.settled = true → source.tokens.length + 2 ≤ polls

/-- A source that has shown its end may be asked again. -/
theorem exists_again (seen : source.tokens.length + 1 ≤ polls)
    (once : source.settled = false → polls = source.tokens.length + 1) :
    ∃ later, (source.after polls).again = source.after later ∧ source.AskedForEnd later := by
  refine ⟨_, source.again_after polls, ?_⟩
  cases promise : source.settled with
  | false => exact ⟨seen, once, by simp [promise]⟩
  | true => exact ⟨Nat.le_succ_of_le seen, by simp [promise], fun _ => Nat.succ_le_succ seen⟩

end Source

/-- A cursor keeps to a source when each token up to the next one has cost one poll, an empty answer
one more, and what was asked behind it is allowed. -/
def Cursor.KeepsTo (source : Source) : Cursor → Prop
  | .more _ _ rest =>
    ∃ polls, rest = source.after polls ∧ polls + rest.tokens.length = source.tokens.length
  | .last _ rest => rest = source.after (source.tokens.length + 1)
  | .done rest => ∃ polls, rest = source.after polls ∧ source.AskedForEnd polls

namespace Cursor

variable {source : Source}

/-- A cursor is filled by one poll. -/
theorem keepsTo_fill {polls : Nat} (current : Token)
    (counted : polls + (source.after polls).tokens.length = source.tokens.length) :
    (fill current (source.after polls)).KeepsTo source := by
  have behind := source.poll_after polls
  unfold fill
  split
  · next next rest given =>
    rw [given] at behind
    have tokens := Source.tokens_of_poll_eq_some (congrArg Prod.fst given)
    rw [given] at tokens
    rw [tokens, List.length_cons] at counted
    exact ⟨polls + 1, behind, (Nat.add_right_comm _ _ _).trans counted⟩
  · next rest empty =>
    rw [empty] at behind
    have tokens := Source.tokens_of_poll_eq_none (congrArg Prod.fst empty)
    rw [tokens, List.length_nil, Nat.add_zero] at counted
    rw [KeepsTo, ← counted]
    exact behind

/-- A cursor starts with one poll for each token in view. -/
theorem keepsTo_start (source : Source) : (start source).KeepsTo source := by
  have behind := source.poll_after 0
  rw [Source.after_zero] at behind
  unfold start
  split
  · next current rest given =>
    rw [given] at behind
    have tokens := Source.tokens_of_poll_eq_some (congrArg Prod.fst given)
    rw [given] at tokens
    change rest = source.after 1 at behind
    subst behind
    apply keepsTo_fill
    rw [tokens, List.length_cons, Nat.add_comm]
  · next rest empty =>
    rw [empty] at behind
    have tokens := Source.tokens_of_poll_eq_none (congrArg Prod.fst empty)
    change rest = source.after 1 at behind
    subst behind
    have counted : 1 = source.tokens.length + 1 := by rw [tokens, List.length_nil]
    exact Source.exists_again (Nat.le_of_eq counted.symm) fun _ => counted

/-- Advancing polls for the one token that comes into view. -/
theorem KeepsTo.advance {cursor : Cursor} (keeps : cursor.KeepsTo source) :
    cursor.advance.KeepsTo source := by
  cases cursor with
  | more current next rest =>
    obtain ⟨polls, isRest, counted⟩ := keeps
    subst isRest
    exact keepsTo_fill next counted
  | last current rest =>
    obtain rfl : rest = source.after (source.tokens.length + 1) := keeps
    exact Source.exists_again (Nat.le_refl _) fun _ => rfl
  | done rest =>
    obtain ⟨polls, rfl, asked⟩ := keeps
    exact Source.exists_again asked.seen asked.once

/-- All places that a cursor reaches keep to the source. -/
theorem Reaches.keepsTo {origin cursor : Cursor} (reaches : origin.Reaches cursor)
    (keeps : origin.KeepsTo source) : cursor.KeepsTo source := by
  induction reaches with
  | here => exact keeps
  | advance _ inductionHypothesis => exact inductionHypothesis.advance

/-- A source that is not settled is asked for at most one empty answer. -/
theorem KeepsTo.exists_polls {cursor : Cursor} (keeps : cursor.KeepsTo source) :
    ∃ polls, cursor.source = source.after polls ∧
      (source.settled = false → polls ≤ source.tokens.length + 1) ∧
        (cursor.tokens = [] → source.AskedForEnd polls) := by
  cases cursor with
  | more current next rest =>
    obtain ⟨polls, isRest, counted⟩ := keeps
    exact ⟨polls, isRest, fun _ => by omega, fun empty => absurd empty (List.cons_ne_nil _ _)⟩
  | last current rest =>
    exact ⟨_, keeps, fun _ => Nat.le_refl _, fun empty => absurd empty (List.cons_ne_nil _ _)⟩
  | done rest =>
    obtain ⟨polls, isRest, asked⟩ := keeps
    exact ⟨polls, isRest, fun unsettled => Nat.le_of_eq (asked.once unsettled), fun _ => asked⟩

end Cursor

namespace Parser

/-- A parser that has come to the end of the input answers from the errors it has. -/
def lastAnswer (parser : Parser) : Request → Answer
  | .readProgram => .program ⟨[]⟩
  | .parse => .result (if parser.errors = [] then .ok ⟨[]⟩ else .error parser.errors)
  | .errors => .errors parser.errors

variable {parser : Parser}

/-- At the end of the input a program is empty and costs nothing. -/
theorem readProgram_of_ended (ended : parser.cursor.current.kind = .endOfInput) :
    parser.readProgram = (⟨[]⟩, ⟨parser.cursor, parser.record.append .empty⟩) := by
  rw [readProgram, Statement.readList, dif_pos (by rw [ended]; rfl)]
  rfl

/-- At the end of the input a request leaves the parser where it is. -/
theorem answer_of_ended (ended : parser.cursor.current.kind = .endOfInput) (request : Request) :
    (parser.answer request).1 = parser.lastAnswer request ∧
      (parser.answer request).2.cursor = parser.cursor ∧
        (parser.answer request).2.errors = parser.errors := by
  have errors : Parser.errors ⟨parser.cursor, parser.record.append .empty⟩ = parser.errors := by
    rw [Parser.errors, Record.errors_append]
    exact List.append_nil _
  cases request with
  | readProgram =>
    rw [answer, readProgram_of_ended ended]
    exact ⟨rfl, rfl, errors⟩
  | parse =>
    rw [answer, parse, readProgram_of_ended ended]
    refine ⟨?_, rfl, errors⟩
    rw [lastAnswer, ← errors]
  | errors => exact ⟨rfl, rfl, rfl⟩

/-- So does a whole session, and its answers are the same every time. -/
theorem session_of_ended (ended : parser.cursor.current.kind = .endOfInput)
    (requests : List Request) :
    (parser.session requests).1 = requests.map parser.lastAnswer ∧
      (parser.session requests).2.cursor = parser.cursor ∧
        (parser.session requests).2.errors = parser.errors := by
  induction requests generalizing parser with
  | nil => exact ⟨rfl, rfl, rfl⟩
  | cons request requests inductionHypothesis =>
    obtain ⟨answered, stays, keepsErrors⟩ := answer_of_ended ended request
    have endedNext : (parser.answer request).2.cursor.current.kind = .endOfInput := by
      rw [stays, ended]
    obtain ⟨others, staysNext, keepsErrorsNext⟩ := inductionHypothesis endedNext
    have same : (parser.answer request).2.lastAnswer = parser.lastAnswer := by
      funext other
      cases other <;> simp [lastAnswer, keepsErrors]
    rw [same] at others
    rw [List.map_cons, session]
    exact ⟨congrArg₂ List.cons answered others, staysNext.trans stays,
      keepsErrorsNext.trans keepsErrors⟩

end Parser

/-- The source has been polled as often as its tokens and its end require. -/
theorem Source.exists_polls_read (source : Source) :
    ∃ polls, source.read.2.source = source.after polls ∧
      (source.settled = false → polls ≤ source.tokens.length + 1) ∧
        ((∀ token ∈ source.tokens, token.kind ≠ .endOfInput) → source.AskedForEnd polls) := by
  have run := source.read_follows
  have reaches := run.reaches .here
  have keeps := reaches.keepsTo (Cursor.keepsTo_start source)
  obtain ⟨polls, isSource, bounded, asked⟩ := keeps.exists_polls
  refine ⟨polls, isSource, bounded, fun endFree => asked ?_⟩
  have endFreeStart : (Cursor.start source).EndFree := by
    rw [Cursor.EndFree, Cursor.tokens_start]
    exact endFree
  have ended := Scope.endsAt_program_iff.mp run.endsAt_current
  exact (endFreeStart.of_suffix reaches.suffix).tokens_eq_nil ended

/-- Reading a source comes to its end. A source that is not settled has then been polled once for
each token read and at most once for an empty answer. From there on no request polls the source, and
every answer follows from the errors found so far. -/
theorem read_exhausts (source : Source) :
    source.read.2.cursor.current.kind = .endOfInput ∧
      (∃ polls, source.read.2.source = source.after polls ∧
        (source.settled = false →
          polls ≤ source.tokens.length + 1 ∧
            ((∀ token ∈ source.tokens, token.kind ≠ .endOfInput) →
              polls = source.tokens.length + 1))) ∧
      ∀ requests,
        (source.read.2.session requests).1 = requests.map source.read.2.lastAnswer ∧
          (source.read.2.session requests).2.source = source.read.2.source ∧
          (source.read.2.session requests).2.errors = source.read.2.errors := by
  have ended := Scope.endsAt_program_iff.mp source.read_follows.endsAt_current
  apply And.intro ended
  constructor
  · obtain ⟨polls, isSource, bounded, asked⟩ := source.exists_polls_read
    refine ⟨polls, isSource, fun unsettled => ⟨bounded unsettled, fun endFree => ?_⟩⟩
    exact (asked endFree).once unsettled
  · intro requests
    obtain ⟨answers, stays, keepsErrors⟩ := Parser.session_of_ended ended requests
    exact ⟨answers, congrArg Cursor.source stays, keepsErrors⟩

/-- A token behind an empty answer is never asked for. -/
example :
    (Source.ofAnswers [some ⟨.trueKeyword, "true"⟩, none, some ⟨.integer, "1"⟩]).read.2.source =
      (Source.ofAnswers [some ⟨.trueKeyword, "true"⟩, none, some ⟨.integer, "1"⟩]).after 2 := by
  decide +kernel

/-- A settled source is polled behind its first empty answer, if none of its tokens ends the input:
reading always goes one token further than there are. -/
theorem length_tokens_lt_polls_read (source : Source) (settled : source.settled = true)
    (endFree : ∀ token ∈ source.tokens, token.kind ≠ .endOfInput) :
    source.polls + source.tokens.length + 2 ≤ source.read.2.source.polls := by
  obtain ⟨polls, isSource, -, asked⟩ := source.exists_polls_read
  have again := (asked endFree).again settled
  rw [isSource, Nat.add_assoc]
  exact Nat.add_le_add_left again _

/-- The single token of a settled source costs three polls, one more than its end requires. -/
theorem polls_read_settledInteger :
    ¬(Source.ofSettledTokens [⟨.integer, "1"⟩]).read.2.source.polls ≤
      (Source.ofSettledTokens [⟨.integer, "1"⟩]).tokens.length + 1 := by
  decide +kernel

end MonkeySyntax
