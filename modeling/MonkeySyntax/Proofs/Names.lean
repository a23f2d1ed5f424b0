import MonkeySyntax.Proofs.Concatenation
import MonkeySyntax.Proofs.Consistency
import MonkeySyntax.Proofs.RoundTrip
import MonkeySyntax.Proofs.TokenOrder

namespace MonkeySyntax

namespace Part

/-- A part can be a name that is no expression. -/
def name? : Part → Option Identifier
  | name identifier => some identifier
  | _ => none

/-- A let statement binds one name and a function binds its parameters. -/
def bound : Part → List Identifier
  | statement (.letBinding _ identifier _) => [identifier]
  | expression (.function _ parameters _) => parameters
  | _ => []

/-- A part with a name is the name itself or the expression made of it. -/
theorem eq_of_identifier? {part : Part} {identifier : Identifier}
    (named : part.identifier? = some identifier) :
    part = .expression (.identifier identifier) ∨ part = .name identifier := by
  unfold identifier? at named
  split at named
  · exact .inl (by rw [Option.some.inj named])
  · exact .inr (by rw [Option.some.inj named])
  · cases named

/-- Names are bound by let statements and functions alone. -/
theorem eq_of_mem_bound {part : Part} {identifier : Identifier}
    (binds : identifier ∈ part.bound) :
    (∃ token value, part = .statement (.letBinding token identifier value)) ∨
      ∃ token parameters body, part = .expression (.function token parameters body) := by
  unfold bound at binds
  split at binds
  · exact .inl ⟨_, _, by rw [List.mem_singleton.mp binds]⟩
  · exact .inr ⟨_, _, _, rfl⟩
  · cases binds

end Part

/-- The names among the parts are those that other parts bind, in the same order. -/
def NamesBound (parts : List Part) : Prop :=
  parts.filterMap Part.name? = parts.flatMap Part.bound

namespace NamesBound

variable {part : Part} {parts first second : List Part} {identifier : Identifier}

theorem nil : NamesBound [] := rfl

/-- Names that are bound on two sides are bound together. -/
theorem append (front : NamesBound first) (back : NamesBound second) :
    NamesBound (first ++ second) := by
  rw [NamesBound, List.filterMap_append, List.flatMap_append, front, back]

/-- A part stands directly before the names that it binds. -/
theorem node (noName : part.name? = none) (others : NamesBound parts) :
    NamesBound (part :: (part.bound.map .name ++ parts)) := by
  have names : (part.bound.map Part.name).filterMap Part.name? = part.bound := by
    rw [List.filterMap_map]
    exact List.filterMap_some
  have binders : (part.bound.map Part.name).flatMap Part.bound = [] := by
    rw [List.flatMap_map]
    exact List.flatMap_eq_nil_iff.mpr fun _ _ => rfl
  rw [NamesBound, List.filterMap_cons_none noName, List.filterMap_append, names, others,
    List.flatMap_cons, List.flatMap_append, binders, List.nil_append]

/-- A name is bound by a let statement or by a function. -/
theorem exists_binder (namesBound : NamesBound parts) (isName : .name identifier ∈ parts) :
    ∃ part ∈ parts, identifier ∈ part.bound := by
  have member : identifier ∈ parts.filterMap Part.name? :=
    List.mem_filterMap.mpr ⟨_, isName, rfl⟩
  rw [namesBound] at member
  exact List.mem_flatMap.mp member

/-- A name that is bound is a part of its own. -/
theorem mem_of_bound (namesBound : NamesBound parts) (isPart : part ∈ parts)
    (binds : identifier ∈ part.bound) : .name identifier ∈ parts := by
  have member : identifier ∈ parts.flatMap Part.bound := List.mem_flatMap.mpr ⟨part, isPart, binds⟩
  rw [← namesBound] at member
  obtain ⟨other, isOther, named⟩ := List.mem_filterMap.mp member
  cases other with
  | name identifier => rwa [← Option.some.inj named]
  | _ => cases named

end NamesBound

mutual

/-- All names in an expression are bound by the nodes that hold them. -/
theorem Expression.namesBound_parts : ∀ value : Expression, NamesBound value.parts
  | .identifier _ => .node rfl .nil
  | .integer _ _ => .node rfl .nil
  | .boolean _ _ => .node rfl .nil
  | .unary _ _ operand => .node rfl (Expression.namesBound_partsOption operand)
  | .binary _ left _ right =>
    (Expression.namesBound_partsOption left).append
      (.node rfl (Expression.namesBound_partsOption right))
  | .conditional _ condition consequence alternative =>
    .node rfl ((condition.namesBound_parts.append consequence.namesBound_parts).append
      (Block.namesBound_partsOption alternative))
  | .function _ _ body => .node rfl body.namesBound_parts
  | .call _ callee arguments =>
    callee.namesBound_parts.append (.node rfl (Expression.namesBound_partsList arguments))

/-- An absent expression has no names. -/
theorem Expression.namesBound_partsOption :
    ∀ value : Option Expression, NamesBound (Expression.partsOption value)
  | none => .node rfl .nil
  | some value => value.namesBound_parts

theorem Expression.namesBound_partsList :
    ∀ values : List Expression, NamesBound (Expression.partsList values)
  | [] => .nil
  | value :: values => value.namesBound_parts.append (Expression.namesBound_partsList values)

/-- A let statement stands in front of its name, and other statements have none of their own. -/
theorem Statement.namesBound_parts : ∀ statement : Statement, NamesBound statement.parts
  | .letBinding _ _ value => .node rfl (Expression.namesBound_partsOption value)
  | .returnValue _ value => .node rfl (Expression.namesBound_partsOption value)
  | .expression _ value => .node rfl (Expression.namesBound_partsOption value)

/-- A block binds no name itself. -/
theorem Block.namesBound_parts : ∀ block : Block, NamesBound block.parts
  | ⟨_, statements⟩ => .node rfl (Statement.namesBound_partsList statements)

theorem Block.namesBound_partsOption :
    ∀ block : Option Block, NamesBound (Block.partsOption block)
  | none => .nil
  | some block => block.namesBound_parts

/-- The names in several statements are bound one statement after the other. -/
theorem Statement.namesBound_partsList :
    ∀ statements : List Statement, NamesBound (Statement.partsList statements)
  | [] => .nil
  | statement :: statements =>
    statement.namesBound_parts.append (Statement.namesBound_partsList statements)

end

/-- A name is not spelled as a keyword. -/
theorem Token.IsName.ne_keyword {token : Token} (isName : token.IsName) :
    ∀ entry ∈ TokenKind.keywords, entry.1 ≠ token.literal := by
  obtain ⟨⟨letter, rest, spelled, isLetter, all, kind⟩, isIdentifier⟩ := isName
  have keywords : ∀ entry ∈ TokenKind.keywords, TokenKind.ofWord entry.1 ≠ .identifier := by decide
  intro entry isKeyword same
  exact keywords entry isKeyword (by rw [same, ← kind, isIdentifier])

/-- An identifier is proper when its token is one, so that its name is a word and no keyword. -/
def Identifier.IsProper (identifier : Identifier) : Prop :=
  identifier.token.IsName ∧ ∀ entry ∈ TokenKind.keywords, entry.1 ≠ identifier.name

section Text

variable {text : String} {part : Part} {identifier : Identifier}

/-- A stored token of a text that is an identifier is a proper one. -/
theorem isProper_of_stored (isPart : part ∈ (Source.ofText text).read.1.parts)
    (stored : part.token? = some identifier.token)
    (isIdentifier : identifier.token.kind = .identifier) : identifier.IsProper := by
  obtain ⟨events, run, -⟩ := (Source.ofText text).exists_run
  have ordered := run.kept.ordered
  rw [Cursor.tokens_start] at ordered
  have member : identifier.token ∈ storedTokens (Source.ofText text).read.1.parts :=
    List.mem_filterMap.mpr ⟨part, isPart, stored⟩
  have wellFormed := Source.wellFormed_of_mem_ofText
    (ordered.subset (List.mem_append_left _ member))
  have isName : identifier.token.IsName :=
    ⟨wellFormed.isWord_iff.mpr (.inl isIdentifier), isIdentifier⟩
  refine ⟨isName, ?_⟩
  rw [identifier.spelled]
  exact isName.ne_keyword

/-- A name that is used is proper. -/
theorem isProper_of_leaf
    (isPart : .expression (.identifier identifier) ∈ (Source.ofText text).read.1.parts) :
    identifier.IsProper := by
  obtain ⟨events, run, -⟩ := (Source.ofText text).exists_run
  have consistent := run.consistent _ isPart
  exact isProper_of_stored isPart rfl consistent.1

/-- A name that a let statement binds is proper. -/
theorem isProper_of_letBinding {token : Token} {value : Option Expression}
    (isPart : .statement (.letBinding token identifier value) ∈
      (Source.ofText text).read.1.parts) : identifier.IsProper := by
  obtain ⟨events, run, -⟩ := (Source.ofText text).exists_run
  have consistent := run.consistent _ isPart
  have isName : .name identifier ∈ (Source.ofText text).read.1.parts :=
    (Statement.namesBound_partsList _).mem_of_bound isPart List.mem_cons_self
  exact isProper_of_stored isName rfl consistent.2

/-- Names that are expressions and names that let statements bind are identifiers in every text.
The token of a parameter is not tested, so all names are identifiers exactly when the parameters
are. -/
theorem names_read_isProper_iff (text : String) :
    (∀ leaf, .expression (.identifier leaf) ∈ (Source.ofText text).read.1.parts →
      leaf.IsProper) ∧
    (∀ token identifier value,
      .statement (.letBinding token identifier value) ∈ (Source.ofText text).read.1.parts →
        identifier.IsProper) ∧
    ((∀ part ∈ (Source.ofText text).read.1.parts, ∀ identifier,
        part.identifier? = some identifier → identifier.IsProper) ↔
      ∀ token parameters body,
        .expression (.function token parameters body) ∈ (Source.ofText text).read.1.parts →
          ∀ parameter ∈ parameters, parameter.token.kind = .identifier) := by
  have namesBound : NamesBound (Source.ofText text).read.1.parts :=
    Statement.namesBound_partsList _
  refine ⟨fun _ isPart => isProper_of_leaf isPart,
    fun _ _ _ isPart => isProper_of_letBinding isPart, ?_, ?_⟩
  · intro proper token parameters body isFunction parameter isParameter
    have isName : .name parameter ∈ (Source.ofText text).read.1.parts :=
      namesBound.mem_of_bound isFunction isParameter
    exact (proper _ isName parameter rfl).1.2
  · intro identifiers part isPart identifier named
    rcases Part.eq_of_identifier? named with rfl | rfl
    · exact isProper_of_leaf isPart
    · obtain ⟨binder, isBinder, binds⟩ := namesBound.exists_binder isPart
      rcases Part.eq_of_mem_bound binds with ⟨token, value, rfl⟩ | ⟨token, parameters, body, rfl⟩
      · exact isProper_of_letBinding isBinder
      · exact isProper_of_stored isPart rfl (identifiers _ _ _ isBinder identifier binds)

/-- The number `5` is taken as the name of a parameter, and no error is found. -/
theorem number_read_as_name :
    (Source.ofText "fn(5) \x7b\x7d").read.2.errors = [] ∧
      ∃ part ∈ (Source.ofText "fn(5) \x7b\x7d").read.1.parts, ∃ identifier,
        part.identifier? = some identifier ∧ identifier.token = ⟨.integer, "5"⟩ ∧
          ¬identifier.IsProper := by
  have program : (Source.ofText "fn(5) \x7b\x7d").read.1 =
      ⟨[.expression ⟨.functionKeyword, "fn"⟩ (some (.function ⟨.functionKeyword, "fn"⟩
        [.ofToken ⟨.integer, "5"⟩] ⟨⟨.leftBrace, "\x7b"⟩, []⟩))]⟩ := by decide +kernel
  refine ⟨by decide +kernel, .name (.ofToken ⟨.integer, "5"⟩), ?_, .ofToken ⟨.integer, "5"⟩,
    rfl, rfl, ?_⟩
  · rw [program]
    exact .tail _ (.tail _ (.head _))
  · intro proper
    exact absurd proper.1.2 (by decide)

end Text

end MonkeySyntax
