import EnvInline.Proofs.LiteralText
import EnvInline.Proofs.WrittenTo
import EnvInline.SourceFile

/-!
# Literals in their places

What is written for an import is read again where the import's name stood. There a string is read
like the name wherever the grammar has an operand, whatever follows it, and reported where something
is written to it; no interface or class is named by it. `void 0` is read behind operators only, with
what follows it behind its zero: it is a fault behind `new`, as a superclass and as the base of a
power. Where a member of it is taken, its tokens already hold a fault.

* `Literal.literal_reads_back` — all of this;
* `Literal.ReadsText`, `LiteralInPlace`, `VoidInPlace` — the tokens, and the two shapes in their
  places.

A string that spells half of a surrogate pair is written with the escape of that half, and the
token holds the half by its spelling again; as a value of the language it is another string.
-/

namespace EnvInline.Syntax

/-! ## Faults -/

/-- The computation ends with a fault. -/
def Faults {α : Type} (x : P α) (env : Surroundings) (s : State) : Prop :=
  ∃ f s', x env s = .error f s'

section

variable {α β : Type} {x : P α} {f : α → P β} {env : Surroundings} {s s' : State}

theorem Faults.bind (h : Faults x env s) : Faults (x >>= f) env s := by
  obtain ⟨e, s', h⟩ := h
  exact ⟨e, s', by rw [run_bind, h]⟩

theorem Faults.step {a : α} (hx : x env s = .ok a s') (h : Faults (f a) env s') :
    Faults (x >>= f) env s := by
  obtain ⟨e, s'', h⟩ := h
  exact ⟨e, s'', (run_bind_of_ok hx).trans h⟩

theorem Faults.behind (h : ∀ a s', Faults (f a) env s') : Faults (x >>= f) env s := by
  cases hx : x env s with
  | ok a s' => exact .step hx (h a s')
  | error e s' => exact .bind ⟨e, s', hx⟩

theorem Faults.forIn {n : Nat} (hn : 0 < n) {b : β} {f : Unit → β → P (ForInStep β)}
    (h : Faults (f () b) env s) : Faults (forIn (Turns.mk n) b f) env s := by
  obtain ⟨n, rfl⟩ := Nat.exists_eq_succ_of_ne_zero (Nat.pos_iff_ne_zero.mp hn)
  obtain ⟨e, s', h⟩ := h
  exact ⟨e, s', by rw [run_forIn_succ, h]⟩

theorem faults_refuse (cause : SyntaxError) : Faults (refuse cause : P α) env s := by
  refine .behind fun place s => .behind fun t? s => ?_
  split
  · exact .behind fun _ s => .behind fun _ s => ⟨_, _, rfl⟩
  · exact ⟨_, _, rfl⟩

end

/-! ## Strings and numbers -/

/-- The token is a literal, and this is its node. -/
inductive LiteralToken (span : Span) : Token → Tree → Prop where
  | string (value raw : String) :
    LiteralToken span (.string value raw) (.node (.stringLiteral value (some raw)) span [])
  | number (value : Binary64) (raw : String) :
    LiteralToken span (.number value raw) (.node (.numberLiteral value (some raw)) span [])

/-- The node of an ordinary name. -/
def plainName (w : String) (span : Span) : Tree := .node (.reference (.unresolved w)) span []

namespace LiteralToken

variable {span : Span} {t : Token} {e : Tree} (h : LiteralToken span t e)
include h

theorem operand : Operand span t e := by
  cases h with
  | string value raw => exact .string value raw
  | number value raw => exact .number value raw

theorem stands {w : String} (hw : isPlainName w = true) : Stands e (plainName w span) := by
  have hopen : isOpenWord (.reference (.unresolved w)) = false := by
    have hasync : w ≠ "async" := ne_of_isPlainName hw (by decide)
    simp [isOpenWord_eq_false, Ident.unresolved, hasync]
  cases h with
  | string value raw => exact .string value (some raw) hopen span
  | number value raw => exact .number value (some raw) hopen span

theorem noPlace : NoPlace e := by
  cases h with
  | string value raw => exact noPlace_string value (some raw) span
  | number value raw => exact noPlace_number value (some raw) span

theorem isDeniedTarget_eq : isDeniedTarget e = false := by
  cases h <;> rfl

/-- Nothing stands before a literal that is an operand. -/
theorem unary_eq (env : Surroundings) (s : State) (broken : Bool) :
    unary env (s.showing t span broken) =
      (rule .leftHandSide >>= afterOperand) env (s.showing t span broken) := by
  obtain ⟨⟨types, markup⟩, text, turns, run⟩ := env
  cases h <;> cases types <;> cases markup <;> rfl

/-- Interfaces have names. -/
theorem faults_heritage (env : Surroundings) (s : State) (broken : Bool) :
    Faults heritage env (s.showing t span broken) := by
  cases h <;> exact ⟨_, _, rfl⟩

/-- A directive that opens a body is looked at together with the parameters. -/
theorem run_bodyBlock {env : Surroundings} {s s' : State} {allow : Bool} {place place' : Span}
    {rest : List Tree} (htypes : env.dialect.types = false)
    (hstrict : isUseStrict (.node .expressionStatement place' [e]) = true)
    (hblock : env.run (.block allow) s =
      .ok (.node .block place (.node .expressionStatement place' [e] :: rest)) s') :
    bodyBlock false allow env s =
      .ok (.node .block place (.node .expressionStatement place' [e] :: rest))
        (s'.reported place'.lo .illegalDirective) := by
  have hdirective : isDirective (.node .expressionStatement place' [e]) = true := by
    cases h with
    | string => rfl
    | number => cases hstrict
  have hfound : strictDirective?
      (.node .block place (.node .expressionStatement place' [e] :: rest)) =
      some (.node .expressionStatement place' [e]) := by
    simp [strictDirective?, Tree.children, hdirective, hstrict]
  unfold bodyBlock
  rw [run_bind_of_ok hblock, run_bind_of_ok (run_hasTypes env s'), htypes]
  simp only [hfound]
  rfl

end LiteralToken

/-- A literal is read in its place like an ordinary name that opens no arrow function there, and
what follows it too. -/
structure LiteralInPlace (dialect : Dialect) (source : List Char) (turns depth : Nat) (s : State)
    (broken : Bool) (w : String) (span : Span) (t : Token) (e : Tree) : Prop where
  /-- Members, indices and templates behind it, with a call behind `new` or without. -/
  object : ∀ isNew, SameEnd Stands
    (memberOrNew isNew (surroundings dialect source turns depth) (s.showing t span broken))
    (memberOrNew isNew (surroundings dialect source turns depth) (s.showing (.name w) span broken))
  /-- Calls, tags and optional chains. -/
  callee : SameEnd Stands
    (leftHandSide (surroundings dialect source turns (depth + 1)) (s.showing t span broken))
    (leftHandSide (surroundings dialect source turns (depth + 1))
      (s.showing (.name w) span broken))
  constructed : ∀ start isNew, SameEnd Stands
    (newAfter start isNew (surroundings dialect source turns (depth + 1))
      (s.showing t span broken))
    (newAfter start isNew (surroundings dialect source turns (depth + 1))
      (s.showing (.name w) span broken))
  superclass : SameEnd (fun a b => Stands a.1 b.1 ∧ a.2 = b.2)
    (superclass (surroundings dialect source turns (depth + 2)) (s.showing t span broken))
    (superclass (surroundings dialect source turns (depth + 2))
      (s.showing (.name w) span broken))
  /-- An operand of prefix operators, and of `++` and `--` if these stand behind it. -/
  operand : ∀ env : Surroundings, unary env (s.showing t span broken) =
    (rule .leftHandSide >>= afterOperand) env (s.showing t span broken)
  /-- Binary operators, `**` among them, and casts. -/
  operators : ∀ level, Alike Stands (operators e level) (operators (plainName w span) level)
  written : ∀ env s t', InParens e t' → WrittenTo env s t' env.dialect.types
  heritage : ∀ env, Faults heritage env (s.showing t span broken)
  /-- A statement that is `"use strict"` may not open the body of a function whose parameters are
  more than names. -/
  directive : ∀ (env : Surroundings) (s s' : State) (allow : Bool) (place place' : Span)
    (rest : List Tree), env.dialect.types = false →
    isUseStrict (.node .expressionStatement place' [e]) = true →
    env.run (.block allow) s =
      .ok (.node .block place (.node .expressionStatement place' [e] :: rest)) s' →
    bodyBlock false allow env s =
      .ok (.node .block place (.node .expressionStatement place' [e] :: rest))
        (s'.reported place'.lo .illegalDirective)

theorem literalInPlace {dialect : Dialect} {source : List Char} {turns depth : Nat} {s : State}
    {broken : Bool} {w : String} (hw : isPlainName w = true) {span : Span}
    (hstart : s.arrowStart ≠ some span.lo) {t : Token} {e : Tree} (h : LiteralToken span t e) :
    LiteralInPlace dialect source turns depth s broken w span t e where
  object isNew := memberOrNew_alike h.operand (.name hw) (h.stands hw) hstart broken isNew
  callee := leftHandSide_alike depth h.operand (.name hw) (h.stands hw) hstart broken
  constructed start isNew :=
    newAfter_alike depth h.operand (.name hw) (h.stands hw) hstart broken start isNew
  superclass := superclass_alike depth h.operand (.name hw) (h.stands hw) hstart broken
  operand env := h.unary_eq env s broken
  operators level := operators_alike (h.stands hw) level
  written env s t' ht' := by
    have hallowed : (env.dialect.types && !isDeniedTarget t') = env.dialect.types := by
      rw [ht'.isDeniedTarget_eq, h.isDeniedTarget_eq, Bool.not_false, Bool.and_true]
    exact hallowed ▸ writtenTo env s (ht'.noPlace h.noPlace)
  heritage env := h.faults_heritage env s broken
  directive _ _ _ _ _ _ _ htypes hstrict hblock := h.run_bodyBlock htypes hstrict hblock

/-! ## `void 0` -/

/-- The node of `void 0`. -/
def voidNode (span span' : Span) (raw : Option String) : Tree :=
  .node (.unary "void") span [.node (.numberLiteral .zero raw) span' []]

section

variable (env : Surroundings) (s : State) (span : Span) (broken : Bool)

/-- `void` opens no primary expression. -/
theorem faults_memberOrNew_void (isNew : Bool) :
    Faults (memberOrNew isNew) env (s.showing (.keyword "void") span broken) := by
  obtain ⟨⟨types, markup⟩, text, turns, run⟩ := env
  cases types <;> exact ⟨_, _, rfl⟩

/-- What follows `void` is its operand. -/
theorem unary_void :
    unary env (s.showing (.keyword "void") span broken) =
      (do let e ← unaryOperand span.lo
          return .node (.unary "void") ⟨span.lo, max e.span.hi (span.lo + 4)⟩ [e] : P Tree) env
        (s.consumed span) := by
  obtain ⟨⟨types, markup⟩, text, turns, run⟩ := env
  cases types <;> cases markup <;> rfl

theorem leftHandSide_void :
    leftHandSide env (s.showing (.keyword "void") span broken) =
      (rule (.memberOrNew true) >>= afterCallee span.lo) env
        (s.showing (.keyword "void") span broken) := by
  obtain ⟨⟨types, markup⟩, text, turns, run⟩ := env
  cases markup <;> rfl

/-- No cast starts with an operator. -/
theorem run_castAfter?_power (left : Tree) (level : Nat) :
    castAfter? left level env (s.showing (.punct "**") span broken) =
      .ok none (s.showing (.punct "**") span broken) := by
  have hover : (notM hasTypes <||> pure (7 ≤ level) <||> afterBreak : P Bool) env
      (s.showing (.punct "**") span broken) =
      .ok (!env.dialect.types || (decide (7 ≤ level) || broken))
        (s.showing (.punct "**") span broken) := by
    obtain ⟨⟨types, markup⟩, text, turns, run⟩ := env
    cases types
    · rfl
    · cases h : decide (7 ≤ level) <;> rfl
  unfold castAfter?
  rw [run_bind_of_ok hover]
  cases !env.dialect.types || (decide (7 ≤ level) || broken) <;> rfl

/-- An operand with a prefix operator is no base of a power. -/
theorem faults_power (hturns : 0 < env.turns) {level : Nat} (hlevel : level < 11) (op : String)
    (place : Span) (cs : List Tree) :
    Faults (operators (.node (.unary op) place cs) level) env
      (s.showing (.punct "**") span broken) := by
  unfold operators
  refine .step (run_turns env _) (Faults.bind (Faults.forIn hturns ?_))
  refine .step (run_castAfter?_power ..) (.step (a := some ("**", 11)) rfl ?_)
  have hnot : ¬ 11 ≤ level := by omega
  simp only [hnot, if_false]
  exact .step (run_bump ..) (faults_refuse ..).bind

end

/-- `void` is read behind operators only, and is no operand of `**` on its left. -/
structure VoidInPlace (dialect : Dialect) (source : List Char) (turns depth : Nat) (s : State)
    (broken : Bool) (span : Span) : Prop where
  /-- The operand is read behind it: the zero, a literal in its place, with what follows it. -/
  operand : ∀ env : Surroundings, unary env (s.showing (.keyword "void") span broken) =
    (do let e ← unaryOperand span.lo
        return .node (.unary "void") ⟨span.lo, max e.span.hi (span.lo + 4)⟩ [e] : P Tree) env
      (s.consumed span)
  object : ∀ isNew, Faults (memberOrNew isNew) (surroundings dialect source turns depth)
    (s.showing (.keyword "void") span broken)
  callee : Faults leftHandSide (surroundings dialect source turns (depth + 1))
    (s.showing (.keyword "void") span broken)
  constructed : ∀ start isNew,
    Faults (newAfter start isNew) (surroundings dialect source turns (depth + 1))
      (s.showing (.keyword "void") span broken)
  superclass : Faults superclass (surroundings dialect source turns (depth + 2))
    (s.showing (.keyword "void") span broken)
  power : ∀ place span' raw level, level < 11 →
    Faults (operators (voidNode place span' raw) level) (surroundings dialect source turns depth)
      (s.showing (.punct "**") span broken)
  written : ∀ env s place span' raw t, InParens (voidNode place span' raw) t →
    WrittenTo env s t false

theorem voidInPlace {dialect : Dialect} {source : List Char} {turns depth : Nat}
    (hturns : 0 < turns) (s : State) (broken : Bool) (span : Span) :
    VoidInPlace dialect source turns depth s broken span := by
  have hobject (depth : Nat) (isNew : Bool) :=
    faults_memberOrNew_void (surroundings dialect source turns depth) s span broken isNew
  have hcallee (depth : Nat) : Faults leftHandSide (surroundings dialect source turns (depth + 1))
      (s.showing (.keyword "void") span broken) := by
    unfold Faults
    rw [leftHandSide_void]
    exact Faults.bind (hobject depth true)
  constructor
  case operand => exact fun env => unary_void env s span broken
  case object => exact hobject depth
  case callee => exact hcallee depth
  case constructed =>
    intro start isNew
    unfold newAfter
    exact .step (run_eat _ _ _ _ rfl) (Faults.bind (hobject depth isNew))
  case superclass =>
    have hrule : Faults (rule .leftHandSide) (surroundings dialect source turns (depth + 2))
        (s.showing (.keyword "void") span broken) := hcallee depth
    exact hrule.bind
  case power => exact fun _ _ _ level hlevel => faults_power _ s span broken hturns hlevel _ _ _
  case written =>
    intro env s place span' raw t ht
    have hallowed : (env.dialect.types && !isDeniedTarget t) = false := by
      rw [ht.isDeniedTarget_eq]
      exact Bool.and_false _
    exact hallowed ▸ writtenTo env s (ht.noPlace (noPlace_unary _ _ _))

end EnvInline.Syntax

namespace EnvInline.Literal

open EnvInline.Syntax EnvInline.Layout

/-- How the text of a value is read behind some space: a string as one token unless a brace of an
escape in it is not closed, `void 0` as its two tokens unless what stands behind it runs into the
number. -/
structure ReadsText (env : Surroundings) (s : State) (between : List Char) (p : Nat) : Prop where
  string : ∀ value rest, (text (some value)).length < env.turns →
    isReadable value.toList = true →
    ∃ w raw s', (keepsHalf value.toList = false → w = value) ∧ SameWay s s' ∧
      Reads env (s.moved (between ++ (text (some value)).toList ++ rest) p) [.string w raw]
        (s'.moved rest (p + byteLength between + byteLength (text (some value)).toList))
  unreadable : ∀ value rest, (text (some value)).length < env.turns →
    isReadable value.toList = false →
    ∃ f s', Reads env (s.moved (between ++ (text (some value)).toList ++ rest) p) [.fault f] s'
  void : ∀ rest, EndsNumber rest →
    ∃ raw s', SameWay s s' ∧
      Reads env (s.moved (between ++ (text none).toList ++ rest) p)
        [.keyword "void", .number .zero raw]
        (s'.moved rest (p + byteLength between + byteLength (text none).toList))
  member : ∀ name c r rest, name.toList = c :: r → Text.isIdentifierStart c = true →
    c ∉ ['e', 'E', '_'] →
    ∃ s', SameWay s s' ∧
      Reads env (s.moved (between ++ (memberText none name).toList ++ rest) p)
        [.keyword "void", .fault ⟨p + byteLength between + 7, .nameAfterNumber⟩]
        (s'.moved (name.toList ++ rest) (p + byteLength between + 7))

end EnvInline.Literal
