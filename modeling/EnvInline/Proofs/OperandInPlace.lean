import EnvInline.Proofs.LeftOperand
import EnvInline.Syntax.Parse

/-!
# Operands in their places

Where the grammar reads an operand, a string and a number are read like an ordinary name, whatever
stands behind them: as the object of a member, as what is called, as the tag of a template, behind
`new`, as a superclass.

* `memberOrNew_alike`, `newAfter_alike`, `leftHandSide_alike`, `superclass_alike`.
-/

namespace EnvInline.Syntax

/-! ## A token that has been looked at -/

/-- The state in which this is the current token. -/
def State.showing (s : State) (t : Token) (span : Span) (broken : Bool) : State :=
  { s with current := some ⟨t, span, broken⟩ }

/-- The state in which the token at this place has just been consumed. -/
def State.consumed (s : State) (span : Span) : State :=
  { s with current := none, previous := span }

section

variable (env : Surroundings) (s : State) (t : Token) (span : Span) (broken : Bool)

theorem run_current? :
    current? env (s.showing t span broken) = .ok (some t) (s.showing t span broken) := rfl

theorem run_currentStart :
    currentStart env (s.showing t span broken) = .ok span.lo (s.showing t span broken) := rfl

theorem run_bump : bump env (s.showing t span broken) = .ok () (s.consumed span) := rfl

theorem run_at? (text : String) :
    at? text env (s.showing t span broken) = .ok (t.spells text) (s.showing t span broken) := rfl

theorem run_atToken (t' : Token) :
    atToken t' env (s.showing t span broken) =
      .ok (some t == some t') (s.showing t span broken) := rfl

theorem run_hasTypes : hasTypes env s = .ok env.dialect.types s := rfl

theorem run_andM_false (x : P Bool) : (pure false <&&> x : P Bool) env s = .ok false s := rfl

variable {t}

theorem run_eat {text : String} (h : t.spells text = false) :
    eat text env (s.showing t span broken) = .ok false (s.showing t span broken) := by
  simp [eat, run_at?, h]

end

/-! ## Ordinary names -/

/-- Words that may be no names somewhere, or names with a meaning of their own. -/
def markedNames : List String :=
  keywords ++ strictReserved ++
    ["async", "await", "enum", "let", "static", "yield", "arguments", "eval"]

/-- The text is an ordinary name wherever it stands. -/
def isPlainName (w : String) : Bool :=
  w.toList.head?.any Text.isIdentifierStart && !markedNames.contains w

section

variable (env : Surroundings) (s : State) {w : String} (h : isPlainName w = true) (span : Span)
  (broken : Bool)
include h

theorem not_mem_of_isPlainName : w ∉ markedNames := by
  simp only [isPlainName, Bool.and_eq_true, Bool.not_eq_true', List.contains_eq_mem,
    decide_eq_false_iff_not] at h
  exact h.2

theorem ne_of_isPlainName {m : String} (hm : m ∈ markedNames) : w ≠ m := by
  rintro rfl
  exact not_mem_of_isPlainName h hm

theorem run_isReservedHere : isReservedHere w env s = .ok false s := by
  have hkeyword : keywords.contains w = false := by
    rw [← Bool.not_eq_true, List.contains_iff_mem]
    exact fun hw => not_mem_of_isPlainName h (by simp [markedNames, hw])
  unfold isReservedHere
  simp only [run_bind, run_context, run_pure]
  congr 1
  split
  all_goals first
    | exact hkeyword
    | exact absurd h (by decide)

theorem run_atFreeName :
    atFreeName env (s.showing (.name w) span broken) =
      .ok true (s.showing (.name w) span broken) := by
  simp [atFreeName, run_current?, run_isReservedHere env _ h]

theorem run_freeName (yieldToo awaitToo : Bool) :
    freeName yieldToo awaitToo env (s.showing (.name w) span broken) =
      .ok (w, span) (s.consumed span) := by
  have henum : w ≠ "enum" := ne_of_isPlainName h (by decide)
  have hlet : w ≠ "let" := ne_of_isPlainName h (by decide)
  have hyield : w ≠ "yield" := ne_of_isPlainName h (by decide)
  have hstatic : w ≠ "static" := ne_of_isPlainName h (by decide)
  have harguments : w ≠ "arguments" := ne_of_isPlainName h (by decide)
  have hstrict : w ∉ strictReserved :=
    fun hw => not_mem_of_isPlainName h (by simp [markedNames, hw])
  unfold freeName
  simp [run_currentStart, current, run_current?, Token.word?, run_bump, henum, hlet, hyield,
    hstatic, harguments, hstrict]
  rfl

theorem run_primaryWord :
    primaryWord span.lo false env (s.showing (.name w) span broken) =
      .ok (.node (.reference (.unresolved w)) span []) (s.consumed span) := by
  have hclass : (Token.name w).spells "class" = false :=
    beq_eq_false_iff_ne.mpr (ne_of_isPlainName h (by decide))
  unfold primaryWord nameOrArrow referenceName
  simp [run_at?, hclass, run_atFreeName env s h, run_freeName env s h, run_hasTypes, run_atToken,
    run_andM_false, referenceNode]

end

/-! ## Tokens that are operands -/

/-- The token is an operand of its own, and this is its node. -/
inductive Operand (span : Span) : Token → Tree → Prop where
  | string (value raw : String) :
    Operand span (.string value raw) (.node (.stringLiteral value (some raw)) span [])
  | number (value : Binary64) (raw : String) :
    Operand span (.number value raw) (.node (.numberLiteral value (some raw)) span [])
  | name {w : String} (h : isPlainName w = true) :
    Operand span (.name w) (.node (.reference (.unresolved w)) span [])

/-- Reads a call behind what has been read as an operand. -/
def afterCallee (start : Nat) (callee : Tree) : P Tree := do
  if callee.kind matches .arrow _ then return callee
  let arguments ← callTypeArguments
  let isBareNew := callee.kind == .newCall && (callee.child 2).isAbsent
  if isBareNew then
    if arguments.isPresent then expect "("
    return callee
  if ← at? "(" then
    return ← subscripts (← callAfter start callee arguments false) false false
  if arguments.isPresent then expect "("
  return callee

namespace Operand

variable {env : Surroundings} {s : State} {t : Token} {e : Tree} {span : Span}
  (h : Operand span t e)
include h

/-- No arrow function may start here, so a name is no parameter of one. -/
theorem run_primary (hstart : s.arrowStart ≠ some span.lo) (broken : Bool) :
    primary env (s.showing t span broken) = .ok e (s.consumed span) := by
  cases h with
  | string | number => rfl
  | @name w hw =>
    have hasync : w ≠ "async" := ne_of_isPlainName hw (by decide)
    have hnone : ((s.showing (.name w) span broken).arrowStart == some span.lo) = false :=
      beq_eq_false_iff_ne.mpr hstart
    unfold primary
    simp only [run_bind, run_currentStart, run_get, hnone, run_current?]
    generalize htoken : some (Token.name w) = t
    split
    case h_9 =>
      cases htoken
      exact absurd rfl hasync
    case h_11 => exact run_primaryWord env s hw span broken
    all_goals cases htoken

theorem spells_eq {text : String} (htext : text ∈ ["new", "super", "import", ".", "<"]) :
    t.spells text = false := by
  cases h with
  | string | number => rfl
  | @name w hw =>
    refine beq_eq_false_iff_ne.mpr ?_
    rintro rfl
    revert hw
    simp only [List.mem_cons, List.not_mem_nil, or_false] at htext
    rcases htext with rfl | rfl | rfl | rfl | rfl <;> decide

theorem run_eat {text : String} (htext : text ∈ ["new", "super", "import", ".", "<"])
    (env : Surroundings) (s : State) (broken : Bool) :
    eat text env (s.showing t span broken) = .ok false (s.showing t span broken) :=
  Syntax.run_eat env s span broken (h.spells_eq htext)

/-- What `super` and `import` would open is not read. -/
theorem run_neither (x y z : P Tree) (s : State) (broken : Bool) :
    (do if ← eat "super" then x else if ← eat "import" then y else z : P Tree) env
      (s.showing t span broken) = z env (s.showing t span broken) := by
  rw [run_bind_of_ok (h.run_eat (by simp) env s broken), if_neg Bool.false_ne_true,
    run_bind_of_ok (h.run_eat (by simp) env s broken), if_neg Bool.false_ne_true]

/-- No element starts here, whether the text may hold markup or not. -/
theorem leftHandSide_eq (broken : Bool) :
    leftHandSide env (s.showing t span broken) =
      (rule (.memberOrNew true) >>= afterCallee span.lo) env (s.showing t span broken) := by
  have hcurrent : current env (s.showing t span broken) = .ok t (s.showing t span broken) := by
    cases h <;> rfl
  unfold leftHandSide
  rw [run_bind_of_ok (run_currentStart env s t span broken), run_bind_of_ok (run_hasMarkup env _),
    run_ite]
  split
  · rw [run_bind_of_ok hcurrent]
    cases h with
    | string value raw => exact (Operand.string value raw).run_neither _ _ _ s broken
    | number value raw => exact (Operand.number value raw).run_neither _ _ _ s broken
    | name hw => exact (Operand.name hw).run_neither _ _ _ s broken
  · exact h.run_neither _ _ _ s broken

end Operand

/-! ## Where operands are read -/

theorem SameEnd.withContext {α β : Type} {R : α → β → Prop} {x : P α} {y : P β}
    (f : Context → Context) {env : Surroundings} {s : State} {t t' : Token} {span : Span}
    {broken : Bool}
    (h : SameEnd R (x env (State.showing { s with context := f s.context } t span broken))
      (y env (State.showing { s with context := f s.context } t' span broken))) :
    SameEnd R (withContext f x env (s.showing t span broken))
      (withContext f y env (s.showing t' span broken)) :=
  .step (run_get _ _) (run_get _ _) <| .step (run_modify _ _ _) (run_modify _ _ _) <|
    .bind h fun _ _ hab => .step _ fun _ => .pure hab

theorem SameEnd.ite_false {α β : Type} {R : α → β → Prop} {x x' : P α} {y y' : P β}
    {env : Surroundings} {s s' : State} (h : SameEnd R (x' env s) (y' env s')) :
    SameEnd R ((if false = true then x else x') env s) ((if false = true then y else y') env s') :=
  h

theorem Stands.child {e r : Tree} (h : Stands e r) {i : Nat} (hi : i ≠ 0) :
    e.child i = r.child i := by
  cases h with
  | string | number => rfl
  | behind hk span cs h =>
    obtain ⟨i, rfl⟩ := Nat.exists_eq_succ_of_ne_zero hi
    rfl

theorem Stands.object {e r : Tree} (h : Stands e r) :
    Stands (if e.kind == .member || e.kind == .index then e.child 0 else e)
      (if r.kind == .member || r.kind == .index then r.child 0 else r) := by
  cases h with
  | string _ _ hid | number _ _ hid => constructor; exact hid
  | @behind k hk span cs e r h =>
    change Stands (if k == .member || k == .index then e else .node k span (e :: cs))
      (if k == .member || k == .index then r else .node k span (r :: cs))
    split
    · exact h
    · exact .behind hk span cs h

theorem afterCallee_alike (start : Nat) {e r : Tree} (h : Stands e r) :
    Alike Stands (afterCallee start e) (afterCallee start r) := by
  have hbare : (e.kind == .newCall && (e.child 2).isAbsent) =
      (r.kind == .newCall && (r.child 2).isAbsent) := by
    rw [h.child (by decide)]
    exact congrArg (· && _) (h.test (· == .newCall) (fun _ _ _ => rfl) fun _ _ _ => rfl)
  unfold afterCallee
  refine .iteEq h.isArrow_eq (.pure h) (.step _ fun arguments => ?_)
  have hlast : Alike Stands (if arguments.isPresent then expect "(" >>= fun _ => pure e else pure e)
      (if arguments.isPresent then expect "(" >>= fun _ => pure r else pure r) :=
    .ite (.step _ fun _ => .pure h) (.pure h)
  refine .iteEq hbare hlast (.step _ fun isCall => .ite ?_ hlast)
  exact (callAfter_alike start h _ _).bind fun _ _ hab => subscripts_alike hab false false

section

variable {env : Surroundings} {s : State} {t t' : Token} {span : Span} {e r : Tree}
  (ht : Operand span t e) (ht' : Operand span t' r) (h : Stands e r)
  (hstart : s.arrowStart ≠ some span.lo) (broken : Bool)
include ht ht' h hstart

/-- Members, indices and templates behind a literal are read like those behind a name. -/
theorem memberOrNew_alike (isNew : Bool) :
    SameEnd Stands (memberOrNew isNew env (s.showing t span broken))
      (memberOrNew isNew env (s.showing t' span broken)) := by
  have hstart' (c : Context) : ({ s with context := c } : State).arrowStart ≠ some span.lo := hstart
  unfold memberOrNew
  refine .withContext _ (.step (run_currentStart ..) (run_currentStart ..) ?_)
  refine .step (ht.run_eat (by simp) ..) (ht'.run_eat (by simp) ..) (.ite_false ?_)
  refine .step (ht.run_eat (by simp) ..) (ht'.run_eat (by simp) ..) (.ite_false ?_)
  refine .step (ht.run_eat (by simp) ..) (ht'.run_eat (by simp) ..) (.ite_false ?_)
  refine .step (ht.run_primary (hstart' _) _) (ht'.run_primary (hstart' _) _) ?_
  refine Alike.iteEq h.isArrow_eq (.pure h) (.step _ fun arguments => ?_) env _
  exact (instantiate_alike span.lo h arguments).bind fun _ _ hab => subscripts_alike hab true false

end

/-- The surroundings of a rule that may run so many rules inside one another. -/
def surroundings (dialect : Dialect) (text : List Char) (turns depth : Nat) : Surroundings :=
  ⟨dialect, text, turns, runRule dialect text turns depth⟩

section

variable {dialect : Dialect} {text : List Char} {turns : Nat} (depth : Nat) {s : State}
  {t t' : Token} {span : Span} {e r : Tree} (ht : Operand span t e) (ht' : Operand span t' r)
  (h : Stands e r) (hstart : s.arrowStart ≠ some span.lo) (broken : Bool)
include ht ht' h hstart

theorem newAfter_alike (start : Nat) (isNew : Bool) :
    SameEnd Stands
      (newAfter start isNew (surroundings dialect text turns (depth + 1))
        (s.showing t span broken))
      (newAfter start isNew (surroundings dialect text turns (depth + 1))
        (s.showing t' span broken)) := by
  unfold newAfter
  refine .step (ht.run_eat (by simp) ..) (ht'.run_eat (by simp) ..) (.ite_false ?_)
  refine .bind (Q := Stands) (memberOrNew_alike ht ht' h hstart broken isNew) fun a b hab => ?_
  refine .iteEq hab.isArrow_eq (.pure hab) ?_
  extract_lets finish inner finish' inner'
  have hfinish (u) : Alike Stands (finish u) (finish' u) := by
    refine .step _ fun arguments => .step _ fun isCall => .ite (.step _ fun args => ?_) ?_
    · exact (nodeFrom_alike start hab rfl _).bind fun _ _ hcall => subscripts_alike hcall true false
    · exact nodeFrom_alike start hab rfl _
  -- behind `new` an optional chain is looked for below one member or index
  have hinner : Stands inner inner' := hab.object
  refine .ite (.iteEq hinner.isLink_eq ?_ (hfinish ())) (hfinish ())
  rw [hinner.span_eq]
  exact .step _ hfinish

theorem leftHandSide_alike :
    SameEnd Stands
      (leftHandSide (surroundings dialect text turns (depth + 1)) (s.showing t span broken))
      (leftHandSide (surroundings dialect text turns (depth + 1)) (s.showing t' span broken)) := by
  rw [ht.leftHandSide_eq, ht'.leftHandSide_eq]
  exact .bind (Q := Stands) (memberOrNew_alike ht ht' h hstart broken true) fun _ _ hab =>
    afterCallee_alike span.lo hab

theorem superclass_alike :
    SameEnd (fun a b => Stands a.1 b.1 ∧ a.2 = b.2)
      (superclass (surroundings dialect text turns (depth + 2)) (s.showing t span broken))
      (superclass (surroundings dialect text turns (depth + 2)) (s.showing t' span broken)) := by
  unfold superclass
  refine .bind (Q := Stands) (leftHandSide_alike depth ht ht' h hstart broken) fun a b hab => ?_
  split
  · cases hab with
    | behind hk span cs h => exact .pure ⟨h, rfl⟩
  · next hne =>
    split
    · cases hab with
      | behind hk span cs h => exact absurd rfl (hne _ _ _)
    · refine .step _ fun isAngle => .ite (.step _ fun arguments => ?_) (.pure ⟨hab, rfl⟩)
      exact .pure ⟨hab, rfl⟩

end

end EnvInline.Syntax
