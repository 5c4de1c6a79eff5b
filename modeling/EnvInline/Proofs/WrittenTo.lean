import EnvInline.Proofs.OperandInPlace

/-!
# Literals that are written to

`++`, `--` and the assignments check what stands in the place that they write to. A literal is no
such place, with parentheses around it or without: it is reported, except that a text with types may
have one behind or before `++` and on the left of `=`. `void 0` is reported everywhere.

* `WrittenTo` — what becomes of a tree in each of these places;
* `writtenTo` — trees that are no places;
* `InParens` — an expression with parentheses around it, which the checks see through.
-/

namespace EnvInline.Syntax

/-! ## Reports -/

/-- The state with one more fault, unless faults are ignored. -/
def State.reported (s : State) (place : Nat) (cause : SyntaxError) : State :=
  if s.context.ignoreFaults then s else { s with faults := ⟨place, cause⟩ :: s.faults }

/-- The state behind the check of a place that is written to. -/
def State.checked (s : State) (t : Tree) (isAllowed : Bool) : State :=
  if isAllowed then s else s.reported t.span.lo .notAssignable

theorem showing_reported (s : State) (t : Token) (span : Span) (broken : Bool) (place : Nat)
    (cause : SyntaxError) :
    (s.showing t span broken).reported place cause =
      (s.reported place cause).showing t span broken := by
  have hcontext : (s.showing t span broken).context = s.context := rfl
  unfold State.reported
  rw [hcontext]
  split <;> rfl

theorem showing_checked (s : State) (t : Token) (span : Span) (broken : Bool) (target : Tree)
    (isAllowed : Bool) :
    (s.showing t span broken).checked target isAllowed =
      (s.checked target isAllowed).showing t span broken := by
  cases isAllowed
  · exact showing_reported ..
  · rfl

section

variable (env : Surroundings) (s : State)

theorem run_report (place : Nat) (cause : SyntaxError) :
    report place cause env s = .ok () (s.reported place cause) := rfl

/-! ## Places and what is none -/

/-- The tree is no place that can be written to, and no name in particular. -/
structure NoPlace (t : Tree) : Prop where
  simple : ∀ strict, isSimpleTarget strict t = false
  name : ∀ id, t.kind ≠ .reference id
  arrow : ∀ mode, t.kind ≠ .arrow mode
  whole : isWholeTarget t = true

theorem noPlace_string (value : String) (raw : Option String) (span : Span) :
    NoPlace (.node (.stringLiteral value raw) span []) := by
  refine ⟨fun _ => rfl, ?_, ?_, rfl⟩ <;> rintro _ ⟨⟩

theorem noPlace_number (value : Binary64) (raw : Option String) (span : Span) :
    NoPlace (.node (.numberLiteral value raw) span []) := by
  refine ⟨fun _ => rfl, ?_, ?_, rfl⟩ <;> rintro _ ⟨⟩

theorem noPlace_unary (op : String) (span : Span) (cs : List Tree) :
    NoPlace (.node (.unary op) span cs) := by
  refine ⟨fun _ => rfl, ?_, ?_, rfl⟩ <;> rintro _ ⟨⟩

/-- The tree is the expression with any number of parentheses around it. -/
inductive InParens (e : Tree) : Tree → Prop where
  | bare : InParens e e
  | paren (span : Span) {t : Tree} (h : InParens e t) : InParens e (.node .paren span [t])

theorem InParens.noPlace {e t : Tree} (h : InParens e t) (he : NoPlace e) : NoPlace t := by
  induction h with
  | bare => exact he
  | paren span h ih =>
    refine ⟨fun strict => ?_, ?_, ?_, rfl⟩
    · simpa [isSimpleTarget] using ih.simple strict
    all_goals rintro _ ⟨⟩

theorem InParens.isDeniedTarget_eq {e t : Tree} (h : InParens e t) :
    isDeniedTarget t = isDeniedTarget e := by
  induction h with
  | bare => rfl
  | paren span h ih => exact ih

variable {t : Tree}

/-- What is no place is reported unless a text with types may write to it. -/
theorem run_checkTarget (ht : NoPlace t) :
    checkTarget t env s = .ok () (s.checked t (env.dialect.types && !isDeniedTarget t)) := by
  -- with this the branch for a variable is passed over
  have hname := ht.name
  unfold checkTarget
  simp only [run_bind, run_context, run_hasTypes, run_ite, ht.simple]
  cases env.dialect.types
  · rfl
  · cases isDeniedTarget t <;> rfl

/-- What is assigned to as a whole is checked like any place. -/
theorem run_assignedTarget (ht : NoPlace t) (n : Nat) :
    patternOfDepth (n + 1) .assigned t env s =
      .ok t (s.checked t (env.dialect.types && !isDeniedTarget t)) := by
  have hname := ht.name
  have huse : (PatternUse.assigned != .binding) = true := rfl
  rw [patternOfDepth.eq_def]
  simp only [ht.whole, huse, Bool.and_self, if_true, BEq.rfl, run_bind, run_checkTarget env s ht]
  rfl

/-- Inside of a pattern that is assigned to, no dialect allows it. -/
theorem run_assignedPart (ht : NoPlace t) (n : Nat) :
    patternOfDepth (n + 1) .assignedPart t env s =
      .ok t (s.reported t.span.lo .notSimpleTarget) := by
  have hname := ht.name
  have huse : (PatternUse.assignedPart != .binding) = true := rfl
  have hpart : (PatternUse.assignedPart == .assigned) = false := rfl
  rw [patternOfDepth.eq_def]
  simp only [ht.whole, huse, hpart, Bool.and_self, if_true, Bool.false_eq_true, if_false, run_bind,
    run_context, run_ite, ht.simple, Bool.not_false, run_report]
  rfl

/-! ## Writing -/

/-- Checks what has been read as an operand if `++` or `--` stands behind it. -/
def afterOperand (e : Tree) : P Tree := do
  if e.kind matches .arrow _ then return e
  if ← afterBreak then return e
  match ← current? with
  | some (.punct p) =>
    if p != "++" && p != "--" then return e
    checkTarget e
    bump
    nodeFrom e.span.lo (.update p false) [e]
  | _ => return e

/-- Reads the right side of an assignment behind its operator. -/
def rightSide (start : Nat) (op : String) (target : Tree) : P Tree := do
  let right ← rule .assignment
  nodeFrom start (.assignment op) [target, right]

/-- The tree is read wherever it is written to, and reported unless this is allowed for it. What
is allowed is `++`, `--` and `=` only. -/
structure WrittenTo (env : Surroundings) (s : State) (t : Tree) (isAllowed : Bool) : Prop where
  updatedBehind : ∀ op ∈ ["++", "--"], ∀ span : Span,
    afterOperand t env (s.showing (.punct op) span false) =
      .ok (.node (.update op false) ⟨t.span.lo, span.hi⟩ [t])
        ((s.checked t isAllowed).consumed span)
  updatedBefore : ∀ op ∈ ["++", "--"], ∀ (span : Span) (broken : Bool) (s' : State),
    env.run .unary (s.consumed span) = .ok t s' →
    unary env (s.showing (.punct op) span broken) =
      .ok (.node (.update op true) ⟨span.lo, t.span.hi⟩ [t]) (s'.checked t isAllowed)
  /-- The head of a loop and the left side of `=` are made patterns in this way. -/
  target : ∀ n, patternOfDepth (n + 1) .assigned t env s = .ok t (s.checked t isAllowed)
  part : ∀ n, patternOfDepth (n + 1) .assignedPart t env s =
    .ok t (s.reported t.span.lo .notSimpleTarget)
  assigned : ∀ (start : Nat) (span : Span) (broken : Bool),
    finishAssignment start t env (s.showing (.punct "=") span broken) =
      rightSide start "=" t env ((s.checked t isAllowed).consumed span)
  compound : ∀ op ∈ assignmentOperators, op ≠ "=" → ∀ (start : Nat) (span : Span) (broken : Bool),
    finishAssignment start t env (s.showing (.punct op) span broken) =
      rightSide start op t env
        ((s.reported t.span.lo
          (if env.dialect.types then .notAssignable else .notSimpleTarget)).consumed span)

theorem run_afterOperand (ht : NoPlace t) {op : String} (hop : op ∈ ["++", "--"]) (span : Span) :
    afterOperand t env (s.showing (.punct op) span false) =
      .ok (.node (.update op false) ⟨t.span.lo, span.hi⟩ [t])
        ((s.checked t (env.dialect.types && !isDeniedTarget t)).consumed span) := by
  have harrow := ht.arrow
  have hcheck : afterOperand t env (s.showing (.punct op) span false) =
      (do checkTarget t; bump; nodeFrom t.span.lo (.update op false) [t] : P Tree) env
        (s.showing (.punct op) span false) := by
    simp only [List.mem_cons, List.not_mem_nil, or_false] at hop
    unfold afterOperand
    rcases hop with rfl | rfl <;> simp only [Bool.false_eq_true, if_false] <;> rfl
  rw [hcheck, run_bind_of_ok (run_checkTarget env _ ht), showing_checked]
  rfl

/-- `++` and `--` before an operand check it once it has been read. -/
theorem unary_update {op : String} (hop : op ∈ ["++", "--"]) (span : Span) (broken : Bool) :
    unary env (s.showing (.punct op) span broken) =
      (do let e ← rule .unary
          checkTarget e
          return .node (.update op true) ⟨span.lo, e.span.hi⟩ [e] : P Tree) env
        (s.consumed span) := by
  obtain ⟨⟨types, markup⟩, text, turns, run⟩ := env
  simp only [List.mem_cons, List.not_mem_nil, or_false] at hop
  rcases hop with rfl | rfl <;> cases types <;> cases markup <;> rfl

theorem run_finishAssignment (ht : NoPlace t) (start : Nat) (span : Span) (broken : Bool) :
    finishAssignment start t env (s.showing (.punct "=") span broken) =
      rightSide start "=" t env
        ((s.checked t (env.dialect.types && !isDeniedTarget t)).consumed span) := by
  have hpattern (s : State) : patternOf .assigned t env s =
      .ok t (s.checked t (env.dialect.types && !isDeniedTarget t)) := by
    obtain ⟨k, place, cs⟩ := t
    exact run_assignedTarget env s ht _
  have hop : assignmentOperators.contains "=" = true := by decide
  unfold finishAssignment rightSide
  rw [run_bind_of_ok (run_current? ..)]
  simp only [hop, Bool.not_true, Bool.false_eq_true, if_false, BEq.rfl, if_true]
  rw [run_bind_of_ok (hpattern _), showing_checked, run_bind_of_ok (run_bump ..)]

/-- The target of the other operators is made without a pattern. -/
theorem run_compound (ht : NoPlace t) {op : String} (hop : op ∈ assignmentOperators)
    (hne : op ≠ "=") (start : Nat) (span : Span) (broken : Bool) :
    finishAssignment start t env (s.showing (.punct op) span broken) =
      rightSide start op t env
        ((s.reported t.span.lo
          (if env.dialect.types then .notAssignable else .notSimpleTarget)).consumed span) := by
  have hname := ht.name
  rw [← List.contains_iff_mem] at hop
  unfold finishAssignment rightSide
  simp only [run_bind, run_current?, hop, run_ite, Bool.not_true, Bool.false_eq_true, if_false,
    beq_eq_false_iff_ne.mpr hne, run_context, ht.simple, Bool.not_false, if_true, run_hasTypes,
    run_report, showing_reported, run_pure, run_bump]

theorem writtenTo (ht : NoPlace t) :
    WrittenTo env s t (env.dialect.types && !isDeniedTarget t) where
  updatedBehind op hop span := run_afterOperand env s ht hop span
  updatedBefore op hop span broken s' hrun := by
    rw [unary_update env s hop, run_bind_of_ok hrun, run_bind_of_ok (run_checkTarget env s' ht)]
    rfl
  target n := run_assignedTarget env s ht n
  part n := run_assignedPart env s ht n
  assigned start span broken := run_finishAssignment env s ht start span broken
  compound op hop hne start span broken := run_compound env s ht hop hne start span broken

end

end EnvInline.Syntax
