import Mathlib.Control.Monad.Basic
import EnvInline.Proofs.Reading
import EnvInline.Proofs.Rewriting
import EnvInline.SourceFile

/-!
# Places that are written to

An imported variable can be written to by an assignment, by `++` and `--`, by the head of a loop,
and by a destructuring pattern. Where the variable alone is assigned, it is kept as a target and
stays. With parentheses or a type around it, and as the operand of `++` and `--`, it is kept as an
expression; such a place is rewritten like one that is read.

* `finishAssignment_whole` — what the grammar makes of the left side of an assignment;
* `writtenVariable?` — the variable that is written to at the end of a way;
* `at?_of_writtenVariable?` — it stands there as a target or as a reference;
* `write_sites` — what a substitution makes of each of these places;
* `not_all_writes_kept` — so `FOO++` can lose its variable.
-/

namespace EnvInline.Syntax

/-! ## What the grammar makes of the left side -/

/-- What an expression becomes as a whole when it is assigned to: a variable alone becomes a target,
and anything around it keeps it as it is. -/
def assignedForm (e : Tree) : Tree :=
  match e.kind with
  | .reference id => .node (.target id) e.span []
  | _ => e

theorem exists_depth (e : Tree) : ∃ n, e.depth = n + 1 := by
  cases e
  exact ⟨_, rfl⟩

section Reading

variable {env : Surroundings} {s s' : State}

/-- A variable alone becomes a target; the definitions of the grammar say so in this way. -/
theorem match_eq_assignedForm (e : Tree) :
    (match e.kind with
      | .reference id => pure (.node (.target id) e.span [])
      | _ => pure e : P Tree) = pure (assignedForm e) := by
  unfold assignedForm
  split <;> rfl

/-- A whole expression is made a pattern, in an assignment or inside another pattern. -/
theorem patternOf_whole {use : PatternUse} (huse : use ≠ .binding) {e p : Tree}
    (hwhole : isWholeTarget e = true) (h : patternOf use e env s = .ok p s') :
    p = assignedForm e := by
  obtain ⟨n, hn⟩ := exists_depth e
  rw [patternOf, hn, patternOfDepth.eq_def] at h
  simp only [hwhole, bne_iff_ne.mpr huse, Bool.and_self, if_true] at h
  -- the checks report at most
  have hlast : ∀ s, (pure (assignedForm e) : P Tree) env s = .ok p s' → p = assignedForm e :=
    fun s => pure_eq_ok
  rw [← match_eq_assignedForm] at hlast
  split at h
  · obtain ⟨-, s₁, -, h⟩ := bind_eq_ok h
    exact hlast s₁ h
  · obtain ⟨c, s₁, -, h⟩ := bind_eq_ok h
    split at h
    · obtain ⟨-, s₂, -, h⟩ := bind_eq_ok h
      exact hlast s₂ h
    · exact hlast s₁ h

/-- Behind the operator only the right side is read. -/
theorem rightSide_eq_ok {start : Nat} {op : String} {target t : Tree}
    (h : (do
      bump
      let right ← rule .assignment
      nodeFrom start (.assignment op) [target, right] : P Tree) env s = .ok t s') :
    ∃ span right, t = .node (.assignment op) span [target, right] := by
  obtain ⟨-, s₁, -, h⟩ := bind_eq_ok h
  obtain ⟨right, s₂, -, h⟩ := bind_eq_ok h
  obtain ⟨span, s₃, -, h⟩ := bind_eq_ok h
  exact ⟨span, right, pure_eq_ok h⟩

/-- Before an operator other than `=` the expression is made a target at once. -/
theorem compound_eq_ok {start : Nat} {op : String} {left t : Tree}
    (h : (do
      let target ← match left.kind with
        | .reference id => pure (.node (.target id) left.span [])
        | _ => pure left
      bump
      let right ← rule .assignment
      nodeFrom start (.assignment op) [target, right] : P Tree) env s = .ok t s') :
    ∃ span right, t = .node (.assignment op) span [assignedForm left, right] := by
  rw [assignedForm]
  split at h <;>
  · obtain ⟨target, s₁, htarget, h⟩ := bind_eq_ok h
    obtain ⟨span, right, ht⟩ := rightSide_eq_ok h
    exact ⟨span, right, pure_eq_ok htarget ▸ ht⟩

/-- An expression with an assignment behind it: the target of `=` is made by way of a pattern, that
of the other operators at once, and both come to the same. -/
theorem finishAssignment_whole {start : Nat} {left t : Tree} (hwhole : isWholeTarget left = true)
    (h : finishAssignment start left env s = .ok t s') :
    t = left ∨ ∃ op span right, t = .node (.assignment op) span [assignedForm left, right] := by
  unfold finishAssignment at h
  obtain ⟨token?, s₁, -, h⟩ := bind_eq_ok h
  split at h
  · next op =>
    split at h
    · exact .inl (pure_eq_ok h)
    · right
      split at h
      · obtain ⟨target, s₂, htarget, h⟩ := bind_eq_ok h
        obtain ⟨span, right, ht⟩ := rightSide_eq_ok h
        exact ⟨op, span, right, patternOf_whole (by decide) hwhole htarget ▸ ht⟩
      · -- the checks between report at most
        obtain ⟨c, s₂, -, h⟩ := bind_eq_ok h
        dsimp only at h
        split at h
        · obtain ⟨types, s₃, -, h⟩ := bind_eq_ok h
          obtain ⟨-, s₄, -, h⟩ := bind_eq_ok h
          exact ⟨op, compound_eq_ok h⟩
        · exact ⟨op, compound_eq_ok h⟩
  · exact .inl (pure_eq_ok h)

end Reading

end EnvInline.Syntax

namespace EnvInline.Substitution

open EnvInline.Syntax

/-! ## Where a variable is written to -/

/-- What the nodes above say of a node. -/
inductive Standing where
  /-- nothing in particular -/
  | free
  /-- it is assigned to -/
  | assigned
  /-- it is an expression for a variable that is written to -/
  | operand
deriving DecidableEq, Repr

/-- How a tree keeps a variable that is written to. -/
inductive Form where
  | target
  | reference
deriving DecidableEq, Repr

/-- The node of a variable in some form. -/
def Form.kind (id : Ident) : Form → Kind
  | target => .target id
  | reference => .reference id

/-- The expression inside parentheses, or with a type: which child it is. -/
def inner? : Kind → Option Nat
  | .paren | .nonNull | .asType | .satisfies | .instantiation => some 0
  | .typeAssertion => some 1
  | _ => none

/-- A child of a pattern is a pattern again, or a list of them. -/
def isPart : Kind → Nat → Bool
  | .list, _ => true
  | .arrayPattern _, i | .objectPattern _, i => i == 0
  | .restPattern, i | .defaultPattern, i | .patternShorthand, i => i == 0
  | .patternProperty, i => i == 1
  | _, _ => false

/-- What a node of some kind says of a child. Within an assignment the left side is also a place
where other expressions stand, such as the keys and defaults of a pattern. -/
def Standing.below : Standing → Kind → Nat → List Standing
  | free, .assignment _, 0 | free, .forInLoop, 0 | free, .forOfLoop _, 0 => [assigned, free]
  | free, .update _ _, 0 => [operand, free]
  | free, _, _ => [free]
  | assigned, k, i =>
    if isPart k i then [assigned] else if inner? k = some i then [operand] else []
  | operand, k, i => if inner? k = some i then [operand] else []

/-- The variable that a node is, if it is one and written to. -/
def writtenLeaf? : Standing → Tree → Option (Ident × Form)
  | .assigned, .node (.target id) _ [] => some (id, .target)
  | .assigned, .node (.reference id) _ [] => some (id, .reference)
  | .operand, .node (.reference id) _ [] => some (id, .reference)
  | _, _ => none

/-- The variable that is written to at the end of a way, from a node with some standing. -/
def writtenFrom? : List Nat → Standing → Tree → Option (Ident × Form)
  | [], standing, t => writtenLeaf? standing t
  | i :: way, standing, t =>
    t.children[i]?.bind fun c => (standing.below t.kind i).findSome? (writtenFrom? way · c)

/-- The variable that is written to at the end of a way, and how the tree keeps it. -/
def writtenVariable? (t : Tree) (way : List Nat) : Option (Ident × Form) :=
  writtenFrom? way .free t

theorem writtenLeaf?_eq_some {standing : Standing} {t : Tree} {id : Ident} {form : Form}
    (h : writtenLeaf? standing t = some (id, form)) : ∃ span, t = .node (form.kind id) span [] := by
  unfold writtenLeaf? at h
  split at h
  · cases h
    exact ⟨_, rfl⟩
  · cases h
    exact ⟨_, rfl⟩
  · cases h
    exact ⟨_, rfl⟩
  · cases h

theorem at?_of_writtenFrom? {way : List Nat} {standing : Standing} {t : Tree} {id : Ident}
    {form : Form} (h : writtenFrom? way standing t = some (id, form)) :
    ∃ span, t.at? way = some (.node (form.kind id) span []) := by
  induction way generalizing standing t with
  | nil =>
    obtain ⟨span, rfl⟩ := writtenLeaf?_eq_some h
    exact ⟨span, rfl⟩
  | cons i way ih =>
    obtain ⟨c, hc, hway⟩ := Option.bind_eq_some_iff.mp h
    obtain ⟨standing', -, hwritten⟩ := List.exists_of_findSome?_eq_some hway
    obtain ⟨span, hat⟩ := ih hwritten
    refine ⟨span, ?_⟩
    rw [Tree.at?_cons, hc, Option.bind_some, hat]

/-- A variable that is written to stands at the end of the way, as a target or as a reference. -/
theorem at?_of_writtenVariable? {t : Tree} {way : List Nat} {id : Ident} {form : Form}
    (h : writtenVariable? t way = some (id, form)) :
    ∃ span, t.at? way = some (.node (form.kind id) span []) :=
  at?_of_writtenFrom? h

theorem inner?_eq_some {e : Tree} {i : Nat} (h : inner? e.kind = some i) :
    isPart e.kind i = false ∧ assignedForm e = e ∧ isWholeTarget e = true := by
  unfold assignedForm isWholeTarget
  generalize e.kind = k at h ⊢
  unfold inner? at h
  split at h <;> cases h <;> exact ⟨rfl, rfl, rfl⟩

/-- An expression that is a variable with something around it stays as it is when it is assigned to,
and the variable is written to as an expression. -/
theorem writtenFrom?_assigned {way : List Nat} {e : Tree} {id : Ident} (hway : way ≠ [])
    (h : writtenFrom? way .operand e = some (id, .reference)) :
    assignedForm e = e ∧ isWholeTarget e = true ∧
      writtenFrom? way .assigned e = some (id, .reference) := by
  cases way with
  | nil => exact absurd rfl hway
  | cons i way =>
    have hinner : inner? e.kind = some i := by
      by_contra hne
      rw [writtenFrom?, Standing.below, if_neg hne] at h
      obtain ⟨c, -, hc⟩ := Option.bind_eq_some_iff.mp h
      cases hc
    obtain ⟨hpart, hform, hwhole⟩ := inner?_eq_some hinner
    refine ⟨hform, hwhole, ?_⟩
    have hbelow : Standing.below .assigned e.kind i = Standing.below .operand e.kind i := by
      rw [Standing.below, Standing.below, hpart, if_neg Bool.false_ne_true]
    rw [writtenFrom?, hbelow]
    exact h

/-- The left side of an assignment in a text: a variable alone is written to as a target, and one
with something around it as an expression. -/
theorem writtenVariable?_finishAssignment {env : Surroundings} {s s' : State} {start : Nat}
    {left t : Tree} (h : finishAssignment start left env s = .ok t s') (ht : t ≠ left) {id : Ident} :
    (∀ span, left = .node (.reference id) span [] →
      writtenVariable? t [0] = some (id, .target)) ∧
    ∀ way ≠ [], writtenFrom? way .operand left = some (id, .reference) →
      writtenVariable? t (0 :: way) = some (id, .reference) := by
  constructor
  · rintro span rfl
    obtain ⟨op, span', right, rfl⟩ := (finishAssignment_whole rfl h).resolve_left ht
    rfl
  · intro way hway hwritten
    obtain ⟨hform, hwhole, hassigned⟩ := writtenFrom?_assigned hway hwritten
    obtain ⟨op, span', right, rfl⟩ := (finishAssignment_whole hwhole h).resolve_left ht
    rw [hform]
    show [Standing.assigned, .free].findSome? (writtenFrom? way · left) = _
    rw [List.findSome?_cons, hassigned]

/-! ## What becomes of it -/

/-- In the tree `new`, each place that `old` writes to is as before, or holds the literal that a
place which reads the variable would hold. -/
structure WritesKept (values : Mapping) (bindings : List Binding) (old new : Tree) : Prop where
  /-- a variable stays exactly if it is kept as a target or is not imported -/
  kept_iff : ∀ way id form, writtenVariable? old way = some (id, form) →
    (new.at? way = old.at? way ↔ form = .target ∨ id ∉ bound bindings)
  /-- an imported variable that is kept as an expression became the literal of its value -/
  inlined : ∀ way id, id ∈ bound bindings → writtenVariable? old way = some (id, .reference) →
    ∃ span name, Imports bindings id name ∧
      new.at? way = some (inlined span (values.get? name))

theorem inlined_ne_reference (span span' : Span) (value : Option String) (id : Ident) :
    inlined span value ≠ .node (.reference id) span' [] := by
  cases value <;> exact nofun

theorem Replaced.writesKept {values : Mapping} {bindings : List Binding} {old new : Tree}
    (h : Replaced values bindings old new) : WritesKept values bindings old new where
  kept_iff way id form hwritten := by
    obtain ⟨span, hat⟩ := at?_of_writtenVariable? hwritten
    by_cases hread : form = .reference ∧ id ∈ bound bindings
    · obtain ⟨rfl, hid⟩ := hread
      obtain ⟨name, -, hnew⟩ := h.reference way id span hid hat
      rw [hnew, hat]
      refine iff_of_false ?_ (by simp [hid])
      intro heq
      exact inlined_ne_reference _ _ _ _ (Option.some.inj heq)
    · -- the node reads no imported variable, and it has no children
      have hother : ∀ id' ∈ bound bindings,
          readVariable? (.node (form.kind id) span []) ≠ some id' := by
        intro id' hid' heq
        cases form with
        | target => cases heq
        | reference =>
          cases heq
          exact hread ⟨rfl, hid'⟩
      obtain ⟨cs, hnew, hlength⟩ := h.other way _ span [] hat hother
      rw [List.eq_nil_of_length_eq_zero hlength] at hnew
      refine iff_of_true (hnew.trans hat.symm) ?_
      cases form with
      | target => exact .inl rfl
      | reference => exact .inr fun hid => hread ⟨rfl, hid⟩
  inlined way id hid hwritten := by
    obtain ⟨span, hat⟩ := at?_of_writtenVariable? hwritten
    obtain ⟨name, himports, hnew⟩ := h.reference way id span hid hat
    exact ⟨span, name, himports, hnew⟩

/-- Without bindings a tree stays as it is. -/
theorem replaced_self (values : Mapping) (t : Tree) : Replaced values [] t t where
  none_left _ _ _ hid := (List.not_mem_nil hid).elim
  reference _ _ _ hid := (List.not_mem_nil hid).elim
  shorthand _ _ _ hid := (List.not_mem_nil hid).elim
  other _ _ _ cs hat _ := ⟨cs, hat, rfl⟩

/-- The items that a run keeps are replaced by the bindings of the specifiers. -/
theorem exists_replaced {options : Options} {values : Mapping} {program out : Tree}
    {report : Report} (h : run options values program = .ok (out, report)) :
    ∃ bindings,
      (matchingSpecifiers options program.children).map bindingOf? = bindings.map some ∧
      List.Forall₂ (Replaced values bindings)
        (program.children.filter fun item => !isMatching options item) out.children := by
  by_cases hmatching : ∃ item ∈ program.children, isMatching options item = true
  · obtain ⟨bindings, hread, rfl, -⟩ := run_of_matching h hmatching
    refine ⟨bindings, map_bindingOf?_of_mapM hread, ?_⟩
    exact List.forall₂_map_right_iff.mpr
      (List.forall₂_same.mpr fun t _ => replaced_replace values bindings t)
  · have hnone : ∀ item ∈ program.children, isMatching options item = false := by
      intro item hitem
      rw [← Bool.not_eq_true]
      exact fun hmatch => hmatching ⟨item, hitem, hmatch⟩
    rw [run_of_no_matching values hnone] at h
    obtain ⟨rfl, -⟩ := Prod.mk.inj (Except.ok.inj h)
    have hfilter : program.children.filter (isMatching options) = [] := by
      rw [List.filter_eq_nil_iff]
      intro item hitem
      simp [hnone item hitem]
    have hkept : (program.children.filter fun item => !isMatching options item) =
        program.children := by
      rw [List.filter_eq_self]
      intro item hitem
      simp [hnone item hitem]
    refine ⟨[], ?_, ?_⟩
    · rw [matchingSpecifiers, hfilter]
      rfl
    · rw [hkept]
      exact List.forall₂_same.mpr fun t _ => replaced_self values t

/-- For every program and every run that gives one: in each item that is kept, an imported variable
that is written to stays exactly where it is kept as a target. -/
theorem write_sites {options : Options} {values : Mapping} {program out : Tree} {report : Report}
    (h : run options values program = .ok (out, report)) :
    ∃ bindings,
      (matchingSpecifiers options program.children).map bindingOf? = bindings.map some ∧
      List.Forall₂ (WritesKept values bindings)
        (program.children.filter fun item => !isMatching options item) out.children := by
  obtain ⟨bindings, hspecifiers, hreplaced⟩ := exists_replaced h
  exact ⟨bindings, hspecifiers, hreplaced.imp fun _ _ => Replaced.writesKept⟩

/-- `import { KEY } from "@env"; KEY = 0; (KEY) += 0; KEY++`. -/
theorem write_sites_forms :
    let s : Span := ⟨0, 0⟩
    let key : Ident := ⟨"KEY", 1⟩
    let zero : Tree := .node (.numberLiteral .zero none) s []
    let program : Tree := .node (.moduleProgram none) s
      [.node (.importDeclaration false) s
        [.many [.node (.importNamed false) s [.node (.binding key false) s [], .none]],
          .node (.stringLiteral "@env" none) s []],
        .node (.assignment "=") s [.node (.target key) s [], zero],
        .node (.assignment "+=") s [.node .paren s [.node (.reference key) s []], zero],
        .node (.update "++" false) s [.node (.reference key) s []]]
    let out : Tree := .node (.moduleProgram none) s
      [.node (.assignment "=") s [.node (.target key) s [], zero],
        .node (.assignment "+=") s [.node .paren s [inlined s (some "v")], zero],
        .node (.update "++" false) s [inlined s (some "v")]]
    run .default (Mapping.empty.insert "KEY" "v") program = .ok (out, ⟨1, 1, 2⟩) ∧
      writtenVariable? (program.child 1) [0] = some (key, .target) ∧
      writtenVariable? (program.child 2) [0, 0] = some (key, .reference) ∧
      writtenVariable? (program.child 3) [0] = some (key, .reference) ∧
      ∃ bindings,
        (matchingSpecifiers .default program.children).map bindingOf? = bindings.map some ∧
        List.Forall₂ (WritesKept (Mapping.empty.insert "KEY" "v") bindings)
          (program.children.filter fun item => !isMatching .default item) out.children := by
  intro s key zero program out
  have hrun : run .default (Mapping.empty.insert "KEY" "v") program = .ok (out, ⟨1, 1, 2⟩) := rfl
  exact ⟨hrun, rfl, rfl, rfl, write_sites hrun⟩

/-- In a text: the variable alone is kept, and a string takes the place of the others. -/
theorem not_all_writes_kept :
    SourceFile.transform .default (Mapping.empty.insert "FOO" "bar")
        ⟨"a.js", "import \x7b FOO \x7d from '@env';\nFOO = 1;\n(FOO) = 2;\nFOO++;\n"⟩ =
      .ok ⟨"FOO = 1;\n(\"bar\") = 2;\n\"bar\"++;\n", ⟨1, 1, 2⟩⟩ := by
  decide +kernel

end EnvInline.Substitution
