import EnvInline.Proofs.Alike
import EnvInline.Syntax.Grammar.Operator

/-!
# What follows an operand

Members, indices, calls, templates, type arguments and operators are read behind an operand. They
look at it in a few ways only: whether it is `super`, `import` or `async`, whether it belongs to an
optional chain, whether a prefix operator stands before it. A literal and an ordinary name look the
same in all of them, so what follows the one is read like what follows the other.

* `Stands` — trees with a literal at their left end, and with a name in its place;
* `subscripts_alike` — members, indices, calls and templates;
* `operators_alike` — binary operators and casts.
-/

namespace EnvInline.Syntax

/-! ## Trees with an operand at their left end -/

/-- Words that open something of their own with what follows them. -/
def isOpenWord (k : Kind) : Bool :=
  k == .superWord || k == .importWord || k == .reference (.unresolved "async")

theorem isOpenWord_eq_false {k : Kind} : isOpenWord k = false ↔
    k ≠ .superWord ∧ k ≠ .importWord ∧ k ≠ .reference (.unresolved "async") := by
  simp [isOpenWord, and_assoc]

/-- The trees are the same but for their left end, where one has a literal and the other a name. -/
inductive Stands : Tree → Tree → Prop
  | string (value : String) (raw : Option String) {id : Ident}
      (hid : isOpenWord (.reference id) = false) (span : Span) :
      Stands (.node (.stringLiteral value raw) span []) (.node (.reference id) span [])
  | number (value : Binary64) (raw : Option String) {id : Ident}
      (hid : isOpenWord (.reference id) = false) (span : Span) :
      Stands (.node (.numberLiteral value raw) span []) (.node (.reference id) span [])
  | behind {k : Kind} (hk : isOpenWord k = false) (span : Span) (cs : List Tree) {e r : Tree}
      (h : Stands e r) : Stands (.node k span (e :: cs)) (.node k span (r :: cs))

namespace Stands

variable {γ : Type} {e r : Tree} (h : Stands e r)
include h

theorem span_eq : e.span = r.span := by
  cases h <;> rfl

/-- A test of kinds that a literal and a name pass alike. -/
theorem test (f : Kind → γ)
    (hstring : ∀ value raw id, f (.stringLiteral value raw) = f (.reference id))
    (hnumber : ∀ value raw id, f (.numberLiteral value raw) = f (.reference id)) :
    f e.kind = f r.kind := by
  cases h with
  | string value raw => exact hstring value raw _
  | number value raw => exact hnumber value raw _
  | behind => rfl

theorem isArrow_eq : (e.kind matches .arrow _) = (r.kind matches .arrow _) :=
  h.test (fun k => k matches .arrow _) (fun _ _ _ => rfl) fun _ _ _ => rfl

theorem isUnary_eq : (e.kind matches .unary _ | .awaitExpression) =
    (r.kind matches .unary _ | .awaitExpression) :=
  h.test (fun k => k matches .unary _ | .awaitExpression) (fun _ _ _ => rfl) fun _ _ _ => rfl

theorem isLink_eq : (e.kind matches .chainMember _ | .chainIndex _ | .chainCall _) =
    (r.kind matches .chainMember _ | .chainIndex _ | .chainCall _) :=
  h.test (fun k => k matches .chainMember _ | .chainIndex _ | .chainCall _)
    (fun _ _ _ => rfl) fun _ _ _ => rfl

theorem beq_binary (op : String) : (e.kind == .binary op) = (r.kind == .binary op) :=
  h.test (· == .binary op) (fun _ _ _ => rfl) fun _ _ _ => rfl

theorem isChain_eq : isChain e = isChain r := by
  induction h with
  | string => rfl
  | number => rfl
  | @behind k hk span cs e r h ih => cases k <;> first | rfl | exact ih

theorem ne_open :
    (e.kind ≠ .superWord ∧ e.kind ≠ .importWord ∧ e.kind ≠ .reference (.unresolved "async")) ∧
    r.kind ≠ .superWord ∧ r.kind ≠ .importWord ∧ r.kind ≠ .reference (.unresolved "async") := by
  rw [← isOpenWord_eq_false, ← isOpenWord_eq_false]
  cases h with
  | string _ _ hid | number _ _ hid => exact ⟨rfl, hid⟩
  | behind hk => exact ⟨hk, hk⟩

theorem beq_superWord : (e.kind == .superWord) = (r.kind == .superWord) :=
  (beq_eq_false_iff_ne.mpr h.ne_open.1.1).trans (beq_eq_false_iff_ne.mpr h.ne_open.2.1).symm

theorem beq_importWord : (e.kind == .importWord) = (r.kind == .importWord) :=
  (beq_eq_false_iff_ne.mpr h.ne_open.1.2.1).trans
    (beq_eq_false_iff_ne.mpr h.ne_open.2.2.1).symm

end Stands

/-! ## Members, indices, calls and templates -/

section

variable (start : Nat) {e r : Tree} (h : Stands e r)
include h

theorem nodeFrom_alike {k : Kind} (hk : isOpenWord k = false) (cs : List Tree) :
    Alike Stands (nodeFrom start k (e :: cs)) (nodeFrom start k (r :: cs)) :=
  .step _ fun span => .pure (.behind hk span cs h)

theorem instantiate_alike (arguments : Tree) :
    Alike Stands (instantiate start e arguments) (instantiate start r arguments) := by
  unfold instantiate
  exact .ite (.pure h) (nodeFrom_alike start h rfl _)

theorem callAfter_alike (arguments : Tree) (isOptional : Bool) :
    Alike Stands (callAfter start e arguments isOptional)
      (callAfter start r arguments isOptional) := by
  unfold callAfter
  rw [h.isChain_eq, h.beq_superWord, h.beq_importWord]
  refine .step _ fun args => ?_
  extract_lets chain finish chain' finish'
  have hchain (u) : Alike Stands (chain u) (chain' u) := nodeFrom_alike start h rfl _
  have hfinish (u) : Alike Stands (finish u) (finish' u) :=
    .ite (.ite (.step _ hchain) (hchain ())) (nodeFrom_alike start h rfl _)
  exact .ite (.step _ hfinish) (hfinish ())

theorem taggedTemplate_alike (arguments : Tree) :
    Alike Stands (taggedTemplate start e arguments) (taggedTemplate start r arguments) := by
  unfold taggedTemplate
  refine .step _ fun t => ?_
  extract_lets finish finish'
  have hfinish (u) : Alike Stands (finish u) (finish' u) := nodeFrom_alike start h rfl _
  exact .iteEq h.isLink_eq (.step _ hfinish) (hfinish ())

theorem indexAfter_alike (isOptional noCall : Bool) :
    Alike Stands (indexAfter start e isOptional noCall)
      (indexAfter start r isOptional noCall) := by
  unfold indexAfter
  rw [h.isChain_eq, h.beq_superWord]
  refine .step _ fun index => .step _ fun _ => ?_
  extract_lets finish
  have hfinish (a b) (hab : Stands a b) : Alike Stands (finish a) (finish b) := by
    refine .step _ fun arguments => ?_
    have hnode := instantiate_alike start hab arguments
    exact .ite (.step _ fun _ => hnode) hnode
  have hnode (k) (hk : isOpenWord k = false) := (nodeFrom_alike start h hk [index]).bind hfinish
  exact .ite (hnode _ rfl) (hnode _ rfl)

theorem memberAfter_alike (isOptional noCall : Bool) :
    Alike Stands (memberAfter start e isOptional noCall)
      (memberAfter start r isOptional noCall) := by
  obtain ⟨⟨hsuper, himport, -⟩, hsuper', himport', -⟩ := h.ne_open
  unfold memberAfter
  rw [h.isChain_eq]
  refine .step _ fun name => ?_
  extract_lets isChained finish finish'
  have hfinish (a b) (hab : Stands a b) : Alike Stands (finish a) (finish' b) := by
    refine .step _ fun arguments => ?_
    split
    · contradiction
    · contradiction
    · exact instantiate_alike start hab arguments
  have hnode (k) (hk : isOpenWord k = false) := (nodeFrom_alike start h hk [name]).bind hfinish
  exact .ite (hnode _ rfl) (hnode _ rfl)

/-- The operand is no name `async`, so what follows is no arrow function. -/
theorem typedCall?_alike (noCall : Bool) :
    Alike (Option.Rel Stands) (typedCall? start e noCall) (typedCall? start r noCall) := by
  unfold typedCall? withTypeAngles
  rw [beq_eq_false_iff_ne.mpr h.ne_open.1.2.2, beq_eq_false_iff_ne.mpr h.ne_open.2.2.2]
  refine .withContext _ (.attempt ?_)
  extract_lets isAsync call call'
  have hcall (u) : Alike (Option.Rel Stands) (call u) (call' u) := by
    refine .step _ fun arguments => .step _ fun isCall => .ite ?_ ?_
    · exact (callAfter_alike start h arguments false).bind fun _ _ hab => .pure (.some hab)
    · refine .step _ fun isTag => .ite ?_ (.pure .none)
      exact (taggedTemplate_alike start h arguments).bind fun _ _ hab => .pure (.some hab)
  refine .step _ fun s => ?_
  rw [Bool.and_false, Bool.false_and]
  -- no arrow function is looked for
  exact hcall ()

/-- What has been read is alike, and more may follow in both or in none. -/
def Next (a b : Tree × Bool) : Prop := Stands a.1 b.1 ∧ a.2 = b.2

theorem finishSubscripts_alike (arguments : Tree) (noCall : Bool) :
    Alike Next (finishSubscripts start e arguments noCall)
      (finishSubscripts start r arguments noCall) := by
  obtain ⟨⟨hsuper, himport, -⟩, hsuper', himport', -⟩ := h.ne_open
  unfold finishSubscripts
  split
  · contradiction
  · contradiction
  · refine (instantiate_alike start h arguments).bind fun a b hab => .step _ fun isTag => ?_
    refine .ite ?_ (.pure ⟨hab, rfl⟩)
    exact (taggedTemplate_alike start hab _).bind fun _ _ htag => .pure ⟨htag, rfl⟩

theorem subscript_alike (noCall noIndex : Bool) :
    Alike Next (subscript start e noCall noIndex) (subscript start r noCall noIndex) := by
  have hlast {x y : P Tree} (hxy : Alike Stands x y) :
      Alike Next (do return (← x, true)) (do return (← y, true)) :=
    hxy.bind fun _ _ hab => .pure ⟨hab, rfl⟩
  unfold subscript bne
  rw [h.beq_superWord, h.beq_importWord]
  -- the ways on are compared from the last to the first
  extract_lets isPlain goOn mark goOn' mark'
  have hgoOn (u) : Alike Next (goOn u) (goOn' u) := by
    refine .step _ fun arguments => .step _ fun isBare => ?_
    extract_lets behind behind'
    have hbehind (u) : Alike Next (behind u) (behind' u) := by
      refine .step _ fun isOptional => ?_
      extract_lets plain unindexed indexed plain' unindexed' indexed'
      have hplain (u) : Alike Next (plain u) (plain' u) := by
        refine .step _ fun isCall => .ite (hlast (callAfter_alike start h _ _)) ?_
        refine .step _ fun isMember => .ite (hlast (memberAfter_alike start h _ _)) ?_
        exact finishSubscripts_alike start h arguments noCall
      have hunindexed (u) : Alike Next (unindexed u) (unindexed' u) := by
        refine .step _ fun isLink => .ite (.step _ fun isCall => .ite ?_ (hplain ())) (hplain ())
        exact .step _ fun _ => .step _ fun arguments => hlast (callAfter_alike start h _ _)
      have hindexed (u) : Alike Next (indexed u) (indexed' u) :=
        .step _ fun isIndex => .ite (hlast (indexAfter_alike start h _ _)) (hunindexed ())
      refine .ite (.step _ fun isLink => ?_) (hunindexed ())
      exact .ite (.step _ hindexed) (hindexed ())
    exact .ite (.step _ hbehind) (hbehind ())
  have hmark (u) : Alike Next (mark u) (mark' u) := hlast (nodeFrom_alike start h rfl _)
  refine .step _ fun types => .ite ?_ (hgoOn ())
  refine .step _ fun isBroken => .step _ fun isMark => .ite ?_ (.step _ fun isAngle => ?_)
  · exact .step _ fun _ => .step _ fun _ => .ite (.step _ hmark) (hmark ())
  · refine .ite ((typedCall?_alike start h noCall).bind fun a b hab => ?_) (hgoOn ())
    cases hab with
    | some hab => exact .pure ⟨hab, rfl⟩
    | none => exact hgoOn ()

end

section

variable {e r : Tree} (h : Stands e r)
include h

/-- What follows a literal directly is read like what follows a name. -/
theorem subscripts_alike (noCall noIndex : Bool) :
    Alike Stands (subscripts e noCall noIndex) (subscripts r noCall noIndex) := by
  unfold subscripts
  rw [h.span_eq]
  extract_lets start result result'
  refine .step _ fun n => (Alike.forIn (fun a b hab => ?_) h).bind fun _ _ hab => .pure hab
  refine (subscript_alike start hab noCall noIndex).bind fun a b hab => ?_
  obtain ⟨a, goesOn⟩ := a
  obtain ⟨b, goesOn'⟩ := b
  obtain ⟨hab, rfl⟩ := hab
  exact .ite (.pure hab) (.pure hab)

/-! ## Operators -/

theorem castAfter?_alike (level : Nat) :
    Alike (Option.Rel Stands) (castAfter? e level) (castAfter? r level) := by
  unfold castAfter?
  rw [h.span_eq]
  refine .step _ fun isOver => .ite (.pure .none) ?_
  extract_lets start
  have hnode (k) (hk : isOpenWord k = false) (cs) :
      Alike (Option.Rel Stands) (do return some (← nodeFrom start k (e :: cs)))
        (do return some (← nodeFrom start k (r :: cs))) :=
    (nodeFrom_alike start h hk cs).bind fun _ _ hab => .pure (.some hab)
  refine .step _ fun isAs => .ite (.step _ fun isConst => .ite ?_ ?_) (.step _ fun isOther => ?_)
  · exact .step _ fun _ => .step _ fun _ => hnode _ rfl _
  · exact .step _ fun t => hnode _ rfl _
  · exact .ite (.step _ fun t => hnode _ rfl _) (.pure .none)

theorem checkCoalesce_eq (op : String) (right : Tree) :
    checkCoalesce op e right = checkCoalesce op r right := by
  unfold checkCoalesce
  simp only [h.span_eq, h.beq_binary]

/-- Binary operators are read behind a literal like behind a name. -/
theorem operators_alike (level : Nat) :
    Alike Stands (operators e level) (operators r level) := by
  unfold operators
  extract_lets left left'
  refine .step _ fun n => (Alike.forIn (fun a b hab => ?_) h).bind fun _ _ hab => .pure hab
  extract_lets left left'
  refine (castAfter?_alike hab level).bind fun a' b' hab' => ?_
  cases hab' with
  | some hab' => exact .pure hab'
  | none =>
    refine .step _ fun op? => ?_
    cases op? with
    | none => exact .pure hab
    | some op =>
      refine .ite (.pure hab) (.step _ fun _ => ?_)
      extract_lets finish finish'
      have hfinish (u) : Alike (SameTurn Stands) (finish u) (finish' u) := by
        refine .step _ fun operand => .step _ fun right => ?_
        rw [checkCoalesce_eq hab, hab.span_eq]
        exact .step _ fun _ => .pure (.behind rfl _ _ hab)
      exact .iteEq (congrArg (op.1 == "**" && ·) hab.isUnary_eq) (.step _ hfinish) (hfinish ())

end

end EnvInline.Syntax
