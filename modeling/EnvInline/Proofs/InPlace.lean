import EnvInline.Substitution

/-!
# Substitution in place

The same substitution as steps on a program that is changed in place. A fault ends the steps; what
they changed before it is not undone. Main statement: `edit_on`, the steps come to what
`Substitution.run` gives, and a fault comes before the first change.
-/

namespace EnvInline.Substitution

open EnvInline.Syntax

/-- Steps on a program, which a fault can end. -/
abbrev Edit := ExceptT ImportFault (StateM Tree)

namespace Edit

/-- The outcome of some steps on a program, and the program after them. -/
def on (steps : Edit α) (program : Tree) : Except ImportFault α × Tree :=
  (ExceptT.run steps).run program

@[simp] theorem on_pure (value : α) (program : Tree) :
    (pure value : Edit α).on program = (.ok value, program) := rfl

@[simp] theorem on_get (program : Tree) :
    (get : Edit Tree).on program = (.ok program, program) := rfl

@[simp] theorem on_set (program new : Tree) :
    (set new : Edit PUnit).on program = (.ok ⟨⟩, new) := rfl

@[simp] theorem on_ofExcept (r : Except ImportFault α) (program : Tree) :
    (ofExcept r : Edit α).on program = (r, program) := by
  cases r <;> rfl

theorem on_bind (steps : Edit α) (next : α → Edit β) (program : Tree) :
    (steps >>= next).on program =
      match steps.on program with
      | (.ok value, program) => (next value).on program
      | (.error fault, program) => (.error fault, program) := by
  show ((ExceptT.run steps >>= ExceptT.bindCont next : StateM Tree _)).run program = _
  show (match (ExceptT.run steps).run program with | (a, s) => (ExceptT.bindCont next a).run s) = _
  unfold on
  cases (ExceptT.run steps).run program with
  | mk outcome program => cases outcome <;> rfl

end Edit

/-- The bindings of some specifiers, read one after the other. -/
def readSpecifiers (options : Options) (values : Mapping) : List Tree → Edit (List Binding)
  | [] => return []
  | s :: ss => do
    let b ← ofExcept (readSpecifier options values s)
    return b :: (← readSpecifiers options values ss)

/-- The bindings of the matching imports among some items, and how many imports these are. -/
def readImports (options : Options) (values : Mapping) : List Tree → Edit (List Binding × Nat)
  | [] => return ([], 0)
  | item :: items => do
    if isMatching options item then
      let bindings ← readSpecifiers options values (item.parts 0)
      let (more, imports) ← readImports options values items
      return (bindings ++ more, imports + 1)
    else readImports options values items

/-- Takes the matching imports out of the program. -/
def takeOut (options : Options) : Edit Unit := do
  let program ← get
  set (Syntax.Tree.node program.kind program.span
    (program.children.filter fun item => !isMatching options item))

/-- Replaces the places of the program that read a variable with a replacement, and counts them. -/
def replaceReads (replacement? : Ident → Option (Option String)) : Edit Nat := do
  let program ← get
  set (Syntax.Tree.node program.kind program.span (replaceMany replacement? program.children))
  return countReadsMany replacement? program.children

/-- All steps: the imports are read, then taken out, and then the reads of their variables are
replaced. -/
def edit (options : Options) (values : Mapping) : Edit Report := do
  let program ← get
  let (bindings, imports) ← readImports options values program.children
  if imports = 0 then return .none
  takeOut options
  let replaced ← replaceReads (replacement? values bindings)
  return ⟨imports, (variableIds bindings).length, replaced⟩

/-! ## The outcome of the steps -/

section Outcome

variable (options : Options) (values : Mapping)

theorem readSpecifiers_on (specifiers : List Tree) (program : Tree) :
    (readSpecifiers options values specifiers).on program =
      (specifiers.mapM (readSpecifier options values), program) := by
  induction specifiers with
  | nil => rfl
  | cons s ss ih =>
    rw [readSpecifiers, Edit.on_bind, Edit.on_ofExcept, List.mapM_cons]
    cases readSpecifier options values s with
    | error fault => rfl
    | ok b =>
      simp only [Edit.on_bind, ih]
      cases ss.mapM (readSpecifier options values) <;> rfl

theorem matchingSpecifiers_cons (item : Tree) (items : List Tree) :
    matchingSpecifiers options (item :: items) =
      (if isMatching options item then item.parts 0 else []) ++
        matchingSpecifiers options items := by
  unfold matchingSpecifiers
  cases h : isMatching options item <;> simp [h]

theorem readImports_on (items : List Tree) (program : Tree) :
    (readImports options values items).on program =
      (((matchingSpecifiers options items).mapM (readSpecifier options values)).map fun bindings =>
        (bindings, (items.filter (isMatching options)).length), program) := by
  induction items with
  | nil => rfl
  | cons item items ih =>
    rw [readImports, matchingSpecifiers_cons]
    cases h : isMatching options item with
    | false => simp [h, ih]
    | true =>
      rw [if_pos rfl, if_pos rfl, Edit.on_bind, readSpecifiers_on, List.mapM_append]
      cases (item.parts 0).mapM (readSpecifier options values) with
      | error fault => rfl
      | ok bindings =>
        simp only [Edit.on_bind, ih]
        cases (matchingSpecifiers options items).mapM (readSpecifier options values) with
        | error fault => rfl
        | ok more => rw [List.filter_cons_of_pos h]; rfl

/-- The steps come to what substituting gives. After a fault the program is what it was. -/
theorem edit_on (program : Tree) :
    (edit options values).on program =
      match run options values program with
      | .ok (out, report) => (.ok report, out)
      | .error fault => (.error fault, program) := by
  simp only [edit, Edit.on_bind, Edit.on_get, readImports_on, run]
  cases (matchingSpecifiers options program.children).mapM (readSpecifier options values) with
  | error fault => rfl
  | ok bindings =>
    simp only [Except.map]
    by_cases h : (program.children.filter (isMatching options)).length = 0
    · rw [if_pos h, if_pos h]
      rfl
    · rw [if_neg h, if_neg h]
      rfl

end Outcome

end EnvInline.Substitution
