import EnvInline.Proofs.Fallible
import EnvInline.Proofs.InPlace

/-!
# The first fault

A substitution goes through if every specifier of the imports may be imported. Otherwise the first
specifier that may not, in the order of the text over all imports of the module, decides the fault,
and the program is not changed at all.

* `readSpecifier_eq_ok_iff`, `readSpecifier_eq_error_iff` — the verdict on one specifier;
* `first_fault_decides` — the verdict on every program.
-/

namespace EnvInline

/-- An import may take the name: it is in the allowlist, if there is one, and not in the blocklist,
if there is one. -/
def Options.Permits (o : Options) (name : String) : Prop :=
  (∀ names ∈ o.allowlist, name ∈ names) ∧ ∀ names ∈ o.blocklist, name ∉ names

theorem rejects_eq_false_iff (o : Options) (name : String) :
    o.rejects name = false ↔ o.Permits name := by
  unfold Options.rejects Options.Permits
  cases o.allowlist <;> cases o.blocklist <;> simp

instance (o : Options) (name : String) : Decidable (o.Permits name) :=
  decidable_of_iff _ (rejects_eq_false_iff o name)

namespace Substitution

open EnvInline.Syntax Fallible

/-- The name that the module has for a variable: the one that the part before `as` spells, as a word
or as a string, or else the name of the variable. -/
inductive NameOutside (id : Ident) (part : Tree) : String → Prop
  | word {name : String} (h : part.kind = .name name) : NameOutside id part name
  | quoted {name : String} {raw : Option String} (h : part.kind = .stringLiteral name raw) :
    NameOutside id part name
  | own (hword : ∀ name, part.kind ≠ .name name)
    (hquoted : ∀ name raw, part.kind ≠ .stringLiteral name raw) : NameOutside id part id.name

/-- The specifier takes this name from the module. Only named imports take a name. -/
def Takes (specifier : Tree) (name : String) : Prop :=
  ∃ typeOnly id isOptional, specifier.kind = .importNamed typeOnly ∧
    (specifier.child 0).kind = .binding id isOptional ∧
    NameOutside id (specifier.child 1) name

/-- The name has a value, if it must have one. -/
def Defined (options : Options) (values : Mapping) (name : String) : Prop :=
  options.allowUndefined = true ∨ ∃ value, values.get? name = some value

/-- The specifier may be imported: it takes a name that the lists permit and that is defined. -/
def Accepted (options : Options) (values : Mapping) (specifier : Tree) : Prop :=
  ∃ name, Takes specifier name ∧ options.Permits name ∧ Defined options values name

/-- What is wrong with the specifier: it takes no name, or a name that the lists do not permit, or
else one that is not defined. -/
inductive Offends (options : Options) (values : Mapping) (specifier : Tree) : ImportError → Prop
  | notNamed (htakes : ∀ name, ¬ Takes specifier name) :
    Offends options values specifier (.notNamed options.moduleName)
  | rejected {name : String} (htakes : Takes specifier name) (hlists : ¬ options.Permits name) :
    Offends options values specifier (.rejected name)
  | undefined {name : String} (htakes : Takes specifier name) (hlists : options.Permits name)
    (hvalue : ¬ Defined options values name) :
    Offends options values specifier (.undefined name options.path)

/-- Among some items of a program, the fault is that of the first specifier that may not be
imported, in the order of the text over all imports of the module. -/
def FirstFault (options : Options) (values : Mapping) (items : List Tree) (fault : ImportFault) :
    Prop :=
  ∃ itemsBefore item itemsAfter before specifier after,
    items = itemsBefore ++ item :: itemsAfter ∧ isMatching options item = true ∧
    item.parts 0 = before ++ specifier :: after ∧
    (∀ i ∈ itemsBefore, isMatching options i = true → ∀ s ∈ i.parts 0,
      Accepted options values s) ∧
    (∀ s ∈ before, Accepted options values s) ∧
    Offends options values specifier fault.error ∧ fault.span = specifier.span

/-! ## One specifier -/

section Specifier

variable {options : Options} {values : Mapping} {specifier : Tree}

theorem nameOutside_iff {id : Ident} {part : Tree} {name : String} :
    NameOutside id part name ↔ (externalName? part).getD id.name = name := by
  unfold externalName?
  constructor
  · rintro (h | h | ⟨hword, hquoted⟩)
    · simp [h]
    · simp [h]
    · split
      · next text h => exact (hword text h).elim
      · next text raw h => exact (hquoted text raw h).elim
      · rfl
  · rintro rfl
    split
    · next text h => exact .word h
    · next text raw h => exact .quoted h
    · next hword hquoted => exact .own hword hquoted

/-- The name that a specifier takes is that of its binding. -/
theorem takes_iff {name : String} :
    Takes specifier name ↔ ∃ b, bindingOf? specifier = some b ∧ b.imported = name := by
  constructor
  · rintro ⟨typeOnly, id, isOptional, hkind, hvariable, hname⟩
    exact ⟨⟨id, name⟩, by simp [bindingOf?, hkind, hvariable, nameOutside_iff.mp hname], rfl⟩
  · rintro ⟨b, hb, rfl⟩
    unfold bindingOf? at hb
    split at hb
    · next typeOnly id isOptional hkind hvariable =>
      cases hb
      exact ⟨typeOnly, id, isOptional, hkind, hvariable, nameOutside_iff.mpr rfl⟩
    · cases hb

theorem check_of_not_permits {name : String} (h : ¬ options.Permits name) :
    check options values name = .error (.rejected name) := by
  rw [← rejects_eq_false_iff, Bool.not_eq_false] at h
  rw [check, if_pos h]

theorem check_of_not_defined {name : String} (h : options.Permits name)
    (hvalue : ¬ Defined options values name) :
    check options values name = .error (.undefined name options.path) := by
  have hrejects := (rejects_eq_false_iff options name).mpr h
  simp only [Defined, not_or, Bool.not_eq_true, ← Option.isSome_iff_exists] at hvalue
  simp [check, hrejects, hvalue, Mapping.contains]

theorem check_of_defined {name : String} (h : options.Permits name)
    (hvalue : Defined options values name) : check options values name = .ok () := by
  have hrejects := (rejects_eq_false_iff options name).mpr h
  rw [Defined, ← Option.isSome_iff_exists] at hvalue
  rcases hvalue with hvalue | hvalue <;> simp [check, hrejects, hvalue, Mapping.contains]

theorem readSpecifier_of_takes {name : String} (h : Takes specifier name) :
    ∃ b, b.imported = name ∧ readSpecifier options values specifier =
      match check options values name with
      | .error e => .error ⟨e, specifier.span⟩
      | .ok () => .ok b := by
  obtain ⟨b, hb, rfl⟩ := takes_iff.mp h
  refine ⟨b, rfl, ?_⟩
  cases hcheck : check options values b.imported <;> simp [readSpecifier, hb, hcheck]

theorem readSpecifier_of_accepted (h : Accepted options values specifier) :
    ∃ b, readSpecifier options values specifier = .ok b := by
  obtain ⟨name, htakes, hlists, hvalue⟩ := h
  obtain ⟨b, -, hread⟩ := readSpecifier_of_takes htakes
  exact ⟨b, by rw [hread, check_of_defined hlists hvalue]⟩

theorem readSpecifier_of_offends {error : ImportError}
    (h : Offends options values specifier error) :
    readSpecifier options values specifier = .error ⟨error, specifier.span⟩ := by
  cases h with
  | notNamed htakes =>
    have hnone : bindingOf? specifier = none := by
      rw [Option.eq_none_iff_forall_ne_some]
      intro b hb
      exact htakes b.imported (takes_iff.mpr ⟨b, hb, rfl⟩)
    rw [readSpecifier, hnone]
  | rejected htakes hlists =>
    obtain ⟨b, -, hread⟩ := readSpecifier_of_takes htakes
    rw [hread, check_of_not_permits hlists]
  | undefined htakes hlists hvalue =>
    obtain ⟨b, -, hread⟩ := readSpecifier_of_takes htakes
    rw [hread, check_of_not_defined hlists hvalue]

theorem accepted_or_offends (options : Options) (values : Mapping) (specifier : Tree) :
    Accepted options values specifier ∨ ∃ error, Offends options values specifier error := by
  by_cases htakes : ∃ name, Takes specifier name
  · obtain ⟨name, htakes⟩ := htakes
    by_cases hlists : options.Permits name
    · by_cases hvalue : Defined options values name
      · exact .inl ⟨name, htakes, hlists, hvalue⟩
      · exact .inr ⟨_, .undefined htakes hlists hvalue⟩
    · exact .inr ⟨_, .rejected htakes hlists⟩
  · exact .inr ⟨_, .notNamed (not_exists.mp htakes)⟩

/-- Reading a specifier gives a binding exactly if it may be imported. -/
theorem readSpecifier_eq_ok_iff :
    (∃ b, readSpecifier options values specifier = .ok b) ↔
      Accepted options values specifier := by
  refine ⟨?_, readSpecifier_of_accepted⟩
  rintro ⟨b, hread⟩
  rcases accepted_or_offends options values specifier with h | ⟨error, h⟩
  · exact h
  · rw [readSpecifier_of_offends h] at hread
    cases hread

/-- Reading a specifier fails with what is wrong with it, and where it stands. -/
theorem readSpecifier_eq_error_iff {fault : ImportFault} :
    readSpecifier options values specifier = .error fault ↔
      Offends options values specifier fault.error ∧ fault.span = specifier.span := by
  constructor
  · intro hread
    rcases accepted_or_offends options values specifier with h | ⟨error, h⟩
    · obtain ⟨b, hb⟩ := readSpecifier_of_accepted h
      rw [hb] at hread
      cases hread
    · rw [readSpecifier_of_offends h, Except.error.injEq] at hread
      subst hread
      exact ⟨h, rfl⟩
  · rintro ⟨h, hspan⟩
    rw [readSpecifier_of_offends h, ← hspan]

end Specifier

/-! ## All specifiers -/

section Program

variable {options : Options} {values : Mapping}

theorem mem_matchingSpecifiers {items : List Tree} {s : Tree} :
    s ∈ matchingSpecifiers options items ↔
      ∃ item ∈ items, isMatching options item = true ∧ s ∈ item.parts 0 := by
  simp [matchingSpecifiers, and_assoc]

/-- All specifiers are read exactly if each of them may be imported. -/
theorem mapM_readSpecifier_eq_ok_iff {items : List Tree} :
    (∃ bs, (matchingSpecifiers options items).mapM (readSpecifier options values) = .ok bs) ↔
      ∀ item ∈ items, isMatching options item = true → ∀ s ∈ item.parts 0,
        Accepted options values s := by
  simp only [mapM_eq_ok_iff, readSpecifier_eq_ok_iff, mem_matchingSpecifiers]
  constructor
  · intro h item hitem hmatch s hs
    exact h s ⟨item, hitem, hmatch, hs⟩
  · rintro h s ⟨item, hitem, hmatch, hs⟩
    exact h item hitem hmatch s hs

theorem FirstFault.cons {item : Tree} {items : List Tree} {fault : ImportFault}
    (hitem : isMatching options item = true → ∀ s ∈ item.parts 0, Accepted options values s)
    (h : FirstFault options values items fault) :
    FirstFault options values (item :: items) fault := by
  obtain ⟨itemsBefore, i, itemsAfter, before, s, after, rfl, hmatch, hparts, hitems, hrest⟩ := h
  exact ⟨item :: itemsBefore, i, itemsAfter, before, s, after, rfl, hmatch, hparts,
    List.forall_mem_cons.mpr ⟨hitem, hitems⟩, hrest⟩

/-- The first specifier that may not be imported decides the fault. -/
theorem mapM_readSpecifier_eq_error_iff {items : List Tree} {fault : ImportFault} :
    (matchingSpecifiers options items).mapM (readSpecifier options values) = .error fault ↔
      FirstFault options values items fault := by
  constructor
  · intro h
    induction items with
    | nil => cases h
    | cons item items ih =>
      rw [matchingSpecifiers_cons] at h
      cases hmatch : isMatching options item with
      | false =>
        rw [hmatch] at h
        exact (ih h).cons fun hitem => by rw [hmatch] at hitem; cases hitem
      | true =>
        rw [hmatch, if_pos rfl, mapM_append_eq_error_iff] at h
        rcases h with h | ⟨hparts, h⟩
        · -- the fault is in this import
          obtain ⟨before, s, after, hsplit, hbefore, hs⟩ := mapM_eq_error_iff.mp h
          exact ⟨[], item, items, before, s, after, rfl, hmatch, hsplit, by simp,
            fun s hs => readSpecifier_eq_ok_iff.mp (hbefore s hs),
            readSpecifier_eq_error_iff.mp hs⟩
        · -- it is in one behind it
          have haccepted := mapM_eq_ok_iff.mp hparts
          exact (ih h).cons fun _ s hs => readSpecifier_eq_ok_iff.mp (haccepted s hs)
  · rintro ⟨itemsBefore, item, itemsAfter, before, s, after, rfl, hmatch, hparts, hitems, hbefore,
      hoffends, hspan⟩
    refine mapM_eq_error_iff.mpr ⟨matchingSpecifiers options itemsBefore ++ before, s,
      after ++ matchingSpecifiers options itemsAfter, ?_, ?_, ?_⟩
    · simp [matchingSpecifiers, hmatch, hparts]
    · intro t ht
      rw [readSpecifier_eq_ok_iff]
      rcases List.mem_append.mp ht with ht | ht
      · obtain ⟨i, hi, himport, ht⟩ := mem_matchingSpecifiers.mp ht
        exact hitems i hi himport t ht
      · exact hbefore t ht
    · exact readSpecifier_eq_error_iff.mpr ⟨hoffends, hspan⟩

theorem run_of_unread {program : Tree} {fault : ImportFault}
    (h : (matchingSpecifiers options program.children).mapM (readSpecifier options values) =
      .error fault) : run options values program = .error fault := by
  simp only [run, h]

theorem run_of_read {program : Tree} {bindings : List Binding}
    (h : (matchingSpecifiers options program.children).mapM (readSpecifier options values) =
      .ok bindings) : ∃ out report, run options values program = .ok (out, report) := by
  simp only [run, h]
  split
  · exact ⟨_, _, rfl⟩
  · exact ⟨_, _, rfl⟩

/-- Substituting succeeds exactly if each specifier of the imports may be imported. -/
theorem run_eq_ok_iff {program : Tree} :
    (∃ out report, run options values program = .ok (out, report)) ↔
      ∀ item ∈ program.children, isMatching options item = true → ∀ s ∈ item.parts 0,
        Accepted options values s := by
  rw [← mapM_readSpecifier_eq_ok_iff]
  constructor
  · rintro ⟨out, report, hrun⟩
    cases h : (matchingSpecifiers options program.children).mapM (readSpecifier options values) with
    | error fault =>
      rw [run_of_unread h] at hrun
      cases hrun
    | ok bindings => exact ⟨bindings, rfl⟩
  · rintro ⟨bindings, h⟩
    exact run_of_read h

/-- Substituting fails with the fault of the first specifier that may not be imported. -/
theorem run_eq_error_iff {program : Tree} {fault : ImportFault} :
    run options values program = .error fault ↔
      FirstFault options values program.children fault := by
  rw [← mapM_readSpecifier_eq_error_iff]
  refine ⟨?_, run_of_unread⟩
  intro hrun
  cases h : (matchingSpecifiers options program.children).mapM (readSpecifier options values) with
  | error fault' =>
    rw [run_of_unread h] at hrun
    cases hrun
    rfl
  | ok bindings =>
    obtain ⟨out, report, hout⟩ := run_of_read h
    rw [hout] at hrun
    cases hrun

/-- A default or a namespace import takes no name. -/
theorem offends_of_not_named {specifier : Tree}
    (h : specifier.kind = .importDefault ∨ specifier.kind = .importNamespace) :
    Offends options values specifier (.notNamed options.moduleName) := by
  refine .notNamed ?_
  rintro name ⟨typeOnly, id, isOptional, hkind, -⟩
  rw [hkind] at h
  rcases h with h | h <;> cases h

end Program

/-- For every program: substituting succeeds exactly if every specifier of every import of the
module may be imported. Otherwise the fault is that of the first one that may not, and the program
stays as it was. What is changed in place is what substituting gives. -/
theorem first_fault_decides (options : Options) (values : Mapping) (program : Tree) :
    let after := (edit options values).on program
    run options values program = after.1.map (fun report => (after.2, report)) ∧
    ((∃ report, after.1 = .ok report) ↔
      ∀ item ∈ program.children, isMatching options item = true → ∀ s ∈ item.parts 0,
        Accepted options values s) ∧
    (∀ fault, after.1 = .error fault ↔ FirstFault options values program.children fault) ∧
    (∀ fault, after.1 = .error fault → after.2 = program) ∧
    ∀ s : Tree, s.kind = .importDefault ∨ s.kind = .importNamespace →
      Offends options values s (.notNamed options.moduleName) := by
  intro after
  have hafter : after = _ := edit_on options values program
  rw [← run_eq_ok_iff]
  simp only [← run_eq_error_iff]
  cases hrun : run options values program with
  | error fault =>
    simp only [hrun] at hafter
    rw [hafter]
    refine ⟨rfl, ?_, ?_, fun _ _ => rfl, fun _ => offends_of_not_named⟩
    · simp
    · simp
  | ok result =>
    obtain ⟨out, report⟩ := result
    simp only [hrun] at hafter
    rw [hafter]
    refine ⟨rfl, ?_, ?_, ?_, fun _ => offends_of_not_named⟩
    · simp
    · simp
    · simp

/-- `import { KEY as k } from "@env"; k; import { "LOW" as low, GONE } from "@env"; import d from
"@env"`, where `LOW` is blocked and nothing but `KEY` is defined, as it must be. -/
theorem first_fault_decides_low :
    let s : Span := ⟨0, 0⟩
    let options : Options := { Options.default with
      blocklist := some ["LOW"], allowUndefined := false }
    let values := Mapping.empty.insert "KEY" "1"
    let var (name : String) : Tree := .node (.binding ⟨name, 1⟩ false) s []
    let importing (specifiers : List Tree) : Tree := .node (.importDeclaration false) s
      [.many specifiers, .node (.stringLiteral "@env" none) s []]
    let key : Tree := .node (.importNamed false) s [var "k", .node (.name "KEY") s []]
    let low : Tree := .node (.importNamed false) ⟨45, 57⟩
      [var "low", .node (.stringLiteral "LOW" none) s []]
    let gone : Tree := .node (.importNamed false) s [var "GONE", .none]
    let d : Tree := .node .importDefault s [var "d"]
    let program : Tree := .node (.moduleProgram none) s
      [importing [key], .node .expressionStatement s [.node (.reference ⟨"k", 1⟩) s []],
        importing [low, gone], importing [d]]
    let after := (edit options values).on program
    after.1 = .error ⟨.rejected "LOW", ⟨45, 57⟩⟩ ∧ after.2 = program ∧
      FirstFault options values program.children ⟨.rejected "LOW", ⟨45, 57⟩⟩ ∧
      Offends options values d (.notNamed "@env") := by
  intro s options values var importing key low gone d program after
  obtain ⟨-, -, hfault, hsame, hnamed⟩ := first_fault_decides options values program
  have hrejected : after.1 = .error ⟨.rejected "LOW", ⟨45, 57⟩⟩ := by rfl
  exact ⟨hrejected, hsame _ hrejected, (hfault _).mp hrejected, hnamed d (.inl rfl)⟩

end Substitution

end EnvInline
