import EnvInline.Pass
import EnvInline.Proofs.FirstFault
import EnvInline.Proofs.Precedence

/-!
# What cannot reach the output

The lists keep names out at two places. An import of a name that they do not permit is refused
before its value is looked up, so such a value changes nothing, and neither does its absence. In
safe mode a variable whose name they do not admit takes no part in the resolution. Both are said of
two runs that differ in nothing else.

* `run_congr` — substituting looks only at the values of permitted names;
* `outcome_eq_of_permitted` — programs and files come to the same for two mappings that agree on
  these;
* `pass_outcome_eq_of_admitted` — so do two passes in safe mode, if the variables that are admitted
  and permitted agree.
-/

namespace EnvInline

namespace Substitution

open EnvInline.Syntax

/-- The mappings have the same value, or none, for each name that an import may take. -/
def AgreeOnPermitted (options : Options) (m₁ m₂ : Mapping) : Prop :=
  ∀ name, options.Permits name → m₁.get? name = m₂.get? name

section Agree

variable {options : Options} {m₁ m₂ : Mapping}

/-- A name that is not permitted is refused before its value is asked for. -/
theorem check_congr (h : AgreeOnPermitted options m₁ m₂) (name : String) :
    check options m₁ name = check options m₂ name := by
  by_cases hlists : options.Permits name
  · have hcontains : m₁.contains name = m₂.contains name := by
      rw [Mapping.contains, Mapping.contains, h name hlists]
    rw [check, check, hcontains]
  · rw [check_of_not_permits hlists, check_of_not_permits hlists]

theorem readSpecifier_congr (h : AgreeOnPermitted options m₁ m₂) :
    readSpecifier options m₁ = readSpecifier options m₂ := by
  funext specifier
  simp only [readSpecifier, check_congr h]

/-- A specifier is read only if the name it takes is permitted. -/
theorem permits_of_readSpecifier {values : Mapping} {specifier : Tree} {b : Binding}
    (h : readSpecifier options values specifier = .ok b) : options.Permits b.imported := by
  obtain ⟨-, hcheck⟩ := checked_of_readSpecifier h
  by_cases hlists : options.Permits b.imported
  · exact hlists
  · rw [check_of_not_permits hlists] at hcheck
    cases hcheck

/-- Variables that are imported under permitted names have the same replacements. -/
theorem replacement?_congr (h : AgreeOnPermitted options m₁ m₂) {bindings : List Binding}
    (hbindings : ∀ b ∈ bindings, options.Permits b.imported) :
    replacement? m₁ bindings = replacement? m₂ bindings := by
  funext id
  unfold replacement?
  cases hfind : bindings.reverse.find? (·.variableId == id) with
  | none => rfl
  | some b =>
    have hmem : b ∈ bindings := List.mem_reverse.mp (List.mem_of_find?_eq_some hfind)
    rw [Option.map_some, Option.map_some, h b.imported (hbindings b hmem)]

/-- Substituting gives the same program and report, or the same fault. -/
theorem run_congr (h : AgreeOnPermitted options m₁ m₂) (program : Tree) :
    run options m₁ program = run options m₂ program := by
  simp only [run, readSpecifier_congr h]
  cases hread : (matchingSpecifiers options program.children).mapM (readSpecifier options m₂) with
  | error fault => rfl
  | ok bindings =>
    have hbindings : ∀ b ∈ bindings, options.Permits b.imported := by
      intro b hb
      obtain ⟨s, -, hs⟩ := Fallible.exists_of_mem_mapM hread hb
      exact permits_of_readSpecifier hs
    dsimp only
    rw [replacement?_congr h hbindings]

/-- A source file comes to the same text and report, or the same fault. -/
theorem transform_congr (h : AgreeOnPermitted options m₁ m₂) (file : SourceFile) :
    file.transform options m₁ = file.transform options m₂ := by
  unfold SourceFile.transform
  cases file.read with
  | error fault => rfl
  | ok result =>
    obtain ⟨tree, comments⟩ := result
    dsimp only
    rw [run_congr h]

end Agree

/-- Whatever two mappings have for names that the lists do not permit: programs, changed in place or
not, and files come to the same, with the same report or the same fault. -/
theorem outcome_eq_of_permitted (options : Options) (m₁ m₂ : Mapping)
    (hagree : ∀ name, options.Permits name → m₁.get? name = m₂.get? name) :
    (∀ program, run options m₁ program = run options m₂ program) ∧
    (∀ program, (edit options m₁).on program = (edit options m₂).on program) ∧
    ∀ file : SourceFile, file.transform options m₁ = file.transform options m₂ := by
  refine ⟨run_congr hagree, ?_, transform_congr hagree⟩
  intro program
  rw [edit_on, edit_on, run_congr hagree]

/-- `import { KEY, SECRET } from "@env"` in strict mode, where `SECRET` is blocked: it is refused as
such, with a value and without one, and the value changes nothing for `KEY` alone. -/
theorem outcome_eq_of_permitted_secret :
    let s : Span := ⟨0, 0⟩
    let options : Options := { Options.default with
      blocklist := some ["SECRET"], allowUndefined := false }
    let known := Mapping.empty.insert "KEY" "1"
    let named (name : String) : Tree :=
      .node (.importNamed false) s [.node (.binding ⟨name, 1⟩ false) s [], .none]
    let importing (specifiers : List Tree) : Tree := .node (.moduleProgram none) s
      [.node (.importDeclaration false) s
        [.many specifiers, .node (.stringLiteral "@env" none) s []]]
    (∀ name, options.Permits name →
      (known.insert "SECRET" "x").get? name = known.get? name) ∧
    run options (known.insert "SECRET" "x") (importing [named "KEY", named "SECRET"]) =
      .error ⟨.rejected "SECRET", s⟩ ∧
    run options known (importing [named "KEY", named "SECRET"]) =
      .error ⟨.rejected "SECRET", s⟩ ∧
    run options (known.insert "SECRET" "x") (importing [named "KEY"]) =
      run options known (importing [named "KEY"]) := by
  intro s options known named importing
  have hagree : ∀ name, options.Permits name →
      (known.insert "SECRET" "x").get? name = known.get? name := by
    intro name hpermits
    have hne : name ≠ "SECRET" := fun h => hpermits.2 ["SECRET"] rfl (h ▸ List.mem_singleton_self _)
    rw [Mapping.get?_insert, if_neg (Ne.symm hne)]
  obtain ⟨hrun, -, -⟩ := outcome_eq_of_permitted options _ _ hagree
  exact ⟨hagree, rfl, (hrun _).symm.trans rfl, hrun _⟩

end Substitution

/-! ## Passes in safe mode -/

/-- The environments list the same values for a name. (A process lists at most one.) -/
def Environment.AgreeOn (e e' : Environment) (name : String) : Prop :=
  Mapping.valuesIn e.variables name = Mapping.valuesIn e'.variables name

theorem agreeOn_iff {e e' : Environment} (hd : e.Distinct) (hd' : e'.Distinct) (name : String) :
    e.AgreeOn e' name ↔ e.var? name = e'.var? name := by
  unfold Environment.AgreeOn Environment.var?
  rw [Mapping.valuesIn_eq_toList hd, Mapping.valuesIn_eq_toList hd']
  cases e.variables.lookup name <;> cases e'.variables.lookup name <;> simp

/-- In safe mode a variable that is not admitted does not count. -/
theorem variableValue?_congr {o : Options} (hs : o.safe = true) {e e' : Environment} {name : String}
    (hagree : o.Admits name → e.AgreeOn e' name) :
    Resolution.variableValue? o e name = Resolution.variableValue? o e' name := by
  unfold Resolution.variableValue?
  rw [if_pos hs, if_pos hs]
  by_cases hadmits : o.Admits name
  · rw [hagree hadmits]
  · rw [if_neg hadmits, if_neg hadmits]

/-- Environments that agree on the variables that count give mappings that agree on the names that
an import may take. -/
theorem agreeOnPermitted_layered {o : Options} (hs : o.safe = true) {e e' : Environment}
    (hagree : ∀ name, o.Admits name → o.Permits name → e.AgreeOn e' name) (base mode : Mapping) :
    Substitution.AgreeOnPermitted o (Resolution.layered o base mode e)
      (Resolution.layered o base mode e') := by
  intro name hpermits
  rw [get?_layered_last, get?_layered_last,
    variableValue?_congr hs fun hadmits => hagree name hadmits hpermits]

theorem run_build (o : Options) (e : Environment) (cwd : Path) (now : Int) (d : Disk) :
    ((Pass.build o e cwd).run cwd now d).1.1 = ⟨o, Resolution.on d cwd o e⟩ := by
  simp [Pass.build, run_resolve]

/-- In safe mode, on the same disk: for two environments that select the same mode and agree on the
variables that are admitted and whose names an import may take, the two passes that are built come
to the same on every program and every file, with the same report or the same fault. -/
theorem pass_outcome_eq_of_admitted (o : Options) (hs : o.safe = true) (e e' : Environment)
    (hmode : e.mode o.envName = e'.mode o.envName)
    (hagree : ∀ name, o.Admits name → o.Permits name → e.AgreeOn e' name) (cwd : Path) (now : Int)
    (d : Disk) :
    let p := ((Pass.build o e cwd).run cwd now d).1.1
    let p' := ((Pass.build o e' cwd).run cwd now d).1.1
    (∀ program, p.substitute program = p'.substitute program) ∧
    ∀ file, p.transform file = p'.transform file := by
  intro p p'
  have hp : p = ⟨o, Resolution.on d cwd o e⟩ := run_build o e cwd now d
  have hp' : p' = ⟨o, Resolution.on d cwd o e'⟩ := run_build o e' cwd now d
  -- the mode is the same, so the same files are read
  have hvalues : Substitution.AgreeOnPermitted o (Resolution.on d cwd o e).values
      (Resolution.on d cwd o e').values := by
    unfold Resolution.on
    dsimp only
    rw [← hmode]
    exact agreeOnPermitted_layered hs hagree _ _
  rw [hp, hp']
  exact ⟨Substitution.run_congr hvalues, Substitution.transform_congr hvalues⟩

/-- Two environments that differ in the value and the place of `EXPO_`, a name that imports may take
and safe mode never admits: its value is that of the base file in both. -/
theorem pass_outcome_eq_of_admitted_expo :
    let o : Options := { Options.default with safe := true }
    let e : Environment := ⟨[("EXPO_", "a"), ("NODE_ENV", "qa"), ("KEY", "1")]⟩
    let e' : Environment := ⟨[("NODE_ENV", "qa"), ("EXPO_", "b"), ("KEY", "1")]⟩
    let cwd : Path := ⟨"/w"⟩
    let d : Disk := ⟨[(["w"], .directory 0),
      ([".env", "w"], .file (Text.Utf8.ofString "EXPO_=base\n") 5)]⟩
    let p := ((Pass.build o e cwd).run cwd 0 d).1.1
    let p' := ((Pass.build o e' cwd).run cwd 0 d).1.1
    o.safe = true ∧ e.mode o.envName = e'.mode o.envName ∧
      (∀ name, o.Admits name → o.Permits name → e.AgreeOn e' name) ∧
      p.resolution.values.get? "EXPO_" = some "base" ∧
      p.resolution.values.get? "KEY" = some "1" ∧
      (∀ program, p.substitute program = p'.substitute program) ∧
      ∀ file, p.transform file = p'.transform file := by
  intro o e e' cwd d p p'
  have hmode : e.mode o.envName = e'.mode o.envName := by decide +kernel
  have hagree : ∀ name, o.Admits name → o.Permits name → e.AgreeOn e' name := by
    intro name hadmits _
    have hne : "EXPO_" ≠ name := Ne.symm hadmits.2.2.1
    rw [agreeOn_iff (by decide) (by decide)]
    simp [Environment.var?, e, e', List.lookup_cons, beq_eq_false_iff_ne.mpr (Ne.symm hne)]
  obtain ⟨hprogram, hfile⟩ := pass_outcome_eq_of_admitted o rfl e e' hmode hagree cwd 0 d
  exact ⟨rfl, hmode, hagree, by decide +kernel, by decide +kernel, hprogram, hfile⟩

end EnvInline
