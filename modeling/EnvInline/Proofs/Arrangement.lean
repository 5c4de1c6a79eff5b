import Mathlib.Data.List.ReduceOption
import EnvInline.Proofs.FirstFault
import EnvInline.Proofs.Rewriting

/-!
# The arrangement of the imports

Of the imports of the module nothing counts but which variables they bind and under which names. They
may be split into any number of declarations or merged into one, and stand in any order and anywhere
among the other items: a run goes through for all arrangements or for none, and comes to the same
program with the same counts.

* `replacement?_congr_mem` — the replacements do not depend on the order of the bindings;
* `eq_of_run` — what a run comes to, said at once for programs with and without imports;
* `run_of_rearranged` — two arrangements of the same imports.
-/

namespace EnvInline.Substitution

open EnvInline.Syntax

/-- What the specifiers of the imports bind, in the order of the text. A specifier that is not a
named one binds nothing that can be replaced. -/
def importedBindings (options : Options) (program : Tree) : List (Option Binding) :=
  (matchingSpecifiers options program.children).map bindingOf?

/-- The programs have the same other items in the same order, and their imports of the module bind
the same variables under the same names. -/
structure Rearranged (options : Options) (p q : Tree) : Prop where
  others : (p.children.filter fun item => !isMatching options item) =
    q.children.filter fun item => !isMatching options item
  specifiers : ∀ binding?,
    binding? ∈ importedBindings options p ↔ binding? ∈ importedBindings options q

/-- No variable is bound under two names, as is the case when the variables are pairwise distinct. -/
def OneNameEach (bindings : List Binding) : Prop :=
  ∀ b ∈ bindings, ∀ b' ∈ bindings, b.variableId = b'.variableId → b.imported = b'.imported

instance (bindings : List Binding) : Decidable (OneNameEach bindings) :=
  inferInstanceAs (Decidable (∀ b ∈ bindings, ∀ b' ∈ bindings, _ → _))

/-! ## Replacing nothing -/

section Replace

variable {r : Ident → Option (Option String)} (h : ∀ id, r id = none)
include h

theorem substitute?_of_forall_none (t : Tree) : substitute? r t = none := by
  rw [← Option.not_isSome_iff_eq_none, substitute?_isSome]
  simp [h]

theorem replace_of_forall_none (t : Tree) : replace r t = t := by
  induction t using Tree.inductionOn with
  | node k span cs ih =>
    rw [replace_of_none r (substitute?_of_forall_none h _), List.map_congr_left ih, List.map_id']

theorem countReadsMany_of_forall_none (ts : List Tree) : countReadsMany r ts = 0 := by
  rw [countReadsMany_eq_countP, List.countP_eq_zero]
  intro t _
  simp [substitute?_of_forall_none h t]

end Replace

/-! ## Bindings in any order -/

section Bindings

variable {bindings bindings' : List Binding} (hone : OneNameEach bindings)
include hone

/-- With one name for each variable, every binding of a variable says what replaces it. -/
theorem replacement?_of_mem (values : Mapping) {b : Binding} (hb : b ∈ bindings) :
    replacement? values bindings b.variableId = some (values.get? b.imported) := by
  have hbound : b.variableId ∈ bound bindings := List.mem_map_of_mem hb
  obtain ⟨name, ⟨before, after, hsplit, -⟩, hr⟩ := exists_imports values hbound
  have hlast : (⟨b.variableId, name⟩ : Binding) ∈ bindings := by
    rw [hsplit]
    exact List.mem_append_right before List.mem_cons_self
  have hname : name = b.imported := hone _ hlast b hb rfl
  rw [hr, hname]

theorem replacement?_congr_mem (values : Mapping) (h : ∀ b, b ∈ bindings ↔ b ∈ bindings') :
    replacement? values bindings = replacement? values bindings' := by
  have hone' : OneNameEach bindings' :=
    fun b hb b' hb' => hone b ((h b).mpr hb) b' ((h b').mpr hb')
  funext id
  by_cases hid : id ∈ bound bindings
  · obtain ⟨b, hb, rfl⟩ := List.mem_map.mp hid
    rw [replacement?_of_mem hone values hb, replacement?_of_mem hone' values ((h b).mp hb)]
  · have hid' : id ∉ bound bindings' := by
      intro hmem
      obtain ⟨b, hb, rfl⟩ := List.mem_map.mp hmem
      exact hid (List.mem_map_of_mem ((h b).mpr hb))
    rw [← replacement?_isSome_iff values, Option.not_isSome_iff_eq_none] at hid hid'
    rw [hid, hid']

end Bindings

theorem card_bound_congr {bindings bindings' : List Binding}
    (h : ∀ b, b ∈ bindings ↔ b ∈ bindings') :
    (variableIds bindings).length = (variableIds bindings').length := by
  rw [length_variableIds, length_variableIds]
  congr 1
  ext id
  simp [bound, h]

/-! ## Runs -/

section Run

variable {options : Options} {values : Mapping} {p q : Tree}

/-- A program without imports is treated like one whose imports bind nothing. -/
theorem eq_of_run {out : Tree} {report : Report} (h : run options values p = .ok (out, report)) :
    ∃ bindings, importedBindings options p = bindings.map some ∧
      let r := replacement? values bindings
      let kept := p.children.filter fun item => !isMatching options item
      out = .node p.kind p.span (kept.map (replace r)) ∧
      report.bindings = (variableIds bindings).length ∧
      report.replacedReferences = countReadsMany r kept := by
  by_cases hmatching : ∃ item ∈ p.children, isMatching options item = true
  · obtain ⟨bindings, hread, rfl, rfl⟩ := run_of_matching h hmatching
    exact ⟨bindings, map_bindingOf?_of_mapM hread, rfl, rfl, rfl⟩
  · have hnone : ∀ item ∈ p.children, isMatching options item = false := by
      intro item hitem
      rw [← Bool.not_eq_true]
      exact fun hmatch => hmatching ⟨item, hitem, hmatch⟩
    rw [run_of_no_matching values hnone] at h
    obtain ⟨rfl, rfl⟩ := Prod.mk.inj (Except.ok.inj h)
    have hremoved : p.children.filter (isMatching options) = [] := by
      rw [List.filter_eq_nil_iff]
      intro item hitem
      simp [hnone item hitem]
    have hkept : (p.children.filter fun item => !isMatching options item) = p.children := by
      rw [List.filter_eq_self]
      intro item hitem
      simp [hnone item hitem]
    have hr : ∀ id, replacement? values [] id = none := fun _ => rfl
    refine ⟨[], ?_, ?_, rfl, (countReadsMany_of_forall_none hr _).symm⟩
    · simp [importedBindings, matchingSpecifiers, hremoved]
    · obtain ⟨kind, span, items⟩ := p
      rw [hkept, List.map_congr_left fun t _ => replace_of_forall_none hr t, List.map_id']
      rfl

theorem accepted_iff {specifier : Tree} :
    Accepted options values specifier ↔ ∃ b, bindingOf? specifier = some b ∧
      options.Permits b.imported ∧ Defined options values b.imported := by
  constructor
  · rintro ⟨name, htakes, hlists, hvalue⟩
    obtain ⟨b, hb, rfl⟩ := takes_iff.mp htakes
    exact ⟨b, hb, hlists, hvalue⟩
  · rintro ⟨b, hb, hlists, hvalue⟩
    exact ⟨b.imported, takes_iff.mpr ⟨b, hb, rfl⟩, hlists, hvalue⟩

/-- Whether a run goes through is decided by what is bound. -/
theorem run_eq_ok_iff_bindings :
    (∃ out report, run options values p = .ok (out, report)) ↔
      ∀ binding? ∈ importedBindings options p, ∃ b, binding? = some b ∧
        options.Permits b.imported ∧ Defined options values b.imported := by
  rw [run_eq_ok_iff, importedBindings, List.forall_mem_map]
  simp only [accepted_iff, mem_matchingSpecifiers]
  constructor
  · rintro h s ⟨item, hitem, hmatch, hs⟩
    exact h item hitem hmatch s hs
  · intro h item hitem hmatch s hs
    exact h s ⟨item, hitem, hmatch, hs⟩

/-- For all programs with the same other items whose imports bind the same variables under the same
names, one name for each variable: a run goes through for both or for neither. If it does, the
results have the same items, and they are one program if nothing else was different to begin with;
the same number of variables was bound and of places replaced. -/
theorem run_of_rearranged (options : Options) (values : Mapping) {p q : Tree}
    (h : Rearranged options p q) (hone : OneNameEach (importedBindings options p).reduceOption) :
    ((∃ out report, run options values p = .ok (out, report)) ↔
      ∃ out report, run options values q = .ok (out, report)) ∧
    ∀ out report out' report', run options values p = .ok (out, report) →
      run options values q = .ok (out', report') →
        out.children = out'.children ∧
        (p.kind = q.kind → p.span = q.span → out = out') ∧
        report.bindings = report'.bindings ∧
        report.replacedReferences = report'.replacedReferences := by
  constructor
  · rw [run_eq_ok_iff_bindings, run_eq_ok_iff_bindings]
    simp only [h.specifiers]
  · intro out report out' report' hrun hrun'
    obtain ⟨bindings, hbindings, rfl, hcount, hsites⟩ := eq_of_run hrun
    obtain ⟨bindings', hbindings', rfl, hcount', hsites'⟩ := eq_of_run hrun'
    have hmem : ∀ b, b ∈ bindings ↔ b ∈ bindings' := by
      intro b
      have hb := h.specifiers (some b)
      rw [hbindings, hbindings'] at hb
      simpa using hb
    have hnamed : (importedBindings options p).reduceOption = bindings := by
      simp [hbindings, List.reduceOption]
    have hr := replacement?_congr_mem (hnamed ▸ hone) values hmem
    rw [hcount, hcount', hsites, hsites', hr, h.others]
    refine ⟨rfl, ?_, card_bound_congr hmem, rfl⟩
    intro hkind hspan
    rw [hkind, hspan]

end Run

/-- `import { KEY as k, LOW } from "@env"; use(k, LOW);` and `import { LOW } from "@env";
use(k, LOW); import {} from "@env"; import { "KEY" as k } from "@env";`. -/
theorem run_of_rearranged_split :
    let s : Span := ⟨0, 0⟩
    let var (name : String) : Tree := .node (.binding ⟨name, 1⟩ false) s []
    let importing (specifiers : List Tree) : Tree := .node (.importDeclaration false) s
      [.many specifiers, .node (.stringLiteral "@env" none) s []]
    let key (name : Kind) : Tree := .node (.importNamed false) s [var "k", .node name s []]
    let low : Tree := .node (.importNamed false) s [var "LOW", .none]
    let use (first second : Tree) : Tree := .node .array s [first, second]
    let read (name : String) : Tree := .node (.reference ⟨name, 1⟩) s []
    let program (items : List Tree) : Tree := .node (.moduleProgram none) s items
    let p := program [importing [key (.name "KEY"), low], use (read "k") (read "LOW")]
    let q := program [importing [low], use (read "k") (read "LOW"), importing [],
      importing [key (.stringLiteral "KEY" none)]]
    let out := program [use (inlined s (some "1")) (inlined s none)]
    let values := Mapping.empty.insert "KEY" "1"
    Rearranged .default p q ∧ OneNameEach (importedBindings .default p).reduceOption ∧
      run .default values p = .ok (out, ⟨1, 2, 2⟩) ∧
      ∃ report, run .default values q = .ok (out, report) ∧
        report.bindings = 2 ∧ report.replacedReferences = 2 := by
  intro s var importing key low use read program p q out values
  have hrearranged : Rearranged .default p q := by
    refine ⟨rfl, ?_⟩
    have hp : importedBindings .default p = [some ⟨⟨"k", 1⟩, "KEY"⟩, some ⟨⟨"LOW", 1⟩, "LOW"⟩] :=
      rfl
    have hq : importedBindings .default q = [some ⟨⟨"LOW", 1⟩, "LOW"⟩, some ⟨⟨"k", 1⟩, "KEY"⟩] :=
      rfl
    intro binding?
    rw [hp, hq]
    simp [or_comm]
  have hone : OneNameEach (importedBindings .default p).reduceOption := by decide
  have hrun : run .default values p = .ok (out, ⟨1, 2, 2⟩) := rfl
  obtain ⟨hiff, hsame⟩ := run_of_rearranged .default values hrearranged hone
  obtain ⟨out', report', hrun'⟩ := hiff.mp ⟨_, _, hrun⟩
  obtain ⟨-, hout, hcount, hsites⟩ := hsame _ _ _ _ hrun hrun'
  exact ⟨hrearranged, hone, hrun, report', (hout rfl rfl) ▸ hrun', hcount.symm, hsites.symm⟩

end EnvInline.Substitution
