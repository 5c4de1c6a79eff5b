import EnvInline.Proofs.InTurn

/-!
# Targets within the directory

A target is the directory with the names of its file behind it. A relative file that does not climb
keeps all its names, and every other one keeps only the last. No name climbs, so whatever a run
changes is in the directory.

* `components_join` — a name behind a path is one more component;
* `within?_eq_some_iff` — the names that a file keeps;
* `Disk.locate_join_dot` — a path with names behind it leads into the place of the path;
* `targets_within` — when the targets are refused, what they are, and what a run can change.
-/

namespace EnvInline

namespace Path

/-- The path is relative and does not climb. -/
def StaysBelow (p : Path) : Prop := p.isAbsolute = false ∧ .parent ∉ p.components

instance (p : Path) : Decidable p.StaysBelow := inferInstanceAs (Decidable (_ ∧ _))

/-! ## Components -/

theorem notMem_filterMap_component? (ss : List (List Char)) :
    Component.root ∉ ss.filterMap component? ∧ Component.current ∉ ss.filterMap component? := by
  have key : ∀ s, component? s ≠ some .root ∧ component? s ≠ some .current := by
    intro s
    unfold component?
    split
    · simp
    · split <;> simp
  constructor
  · intro h
    obtain ⟨s, -, hs⟩ := List.mem_filterMap.mp h
    exact (key s).1 hs
  · intro h
    obtain ⟨s, -, hs⟩ := List.mem_filterMap.mp h
    exact (key s).2 hs

theorem root_mem_components_iff (p : Path) : .root ∈ p.components ↔ p.isAbsolute = true := by
  have hsegments := (notMem_filterMap_component? (segments p.text.toList)).1
  rw [components_eq, List.mem_append, or_iff_left hsegments]
  unfold lead
  split
  · next habsolute => simp [habsolute]
  · next habsolute => split <;> simp [habsolute]

/-- The last component is `.` only if it is the only one. -/
theorem getLast?_filter_current {p : Path}
    (h : p.components.filter (· != .current) ≠ []) :
    (p.components.filter (· != .current)).getLast? = p.components.getLast? := by
  have hsegments := (notMem_filterMap_component? (segments p.text.toList)).2
  rw [components_eq] at h ⊢
  generalize (segments p.text.toList).filterMap component? = cs at h hsegments
  have hkeep : cs.filter (· != .current) = cs := by
    rw [List.filter_eq_self]
    intro c hc
    simpa using ne_of_mem_of_not_mem hc hsegments
  rw [List.filter_append, hkeep] at h ⊢
  by_cases hcs : cs = []
  · subst hcs
    unfold lead at h ⊢
    split
    · rfl
    · next habsolute =>
      split
      · next hdot => simp [habsolute, hdot] at h
      · rfl
  · rw [List.getLast?_append_of_ne_nil _ hcs, List.getLast?_append_of_ne_nil _ hcs]

/-! ### Components of joined paths -/

theorem head?_stem_append {ss : List (List Char)} {s : List Char} (hs : s ≠ ['.']) :
    (stem ss ++ [s]).head? = some ['.'] ↔ ss.head? = some ['.'] := by
  match ss with
  | [] => simpa [stem] using hs
  | [t] =>
    by_cases ht : t = []
    · simpa [stem, ht] using hs
    · simp [stem, ht]
  | t :: u :: ss =>
    rw [show t :: u :: ss = [t] ++ (u :: ss) from rfl, stem_append (List.cons_ne_nil u ss)]
    simp

theorem filterMap_stem (ss : List (List Char)) :
    (stem ss).filterMap component? = ss.filterMap component? := by
  unfold stem
  split
  · next hlast =>
    obtain ⟨init, rfl⟩ := List.getLast?_eq_some_iff.mp hlast
    simp [component?]
  · rfl

/-- A name behind a path is one more component. -/
theorem components_join (p : Path) {name : String} (h : LeadsDown name) :
    (p.join ⟨name⟩).components = p.components ++ [.normal name] := by
  obtain ⟨hempty, hdot, hup⟩ := h.toList_ne
  have hslash : '/' ∉ name.toList := h.1.2.2
  have hname : component? name.toList = some (.normal name) := by simp [component?, hempty, hdot, hup]
  have hlead : (p.join ⟨name⟩).lead = p.lead := by
    unfold lead
    rw [isAbsolute_join p hslash, segments_join p hslash]
    simp only [head?_stem_append hdot]
  rw [components_eq, components_eq, hlead, segments_join p hslash, List.filterMap_append,
    filterMap_stem, List.filterMap_cons_some hname, List.filterMap_nil, List.append_assoc]

theorem components_joinAll (p : Path) {names : List String} (h : ∀ n ∈ names, LeadsDown n) :
    (joinAll p names).components = p.components ++ names.map .normal := by
  induction names generalizing p with
  | nil => simp [joinAll]
  | cons name names ih =>
    obtain ⟨hname, hnames⟩ := List.forall_mem_cons.mp h
    calc (joinAll (p.join ⟨name⟩) names).components
        = (p.join ⟨name⟩).components ++ names.map .normal := ih _ hnames
      _ = p.components ++ (name :: names).map .normal := by
          rw [components_join p hname, List.append_assoc]
          rfl

/-! ### Texts of joined paths -/

/-- What stands between a path and a name behind it. -/
theorem exists_text_join (p : Path) :
    ∃ slash, ∀ n : String, '/' ∉ n.toList → (p.join ⟨n⟩).text = p.text ++ (slash ++ n) := by
  have hrelative : ∀ n : String, '/' ∉ n.toList → ¬ (Path.mk n).isAbsolute = true := by
    intro n hn habsolute
    exact hn (List.mem_of_mem_head? ((isAbsolute_iff _).mp habsolute))
  by_cases hend : (p.text.isEmpty || p.text.toList.getLast? == some '/') = true
  · refine ⟨"", fun n hn => ?_⟩
    rw [join, if_neg (hrelative n hn), if_pos hend, String.empty_append]
  · refine ⟨"/", fun n hn => ?_⟩
    rw [join, if_neg (hrelative n hn), if_neg hend, String.append_assoc]

theorem exists_text_joinAll (p : Path) {names : List String} (h : ∀ n ∈ names, '/' ∉ n.toList) :
    ∃ rest, (joinAll p names).text = p.text ++ rest := by
  induction names generalizing p with
  | nil => exact ⟨"", by simp [joinAll]⟩
  | cons name names ih =>
    obtain ⟨hname, hnames⟩ := List.forall_mem_cons.mp h
    obtain ⟨slash, hslash⟩ := exists_text_join p
    obtain ⟨rest, hrest⟩ := ih (p.join ⟨name⟩) hnames
    refine ⟨slash ++ name ++ rest, ?_⟩
    calc (joinAll (p.join ⟨name⟩) names).text
        = (p.join ⟨name⟩).text ++ rest := hrest
      _ = p.text ++ (slash ++ name ++ rest) := by rw [hslash name hname, String.append_assoc]

end Path

namespace Disk

variable {d : Disk} {cwd p : Path} {place : Place} {names : List String}

theorem refusal?_eq_none_iff :
    refusal? p = none ↔
      '\x00' ∉ p.text.toList ∧ p.text ≠ "" ∧ p.text.utf8ByteSize < 4096 := by
  unfold refusal?
  split
  · next hnul => simp [hnul]
  · next hnul =>
    split
    · next hempty => simp [String.isEmpty_iff.mp hempty]
    · next hempty =>
      split
      · next hlong => simp [hlong]
      · next hshort => simp_all

/-- If names behind a path can be followed, then so can a single `.` behind it. -/
theorem refusal?_join_dot (hne : names ≠ []) (hnames : ∀ n ∈ names, Path.LeadsDown n)
    (h : refusal? (Path.joinAll p names) = none) : refusal? (p.join ⟨"."⟩) = none := by
  obtain ⟨first, others, rfl⟩ := List.exists_cons_of_ne_nil hne
  obtain ⟨hfirst, hothers⟩ := List.forall_mem_cons.mp hnames
  obtain ⟨slash, hslash⟩ := Path.exists_text_join p
  obtain ⟨rest, hrest⟩ :=
    Path.exists_text_joinAll (p.join ⟨first⟩) fun n hn => (hothers n hn).1.2.2
  have htext : (Path.joinAll p (first :: others)).text = p.text ++ (slash ++ first) ++ rest := by
    rw [← hslash first hfirst.1.2.2]
    exact hrest
  obtain ⟨hnul, -, hshort⟩ := refusal?_eq_none_iff.mp h
  rw [htext] at hnul hshort
  rw [refusal?_eq_none_iff, hslash "." (by decide)]
  refine ⟨?_, by simp, ?_⟩
  · simp at hnul ⊢
    tauto
  · have hdot : ".".utf8ByteSize = 1 := rfl
    have hpos : first.utf8ByteSize ≠ 0 := by simpa using hfirst.1.1
    simp only [String.utf8ByteSize_append] at hshort ⊢
    omega

/-- A path with names behind it leads to the place of these names in the place of the path. The
path may be empty, so `.` is put behind it. -/
theorem locate_join_dot (hne : names ≠ []) (hnames : ∀ n ∈ names, Path.LeadsDown n)
    (h : d.locate cwd (Path.joinAll p names) = .ok place) :
    ∃ here, d.locate cwd (p.join ⟨"."⟩) = .ok here ∧ place = names.reverse ++ here := by
  obtain ⟨here, hhere, ⟨modified, hnode⟩, hplace⟩ := place_of_joinAll hne hnames h
  have hstay : d.walk here [['.']] = .ok here := by simp [walk, step, hnode]
  have hrefusal := refusal?_join_dot hne hnames (locate_eq_ok_iff.mp h).1
  refine ⟨here, locate_eq_ok_iff.mpr ⟨hrefusal, ?_⟩, hplace⟩
  rw [Path.segmentsFrom_join cwd p (by decide : '/' ∉ ".".toList)]
  exact walk_append_eq_ok_iff.mpr ⟨here, hhere, hstay⟩

end Disk

namespace Command

namespace Target

variable {outDir file target : Path} {names : List String}

/-- The names that a file keeps in the directory: all of them if the path stays below, else the
last one. -/
inductive Under (file : Path) : List String → Prop
  | kept {names : List String} :
    file.StaysBelow →
    file.components.filter (· != .current) = names.map .normal →
    names ≠ [] →
    Under file names
  | reduced {name : String} :
    ¬ file.StaysBelow →
    file.fileName? = some name →
    Under file [name]

/-- The path is the directory with the names of the file behind it. -/
def IsTarget (outDir file target : Path) : Prop :=
  ∃ names, Under file names ∧ target.components = outDir.components ++ names.map .normal

/-! ## The names of a file -/

theorem names?_eq_none_iff {cs : List Path.Component} :
    names? cs = none ↔ .root ∈ cs ∨ .parent ∈ cs := by
  induction cs with
  | nil => simp [names?]
  | cons c cs ih => cases c <;> simp [names?, ih]

theorem names?_eq_none_iff_not_staysBelow :
    names? file.components = none ↔ ¬ file.StaysBelow := by
  rw [names?_eq_none_iff, Path.root_mem_components_iff]
  unfold Path.StaysBelow
  rw [not_and_or, Bool.not_eq_false, not_not]

/-- A file goes to the names that it keeps. -/
theorem within?_eq_some_iff : within? file = some names ↔ Under file names := by
  unfold within?
  cases hnames : names? file.components with
  | none =>
    have hnot := names?_eq_none_iff_not_staysBelow.mp hnames
    constructor
    · intro h
      obtain ⟨name, hname, rfl⟩ := Option.map_eq_some_iff.mp h
      exact .reduced hnot hname
    · intro h
      cases h with
      | kept hstays => exact absurd hstays hnot
      | reduced _ hname => exact Option.map_eq_some_iff.mpr ⟨_, hname, rfl⟩
  | some kept =>
    have hstays : file.StaysBelow := by
      by_contra hnot
      cases (names?_eq_none_iff_not_staysBelow.mpr hnot).symm.trans hnames
    have hunder : Under file names ↔ kept = names ∧ names ≠ [] := by
      constructor
      · intro h
        cases h with
        | kept _ hfilter hne =>
          exact ⟨Option.some.inj (hnames.symm.trans (names?_eq_some_iff.mpr hfilter)), hne⟩
        | reduced hnot _ => exact absurd hstays hnot
      · rintro ⟨rfl, hne⟩
        exact .kept hstays (names?_eq_some_iff.mp hnames) hne
    rw [hunder]
    cases kept with
    | nil => simp
    | cons name rest =>
      simp only [Option.some.injEq]
      exact ⟨fun h => ⟨h, h ▸ List.cons_ne_nil name rest⟩, And.left⟩

theorem Under.leadsDown (h : Under file names) : names ≠ [] ∧ ∀ n ∈ names, Path.LeadsDown n :=
  leadsDown_of_within? (within?_eq_some_iff.mpr h)

/-- The last name that a file keeps is its own. -/
theorem Under.getLast? (h : Under file names) : names.getLast? = file.fileName? := by
  cases h with
  | reduced _ hname => exact hname.symm
  | kept _ hfilter hne =>
    have hlast : file.components.getLast? = names.getLast?.map .normal := by
      rw [← Path.getLast?_filter_current (by simpa [hfilter] using hne), hfilter,
        List.getLast?_map]
    have hname := List.getLast?_eq_some_getLast hne
    rw [hname, eq_comm, Path.fileName?_eq_some_iff, hlast, hname]
    rfl

/-- A file with a name keeps at least this one. -/
theorem exists_under_iff : (∃ names, Under file names) ↔ ∃ name, file.fileName? = some name := by
  constructor
  · rintro ⟨names, h⟩
    exact ⟨_, h.getLast?.symm.trans (List.getLast?_eq_some_getLast h.leadsDown.1)⟩
  · rintro ⟨name, hname⟩
    by_cases hstays : file.StaysBelow
    · cases hnames : names? file.components with
      | none => exact absurd hstays (names?_eq_none_iff_not_staysBelow.mp hnames)
      | some names =>
        have hfilter := names?_eq_some_iff.mp hnames
        refine ⟨names, .kept hstays hfilter ?_⟩
        rintro rfl
        have hmem := List.mem_of_getLast? (Path.fileName?_eq_some_iff.mp hname)
        exact absurd (List.filter_eq_nil_iff.mp hfilter _ hmem) (by simp)
    · exact ⟨[name], .reduced hstays hname⟩

theorem Under.unique {names' : List String} (h : Under file names) (h' : Under file names') :
    names = names' := by
  rw [← within?_eq_some_iff] at h h'
  exact Option.some.inj (h.symm.trans h')

/-! ## The targets of some files -/

theorem isTarget_of_of? (h : of? outDir file = some target) : IsTarget outDir file target := by
  obtain ⟨names, hnames, rfl⟩ := Option.map_eq_some_iff.mp h
  have hunder := within?_eq_some_iff.mp hnames
  exact ⟨names, hunder, Path.components_joinAll outDir hunder.leadsDown.2⟩

theorem IsTarget.same {target' : Path} (h : IsTarget outDir file target)
    (h' : IsTarget outDir file target') : target.same target' = true := by
  obtain ⟨names, hnames, htarget⟩ := h
  obtain ⟨names', hnames', htarget'⟩ := h'
  rw [Path.same, htarget, htarget', hnames.unique hnames', beq_self_eq_true]

theorem IsTarget.of_same {target' : Path} (h : IsTarget outDir file target)
    (hsame : target.same target' = true) : IsTarget outDir file target' := by
  obtain ⟨names, hnames, htarget⟩ := h
  exact ⟨names, hnames, (eq_of_beq hsame).symm.trans htarget⟩

theorem of?_eq_none_iff : of? outDir file = none ↔ file.fileName? = none := by
  have hiff : (of? outDir file).isSome = true ↔ file.fileName?.isSome = true := by
    rw [of?, Option.isSome_map, Option.isSome_iff_exists, Option.isSome_iff_exists]
    simp only [within?_eq_some_iff, exists_under_iff]
  rw [← Option.not_isSome_iff_eq_none, ← Option.not_isSome_iff_eq_none, hiff]

/-- Two of the files have one target. -/
def Clash (outDir : Path) (files : List Path) : Prop :=
  ∃ (i j : Nat) (first second target : Path), i < j ∧
    files[i]? = some first ∧ files[j]? = some second ∧
    IsTarget outDir first target ∧ IsTarget outDir second target

variable {files targets : List Path}

theorem not_clash_of_all (h : all outDir files = .ok targets) : ¬ Clash outDir files := by
  rintro ⟨i, j, first, second, target, hij, hfirst, hsecond, htarget, htarget'⟩
  obtain ⟨hfiles, hdifferent⟩ := all_eq_ok_iff.mp h
  obtain ⟨hlength, hget⟩ := List.forall₂_iff_get.mp hfiles
  obtain ⟨hi, rfl⟩ := List.getElem?_eq_some_iff.mp hfirst
  obtain ⟨hj, rfl⟩ := List.getElem?_eq_some_iff.mp hsecond
  have hi' : i < targets.length := hlength ▸ hi
  have hj' : j < targets.length := hlength ▸ hj
  have hsame : targets[i].components = targets[j].components := by
    have hleft := (isTarget_of_of? (hget i hi hi')).same htarget
    have hright := (isTarget_of_of? (hget j hj hj')).same htarget'
    exact (eq_of_beq hleft).trans (eq_of_beq hright).symm
  have hnot := List.pairwise_iff_getElem.mp hdifferent i j hi' hj' hij
  exact Bool.false_ne_true (hnot.symm.trans (beq_iff_eq.mpr hsame))

theorem exists_all (hnames : ∀ file ∈ files, file.fileName? ≠ none)
    (hclash : ¬ Clash outDir files) : ∃ targets, all outDir files = .ok targets := by
  let target (file : Path) : Path := (of? outDir file).getD outDir
  have htarget : ∀ file ∈ files, of? outDir file = some (target file) := by
    intro file hfile
    have hsome : of? outDir file ≠ none := fun h => hnames file hfile (of?_eq_none_iff.mp h)
    obtain ⟨t, ht⟩ := Option.ne_none_iff_exists'.mp hsome
    simp only [target, ht, Option.getD_some]
  refine ⟨files.map target, all_eq_ok_iff.mpr ⟨?_, ?_⟩⟩
  · exact List.forall₂_map_right_iff.mpr (List.forall₂_same.mpr htarget)
  · rw [List.pairwise_map, List.pairwise_iff_getElem]
    intro i j hi hj hij
    by_contra hsame
    have hfirst := isTarget_of_of? (htarget files[i] (List.getElem_mem hi))
    have hsecond := isTarget_of_of? (htarget files[j] (List.getElem_mem hj))
    exact hclash ⟨i, j, files[i], files[j], target files[j], hij, List.getElem?_eq_getElem hi,
      List.getElem?_eq_getElem hj, hfirst.of_same (by simpa using hsame), hsecond⟩

/-- The targets are refused if a file has no name, or if two have one target. -/
theorem exists_error_iff :
    (∃ e, all outDir files = .error e) ↔
      (∃ file ∈ files, file.fileName? = none) ∨ Clash outDir files := by
  constructor
  · rintro ⟨e, he⟩
    by_contra hgood
    obtain ⟨hnames, hclash⟩ := not_or.mp hgood
    obtain ⟨targets, htargets⟩ :=
      exists_all (fun file hfile hnone => hnames ⟨file, hfile, hnone⟩) hclash
    cases he.symm.trans htargets
  · intro hbad
    cases htargets : all outDir files with
    | error e => exact ⟨e, rfl⟩
    | ok targets =>
      rcases hbad with ⟨file, hfile, hnone⟩ | hclash
      · obtain ⟨target, htarget⟩ := exists_of?_of_mem (all_eq_ok_iff.mp htargets).1 hfile
        cases (of?_eq_none_iff.mpr hnone).symm.trans htarget
      · exact absurd hclash (not_clash_of_all htargets)

end Target

/-! ## What a run changes -/

open Access (Writes writes_append_iff)
open Target

section Run

variable {i : Invocation} {environment : Environment} {cwd : Path} {now : Int} {d : Disk}
  {files : List Path} {outDir : Path} (htask : i.task = .transform files (some outDir))
include htask

/-- A run fails, writes nothing and leaves the disk as it is, or it takes the files in turn, each
with its target. -/
theorem run_into :
    let whole := run i environment cwd
    let after := (whole.run cwd now d).2
    let code := (whole.run cwd now d).1.exitCode
    (after = d ∧ code = 1 ∧ ∀ path, ¬ Writes (whole.requests cwd now d) path) ∨
      ∃ pass targets outputs before asked, Target.all outDir files = .ok targets ∧
        Runs pass cwd now d (files.zip (targets.map some)) outputs code asked after ∧
        whole.requests cwd now d = before ++ asked ∧ ∀ path, ¬ Writes before path := by
  intro whole after code
  have hload := (looks_options i).not_writes cwd now d
  cases hoptions : (i.options.run cwd now d).1 with
  | error e =>
    left
    refine ⟨?_, ?_, ?_⟩
    · simp only [after, whole, run, Access.run_bind, (looks_options i).run_disk, hoptions,
        Access.run_pure]
    · simp only [code, whole, run, Access.run_bind, hoptions, Access.run_pure]
      rfl
    · intro path
      simpa [whole, run, Access.requests_bind, hoptions] using hload path
  | ok options =>
    have hresolve := (looks_build options environment cwd).not_writes cwd now d
    have hbefore : ∀ path, ¬ Writes (i.options.requests cwd now d ++
        (Pass.build options environment cwd).requests cwd now d) path := by
      intro path hwrites
      exact (writes_append_iff.mp hwrites).elim (hload path) (hresolve path)
    obtain ⟨-, hcode, hafter, hrequests⟩ := run_eq i environment d hoptions htask
    rw [transform_eq] at hcode hafter hrequests
    cases htargets : Target.all outDir files with
    | error e =>
      left
      simp only [jobsFor, htargets, Except.map, Access.run_pure, Access.requests_pure,
        List.append_nil] at hcode hafter hrequests
      refine ⟨hafter, hcode, ?_⟩
      rw [hrequests]
      exact hbefore
    | ok targets =>
      right
      rw [jobsFor_some htargets] at hcode hafter hrequests
      obtain ⟨outputs, hruns, -⟩ := runs_transformAll
        ⟨options, Resolution.on d cwd options environment⟩ cwd now
        (files.zip (targets.map some)) d
      rw [← hcode, ← hafter] at hruns
      exact ⟨_, targets, outputs, _, _, rfl, hruns, hrequests, hbefore⟩

/-- A run writes to nothing but the targets of its files. -/
theorem exists_isTarget_of_writes {path : Path}
    (hwrites : Writes ((run i environment cwd).requests cwd now d) path) :
    ∃ file ∈ files, IsTarget outDir file path := by
  rcases run_into htask with
    ⟨-, -, hnone⟩ | ⟨_, targets, _, before, asked, htargets, hruns, hrequests, hbefore⟩
  · exact absurd hwrites (hnone path)
  · rw [hrequests, writes_append_iff] at hwrites
    obtain ⟨content, isDone, hasked⟩ := hwrites.resolve_left (hbefore path)
    obtain ⟨job, hjob, htarget⟩ := hruns.asks _ hasked
    have hzip := List.mem_of_mem_take hjob
    have hmem : path ∈ targets := by
      have h := (List.of_mem_zip (show (job.1, job.2) ∈ _ from hzip)).2
      rw [show job.2 = some path from htarget] at h
      simpa using h
    obtain ⟨file, hfile, hof⟩ := exists_file_of_mem (all_eq_ok_iff.mp htargets).1 hmem
    exact ⟨file, hfile, isTarget_of_of? hof⟩

/-- A file that a run changes is at the names of one of its files in the directory. -/
theorem exists_under_of_changed {place : Place}
    (hchanged : ((run i environment cwd).run cwd now d).2.file? place ≠ d.file? place) :
    ∃ file ∈ files, ∃ names here, Under file names ∧
      ((run i environment cwd).run cwd now d).2.locate cwd (outDir.join ⟨"."⟩) = .ok here ∧
      place = names.reverse ++ here := by
  rcases run_into htask with ⟨hafter, -⟩ | ⟨_, targets, outputs, _, _, htargets, hruns, -⟩
  · exact absurd (congrArg (Disk.file? · place) hafter) hchanged
  · have hsnd := map_snd_zip_some (length_of_all htargets)
    -- otherwise no target that was written is at the place
    obtain ⟨target, htarget, hlocate⟩ : ∃ target ∈ targets.take outputs.length,
        ((run i environment cwd).run cwd now d).2.locate cwd target = .ok place := by
      by_contra hnone
      exact hchanged (hruns.frame hsnd fun t ht h => hnone ⟨t, ht, h⟩)
    have hmem := List.mem_of_mem_take htarget
    obtain ⟨file, hfile, hof⟩ := exists_file_of_mem (all_eq_ok_iff.mp htargets).1 hmem
    obtain ⟨names, hnames, rfl⟩ := Option.map_eq_some_iff.mp hof
    have hunder := within?_eq_some_iff.mp hnames
    obtain ⟨hne, hdown⟩ := hunder.leadsDown
    obtain ⟨here, hhere, hplace⟩ := Disk.locate_join_dot hne hdown hlocate
    exact ⟨file, hfile, names, here, hunder, hhere, hplace⟩

end Run

/-- The targets of some files are refused exactly if a file has no name or two files would get one
target. Otherwise they are the directory with names behind it, in the order of the files, and no two
of them are the same path. A run writes to nothing else, and changes no file outside of the
directory. -/
theorem targets_within (outDir : Path) (files : List Path) :
    ((∃ e, Target.all outDir files = .error e) ↔
      (∃ file ∈ files, file.fileName? = none) ∨ Clash outDir files) ∧
    (∀ targets, Target.all outDir files = .ok targets →
      List.Forall₂ (fun file target => ∃ names, Under file names ∧
        names ≠ [] ∧ names.getLast? = file.fileName? ∧
        target.components = outDir.components ++ names.map .normal) files targets ∧
      targets.Pairwise (fun p q => p.same q = false)) ∧
    ∀ (i : Invocation) (environment : Environment) (cwd : Path) (now : Int) (d : Disk),
      i.task = .transform files (some outDir) →
      let whole := run i environment cwd
      let after := (whole.run cwd now d).2
      (∀ path, Writes (whole.requests cwd now d) path →
        ∃ file ∈ files, IsTarget outDir file path) ∧
      ∀ place, after.file? place ≠ d.file? place →
        ∃ file ∈ files, ∃ names here, Under file names ∧
          after.locate cwd (outDir.join ⟨"."⟩) = .ok here ∧ place = names.reverse ++ here := by
  refine ⟨exists_error_iff, ?_, ?_⟩
  · intro targets htargets
    obtain ⟨hfiles, hdifferent⟩ := all_eq_ok_iff.mp htargets
    refine ⟨hfiles.imp ?_, hdifferent⟩
    intro file target htarget
    obtain ⟨names, hunder, hcomponents⟩ := isTarget_of_of? htarget
    exact ⟨names, hunder, hunder.leadsDown.1, hunder.getLast?, hcomponents⟩
  · intro i environment cwd now d htask
    refine ⟨?_, ?_⟩
    · intro path hwrites
      exact exists_isTarget_of_writes htask hwrites
    · intro place hchanged
      exact exists_under_of_changed htask hchanged

/-- A file that stays below and one that climbs are written into the directory. With a third one of
the same name from elsewhere the targets are refused. -/
theorem targets_within_build :
    let cwd : Path := ⟨"/w"⟩
    let files : List Path := [⟨"./src//a.js"⟩, ⟨"../lib/b.js"⟩]
    let i : Invocation :=
      ⟨none, none, none, none, [], [], false, false, false, .transform files (some ⟨"build"⟩)⟩
    let d : Disk := ⟨[(["w"], .directory 0), (["src", "w"], .directory 0), (["lib"], .directory 0),
      (["a.js", "src", "w"], .file (Text.Utf8.ofString "use(1);\n") 1),
      (["b.js", "lib"], .file (Text.Utf8.ofString "use(2);\n") 2)]⟩
    let after := ((run i ⟨[]⟩ cwd).run cwd 7 d).2
    let targets : List Path := [⟨"build/src/a.js"⟩, ⟨"build/b.js"⟩]
    i.task = .transform files (some ⟨"build"⟩) ∧
      Target.all ⟨"build"⟩ files = .ok targets ∧
      targets.Pairwise (fun p q => p.same q = false) ∧
      after.file? ["b.js", "build", "w"] ≠ d.file? ["b.js", "build", "w"] ∧
      (∃ file ∈ files, ∃ names here, Under file names ∧
        after.locate cwd ⟨"build/."⟩ = .ok here ∧
        ["b.js", "build", "w"] = names.reverse ++ here) ∧
      ∃ e, Target.all ⟨"build"⟩ (files ++ [⟨"/abs/b.js"⟩]) = .error e := by
  intro cwd files i d after targets
  have htargets : Target.all ⟨"build"⟩ files = .ok targets := by decide +kernel
  have hchanged : after.file? ["b.js", "build", "w"] ≠ d.file? ["b.js", "build", "w"] := by
    decide +kernel
  obtain ⟨-, hpaths, hruns⟩ := targets_within ⟨"build"⟩ files
  obtain ⟨-, hwithin⟩ := hruns i ⟨[]⟩ cwd 7 d rfl
  have hclash : Clash ⟨"build"⟩ (files ++ [⟨"/abs/b.js"⟩]) := by
    have hclimbs : Under ⟨"../lib/b.js"⟩ ["b.js"] :=
      .reduced (by decide +kernel) (by decide +kernel)
    have habsolute : Under ⟨"/abs/b.js"⟩ ["b.js"] :=
      .reduced (by decide +kernel) (by decide +kernel)
    exact ⟨1, 2, _, _, ⟨"build/b.js"⟩, by decide, rfl, rfl, ⟨_, hclimbs, by decide +kernel⟩,
      ⟨_, habsolute, by decide +kernel⟩⟩
  exact ⟨rfl, htargets, (hpaths targets htargets).2, hchanged, hwithin _ hchanged,
    (targets_within ⟨"build"⟩ (files ++ [⟨"/abs/b.js"⟩])).1.mpr (.inr hclash)⟩

end Command

end EnvInline
