import EnvInline.Proofs.TargetsWithin

/-!
# Targets in the way of each other

No two targets are the same path, but one of them can be above another one: a file that climbs keeps
only its name, and the files that stay below may be in a directory of this name. Such a list is not
refused. The run writes one of the two targets and fails when it comes to the other one.

* `Disk.onTheWay_joinAll_iff` — a file is on the way to the paths that have its names in front;
* `above_iff_of_targets` — the files whose targets are above each other;
* `targets_in_the_way` — no run of such a list ends well, and nothing else that a run writes gets in
  its way.
-/

namespace EnvInline

/-- The second path is in the first one, by what is written. -/
def Path.Above (p q : Path) : Prop := p.components <+: q.components ∧ p.components ≠ q.components

instance (p q : Path) : Decidable (p.Above q) := inferInstanceAs (Decidable (_ ∧ _))

/-- Of two paths behind the same one, the upper one has the first of the names of the other. -/
theorem Path.above_joinAll_iff (p : Path) {names names' : List String}
    (h : ∀ n ∈ names, LeadsDown n) (h' : ∀ n ∈ names', LeadsDown n) :
    (joinAll p names).Above (joinAll p names') ↔ names <+: names' ∧ names ≠ names' := by
  have hinj : Function.Injective Component.normal := fun _ _ => Component.normal.inj
  rw [Above, components_joinAll p h, components_joinAll p h', List.prefix_append_right_inj,
    List.prefix_map_iff_of_injective hinj, ne_eq, List.append_right_inj,
    (List.map_injective_iff.mpr hinj).eq_iff]

namespace Disk

variable {d : Disk} {cwd p : Path} {place here : Place}

/-- Some of the segments of a path, but not all of them, lead to the place. -/
def OnTheWay (d : Disk) (cwd p : Path) (place : Place) : Prop :=
  ∃ first rest, segmentsFrom cwd p = first ++ rest ∧ rest ≠ [] ∧ d.walk [] first = .ok place

/-- On the way to a path that leads somewhere there are directories. -/
theorem OnTheWay.hasDirectory (h : d.OnTheWay cwd p here) (hplace : d.locate cwd p = .ok place) :
    d.HasDirectory here := by
  obtain ⟨first, rest, hsegments, hrest, hhere⟩ := h
  have hwalk := (locate_eq_ok_iff.mp hplace).2
  rw [hsegments, walk_append_of_walk hhere] at hwalk
  exact hasDirectory_of_walk hrest hwalk

/-- What is no directory is on the way to exactly the paths that have more names behind its own. -/
theorem onTheWay_joinAll_iff {names names' : List String} (hne : names ≠ [])
    (hdown : ∀ n ∈ names, Path.LeadsDown n) (hne' : names' ≠ [])
    (hdown' : ∀ n ∈ names', Path.LeadsDown n)
    (hplace : d.locate cwd (Path.joinAll p names) = .ok place) (hfile : ¬ d.HasDirectory place) :
    d.OnTheWay cwd (Path.joinAll p names') place ↔ names <+: names' ∧ names ≠ names' := by
  obtain ⟨here, hhere, hdirectory, hnames⟩ := place_of_joinAll hne hdown hplace
  constructor
  · rintro ⟨first, rest, hsegments, hrest, hwalk⟩
    rw [Path.segmentsFrom_joinAll cwd p hne' hdown'] at hsegments
    rcases List.append_eq_append_iff.mp hsegments with ⟨ts, rfl, hts⟩ | ⟨ts, hts, -⟩
    · -- some of the names lead to the place
      obtain ⟨front, more, rfl, rfl, rfl⟩ := List.map_eq_append_iff.mp hts
      rw [walk_append_of_walk hhere] at hwalk
      have hfront := place_of_walk_names (fun n hn => hdown' n (List.mem_append_left _ hn)) hwalk
      obtain rfl : front = names :=
        List.reverse_injective (List.append_cancel_right (hfront.symm.trans hnames))
      refine ⟨List.prefix_append _ _, ?_⟩
      intro heq
      exact hrest (by simpa using heq)
    · -- the place is before the names, where only directories are
      rw [hts, walk_append_of_walk hwalk] at hhere
      cases ts with
      | nil => exact absurd (Except.ok.inj hhere ▸ hdirectory) hfile
      | cons t ts => exact absurd (hasDirectory_of_walk (List.cons_ne_nil t ts) hhere) hfile
  · rintro ⟨⟨more, rfl⟩, hmore⟩
    refine ⟨segmentsFrom cwd (Path.joinAll p names), more.map String.toList, ?_, ?_,
      (locate_eq_ok_iff.mp hplace).2⟩
    · rw [Path.segmentsFrom_joinAll cwd p hne hdown, Path.segmentsFrom_joinAll cwd p hne' hdown',
        List.map_append, List.append_assoc]
    · intro hnil
      exact hmore (by simpa using hnil)

end Disk

namespace Access

/-- Something was written to the path. -/
def Wrote (asked : List Request) (path : Path) : Prop :=
  ∃ content, (path, content) ∈ asked.filterMap Request.written?

theorem wrote_append_iff {asked later : List Request} {path : Path} :
    Wrote (asked ++ later) path ↔ Wrote asked path ∨ Wrote later path := by
  simp only [Wrote, List.filterMap_append, List.mem_append, exists_or]

theorem Wrote.writes {asked : List Request} {path : Path} (h : Wrote asked path) :
    Writes asked path := by
  obtain ⟨content, hmem⟩ := h
  obtain ⟨request, hrequest, hwritten⟩ := List.mem_filterMap.mp hmem
  cases request with
  | write path' content' isDone =>
    obtain ⟨-, hpath⟩ : isDone = true ∧ (path', content') = (path, content) := by
      simpa [Request.written?] using hwritten
    obtain ⟨rfl, rfl⟩ := Prod.mk.inj hpath
    exact ⟨content', isDone, hrequest⟩
  | stat _ => cases hwritten
  | read _ => cases hwritten
  | makeDirectories _ => cases hwritten

end Access

namespace Command

open Access (Request Wrote wrote_append_iff)
open Target

/-! ## Targets above each other -/

section Above

variable {outDir file file' target target' : Path} (h : of? outDir file = some target)
  (h' : of? outDir file' = some target')
include h h'

/-- A target is above another one if its file keeps the first of the names that the other file keeps,
but not all of them. -/
theorem above_iff_of_targets :
    target.Above target' ↔ ∃ names names', Under file names ∧ Under file' names' ∧
      names <+: names' ∧ names ≠ names' := by
  obtain ⟨names, hnames, rfl⟩ := Option.map_eq_some_iff.mp h
  obtain ⟨names', hnames', rfl⟩ := Option.map_eq_some_iff.mp h'
  have hunder := within?_eq_some_iff.mp hnames
  have hunder' := within?_eq_some_iff.mp hnames'
  refine (Path.above_joinAll_iff outDir hunder.leadsDown.2 hunder'.leadsDown.2).trans ⟨?_, ?_⟩
  · rintro ⟨hfront, hne⟩
    exact ⟨names, names', hunder, hunder', hfront, hne⟩
  · rintro ⟨_, _, hfirst, hsecond, hfront, hne⟩
    rw [hunder.unique hfirst, hunder'.unique hsecond]
    exact ⟨hfront, hne⟩

/-- A target that is no directory on a disk is on the way to those that are below it. -/
theorem onTheWay_iff_above {d : Disk} {cwd : Path} {place : Place}
    (hplace : d.locate cwd target = .ok place) (hfile : ¬ d.HasDirectory place) :
    d.OnTheWay cwd target' place ↔ target.Above target' := by
  obtain ⟨names, hnames, rfl⟩ := Option.map_eq_some_iff.mp h
  obtain ⟨names', hnames', rfl⟩ := Option.map_eq_some_iff.mp h'
  obtain ⟨hne, hdown⟩ := leadsDown_of_within? hnames
  obtain ⟨hne', hdown'⟩ := leadsDown_of_within? hnames'
  exact (Disk.onTheWay_joinAll_iff hne hdown hne' hdown' hplace hfile).trans
    (Path.above_joinAll_iff outDir hdown hdown').symm

end Above

/-! ## What a run writes -/

section Written

variable {pass : Pass} {cwd : Path} {now : Int} {d d' : Disk} {jobs : List Job}
  {outputs : List Output} {code : Nat} {asked : List Request} {targets : List Path}

/-- The targets that were written are those of the jobs that are done. -/
theorem Runs.wrote_iff (h : Runs pass cwd now d jobs outputs code asked d')
    (htargets : jobs.map Prod.snd = targets.map some) {path : Path} :
    Wrote asked path ↔ path ∈ targets.take outputs.length := by
  induction h generalizing targets with
  | finished => simp [Wrote]
  | next hdoes _ ih =>
    obtain ⟨first, rest, rfl, hfirst, hrest⟩ := List.map_eq_cons_iff.mp htargets.symm
    rw [wrote_append_iff, ih hrest.symm, List.length_cons, List.take_succ_cons, List.mem_cons]
    simp [Wrote, hdoes.writes, writtenBy, ← hfirst]
  | stopped hfails => simp [Wrote, hfails.writes]

/-- A target that was written is a file in the end. -/
theorem Runs.exists_file (h : Runs pass cwd now d jobs outputs code asked d')
    (htargets : jobs.map Prod.snd = targets.map some) (hapart : targets.Pairwise (Path.Apart cwd))
    {target : Path} (hwritten : target ∈ targets.take outputs.length) :
    ∃ place, d'.locate cwd target = .ok place ∧ ¬ d'.HasDirectory place := by
  obtain ⟨k, hk, rfl⟩ := List.mem_take_iff_getElem.mp hwritten
  obtain ⟨houtputs, hlength⟩ := Nat.lt_min.mp hk
  have hread := h.read_target htargets hapart (List.getElem?_eq_getElem hlength)
    (List.getElem?_eq_getElem houtputs)
  obtain ⟨place, modified, hlocate, hfile⟩ := Disk.read_eq_ok_iff.mp hread
  refine ⟨place, hlocate, ?_⟩
  rintro ⟨changed, hnode⟩
  rw [Disk.file?, hnode] at hfile
  cases hfile

end Written

section Run

variable {i : Invocation} {environment : Environment} {cwd : Path} {now : Int} {d : Disk}
  {files targets : List Path} {outDir : Path} (htask : i.task = .transform files (some outDir))
  (htargets : Target.all outDir files = .ok targets)
include htask htargets

/-- Some of the targets are written, all of them if the run ends well. They are files in the end, and
no other file has changed. -/
theorem written_of_run :
    let whole := run i environment cwd
    let asked := whole.requests cwd now d
    let after := (whole.run cwd now d).2
    (∀ w, Wrote asked w → w ∈ targets) ∧
    ((whole.run cwd now d).1.exitCode = 0 → ∀ t ∈ targets, Wrote asked t) ∧
    (∀ w, Wrote asked w → ∃ place, after.locate cwd w = .ok place ∧ ¬ after.HasDirectory place) ∧
    ∀ place, (∀ w, Wrote asked w → after.locate cwd w ≠ .ok place) →
      after.file? place = d.file? place := by
  intro whole asked after
  rcases run_into htask with
    ⟨hafter, hcode, hnone⟩ | ⟨_, targets', outputs, before, later, hall, hruns, hrequests, hbefore⟩
  · have hwrote : ∀ w, ¬ Wrote asked w := fun w hw => hnone w hw.writes
    refine ⟨fun w hw => absurd hw (hwrote w), ?_, fun w hw => absurd hw (hwrote w), ?_⟩
    · intro hexit
      exact absurd (hexit.symm.trans hcode) Nat.zero_ne_one
    · exact fun place _ => congrArg (Disk.file? · place) hafter
  · obtain rfl := Except.ok.inj (htargets.symm.trans hall)
    have hlength := length_of_all htargets
    have hsnd := map_snd_zip_some hlength
    have hapart := pairwise_apart_of_all cwd htargets
    -- nothing is written before the files are taken
    have hwrote : ∀ w, Wrote asked w ↔ w ∈ targets.take outputs.length := by
      intro w
      rw [show asked = before ++ later from hrequests, wrote_append_iff,
        or_iff_right fun hw => hbefore w hw.writes, hruns.wrote_iff hsnd]
    refine ⟨?_, ?_, ?_, ?_⟩
    · exact fun w hw => List.mem_of_mem_take ((hwrote w).mp hw)
    · intro hexit t ht
      have hall : outputs.length = targets.length := by
        simpa [hlength] using hruns.code_eq_zero_iff.mp hexit
      rwa [hwrote, hall, List.take_length]
    · exact fun w hw => hruns.exists_file hsnd hapart ((hwrote w).mp hw)
    · exact fun place hplace => hruns.frame hsnd fun w hw => hplace w ((hwrote w).mpr hw)

end Run

/-- A list of files that is not refused, with its targets.

* A target is above another one exactly if its file keeps the first of the names that the other file
  keeps, but not all of them. No run ends well if there are two such targets.
* A run writes at most one of the two. What it has written is on the way to exactly the targets below
  it; on the way to any other target, the files are those from before the run. -/
theorem targets_in_the_way {outDir : Path} {files targets : List Path}
    (htargets : Target.all outDir files = .ok targets) :
    (∀ (k l : Nat) (file file' target target' : Path),
      files[k]? = some file → files[l]? = some file' →
      targets[k]? = some target → targets[l]? = some target' →
      (target.Above target' ↔ ∃ names names', Under file names ∧ Under file' names' ∧
        names <+: names' ∧ names ≠ names')) ∧
    ∀ (i : Invocation) (environment : Environment) (cwd : Path) (now : Int) (d : Disk),
      i.task = .transform files (some outDir) →
      let whole := run i environment cwd
      let asked := whole.requests cwd now d
      let after := (whole.run cwd now d).2
      ((whole.run cwd now d).1.exitCode = 0 → ∀ t ∈ targets, ∀ t' ∈ targets, ¬ t.Above t') ∧
      ∀ t ∈ targets,
        (∀ w, Wrote asked w → Wrote asked t → ¬ w.Above t) ∧
        (∀ w, Wrote asked w →
          ((∃ place, after.locate cwd w = .ok place ∧ after.OnTheWay cwd t place) ↔ w.Above t)) ∧
        ((∀ w, Wrote asked w → ¬ w.Above t) →
          ∀ place, after.OnTheWay cwd t place → after.file? place = d.file? place) := by
  have hfiles := (all_eq_ok_iff.mp htargets).1
  constructor
  · intro k l file file' target target' hfile hfile' htarget htarget'
    obtain ⟨-, hget⟩ := List.forall₂_iff_get.mp hfiles
    obtain ⟨hk, rfl⟩ := List.getElem?_eq_some_iff.mp hfile
    obtain ⟨hl, rfl⟩ := List.getElem?_eq_some_iff.mp hfile'
    obtain ⟨hk', rfl⟩ := List.getElem?_eq_some_iff.mp htarget
    obtain ⟨hl', rfl⟩ := List.getElem?_eq_some_iff.mp htarget'
    exact above_iff_of_targets (hget k hk hk') (hget l hl hl')
  · intro i environment cwd now d htask whole asked after
    obtain ⟨hmem, hexit, hfile, hkept⟩ := written_of_run htask htargets
    -- what was written is a file, and the names of its target led there
    have hway : ∀ w, Wrote asked w → ∀ t ∈ targets, ∀ place, after.locate cwd w = .ok place →
        (after.OnTheWay cwd t place ↔ w.Above t) := by
      intro w hw t ht place hplace
      obtain ⟨place', hplace', hnot⟩ := hfile w hw
      obtain rfl : place = place' := Except.ok.inj (hplace.symm.trans hplace')
      obtain ⟨file, -, hof⟩ := exists_file_of_mem hfiles (hmem w hw)
      obtain ⟨file', -, hof'⟩ := exists_file_of_mem hfiles ht
      exact onTheWay_iff_above hof hof' hplace hnot
    -- the lower one of two needs a directory where the upper one is a file
    have hapart : ∀ t ∈ targets, ∀ w, Wrote asked w → Wrote asked t → ¬ w.Above t := by
      intro t ht w hw hwt habove
      obtain ⟨place, hplace, hnot⟩ := hfile w hw
      obtain ⟨place', hplace', -⟩ := hfile t hwt
      exact hnot (((hway w hw t ht place hplace).mpr habove).hasDirectory hplace')
    refine ⟨?_, ?_⟩
    · intro hzero t ht t' ht'
      exact hapart t' ht' t (hexit hzero t ht) (hexit hzero t' ht')
    · intro t ht
      refine ⟨hapart t ht, ?_, ?_⟩
      · intro w hw
        constructor
        · rintro ⟨place, hplace, honTheWay⟩
          exact (hway w hw t ht place hplace).mp honTheWay
        · intro habove
          obtain ⟨place, hplace, -⟩ := hfile w hw
          exact ⟨place, hplace, (hway w hw t ht place hplace).mpr habove⟩
      · intro hnone place honTheWay
        refine hkept place ?_
        intro w hw hplace
        exact hnone w hw ((hway w hw t ht place hplace).mp honTheWay)

/-- A file from above has the name of a directory. Its result is written where the second target
needs this directory, and the run fails. -/
theorem targets_in_the_way_app :
    let cwd : Path := ⟨"/w"⟩
    let files : List Path := [⟨"../app"⟩, ⟨"app/index.js"⟩]
    let i : Invocation :=
      ⟨none, none, none, none, [], [], false, false, false, .transform files (some ⟨"build"⟩)⟩
    let d : Disk := ⟨[(["w"], .directory 0), (["app", "w"], .directory 0),
      (["app"], .file (Text.Utf8.ofString "use(1);\n") 1),
      (["index.js", "app", "w"], .file (Text.Utf8.ofString "use(2);\n") 2)]⟩
    let whole := run i ⟨[]⟩ cwd
    let asked := whole.requests cwd 7 d
    let after := (whole.run cwd 7 d).2
    Target.all ⟨"build"⟩ files = .ok [⟨"build/app"⟩, ⟨"build/app/index.js"⟩] ∧
      i.task = .transform files (some ⟨"build"⟩) ∧
      (Path.mk "build/app").Above ⟨"build/app/index.js"⟩ ∧
      Wrote asked ⟨"build/app"⟩ ∧ ¬ Wrote asked ⟨"build/app/index.js"⟩ ∧
      (∃ place, after.locate cwd ⟨"build/app"⟩ = .ok place ∧
        after.OnTheWay cwd ⟨"build/app/index.js"⟩ place) ∧
      (whole.run cwd 7 d).1.exitCode ≠ 0 := by
  intro cwd files i d whole asked after
  have htargets : Target.all ⟨"build"⟩ files =
      .ok [⟨"build/app"⟩, ⟨"build/app/index.js"⟩] := by decide +kernel
  obtain ⟨hnames, hruns⟩ := targets_in_the_way htargets
  obtain ⟨hexit, hway⟩ := hruns i ⟨[]⟩ cwd 7 d rfl
  have habove : (Path.mk "build/app").Above ⟨"build/app/index.js"⟩ := by
    refine (hnames 0 1 _ _ _ _ rfl rfl rfl rfl).mpr ⟨["app"], ["app", "index.js"], ?_, ?_, ?_, ?_⟩
    · exact .reduced (by decide +kernel) (by decide +kernel)
    · exact .kept (by decide +kernel) (by decide +kernel) (by decide)
    · decide
    · decide
  have hfirst : Wrote asked ⟨"build/app"⟩ :=
    ⟨Text.Utf8.ofString "use(1);\n", by decide +kernel⟩
  obtain ⟨hone, hplace, -⟩ := hway ⟨"build/app/index.js"⟩ (by simp)
  refine ⟨htargets, rfl, habove, hfirst, fun hsecond => hone _ hfirst hsecond habove,
    (hplace _ hfirst).mpr habove, ?_⟩
  intro hzero
  exact hexit hzero ⟨"build/app"⟩ (by simp) ⟨"build/app/index.js"⟩ (by simp) habove

/-- A list of files is not always refused if one of its targets is above another one. -/
theorem not_refused_above :
    ¬ ∀ (outDir : Path) (files targets : List Path), Target.all outDir files = .ok targets →
      ∀ t ∈ targets, ∀ t' ∈ targets, ¬ t.Above t' := by
  intro h
  exact h ⟨"build"⟩ [⟨"../app"⟩, ⟨"app/index.js"⟩] [⟨"build/app"⟩, ⟨"build/app/index.js"⟩]
    (by decide +kernel) ⟨"build/app"⟩ (by simp) ⟨"build/app/index.js"⟩ (by simp)
    (by decide +kernel)

end Command

end EnvInline
