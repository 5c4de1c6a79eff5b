import EnvInline.Proofs.InTurn

/-!
# Files at the places of targets

The targets of a run are apart from each other, but nothing keeps them apart from the files. A file
that is at the place of an earlier target is read after the result was written there, so it is this
result that is transformed, and what the file held before is lost.

* `Runs.source` — what a file holds when it is read;
* `content_of_targets` — what the targets hold after a run that ends well;
* `not_own_content` — that need not come from what the files held before the run.
-/

namespace EnvInline

/-- The file at the place has the content. -/
def Disk.Holds (d : Disk) (place : Place) (content : List UInt8) : Prop :=
  ∃ modified, d.file? place = some (content, modified)

theorem Disk.exists_of_textOf {d : Disk} {cwd p : Path} {text : String}
    (h : d.textOf cwd p = .ok text) :
    ∃ place content, d.locate cwd p = .ok place ∧ d.Holds place content ∧
      Text.Utf8.toString? content = some text := by
  unfold textOf at h
  split at h
  · cases h
  · next content hread =>
    obtain ⟨place, modified, hlocate, hfile⟩ := read_eq_ok_iff.mp hread
    split at h
    · cases h
    · next text' htext =>
      cases h
      exact ⟨place, content, hlocate, ⟨modified, hfile⟩, htext⟩

namespace Command

open Access (Request)
open EnvInline.Text

variable {pass : Pass} {cwd : Path} {now : Int} {d d' : Disk} {jobs : List Job}
  {outputs : List Output} {code : Nat} {asked : List Request}

/-- The target with this number is before the file with the other number, and is at the place. -/
def TargetBefore (cwd : Path) (targets : List Path) (d : Disk) (k : Nat) (place : Place) (j : Nat)
    (target : Path) : Prop :=
  j < k ∧ targets[j]? = some target ∧ d.locate cwd target = .ok place

theorem Does.source {job : Job} {output : Output} (h : Does pass cwd now d job output asked d') :
    ∃ place content text, d.locate cwd job.1 = .ok place ∧ d.Holds place content ∧
      Utf8.toString? content = some text ∧ pass.transform ⟨job.1.text, text⟩ = .ok output := by
  have key : ∀ {file : Path} {text : String}, d.textOf cwd file = .ok text →
      pass.transform ⟨file.text, text⟩ = .ok output →
      ∃ place content text, d.locate cwd file = .ok place ∧ d.Holds place content ∧
        Utf8.toString? content = some text ∧ pass.transform ⟨file.text, text⟩ = .ok output := by
    intro file text hread htransform
    obtain ⟨place, content, hlocate, hholds, htext⟩ := Disk.exists_of_textOf hread
    exact ⟨place, content, text, hlocate, hholds, htext, htransform⟩
  cases h with
  | printed hread htransform => exact key hread htransform
  | stored hread htransform => exact key hread htransform

/-- A file holds what it held before the run, unless an earlier target is at its place: then it
holds the result that was written there. -/
theorem Runs.source (h : Runs pass cwd now d jobs outputs code asked d') {targets : List Path}
    (htargets : jobs.map Prod.snd = targets.map some) {k : Nat} {file : Path} {output : Output}
    (hfile : (jobs.map Prod.fst)[k]? = some file) (houtput : outputs[k]? = some output) :
    ∃ place content text, d'.locate cwd file = .ok place ∧ Utf8.toString? content = some text ∧
      pass.transform ⟨file.text, text⟩ = .ok output ∧
      ((∃ j target, TargetBefore cwd targets d' k place j target ∧
          ∃ written, outputs[j]? = some written ∧ content = Utf8.ofString written.code) ∨
        (∀ j target, ¬ TargetBefore cwd targets d' k place j target) ∧ d.Holds place content) := by
  induction h generalizing k targets with
  | finished => simp at houtput
  | stopped => simp at houtput
  | @next d d₁ d' _ _ result _ _ _ _ hdoes hruns ih =>
    obtain ⟨first, rest, rfl, hfirst, hrest⟩ := List.map_eq_cons_iff.mp htargets.symm
    cases k with
    | zero =>
      obtain rfl := Option.some.inj hfile
      obtain rfl := Option.some.inj houtput
      obtain ⟨place, content, text, hlocate, hholds, htext, htransform⟩ := hdoes.source
      refine ⟨place, content, text, ?_, htext, htransform, .inr ⟨?_, hholds⟩⟩
      · exact Disk.locate_mono (hdoes.frame.1.trans hruns.grows) hlocate
      · rintro j target ⟨hj, -⟩
        exact Nat.not_lt_zero j hj
    | succ k =>
      obtain ⟨place, content, text, hlocate, htext, htransform, hcontent⟩ :=
        ih hrest.symm hfile houtput
      refine ⟨place, content, text, hlocate, htext, htransform, ?_⟩
      rcases hcontent with ⟨j, target, ⟨hj, hget, hplace⟩, hwritten⟩ | ⟨hnone, modified, hread⟩
      · exact .inl ⟨j + 1, target, ⟨Nat.succ_lt_succ hj, hget, hplace⟩, hwritten⟩
      · by_cases hshared : d'.locate cwd first = .ok place
        · -- the first job wrote what is read here
          obtain ⟨place', hlocate', hfirstFile⟩ := hdoes.target hfirst.symm
          have hsame := (Disk.locate_mono hruns.grows hlocate').symm.trans hshared
          obtain rfl : place' = place := Except.ok.inj hsame
          have hcontent : content = Utf8.ofString result.code :=
            congrArg Prod.fst (Option.some.inj (hread.symm.trans hfirstFile))
          exact .inl ⟨0, first, ⟨k.succ_pos, rfl, hshared⟩, result, rfl, hcontent⟩
        · refine .inr ⟨?_, modified, ?_⟩
          · rintro j target ⟨hj, hget, hplace⟩
            cases j with
            | zero =>
              obtain rfl := Option.some.inj hget
              exact hshared hplace
            | succ j => exact hnone j target ⟨Nat.lt_of_succ_lt_succ hj, hget, hplace⟩
          · rw [← hread]
            refine (hdoes.frame.2 place ?_).symm
            intro target htarget hplace
            obtain rfl : first = target := Option.some.inj (hfirst.trans htarget)
            exact hshared (Disk.locate_mono hruns.grows hplace)

/-- After a run that ends well, each target holds what its file was transformed into: what the file
held before the run, unless an earlier target is at its place. Then it is the result in there that
was transformed. -/
theorem content_of_targets (i : Invocation) (environment : Environment) (cwd : Path) (now : Int)
    (d : Disk) {options : Options} {files : List Path} {outDir : Path}
    (hoptions : (i.options.run cwd now d).1 = .ok options)
    (htask : i.task = .transform files (some outDir))
    (hexit : ((run i environment cwd).run cwd now d).1.exitCode = 0) :
    let pass : Pass := ⟨options, Resolution.on d cwd options environment⟩
    let after := ((run i environment cwd).run cwd now d).2
    ∃ targets, Target.all outDir files = .ok targets ∧ targets.length = files.length ∧
      ∀ (k : Nat) (file target : Path), files[k]? = some file → targets[k]? = some target →
        ∃ place content text output, after.locate cwd file = .ok place ∧
          Utf8.toString? content = some text ∧
          pass.transform ⟨file.text, text⟩ = .ok output ∧
          after.read cwd target = .ok (Utf8.ofString output.code) ∧
          ((∃ j t, j < k ∧ targets[j]? = some t ∧ after.locate cwd t = .ok place ∧
              after.read cwd t = .ok content) ∨
            (∀ j t, j < k → targets[j]? = some t → after.locate cwd t ≠ .ok place) ∧
              d.Holds place content) := by
  intro pass after
  obtain ⟨-, hcode, hafter, -⟩ := run_eq i environment d hoptions htask
  rw [transform_eq] at hcode hafter
  cases htargets : Target.all outDir files with
  | error e =>
    have hrefused : jobsFor (some outDir) files = .error e := by
      simp only [jobsFor, htargets, Except.map]
    rw [hrefused] at hcode
    have hone : ((run i environment cwd).run cwd now d).1.exitCode = 1 := hcode
    exact absurd (hexit.symm.trans hone) Nat.zero_ne_one
  | ok targets =>
    have hlength : targets.length = files.length := Target.length_of_all htargets
    have hfst := map_fst_jobsFor (jobsFor_some htargets)
    have hsnd := map_snd_zip_some hlength
    have hapart := Target.pairwise_apart_of_all cwd htargets
    rw [jobsFor_some htargets] at hcode hafter
    obtain ⟨outputs, hruns, -⟩ := runs_transformAll pass cwd now (files.zip (targets.map some)) d
    rw [← hcode, ← hafter] at hruns
    have hall : outputs.length = files.length := by
      simpa [hlength] using hruns.code_eq_zero_iff.mp hexit
    refine ⟨targets, rfl, hlength, ?_⟩
    intro k file target hfile htarget
    have hk : k < outputs.length := hall ▸ (List.getElem?_eq_some_iff.mp hfile).1
    have houtput := List.getElem?_eq_getElem hk
    obtain ⟨place, content, text, hlocate, htext, htransform, hcontent⟩ :=
      hruns.source hsnd (hfst.symm ▸ hfile) houtput
    refine ⟨place, content, text, outputs[k], hlocate, htext, htransform,
      hruns.read_target hsnd hapart htarget houtput, ?_⟩
    rcases hcontent with ⟨j, t, ⟨hj, ht, hplace⟩, written, hwritten, rfl⟩ | ⟨hnone, hholds⟩
    · exact .inl ⟨j, t, hj, ht, hplace, hruns.read_target hsnd hapart ht hwritten⟩
    · exact .inr ⟨fun j t hj ht hplace => hnone j t ⟨hj, ht, hplace⟩, hholds⟩

/-- A disk with a file and another one where the result of the first goes. -/
def twoFiles : Disk :=
  ⟨[(["w"], .directory 0), (["build", "w"], .directory 0),
    (["a.js", "w"], .file (Utf8.ofString "use(1);\n") 1),
    (["a.js", "build", "w"], .file (Utf8.ofString "use(2);\n") 2)]⟩

/-- The run that writes the result of each file into the directory. -/
def twoFilesRun : Invocation :=
  ⟨none, none, none, none, [], [], false, false, false,
    .transform [⟨"a.js"⟩, ⟨"build/a.js"⟩] (some ⟨"build"⟩)⟩

/-- The second file is the target of the first one, and its own target holds what the result in
there comes to. -/
theorem content_of_targets_fed :
    let cwd : Path := ⟨"/w"⟩
    let options := twoFilesRun.override .default
    let pass : Pass := ⟨options, Resolution.on twoFiles cwd options ⟨[]⟩⟩
    let whole := run twoFilesRun ⟨[]⟩ cwd
    let after := (whole.run cwd 7 twoFiles).2
    (twoFilesRun.options.run cwd 7 twoFiles).1 = .ok options ∧
      twoFilesRun.task = .transform [⟨"a.js"⟩, ⟨"build/a.js"⟩] (some ⟨"build"⟩) ∧
      (whole.run cwd 7 twoFiles).1.exitCode = 0 ∧
      ∃ content text output, after.read cwd ⟨"build/a.js"⟩ = .ok content ∧
        Utf8.toString? content = some text ∧
        pass.transform ⟨"build/a.js", text⟩ = .ok output ∧
        after.read cwd ⟨"build/build/a.js"⟩ = .ok (Utf8.ofString output.code) := by
  intro cwd options pass whole after
  have hoptions : (twoFilesRun.options.run cwd 7 twoFiles).1 = .ok options := rfl
  have hexit : (whole.run cwd 7 twoFiles).1.exitCode = 0 := by decide +kernel
  have hall : Target.all ⟨"build"⟩ [⟨"a.js"⟩, ⟨"build/a.js"⟩] =
      .ok [⟨"build/a.js"⟩, ⟨"build/build/a.js"⟩] := by decide +kernel
  obtain ⟨targets, htargets, -, hcontent⟩ :=
    content_of_targets twoFilesRun ⟨[]⟩ cwd 7 twoFiles hoptions rfl hexit
  obtain rfl := Except.ok.inj (htargets.symm.trans hall)
  obtain ⟨place, content, text, output, hlocate, htext, htransform, hread, hsource⟩ :=
    hcontent 1 ⟨"build/a.js"⟩ ⟨"build/build/a.js"⟩ rfl rfl
  refine ⟨hoptions, rfl, hexit, content, text, output, ?_, htext, htransform, hread⟩
  rcases hsource with ⟨j, t, hj, ht, -, hheld⟩ | ⟨hnone, -⟩
  · obtain rfl : j = 0 := by omega
    obtain rfl := Option.some.inj ht
    exact hheld
  · exact absurd hlocate (hnone 0 ⟨"build/a.js"⟩ Nat.one_pos rfl)

/-- A later file is overwritten before it is read, and its target does not hold what it comes to. -/
theorem not_own_content :
    ¬ ∀ (i : Invocation) (environment : Environment) (cwd : Path) (now : Int) (d : Disk)
      (options : Options) (files targets : List Path) (outDir : Path),
      (i.options.run cwd now d).1 = .ok options → i.task = .transform files (some outDir) →
      ((run i environment cwd).run cwd now d).1.exitCode = 0 →
      Target.all outDir files = .ok targets →
      ∀ (k : Nat) (file target : Path) (text : String) (output : Output),
        files[k]? = some file → targets[k]? = some target → d.textOf cwd file = .ok text →
        (Pass.mk options (Resolution.on d cwd options environment)).transform ⟨file.text, text⟩ =
          .ok output →
        ((run i environment cwd).run cwd now d).2.read cwd target =
          .ok (Utf8.ofString output.code) := by
  intro h
  have hfed := h twoFilesRun ⟨[]⟩ ⟨"/w"⟩ 7 twoFiles (twoFilesRun.override .default)
    [⟨"a.js"⟩, ⟨"build/a.js"⟩] [⟨"build/a.js"⟩, ⟨"build/build/a.js"⟩] ⟨"build"⟩ rfl rfl
    (by decide +kernel) (by decide +kernel) 1 ⟨"build/a.js"⟩ ⟨"build/build/a.js"⟩ "use(2);\n"
    ⟨"use(2);\n", .none⟩ rfl rfl (by decide +kernel) (by decide +kernel)
  exact absurd hfed (by decide +kernel)

end Command

end EnvInline
