import EnvInline.Command.Run
import EnvInline.Proofs.Isolation
import EnvInline.Proofs.Requests
import EnvInline.Proofs.TargetsApart

/-!
# Files in turn

A transformation takes the files one after the other. A file is read, transformed, and its result
is printed or written; the first file for which this fails ends the run. What happens to one file is
said by the relations `Does` and `Fails`, what happens to all of them by `Runs`.

* `runs_transformAll` — the program does what the relations say;
* `Runs.frame`, `Runs.read_target` — what a run leaves on the disk;
* `transform_in_turn` — the whole run of an invocation.
-/

namespace EnvInline.Command

open Access (Request)
open EnvInline.Text

/-- A file with the path where its result is to be written, unless it is printed. -/
abbrev Job := Path × Option Path

/-- The exit code that tells of a fault in a source file. -/
def faultCode : SourceError → Nat
  | .refused (.rejected _) => 2
  | .refused (.undefined _ _) => 3
  | .unreadable _ => 4
  | .refused (.notNamed _) => 5

/-- The disk with the directory for a target. -/
def makeParent (d : Disk) (cwd target : Path) (now : Int) : Except (DiskError × Disk) Disk :=
  match target.parent? with
  | none => .ok d
  | some directory => d.makeDirectories cwd directory now

/-- What is asked of the disk to that end. -/
def parentRequests (target : Path) : List Request :=
  target.parent?.toList.map .makeDirectories

section Relations

variable (pass : Pass) (cwd : Path) (now : Int)

/-- A result was written to its target. -/
inductive Stored (d : Disk) (target : Path) (code : String) : List Request → Disk → Prop
  | written {d₁ d' : Disk} :
    makeParent d cwd target now = .ok d₁ →
    d₁.write cwd target (Utf8.ofString code) now = .ok d' →
    Stored d target code (parentRequests target ++ [.write target (Utf8.ofString code) true]) d'

/-- A result could not be written to its target. Directories that were made for it stay. -/
inductive NotStored (d : Disk) (target : Path) (code : String) : List Request → Disk → Prop
  | noDirectory {e : DiskError} {d' : Disk} :
    makeParent d cwd target now = .error (e, d') →
    NotStored d target code (parentRequests target) d'
  | unwritable {d₁ : Disk} {e : DiskError} :
    makeParent d cwd target now = .ok d₁ →
    d₁.write cwd target (Utf8.ofString code) now = .error e →
    NotStored d target code
      (parentRequests target ++ [.write target (Utf8.ofString code) false]) d₁

/-- A job is done: the file is read and transformed, and the result is written if it has a
target. -/
inductive Does (d : Disk) : Job → Output → List Request → Disk → Prop
  | printed {file : Path} {text : String} {output : Output} :
    d.textOf cwd file = .ok text →
    pass.transform ⟨file.text, text⟩ = .ok output →
    Does d (file, none) output [.read file] d
  | stored {file target : Path} {text : String} {output : Output} {asked : List Request}
      {d' : Disk} :
    d.textOf cwd file = .ok text →
    pass.transform ⟨file.text, text⟩ = .ok output →
    Stored cwd now d target output.code asked d' →
    Does d (file, some target) output (.read file :: asked) d'

/-- A job fails, with the exit code that tells why. -/
inductive Fails (d : Disk) : Job → Nat → List Request → Disk → Prop
  | unreadable {file : Path} {target? : Option Path} {e : DiskError} :
    d.textOf cwd file = .error e →
    Fails d (file, target?) 1 [.read file] d
  | refused {file : Path} {target? : Option Path} {text : String} {fault : SourceFault} :
    d.textOf cwd file = .ok text →
    pass.transform ⟨file.text, text⟩ = .error fault →
    Fails d (file, target?) (faultCode fault.error) [.read file] d
  | notStored {file target : Path} {text : String} {output : Output} {asked : List Request}
      {d' : Disk} :
    d.textOf cwd file = .ok text →
    pass.transform ⟨file.text, text⟩ = .ok output →
    NotStored cwd now d target output.code asked d' →
    Fails d (file, some target) 1 (.read file :: asked) d'

/-- Jobs are done in turn up to the first one that fails. The outputs are those of the jobs that
were done. -/
inductive Runs : Disk → List Job → List Output → Nat → List Request → Disk → Prop
  | finished {d : Disk} : Runs d [] [] 0 [] d
  | next {d d₁ d' : Disk} {job : Job} {jobs : List Job} {output : Output} {outputs : List Output}
      {code : Nat} {asked later : List Request} :
    Does pass cwd now d job output asked d₁ →
    Runs d₁ jobs outputs code later d' →
    Runs d (job :: jobs) (output :: outputs) code (asked ++ later) d'
  | stopped {d d' : Disk} {job : Job} {jobs : List Job} {code : Nat} {asked : List Request} :
    Fails pass cwd now d job code asked d' →
    Runs d (job :: jobs) [] code asked d'

end Relations

variable {pass : Pass} {cwd : Path} {now : Int} {d d' : Disk}

/-! ## The program does what the relations say -/

theorem exitCode_refused (fault : SourceFault) :
    (RunError.refused fault).exitCode = faultCode fault.error := by
  obtain ⟨file, location, error⟩ := fault
  cases error with
  | unreadable error => rfl
  | refused error => cases error <;> rfl

@[simp] theorem Outcome.exitCode_after (o : Outcome) (printed : String) (events : List Event) :
    (o.after printed events).exitCode = o.exitCode := rfl

@[simp] theorem Outcome.printed_after (o : Outcome) (printed : String) (events : List Event) :
    (o.after printed events).printed = printed ++ o.printed := rfl

@[simp] theorem Outcome.exitCode_failure (e : RunError) :
    (Outcome.failure e).exitCode = e.exitCode := rfl

theorem run_put (target : Path) (code : String) (d : Disk) :
    (store.put target code).run cwd now d =
      match d.write cwd target (Utf8.ofString code) now with
      | .ok d' => (.ok (), d')
      | .error e => (.error (.unwritable target e), d) := by
  unfold store.put
  rw [Access.run_bind]
  simp only [Access.run, Access.settle]
  cases d.write cwd target (Utf8.ofString code) now <;> rfl

theorem requests_put (target : Path) (code : String) (d : Disk) :
    (store.put target code).requests cwd now d =
      [.write target (Utf8.ofString code) (d.write cwd target (Utf8.ofString code) now).isOk] := by
  unfold store.put
  rw [Access.requests_bind]
  simp only [Access.run, Access.requests, Access.settle]
  cases d.write cwd target (Utf8.ofString code) now <;> rfl

theorem run_store (target : Path) (code : String) (d : Disk) :
    (store target code).run cwd now d =
      match makeParent d cwd target now with
      | .ok d' => (store.put target code).run cwd now d'
      | .error (e, d') => (.error (.noDirectory (target.parent?.getD target) e), d') := by
  unfold store makeParent
  cases target.parent? with
  | none => rfl
  | some directory =>
    dsimp only
    rw [Access.run_bind]
    simp only [Access.run, Access.settleAll]
    cases d.makeDirectories cwd directory now <;> rfl

theorem requests_store (target : Path) (code : String) (d : Disk) :
    (store target code).requests cwd now d = parentRequests target ++
      match makeParent d cwd target now with
      | .ok d' => (store.put target code).requests cwd now d'
      | .error _ => [] := by
  unfold store makeParent parentRequests
  cases target.parent? with
  | none => rfl
  | some directory =>
    dsimp only
    rw [Access.requests_bind]
    simp only [Access.run, Access.requests, Access.settleAll]
    cases d.makeDirectories cwd directory now <;> rfl

/-- A result is written, or the run fails with the code of a general error. -/
theorem store_spec (cwd : Path) (now : Int) (target : Path) (code : String) (d : Disk) :
    (∃ d', (store target code).run cwd now d = (.ok (), d') ∧
      Stored cwd now d target code ((store target code).requests cwd now d) d') ∨
    ∃ e d', (store target code).run cwd now d = (.error e, d') ∧ e.exitCode = 1 ∧
      NotStored cwd now d target code ((store target code).requests cwd now d) d' := by
  rw [run_store, requests_store]
  cases hmake : makeParent d cwd target now with
  | error left =>
    right
    rw [List.append_nil]
    exact ⟨_, left.2, rfl, rfl, .noDirectory hmake⟩
  | ok d₁ =>
    dsimp only
    rw [run_put, requests_put]
    cases hwrite : d₁.write cwd target (Utf8.ofString code) now with
    | error e => exact .inr ⟨_, d₁, rfl, rfl, .unwritable hmake hwrite⟩
    | ok d₂ => exact .inl ⟨d₂, rfl, .written hmake hwrite⟩

/-- The turn of one file. -/
theorem transformAll_cons (pass : Pass) (file : Path) (target? : Option Path) (jobs : List Job) :
    transformAll pass ((file, target?) :: jobs) = (do
      match ← Access.textOf file with
      | .error e => return .failure (.unreadable file e)
      | .ok text =>
        match pass.transform ⟨file.text, text⟩ with
        | .error f => return .failure (.refused f)
        | .ok output =>
          let told := [Event.transformed file output.report]
          match target? with
          | none => return (← transformAll pass jobs).after output.code told
          | some target =>
            match ← store target output.code with
            | .error e => return (Outcome.failure e).after "" told
            | .ok () => return (← transformAll pass jobs).after "" told) := by
  rfl

/-- What a job prints. -/
def printedBy (job : Job) (output : Output) : String := if job.2.isNone then output.code else ""

/-- The program does the jobs in turn up to the first one that fails. -/
theorem runs_transformAll (pass : Pass) (cwd : Path) (now : Int) (jobs : List Job) (d : Disk) :
    ∃ outputs, Runs pass cwd now d jobs outputs
        ((transformAll pass jobs).run cwd now d).1.exitCode
        ((transformAll pass jobs).requests cwd now d) ((transformAll pass jobs).run cwd now d).2 ∧
      ((transformAll pass jobs).run cwd now d).1.printed =
        String.join (List.zipWith printedBy jobs outputs) := by
  induction jobs generalizing d with
  | nil => exact ⟨[], .finished, rfl⟩
  | cons job jobs ih =>
    obtain ⟨file, target?⟩ := job
    simp only [transformAll_cons, Access.run_bind, Access.requests_bind, Access.run_textOf,
      Access.requests_textOf]
    cases hread : d.textOf cwd file with
    | error e => exact ⟨[], .stopped (.unreadable hread), rfl⟩
    | ok text =>
      dsimp only
      cases htransform : pass.transform ⟨file.text, text⟩ with
      | error fault =>
        refine ⟨[], ?_, rfl⟩
        simp only [Access.run_pure, Outcome.exitCode_failure, exitCode_refused]
        exact .stopped (.refused hread htransform)
      | ok output =>
        cases target? with
        | none =>
          obtain ⟨outputs, hruns, hprinted⟩ := ih d
          refine ⟨output :: outputs, ?_, ?_⟩
          · simp only [Access.run_bind, Access.requests_bind, Access.run_pure, Access.requests_pure,
              Outcome.exitCode_after, List.append_nil]
            exact hruns.next (.printed hread htransform)
          · simp [hprinted, printedBy]
        | some target =>
          simp only [Access.run_bind, Access.requests_bind]
          rcases store_spec cwd now target output.code d with
            ⟨d₁, hstore, hstored⟩ | ⟨e, d₁, hstore, hcode, hstored⟩
          · obtain ⟨outputs, hruns, hprinted⟩ := ih d₁
            refine ⟨output :: outputs, ?_, ?_⟩
            · simp only [hstore, Access.run_bind, Access.requests_bind, Access.run_pure,
                Access.requests_pure, Outcome.exitCode_after, List.append_nil, ← List.append_assoc]
              exact hruns.next (.stored hread htransform hstored)
            · simp [hstore, hprinted, printedBy]
          · refine ⟨[], ?_, ?_⟩
            · simp only [hstore, Access.run_pure, Access.requests_pure, Outcome.exitCode_after,
                Outcome.exitCode_failure, hcode, List.append_nil]
              exact .stopped (.notStored hread htransform hstored)
            · simp [hstore, Outcome.failure]

/-! ## What a run comes to -/

/-- The request is one that the job may make. -/
def Job.Asks (job : Job) : Request → Prop
  | .stat _ => False
  | .read path => path = job.1
  | .makeDirectories path => ∃ target, job.2 = some target ∧ target.parent? = some path
  | .write path _ _ => job.2 = some path

/-- What a job writes. -/
def writtenBy (job : Job) (output : Output) : List (Path × List UInt8) :=
  job.2.toList.map fun target => (target, Utf8.ofString output.code)

theorem filterMap_parentRequests (target : Path) :
    (parentRequests target).filterMap Request.read? = [] ∧
      (parentRequests target).filterMap Request.written? = [] := by
  unfold parentRequests
  cases target.parent? <;> exact ⟨rfl, rfl⟩

theorem faultCode_ne_zero (e : SourceError) : faultCode e ≠ 0 := by
  cases e with
  | unreadable error => simp [faultCode]
  | refused error => cases error <;> simp [faultCode]

section Step

variable {job : Job} {output : Output} {asked : List Request} {code : Nat}

theorem Does.reads (h : Does pass cwd now d job output asked d') :
    asked.filterMap Request.read? = [job.1] := by
  cases h with
  | printed => rfl
  | stored _ _ hstored =>
    cases hstored with
    | written =>
      simp only [List.filterMap_cons, List.filterMap_append, List.filterMap_nil, Request.read?,
        filterMap_parentRequests, List.append_nil]

theorem Does.writes (h : Does pass cwd now d job output asked d') :
    asked.filterMap Request.written? = writtenBy job output := by
  cases h with
  | printed => rfl
  | stored _ _ hstored =>
    cases hstored with
    | written =>
      simp only [List.filterMap_cons, List.filterMap_append, List.filterMap_nil, Request.written?,
        filterMap_parentRequests]
      rfl

theorem Fails.reads (h : Fails pass cwd now d job code asked d') :
    asked.filterMap Request.read? = [job.1] := by
  cases h with
  | unreadable => rfl
  | refused => rfl
  | notStored _ _ hstored =>
    cases hstored <;>
      simp only [List.filterMap_cons, List.filterMap_append, List.filterMap_nil, Request.read?,
        filterMap_parentRequests, List.append_nil]

theorem Fails.writes (h : Fails pass cwd now d job code asked d') :
    asked.filterMap Request.written? = [] := by
  cases h with
  | unreadable => rfl
  | refused => rfl
  | notStored _ _ hstored =>
    cases hstored <;>
      simp only [List.filterMap_cons, List.filterMap_append, List.filterMap_nil, Request.written?,
        filterMap_parentRequests, Bool.false_eq_true, if_false, List.append_nil]

theorem Fails.code_ne_zero (h : Fails pass cwd now d job code asked d') : code ≠ 0 := by
  cases h with
  | unreadable => decide
  | refused => exact faultCode_ne_zero _
  | notStored => decide

theorem asks_of_mem_parentRequests {file target : Path} {request : Request}
    (h : request ∈ parentRequests target) : Job.Asks (file, some target) request := by
  obtain ⟨directory, hparent, rfl⟩ := List.mem_map.mp h
  exact ⟨target, rfl, by simpa using hparent⟩

theorem Does.asks (h : Does pass cwd now d job output asked d') : ∀ r ∈ asked, job.Asks r := by
  cases h with
  | printed => exact List.forall_mem_singleton.mpr rfl
  | stored _ _ hstored =>
    cases hstored with
    | written =>
      refine List.forall_mem_cons.mpr ⟨rfl, List.forall_mem_append.mpr ⟨?_, ?_⟩⟩
      · exact fun r hr => asks_of_mem_parentRequests hr
      · exact List.forall_mem_singleton.mpr rfl

theorem Fails.asks (h : Fails pass cwd now d job code asked d') : ∀ r ∈ asked, job.Asks r := by
  cases h with
  | unreadable => exact List.forall_mem_singleton.mpr rfl
  | refused => exact List.forall_mem_singleton.mpr rfl
  | notStored _ _ hstored =>
    refine List.forall_mem_cons.mpr ⟨rfl, ?_⟩
    cases hstored with
    | noDirectory => exact fun r hr => asks_of_mem_parentRequests hr
    | unwritable =>
      refine List.forall_mem_append.mpr ⟨fun r hr => asks_of_mem_parentRequests hr, ?_⟩
      exact List.forall_mem_singleton.mpr rfl

/-! ### The disk after one job -/

theorem made_makeParent {target : Path} {left : Except (DiskError × Disk) Disk}
    (h : makeParent d cwd target now = left) : d.Made (Disk.leftBy left) := by
  subst h
  unfold makeParent
  split
  · exact .refl d
  · exact Disk.made_makeDirectories d cwd _ now

/-- A job that fails leaves all files as they are. -/
theorem Fails.made (h : Fails pass cwd now d job code asked d') : d.Made d' := by
  cases h with
  | unreadable => exact .refl d
  | refused => exact .refl d
  | notStored _ _ hstored =>
    cases hstored with
    | noDirectory hmake => exact made_makeParent hmake
    | unwritable hmake => exact made_makeParent hmake

/-- A job that is done leaves all files as they are, except for its target. -/
theorem Does.frame (h : Does pass cwd now d job output asked d') :
    d.Grows d' ∧ ∀ place, (∀ target, job.2 = some target → d'.locate cwd target ≠ .ok place) →
      d'.file? place = d.file? place := by
  cases h with
  | printed => exact ⟨.refl d, fun _ _ => rfl⟩
  | @stored _ target _ _ _ _ _ _ hstored =>
    cases hstored with
    | @written d₁ _ hmake hwrite =>
      have hmade : d.Made d₁ := made_makeParent hmake
      obtain ⟨hgrows, place, hlocate, -, hothers⟩ := Disk.write_spec hwrite
      refine ⟨hmade.grows.trans hgrows, ?_⟩
      intro q hq
      have hne : q ≠ place := fun heq => hq target rfl (heq ▸ hlocate)
      rw [hothers q hne, hmade.files q]

/-- The target of a job that is done holds the result. -/
theorem Does.target (h : Does pass cwd now d job output asked d') {target : Path}
    (htarget : job.2 = some target) :
    ∃ place, d'.locate cwd target = .ok place ∧
      d'.file? place = some (Utf8.ofString output.code, now) := by
  cases h with
  | printed => cases htarget
  | stored _ _ hstored =>
    cases htarget
    cases hstored with
    | written hmake hwrite =>
      obtain ⟨-, place, hlocate, hfile, -⟩ := Disk.write_spec hwrite
      exact ⟨place, hlocate, hfile⟩

end Step

/-! ### All jobs -/

namespace Runs

variable {jobs : List Job} {outputs : List Output} {code : Nat} {asked : List Request}

theorem length_le (h : Runs pass cwd now d jobs outputs code asked d') :
    outputs.length ≤ jobs.length := by
  induction h with
  | finished => exact Nat.le_refl _
  | next _ _ ih => exact Nat.succ_le_succ ih
  | stopped => exact Nat.zero_le _

/-- The exit code is zero exactly if all jobs were done. -/
theorem code_eq_zero_iff (h : Runs pass cwd now d jobs outputs code asked d') :
    code = 0 ↔ outputs.length = jobs.length := by
  induction h with
  | finished => simp
  | next _ _ ih => simpa using ih
  | stopped hfails => simpa using hfails.code_ne_zero

/-- The files are read in their order, up to the first job that fails. -/
theorem reads (h : Runs pass cwd now d jobs outputs code asked d') :
    asked.filterMap Request.read? = (jobs.take (outputs.length + 1)).map Prod.fst := by
  induction h with
  | finished => rfl
  | next hdoes _ ih =>
    rw [List.filterMap_append, hdoes.reads, ih, List.length_cons, List.take_succ_cons,
      List.map_cons, List.singleton_append]
  | stopped hfails => simpa using hfails.reads

/-- What is written are the results of the jobs that are done. -/
theorem writes (h : Runs pass cwd now d jobs outputs code asked d') :
    asked.filterMap Request.written? = (List.zipWith writtenBy jobs outputs).flatten := by
  induction h with
  | finished => rfl
  | next hdoes _ ih =>
    rw [List.filterMap_append, hdoes.writes, ih, List.zipWith_cons_cons, List.flatten_cons]
  | stopped hfails => simpa using hfails.writes

/-- Nothing is asked for the jobs behind the first one that fails. -/
theorem asks (h : Runs pass cwd now d jobs outputs code asked d') :
    ∀ r ∈ asked, ∃ job ∈ jobs.take (outputs.length + 1), job.Asks r := by
  induction h with
  | finished => simp
  | @next _ _ _ job _ _ _ _ _ _ hdoes _ ih =>
    rw [List.length_cons, List.take_succ_cons]
    refine List.forall_mem_append.mpr ⟨?_, ?_⟩
    · exact fun r hr => ⟨job, List.mem_cons_self, hdoes.asks r hr⟩
    · intro r hr
      obtain ⟨job', hjob', hasks⟩ := ih r hr
      exact ⟨job', List.mem_cons_of_mem _ hjob', hasks⟩
  | @stopped _ _ job _ _ _ hfails =>
    intro r hr
    exact ⟨job, by simp, hfails.asks r hr⟩

theorem grows (h : Runs pass cwd now d jobs outputs code asked d') : d.Grows d' := by
  induction h with
  | finished => exact .refl _
  | next hdoes _ ih => exact hdoes.frame.1.trans ih
  | stopped hfails => exact hfails.made.grows

/-- Without targets nothing changes. -/
theorem disk_eq (h : Runs pass cwd now d jobs outputs code asked d')
    (htargets : ∀ job ∈ jobs, job.2 = none) : d' = d := by
  induction h with
  | finished => rfl
  | next hdoes _ ih =>
    obtain ⟨hjob, hjobs⟩ := List.forall_mem_cons.mp htargets
    rw [ih hjobs]
    cases hdoes with
    | printed => rfl
    | stored => cases hjob
  | stopped hfails =>
    have hjob := (List.forall_mem_cons.mp htargets).1
    cases hfails with
    | unreadable => rfl
    | refused => rfl
    | notStored => cases hjob

section Targets

variable {targets : List Path}

/-- A file that is the target of no job that is done stays as it is. -/
theorem frame (h : Runs pass cwd now d jobs outputs code asked d')
    (htargets : jobs.map Prod.snd = targets.map some) {place : Place}
    (hplace : ∀ target ∈ targets.take outputs.length, d'.locate cwd target ≠ .ok place) :
    d'.file? place = d.file? place := by
  induction h generalizing targets with
  | finished => rfl
  | next hdoes hruns ih =>
    obtain ⟨first, rest, rfl, hfirst, hrest⟩ := List.map_eq_cons_iff.mp htargets.symm
    rw [List.length_cons, List.take_succ_cons, List.forall_mem_cons] at hplace
    rw [ih hrest.symm hplace.2]
    refine hdoes.frame.2 place ?_
    intro target htarget hlocate
    obtain rfl : first = target := Option.some.inj (hfirst.trans htarget)
    exact hplace.1 (Disk.locate_mono hruns.grows hlocate)
  | stopped hfails => exact hfails.made.files place

/-- In the end each target holds the result of its own file, if the targets are apart. -/
theorem read_target (h : Runs pass cwd now d jobs outputs code asked d')
    (htargets : jobs.map Prod.snd = targets.map some) (hapart : targets.Pairwise (Path.Apart cwd))
    {k : Nat} {target : Path} {output : Output} (htarget : targets[k]? = some target)
    (houtput : outputs[k]? = some output) :
    d'.read cwd target = .ok (Utf8.ofString output.code) := by
  induction h generalizing k targets with
  | finished => simp at houtput
  | @next d d₁ d' _ _ _ _ _ _ _ hdoes hruns ih =>
    obtain ⟨first, rest, rfl, hfirst, hrest⟩ := List.map_eq_cons_iff.mp htargets.symm
    obtain ⟨hapartFirst, hapartRest⟩ := List.pairwise_cons.mp hapart
    cases k with
    | succ k => exact ih hrest.symm hapartRest (by simpa using htarget) (by simpa using houtput)
    | zero =>
      obtain rfl := Option.some.inj htarget
      obtain rfl := Option.some.inj houtput
      obtain ⟨place, hlocate, hfile⟩ := hdoes.target hfirst.symm
      have hlocate' := Disk.locate_mono hruns.grows hlocate
      -- no later job writes at this place
      have hkept : d'.file? place = d₁.file? place := hruns.frame hrest.symm fun target htarget =>
        hapartFirst target (List.mem_of_mem_take htarget) _ place hlocate'
      exact Disk.read_eq_ok_iff.mpr ⟨place, now, hlocate', hkept.trans hfile⟩
  | stopped => simp at houtput

end Targets

end Runs

/-! ## The whole run -/

/-- What is to be done with the files. -/
def jobsFor (outDir? : Option Path) (files : List Path) : Except TargetError (List Job) :=
  match outDir? with
  | none => .ok (files.map fun file => (file, none))
  | some outDir => (Target.all outDir files).map fun targets => files.zip (targets.map some)

theorem transform_eq (pass : Pass) (files : List Path) (outDir? : Option Path) :
    transform pass files outDir? =
      match jobsFor outDir? files with
      | .error e => return .failure (.noTargets e)
      | .ok jobs => transformAll pass jobs := by
  cases outDir? with
  | none => rfl
  | some outDir =>
    simp only [transform, jobsFor]
    cases Target.all outDir files <;> rfl

theorem jobsFor_some {outDir : Path} {files targets : List Path}
    (h : Target.all outDir files = .ok targets) :
    jobsFor (some outDir) files = .ok (files.zip (targets.map some)) := by
  simp only [jobsFor, h, Except.map]

theorem map_fst_jobsFor {outDir? : Option Path} {files : List Path} {jobs : List Job}
    (h : jobsFor outDir? files = .ok jobs) : jobs.map Prod.fst = files := by
  cases outDir? with
  | none =>
    cases h
    rw [List.map_map]
    exact List.map_id _
  | some outDir =>
    cases htargets : Target.all outDir files with
    | error e =>
      simp only [jobsFor, htargets, Except.map] at h
      cases h
    | ok targets =>
      obtain rfl := Except.ok.inj ((jobsFor_some htargets).symm.trans h)
      exact List.map_fst_zip (by simp [Target.length_of_all htargets])

section Zip

variable {files targets : List Path} {outputs : List Output}

theorem map_snd_zip_some (h : targets.length = files.length) :
    (files.zip (targets.map some)).map Prod.snd = targets.map some :=
  List.map_snd_zip (by simp [h])

theorem join_printedBy_none (h : outputs.length ≤ files.length) :
    String.join (List.zipWith printedBy (files.map fun file => (file, none)) outputs) =
      String.join (outputs.map Output.code) := by
  induction outputs generalizing files with
  | nil => simp
  | cons output outputs ih =>
    cases files with
    | nil => simp at h
    | cons file files =>
      rw [List.map_cons, List.zipWith_cons_cons, List.map_cons, String.join_cons, String.join_cons,
        ih (Nat.le_of_succ_le_succ h)]
      rfl

theorem join_printedBy_some (files targets : List Path) (outputs : List Output) :
    String.join (List.zipWith printedBy (files.zip (targets.map some)) outputs) = "" := by
  induction files generalizing targets outputs with
  | nil => rfl
  | cons file files ih =>
    cases targets with
    | nil => rfl
    | cons target targets =>
      cases outputs with
      | nil => rfl
      | cons output outputs =>
        rw [List.map_cons, List.zip_cons_cons, List.zipWith_cons_cons, String.join_cons, ih]
        rfl

theorem flatten_writtenBy_some (h : targets.length = files.length) (outputs : List Output) :
    (List.zipWith writtenBy (files.zip (targets.map some)) outputs).flatten =
      List.zipWith (fun target output => (target, Utf8.ofString output.code)) targets outputs := by
  induction files generalizing targets outputs with
  | nil => simp [List.length_eq_zero_iff.mp h]
  | cons file files ih =>
    cases targets with
    | nil => simp at h
    | cons target targets =>
      cases outputs with
      | nil => rfl
      | cons output outputs =>
        rw [List.map_cons, List.zip_cons_cons, List.zipWith_cons_cons, List.flatten_cons,
          ih (Nat.succ.inj h), List.zipWith_cons_cons]
        rfl

end Zip

/-- Once the options are loaded and resolved, which only looks at the disk, the files are
transformed. -/
theorem run_eq (i : Invocation) (environment : Environment) (d : Disk) {options : Options}
    {files : List Path} {outDir? : Option Path}
    (hoptions : (i.options.run cwd now d).1 = .ok options)
    (htask : i.task = .transform files outDir?) :
    let task := transform ⟨options, Resolution.on d cwd options environment⟩ files outDir?
    let whole := run i environment cwd
    (whole.run cwd now d).1.printed = (task.run cwd now d).1.printed ∧
      (whole.run cwd now d).1.exitCode = (task.run cwd now d).1.exitCode ∧
      (whole.run cwd now d).2 = (task.run cwd now d).2 ∧
      whole.requests cwd now d = i.options.requests cwd now d ++
        (Pass.build options environment cwd).requests cwd now d ++ task.requests cwd now d := by
  have hpass := run_build options environment cwd now d
  have hdisk := (looks_build options environment cwd).run_disk cwd now d
  simp only [run, Access.run_bind, Access.requests_bind, (looks_options i).run_disk, hoptions,
    hpass, hdisk, htask, perform, Access.run_pure, Access.requests_pure, Outcome.printed_after,
    Outcome.exitCode_after, String.empty_append, List.append_nil, List.append_assoc, and_self]

/-- The run of a transformation. If the output paths are refused, nothing more is asked of the disk.
Otherwise the files are taken in turn; the number of outputs is that of the files that were done
before the first one that fails. -/
theorem transform_in_turn (i : Invocation) (environment : Environment) (cwd : Path) (now : Int)
    (d : Disk) {options : Options} {files : List Path} {outDir? : Option Path}
    (hoptions : (i.options.run cwd now d).1 = .ok options)
    (htask : i.task = .transform files outDir?) :
    let pass : Pass := ⟨options, Resolution.on d cwd options environment⟩
    let whole := run i environment cwd
    let outcome := (whole.run cwd now d).1
    let after := (whole.run cwd now d).2
    ∃ asked, whole.requests cwd now d = i.options.requests cwd now d ++
        (Pass.build options environment cwd).requests cwd now d ++ asked ∧
      (∀ e, jobsFor outDir? files = .error e →
        asked = [] ∧ after = d ∧ outcome.printed = "" ∧ outcome.exitCode = 1) ∧
      ∀ jobs, jobsFor outDir? files = .ok jobs → ∃ outputs,
        Runs pass cwd now d jobs outputs outcome.exitCode asked after ∧
        (outcome.exitCode = 0 ↔ outputs.length = files.length) ∧
        asked.filterMap Request.read? = files.take (outputs.length + 1) ∧
        (∀ request ∈ asked, ∃ job ∈ jobs.take (outputs.length + 1), job.Asks request) ∧
        (outDir? = none →
          outcome.printed = String.join (outputs.map Output.code) ∧ after = d) ∧
        ∀ outDir targets, outDir? = some outDir → Target.all outDir files = .ok targets →
          outcome.printed = "" ∧
          (whole.requests cwd now d).filterMap Request.written? =
            List.zipWith (fun target output => (target, Utf8.ofString output.code))
              targets outputs ∧
          (∀ (k : Nat) (target : Path) (output : Output),
            targets[k]? = some target → outputs[k]? = some output →
            after.read cwd target = .ok (Utf8.ofString output.code)) ∧
          ∀ place, (∀ target ∈ targets.take outputs.length, after.locate cwd target ≠ .ok place) →
            after.file? place = d.file? place := by
  intro pass whole outcome after
  obtain ⟨hprinted, hcode, hafter, hrequests⟩ := run_eq i environment d hoptions htask
  rw [transform_eq] at hprinted hcode hafter hrequests
  refine ⟨_, hrequests, ?_, ?_⟩
  · intro e hrefused
    rw [hrefused] at hprinted hcode hafter ⊢
    exact ⟨rfl, hafter, hprinted, hcode⟩
  · intro jobs hjobs
    rw [hjobs] at hprinted hcode hafter hrequests ⊢
    obtain ⟨outputs, hruns, hjoin⟩ := runs_transformAll pass cwd now jobs d
    rw [← hcode, ← hafter] at hruns
    rw [← hprinted] at hjoin
    have hfiles := map_fst_jobsFor hjobs
    have hlength : jobs.length = files.length := by rw [← hfiles, List.length_map]
    refine ⟨outputs, hruns, ?_, ?_, hruns.asks, ?_, ?_⟩
    · rw [← hlength]
      exact hruns.code_eq_zero_iff
    · rw [hruns.reads, List.map_take, hfiles]
    · rintro rfl
      cases hjobs
      constructor
      · exact hjoin.trans (join_printedBy_none (hlength ▸ hruns.length_le))
      · exact hruns.disk_eq (by simp)
    · rintro outDir targets rfl htargets
      obtain rfl := Except.ok.inj ((jobsFor_some htargets).symm.trans hjobs)
      have hequal : targets.length = files.length := Target.length_of_all htargets
      have hsnd := map_snd_zip_some hequal
      refine ⟨hjoin.trans (join_printedBy_some files targets outputs), ?_, ?_, ?_⟩
      · rw [hrequests, List.filterMap_append, List.filterMap_append, (looks_options i).written,
          (looks_build options environment cwd).written, hruns.writes,
          flatten_writtenBy_some hequal]
        rfl
      · intro k target output htarget houtput
        exact hruns.read_target hsnd (Target.pairwise_apart_of_all cwd htargets) htarget houtput
      · intro place hplace
        exact hruns.frame hsnd hplace

/-- The second of three files is no program: the first one has its result, and the third one is not
even read. -/
theorem transform_in_turn_second_unreadable :
    let cwd : Path := ⟨"/w"⟩
    let files : List Path := [⟨"a.js"⟩, ⟨"b.js"⟩, ⟨"c.js"⟩]
    let i : Invocation :=
      ⟨none, none, none, none, [], [], false, false, false, .transform files (some ⟨"build"⟩)⟩
    let d : Disk := ⟨[(["w"], .directory 0), (["a.js", "w"], .file (Utf8.ofString "use(1);\n") 1),
      (["b.js", "w"], .file (Utf8.ofString "let (") 2),
      (["c.js", "w"], .file (Utf8.ofString "use(3);\n") 3)]⟩
    let whole := run i ⟨[]⟩ cwd
    let outcome := (whole.run cwd 7 d).1
    let after := (whole.run cwd 7 d).2
    (i.options.run cwd 7 d).1 = .ok (i.override .default) ∧
      i.task = .transform files (some ⟨"build"⟩) ∧
      outcome.exitCode = 4 ∧ outcome.printed = "" ∧
      (∃ asked, whole.requests cwd 7 d = i.options.requests cwd 7 d ++
          (Pass.build (i.override .default) ⟨[]⟩ cwd).requests cwd 7 d ++ asked ∧
        asked.filterMap Request.read? = [⟨"a.js"⟩, ⟨"b.js"⟩]) ∧
      after.read cwd ⟨"build/a.js"⟩ = .ok (Utf8.ofString "use(1);\n") ∧
      ∀ place, after.locate cwd ⟨"build/a.js"⟩ ≠ .ok place → after.file? place = d.file? place := by
  intro cwd files i d whole outcome after
  have hoptions : (i.options.run cwd 7 d).1 = .ok (i.override .default) := rfl
  let targets : List Path := [⟨"build/a.js"⟩, ⟨"build/b.js"⟩, ⟨"build/c.js"⟩]
  have htargets : Target.all ⟨"build"⟩ files = .ok targets := by decide +kernel
  obtain ⟨asked, hasked, -, hjobs⟩ := transform_in_turn i ⟨[]⟩ cwd 7 d hoptions rfl
  obtain ⟨outputs, -, -, hreads, -, -, hdir⟩ := hjobs _ (jobsFor_some htargets)
  obtain ⟨hprinted, hwritten, -, hframe⟩ := hdir ⟨"build"⟩ targets rfl htargets
  have hone : (whole.requests cwd 7 d).filterMap Request.written? =
      [(⟨"build/a.js"⟩, Utf8.ofString "use(1);\n")] := by decide +kernel
  have hlength : outputs.length = 1 := by
    have h := congrArg List.length (hone.symm.trans hwritten)
    simp only [List.length_zipWith, targets, List.length_cons, List.length_nil] at h
    omega
  rw [hlength] at hreads hframe
  refine ⟨hoptions, rfl, by decide +kernel, hprinted, ⟨asked, hasked, hreads⟩,
    by decide +kernel, ?_⟩
  intro place hplace
  exact hframe place (List.forall_mem_singleton.mpr hplace)

end EnvInline.Command
