import EnvInline.Command.Invocation
import EnvInline.Pass

/-!
# Requests

What a program asks of a disk, in the order in which it asks, and whether what it wanted to write
was written. The requests of a program are those of its parts (`requests_bind`). Loading options and
resolving them only looks at the disk (`looks_options`, `looks_build`), so nothing is written by it.
-/

namespace EnvInline

namespace Access

/-- Something that is asked of a disk. -/
inductive Request where
  | stat (path : Path)
  | read (path : Path)
  | makeDirectories (path : Path)
  | write (path : Path) (content : List UInt8) (isDone : Bool)
deriving DecidableEq, Repr

/-- The path that is read. -/
def Request.read? : Request → Option Path
  | read path => some path
  | stat _ | makeDirectories _ | write _ _ _ => none

/-- The path that is written with what is written there, unless the disk refuses. -/
def Request.written? : Request → Option (Path × List UInt8)
  | write path content isDone => if isDone then some (path, content) else none
  | stat _ | read _ | makeDirectories _ => none

/-- Something is to be written to the path, whether or not the disk refuses. -/
def Writes (asked : List Request) (path : Path) : Prop :=
  ∃ content isDone, .write path content isDone ∈ asked

theorem writes_append_iff {asked later : List Request} {path : Path} :
    Writes (asked ++ later) path ↔ Writes asked path ∨ Writes later path := by
  simp only [Writes, List.mem_append, exists_or]

/-- What accesses ask of a disk. -/
def requests (cwd : Path) (now : Int) : Access α → Disk → List Request
  | done _, _ => []
  | stat path next, d => .stat path :: (next (d.modified? cwd path)).requests cwd now d
  | read path next, d => .read path :: (next (d.read cwd path)).requests cwd now d
  | makeDirectories path next, d =>
    let (r, d) := settleAll (d.makeDirectories cwd path now)
    .makeDirectories path :: (next r).requests cwd now d
  | write path content next, d =>
    let (r, d) := settle d (d.write cwd path content now)
    .write path content r.isOk :: (next r).requests cwd now d

variable {cwd : Path} {now : Int}

@[simp] theorem requests_pure (value : α) (d : Disk) :
    (pure value : Access α).requests cwd now d = [] := rfl

/-- The requests of a program are those of its parts. -/
@[simp] theorem requests_bind (a : Access α) (f : α → Access β) (d : Disk) :
    (a >>= f).requests cwd now d =
      a.requests cwd now d ++ (f (a.run cwd now d).1).requests cwd now (a.run cwd now d).2 := by
  show (a.bind f).requests cwd now d = _
  induction a generalizing d with
  | done value => rfl
  | stat path next ih => exact congrArg _ (ih _ d)
  | read path next ih => exact congrArg _ (ih _ d)
  | makeDirectories path next ih => exact congrArg _ (ih _ _)
  | write path content next ih => exact congrArg _ (ih _ _)

@[simp] theorem requests_contentOf (path : Path) (d : Disk) :
    (contentOf path).requests cwd now d = [.read path] := rfl

end Access

/-- The text in a file. -/
def Disk.textOf (d : Disk) (cwd p : Path) : Except DiskError String :=
  match d.read cwd p with
  | .error e => .error e
  | .ok content =>
    match Text.Utf8.toString? content with
    | none => .error .notText
    | some text => .ok text

namespace Access

variable {cwd : Path} {now : Int}

@[simp] theorem run_textOf (path : Path) (d : Disk) :
    (textOf path).run cwd now d = (d.textOf cwd path, d) := by
  simp only [textOf, Disk.textOf, run_bind, run_contentOf]
  cases d.read cwd path with
  | error e => rfl
  | ok content =>
    dsimp only
    cases Text.Utf8.toString? content <;> rfl

@[simp] theorem requests_textOf (path : Path) (d : Disk) :
    (textOf path).requests cwd now d = [.read path] := by
  simp only [textOf, requests_bind, requests_contentOf, run_contentOf]
  cases d.read cwd path with
  | error e => rfl
  | ok content =>
    dsimp only
    cases Text.Utf8.toString? content <;> rfl

/-! ## Programs that only look -/

/-- The program makes and writes nothing, whatever the disk answers. -/
inductive Looks : Access α → Prop
  | done (value : α) : Looks (.done value)
  | stat {path : Path} {next : Option Int → Access α} :
    (∀ r, Looks (next r)) → Looks (.stat path next)
  | read {path : Path} {next : Except DiskError (List UInt8) → Access α} :
    (∀ r, Looks (next r)) → Looks (.read path next)

namespace Looks

theorem bind {a : Access α} {f : α → Access β} (ha : Looks a) (hf : ∀ value, Looks (f value)) :
    Looks (a >>= f) := by
  show Looks (a.bind f)
  induction ha with
  | done value => exact hf value
  | stat _ ih => exact .stat ih
  | read _ ih => exact .read ih

/-- Looking leaves the disk as it is. -/
theorem run_disk {a : Access α} (ha : Looks a) (cwd : Path) (now : Int) (d : Disk) :
    (a.run cwd now d).2 = d := by
  induction ha with
  | done value => rfl
  | stat _ ih => exact ih _
  | read _ ih => exact ih _

theorem not_writes {a : Access α} (ha : Looks a) (cwd : Path) (now : Int) (d : Disk)
    (path : Path) : ¬ Writes (a.requests cwd now d) path := by
  rintro ⟨content, isDone, h⟩
  induction ha with
  | done value => cases h
  | stat _ ih => exact ih _ ((List.mem_cons.mp h).resolve_left nofun)
  | read _ ih => exact ih _ ((List.mem_cons.mp h).resolve_left nofun)

theorem written {a : Access α} (ha : Looks a) (cwd : Path) (now : Int) (d : Disk) :
    (a.requests cwd now d).filterMap Request.written? = [] := by
  induction ha with
  | done value => rfl
  | stat _ ih => exact ih _
  | read _ ih => exact ih _

end Looks

end Access

theorem looks_textOf (path : Path) : (Access.textOf path).Looks := by
  refine (Access.Looks.read .done).bind ?_
  rintro (e | content)
  · exact .done _
  · dsimp only
    cases Text.Utf8.toString? content <;> exact .done _

theorem looks_options (i : Command.Invocation) : i.options.Looks := by
  unfold Command.Invocation.options
  cases i.config? with
  | none => exact .done _
  | some path =>
    refine Access.Looks.bind ?_ ?_
    · refine (looks_textOf path).bind ?_
      rintro (e | text)
      · exact .done _
      · dsimp only
        cases Options.read text <;> exact .done _
    · rintro (e | o) <;> exact .done _

theorem looks_captureAll (cwd : Path) (ps : List Path) : (Fingerprint.captureAll cwd ps).Looks := by
  induction ps with
  | nil => exact .done _
  | cons p ps ih =>
    have hstamp : (Stamp.capture cwd p).Looks := .stat fun _ => .done _
    exact hstamp.bind fun _ => ih.bind fun _ => .done _

theorem looks_build (options : Options) (environment : Environment) (cwd : Path) :
    (Pass.build options environment cwd).Looks := by
  have hload : ∀ p, (Definition.load options.verbose p).Looks := fun p => .read fun _ => .done _
  have hresolve : (Resolution.resolve options environment cwd).Looks :=
    ((looks_captureAll cwd _).bind fun _ => .done _).bind fun _ =>
      (hload _).bind fun _ => (hload _).bind fun _ => .done _
  exact hresolve.bind fun _ => .done _

end EnvInline
