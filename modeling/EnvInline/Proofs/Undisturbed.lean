import EnvInline.Resolution

/-!
# Resolving on a disk that stays as it is

Taking a fingerprint and reading the definition files changes nothing on the disk, so each of these
programs comes to a plain function of the disk: `Stamp.on`, `Fingerprint.on`,
`Definition.entriesOn` and `Resolution.on`. Everything that is proved of an undisturbed run is
proved of these.
-/

namespace EnvInline

/-- The stamp of a file on a disk. -/
def Stamp.on (d : Disk) (cwd p : Path) : Stamp :=
  ⟨Stamp.fullPath cwd p, (d.modified? cwd (Stamp.fullPath cwd p)).bind Stamp.milliseconds?⟩

@[simp] theorem run_stampCapture (cwd : Path) (now : Int) (p : Path) (d : Disk) :
    (Stamp.capture cwd p).run cwd now d = (Stamp.on d cwd p, d) := by
  simp [Stamp.capture, Stamp.on]

@[simp] theorem run_captureAll (cwd : Path) (now : Int) (ps : List Path) (d : Disk) :
    (Fingerprint.captureAll cwd ps).run cwd now d = (ps.map (Stamp.on d cwd), d) := by
  induction ps with
  | nil => simp [Fingerprint.captureAll]
  | cons p ps ih => simp [Fingerprint.captureAll, ih]

/-- The fingerprint of some candidates on a disk. -/
def Fingerprint.on (d : Disk) (cwd : Path) (files : Candidates) : Fingerprint :=
  ⟨files.toList.map (Stamp.on d cwd)⟩

@[simp] theorem run_fingerprintCapture (cwd : Path) (now : Int) (files : Candidates) (d : Disk) :
    (Fingerprint.capture cwd files).run cwd now d = (Fingerprint.on d cwd files, d) := by
  simp [Fingerprint.capture, Fingerprint.on]

/-- A look for stale stamps finds whether the disk gives one of the files another stamp. -/
@[simp] theorem run_anyStale (cwd : Path) (now : Int) (stamps : List Stamp) (d : Disk) :
    (Fingerprint.anyStale cwd stamps).run cwd now d =
      (stamps.any fun s => !(Stamp.on d cwd s.path).same s, d) := by
  induction stamps with
  | nil => simp [Fingerprint.anyStale]
  | cons s ss ih =>
    rw [Fingerprint.anyStale, Access.run_bind, run_stampCapture]
    by_cases h : (Stamp.on d cwd s.path).same s
    · simp [h, ih]
    · simp [h]

/-- The entries of a definition file on a disk. A file that cannot be read has none. -/
def Definition.entriesOn (d : Disk) (cwd p : Path) : Mapping :=
  match d.read cwd p with
  | .ok content => (Definition.read (Text.Utf8.toStringLossy content)).entries
  | .error _ => .empty

/-- The entries of a file depend on what it reads as. -/
theorem entriesOn_congr {d d₀ : Disk} {cwd p : Path} (h : d.read cwd p = d₀.read cwd p) :
    Definition.entriesOn d cwd p = Definition.entriesOn d₀ cwd p := by
  unfold Definition.entriesOn
  rw [h]

theorem ofContent_entries (verbose : Bool) (cwd p : Path) (d : Disk) :
    (Definition.ofContent verbose p (d.read cwd p)).1 = Definition.entriesOn d cwd p := by
  unfold Definition.ofContent Definition.entriesOn
  cases d.read cwd p <;> rfl

theorem run_load (verbose : Bool) (cwd : Path) (now : Int) (p : Path) (d : Disk) :
    (Definition.load verbose p).run cwd now d =
      ((Definition.entriesOn d cwd p, (Definition.ofContent verbose p (d.read cwd p)).2), d) := by
  simp [Definition.load, ← ofContent_entries verbose]

/-- What options and an environment come to on a disk. -/
def Resolution.on (d : Disk) (cwd : Path) (o : Options) (e : Environment) : Resolution :=
  let files := Candidates.of o.path (e.mode o.envName)
  { mode := e.mode o.envName
    files
    values := layered o (Definition.entriesOn d cwd files.base)
      (Definition.entriesOn d cwd files.mode) e
    fingerprint := Fingerprint.on d cwd files }

theorem run_resolve (o : Options) (e : Environment) (cwd : Path) (now : Int) (d : Disk) :
    ((Resolution.resolve o e cwd).run cwd now d).1.1 = Resolution.on d cwd o e := by
  simp [Resolution.resolve, Resolution.on, run_load]

/-- Resolving leaves the disk as it is. -/
theorem run_resolve_disk (o : Options) (e : Environment) (cwd : Path) (now : Int) (d : Disk) :
    ((Resolution.resolve o e cwd).run cwd now d).2 = d := by
  simp [Resolution.resolve, run_load]

end EnvInline
