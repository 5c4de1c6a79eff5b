import EnvInline.Disk

/-!
# Accesses

A program that uses files is a sequence of accesses, each of which depends on the answers to those
before it. It can be run on a disk that nobody else changes (`Access.run`), or on one that changes
between the accesses (`Access.runAmid`).
-/

namespace EnvInline

/-- Accesses to files, with a value at their end. -/
inductive Access (α : Type) where
  | done (value : α)
  | stat (path : Path) (next : Option Int → Access α)
  | read (path : Path) (next : Except DiskError (List UInt8) → Access α)
  | makeDirectories (path : Path) (next : Except DiskError Unit → Access α)
  | write (path : Path) (content : List UInt8) (next : Except DiskError Unit → Access α)

namespace Access

/-- Accesses, and then those that depend on their value. -/
def bind : Access α → (α → Access β) → Access β
  | done value, f => f value
  | stat path next, f => .stat path fun t => (next t).bind f
  | read path next, f => .read path fun r => (next r).bind f
  | makeDirectories path next, f => .makeDirectories path fun r => (next r).bind f
  | write path content next, f => .write path content fun r => (next r).bind f

instance : Monad Access where
  pure := done
  bind := bind

/-- When something was changed, if it is there. -/
def stat? (path : Path) : Access (Option Int) := .stat path .done

/-- The content of a file. -/
def contentOf (path : Path) : Access (Except DiskError (List UInt8)) := .read path .done

/-- A disk after a change that may have failed. -/
def settle (d : Disk) : Except DiskError Disk → Except DiskError Unit × Disk
  | .ok d => (.ok (), d)
  | .error e => (.error e, d)

/-- A disk after changes of which the last may have failed. -/
def settleAll : Except (DiskError × Disk) Disk → Except DiskError Unit × Disk
  | .ok d => (.ok (), d)
  | .error (e, d) => (.error e, d)

/-- The value of some accesses to a disk, seen from a directory, and the disk after them. What is
written bears the time `now`. -/
def run (cwd : Path) (now : Int) : Access α → Disk → α × Disk
  | done value, d => (value, d)
  | stat path next, d => (next (d.modified? cwd path)).run cwd now d
  | read path next, d => (next (d.read cwd path)).run cwd now d
  | makeDirectories path next, d =>
    let (r, d) := settleAll (d.makeDirectories cwd path now)
    (next r).run cwd now d
  | write path content next, d =>
    let (r, d) := settle d (d.write cwd path content now)
    (next r).run cwd now d

/-- The same when the disk is changed from outside before each access, as far as there are
changes. -/
def runAmid (cwd : Path) (now : Int) : List (Disk → Disk) → Access α → Disk → α × Disk
  | [], a, d => a.run cwd now d
  | _, done value, d => (value, d)
  | c :: cs, stat path next, d => (next ((c d).modified? cwd path)).runAmid cwd now cs (c d)
  | c :: cs, read path next, d => (next ((c d).read cwd path)).runAmid cwd now cs (c d)
  | c :: cs, makeDirectories path next, d =>
    let (r, d) := settleAll ((c d).makeDirectories cwd path now)
    (next r).runAmid cwd now cs d
  | c :: cs, write path content next, d =>
    let (r, d) := settle (c d) ((c d).write cwd path content now)
    (next r).runAmid cwd now cs d

@[simp] theorem run_pure (cwd : Path) (now : Int) (value : α) (d : Disk) :
    (pure value : Access α).run cwd now d = (value, d) := rfl

/-- A program is run by running its parts. -/
@[simp] theorem run_bind (cwd : Path) (now : Int) (a : Access α) (f : α → Access β) (d : Disk) :
    (a >>= f).run cwd now d = (f (a.run cwd now d).1).run cwd now (a.run cwd now d).2 := by
  show (a.bind f).run cwd now d = _
  induction a generalizing d with
  | done value => rfl
  | stat path next ih => exact ih _ d
  | read path next ih => exact ih _ d
  | makeDirectories path next ih => exact ih _ _
  | write path content next ih => exact ih _ _

@[simp] theorem run_stat? (cwd : Path) (now : Int) (path : Path) (d : Disk) :
    (stat? path).run cwd now d = (d.modified? cwd path, d) := rfl

@[simp] theorem run_contentOf (cwd : Path) (now : Int) (path : Path) (d : Disk) :
    (contentOf path).run cwd now d = (d.read cwd path, d) := rfl

end Access

end EnvInline
