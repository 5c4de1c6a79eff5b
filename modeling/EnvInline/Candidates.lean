import EnvInline.Path

/-!
# Candidates

The four definition files of a base file and a mode. Only the base file and that of the mode are
read; the local ones are watched.
-/

namespace EnvInline

/-- The definition files of a mode. -/
structure Candidates where
  base : Path
  baseLocal : Path
  mode : Path
  modeLocal : Path
deriving DecidableEq, Repr

/-- A path with a dot and a word after it. -/
def Path.withSuffix (p : Path) (word : String) : Path := ⟨p.text ++ "." ++ word⟩

namespace Candidates

/-- The definition files of a base file and a mode. -/
def of (base : Path) (mode : String) : Candidates :=
  { base
    baseLocal := base.withSuffix "local"
    mode := base.withSuffix mode
    modeLocal := (base.withSuffix mode).withSuffix "local" }

/-- The files in their order. -/
def toList (c : Candidates) : List Path := [c.base, c.baseLocal, c.mode, c.modeLocal]

end Candidates

end EnvInline
