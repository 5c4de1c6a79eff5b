import EnvInline.Resolution
import EnvInline.SourceFile

/-!
# Passes

A pass keeps the resolution of its options. It transforms any number of files with it, and resolves
again only when it is asked to refresh and a definition file has changed.
-/

namespace EnvInline

/-- Options with their resolution. -/
structure Pass where
  options : Options
  resolution : Resolution
deriving DecidableEq, Repr

namespace Pass

open EnvInline.Syntax

/-- The pass of some options. -/
def build (options : Options) (environment : Environment) (cwd : Path) :
    Access (Pass × List Event) := do
  let (resolution, events) ← Resolution.resolve options environment cwd
  return (⟨options, resolution⟩, events)

/-- Whether a definition file has changed since the resolution. -/
def isStale (p : Pass) (cwd : Path) : Access Bool := p.resolution.fingerprint.isStale cwd

/-- The pass with a new resolution if the one it has is stale; whether it was, and what is told
about it. -/
def refresh (p : Pass) (environment : Environment) (cwd : Path) :
    Access (Bool × Pass × List Event) := do
  if ← p.isStale cwd then
    let (pass, events) ← build p.options environment cwd
    return (true, pass, events)
  else return (false, p, [])

/-- A program with its imports replaced, and what was changed. -/
def substitute (p : Pass) (program : Tree) : Except ImportFault (Tree × Report) :=
  Substitution.run p.options p.resolution.values program

/-- A source file with its imports replaced. -/
def transform (p : Pass) (file : SourceFile) : Except SourceFault Output :=
  file.transform p.options p.resolution.values

end Pass

end EnvInline
