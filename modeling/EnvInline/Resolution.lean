import EnvInline.Definition.Reader
import EnvInline.Environment
import EnvInline.Event
import EnvInline.Fingerprint
import EnvInline.Overlay
import EnvInline.Text.Utf8

/-!
# Resolution

The values of a run come from three layers: the base file, the file of the mode over it, and the
environment over both. The fingerprint is taken before the files are read, so a change in between
makes it stale. What cannot be read is left out.
-/

namespace EnvInline

/-- What the options, the files and the environment come to. -/
structure Resolution where
  mode : String
  files : Candidates
  values : Mapping
  fingerprint : Fingerprint
deriving DecidableEq, Repr

namespace Definition

/-- The entries of a file's content, which may be missing, and what is told about it. -/
def ofContent (verbose : Bool) (path : Path) :
    Except DiskError (List UInt8) → Mapping × List Event
  | .error e => (.empty, if verbose then [.unreadable path e] else [])
  | .ok content =>
    let definitions := read (Text.Utf8.toStringLossy content)
    (definitions.entries,
      if verbose && !definitions.skipped.isEmpty then [.skippedLines path definitions.skipped]
      else [])

/-- The entries of a definition file, and what is told about it. -/
def load (verbose : Bool) (path : Path) : Access (Mapping × List Event) := do
  return ofContent verbose path (← Access.contentOf path)

end Definition

namespace Resolution

/-- Names that the environment never sets in safe mode. -/
def alwaysBlocked : List String := ["EXPO_PUBLIC_", "EXPO_"]

/-- The three layers over each other. -/
def layered (options : Options) (base mode : Mapping) (environment : Environment) : Mapping :=
  let files := base.overlay mode.toList
  if options.safe then
    files.overlayAdmitted environment.variables (options.allowlist.getD [])
      (options.blocklist.getD [] ++ alwaysBlocked)
  else files.overlay environment.variables

/-- The resolution from a directory, and what is told about it. -/
def resolve (options : Options) (environment : Environment) (cwd : Path) :
    Access (Resolution × List Event) := do
  let mode := environment.mode options.envName
  let files := Candidates.of options.path mode
  let fingerprint ← Fingerprint.capture cwd files
  let (base, baseEvents) ← Definition.load options.verbose files.base
  let (modeEntries, modeEvents) ← Definition.load options.verbose files.mode
  return (⟨mode, files, layered options base modeEntries environment, fingerprint⟩,
    (if options.verbose then [.mode mode] else []) ++ baseEvents ++ modeEvents)

end Resolution

end EnvInline
