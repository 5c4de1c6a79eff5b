import EnvInline.Path

/-!
# Targets

Where the results go that are written into a directory. A relative file keeps its place there; one
that is absolute or climbs is written under its name. No two files may have one target.
-/

namespace EnvInline.Command

/-- Why files have no targets. -/
inductive TargetError where
  | noFileName (file : Path)
  | clash (first second target : Path)
deriving DecidableEq, Repr

/-- How the error is said. -/
def TargetError.message : TargetError → String
  | noFileName file => file.text ++ " has no file name"
  | clash first second target =>
    first.text ++ " and " ++ second.text ++ " would both be written to " ++ target.text

namespace Target

/-- The names of a path that neither climbs nor starts at the root. -/
def names? : List Path.Component → Option (List String)
  | [] => some []
  | .normal name :: cs => (names? cs).map (name :: ·)
  | .current :: cs => names? cs
  | .parent :: _ | .root :: _ => none

/-- Where a file goes within the directory. -/
def within? (file : Path) : Option (List String) :=
  match names? file.components with
  | some [] => none
  | some names => some names
  | none => file.fileName?.map fun name => [name]

/-- The target of a file. -/
def of? (outDir file : Path) : Option Path :=
  (within? file).map fun names => names.foldl (fun p name => p.join ⟨name⟩) outDir

/-- The targets of the files behind those that have one already, given with the latest first. -/
def next (outDir : Path) : List (Path × Path) → List Path → Except TargetError (List Path)
  | _, [] => .ok []
  | seen, file :: files =>
    match of? outDir file with
    | none => .error (.noFileName file)
    | some target =>
      match seen.find? fun p => p.1.same target with
      | some (_, first) => .error (.clash first file target)
      | none => (next outDir ((target, file) :: seen) files).map (target :: ·)

/-- The targets of some files. -/
def all (outDir : Path) (files : List Path) : Except TargetError (List Path) := next outDir [] files

end Target

end EnvInline.Command
