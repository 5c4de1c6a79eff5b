import EnvInline.Command.Invocation
import EnvInline.Command.Target
import EnvInline.Definition.Writer
import EnvInline.Json.Writer
import EnvInline.Pass

/-!
# Running commands

A run resolves once, and then does its task. The files of a transformation are processed in turn; the
first one that fails ends the run, and those behind it are left alone.
-/

namespace EnvInline.Command

/-- Why a run fails. -/
inductive RunError where
  | options (path : Path) (error : OptionsError)
  | noTargets (error : TargetError)
  | unreadable (file : Path) (error : DiskError)
  | refused (fault : SourceFault)
  | noDirectory (directory : Path) (error : DiskError)
  | unwritable (target : Path) (error : DiskError)

namespace RunError

/-- How the error is said. -/
def message : RunError → String
  | options path error => "Failed to load options from " ++ path.text ++ ": " ++ error.message
  | noTargets error => error.message
  | unreadable file error => "Failed to read " ++ file.text ++ ": " ++ error.message
  | refused fault => fault.message
  | noDirectory directory error =>
    "Failed to create output directory " ++ directory.text ++ ": " ++ error.message
  | unwritable target error => "Failed to write " ++ target.text ++ ": " ++ error.message

/-- The exit code tells a fault of a source file from everything else. -/
def exitCode : RunError → Nat
  | refused ⟨_, _, .refused (.rejected _)⟩ => 2
  | refused ⟨_, _, .refused (.undefined _ _)⟩ => 3
  | refused ⟨_, _, .unreadable _⟩ => 4
  | refused ⟨_, _, .refused (.notNamed _)⟩ => 5
  | _ => 1

end RunError

/-- What a run prints, tells, and how it ends. -/
structure Outcome where
  printed : String
  events : List Event
  error? : Option RunError

namespace Outcome

/-- The run printed something and is done. -/
def success (printed : String) : Outcome := ⟨printed, [], none⟩

/-- The run failed before it printed anything. -/
def failure (error : RunError) : Outcome := ⟨"", [], some error⟩

/-- The run printed and told something before. -/
def after (o : Outcome) (printed : String) (events : List Event) : Outcome :=
  ⟨printed ++ o.printed, events ++ o.events, o.error?⟩

/-- The exit code of the run. -/
def exitCode (o : Outcome) : Nat :=
  match o.error? with
  | none => 0
  | some e => e.exitCode

end Outcome

/-- Writes a result to its target. -/
def store (target : Path) (code : String) : Access (Except RunError Unit) := do
  match target.parent? with
  | none => put
  | some directory =>
    match ← Access.makeDirectories directory .done with
    | .error e => return .error (.noDirectory directory e)
    | .ok () => put
where
  /-- Writes the file itself. -/
  put : Access (Except RunError Unit) := do
    match ← Access.write target (Text.Utf8.ofString code) .done with
    | .error e => return .error (.unwritable target e)
    | .ok () => return .ok ()

/-- Transforms files in turn, each with its target, if it has one. Without a target the result is
printed. -/
def transformAll (pass : Pass) : List (Path × Option Path) → Access Outcome
  | [] => return .success ""
  | (file, target?) :: files => do
    match ← Access.textOf file with
    | .error e => return .failure (.unreadable file e)
    | .ok text =>
      match pass.transform ⟨file.text, text⟩ with
      | .error f => return .failure (.refused f)
      | .ok output =>
        let told := [Event.transformed file output.report]
        match target? with
        | none => return (← transformAll pass files).after output.code told
        | some target =>
          match ← store target output.code with
          | .error e => return (Outcome.failure e).after "" told
          | .ok () => return (← transformAll pass files).after "" told

/-- Transforms files, with their results in a directory if there is one. -/
def transform (pass : Pass) (files : List Path) : Option Path → Access Outcome
  | none => transformAll pass (files.map fun file => (file, none))
  | some outDir =>
    match Target.all outDir files with
    | .error e => return .failure (.noTargets e)
    | .ok targets => transformAll pass (files.zip (targets.map some))

/-- The line of a stamp. -/
def stampLine (s : Stamp) : String :=
  s.path.text ++ "\t" ++ (match s.modified with
    | some time => toString time
    | none => "missing") ++ "\n"

/-- The mode, the key of the fingerprint, and the files to watch. -/
def dependencyLines (r : Resolution) : String :=
  "mode\t" ++ r.mode ++ "\n" ++ "cache-key\t" ++ r.fingerprint.cacheKeyText ++ "\n" ++
    String.join (r.fingerprint.stamps.map stampLine)

/-- Does the task of a pass. -/
def perform (pass : Pass) : Task → Access Outcome
  | .transform files outDir? => transform pass files outDir?
  | .resolve .json => return .success (Json.writeMapping pass.resolution.values ++ "\n")
  | .resolve .dotenv => return .success (Definition.write pass.resolution.values)
  | .deps => return .success (dependencyLines pass.resolution)

/-- Runs an invocation. -/
def run (i : Invocation) (environment : Environment) (cwd : Path) : Access Outcome := do
  match ← i.options with
  | .error (path, e) => return .failure (.options path e)
  | .ok options =>
    let (pass, events) ← Pass.build options environment cwd
    return (← perform pass i.task).after "" events

/-- The events that are shown. -/
def shown (i : Invocation) (events : List Event) : List Event :=
  if i.verbose then events else events.filter Event.isWarning

end EnvInline.Command
