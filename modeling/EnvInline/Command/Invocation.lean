import EnvInline.Options.File

/-!
# Invocations

What is asked for: a command, the file with the options, and what is set besides. What is set on the
command line counts more than what the file says.
-/

namespace EnvInline.Command

/-- How a mapping is printed. -/
inductive Format where
  | json
  | dotenv
deriving DecidableEq, Repr

/-- What is to be done. -/
inductive Task where
  | transform (files : List Path) (outDir? : Option Path)
  | resolve (format : Format)
  | deps
deriving DecidableEq, Repr

/-- A command with its settings. -/
structure Invocation where
  config? : Option Path
  envName? : Option String
  moduleName? : Option String
  path? : Option Path
  allow : List String
  block : List String
  safe : Bool
  strict : Bool
  verbose : Bool
  task : Task
deriving DecidableEq, Repr

namespace Invocation

/-- A list, unless nothing is in it. -/
def unlessEmpty (names : List String) (otherwise : Option (List String)) : Option (List String) :=
  if names.isEmpty then otherwise else some names

/-- Options with what is set on the command line. -/
def override (i : Invocation) (o : Options) : Options :=
  { envName := i.envName?.getD o.envName
    moduleName := i.moduleName?.getD o.moduleName
    path := i.path?.getD o.path
    allowlist := unlessEmpty i.allow o.allowlist
    blocklist := unlessEmpty i.block o.blocklist
    safe := i.safe || o.safe
    allowUndefined := !i.strict && o.allowUndefined
    verbose := i.verbose || o.verbose }

/-- The options of an invocation, or the file that they cannot be taken from. -/
def options (i : Invocation) : Access (Except (Path × OptionsError) Options) := do
  match i.config? with
  | none => return .ok (i.override .default)
  | some path =>
    match ← Options.ofFile path with
    | .error e => return .error (path, e)
    | .ok o => return .ok (i.override o)

end Invocation

end EnvInline.Command
