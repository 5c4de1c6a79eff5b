import EnvInline.Command.Invocation
import EnvInline.Command.Setting
import EnvInline.Command.Usage

/-!
# Reading command lines

A command line is read in two levels, before the name of the command and behind it. A value is kept
back until the next setting is met or the level ends; only then it is checked. What is set behind
the name of the command replaces what is set before it.
-/

namespace EnvInline.Command

/-- What has been read and not been checked yet. -/
inductive Pending where
  | nothing
  | value (setting : Setting) (text : Option String)
  | files (names : List String)
deriving DecidableEq, Repr

/-- What has been read of a level. -/
structure Reading where
  given : List (Setting × String)
  files : List String
  pending : Pending
deriving DecidableEq, Repr

namespace Reading

/-- The start of a level. -/
def start : Reading := ⟨[], [], .nothing⟩

/-- Takes a value of a setting. -/
def accept (r : Reading) (s : Setting) (value : String) : Except Usage Reading :=
  if !s.isRepeatable && r.given.any (·.1 == s) then .error .argumentGivenTwice
  else if !s.accepts value then .error .invalidValue
  else .ok { r with given := r.given ++ [(s, value)] }

/-- Checks and takes what has been kept back. -/
def settle (r : Reading) : Except Usage Reading :=
  match r.pending with
  | .nothing => .ok r
  | .value _ none => .error .invalidValue
  | .value s (some text) => { r with pending := .nothing }.accept s text
  | .files names =>
    if names.any String.isEmpty then .error .invalidValue
    else .ok { r with files := r.files ++ names, pending := .nothing }

/-- Reads a setting that takes no value. -/
def flag (r : Reading) (s : Setting) : Except Usage Reading := do
  let r ← r.settle
  match s.kind with
  | .help => .error .helpRequested
  | .version => .error .versionRequested
  | _ => r.accept s ""

/-- Reads a setting that takes a value, which may be attached to it. -/
def valued (r : Reading) (s : Setting) (attached? : Option String) : Except Usage Reading := do
  let r ← r.settle
  match attached? with
  | some text => r.accept s text
  | none => return { r with pending := .value s none }

/-- Reads a file name. -/
def file (r : Reading) (name : String) : Except Usage Reading :=
  match r.pending with
  | .files names => .ok { r with pending := .files (names ++ [name]) }
  | _ => do
    let r ← r.settle
    return { r with pending := .files [name] }

/-- The setting that a value is wanted for. -/
def wanting? (r : Reading) : Option Setting :=
  match r.pending with
  | .value s none => some s
  | _ => none

/-- Reads a setting by its name, after two dashes. -/
def longSetting (r : Reading) (level : Level) (text : List Char) : Except Usage Reading :=
  let name := String.ofList (text.takeWhile (· != '='))
  let attached? :=
    match text.dropWhile (· != '=') with
    | [] => none
    | _ :: value => some (String.ofList value)
  match level.settings.find? (·.long == name) with
  | none => .error .unknownArgument
  | some s =>
    if s.takesValue then r.valued s attached?
    else if attached?.isSome then .error .valueNotTaken
    else r.flag s

/-- Reads settings by their letters, after one dash. What follows the letter of a setting that takes
a value is its value. -/
def shortSettings (r : Reading) (level : Level) : List Char → Except Usage Reading
  | [] => .ok r
  | c :: cs =>
    match level.settings.find? (·.short? == some c) with
    | none => .error .unknownArgument
    | some s =>
      if s.takesValue then
        r.valued s (if cs.isEmpty then none
          else some (String.ofList (if cs.head? = some '=' then cs.drop 1 else cs)))
      else
        match r.flag s with
        | .error u => .error u
        | .ok r => r.shortSettings level cs

/-- Reads an argument that is no setting. -/
def plain (r : Reading) (level : Level) (isTrailing : Bool) (arg : String) :
    Except Usage Reading :=
  match level with
  | .transform => r.file arg
  | .resolve | .deps => .error .unknownArgument
  | .root =>
    if isTrailing && ((Level.ofName? arg).isSome || arg == "help") then .error .unknownArgument
    else .error .unknownCommand

/-- Reads one argument before a `--`. -/
def argument (r : Reading) (level : Level) (arg : String) : Except Usage Reading :=
  match arg.toList with
  | '-' :: '-' :: text => r.longSetting level text
  | '-' :: c :: cs => r.shortSettings level (c :: cs)
  | _ =>
    match r.wanting? with
    | some s => .ok { r with pending := .value s (some arg) }
    | none => r.plain level false arg

/-- Reads the arguments behind a `--`. -/
def trailing (r : Reading) (level : Level) : List String → Except Usage Reading
  | [] => .ok r
  | arg :: args => do
    let r ← r.plain level true arg
    r.trailing level args

/-- Where a level ends. -/
inductive Stop where
  | atEnd (reading : Reading)
  | atCommand (reading : Reading) (command : Level) (rest : List String)
  | atHelp (rest : List String)
deriving DecidableEq, Repr

/-- Reads the arguments of a level. -/
def arguments (r : Reading) (level : Level) : List String → Except Usage Stop
  | [] => .ok (.atEnd r)
  | arg :: args =>
    if arg == "--" then (r.trailing level args).map .atEnd
    else
      match if level == .root && r.wanting?.isNone then Level.ofName? arg else none with
      | some command => .ok (.atCommand r command args)
      | none =>
        if level == .root && r.wanting?.isNone && arg == "help" then .ok (.atHelp args)
        else
          match r.argument level arg with
          | .error u => .error u
          | .ok r => r.arguments level args

/-- Ends a level. A file with options that the environment names must have a name too. -/
def finish (r : Reading) (configVariable? : Option String) : Except Usage Reading := do
  let r ← r.settle
  if configVariable? == some "" && !r.given.any (·.1 == .config) then .error .invalidValue
  else return r

/-- The values of a setting at a level. -/
def values (r : Reading) (s : Setting) : List String :=
  r.given.filterMap fun p => if p.1 = s then some p.2 else none

end Reading

/-- The values of a setting: those behind the command, or else those before it. -/
def merged (before behind : Reading) (s : Setting) : List String :=
  if (behind.values s).isEmpty then before.values s else behind.values s

/-- The task that a command and its settings stand for. -/
def taskOf (command : Level) (behind : Reading) : Except Usage Task :=
  match command with
  | .transform =>
    if behind.files.isEmpty then .error .missingFiles
    else .ok (.transform (behind.files.map Path.mk) ((behind.values .outDir).head?.map Path.mk))
  | .resolve =>
    .ok (.resolve (if (behind.values .format).head? = some "dotenv" then .dotenv else .json))
  | .deps | .root => .ok .deps

/-- The help that is asked for. -/
def helpFor : List String → Usage
  | [] => .helpRequested
  | [name] =>
    if (Level.ofName? name).isSome || name == "help" then .helpRequested else .unknownCommand
  | _ => .unknownCommand

/-- The invocation that a command line stands for, where the environment may name a file with
options. -/
def read (configVariable? : Option String) (args : List String) : Except Usage Invocation := do
  match ← Reading.start.arguments .root args with
  | .atHelp rest => .error (helpFor rest)
  | .atEnd before =>
    let before ← before.finish configVariable?
    if before.given.isEmpty && configVariable?.isNone then .error .nothingGiven
    else .error .missingCommand
  | .atCommand before command rest =>
    match ← Reading.start.arguments command rest with
    | .atCommand _ _ _ | .atHelp _ => .error .unknownCommand
    | .atEnd behind =>
      let behind ← behind.finish configVariable?
      let task ← taskOf command behind
      let before ← before.finish configVariable?
      let values := merged before behind
      return {
        config? := ((values .config).head?.or configVariable?).map Path.mk
        envName? := (values .envName).head?
        moduleName? := (values .moduleName).head?
        path? := (values .path).head?.map Path.mk
        allow := values .allow
        block := values .block
        safe := !(values .safe).isEmpty
        strict := !(values .strict).isEmpty
        verbose := !(values .verbose).isEmpty
        task }

end EnvInline.Command
