import EnvInline.Command.Reader
import EnvInline.Command.Run

/-!
# The program

Runs a command line on the files and the environment of the process. What is decided is decided by
`Command.read` and `Command.run`; here accesses are carried out, and results are printed.
-/

namespace EnvInline

/-- Why an access failed. -/
def DiskError.ofSystem : IO.Error → DiskError
  | .noFileOrDirectory _ _ _ => .notFound
  | .alreadyExists _ _ _ => .alreadyExists
  | .inappropriateType _ code _ => if code = 20 then .notDirectory else .isDirectory
  | .unsatisfiedConstraints _ _ => .notEmpty
  | .invalidArgument _ code _ => if code = 36 then .nameTooLong else .holdsNul
  | e => .other (toString e)

/-- Does something that may fail. -/
def attempt (action : IO α) : IO (Except DiskError α) := do
  match ← action.toBaseIO with
  | .ok a => return .ok a
  | .error e => return .error (.ofSystem e)

/-- When something was changed, if it is there. -/
def modified? (path : Path) : IO (Option Int) := do
  let found ← attempt do
    let full ← IO.FS.realPath path.text
    let data ← full.metadata
    return data.modified.sec * 1000000 + (data.modified.nsec.toNat / 1000 : Nat)
  return found.toOption

/-- Carries out accesses on the files of the system. -/
def Access.carryOut : Access α → IO α
  | .done value => return value
  | .stat path next => do (next (← modified? path)).carryOut
  | .read path next => do
    let content ← attempt (IO.FS.readBinFile path.text)
    (next (content.map fun bytes => bytes.toList)).carryOut
  | .makeDirectories path next => do
    (next (← attempt (IO.FS.createDirAll path.text))).carryOut
  | .write path content next => do
    (next (← attempt (IO.FS.writeBinFile path.text ⟨content.toArray⟩))).carryOut

/-- The bytes between zeros. -/
def fields (bytes : List UInt8) : List (List UInt8) :=
  (bytes.splitOnP (· == 0)).filter (!·.isEmpty)

/-- The variables of the process that are texts. -/
def systemEnvironment : IO Environment := do
  let block ← attempt (IO.FS.readBinFile "/proc/self/environ")
  let entries := (block.toOption.map fun bytes => fields bytes.toList).getD []
  return ⟨entries.filterMap fun entry => do
    let text ← Text.Utf8.decode? entry
    let name := text.takeWhile (· != '=')
    some (String.ofList name, String.ofList (text.drop (name.length + 1)))⟩

/-- The name and the version of the program. -/
def versionLine : String := "env-inline 0.1.0"

/-- How the program is called. -/
def usageText : String :=
  "Usage: env-inline [OPTIONS] <COMMAND>\n\n" ++
  "Commands:\n" ++
  "  transform  Rewrite source files, inlining imports of the virtual module\n" ++
  "  resolve    Print the resolved environment mapping\n" ++
  "  deps       Print the mode and the definition files a build cache should track\n"

/-- Says why a command line does not lead to a run. -/
def Command.Usage.report : Command.Usage → IO Unit
  | .versionRequested => IO.println versionLine
  | .helpRequested => IO.println usageText
  | _ => IO.eprintln usageText

end EnvInline

open EnvInline

/-- Runs a command line. -/
def main (args : List String) : IO UInt32 := do
  let environment ← systemEnvironment
  match Command.read (environment.var? "DOTENV_IMPORT_CONFIG") args with
  | .error usage =>
    usage.report
    return usage.exitCode.toUInt32
  | .ok invocation =>
    let cwd : Path := ⟨(← IO.currentDir).toString⟩
    let outcome ← (Command.run invocation environment cwd).carryOut
    for event in Command.shown invocation outcome.events do
      IO.eprintln event.line
    IO.print outcome.printed
    if let some error := outcome.error? then
      IO.eprintln error.message
    return outcome.exitCode.toUInt32
