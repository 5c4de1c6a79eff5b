/-!
# Usage

What a command line can come to instead of a run.
-/

namespace EnvInline.Command

/-- Why a command line does not lead to a run. -/
inductive Usage where
  | unknownArgument
  | invalidValue
  | argumentGivenTwice
  | valueNotTaken
  | missingFiles
  | missingCommand
  | unknownCommand
  | helpRequested
  | versionRequested
  | nothingGiven
deriving DecidableEq, Repr

/-- Only a request for help or the version is no failure. -/
def Usage.exitCode : Usage → Nat
  | helpRequested | versionRequested => 0
  | _ => 2

end EnvInline.Command
