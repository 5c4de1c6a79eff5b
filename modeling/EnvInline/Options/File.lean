import EnvInline.Access
import EnvInline.Options.Reader
import EnvInline.Text.Utf8

/-!
# Options in files

Options may be given as a text or in a file of their own.
-/

namespace EnvInline

/-- Why options cannot be used. -/
inductive OptionsError where
  | invalid (fault : Json.Fault)
  | unreadable (path : Path) (error : DiskError)
  | malformed (path : Path) (fault : Json.Fault)
deriving DecidableEq, Repr

/-- How the error is said. -/
def OptionsError.message : OptionsError → String
  | invalid fault => "Invalid plugin options: " ++ fault.message
  | unreadable path error =>
    "Failed to read options file at " ++ path.text ++ ": " ++ error.kind
  | malformed path fault =>
    "Failed to parse options file at " ++ path.text ++ ": " ++ fault.message

/-- The content of a file that must be a text. -/
def Access.textOf (path : Path) : Access (Except DiskError String) := do
  match ← contentOf path with
  | .error e => return .error e
  | .ok content =>
    match Text.Utf8.toString? content with
    | none => return .error .notText
    | some text => return .ok text

namespace Options

/-- The options that a text stands for. -/
def ofText (text : String) : Except OptionsError Options :=
  match read text with
  | .error f => .error (.invalid f)
  | .ok o => .ok o

/-- The options in a file. -/
def ofFile (path : Path) : Access (Except OptionsError Options) := do
  match ← Access.textOf path with
  | .error e => return .error (.unreadable path e)
  | .ok text =>
    match read text with
    | .error f => return .error (.malformed path f)
    | .ok o => return .ok o

end Options

end EnvInline
