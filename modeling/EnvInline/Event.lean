import EnvInline.Disk
import EnvInline.Substitution

/-!
# Events

What a run tells beside its results: the mode, files and lines that were skipped, and what became
of each source file.
-/

namespace EnvInline

/-- Something worth telling. -/
inductive Event where
  | mode (mode : String)
  | unreadable (path : Path) (error : DiskError)
  | skippedLines (path : Path) (lines : List Nat)
  | transformed (file : Path) (report : Report)
deriving DecidableEq, Repr

namespace Event

/-- The event tells of something that was skipped. -/
def isWarning : Event → Bool
  | unreadable _ _ | skippedLines _ _ => true
  | mode _ | transformed _ _ => false

/-- How the event is told. -/
def message : Event → String
  | mode m => "dotenv mode mode=" ++ m
  | unreadable path error =>
    "Failed to read definition file, skipping it path=" ++ path.text ++ " kind=" ++ error.kind
  | skippedLines path lines =>
    "Skipped lines that are not assignments path=" ++ path.text ++ " lines=[" ++
      ", ".intercalate (lines.map toString) ++ "]"
  | transformed file report =>
    "Transformed file=" ++ file.text ++ " removed_imports=" ++ toString report.removedImports ++
      " replaced=" ++ toString report.replacedReferences

/-- The line of the event. -/
def line (e : Event) : String := (if e.isWarning then "WARN " else "INFO ") ++ e.message

end Event

end EnvInline
