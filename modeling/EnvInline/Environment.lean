/-!
# Environments

The variables of a process, in no particular order, and the mode that they select: the first text
that is not empty among the variable of the options, `BABEL_ENV` and `NODE_ENV`.
-/

namespace EnvInline

/-- Variables with their values. -/
structure Environment where
  «variables» : List (String × String)
deriving DecidableEq, Repr, Inhabited

namespace Environment

/-- The value of a variable. -/
def var? (e : Environment) (name : String) : Option String := e.variables.lookup name

/-- The value of a variable, unless it is empty. -/
def text? (e : Environment) (name : String) : Option String :=
  (e.var? name).filter fun value => !value.isEmpty

/-- The environment with a variable set or taken away. -/
def set (e : Environment) (name : String) : Option String → Environment
  | none => ⟨e.variables.filter (·.1 != name)⟩
  | some value => ⟨(name, value) :: e.variables.filter (·.1 != name)⟩

/-- The mode when no variable selects one. -/
def defaultMode : String := "development"

/-- The mode, where `selector` is the variable that counts most. -/
def mode (e : Environment) (selector : String) : String :=
  ([selector, "BABEL_ENV", "NODE_ENV"].findSome? e.text?).getD defaultMode

end Environment

end EnvInline
