import EnvInline.Path

/-!
# Options

What can be set for a run: which imports are replaced, where their values come from, and which
names may be imported.
-/

namespace EnvInline

/-- The options of a run. -/
structure Options where
  /-- the variable that selects the mode -/
  envName : String
  /-- the module whose imports are replaced -/
  moduleName : String
  /-- the base definition file -/
  path : Path
  /-- the names that may be imported; any name if there is no list -/
  allowlist : Option (List String)
  /-- the names that may not be imported -/
  blocklist : Option (List String)
  /-- the lists also apply to the variables of the environment -/
  safe : Bool
  /-- a name without a value may be imported -/
  allowUndefined : Bool
  /-- the mode and skipped files are logged -/
  verbose : Bool
deriving DecidableEq, Repr

namespace Options

/-- The options when nothing is set. -/
def default : Options :=
  { envName := "APP_ENV"
    moduleName := "@env"
    path := ⟨".env"⟩
    allowlist := none
    blocklist := none
    safe := false
    allowUndefined := true
    verbose := false }

instance : Inhabited Options := ⟨default⟩

/-- A name may not be imported: there is an allowlist without it, or a blocklist with it. -/
def rejects (o : Options) (name : String) : Bool :=
  o.allowlist.any (fun names => !names.contains name) ||
    o.blocklist.any (fun names => names.contains name)

end Options

end EnvInline
