/-!
# Settings

What may be set on a command line, and where. Most settings may stand before the name of the command
and behind it.
-/

namespace EnvInline.Command

/-- Something that can be set. -/
inductive Setting where
  | config
  | envName
  | moduleName
  | path
  | allow
  | block
  | safe
  | strict
  | verbose
  | outDir
  | format
  | help
  | version
deriving DecidableEq, Repr

namespace Setting

/-- What a setting takes. -/
inductive Kind where
  | flag
  | text
  | texts
  | path
  | format
  | help
  | version
deriving DecidableEq, Repr

/-- What the setting takes. -/
def kind : Setting → Kind
  | config | path | outDir => .path
  | envName | moduleName => .text
  | allow | block => .texts
  | safe | strict | verbose => .flag
  | format => .format
  | help => .help
  | version => .version

/-- The setting takes a value. -/
def takesValue (s : Setting) : Bool :=
  match s.kind with
  | .text | .texts | .path | .format => true
  | .flag | .help | .version => false

/-- The setting may be given more than once. -/
def isRepeatable (s : Setting) : Bool := s.kind == .texts

/-- The setting can have this value. -/
def accepts (s : Setting) (value : String) : Bool :=
  match s.kind with
  | .path => !value.isEmpty
  | .format => value == "json" || value == "dotenv"
  | _ => true

/-- The name after two dashes. -/
def long : Setting → String
  | config => "config"
  | envName => "env-name"
  | moduleName => "module-name"
  | path => "path"
  | allow => "allow"
  | block => "block"
  | safe => "safe"
  | strict => "strict"
  | verbose => "verbose"
  | outDir => "out-dir"
  | format => "format"
  | help => "help"
  | version => "version"

/-- The letter after one dash. -/
def short? : Setting → Option Char
  | config => some 'c'
  | verbose => some 'v'
  | format => some 'f'
  | help => some 'h'
  | version => some 'V'
  | _ => none

/-- The settings that may stand anywhere. -/
def everywhere : List Setting :=
  [config, envName, moduleName, path, allow, block, safe, strict, verbose]

end Setting

/-- The part of a command line before the command, or the one behind it. -/
inductive Level where
  | root
  | transform
  | resolve
  | deps
deriving DecidableEq, Repr

namespace Level

/-- The commands. -/
def commands : List Level := [transform, resolve, deps]

/-- The name of a command. -/
def name : Level → String
  | root => ""
  | transform => "transform"
  | resolve => "resolve"
  | deps => "deps"

/-- The command with a name. -/
def ofName? (name : String) : Option Level := commands.find? (·.name == name)

/-- What may be set at a level. -/
def settings : Level → List Setting
  | root => Setting.everywhere ++ [.help, .version]
  | transform => Setting.everywhere ++ [.outDir, .help]
  | resolve => Setting.everywhere ++ [.format, .help]
  | deps => Setting.everywhere ++ [.help]

end Level

end EnvInline.Command
