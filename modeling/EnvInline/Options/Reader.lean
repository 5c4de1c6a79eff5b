import EnvInline.Json.Cursor
import EnvInline.Options

/-!
# Reading options

Options are written as a JSON object with any of the eight fields, or as a list of their values in
a fixed order. What is left out keeps its default; a field that is unknown or stands there twice is
refused.
-/

namespace EnvInline.Options

open EnvInline.Json

/-- One of the options. -/
inductive Field where
  | envName
  | moduleName
  | path
  | allowlist
  | blocklist
  | safe
  | allowUndefined
  | verbose
deriving DecidableEq, Repr

namespace Field

/-- The fields in their order. -/
def all : List Field :=
  [envName, moduleName, path, allowlist, blocklist, safe, allowUndefined, verbose]

/-- The key of a field. -/
def key : Field → String
  | envName => "envName"
  | moduleName => "moduleName"
  | path => "path"
  | allowlist => "allowlist"
  | blocklist => "blocklist"
  | safe => "safe"
  | allowUndefined => "allowUndefined"
  | verbose => "verbose"

/-- The field with a key. -/
def ofKey? (key : String) : Option Field := all.find? fun f => f.key == key

end Field

/-- Reads a text. -/
def readText (expected : String) : Read String := do
  match ← Read.blanks with
  | none => Read.failNext .endInValue
  | some '"' =>
    Read.bump
    Read.string
  | some _ => Read.wrongType expected

/-- Reads a truth value. -/
def readFlag : Read Bool := do
  match ← Read.blanks with
  | none => Read.failNext .endInValue
  | some 't' =>
    Read.word ['t', 'r', 'u', 'e']
    return true
  | some 'f' =>
    Read.word ['f', 'a', 'l', 's', 'e']
    return false
  | some _ => Read.wrongType "a boolean"

/-- Reads the names of a list. -/
def readNames : Nat → Bool → List String → Read (List String)
  | 0, _, before => return before.reverse
  | fuel + 1, isFirst, before => do
    if !(← Read.hasElement isFirst) then return before.reverse
    let name ← readText "a string"
    readNames fuel false (name :: before)

/-- Reads a list of names, or `null`. -/
def readList? : Read (Option (List String)) := do
  match ← Read.blanks with
  | none => Read.failNext .endInValue
  | some 'n' =>
    Read.word ['n', 'u', 'l', 'l']
    return none
  | some '[' =>
    Read.bump
    let size := (← get).rest.length + 1
    let names ← Read.enclosed (readNames size true []) Read.endList
    return some names
  | some _ => Read.wrongType "a sequence"

/-- Reads the value of a field into the options. -/
def readField (o : Options) : Field → Read Options
  | .envName => return { o with envName := ← readText "a string" }
  | .moduleName => return { o with moduleName := ← readText "a string" }
  | .path => return { o with path := ⟨← readText "path string"⟩ }
  | .allowlist => return { o with allowlist := ← readList? }
  | .blocklist => return { o with blocklist := ← readList? }
  | .safe => return { o with safe := ← readFlag }
  | .allowUndefined => return { o with allowUndefined := ← readFlag }
  | .verbose => return { o with verbose := ← readFlag }

/-- Reads the values of some fields in turn, as far as there are values. -/
def readInTurn (o : Options) : Bool → List Field → Read Options
  | _, [] => return o
  | isFirst, f :: fs => do
    if !(← Read.hasElement isFirst) then return o
    readInTurn (← readField o f) false fs

/-- Reads members, each of a field that has not been read yet. -/
def readMembers (o : Options) : Nat → Bool → List Field → Read Options
  | 0, _, _ => return o
  | fuel + 1, isFirst, seen => do
    if !(← Read.hasMember isFirst) then return o
    let key ← Read.string
    match Field.ofKey? key with
    | none => throw ⟨.unknownField key (Field.all.map Field.key), none⟩
    | some f =>
      if seen.contains f then throw ⟨.duplicateField key, none⟩
      Read.colon
      readMembers (← readField o f) fuel false (f :: seen)

/-- Reads options up to the end of the text. -/
def readAll : Read Options := do
  let o ←
    match ← Read.blanks with
    | none => Read.failNext .endInValue
    | some '[' =>
      Read.bump
      Read.enclosed (readInTurn default true Field.all) Read.endList
    | some '\x7b' =>
      Read.bump
      let size := (← get).rest.length + 1
      Read.enclosed (readMembers default size true []) Read.endObject
    | some _ => Read.wrongType "struct PluginConfig"
  Read.finish
  return o

/-- The options that a JSON text stands for. -/
def read (text : String) : Except Json.Fault Options :=
  match readAll (.start text) with
  | .ok o _ => .ok o
  | .error f _ => .error f

end EnvInline.Options
