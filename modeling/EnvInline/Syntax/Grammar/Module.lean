import EnvInline.Syntax.Grammar.Statement

/-!
# Imports and exports

What an import or an export may say beyond its names and its module is not read: the attributes
behind the module (`with { … }`, `assert { … }`), which a text with types could hold, and the phases
`source` and `defer` in front of a name. Such a text is refused here, or read as something else.
-/

namespace EnvInline.Syntax

/-- Reads the string that names a module. -/
def moduleSource : P Tree := do
  match ← current with
  | .string .. => literal
  | _ => refuseToken "a string literal"

/-- Reads a name that an import binds. -/
def importedName : P Named :=
  withContext ({ · with inAsync := false, inGenerator := false }) (boundName false)

/-! ### Imports -/

/-- A specifier of an import. -/
def importNode (start : Nat) (typeOnly : Bool) (bound : Named) (imported : Tree) : P Tree :=
  nodeFrom start (.importNamed typeOnly) [bindingNode bound, imported]

/-- Reads the specifier of an import on after a name. -/
def importAfterName (start : Nat) (typeOnly : Bool) (name : Named) : P Tree := do
  if ← eat "as" then
    let bound ← boundName false
    return ← importNode start typeOnly bound (nameNode name)
  if ← isReservedText name.1 then refuseAt name.2.lo .reservedWordInImport
  importNode start typeOnly name .none

/-- Reads the specifier of an import after the word `type` with a word after it: it may be a
modifier or the name itself. -/
def typedImport (start : Nat) (inTypeImport : Bool) (word : Named) : P Tree := do
  let checkModifier : P Unit :=
    if inTypeImport then report word.2.lo .typeModifierInTypeImport else pure ()
  let name ← anyName
  if name.1 != "as" then
    checkModifier
    return ← importAfterName start true name
  if !(← atWord) then
    checkModifier
    return ← importNode start true name .none
  let bound ← boundName false
  if ← pure (bound.1 == "as") <&&> atWord then
    let last ← boundName false
    checkModifier
    return ← importNode start true last (nameNode name)
  importNode start false bound (nameNode word)

/-- Reads a specifier of an import. -/
def importSpecifier (inTypeImport : Bool) : P Tree := do
  let start ← currentStart
  let name ← exportName
  match name.kind with
  | .stringLiteral value _ =>
    if ← eat "as" then
      let bound ← boundName false
      importNode start false bound name
    else refuseAt name.span.lo (.stringImportBinding value)
  | .name w =>
    if ← hasTypes <&&> pure (w == "type") <&&> atWord then
      typedImport start inTypeImport (w, name.span)
    else importAfterName start false (w, name.span)
  | _ => refuse .expectedIdent

/-- Reads specifiers with commas between them, in braces, after the opening one. -/
def bracedSpecifiers (specifier : P Tree) : P (List Tree) := do
  let mut items := []
  for _ in ← turns do
    if (← atEnd) || (← at? "\x7d") then break
    items := (← specifier) :: items
    if ← at? "\x7d" then break
    expect ","
  expect "\x7d"
  return items.reverse

/-- Reads what `import name =` refers to. -/
def importedReference : P Tree := do
  if ← notM (at? "require" <&&> aheadIs "(") then return ← entityName false
  let start ← currentStart
  bump
  expect "("
  let source ← moduleSource
  expect ")"
  nodeFrom start .externalModule [source]

/-- Reads `import name = …` after the name. -/
def importEquals (start : Nat) (isExport typeOnly : Bool) (name : Named) : P Tree := do
  expect "="
  let target ← importedReference
  expectStatementEnd
  nodeFrom start (.importEquals isExport typeOnly) [bindingNode name, target]

/-- Reads the name after `import`: with it, whether the import is of types only. There is no name
when `type` stands before a brace or a star. -/
def defaultImport? : P (Option Named × Bool) := do
  if !(← atFreeName) then return (none, false)
  let name ← importedName
  if !(← hasTypes) || name.1 != "type" then return (some name, false)
  if (← at? "*") || (← at? "\x7b") then return (none, true)
  if !(← atFreeName) then return (some name, false)
  if ← notM (at? "from") <||> aheadIs "from" then return (some (← importedName), true)
  if ← aheadIs "=" then return (some (← anyName), true)
  return (some name, false)

/-- Reads what an import binds besides its default. -/
def importRest (typeOnly : Bool) : P (List Tree) := do
  let start ← currentStart
  if ← eat "*" then
    expect "as"
    let bound ← importedName
    return [← nodeFrom start .importNamespace [bindingNode bound]]
  if ← eat "\x7b" then return ← bracedSpecifiers (importSpecifier typeOnly)
  return []

/-- Reads an import from its word on. -/
def importDeclaration : P Tree := do
  let start ← currentStart
  if ← aheadIs "." <||> aheadIs "(" then return ← importStatement start
  bump
  if let some source ← stringLiteral? then
    expectStatementEnd
    return ← nodeFrom start (.importDeclaration false) [.many [], source]
  let (default?, typeOnly) ← defaultImport?
  let mut specifiers := []
  if let some name := default? then
    if ← hasTypes <&&> at? "=" then return ← importEquals start false typeOnly name
    if !(← at? "from") then expect ","
    specifiers := [.node .importDefault name.2 [bindingNode name]]
  let others ← importRest typeOnly
  expect "from"
  let source ← moduleSource
  expectStatementEnd
  nodeFrom start (.importDeclaration typeOnly) [.many (specifiers ++ others), source]

/-! ### Exports -/

/-- A specifier of an export. -/
def exportNode (start : Nat) (typeOnly : Bool) (name exported : Tree) : P Tree :=
  nodeFrom start (.exportSpecifier typeOnly) [name, exported]

/-- Reads the name after `as`, if it stands here. -/
def exportedAs? : P Tree := do
  if ← eat "as" then exportName else return .none

/-- Reads the specifier of an export after the word `type` with a word after it. -/
def typedExport (start : Nat) (inTypeExport : Bool) (word : Named) : P Tree := do
  let checkModifier : P Unit :=
    if inTypeExport then report word.2.lo .typeModifierInTypeExport else pure ()
  let name ← anyName
  if name.1 != "as" then
    checkModifier
    let exported ← exportedAs?
    return ← exportNode start true (nameNode name) exported
  if !(← atWord) then
    checkModifier
    return ← exportNode start true (nameNode name) .none
  let exported ← anyName
  if ← pure (exported.1 == "as") <&&> atWord then
    let last ← anyName
    checkModifier
    return ← exportNode start true (nameNode name) (nameNode last)
  exportNode start false (nameNode word) (nameNode exported)

/-- Reads a specifier of an export. -/
def exportSpecifier (inTypeExport : Bool) : P Tree := do
  let start ← currentStart
  let name ← exportName
  if ← pure (name.kind == .name "type") <&&> hasTypes <&&> atWord then
    return ← typedExport start inTypeExport ("type", name.span)
  let exported ← exportedAs?
  exportNode start false name exported

/-- Reads `from` with the module after it. -/
def fromClause : P Tree := do
  expect "from"
  let source ← moduleSource
  let _ ← eatStatementEnd
  return source

/-- Reports names that can only be exported from another module. -/
def checkLocalExports (specifiers : List Tree) : P Unit := do
  for s in specifiers do
    match (s.child 0).kind with
    | .name w => if keywords.contains w then report s.span.lo (.exportNeedsFrom w)
    | .stringLiteral .. => report s.span.lo .stringExportBinding
    | _ => pure ()

/-- Reads an export of names, or of all names of another module. -/
def exportNames (start : Nat) (typeOnly : Bool) : P Tree := do
  let place ← currentStart
  if ← at? "*" <&&> notM (aheadIs "as") then
    bump
    let source ← fromClause
    return ← nodeFrom start (.exportAll typeOnly) [source]
  if ← eat "*" then
    expect "as"
    let name ← exportName
    let specifier ← nodeFrom place .exportNamespace [name]
    let source ← fromClause
    return ← nodeFrom start (.exportNamed typeOnly) [.many [specifier], source]
  expect "\x7b"
  let specifiers ← bracedSpecifiers (exportSpecifier typeOnly)
  let source ←
    if ← at? "from" then fromClause
    else
      checkLocalExports specifiers
      let _ ← eatStatementEnd
      pure .none
  nodeFrom start (.exportNamed typeOnly) [.many specifiers, source]

/-- Reads what follows `export default`. -/
def exportDefault (start : Nat) : P Tree := do
  let here ← currentStart
  let finish (t : Tree) : P Tree := nodeFrom start .exportDefaultDeclaration [t]
  if ← hasTypes then
    if ← at? "abstract" <&&> aheadIs "class" <&&> notM breakAhead then
      bump
      return ← finish (← classDeclaration here false true)
    if ← at? "interface" then
      bump
      return ← finish (← interfaceDeclaration here)
  if ← at? "class" then return ← finish (← classDeclaration here false false)
  if ← at? "async" <&&> aheadIs "function" <&&> notM breakAhead then
    return ← finish (← functionDeclaration here false)
  if ← at? "function" then return ← finish (← functionDeclaration here false)
  let e ← withIn (rule .assignment)
  expectStatementEnd
  nodeFrom start .exportDefaultExpression [e]

/-- Reads an export that only a text with types may hold, if it is one. -/
def typedModuleExport? (start : Nat) : P (Option Tree) := do
  if !(← hasTypes) then return none
  if ← eat "import" then
    let typeOnly ← at? "type" <&&> freeNameAhead
    if typeOnly then bump
    let name ← anyName
    return some (← importEquals start true typeOnly name)
  if ← eat "=" then
    let e ← rule .expression
    expectStatementEnd
    return some (← nodeFrom start .exportAssignment [e])
  if ← eat "as" then
    expect "namespace"
    let name ← freeName false false
    expectStatementEnd
    return some (← nodeFrom start .exportAsNamespace [nameNode name])
  return none

/-- Reads a declaration that is exported, if one starts here. -/
def exportedDeclaration? : P (Option Tree) := do
  let here ← currentStart
  if ← at? "class" then return some (← classDeclaration here true false)
  if ← at? "async" <&&> aheadIs "function" <&&> notM breakAhead then
    return some (← functionDeclaration here true)
  if ← at? "function" then return some (← functionDeclaration here true)
  if ← hasTypes <&&> at? "const" <&&> aheadIs "enum" then
    bump
    bump
    return some (← enumDeclaration here true)
  if ← at? "var" <||> at? "const" <||> atLetDeclaration then
    return some (← variableDeclaration false)
  return none

/-- Reads an exported declaration that starts with a word that is a name elsewhere, if it is
one. -/
def exportedWordDeclaration? (start : Nat) : P (Option Tree) := do
  if !(← hasTypes) then return none
  let here ← currentStart
  if ← eat "declare" then
    if let some t ← declared? here then
      return some (← nodeFrom start .exportDeclaration [t])
  match (← current?).bind Token.word? with
  | none => return none
  | some w =>
    match ← attempt (do wordDeclaration? (← currentStart) w true) with
    | some t => return some (← nodeFrom start .exportDeclaration [t])
    | none => return none

/-- Reads an export from its word on. -/
def exportDeclaration : P Tree := do
  let start ← currentStart
  bump
  let _ ← current
  if let some t ← exportedWordDeclaration? start then return t
  if let some t ← typedModuleExport? start then return t
  let typeOnly ← if ← hasTypes then eat "type" else pure false
  if typeOnly then return ← exportNames start true
  if ← eat "default" then return ← exportDefault start
  match ← exportedDeclaration? with
  | some t => nodeFrom start .exportDeclaration [t]
  | none => exportNames start false

/-- Reads an item of a module: an import, an export or a statement. -/
def moduleItem : P Tree := do
  if ← at? "import" then return ← importDeclaration
  if ← at? "export" then return ← exportDeclaration
  rule (.statement true)

end EnvInline.Syntax
