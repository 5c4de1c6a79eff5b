import EnvInline.Layout.Class

/-!
# Layout of modules

Imports and exports, and the items of a module one after the other.
-/

namespace EnvInline.Layout

open EnvInline.Syntax

/-- The node is an import or an export. -/
def isModuleDeclaration (k : Kind) : Bool :=
  match k with
  | .importDeclaration _ | .exportDeclaration | .exportNamed _ | .exportAll _
  | .exportDefaultExpression | .exportDefaultDeclaration | .importEquals ..
  | .exportAssignment | .exportAsNamespace => true
  | _ => false

/-- An item of a module as it stands among others. -/
def itemPieces (p : Part) : List Piece :=
  (if isModuleDeclaration p.kind then p.own ++ [.line] else statementPieces p) ++
    [.trailing p.span.hi]

/-- Where the names come from. -/
def sourcePieces (source : Part) : List Piece :=
  source.between [.text " ", .text "from", .text " "] []

/-- The pieces of the names of an import, up to the module. -/
def importedPieces (specifiers : List Part) : List Piece :=
  let named := specifiers.filter fun s => match s.kind with | .importNamed _ => true | _ => false
  let others := specifiers.filter fun s => match s.kind with | .importNamed _ => false | _ => true
  let first := commaList (others.map Part.own)
  let comma : List Piece := if others.isEmpty then [] else [.text ",", .text " "]
  if specifiers.isEmpty then []
  else (if named.isEmpty then first else first ++ comma ++ braced (named.map Part.own) []) ++
    [.text " ", .text "from", .text " "]

/-- A name with another one after `as`, if there is one. -/
def renamed (name other : Part) : List Piece :=
  name.own ++ other.between [.text " ", .text "as", .text " "] []

/-- The pieces of the names of an export. -/
def exportedPieces (specifiers : List Part) : List Piece :=
  match specifiers with
  | [s] =>
    match s.kind with
    | .exportNamespace => s.own
    | _ => braced [s.own] []
  | _ => braced (specifiers.map Part.own) []

/-- The pieces of an import or export, after the comments that lead it. -/
def modulePieces? (k : Kind) (span : Span) (ps : List Part) : Option (List Piece) :=
  match k, ps with
  | .importDeclaration typeOnly, [specifiers, source] =>
    some ([.text "import", .text " "] ++ wordIf typeOnly "type" ++
      importedPieces specifiers.parts ++ source.own ++ [.text ";"])
  | .importNamed typeOnly, [binding, imported] =>
    some (wordIf typeOnly "type" ++ imported.between [] [.text " ", .text "as", .text " "] ++
      binding.own)
  | .importDefault, [binding] => some binding.own
  | .importNamespace, [binding] => some ([.text "*", .text " ", .text "as", .text " "] ++ binding.own)
  | .exportDeclaration, [d] => some ([.text "export", .text " "] ++ declarationPieces d)
  | .exportNamed typeOnly, [specifiers, source] =>
    some ([.text "export", .text " "] ++ wordIf typeOnly "type" ++
      exportedPieces specifiers.parts ++ sourcePieces source ++ [.text ";"])
  | .exportSpecifier typeOnly, [name, exported] =>
    some (wordIf typeOnly "type" ++ renamed name exported)
  | .exportNamespace, [name] => some ([.text "*", .text " ", .text "as", .text " "] ++ name.own)
  | .exportAll typeOnly, [source] =>
    some ([.text "export", .text " "] ++ wordIf typeOnly "type" ++ [.text "*"] ++
      sourcePieces source ++ [.text ";"])
  | .exportDefaultExpression, [e] =>
    some ([.text "export", .text " ", .text "default", .text " "] ++ e.whole ++ [.text ";"])
  | .exportDefaultDeclaration, [d] =>
    some ([.text "export", .text " ", .text "default", .text " "] ++ d.own)
  | .importEquals isExport typeOnly, [name, reference] =>
    some (wordIf isExport "export" ++ [.text "import", .text " "] ++ wordIf typeOnly "type" ++
      name.own ++ [.text " ", .text "=", .text " "] ++ reference.own ++ [.text ";"])
  | .externalModule, [source] => some ([.text "require", .text "("] ++ source.own ++ [.text ")"])
  | .exportAssignment, [e] => some ([.text "export", .text " ", .text "=", .text " "] ++ e.whole)
  | .exportAsNamespace, [name] => some ([.text "export", .text " ", .text "=", .text " "] ++ name.own)
  | .moduleProgram shebang, items | .scriptProgram shebang, items =>
    some ((shebang.map fun s => [.text "#!", .text s, .line]).getD [] ++
      items.flatMap itemPieces ++ [.trailing span.hi])
  | _, _ => none

end EnvInline.Layout
