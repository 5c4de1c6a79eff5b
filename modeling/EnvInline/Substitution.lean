import EnvInline.Literal
import EnvInline.Mapping
import EnvInline.Options

/-!
# Substitution

The imports of one module are taken out of a program, and every place that reads an imported name
gets the value of that name instead. All imports are checked before anything is replaced, so a
program with a fault in it stays as it is.
-/

namespace EnvInline

open EnvInline.Syntax

/-- Why a name cannot be imported. -/
inductive ImportError where
  | rejected (name : String)
  | undefined (name : String) (path : Path)
  | notNamed (moduleName : String)
deriving DecidableEq, Repr

/-- How the error is said. -/
def ImportError.message : ImportError → String
  | rejected name => "\"" ++ name ++ "\" is not allowed or is blocked."
  | undefined name path => "\"" ++ name ++ "\" is not defined in " ++ path.text
  | notNamed moduleName => "only named imports can be read from \"" ++ moduleName ++ "\""

/-- An error with the specifier it is about. -/
structure ImportFault where
  error : ImportError
  span : Span
deriving DecidableEq, Repr

/-- What a run changed. -/
structure Report where
  removedImports : Nat
  bindings : Nat
  replacedReferences : Nat
deriving DecidableEq, Repr

/-- Nothing was changed. -/
def Report.none : Report := ⟨0, 0, 0⟩

namespace Substitution

/-- Checks one imported name against the options. -/
def check (options : Options) (values : Mapping) (name : String) : Except ImportError Unit :=
  if options.rejects name then .error (.rejected name)
  else if !options.allowUndefined && !values.contains name then
    .error (.undefined name options.path)
  else .ok ()

/-- The item imports from the module of the options. -/
def isMatching (options : Options) (item : Tree) : Bool :=
  match item.kind with
  | .importDeclaration _ =>
    match (item.child 1).kind with
    | .stringLiteral value _ => value == options.moduleName
    | _ => false
  | _ => false

/-- A name that is imported, and the variable it is imported as. -/
structure Binding where
  variableId : Ident
  imported : String
deriving DecidableEq, Repr

/-- The text of a name, which may be written as a string. -/
def externalName? (t : Tree) : Option String :=
  match t.kind with
  | .name w => some w
  | .stringLiteral value _ => some value
  | _ => none

/-- The binding of a specifier, if it is a named one. -/
def bindingOf? (specifier : Tree) : Option Binding :=
  match specifier.kind, (specifier.child 0).kind with
  | .importNamed _, .binding id _ =>
    some ⟨id, (externalName? (specifier.child 1)).getD id.name⟩
  | _, _ => none

/-- The binding of a specifier that passes all checks. -/
def readSpecifier (options : Options) (values : Mapping) (specifier : Tree) :
    Except ImportFault Binding :=
  match bindingOf? specifier with
  | none => .error ⟨.notNamed options.moduleName, specifier.span⟩
  | some b =>
    match check options values b.imported with
    | .error e => .error ⟨e, specifier.span⟩
    | .ok () => .ok b

theorem checked_of_readSpecifier {options : Options} {values : Mapping} {specifier : Tree}
    {b : Binding} (h : readSpecifier options values specifier = .ok b) :
    bindingOf? specifier = some b ∧ check options values b.imported = .ok () := by
  unfold readSpecifier at h
  split at h
  · cases h
  · next b' hb =>
    split at h
    · cases h
    · next hcheck =>
      cases h
      exact ⟨hb, hcheck⟩

/-- The specifiers of all matching imports, in the order of the text. -/
def matchingSpecifiers (options : Options) (items : List Tree) : List Tree :=
  (items.filter (isMatching options)).flatMap fun item => item.parts 0

/-- The value that replaces a variable: that of the last binding of it. -/
def replacement? (values : Mapping) (bindings : List Binding) (id : Ident) :
    Option (Option String) :=
  (bindings.reverse.find? (·.variableId == id)).map fun b => values.get? b.imported

/-- The variables of some bindings, each once. -/
def variableIds (bindings : List Binding) : List Ident :=
  (bindings.map (·.variableId)).eraseDups

/-- What stands in the place of an identifier that reads a variable with a replacement. Identifiers
have no children; any other node has no substitute. -/
def substitute? (replacement? : Ident → Option (Option String)) : Tree → Option Tree
  | .node (.reference id) span [] => (replacement? id).map (Literal.ofValue? span)
  | .node (.shorthand id) span [] =>
    (replacement? id).map fun value =>
      .node .property span [.node (.name id.name) span [], Literal.ofValue? span value]
  | _ => none

mutual
/-- A tree with the places replaced that read a variable with a replacement. -/
def replace (replacement? : Ident → Option (Option String)) : Tree → Tree
  | .node k span cs =>
    match substitute? replacement? (.node k span cs) with
    | some t => t
    | none => .node k span (replaceMany replacement? cs)

/-- Some trees with these places replaced. -/
def replaceMany (replacement? : Ident → Option (Option String)) : List Tree → List Tree
  | [] => []
  | t :: ts => replace replacement? t :: replaceMany replacement? ts
end

mutual
/-- How many places of a tree read a variable with a replacement. -/
def countReads (replacement? : Ident → Option (Option String)) : Tree → Nat
  | .node k span cs =>
    match substitute? replacement? (.node k span cs) with
    | some _ => 1
    | none => countReadsMany replacement? cs

/-- How many places of some trees read a variable with a replacement. -/
def countReadsMany (replacement? : Ident → Option (Option String)) : List Tree → Nat
  | [] => 0
  | t :: ts => countReads replacement? t + countReadsMany replacement? ts
end

/-- A program with the matching imports replaced, and what was changed. -/
def run (options : Options) (values : Mapping) (program : Tree) :
    Except ImportFault (Tree × Report) :=
  let items := program.children
  let removed := (items.filter (isMatching options)).length
  match (matchingSpecifiers options items).mapM (readSpecifier options values) with
  | .error e => .error e
  | .ok bindings =>
    if removed = 0 then .ok (program, .none)
    else
      let kept := items.filter fun item => !isMatching options item
      let replacement? := replacement? values bindings
      .ok (.node program.kind program.span (replaceMany replacement? kept),
        ⟨removed, (variableIds bindings).length, countReadsMany replacement? kept⟩)

end Substitution

end EnvInline
