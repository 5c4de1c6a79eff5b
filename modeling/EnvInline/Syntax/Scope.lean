import EnvInline.Syntax.Tree

/-!
# Scopes

`resolve` gives every name of a tree the number of the scope that declares it. A scope is opened by
a module, a function, a block, a loop with variables of its own, and the like; a name belongs to the
innermost scope around it that declares it. Types have names of their own, which count only where a
type is written.

The scope of a module has the number 1, the scopes within it have larger ones, and 0 is left for
names that nothing declares.
-/

namespace EnvInline.Syntax

/-- The names that something declares, as values and as types. -/
structure Names where
  values : List String
  types : List String
deriving Repr, Inhabited

namespace Names

/-- No names. -/
def none : Names := ⟨[], []⟩

/-- The names of both. -/
def add (a b : Names) : Names := ⟨a.values ++ b.values, a.types ++ b.types⟩

/-- The names of all. -/
def sum (ns : List Names) : Names := ns.foldl add none

/-- Names of values. -/
def ofValues (vs : List String) : Names := ⟨vs, []⟩

end Names

/-! ### What is declared -/

mutual
/-- The names that a pattern declares. -/
def boundNames : Tree → List String
  | .node k _ cs =>
    match k, cs with
    | .binding id _, _ => [id.name]
    | .list, cs => boundNamesMany cs
    | .arrayPattern _, es :: _ => boundNames es
    | .objectPattern _, ms :: _ => boundNames ms
    | .restPattern, p :: _ => boundNames p
    | .defaultPattern, p :: _ => boundNames p
    | .patternProperty, [_, p] => boundNames p
    | .patternShorthand, p :: _ => boundNames p
    | .parameterProperty _, p :: _ => boundNames p
    | _, _ => []

/-- The names that some patterns declare. -/
def boundNamesMany : List Tree → List String
  | [] => []
  | t :: ts => boundNames t ++ boundNamesMany ts
end

/-- The names of variables. -/
def declaratorNames (declarators : List Tree) : List String :=
  declarators.flatMap fun d => boundNames (d.child 0)

/-- The kind of node has statements of its own, whose variables stay inside. -/
def Kind.keepsVariables : Kind → Bool
  | .function _ | .arrow _ | .getter | .setter | .constructor _ | .staticBlock
  | .namespaceBody => true
  | _ => false

mutual
/-- The variables that a statement declares for the function around it. -/
def functionVariables : Tree → List String
  | .node k _ cs =>
    if k.keepsVariables then []
    else
      let own :=
        match k with
        | .variableDeclaration "var" _ => declaratorNames cs
        | _ => []
      own ++ functionVariablesMany cs

/-- The variables that some statements declare for the function around them. -/
def functionVariablesMany : List Tree → List String
  | [] => []
  | t :: ts => functionVariables t ++ functionVariablesMany ts
end

/-- The text of a node that is only a name. -/
def nameOf (t : Tree) : List String :=
  match t.kind with
  | .name w => [w]
  | .binding id _ => [id.name]
  | _ => []

/-- The names that a statement declares for the block around it. -/
def blockNames : Tree → Names
  | .node k _ cs =>
    match k, cs with
    | .variableDeclaration w _, ds => if w == "var" then .none else .ofValues (declaratorNames ds)
    | .functionDeclaration _, name :: _ => .ofValues (boundNames name)
    | .classDeclaration _, name :: _ => ⟨boundNames name, boundNames name⟩
    | .enumDeclaration .., name :: _ => .ofValues (boundNames name)
    | .namespaceDeclaration _ isGlobal _, name :: _ =>
      if isGlobal then .none else .ofValues (boundNames name)
    | .interfaceDeclaration _, name :: _ => ⟨[], nameOf name⟩
    | .typeAlias _, name :: _ => ⟨[], nameOf name⟩
    | .importDeclaration _, specifiers :: _ =>
      let names := specifiers.children.flatMap fun s => boundNames (s.child 0)
      ⟨names, names⟩
    | .importEquals .., name :: _ => .ofValues (boundNames name)
    | .exportDeclaration, d :: _ => blockNames d
    | .exportDefaultDeclaration, d :: _ => blockNames d
    | .labeled, [_, body] => blockNames body
    | _, _ => .none

/-- The names that statements declare for the block around them. -/
def blockNamesMany (statements : List Tree) : Names := .sum (statements.map blockNames)

/-- The names that statements declare when they are the body of a function or a module. -/
def bodyNames (statements : List Tree) : Names :=
  (blockNamesMany statements).add (.ofValues (functionVariablesMany statements))

/-- The names of type parameters. -/
def parameterTypes (typeParameters : Tree) : List String :=
  typeParameters.children.flatMap fun t => nameOf (t.child 0)

/-- The parameter is declared when its turn comes, and not before all others. -/
def isLateParameter (p : Tree) : Bool :=
  match p.kind with
  | .restPattern | .parameterProperty _ => true
  | _ => false

/-! ### Scopes -/

/-- A scope with the names that it declares. -/
structure Scope where
  number : Nat
  names : Names
deriving Repr, Inhabited

/-- The scopes around a place, innermost first. -/
abbrev Scopes := List Scope

namespace Scopes

/-- The scope that declares a name, among values or, where a type is written, among types first. -/
def find (scopes : Scopes) (inType : Bool) (name : String) : Nat :=
  let asType := if inType then scopes.find? (·.names.types.contains name) else none
  let asValue := scopes.find? (·.names.values.contains name)
  ((asType <|> asValue).map (·.number)).getD 0

/-- Opens a scope. -/
def enter (scopes : Scopes) (number : Nat) (names : Names) : Scopes := ⟨number, names⟩ :: scopes

/-- Declares more names in the innermost scope. -/
def declare (scopes : Scopes) (names : Names) : Scopes :=
  match scopes with
  | [] => []
  | s :: ss => { s with names := s.names.add names } :: ss

end Scopes

/-- What a node does with the scopes, besides what its kind says. -/
inductive Role where
  | plain
  /-- its names are in scope already -/
  | body
  /-- its children are parameters -/
  | parameters
  /-- its children are the cases of a `switch` -/
  | cases
  /-- a case, with the scopes of its test -/
  | switchCase (test : Scopes)
  /-- variables that are declared one after the other -/
  | loopHead
  /-- a class whose superclass is outside of the scope of its name -/
  | classExpression (outside : Scopes)
  /-- a name that is no variable -/
  | untouched
deriving Repr, Inhabited

/-- A place in a tree: the scopes around it, whether it is in a type, and its role. -/
structure Place where
  scopes : Scopes
  inType : Bool
  role : Role
deriving Repr, Inhabited

namespace Place

/-- The place with another role. -/
def as (p : Place) (role : Role) : Place := { p with role := role }

/-- The place inside a new scope. -/
def enter (p : Place) (number : Nat) (names : Names) : Place :=
  { p with scopes := p.scopes.enter number names }

/-- The place with more names in its scope. -/
def declare (p : Place) (names : Names) : Place :=
  { p with scopes := p.scopes.declare names }

/-- The place of a type. -/
def typed (p : Place) : Place := { p with inType := true }

end Place

/-- The places of parts that are declared one after the other. -/
def placesInTurn (names : Tree → Names) : Place → List Tree → List Place
  | _, [] => []
  | p, t :: ts =>
    let p := p.declare (names t)
    p :: placesInTurn names p ts

/-- The places of the cases of a `switch`. A case sees the names of the cases before it, and its
statements see its own too. -/
def casePlaces : Place → List Tree → List Place
  | _, [] => []
  | p, t :: ts =>
    let inner := p.declare (blockNamesMany (t.parts 1))
    inner.as (.switchCase p.scopes) :: casePlaces inner ts

/-- The places of the parts of a function: type parameters, parameters, return type, body. -/
def functionPlaces (p : Place) (number : Nat) (typeParams : Tree) (params : List Tree)
    (body : Tree) : List Place :=
  let early := params.filter fun t => !isLateParameter t
  let late := params.filter isLateParameter
  let p := p.enter number ⟨boundNamesMany early, parameterTypes typeParams⟩
  let inner := p.declare (.ofValues (boundNamesMany late))
  let bodyPlace :=
    if body.kind == .block then (inner.declare (bodyNames body.children)).as .body else inner
  [p, p.as .parameters, inner, bodyPlace]

/-- The names that the head of a loop declares for the loop alone. -/
def loopNames (head : Tree) : List Tree :=
  match head.kind with
  | .variableDeclaration w _ => if w == "var" then [] else head.children
  | _ => []

/-- The names of the members of an enumeration. -/
def memberNames (members : Tree) : Names :=
  .ofValues (members.children.flatMap fun m => nameOf (m.child 0))

/-- The places of the children of a statement or an expression; those that are not listed are at
the last place. -/
def valuePlaces (p : Place) (number : Nat) (k : Kind) (cs : List Tree) : List Place :=
  match k, cs with
  | .function _, [typeParams, params, _, body] =>
    functionPlaces p number typeParams params.children body
  | .arrow _, [typeParams, params, _, body] =>
    functionPlaces p number typeParams params.children body
  | .functionExpression, name :: _ => [p.enter number (.ofValues (boundNames name))]
  | .getter, [_, _, body] =>
    [p, p, (p.enter number (bodyNames body.children)).as .body]
  | .setter, [_, parameter, body] =>
    match functionPlaces p number .none [parameter] body with
    | [_, _, inner, bodyPlace] => [p, inner, bodyPlace]
    | _ => [p]
  | .constructor _, [_, params, body] =>
    p :: (functionPlaces p number .none params.children body).filter fun q =>
      match q.role with
      | .parameters | .body => true
      | _ => false
  | .staticBlock, [block] => [(p.enter number (bodyNames block.children)).as .body]
  | .block, statements =>
    match p.role with
    | .body => [p.as .plain]
    | _ => [p.enter number (blockNamesMany statements)]
  | .forLoop, [head, _, _, _] =>
    let inner := p.enter number .none
    let all := inner.declare (.ofValues (declaratorNames (loopNames head)))
    [inner.as .loopHead, all]
  | .forInLoop, head :: _ | .forOfLoop _, head :: _ =>
    [p.enter number (.ofValues (declaratorNames (loopNames head)))]
  | .variableDeclaration .., declarators =>
    match p.role with
    | .loopHead =>
      if (loopNames (.node k ⟨0, 0⟩ cs)).isEmpty then [p.as .plain]
      else placesInTurn (fun d => .ofValues (boundNames (d.child 0))) (p.as .plain) declarators
    | _ => [p.as .plain]
  | .switchStatement, _ => [p, (p.enter number .none).as .cases]
  | .switchCase, _ =>
    match p.role with
    | .switchCase test => [{ p with scopes := test, role := .plain }, p.as .plain]
    | _ => [p]
  | .catchClause, [parameter, block] =>
    let inner := p.enter number ((bodyNames block.children).add (.ofValues (boundNames parameter)))
    [inner, inner.as .body]
  | .classExpression, name :: _ =>
    let inner := p.enter number ⟨boundNames name, boundNames name⟩
    [inner, inner.as (.classExpression p.scopes)]
  | .classBody _, typeParams :: _ =>
    let inner := (p.as .plain).enter number ⟨[], parameterTypes typeParams⟩
    match p.role with
    | .classExpression outside => [inner, { p with scopes := outside, role := .plain }, inner]
    | _ => [inner]
  | .enumDeclaration .., [_, members] => [p, p.enter number (memberNames members)]
  | .namespaceDeclaration .., [_, body] | .namespaceTail, [_, body] =>
    match body.kind with
    | .namespaceTail => [p, p.enter number (.ofValues (boundNames (body.child 0)))]
    | _ => [p]
  | .namespaceBody, items => [p.enter number (bodyNames items)]
  | _, _ => [p.as .plain]

/-- The places of the children of a type or a declaration of a type. -/
def typePlaces? (p : Place) (number : Nat) (k : Kind) (cs : List Tree) : Option (List Place) :=
  match k, cs with
  | .colonType, _ | .typeArguments, _ | .typeParameters, _ => some [p.typed]
  | .interfaceDeclaration _, [_, typeParams, _, _] | .typeAlias _, [_, typeParams, _] =>
    some [p.typed.enter number ⟨[], parameterTypes typeParams⟩]
  | .functionType, typeParams :: _ | .constructorType _, typeParams :: _
  | .callSignature, typeParams :: _ | .constructSignature, typeParams :: _ =>
    some [p.enter number ⟨[], parameterTypes typeParams⟩]
  | .methodSignature isComputed _, _ :: typeParams :: _ =>
    let key := if isComputed then p else p.as .untouched
    some [key, p.enter number ⟨[], parameterTypes typeParams⟩]
  | .propertySignature _ isComputed _, _ | .getterSignature isComputed, _
  | .setterSignature isComputed, _ =>
    some [if isComputed then p else p.as .untouched, p]
  | .mappedType .., typeParam :: _ => some [p.enter number ⟨[], nameOf (typeParam.child 0)⟩]
  | _, _ => none

/-- The places of the children of a node. -/
def childPlaces (p : Place) (number : Nat) (k : Kind) (cs : List Tree) : List Place :=
  match k, p.role with
  | .list, .parameters =>
    placesInTurn (fun t => if isLateParameter t then .ofValues (boundNames t) else .none)
      (p.as .plain) cs
  | .list, .cases => casePlaces (p.as .plain) cs
  | _, _ =>
    match typePlaces? p number k cs with
    | some ps => ps
    | none => valuePlaces p number k cs

/-- The kind with the scope of its variable. -/
def Kind.withScope (k : Kind) (scopeOf : String → Nat) : Kind :=
  let put (id : Ident) : Ident := ⟨id.name, scopeOf id.name⟩
  match k with
  | .reference id => .reference (put id)
  | .target id => .target (put id)
  | .binding id o => .binding (put id) o
  | .shorthand id => .shorthand (put id)
  | .coverDefault id => .coverDefault (put id)
  | k => k

/-! ### Resolving -/

mutual
/-- The tree at a place with the scopes of its names. The state is the next free number of a
scope. -/
def resolveAt (p : Place) : Tree → StateM Nat Tree
  | .node k s cs =>
    match p.role with
    | .untouched => return .node k s cs
    | _ => do
      let number ← get
      set (number + 1)
      let cs ← resolveMany (p.as .plain) (childPlaces p number k cs) cs
      return .node (k.withScope (p.scopes.find p.inType)) s cs

/-- The trees at some places; those without a place of their own are at the last one. -/
def resolveMany (last : Place) : List Place → List Tree → StateM Nat (List Tree)
  | _, [] => return []
  | [], t :: ts => do
    let t ← resolveAt last t
    return t :: (← resolveMany last [] ts)
  | p :: ps, t :: ts => do
    let t ← resolveAt p t
    return t :: (← resolveMany p ps ts)
end

/-- The tree of a module or script with the scopes of its names. -/
def Tree.resolve (t : Tree) : Tree :=
  let top : Place := ⟨[⟨1, bodyNames t.children⟩], false, .plain⟩
  (resolveAt top t 2).1

end EnvInline.Syntax
