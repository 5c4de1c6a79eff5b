import EnvInline.Syntax.Grammar.Member
import EnvInline.Syntax.Grammar.Object

/-!
# Classes

A class from its name on, and its members with their modifiers.
-/

namespace EnvInline.Syntax

/-- Reads an interface or class named after `implements` or `extends`. -/
def heritage : P Tree := do
  let start ← currentStart
  let name ← anyName
  let e ← subscripts (referenceNode name) true true
  match e with
  | .node .instantiation s [inner, arguments] => return .node .heritage s [inner, arguments]
  | e =>
    if !(e.kind matches .reference _ | .member) then report start .interfaceHeritage
    let arguments ← if ← at? "<" then rule .typeArguments else pure .none
    nodeFrom start .heritage [e, arguments]

/-- Reads interfaces or classes with commas between them. -/
def heritages : P (List Tree) := separated (atAny ["\x7b", "implements", "extends"]) heritage

/-- Reads a superclass with its type arguments. -/
def superclass : P (Tree × Tree) := do
  let e ← rule .leftHandSide
  match e with
  | .node .instantiation _ [inner, arguments] => return (inner, arguments)
  | e =>
    if ← hasTypes <&&> at? "<" then return (e, ← rule .typeArguments)
    return (e, .none)

/-! ### Members -/

/-- What has been read of a member before its key. -/
structure MemberHead where
  start : Nat
  mods : Modifiers
  isAccessor : Bool
  /-- where the last modifier stands -/
  modifierAt : Option Nat
  /-- where `static` stands -/
  staticAt : Option Nat
  /-- where `declare` stands -/
  declareAt : Option Nat

/-- A method follows the key. -/
def atMethod : P Bool := do
  if ← at? "(" then return true
  hasTypes <&&> (at? "<" <||> atToken .tagStart)

/-- A property ends or goes on after the key; `newline` tells whether the end of a line may end
it. -/
def atProperty (newline : Bool) : P Bool := do
  if ← hasTypes <&&> (at? "!" <||> at? ":") then return true
  if (← at? "=") || (← at? "\x7d") then return true
  if newline then atStatementEnd else at? ";"

/-- The key names the constructor. -/
def isConstructorKey (key : Tree) : Bool :=
  match key.kind with
  | .name w => w == "constructor"
  | .stringLiteral w _ => w == "constructor"
  | _ => false

/-- The key is a private name. -/
def isPrivateKey (key : Tree) : Bool :=
  match key.kind with
  | .privateName _ => true
  | _ => false

/-- Reads the key of a member. -/
def classKey : P Tree := do
  if !(← at? "#") then return ← propertyKey
  let key ← privateName
  if key.kind == .privateName "constructor" then report key.span.lo .privateConstructor
  return key

/-- Reads a method after its key. -/
def methodAfter (head : MemberHead) (word : Option String) (mode : FunctionMode)
    (parameters : P (List Tree)) (key : Tree) : P Tree := do
  let f ← withContext ({ · with inClassField := false }) (functionFrom head.start mode parameters)
  if isPrivateKey key then
    if head.mods.access.isSome then report head.start .accessOnPrivateName
  else if head.mods.isAbstract && (f.child 3).isPresent then report head.start .abstractWithBody
  nodeFrom head.start (.classMethod word head.mods) [key, f]

/-- Checks the modifiers in front of a private property. -/
def checkPrivateProperty (head : MemberHead) (key : Tree) : P Unit := do
  if !isPrivateKey key then return ()
  if head.mods.access.isSome then report key.span.lo .accessOnPrivateName
  if head.mods.isDeclare then report key.span.lo (.modifierOnPrivateName "declare")
  if head.mods.isAbstract then report key.span.lo (.modifierOnPrivateName "abstract")

/-- Reads a property after its key. -/
def propertyAfter (head : MemberHead) (key : Tree) : P Tree := do
  if isConstructorKey key then refuseAt key.span.lo .constructorField
  checkPrivateProperty head key
  let isDefinite ← if (← hasTypes) && !head.mods.isOptional then eat "!" else pure false
  let type ← colonType?
  let mods := { head.mods with isDefinite := isDefinite }
  withContext ({ · with allowIn := true, inClassField := true }) do
    let value ← if ← eat "=" then rule .assignment else pure .none
    if head.mods.isAbstract && value.isPresent then report key.span.lo .abstractWithInitializer
    if !(← eatStatementEnd) then report (← currentSpan).lo .semicolonExpected
    let kind := if head.isAccessor then .accessorProperty mods else .classProperty mods
    nodeFrom head.start kind [key, type, value]

/-- Reads a member whose key turned out to be a word that could have been a modifier. -/
def memberNamed? (head : MemberHead) (word : String) (span : Span) : P (Option Tree) := do
  let key := nameNode (word, span)
  let readMark : P MemberHead := do
    let isOptional ← if ← hasTypes then eat "?" else pure false
    return { head with mods := { head.mods with isOptional := isOptional } }
  if ← atMethod then
    let head ← readMark
    return some (← methodAfter head none ⟨false, false⟩ functionParameters key)
  let isProperty ←
    if ← atProperty false then pure true
    else if word == "static" then pure ((← hasTypes) && (← at? "?"))
    else pure false
  if isProperty then
    let head ← readMark
    return some (← propertyAfter head key)
  return none

/-- Takes a modifier in front of a member into account. -/
def memberModifier (head : MemberHead) (word : String) : P MemberHead := do
  let place := (← previousSpan).lo
  let m := head.mods
  let head := { head with modifierAt := some place }
  match word with
  | "abstract" =>
    if m.isAbstract then report place (.duplicateModifier "abstract")
    else if m.isOverride then report place (.modifierOrder "abstract" "override")
    return { head with mods := { m with isAbstract := true } }
  | "override" =>
    if m.isOverride then report place (.duplicateModifier "override")
    else if m.isReadonly then report place (.modifierOrder "override" "readonly")
    else if m.isDeclare then report place (.modifierTogether "override" "declare")
    else if !(← context).hasSuperclass then report place .overrideWithoutExtends
    return { head with mods := { m with isOverride := true } }
  | "readonly" =>
    if m.isReadonly then report place (.duplicateModifier "readonly")
    return { head with mods := { m with isReadonly := true } }
  | _ =>
    if m.isOverride then report place (.modifierOrder "static" "override")
    return { head with mods := { m with isStatic := true } }

/-- Reads a static block. -/
def staticBlock (start : Nat) : P Tree := do
  let block ←
    withContext ({ · with inStaticBlock := true, inClassField := true }) (rule (.block false))
  nodeFrom start .staticBlock [block]

/-- Reads the type parameters that a constructor may not have. -/
def skipConstructorTypes : P Unit := do
  if ← notM hasTypes <||> notM (at? "<") then return ()
  let start ← currentStart
  if ← aheadIs ">" then
    bump
    report start .emptyTypeParameters
    report (← currentStart) .typeParametersOnConstructor
    bump
  else
    let parameters ← rule (.typeParameters false true)
    for p in parameters.children do
      report p.span.lo .typeParametersOnConstructor

/-- Checks the parameters of a constructor without a body. -/
def checkBodiless (parameters : List Tree) : P Unit := do
  for p in parameters do
    if p.kind matches .parameterProperty _ then report p.span.lo .parameterPropertyMisplaced
  if ← hasTypes then
    for p in parameters do
      if p.kind == .defaultPattern then report p.span.lo .parameterInitializer
      else if p.kind matches .parameterProperty _ then
        if (p.child 0).kind == .defaultPattern then
          report (p.child 0).span.lo .parameterInitializer

/-- Reads a constructor after its key. -/
def constructorAfter (head : MemberHead) (key : Tree) : P Tree := do
  if (← hasTypes) && head.mods.isOverride then
    report head.start (.modifierOnConstructor "override")
  skipConstructorTypes
  expect "("
  let parameters ← constructorParameters
  expect ")"
  if ← hasTypes <&&> at? ":" then
    let type ← colonType?
    report (type.child 0).span.lo .typeOnConstructor
  let body ← functionBody ⟨false, false⟩ false (areSimple parameters)
  if body.isAbsent then checkBodiless parameters
  if let some place := head.staticAt then report place (.modifierOnConstructor "static")
  if head.mods.isAbstract then
    if let some place := head.modifierAt then report place .abstractMisplaced
  nodeFrom head.start (.constructor head.mods) [key, .many parameters, body]

/-- Reads an asynchronous method after `async`. -/
def asyncMethod (head : MemberHead) : P Tree := do
  let isOverride := (← modifier? ["override"] false).isSome
  if isOverride then report (← previousSpan).lo (.modifierOrder "override" "async")
  let isGenerator ← eat "*"
  let key ← classKey
  if isConstructorKey key then refuseAt key.span.lo .asyncConstructor
  if head.mods.isReadonly then report head.start .readonlyMethod
  let marked ← if (← hasTypes) && !head.mods.isOptional then eat "?" else pure false
  let mods := { head.mods with
    isOverride := head.mods.isOverride || isOverride
    isOptional := head.mods.isOptional || marked }
  methodAfter { head with mods := mods } none ⟨true, isGenerator⟩ functionParameters key

/-- Reads a getter or a setter after its word, which stands at `place`. -/
def classAccessor (head : MemberHead) (word : String) (place : Nat) : P Tree := do
  let key ← classKey
  if head.mods.isReadonly then report place .readonlyAccessor
  if isConstructorKey key then report place .accessorConstructor
  let parameters := if word == "get" then getterParameters place else setterParameters place
  methodAfter head (some word) ⟨false, false⟩ parameters key

/-- Reads a member from its key on. -/
def keyedMember (head : MemberHead) : P Tree := do
  let key ← classKey
  let isOptional ← if ← hasTypes then eat "?" else pure false
  let head := { head with mods := { head.mods with isOptional := isOptional } }
  if ← atMethod then
    if let some place := head.declareAt then report place .declareOnMember
    if head.mods.isReadonly then refuseAt head.start .readonlyMethod
    if isConstructorKey key then return ← constructorAfter head key
    return ← methodAfter head none ⟨false, false⟩ functionParameters key
  let word :=
    match key.kind with
    | .name w => w
    | _ => ""
  let starOnNextLine := (← afterBreak) && (← at? "*")
  let isAccessor :=
    (word == "get" || word == "set") && !(← atProperty false) && !starOnNextLine
  if ← pure (!isAccessor) <&&> atProperty true then return ← propertyAfter head key
  if ← pure (word == "async") <&&> notM afterBreak then return ← asyncMethod head
  if isAccessor then return ← classAccessor head word key.span.lo
  refuseToken "* for generator, private key, identifier or async"

/-- Reads a member after `declare`, the access modifier, `static` and `accessor`. -/
def memberAfterHead (head : MemberHead) : P Tree := do
  let mut head := head
  for _ in ← turns do
    match ← modifier? ["abstract", "readonly", "override", "static"] true with
    | some w => head ← memberModifier head w
    | none => break
  if ← hasTypes <&&> pure (!head.isAccessor) <&&> pure (!head.mods.isReadonly) <&&> at? "accessor" then
    if !(← aheadIs "(") then
      bump
      head := { head with isAccessor := true }
  if ← pure head.mods.isStatic <&&> at? "\x7b" then
    if let some place := head.modifierAt then report place .modifiersNotHere
    return ← staticBlock head.start
  if ← at? "static" <&&> aheadIs "\x7b" then
    if let some place := head.modifierAt then report place .modifiersNotHere
    if let some place := head.staticAt then report place .modifiersNotHere
    bump
    return ← staticBlock head.start
  let m := head.mods
  if (← hasTypes) && !m.isAbstract && !m.isOverride && m.access.isNone then
    if let some t ← indexSignature? head.start m.isReadonly m.isStatic then return t
  if ← eat "*" then
    let key ← classKey
    if m.isReadonly then report head.start .readonlyMethod
    if isConstructorKey key then report head.start .generatorConstructor
    return ← methodAfter head none ⟨false, true⟩ functionParameters key
  keyedMember head

/-- Reads a word in front of a member; it may be the key instead, and then the member is read. -/
def memberWord (head : MemberHead) (word : String) (set : MemberHead → Nat → MemberHead) :
    P (MemberHead ⊕ Tree) := do
  let place ← currentStart
  if !(← eat word) then return .inl head
  match ← memberNamed? head word (← previousSpan) with
  | some t => return .inr t
  | none => return .inl (set head place)

/-- Reads a member of a class. -/
def classMember : P Tree := do
  let start ← currentStart
  let bare : MemberHead := ⟨start, Modifiers.none, false, none, none, none⟩
  let types ← hasTypes
  let declared (h : MemberHead) (place : Nat) : MemberHead :=
    { h with mods := { h.mods with isDeclare := true }, declareAt := some place }
  let mut head := bare
  if types then
    match ← memberWord head "declare" declared with
    | .inr t => return t
    | .inl h => head := h
    let access ← accessModifier?
    head := { head with mods := { head.mods with access := access } }
    if ← pure (!head.mods.isDeclare) <&&> at? "declare" <&&> wordAhead then
      let place ← currentStart
      bump
      head := declared head place
  match ← memberWord head "static" fun h place =>
      { h with mods := { h.mods with isStatic := true }, staticAt := some place } with
  | .inr t => return t
  | .inl h => head := h
  if types then
    match ← memberWord head "accessor" fun h _ => { h with isAccessor := true } with
    | .inr t => return t
    | .inl h => head := h
  memberAfterHead head

/-- The members that only an abstract class may have. -/
def isAbstractMember (t : Tree) : Bool :=
  match t.kind with
  | .classMethod _ m => m.isAbstract
  | .classProperty m => m.isAbstract
  | .accessorProperty m => m.isAbstract
  | _ => false

/-- Reads the members of a class. -/
def classMembers : P (List Tree) := do
  let mut members := []
  let mut hasConstructor := false
  for _ in ← turns do
    if (← atEnd) || (← at? "\x7d") then break
    if ← eat ";" then
      members := .node .emptyMember (← previousSpan) [] :: members
      continue
    let m ← withContext ({ · with allowSuper := true }) classMember
    if (m.kind matches .constructor _) && (m.child 2).isPresent && !(← context).inAmbient then
      if hasConstructor then report m.span.lo .duplicateConstructor
      hasConstructor := true
    members := m :: members
  return members.reverse

/-! ### Classes -/

/-- Names that no class may have. -/
def predefinedTypes : List String :=
  ["any", "bigint", "boolean", "never", "number", "object", "string", "symbol", "undefined",
    "unknown"]

/-- Reads the clauses between the name of a class and its members. -/
def classClauses : P (Tree × Tree × List Tree) := do
  let types ← hasTypes
  let mut base : Tree × Tree := (.none, .none)
  if ← eat "extends" then
    base ← superclass
    if ← pure types <&&> eat "," then
      for t in ← heritages do
        report t.span.lo .singleClassExtends
  if ← eat "extends" then
    report (← previousSpan).lo .extendsSeen
    let _ ← superclass
  let mut interfaces := []
  if ← pure types <&&> eat "implements" then interfaces ← heritages
  if ← pure types <&&> eat "implements" then
    report (← previousSpan).lo .implementsSeen
    let _ ← heritages
  if ← pure types <&&> eat "extends" then
    report (← previousSpan).lo .extendsAfterImplements
    let late ← superclass
    if base.1.isAbsent then base := late
  return (base.1, base.2, interfaces)

/-- Reads a class from the word `class` on: its name and the rest. -/
def classFrom (start : Nat) (nameRequired isAbstract : Bool) : P (Tree × Tree) :=
  withContext ({ · with strict := true, inClass := true }) do
    expect "class"
    let name ← if nameRequired then some <$> boundName true else boundName?
    if let some (w, span) := name then
      if (← hasTypes) && predefinedTypes.contains w then report span.lo .invalidClassName
    let typeParams ← typeParameters? true true
    let (base, baseArguments, interfaces) ← classClauses
    expect "\x7b"
    let members ← withContext ({ · with hasSuperclass := base.isPresent }) classMembers
    if ← atEnd then
      let got ← currentSpelling
      report (← currentSpan).lo (.expectedToken "\x7d" got)
    else expect "\x7d"
    if !isAbstract then
      for m in members do
        if isAbstractMember m then report m.span.lo .abstractOutsideAbstractClass
    let body ← nodeFrom start (.classBody isAbstract)
      [typeParams, base, baseArguments, .many interfaces, .many members]
    return (optionalBinding name, body)

/-- Reads a class as an expression. -/
def classExpression : P Tree := do
  let start ← currentStart
  let (name, body) ← classFrom start false false
  nodeFrom start .classExpression [name, body]

/-- Reads a class as a declaration. -/
def classDeclaration (start : Nat) (nameRequired isAbstract : Bool) : P Tree := do
  let (name, body) ← classFrom start nameRequired isAbstract
  nodeFrom start (.classDeclaration false) [name, body]

end EnvInline.Syntax
