import EnvInline.Number.Binary64

/-!
# Syntax trees

A module or script is a tree of nodes. A node has a kind, the stretch of text it stands for and its
children in the order of the text; what a kind says of its children is written beside it. A part
that may be missing is a child of kind `absent`, and a sequence of parts is a child of kind `list`,
so that each kind has a fixed number of children.

Names stand in different kinds by their role: a `reference` is read, a `target` is assigned, a
`binding` is declared, a plain `name` is none of these (a member, a key, a label, a type).
-/

namespace EnvInline.Syntax

/-- A stretch of text, from the byte `lo` up to the byte `hi`. -/
structure Span where
  lo : Nat
  hi : Nat
deriving DecidableEq, Repr, Inhabited

/-- A name with the scope that declares it. Two identifiers are the same variable when both agree;
scope 0 stands for no declaration in sight. -/
structure Ident where
  name : String
  scope : Nat
deriving DecidableEq, Repr, Inhabited

/-- The name as long as no scope is known. -/
def Ident.unresolved (name : String) : Ident := ⟨name, 0⟩

/-- Whether a function is asynchronous, and whether it is a generator. -/
structure FunctionMode where
  isAsync : Bool
  isGenerator : Bool
deriving DecidableEq, Repr, Inhabited

/-- The modifiers of a class member or of a constructor parameter. -/
structure Modifiers where
  access : Option String
  isStatic : Bool
  isAbstract : Bool
  isOverride : Bool
  isReadonly : Bool
  isDeclare : Bool
  isOptional : Bool
  isDefinite : Bool
deriving DecidableEq, Repr, Inhabited

/-- No modifier at all. -/
def Modifiers.none : Modifiers := ⟨.none, false, false, false, false, false, false, false⟩

/-- The sign in front of a `readonly` or `?` of a mapped type. -/
inductive MappedSign where
  | absent
  | bare
  | plus
  | minus
deriving DecidableEq, Repr, Inhabited

/-- What a node is. -/
inductive Kind where
  /-- a part that is missing -/
  | absent
  /-- a sequence of parts -/
  | list
  -- ## Names
  /-- a variable that is read -/
  | reference (id : Ident)
  /-- a variable that is assigned -/
  | target (id : Ident)
  /-- a variable that is declared: its type -/
  | binding (id : Ident) (isOptional : Bool)
  /-- a name that is no variable -/
  | name (text : String)
  /-- `#name` -/
  | privateName (text : String)
  -- ## Literals
  | nullLiteral
  | booleanLiteral (value : Bool)
  /-- a number, with its spelling if it comes from a text -/
  | numberLiteral (value : Binary64) (raw : Option String)
  | bigintLiteral (raw : String)
  /-- a string, with its spelling if it comes from a text -/
  | stringLiteral (value : String) (raw : Option String)
  | regexLiteral (pattern flags : String)
  /-- text and expressions in turn -/
  | template
  /-- the text between two expressions of a template -/
  | templateText (raw : String)
  /-- tag, type arguments, template -/
  | taggedTemplate
  -- ## Expressions
  | thisWord
  | superWord
  /-- the word `import` in a call -/
  | importWord
  | newTarget
  | importMeta
  /-- elements; a hole is `absent` -/
  | array
  /-- members -/
  | object
  /-- expression -/
  | spread
  /-- key, value -/
  | property
  /-- a member that is only a variable -/
  | shorthand (id : Ident)
  /-- a variable and a value, allowed where a pattern may still follow: value -/
  | coverDefault (id : Ident)
  /-- key, type, body -/
  | getter
  /-- key, parameter, body -/
  | setter
  /-- key, function -/
  | method
  /-- an expression as key: expression -/
  | computedKey
  /-- type parameters, parameters, return type, body -/
  | function (mode : FunctionMode)
  /-- name, function -/
  | functionExpression
  /-- type parameters, parameters, return type, body -/
  | arrow (mode : FunctionMode)
  /-- name, class -/
  | classExpression
  /-- operand -/
  | unary (op : String)
  /-- operand -/
  | update (op : String) (before : Bool)
  /-- left, right -/
  | binary (op : String)
  /-- target, value -/
  | assignment (op : String)
  /-- condition, then, else -/
  | conditional
  /-- object, name -/
  | member
  /-- object, expression -/
  | index
  /-- `?.` before a name: object, name -/
  | chainMember (isOptional : Bool)
  /-- `?.` before an index: object, expression -/
  | chainIndex (isOptional : Bool)
  /-- `?.` before a call: callee, type arguments, arguments -/
  | chainCall (isOptional : Bool)
  /-- callee, type arguments, arguments -/
  | call
  /-- callee, type arguments, arguments -/
  | newCall
  /-- expressions -/
  | sequence
  /-- expression -/
  | paren
  /-- argument -/
  | yieldExpression (delegate : Bool)
  /-- argument -/
  | awaitExpression
  /-- expression, type -/
  | asType
  /-- expression -/
  | asConst
  /-- expression, type -/
  | satisfies
  /-- expression -/
  | nonNull
  /-- type, expression -/
  | typeAssertion
  /-- expression -/
  | constAssertion
  /-- expression, type arguments -/
  | instantiation
  -- ## Markup
  /-- opening, children, closing -/
  | element
  /-- children -/
  | fragment
  /-- name, type arguments, attributes -/
  | openingTag (selfClosing : Bool)
  /-- name -/
  | closingTag
  /-- name, value -/
  | tagAttribute
  /-- expression -/
  | spreadAttribute
  /-- expression -/
  | container
  /-- nothing between the braces of a container -/
  | emptyExpression
  /-- expression -/
  | spreadChild
  | markupText (raw : String)
  /-- the name of an element -/
  | tagName (id : Ident)
  /-- object, name -/
  | tagMember
  /-- prefix, name -/
  | tagNamespace
  -- ## Patterns
  /-- elements, type -/
  | arrayPattern (isOptional : Bool)
  /-- members, type -/
  | objectPattern (isOptional : Bool)
  /-- pattern, type -/
  | restPattern
  /-- pattern, value -/
  | defaultPattern
  /-- key, pattern -/
  | patternProperty
  /-- variable, default -/
  | patternShorthand
  /-- parameter -/
  | parameterProperty (mods : Modifiers)
  -- ## Statements
  /-- items -/
  | moduleProgram (shebang : Option String)
  /-- items -/
  | scriptProgram (shebang : Option String)
  /-- statements -/
  | block
  | emptyStatement
  | debuggerStatement
  /-- expression -/
  | expressionStatement
  /-- object, body -/
  | withStatement
  /-- argument -/
  | returnStatement
  /-- label, body -/
  | labeled
  /-- label -/
  | breakStatement
  /-- label -/
  | continueStatement
  /-- condition, then, else -/
  | ifStatement
  /-- subject, cases -/
  | switchStatement
  /-- test, statements -/
  | switchCase
  /-- argument -/
  | throwStatement
  /-- block, clause, finalizer -/
  | tryStatement
  /-- parameter, block -/
  | catchClause
  /-- condition, body -/
  | whileLoop
  /-- body, condition -/
  | doLoop
  /-- start, condition, step, body -/
  | forLoop
  /-- head, object, body -/
  | forInLoop
  /-- head, object, body -/
  | forOfLoop (isAwait : Bool)
  /-- declarators -/
  | variableDeclaration (word : String) (isDeclare : Bool)
  /-- pattern, value -/
  | declarator (isDefinite : Bool)
  /-- name, function -/
  | functionDeclaration (isDeclare : Bool)
  /-- name, class -/
  | classDeclaration (isDeclare : Bool)
  -- ## Classes
  /-- type parameters, superclass, its type arguments, interfaces, members -/
  | classBody (isAbstract : Bool)
  /-- key, parameters, body -/
  | constructor (mods : Modifiers)
  /-- key, function -/
  | classMethod (word : Option String) (mods : Modifiers)
  /-- key, type, value -/
  | classProperty (mods : Modifiers)
  /-- key, type, value -/
  | accessorProperty (mods : Modifiers)
  /-- block -/
  | staticBlock
  | emptyMember
  -- ## Imports and exports
  /-- specifiers, source -/
  | importDeclaration (typeOnly : Bool)
  /-- local, imported -/
  | importNamed (typeOnly : Bool)
  /-- local -/
  | importDefault
  /-- local -/
  | importNamespace
  /-- declaration -/
  | exportDeclaration
  /-- specifiers, source -/
  | exportNamed (typeOnly : Bool)
  /-- local, exported -/
  | exportSpecifier (typeOnly : Bool)
  /-- name -/
  | exportNamespace
  /-- source -/
  | exportAll (typeOnly : Bool)
  /-- expression -/
  | exportDefaultExpression
  /-- declaration -/
  | exportDefaultDeclaration
  /-- name, reference -/
  | importEquals (isExport typeOnly : Bool)
  /-- source -/
  | externalModule
  /-- expression -/
  | exportAssignment
  /-- name -/
  | exportAsNamespace
  -- ## Type declarations
  /-- name, type parameters, heritage, members -/
  | interfaceDeclaration (isDeclare : Bool)
  /-- name, type parameters, type -/
  | typeAlias (isDeclare : Bool)
  /-- name, members -/
  | enumDeclaration (isDeclare isConst : Bool)
  /-- key, value -/
  | enumMember
  /-- name, body -/
  | namespaceDeclaration (isDeclare isGlobal usesModuleWord : Bool)
  /-- items -/
  | namespaceBody
  /-- name, body of `a.b` in `namespace a.b` -/
  | namespaceTail
  -- ## Types
  /-- type, after a colon -/
  | colonType
  | keywordType (word : String)
  | thisType
  /-- name, type arguments -/
  | typeReference
  /-- left, right -/
  | qualifiedName
  /-- expression, type arguments -/
  | heritage
  /-- name or import, type arguments -/
  | typeQuery
  /-- source, qualifier, type arguments -/
  | importType
  /-- members -/
  | typeLiteral
  /-- element -/
  | arrayType
  /-- elements -/
  | tupleType
  /-- label, type -/
  | tupleElement
  /-- type -/
  | optionalType
  /-- type -/
  | restType
  /-- types -/
  | unionType
  /-- types -/
  | intersectionType
  /-- check, extends, then, else -/
  | conditionalType
  /-- type parameter -/
  | inferType
  /-- type -/
  | parenType
  /-- type -/
  | typeOperator (word : String)
  /-- object, index -/
  | indexedAccess
  /-- type parameter, name type, type -/
  | mappedType (readonly optional : MappedSign)
  /-- literal -/
  | literalType
  /-- text and types in turn -/
  | templateType
  /-- name, type -/
  | typePredicate (asserts : Bool)
  /-- type parameters, parameters, return type -/
  | functionType
  /-- type parameters, parameters, return type -/
  | constructorType (isAbstract : Bool)
  /-- parameters -/
  | typeParameters
  /-- name, constraint, default -/
  | typeParameter (isConst isIn isOut : Bool)
  /-- types -/
  | typeArguments
  -- ## Members of types
  /-- type parameters, parameters, return type -/
  | callSignature
  /-- type parameters, parameters, return type -/
  | constructSignature
  /-- key, type -/
  | propertySignature (isReadonly isComputed isOptional : Bool)
  /-- key, type parameters, parameters, return type -/
  | methodSignature (isComputed isOptional : Bool)
  /-- key, return type -/
  | getterSignature (isComputed : Bool)
  /-- key, parameter -/
  | setterSignature (isComputed : Bool)
  /-- parameters, type -/
  | indexSignature (isStatic isReadonly : Bool)
deriving DecidableEq, Repr, Inhabited

/-- A node with its kind, its place in the text and its children. -/
inductive Tree where
  | node (kind : Kind) (span : Span) (children : List Tree)
deriving Repr, Inhabited

namespace Tree

/-- The kind of a node. -/
def kind : Tree → Kind
  | node k _ _ => k

/-- The place of a node. -/
def span : Tree → Span
  | node _ s _ => s

/-- The children of a node. -/
def children : Tree → List Tree
  | node _ _ cs => cs

/-- A part that is missing. -/
def none : Tree := node .absent ⟨0, 0⟩ []

/-- A sequence of parts. -/
def many (cs : List Tree) : Tree := node .list ⟨0, 0⟩ cs

/-- The part is missing. -/
def isAbsent (t : Tree) : Bool := t.kind == .absent

/-- The part is there. -/
def isPresent (t : Tree) : Bool := !t.isAbsent

/-- The child at a place, `absent` beyond the last. -/
def child (t : Tree) (i : Nat) : Tree := t.children.getD i none

/-- The same node at another place. -/
def withSpan (t : Tree) (s : Span) : Tree := node t.kind s t.children

/-- The parts of a sequence at a place among the children. -/
def parts (t : Tree) (i : Nat) : List Tree := (t.child i).children

mutual
/-- How many nodes lie on the longest way down. -/
def depth : Tree → Nat
  | node _ _ cs => depthMany cs + 1

/-- The greatest depth among some trees. -/
def depthMany : List Tree → Nat
  | [] => 0
  | t :: ts => max (depth t) (depthMany ts)
end

end Tree

end EnvInline.Syntax
