import EnvInline.Syntax.Grammar.Markup
import EnvInline.Syntax.Grammar.Module

/-!
# Reading a text

Here the recursion of the grammar is closed: each rule is run by the definition that it stands for,
with a depth that is larger than any text can need. `parse` reads a whole module or script.
-/

namespace EnvInline.Syntax

/-- The definition that a rule stands for. -/
def Rule.read : Rule → P Tree
  | expression => Syntax.expression
  | assignment => Syntax.assignment
  | unary => Syntax.unary
  | operators left level => Syntax.operators left level
  | leftHandSide => Syntax.leftHandSide
  | memberOrNew isNew => Syntax.memberOrNew isNew
  | classExpression => Syntax.classExpression
  | propertyKey => Syntax.propertyKey
  | object => objectExpression
  | template isTagged => Syntax.template isTagged
  | element start => Syntax.element start
  | bindingPattern letForbidden => Syntax.bindingPattern letForbidden
  | bindingElement => Syntax.bindingElement
  | statement declarations => Syntax.statement declarations
  | moduleItem => Syntax.moduleItem
  | block allowDirectives => Syntax.block allowDirectives
  | type => Syntax.type
  | unconditionalType => Syntax.unconditionalType
  | operatorType => Syntax.operatorType
  | unionType => Syntax.unionType
  | typeParameters forClass forFunction => Syntax.typeParameters forClass forFunction
  | typeArguments => Syntax.typeArguments
  | typeMembers => Syntax.typeMembers
  | namespaceTail start => Syntax.namespaceTail start

/-- Runs a rule with at most `depth` rules inside one another. -/
def runRule (dialect : Dialect) (text : List Char) (turns : Nat) :
    Nat → Rule → State → EStateM.Result Fault State Tree
  | 0, _, s => .error ⟨s.pos, .unexpectedEnd⟩ s
  | depth + 1, r, s =>
    r.read ⟨dialect, text, turns, fun r s => runRule dialect text turns depth r s⟩ s

/-- A text that has been read: the tree, the comments, and the first fault that reading went on
after. -/
structure Parsed where
  tree : Tree
  comments : List PlacedComment
  fault? : Option Fault

/-- Reads the first line, if it names an interpreter. -/
def shebangLine? : P (Option String) := do
  match ← current? with
  | some (.shebang text) =>
    bump
    return some text
  | _ => return none

/-- Reads the items of a module up to the end of the text. -/
def moduleItems : P (List Tree) := do
  let mut items := []
  for _ in ← turns do
    if ← atEnd then break
    items := (← moduleItem) :: items
  return items.reverse

/-- Reads the statements of a script up to the end of the text. -/
def scriptStatements : P (List Tree) := do
  let mut items := []
  for _ in ← turns do
    if ← atEnd then break
    let t ← statement true
    if items.isEmpty && isUseStrict t then setContext ({ · with strict := true })
    items := t :: items
  return items.reverse

/-- Reads a whole text. -/
def program (isModule : Bool) : P Tree := do
  let start ← currentStart
  let shebang ← shebangLine?
  if isModule then
    let items ← moduleItems
    nodeFrom start (.moduleProgram shebang) items
  else
    let items ← scriptStatements
    nodeFrom start (.scriptProgram shebang) items

/-- Reads a text as a module or a script; the fault is the one that ended reading. -/
def parse (dialect : Dialect) (isModule : Bool) (text : String) : Except Fault Parsed :=
  let chars := text.toList
  let size := chars.length + 8
  let run := runRule dialect chars size (32 * size)
  match program isModule ⟨dialect, chars, size, run⟩ (State.initial chars (.initial isModule)) with
  | .ok tree s => .ok ⟨tree, s.delivered, s.faults.getLast?⟩
  | .error f _ => .error f

end EnvInline.Syntax
