import EnvInline.Syntax.Comment
import EnvInline.Syntax.Frame

/-!
# The state of reading

Reading a text is a state that moves forward over its characters and tokens (`State`), the rules
that hold at a place (`Context`), and computations over both that may fail with a fault (`P`).
The grammar is recursive; a rule calls another through the table of rules in its surroundings
(`Surroundings.run`), which lets each rule be an ordinary definition. The recursion is closed in
`EnvInline.Syntax.Parse`.
-/

namespace EnvInline.Syntax

/-- The dialect of a text. -/
structure Dialect where
  /-- types may be written -/
  types : Bool
  /-- elements may be written -/
  markup : Bool
deriving DecidableEq, Repr, Inhabited

/-- The rules that hold at a place of the text. -/
structure Context where
  ignoreFaults : Bool
  isModule : Bool
  strict : Bool
  forHead : Bool
  allowIn : Bool
  inAsync : Bool
  inGenerator : Bool
  inStaticBlock : Bool
  allowContinue : Bool
  allowBreak : Bool
  inType : Bool
  anglesAreOperators : Bool
  inAmbient : Bool
  inConditional : Bool
  expectColon : Bool
  inClass : Bool
  inClassField : Bool
  inFunction : Bool
  insideFunction : Bool
  inParameters : Bool
  hasSuperclass : Bool
  inPropertyName : Bool
  forcedMarkup : Bool
  allowSuper : Bool
  ignoreElse : Bool
  noConditionalTypes : Bool
deriving DecidableEq, Repr, Inhabited

/-- The rules at the start of a text. -/
def Context.initial (isModule : Bool) : Context where
  ignoreFaults := false
  isModule := isModule
  strict := isModule
  forHead := false
  allowIn := false
  inAsync := false
  inGenerator := false
  inStaticBlock := false
  allowContinue := false
  allowBreak := false
  inType := false
  anglesAreOperators := false
  inAmbient := false
  inConditional := false
  expectColon := false
  inClass := false
  inClassField := false
  inFunction := false
  insideFunction := false
  inParameters := false
  hasSuperclass := false
  inPropertyName := false
  forcedMarkup := false
  allowSuper := false
  ignoreElse := false
  noConditionalTypes := false

/-- How far reading has come. -/
structure State where
  -- ## Characters
  /-- the text not read yet -/
  rest : List Char
  /-- the place of `rest`, in bytes -/
  pos : Nat
  -- ## Tokens
  /-- where the token being read starts -/
  start : Nat
  /-- the end of the last token read -/
  lastEnd : Nat
  /-- no token has been read -/
  isFirst : Bool
  /-- a line break stands before the token being read -/
  afterBreak : Bool
  /-- an expression may start here -/
  mayStart : Bool
  /-- what is open here -/
  frames : List Frame
  /-- the token read last -/
  last : Option Token
  /-- the next token is a regular expression that starts at this place -/
  regexAt : Option Nat
  /-- where the template opened last starts -/
  templateStart : Nat
  -- ## Comments
  /-- comments that wait for the token they lead, latest first -/
  waiting : List Comment
  /-- comments with a place, latest first -/
  placed : List PlacedComment
  /-- comments handed over when the end of the text was seen -/
  delivered : List PlacedComment
  -- ## Position of the grammar
  current : Option Lexeme
  ahead : Option Lexeme
  /-- the place of the token consumed last -/
  previous : Span
  context : Context
  /-- faults that reading goes on after, latest first -/
  faults : List Fault
  labels : List String
  /-- where a name may turn out to be the parameter of an arrow function -/
  arrowStart : Option Nat
  /-- commas after a spread element, with the start of the element -/
  spreadCommas : List (Nat × Nat)
deriving Repr, Inhabited

/-- The state before the first character. -/
def State.initial (text : List Char) (context : Context) : State where
  rest := text
  pos := 0
  start := 0
  lastEnd := 0
  isFirst := true
  afterBreak := false
  mayStart := true
  frames := [.block]
  last := none
  regexAt := none
  templateStart := 0
  waiting := []
  placed := []
  delivered := []
  current := none
  ahead := none
  previous := ⟨0, 0⟩
  context := context
  faults := []
  labels := []
  arrowStart := none
  spreadCommas := []

/-- The rules of the grammar that others call back to. -/
inductive Rule where
  -- ## Expressions
  | expression
  | assignment
  | unary
  /-- operators that bind more tightly than a level, after a left operand -/
  | operators (left : Tree) (level : Nat)
  | leftHandSide
  | memberOrNew (isNew : Bool)
  | classExpression
  | propertyKey
  | object
  | template (isTagged : Bool)
  | element (start : Nat)
  -- ## Patterns
  | bindingPattern (letForbidden : Bool)
  | bindingElement
  -- ## Statements
  | statement (declarations : Bool)
  | moduleItem
  | block (allowDirectives : Bool)
  -- ## Types
  | type
  | unconditionalType
  | operatorType
  | unionType
  | typeParameters (forClass forFunction : Bool)
  | typeArguments
  | typeMembers
  | namespaceTail (start : Nat)
deriving Repr, Inhabited

/-- What a computation over the text knows of its surroundings. -/
structure Surroundings where
  dialect : Dialect
  /-- the whole text -/
  text : List Char
  /-- a bound on the turns of any loop over the text -/
  turns : Nat
  /-- the rules of the grammar -/
  run : Rule → State → EStateM.Result Fault State Tree

/-- Computations over a text. -/
abbrev P := ReaderT Surroundings (EStateM Fault State)

/-- Calls a rule of the grammar. -/
def rule (r : Rule) : P Tree := fun env s => env.run r s

/-- As many turns of a loop. -/
structure Turns where
  count : Nat

/-- Runs a loop body up to `n` times. -/
def Turns.run {m : Type → Type} [Monad m] {β : Type} (body : β → m (ForInStep β)) :
    Nat → β → m β
  | 0, b => pure b
  | n + 1, b => do
    match ← body b with
    | .done b => pure b
    | .yield b => Turns.run body n b

instance {m : Type → Type} [Monad m] : ForIn m Turns Unit where
  forIn turns b body := Turns.run (fun b => body () b) turns.count b

/-- The turns that any loop over the text can need. -/
def turns : P Turns := return ⟨(← read).turns⟩

/-- Fails at a place. -/
def failAt {α : Type} (place : Nat) (cause : SyntaxError) : P α := throw ⟨place, cause⟩

/-- Reports a fault and goes on. -/
def report (place : Nat) (cause : SyntaxError) : P Unit :=
  modify fun s =>
    if s.context.ignoreFaults then s else { s with faults := ⟨place, cause⟩ :: s.faults }

/-- Reports a fault that is one in strict code only. -/
def reportStrict (place : Nat) (cause : SyntaxError) : P Unit := do
  if (← get).context.strict then report place cause

/-- The rules that hold here. -/
def context : P Context := return (← get).context

/-- The rules that hold here, as a condition. -/
def inContext (f : Context → Bool) : P Bool := return f (← get).context

/-- Types may be written. -/
def hasTypes : P Bool := return (← read).dialect.types

/-- Elements may be written. -/
def hasMarkup : P Bool := return (← read).dialect.markup

/-- Changes the rules for good. -/
def setContext (f : Context → Context) : P Unit :=
  modify fun s => { s with context := f s.context }

/-- Runs a computation under other rules. -/
def withContext {α : Type} (f : Context → Context) (p : P α) : P α := do
  let saved := (← get).context
  setContext f
  let a ← p
  setContext fun _ => saved
  return a

/-- Runs a computation that may turn out not to fit: then nothing has happened, except that
comments handed over at the end of the text stay so. Faults on the way do not count. -/
def attempt {α : Type} (p : P (Option α)) : P (Option α) := fun env s =>
  let quiet (b : Bool) (s : State) : State :=
    { s with context := { s.context with ignoreFaults := b } }
  match p env (quiet true s) with
  | .ok (some a) s' => .ok (some a) (quiet s.context.ignoreFaults s')
  | .ok none s' => .ok none { s with delivered := s'.delivered }
  | .error _ s' => .ok none { s with delivered := s'.delivered }

/-- Runs a computation and goes back to the state before it. -/
def lookahead {α : Type} (p : P α) : P α := fun env s =>
  let back (s' : State) : State := { s with delivered := s'.delivered }
  match p env { s with context := { s.context with ignoreFaults := true } } with
  | .ok a s' => .ok a (back s')
  | .error f s' => .error f (back s')

end EnvInline.Syntax
