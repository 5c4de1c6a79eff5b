import EnvInline.Syntax.Grammar.Literal
import EnvInline.Syntax.Grammar.Pattern

/-!
# Parameters

The parameters of functions, methods, constructors and signatures.
-/

namespace EnvInline.Syntax

/-- Reads the default of a parameter after its `=`. -/
def parameterDefault (start : Nat) (pattern : Tree) : P Tree := do
  let value ← rule .assignment
  if (← context).inAmbient then report start .parameterInitializer
  nodeFrom start .defaultPattern [pattern, value]

/-- Reads the question mark of a parameter that may be left out. -/
def parameterMark (pattern : Tree) : P (Tree × Bool) := do
  if !(← eat "?") then return (pattern, false)
  match pattern.kind with
  | .binding .. | .arrayPattern _ | .objectPattern _ => return (pattern.markOptional, true)
  | _ =>
    if (← context).inAmbient then return (pattern, false)
    refuseAt (← previousSpan).lo .bindingPatternOptional

/-- Reads the type of a parameter. -/
def parameterType (pattern : Tree) : P Tree := do
  let type ← colonType?
  match pattern.kind with
  | .arrayPattern _ | .objectPattern _ =>
    let pattern := pattern.withType type
    if type.isAbsent then return pattern
    return pattern.withSpan ⟨pattern.span.lo, ← previousEnd⟩
  | .defaultPattern =>
    if type.isPresent then report pattern.span.lo .typeAfterDefault
    return pattern
  | _ => return pattern.withType type

/-- Reads a parameter that is no rest parameter. -/
def plainParameter : P Tree := do
  let start ← currentStart
  let hasModifier ← strayModifier
  let mut pattern ← rule .bindingElement
  let mut isOptional := false
  if ← hasTypes then
    (pattern, isOptional) ← parameterMark pattern
    pattern ← parameterType pattern
  if ← eat "=" then
    if isOptional then report pattern.span.lo .optionalWithInitializer
    pattern ← parameterDefault start pattern
  if hasModifier then report start .parameterPropertyMisplaced
  return pattern

/-- Reads a rest parameter after its dots. -/
def restParameter (start : Nat) : P Tree := do
  let mut pattern ← rule (.bindingPattern false)
  if ← eat "=" then
    let place := pattern.span.lo
    let value ← rule .assignment
    report place .restWithDefault
    pattern ← nodeFrom place .defaultPattern [pattern, value]
  let type ← colonType?
  let node ← nodeFrom start .restPattern [pattern, type]
  if ← hasTypes <&&> eat "?" then report (← previousSpan).lo .restOptional
  return node

/-- Reads parameters up to the closing parenthesis; `plain` reads one that is no rest parameter. -/
def parametersWith (plain : P Tree) : P (List Tree) := do
  let mut parameters := []
  let mut restAt : Option Nat := none
  for _ in ← turns do
    if (← atEnd) || (← at? ")") then break
    if let some place := restAt then report place .restParameterLast
    let start ← currentStart
    let isRest ← eat "..."
    if isRest then
      parameters := (← restParameter start) :: parameters
      restAt := some start
    else
      parameters := (← plain) :: parameters
    if !(← at? ")") then
      expect ","
      if ← pure isRest <&&> at? ")" then report (← previousSpan).lo .commaAfterRest
  return parameters.reverse

/-- Reads the parameters of a function. -/
def functionParameters : P (List Tree) := parametersWith plainParameter

/-- Reads a parameter of a constructor; with modifiers it declares a member. -/
def constructorParameter : P Tree := do
  let start ← currentStart
  if !(← hasTypes) then return ← plainParameter
  let access ← accessModifier?
  let isOverride := (← modifier? ["override"] false).isSome
  let isReadonly := (← modifier? ["readonly"] false).isSome
  let pattern ← plainParameter
  if access.isNone && !isOverride && !isReadonly then return pattern
  match pattern.kind with
  | .binding .. | .defaultPattern =>
    nodeFrom start
      (.parameterProperty { Modifiers.none with
        access := access, isOverride := isOverride, isReadonly := isReadonly })
      [pattern]
  | _ => refuseAt pattern.span.lo .parameterPropertyPattern

/-- Reads the parameters of a constructor. -/
def constructorParameters : P (List Tree) := parametersWith constructorParameter

/-- Reads the parameters of a signature with the closing parenthesis; they have no defaults. -/
def signatureParameters : P (List Tree) := do
  let parameters ← functionParameters
  if parameters.any (·.kind == .defaultPattern) then
    refuseToken
      ("an identifier, [ for an array pattern, \x7b for an object patter or ... for a rest " ++
        "pattern")
  expect ")"
  return parameters

/-- All parameters are plain names. -/
def areSimple (parameters : List Tree) : Bool :=
  parameters.all fun p =>
    match p.kind with
    | .binding .. => true
    | _ => false

end EnvInline.Syntax
