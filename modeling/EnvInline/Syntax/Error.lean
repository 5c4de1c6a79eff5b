/-!
# Syntax errors

What can be wrong with a text, where, and how it is said. An error is a cause; its wording is in
`SyntaxError.message` alone.
-/

namespace EnvInline.Syntax

/-- Why a text is refused. -/
inductive SyntaxError where
  -- ## Characters and tokens
  | unexpectedEnd
  | unexpectedCharacter (c : Char)
  | unterminatedComment
  | unterminatedString
  | unterminatedRegex
  | unterminatedTemplate
  | unterminatedMarkup
  | expectedUnicodeEscape
  | invalidUnicodeEscape
  | invalidEscape
  | badEscape (expected : String)
  | invalidNameCharacter
  | nameAfterNumber
  | expectedDigit (radix : Nat)
  | expectedExponent
  | misplacedSeparator
  | legacyOctal
  | legacyDecimal
  | legacyOctalUnavailable
  | legacyComment
  | conflictMarker
  | escapeInReservedWord (word : String)
  | unexpectedTokenDidYouMean (suggestions : List String)
  | unknownRegexFlags
  | duplicateRegexFlag (flag : Char)
  | spaceAfterHash
  -- ## Expectations
  | expectedToken (wanted got : String)
  | unexpectedToken (got wanted : String)
  | expressionExpected
  | expectedIdent
  | identifierExpected
  | semicolonExpected
  | statementEndExpected
  | stringExpected
  -- ## Names
  | strictReservedName (name : String)
  | awaitAsName
  | evalOrArgumentsBound
  | reservedShorthand
  | argumentsInField
  | reservedWordInImport
  -- ## Expressions
  | invalidNewTarget
  | invalidSuper
  | invalidSuperCall
  | invalidImport
  | importMetaInScript
  | topLevelAwaitInScript
  | awaitOutsideAsync
  | awaitStar
  | unaryBeforePower
  | assignmentProperty
  | notAssignable
  | notSimpleTarget
  | notAPattern
  | notAnExpression
  | deletedName
  | deletedNonMember
  | arrowNotAllowed
  | getterParameters
  | setterParameters
  | setterRest
  | lineBreakBeforeArrow
  | spreadInParen
  | emptyParen
  | trailingCommaInImport
  | importWithoutArgument
  | taggedTemplateInChain
  | chainInNew
  | superCallOptional
  | mixedCoalesce
  | yieldInParameter
  | awaitInParameter
  | argumentsInStrict
  | commaInComputedKey
  -- ## Patterns and declarations
  | restNotLast
  | commaAfterRest
  | restTrailingComma
  | dotsWithoutName
  | restWithDefault
  | restOptional
  | patternWithoutInit
  | constWithoutInit
  | letDeclared
  | declarationListEmpty
  | typeAfterDefault
  | illegalDirective
  | implementationInAmbient
  -- ## Statements
  | declarationNotAllowed
  | returnNotAllowed
  | lineBreakInThrow
  | lineBreakNotPermitted
  | multipleDefaults
  | withInStrict
  | withUnsupported
  | illegalBreak
  | illegalContinue
  | unknownBreakLabel
  | unknownContinueLabel
  | duplicateLabel
  | labelRedeclared (label : String)
  | labelledFunctionInStrict
  | labelledGeneratorOrAsync
  | tooManyBindingsInHead
  | initializerInHead
  | typeInForIn
  | typeInForOf
  | patternInForIn
  | asyncInForOf
  | awaitOnlyForOf
  -- ## Classes
  | invalidClassName
  | duplicateConstructor
  | asyncConstructor
  | generatorConstructor
  | accessorConstructor
  | constructorField
  | privateConstructor
  | modifierOnPrivateName (modifier : String)
  | accessOnPrivateName
  | readonlyMethod
  | modifierOnConstructor (modifier : String)
  | duplicateModifier (modifier : String)
  | modifierOrder (first second : String)
  | modifierTogether (first second : String)
  | declareOnMember
  | declareInAmbient
  | asyncModifier
  | abstractOutsideAbstractClass
  | abstractWithBody
  | abstractWithInitializer
  | abstractMisplaced
  | overrideWithoutExtends
  | extendsSeen
  | extendsAfterImplements
  | implementsSeen
  | singleClassExtends
  | typeParametersOnConstructor
  | typeOnConstructor
  | readonlyAccessor
  | decoratorsNotAllowed
  | decoratorBeforeExport
  -- ## Imports and exports
  | nestedImportExport
  | importExportInScript
  | stringImportBinding (name : String)
  | stringExportBinding
  | exportNeedsFrom (name : String)
  | exportDefaultNeedsFrom
  | typeModifierInTypeImport
  | typeModifierInTypeExport
  -- ## Markup
  | emptyAttribute
  | invalidAttributeValue
  | closingTagExpected (tag : String)
  | closingFragmentExpected
  | adjacentMarkup
  -- ## Types
  | privateNameInInterface
  | requiredAfterOptional
  | bindingPatternOptional
  | parameterPropertyPattern
  | parameterPropertyMisplaced
  | parameterInitializer
  | optionalWithInitializer
  | restParameterLast
  | trailingCommaNotAllowed
  | interfaceName
  | interfaceHeritage
  | enumNumericName
  | enumComputedName
  | emptyTypeParameters
  | indexSignatureParameters
  | modifierOnTypeParameter (modifier : String)
  | varianceMisplaced (modifier : String)
  | constModifierMisplaced (modifier : String)
  | optionalMember
  | modifiersNotHere
  | nonNullNotAllowed (word : String)
deriving DecidableEq, Repr, Inhabited

/-- How an error is said. -/
def SyntaxError.message : SyntaxError → String
  | unexpectedEnd => "Unexpected eof"
  | unexpectedCharacter c => "Unexpected character '" ++ c.toString ++ "'"
  | unterminatedComment => "Unterminated block comment"
  | unterminatedString => "Unterminated string constant"
  | unterminatedRegex => "Unterminated regexp literal"
  | unterminatedTemplate => "Unterminated template"
  | unterminatedMarkup => "Unterminated JSX contents"
  | expectedUnicodeEscape => "Expected unicode escape"
  | invalidUnicodeEscape => "Invalid unicode escape"
  | invalidEscape => "Invalid string escape"
  | badEscape expected => "Bad character escape sequence, expected " ++ expected
  | invalidNameCharacter => "Invalid character in identifier"
  | nameAfterNumber => "Identifier cannot follow number"
  | expectedDigit radix =>
    if radix = 2 then "Expected a binary digit"
    else if radix = 8 then "Expected an octal digit"
    else if radix = 16 then "Expected a hexadecimal digit"
    else "Expected a decimal digit"
  | expectedExponent => "Expected +, - or decimal digit after e"
  | misplacedSeparator => "A numeric separator is only allowed between two digits"
  | legacyOctal => "Legacy octal escape is not permitted in strict mode"
  | legacyDecimal => "Legacy decimal escape is not permitted in strict mode"
  | legacyOctalUnavailable =>
    "Legacy octal literals are not available when targeting ECMAScript 5 and higher"
  | legacyComment => "Legacy comments cannot be used in module code"
  | conflictMarker => "Merge conflict marker encountered."
  | escapeInReservedWord word => "Unexpected escape sequence in reserved word: " ++ word
  | unexpectedTokenDidYouMean suggestions =>
    "Unexpected token. Did you mean " ++ " or ".intercalate suggestions ++ "?"
  | unknownRegexFlags => "Unknown regular expression flags."
  | duplicateRegexFlag flag =>
    "Duplicated regular expression flag '" ++ flag.toString ++ "'."
  | spaceAfterHash => "Unexpected space between # and identifier"
  | expectedToken wanted got => "Expected '" ++ wanted ++ "', got '" ++ got ++ "'"
  | unexpectedToken got wanted => "Unexpected token `" ++ got ++ "`. Expected " ++ wanted
  | expressionExpected => "Expression expected"
  | expectedIdent => "Expected ident"
  | identifierExpected => "Expected an identifier"
  | semicolonExpected => "Expected a semicolon"
  | statementEndExpected => "Expected ';', '\x7d' or <eof>"
  | stringExpected => "String literal expected"
  | strictReservedName name => "`" ++ name ++ "` cannot be used as an identifier in strict mode"
  | awaitAsName => "`await` cannot be used as an identifier in an async context"
  | evalOrArgumentsBound =>
    "'eval' and 'arguments' cannot be used as a binding identifier in strict mode"
  | reservedShorthand => "Shorthand property cannot be a reserved word"
  | argumentsInField => "'arguments' is only allowed in functions and class methods"
  | reservedWordInImport => "cannot import as reserved word"
  | invalidNewTarget =>
    "'new.target' is only allowed in the body of a function declaration, function expression, " ++
      "or class."
  | invalidSuper => "Invalid access to super"
  | invalidSuperCall => "Invalid `super()`"
  | invalidImport => "Invalid import"
  | importMetaInScript => "'import.meta' cannot be used outside of module code."
  | topLevelAwaitInScript => "top level await is only allowed in module"
  | awaitOutsideAsync => "await isn't allowed in non-async function"
  | awaitStar =>
    "await* has been removed from the async functions proposal. Use Promise.all() instead."
  | unaryBeforePower => "** cannot be applied to unary expression"
  | assignmentProperty => "assignment property is invalid syntax"
  | notAssignable =>
    "The left-hand side of an assignment expression must be a variable or a property access."
  | notSimpleTarget => "Cannot assign to this"
  | notAPattern => "Not a pattern"
  | notAnExpression => "Not an expression"
  | deletedName => "'delete' cannot be called on an identifier in strict mode"
  | deletedNonMember => "The operand of a delete operator must be a property reference"
  | arrowNotAllowed => "An arrow function is not allowed here"
  | getterParameters => "A `get` accessor cannot have parameters"
  | setterParameters => "A `set` accessor must have exactly one parameter"
  | setterRest => "Rest pattern is not allowed in setter"
  | lineBreakBeforeArrow => "Unexpected line break between arrow head and arrow"
  | spreadInParen => "Parenthesized expression cannot contain spread operator"
  | emptyParen => "Parenthesized expression cannot be empty"
  | trailingCommaInImport => "Trailing comma is disallowed inside import(...) arguments"
  | importWithoutArgument => "import() requires at least 1 argument"
  | taggedTemplateInChain => "Tagged template literals are not allowed in optional chain"
  | chainInNew => "Optional chaining cannot follow constructor call"
  | superCallOptional => "Super call cannot be optional"
  | mixedCoalesce =>
    "Nullish coalescing operator(??) requires parens when mixing with logical operators"
  | yieldInParameter => "'yield' cannot be used as a parameter within generator"
  | awaitInParameter => "`await` expressions cannot be used in a parameter initializer"
  | argumentsInStrict => "Invalid use of 'arguments' in strict mode"
  | commaInComputedKey => "A comma expression is not allowed in a computed property name"
  | restNotLast => "Rest element must be final element"
  | commaAfterRest => "Trailing comma isn't permitted after a rest element"
  | restTrailingComma => "Trailing comma isn't permitted after a rest element"
  | dotsWithoutName => "`...` must be followed by an identifier in declaration contexts"
  | restWithDefault => "A rest parameter cannot have an initializer"
  | restOptional => "A rest parameter cannot be optional"
  | patternWithoutInit => "Destructuring bindings require initializers"
  | constWithoutInit => "'const' declarations must be initialized"
  | letDeclared => "let is reserved in const, let, class declaration"
  | declarationListEmpty => "Variable declaration list cannot be empty"
  | typeAfterDefault => "Type annotations must come before default assignments"
  | illegalDirective =>
    "Illegal 'use strict' directive in function with non-simple parameter list."
  | implementationInAmbient => "An implementation cannot be declared in ambient contexts"
  | declarationNotAllowed => "Declaration is not allowed"
  | returnNotAllowed => "Return statement is not allowed here"
  | lineBreakInThrow => "LineBreak cannot follow 'throw'"
  | lineBreakNotPermitted => "Line break not permitted here"
  | multipleDefaults => "A switch block cannot have multiple defaults"
  | withInStrict => "With statement are not allowed in strict mode"
  | withUnsupported =>
    "The 'with' statement is not supported. All symbols in a 'with' block will have type 'any'."
  | illegalBreak =>
    "A 'break' statement can only be used within an enclosing iteration or switch statement"
  | illegalContinue =>
    "A 'continue' statement can only be used within an enclosing iteration statement"
  | unknownBreakLabel =>
    "A 'break' statement can only jump to a label of an enclosing statement"
  | unknownContinueLabel => "Jump target cannot cross function boundary"
  | duplicateLabel => "Duplicate label"
  | labelRedeclared label => "Label " ++ label ++ " is already declared"
  | labelledFunctionInStrict => "Function cannot be labelled in strict mode"
  | labelledGeneratorOrAsync => "Labelled function cannot be generator or async"
  | tooManyBindingsInHead => "Expected one variable binding"
  | initializerInHead => "Unexpected initializer in for in/of loop"
  | typeInForIn => "The left-hand side of a 'for...in' statement cannot use a type annotation"
  | typeInForOf => "The left-hand side of a 'for...of' statement cannot use a type annotation"
  | patternInForIn =>
    "The left-hand side of a 'for...in' statement cannot be a destructuring pattern"
  | asyncInForOf => "The left-hand side of a `for...of` statement may not be `async`"
  | awaitOnlyForOf => "for await syntax is valid only for for-of statement"
  | invalidClassName => "Invalid class name"
  | duplicateConstructor => "A class can only have one constructor"
  | asyncConstructor => "Constructor can't be an async function"
  | generatorConstructor => "Constructor can't be a generator"
  | accessorConstructor => "Class constructor can't be an accessor"
  | constructorField => "Classes may not have a non-static field named 'constructor'"
  | privateConstructor => "Classes can't have a private field named '#constructor'."
  | modifierOnPrivateName modifier =>
    "'" ++ modifier ++ "' modifier cannot be used with a private identifier"
  | accessOnPrivateName => "An accessibility modifier cannot be used with a private identifier"
  | readonlyMethod => "A method cannot be readonly"
  | modifierOnConstructor modifier =>
    "'" ++ modifier ++ "' modifier cannot appear on a constructor declaration"
  | duplicateModifier modifier => "'" ++ modifier ++ "' modifier already seen."
  | modifierOrder first second =>
    "'" ++ first ++ "' modifier must precede '" ++ second ++ "' modifier."
  | modifierTogether first second =>
    "'" ++ first ++ "' modifier cannot be used with '" ++ second ++ "' modifier."
  | declareOnMember => "`declare` modifier cannot appear on class elements of this kind"
  | declareInAmbient => "`declare` modifier not allowed for code already in an ambient context"
  | asyncModifier => "`async` modifier cannot be used here"
  | abstractOutsideAbstractClass =>
    "Abstract methods can only appear within an abstract class."
  | abstractWithBody => "Abstract method cannot have an implementation."
  | abstractWithInitializer => "Abstract property cannot have an initializer."
  | abstractMisplaced =>
    "`abstract` modifier can only appear on a class or method declaration"
  | overrideWithoutExtends =>
    "This member cannot have an 'override' modifier because its containing class does not " ++
      "extend another class"
  | extendsSeen => "`extends` clause already seen."
  | extendsAfterImplements => "'extends' clause must precede 'implements' clause."
  | implementsSeen => "`implements` clause already seen"
  | singleClassExtends => "Classes can only extend a single class"
  | typeParametersOnConstructor =>
    "Type parameters cannot appear on a constructor declaration"
  | typeOnConstructor => "Type annotation cannot appear on a constructor declaration"
  | readonlyAccessor => "A getter or a setter cannot be readonly"
  | decoratorsNotAllowed => "Decorators are not valid here"
  | decoratorBeforeExport =>
    "Using the export keyword between a decorator and a class is not allowed. Please use " ++
      "`export @dec class` instead."
  | nestedImportExport => "'import', and 'export' are not permitted here"
  | importExportInScript => "'import', and 'export' cannot be used outside of module code"
  | stringImportBinding name =>
    "A string literal cannot be used as an imported binding.\n- Did you mean `import \x7b \"" ++
      name ++ "\" as foo \x7d`?"
  | stringExportBinding =>
    "A string literal cannot be used as an exported binding without `from`."
  | exportNeedsFrom name => "`" ++ name ++ "` cannot be used without `from` clause"
  | exportDefaultNeedsFrom => "export default statements required from '...';"
  | typeModifierInTypeImport =>
    "The 'type' modifier cannot be used on a named import when 'import type' is used on its " ++
      "import statement"
  | typeModifierInTypeExport =>
    "The 'type' modifier cannot be used on a named export when 'export type' is used on its " ++
      "export statement"
  | emptyAttribute => "JSX attributes must only be assigned a non-empty expression"
  | invalidAttributeValue =>
    "JSX value should be either an expression or a quoted JSX text"
  | closingTagExpected tag =>
    "Expected corresponding JSX closing tag for <" ++ tag ++ ">"
  | closingFragmentExpected => "Expected corresponding closing tag for JSX fragment"
  | adjacentMarkup =>
    "Adjacent JSX elements must be wrapped in an enclosing tag. Did you want a JSX fragment " ++
      "<>...</>?"
  | privateNameInInterface => "private names are not allowed in interface"
  | requiredAfterOptional => "A required element cannot follow an optional element."
  | bindingPatternOptional =>
    "A binding pattern parameter cannot be optional in an implementation signature."
  | parameterPropertyPattern =>
    "Typescript parameter property must be an identifier or assignment pattern"
  | parameterPropertyMisplaced =>
    "A parameter property is only allowed in a constructor implementation"
  | parameterInitializer =>
    "A parameter initializer is only allowed in a function or constructor implementation"
  | optionalWithInitializer => "Parameter cannot have question mark and initializer"
  | restParameterLast => "A rest parameter must be last in a parameter list"
  | trailingCommaNotAllowed => "Trailing comma is not allowed"
  | interfaceName => "interface name is invalid"
  | interfaceHeritage =>
    "An interface can only extend an identifier/qualified-name with optional type arguments."
  | enumNumericName => "An enum member cannot have a numeric name"
  | enumComputedName => "Computed property names are not allowed in enums"
  | emptyTypeParameters => "Type parameter list cannot be empty"
  | indexSignatureParameters => "An index signature must have exactly one parameter"
  | modifierOnTypeParameter modifier =>
    "'" ++ modifier ++ "' modifier cannot appear on a type parameter"
  | varianceMisplaced modifier =>
    "'" ++ modifier ++ "' modifier can only appear on a type parameter of a class, interface " ++
      "or type alias"
  | constModifierMisplaced modifier =>
    "'" ++ modifier ++ "' modifier can only appear on a type parameter of a function, method " ++
      "or class"
  | optionalMember => "An object member cannot be declared optional"
  | modifiersNotHere => "Modifiers cannot appear here"
  | nonNullNotAllowed word =>
    "Typescript non-null assertion operator is not allowed with '" ++ word ++ "'"

/-- An error with the place in the text where it is reported. -/
structure Fault where
  place : Nat
  cause : SyntaxError
deriving DecidableEq, Repr, Inhabited

end EnvInline.Syntax
