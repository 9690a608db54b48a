import ScriptBundle.Text.Quoted

/-! What can be wrong with a script. A cause is what a rule of the language objects to; a complaint
is a cause together with the place in the source, counted in characters. -/
namespace ScriptBundle.Script

inductive Cause where
  -- characters and literals
  | unexpectedCharacter (c : Char)
  | expectedUnicodeEscape
  | badEscape (expected : String)
  | invalidUnicodeEscape
  | invalidIdentifierCharacter
  | invalidStringEscape
  | unterminatedString
  | unterminatedComment
  | unterminatedTemplate
  | unterminatedRegex
  | unknownRegexFlag
  | repeatedRegexFlag (flag : Char)
  | expectedDigit (radix : Nat)
  | separatorPlace
  | exponentMissing
  | legacyDecimal
  | legacyOctalEscape
  | legacyOctalNumber
  | identifierAfterNumber
  | legacyComment
  | escapedReservedWord (word : String)
  -- tokens out of place
  | endOfInput
  | expected (token got : String)
  | unexpected (got expected : String)
  | expectedIdentifier
  | identifierMissing
  | expectedSemicolon
  | missingSemicolon
  | expectedExpression
  | trailingComma
  | emptyVariableList
  -- names
  | reservedInStrict (word : String)
  | awaitAsName
  | evalOrArguments
  | invalidUseOfEvalOrArguments
  | argumentsInField
  | privateNameUnexpected
  -- expressions
  | emptyParentheses
  | spreadInParentheses
  | lineBreakBeforeArrow
  | arrowNotAllowed
  | notAPattern
  | shorthandWithDefault
  | reservedShorthand
  | invalidTarget
  | notSimpleTarget
  | restWithoutName
  | assignmentLeftSide
  | mixedNullish
  | powerOfUnary
  | deleteIdentifier
  | deleteOperand
  | newTargetOutside
  | newOnOptionalChain
  | templateInOptionalChain
  | invalidSuper
  | invalidSuperCall
  | awaitStar
  | awaitInFunction
  | awaitInParameters
  | yieldInParameters
  | restComma
  | restNotLast
  | restTrailing
  | restInSetter
  | arrowParameterOptional
  -- statements
  | declarationNotAllowed
  | breakOutside
  | breakTarget
  | continueOutside
  | jumpAcrossFunction
  | duplicateLabel (label : String)
  | labelledFunction
  | labelledGenerator
  | returnNotAllowed
  | throwLineBreak
  | multipleDefaults
  | withStatement
  | withInStrict
  | strictDirective
  | awaitForStatement
  | forOfAsync
  | manyLoopVariables
  | initializedLoopVariable
  | loopHeadAnnotated
  | loopHeadPattern
  | usingInitializer
  | usingNotAllowed
  | usingBinding
  | patternWithoutValue
  | constWithoutValue
  -- modules
  | importOutsideModule
  | stringImport (name : String)
  | stringExport
  | exportNeedsSource (word : String)
  | typeModifierOnImport
  | typeModifierOnExport
  -- functions
  | optionalWithDefault
  | restWithDefault
  | restOptional
  | parameterProperty
  | parameterPropertyPattern
  | bodilessDefault
  | ambientBody
  | declareInAmbient
  | getterParameters
  | setterParameters
  | accessorTypeParameters
  | setterResult
  -- classes
  | constructorAccessor
  | constructorGenerator
  | constructorAsync
  | constructorField
  | constructorPrivate
  | duplicateConstructor
  | constructorModifier (word : String)
  | constructorTypeParameters
  | constructorResult
  | modifierOrder (first second : String)
  | modifierTwice (word : String)
  | modifierHere
  | declareOnElement
  | readonlyMethod
  | overrideWithoutBase
  | abstractOutside
  | abstractBody
  | abstractValue
  | accessorReadonly
  | privateModifier (word : String)
  | privateAccess
  | modifierWith (first second : String)
  | abstractHere
  | extendsTwice
  | extendsMany
  | extendsLate
  | implementsTwice
  | heritageExpression
  | className
  | interfaceName
  | optionalMember
  -- types and declarations of types
  | requiredAfterOptional
  | emptyTypeParameters
  | enumNumericName
  | enumComputedName
  | commaInComputedName
  | indexParameter
  deriving DecidableEq, Inhabited, Repr

namespace Cause

def digits : Nat → String
  | 2 => "a binary digit"
  | 8 => "an octal digit"
  | 10 => "a decimal digit"
  | _ => "a hexadecimal digit"

/-- The character in single quotes. -/
def quotedCharacter (c : Char) : String :=
  let body := if c = '\x27' then ['\\', c] else if c = '"' then [c] else Text.quotedChar c
  String.ofList ('\x27' :: body ++ ['\x27'])

def message : Cause → String
  | .unexpectedCharacter c => "Unexpected character " ++ quotedCharacter c
  | .expectedUnicodeEscape => "Expected unicode escape"
  | .badEscape wanted => "Bad character escape sequence, expected " ++ wanted
  | .invalidUnicodeEscape => "Invalid unicode escape"
  | .invalidIdentifierCharacter => "Invalid character in identifier"
  | .invalidStringEscape => "Invalid string escape"
  | .unterminatedString => "Unterminated string constant"
  | .unterminatedComment => "Unterminated block comment"
  | .unterminatedTemplate => "Unterminated template"
  | .unterminatedRegex => "Unterminated regexp literal"
  | .unknownRegexFlag => "Unknown regular expression flags."
  | .repeatedRegexFlag flag => "Duplicated regular expression flag '" ++ flag.toString ++ "'."
  | .expectedDigit radix => "Expected " ++ digits radix
  | .separatorPlace => "A numeric separator is only allowed between two digits"
  | .exponentMissing => "Expected +, - or decimal digit after e"
  | .legacyDecimal => "Legacy decimal escape is not permitted in strict mode"
  | .legacyOctalEscape => "Legacy octal escape is not permitted in strict mode"
  | .legacyOctalNumber =>
    "Legacy octal literals are not available when targeting ECMAScript 5 and higher"
  | .identifierAfterNumber => "Identifier cannot follow number"
  | .legacyComment => "Legacy comments cannot be used in module code"
  | .escapedReservedWord word => "Unexpected escape sequence in reserved word: " ++ word
  | .endOfInput => "Unexpected eof"
  | .expected token got => "Expected '" ++ token ++ "', got '" ++ got ++ "'"
  | .unexpected got wanted => "Unexpected token `" ++ got ++ "`. Expected " ++ wanted
  | .expectedIdentifier => "Expected ident"
  | .identifierMissing => "Expected an identifier"
  | .expectedSemicolon => "Expected ';', '\x7d' or <eof>"
  | .missingSemicolon => "Expected a semicolon"
  | .expectedExpression => "Expression expected"
  | .trailingComma => "Trailing comma is not allowed"
  | .emptyVariableList => "Variable declaration list cannot be empty"
  | .reservedInStrict word =>
    "`" ++ word ++ "` cannot be used as an identifier in strict mode"
  | .awaitAsName => "`await` cannot be used as an identifier in an async context"
  | .evalOrArguments =>
    "'eval' and 'arguments' cannot be used as a binding identifier in strict mode"
  | .invalidUseOfEvalOrArguments => "Invalid use of 'arguments' in strict mode"
  | .argumentsInField => "'arguments' is only allowed in functions and class methods"
  | .privateNameUnexpected => "Unexpected private name"
  | .emptyParentheses => "Parenthesized expression cannot be empty"
  | .spreadInParentheses => "Parenthesized expression cannot contain spread operator"
  | .lineBreakBeforeArrow => "Unexpected line break between arrow head and arrow"
  | .arrowNotAllowed => "An arrow function is not allowed here"
  | .notAPattern => "Not a pattern"
  | .shorthandWithDefault => "assignment property is invalid syntax"
  | .reservedShorthand => "Cannot use a reserved word as a shorthand property"
  | .invalidTarget => "Invalid assignment target"
  | .notSimpleTarget => "Cannot assign to this"
  | .restWithoutName => "`...` must be followed by an identifier in declaration contexts"
  | .assignmentLeftSide =>
    "The left-hand side of an assignment expression must be a variable or a property access."
  | .mixedNullish =>
    "Nullish coalescing operator(??) requires parens when mixing with logical operators"
  | .powerOfUnary => "'**' cannot be applied to unary/await expression."
  | .deleteIdentifier => "'delete' cannot be called on an identifier in strict mode"
  | .deleteOperand => "The operand of a delete operator must be a property reference."
  | .newTargetOutside =>
    "'new.target' is only allowed in the body of a function declaration, function expression, " ++
      "or class."
  | .newOnOptionalChain => "Constructor in/after an optional chaining is not allowed."
  | .templateInOptionalChain =>
    "Tagged template expressions are not permitted in an optional chain."
  | .invalidSuper => "Invalid access to super"
  | .invalidSuperCall => "Invalid call to super"
  | .awaitStar =>
    "await* has been removed from the async functions proposal. Use Promise.all() instead."
  | .awaitInFunction => "await isn't allowed in non-async function"
  | .awaitInParameters => "`await` expressions cannot be used in a parameter initializer."
  | .yieldInParameters => "'yield' cannot be used as a parameter within generator"
  | .restComma => "Trailing comma isn't permitted after a rest element"
  | .restNotLast => "Rest element must be final element"
  | .restTrailing => "A rest parameter must be last in a parameter list"
  | .restInSetter => "Rest pattern is not allowed in setter"
  | .arrowParameterOptional =>
    "A binding pattern parameter cannot be optional in an implementation signature."
  | .declarationNotAllowed => "Declaration is not allowed"
  | .breakOutside =>
    "A 'break' statement can only be used within an enclosing iteration or switch statement"
  | .breakTarget => "A 'break' statement can only jump to a label of an enclosing statement"
  | .continueOutside =>
    "A 'continue' statement can only jump to a label of an enclosing iteration statement"
  | .jumpAcrossFunction => "Jump target cannot cross function boundary"
  | .duplicateLabel label => "Label " ++ label ++ " is already declared"
  | .labelledFunction => "Function cannot be labelled in strict mode"
  | .labelledGenerator => "Generator or async function cannot be labelled"
  | .returnNotAllowed => "Return statement is not allowed here"
  | .throwLineBreak => "LineBreak cannot follow 'throw'"
  | .multipleDefaults => "A switch block cannot have multiple defaults"
  | .withStatement =>
    "The 'with' statement is not supported. All symbols in a 'with' block will have type 'any'."
  | .withInStrict => "With statement are not allowed in strict mode"
  | .strictDirective =>
    "Illegal 'use strict' directive in function with non-simple parameter list."
  | .awaitForStatement => "for await syntax is valid only for for-of statement"
  | .forOfAsync => "The left-hand side of a `for...of` statement cannot be `async`."
  | .manyLoopVariables => "Expected one variable binding"
  | .initializedLoopVariable => "Unexpected initializer in for in/of loop"
  | .loopHeadAnnotated =>
    "The left-hand side of a 'for...of' statement cannot use a type annotation"
  | .loopHeadPattern =>
    "The left-hand side of a 'for...in' statement cannot be a destructuring pattern."
  | .usingInitializer => "Using declaration requires initializer"
  | .usingNotAllowed => "Using declaration is not allowed here"
  | .usingBinding => "Using declaration only allows identifiers"
  | .patternWithoutValue => "Destructuring bindings require initializers"
  | .constWithoutValue => "'const' declarations must be initialized"
  | .importOutsideModule => "'import', and 'export' cannot be used outside of module code"
  | .stringImport name =>
    "A string literal cannot be used as an imported binding.\n- Did you mean `import \x7b \"" ++
      name ++ "\" as foo \x7d`?"
  | .stringExport => "A string literal cannot be used as an exported binding without `from`."
  | .exportNeedsSource word => "`" ++ word ++ "` cannot be used without `from` clause"
  | .typeModifierOnImport =>
    "The 'type' modifier cannot be used on a named import when 'import type' is used on its " ++
      "import statement."
  | .typeModifierOnExport =>
    "The 'type' modifier cannot be used on a named export when 'export type' is used on its " ++
      "export statement."
  | .optionalWithDefault => "Parameter cannot have question mark and initializer"
  | .restWithDefault => "A rest parameter cannot have an initializer"
  | .restOptional => "A rest parameter cannot be optional"
  | .parameterProperty =>
    "A parameter property is only allowed in a constructor implementation"
  | .parameterPropertyPattern =>
    "Typescript parameter property must be an identifier or assignment pattern"
  | .bodilessDefault =>
    "A parameter initializer is only allowed in a function or constructor implementation"
  | .ambientBody => "An implementation cannot be declared in ambient contexts"
  | .declareInAmbient =>
    "A 'declare' modifier cannot be used in an already ambient context."
  | .getterParameters => "A `get` accessor cannot have parameters"
  | .setterParameters => "A `set` accessor must have exactly one parameter"
  | .accessorTypeParameters => "An accessor cannot have type parameters"
  | .setterResult => "A 'set' accessor cannot have a return type annotation"
  | .constructorAccessor => "Class constructor can't be an accessor."
  | .constructorGenerator => "Constructor can't be a generator"
  | .constructorAsync => "Constructor can't be an async function"
  | .constructorField => "Classes may not have a non-static field named 'constructor'"
  | .constructorPrivate => "Classes can't have a private field named '#constructor'."
  | .duplicateConstructor => "A class can only have one constructor"
  | .constructorModifier word =>
    "'" ++ word ++ "' modifier cannot appear on a constructor declaration"
  | .constructorTypeParameters => "Type parameters cannot appear on a constructor declaration"
  | .constructorResult => "Type annotation cannot appear on a constructor declaration"
  | .modifierOrder first second =>
    "'" ++ first ++ "' modifier must precede '" ++ second ++ "' modifier."
  | .modifierTwice word => "'" ++ word ++ "' modifier already seen."
  | .modifierHere => "Modifiers cannot appear here"
  | .declareOnElement => "`declare` modifier cannot appear on class elements of this kind"
  | .readonlyMethod => "A method cannot be readonly"
  | .overrideWithoutBase =>
    "This member cannot have an 'override' modifier because its containing class does not " ++
      "extend another class."
  | .abstractOutside => "Abstract methods can only appear within an abstract class."
  | .abstractBody => "Method cannot have an implementation because it is marked abstract."
  | .abstractValue => "Property cannot have an initializer because it is marked abstract."
  | .accessorReadonly => "A getter or a setter cannot be readonly"
  | .privateModifier word => "'" ++ word ++ "' modifier cannot be used with a private identifier"
  | .privateAccess => "An accessibility modifier cannot be used with a private identifier."
  | .modifierWith first second =>
    "'" ++ first ++ "' modifier cannot be used with '" ++ second ++ "' modifier."
  | .abstractHere => "`abstract` modifier can only appear on a class or method declaration"
  | .extendsTwice => "'extends' clause already seen."
  | .extendsMany => "Classes can only extend a single class"
  | .extendsLate => "'extends' clause must precede 'implements' clause."
  | .implementsTwice => "'implements' clause already seen"
  | .heritageExpression =>
    "An interface can only extend an identifier/qualified-name with optional type arguments."
  | .className => "Class name is invalid"
  | .interfaceName => "Interface name is invalid"
  | .optionalMember => "An object member cannot be declared optional"
  | .requiredAfterOptional => "A required element cannot follow an optional element."
  | .emptyTypeParameters => "Type parameter list cannot be empty"
  | .enumNumericName => "An enum member cannot have a numeric name"
  | .enumComputedName => "Computed property names are not allowed in enums"
  | .commaInComputedName => "A comma expression is not allowed in a computed property name"
  | .indexParameter => "An index signature parameter must have a type annotation"

end Cause

/-- A cause and the number of characters before it. -/
structure Complaint where
  cause : Cause
  offset : Nat
  deriving DecidableEq, Inhabited, Repr

end ScriptBundle.Script
