import EnvInline.Syntax.Error
import EnvInline.Syntax.Tree

/-!
# Tokens

The tokens of scripts. Punctuators and reserved words are told apart by their spelling; a stretch
of text that is no token is a token of its own, so that whoever meets it decides what to report.
-/

namespace EnvInline.Syntax

/-- One token. -/
inductive Token where
  | punct (text : String)
  /-- a reserved word, or `null`, `true`, `false` -/
  | keyword (text : String)
  | name (text : String)
  | string (value raw : String)
  | number (value : Binary64) (raw : String)
  | bigint (value raw : String)
  | regex (pattern flags : String)
  /-- text of a template; the problem is an escape that only tagged templates may hold -/
  | templateText (raw : String) (problem : Option Fault)
  /-- a name inside the tag of an element -/
  | tagWord (text : String)
  /-- text between the tags of an element -/
  | markupText (raw : String)
  /-- `<` that opens a tag -/
  | tagStart
  /-- `>` that ends a tag -/
  | tagEnd
  | shebang (text : String)
  /-- text that is no token -/
  | fault (f : Fault)
deriving DecidableEq, Repr, Inhabited

/-- The words that are reserved as keywords. -/
def keywords : List String :=
  ["await", "break", "case", "catch", "class", "const", "continue", "debugger", "default",
    "delete", "do", "else", "export", "extends", "finally", "for", "function", "if", "import",
    "in", "instanceof", "let", "new", "return", "super", "switch", "this", "throw", "try",
    "typeof", "var", "void", "while", "with", "yield", "null", "true", "false"]

/-- The token of a word written without escapes. -/
def Token.ofWord (text : String) : Token :=
  if keywords.contains text then .keyword text else .name text

/-- How tightly a binary operator binds; none for what is no binary operator. -/
def precedence? (text : String) : Option Nat :=
  match text with
  | "??" => some 1
  | "||" => some 1
  | "&&" => some 2
  | "|" => some 3
  | "^" => some 4
  | "&" => some 5
  | "==" | "!=" | "===" | "!==" => some 6
  | "<" | "<=" | ">" | ">=" | "in" | "instanceof" => some 7
  | "<<" | ">>" | ">>>" => some 8
  | "+" | "-" => some 9
  | "*" | "/" | "%" => some 10
  | "**" => some 11
  | _ => none

/-- The operators that assign. -/
def assignmentOperators : List String :=
  ["=", "+=", "-=", "*=", "/=", "%=", "**=", "<<=", ">>=", ">>>=", "&=", "|=", "^=", "&&=",
    "||=", "??="]

namespace Token

/-- The punctuator is a binary operator. -/
def isBinaryPunct (text : String) : Bool := (precedence? text).isSome

/-- The reserved words after which an expression may start. -/
def wordsBeforeExpression : List String :=
  ["await", "case", "default", "do", "else", "return", "throw", "new", "extends", "yield", "in",
    "instanceof", "typeof", "void", "delete"]

/-- The punctuators, operators apart, after which an expression may start. -/
def punctsBeforeExpression : List String :=
  ["=>", "...", "!", "(", "[", "\x7b", ";", ",", ":", "$\x7b", "?", "~"]

/-- An expression may start after the token. -/
def isBeforeExpression : Token → Bool
  | punct t => punctsBeforeExpression.contains t || isBinaryPunct t || assignmentOperators.contains t
  | keyword t => wordsBeforeExpression.contains t
  | markupText _ => true
  | _ => false

/-- The reserved words that may start an expression. -/
def wordsStartingExpression : List String :=
  ["await", "class", "delete", "function", "import", "new", "super", "this", "typeof", "void",
    "yield", "null", "true", "false"]

/-- The token may start an expression. -/
def startsExpression : Token → Bool
  | punct t => ["(", "[", "\x7b", "!", "~", "++", "--", "`", "$\x7b", "+", "-", "#"].contains t
  | keyword t => wordsStartingExpression.contains t
  | name _ | string .. | number .. | bigint .. | regex .. | tagStart => true
  | _ => false

/-- A block comment after the token on its line belongs to the token. -/
def takesTrailingComment : Token → Bool
  | punct t => t == ";" || t == "\x7b" || t == "\x7d" || t == "$\x7b"
  | name _ | string .. | number .. | bigint .. | regex .. => true
  | _ => false

/-- A line comment after the token on its line belongs to the token. -/
def takesTrailingLineComment : Token → Bool
  | punct t => !isBinaryPunct t
  | keyword t => !isBinaryPunct t
  | _ => true

/-- How a token is named in an error. -/
def spelling : Token → String
  | punct t => t
  | keyword t => t
  | name t => t
  | string value raw => "string literal (" ++ value ++ ", " ++ raw ++ ")"
  | number value raw => "numeric literal (" ++ value.text ++ ", " ++ raw ++ ")"
  | bigint value raw => "bigint literal (" ++ value ++ ", " ++ raw ++ ")"
  | regex pattern flags => "regexp literal (" ++ pattern ++ ", " ++ flags ++ ")"
  | templateText raw _ => "template token (" ++ raw ++ ")"
  | tagWord t => "jsx name (" ++ t ++ ")"
  | markupText raw => "jsx text (" ++ raw ++ ")"
  | tagStart => "< (jsx tag start)"
  | tagEnd => "> (jsx tag end)"
  | shebang _ => "#!"
  | fault f => "<lexing error: " ++ f.cause.message ++ ">"

/-- The text of a word, reserved or not. -/
def word? : Token → Option String
  | keyword t => some t
  | name t => some t
  | _ => none

end Token

/-- A token with its place, and whether a line break stands before it. -/
structure Lexeme where
  token : Token
  span : Span
  afterBreak : Bool
deriving DecidableEq, Repr, Inhabited

end EnvInline.Syntax
