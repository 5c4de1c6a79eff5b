import EnvInline.Syntax.Token.Space

/-!
# Punctuators and operators

The longest punctuator that the text opens with is the token, with three exceptions: angle brackets
in types are always single, an old comment mark (`<!--`, and `-->` at the start of a line) is a
comment, and seven equal signs of a kind at the start of a line mark a merge conflict.
-/

namespace EnvInline.Syntax

/-- The punctuators and operators, longer ones first. -/
def punctuators : List String :=
  [">>>=", "...", "===", "!==", "**=", "<<=", ">>=", ">>>", "&&=", "||=", "??=",
    "=>", "==", "!=", "<=", ">=", "&&", "||", "??", "++", "--", "+=", "-=", "*=", "/=", "%=",
    "&=", "|=", "^=", "<<", ">>", "**",
    "\x7b", "\x7d", "(", ")", "[", "]", ";", ",", "<", ">", "+", "-", "*", "/", "%", "&", "|", "^",
    "!", "~", "?", ":", "=", "@", ".", "#", "`"]

/-- The marks that open a line between the sides of a merge conflict. -/
def conflictMarks : List String :=
  ["<<<<<<< ", "||||||| ", "=======", ">>>>>>> "]

/-- What an operator at the start of a text turns out to be. -/
inductive Operator where
  | token (text : String)
  /-- a comment to the end of the line, with what is wrong with it -/
  | comment (cause : SyntaxError)
  | unknown (c : Char)
deriving DecidableEq, Repr, Inhabited

/-- The operator that the text opens with. -/
def operatorAt (afterBreak singleAngles : Bool) (text : List Char) : Operator :=
  let opens (word : String) : Bool := word.toList.isPrefixOf text
  match text with
  | [] => .unknown ' '
  | c :: _ =>
    if singleAngles && (c == '<' || c == '>') then .token (c.toString)
    else if opens "<!--" || (afterBreak && opens "-->") then .comment .legacyComment
    else if afterBreak && conflictMarks.any opens then .comment .conflictMarker
    else match punctuators.find? opens with
      | some word => .token word
      | none => .unknown c

end EnvInline.Syntax
