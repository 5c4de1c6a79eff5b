import EnvInline.Layout.Pattern

/-!
# Layout of statements

A statement is written on a line of its own, with the comments that trail it. A block is not: what
follows it may stand on its last line.
-/

namespace EnvInline.Layout

open EnvInline.Syntax

/-- The pieces of a declaration with the semicolon that ends variables. -/
def declarationPieces (p : Part) : List Piece :=
  match p.kind with
  | .variableDeclaration .. => p.own ++ [.text ";"]
  | _ => p.own

/-- A statement as it stands among others. -/
def statementPieces (p : Part) : List Piece :=
  match p.kind with
  | .block => p.own
  | .absent => []
  | _ => declarationPieces p ++ [.trailing p.span.hi, .line]

/-- Statements between braces, one per line. -/
def blockPieces (span : Span) (ps : List Part) : List Piece :=
  [.text "\x7b"] ++ linesOrNothing span [] (ps.map statementPieces) [] ++ [.text "\x7d"]

/-- An expression in parentheses. -/
def parenthesized (p : Part) : List Piece := [.text "("] ++ p.whole ++ [.text ")"]

/-- The head of a loop. -/
def headPieces (p : Part) : List Piece :=
  match p.kind with
  | .variableDeclaration .. => p.own
  | _ => p.whole

/-- An expression after a blank, if there is one. -/
def spaced (p : Part) : List Piece := if p.isAbsent then [] else [.text " "] ++ p.whole

/-- The pieces of a statement that is not a loop. -/
def simpleStatementPieces? (k : Kind) (ps : List Part) : Option (List Piece) :=
  match k, ps with
  | .emptyStatement, _ => some [.text ";"]
  | .debuggerStatement, _ => some [.text "debugger", .text ";"]
  | .expressionStatement, [e] => some (e.whole ++ [.text ";"])
  | .withStatement, [object, body] =>
    some ([.text "with", .text " "] ++ parenthesized object ++ statementPieces body)
  | .returnStatement, [e] => some ([.text "return"] ++ spaced e ++ [.text ";"])
  | .throwStatement, [e] => some ([.text "throw"] ++ spaced e ++ [.text ";"])
  | .labeled, [label, body] =>
    some (label.own ++ [.text ":", .text " "] ++ statementPieces body)
  | .breakStatement, [label] => some ([.text "break"] ++ label.between [.text " "] [] ++ [.text ";"])
  | .continueStatement, [label] =>
    some ([.text "continue"] ++ label.between [.text " "] [] ++ [.text ";"])
  | .ifStatement, [test, yes, no] =>
    some ([.text "if", .text " "] ++ parenthesized test ++ [.text " "] ++ statementPieces yes ++
      if no.isAbsent then []
      else (if yes.kind == .block then [.text " "] else []) ++ [.text "else", .text " "] ++
        statementPieces no)
  | .switchStatement, [subject, cases] =>
    some ([.text "switch"] ++ parenthesized subject ++ [.text "\x7b"] ++
      lines [] (cases.parts.map Part.own) [] ++ [.text "\x7d"])
  | .switchCase, [test, body] =>
    some ((if test.isAbsent then [.text "default"]
        else [.text "case", .text " "] ++ test.whole) ++ [.text ":"] ++
      if body.parts.isEmpty then []
      else [.line, .indent] ++ sepBy [.line] (body.parts.map statementPieces) ++ [.dedent])
  | .tryStatement, [block, clause, finalizer] =>
    some ([.text "try", .text " "] ++ block.own ++ clause.between [.text " "] [] ++
      finalizer.between [.text " ", .text "finally"] [])
  | .catchClause, [parameter, block] =>
    some ([.text "catch", .text " "] ++
      (if parameter.isAbsent then [] else [.text "("] ++ parameter.whole ++ [.text ")", .text " "]) ++
      block.own)
  | _, _ => none

/-- The pieces of a loop or of variables. -/
def loopPieces? (k : Kind) (ps : List Part) : Option (List Piece) :=
  match k, ps with
  | .whileLoop, [test, body] =>
    some ([.text "while"] ++ parenthesized test ++ statementPieces body)
  | .doLoop, [body, test] =>
    some ([.text "do", .text " "] ++ statementPieces body ++ [.text "while", .text " "] ++
      parenthesized test)
  | .forLoop, [start, test, step, body] =>
    some ([.text "for", .text "("] ++ headPieces start ++ [.text ";"] ++ spaced test ++
      [.text ";"] ++ spaced step ++ [.text ")"] ++ statementPieces body)
  | .forInLoop, [head, object, body] =>
    some ([.text "for", .text "("] ++ headPieces head ++ [.text " ", .text "in", .text " "] ++
      object.whole ++ [.text ")"] ++ statementPieces body)
  | .forOfLoop isAwait, [head, object, body] =>
    some ([.text "for", .text " "] ++ wordIf isAwait "await" ++ [.text "("] ++ headPieces head ++
      [.text " ", .text "of", .text " "] ++ object.whole ++ [.text ")"] ++ statementPieces body)
  | .variableDeclaration word isDeclare, ds =>
    some (wordIf isDeclare "declare" ++ [.text word, .text " "] ++ commaList (ds.map Part.own))
  | .declarator _, [p, value] => some (p.whole ++ initialized value)
  | .functionDeclaration isDeclare, [name, function] =>
    some (wordIf isDeclare "declare" ++ functionPieces name function)
  | _, _ => none

/-- The pieces of a statement, after the comments that lead it. -/
def statementPieces? (k : Kind) (span : Span) (ps : List Part) : Option (List Piece) :=
  match k with
  | .block => some (blockPieces span ps)
  | _ => simpleStatementPieces? k ps <|> loopPieces? k ps

end EnvInline.Layout
