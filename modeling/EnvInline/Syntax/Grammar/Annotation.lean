import EnvInline.Syntax.Grammar.Name

/-!
# Annotations

A type after a colon, as it may follow a name or a pattern.
-/

namespace EnvInline.Syntax

/-- Runs a computation where types stand. -/
def inType {α : Type} (p : P α) : P α := withContext ({ · with inType := true }) p

/-- Reads a type after its colon. -/
def colonType : P Tree := do
  let start ← currentStart
  inType do
    bump
    let t ← rule .type
    nodeFrom start .colonType [t]

/-- Reads a colon and a type if a colon stands here. -/
def colonType? : P Tree := do
  if ← hasTypes <&&> at? ":" then colonType else return .none

/-- The pattern with a type, if it can hold one. -/
def Tree.withType (t type : Tree) : Tree :=
  match t with
  | .node (.binding id o) s _ => .node (.binding id o) s [type]
  | .node (.arrayPattern o) s (es :: _) => .node (.arrayPattern o) s [es, type]
  | .node (.objectPattern o) s (es :: _) => .node (.objectPattern o) s [es, type]
  | .node .restPattern s (p :: _) => .node .restPattern s [p, type]
  | t => t

/-- The pattern marked as one that may be left out. -/
def Tree.markOptional (t : Tree) : Tree :=
  match t with
  | .node (.binding id _) s cs => .node (.binding id true) s cs
  | .node (.arrayPattern _) s cs => .node (.arrayPattern true) s cs
  | .node (.objectPattern _) s cs => .node (.objectPattern true) s cs
  | t => t

end EnvInline.Syntax
