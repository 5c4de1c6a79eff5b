import EnvInline.Syntax.Tree

/-!
# Nodes of a tree

A tree is walked from its root; a way is the list of the child numbers to take. `Tree.at?` gives the
node at the end of a way and `Tree.nodes` lists all nodes, each as often as a way leads to it
(`mem_nodes_iff`). `Tree.inductionOn` is the induction that all proofs about whole trees use.
-/

namespace EnvInline.Syntax.Tree

/-- What holds of a node when it holds of all its children holds of every tree. -/
theorem inductionOn {P : Tree → Prop}
    (node : ∀ k span cs, (∀ t ∈ cs, P t) → P (.node k span cs)) (t : Tree) : P t := by
  match t with
  | .node k span cs => exact node k span cs fun t _ => inductionOn node t

/-- The node at the end of a way. -/
def at? : Tree → List Nat → Option Tree
  | t, [] => some t
  | t, i :: way => t.children[i]?.bind fun c => c.at? way

mutual
/-- All nodes of a tree, the root first. -/
def nodes : Tree → List Tree
  | .node k span cs => .node k span cs :: nodesMany cs

/-- All nodes of some trees. -/
def nodesMany : List Tree → List Tree
  | [] => []
  | t :: ts => nodes t ++ nodesMany ts
end

theorem nodesMany_eq (ts : List Tree) : nodesMany ts = ts.flatMap nodes := by
  induction ts with
  | nil => rfl
  | cons t ts ih => rw [nodesMany, ih, List.flatMap_cons]

theorem nodes_node (k : Kind) (span : Span) (cs : List Tree) :
    (node k span cs).nodes = node k span cs :: cs.flatMap nodes := by
  rw [nodes, nodesMany_eq]

/-- What holds of all nodes holds of the root and of all nodes below it. -/
theorem forall_mem_nodes_node {P : Tree → Prop} {k : Kind} {span : Span} {cs : List Tree} :
    (∀ t ∈ (node k span cs).nodes, P t) ↔ P (node k span cs) ∧ ∀ c ∈ cs, ∀ t ∈ c.nodes, P t := by
  rw [nodes_node, List.forall_mem_cons, List.forall_mem_flatMap]

@[simp] theorem at?_nil (t : Tree) : t.at? [] = some t := rfl

theorem at?_cons (t : Tree) (i : Nat) (way : List Nat) :
    t.at? (i :: way) = t.children[i]?.bind fun c => c.at? way := rfl

/-- The listed nodes are those that a way leads to. -/
theorem mem_nodes_iff {t u : Tree} : u ∈ t.nodes ↔ ∃ way, t.at? way = some u := by
  induction t using inductionOn with
  | node k span cs ih =>
    rw [nodes_node, List.mem_cons, List.mem_flatMap]
    constructor
    · rintro (rfl | ⟨c, hc, hu⟩)
      · exact ⟨[], rfl⟩
      · obtain ⟨way, hway⟩ := (ih c hc).mp hu
        obtain ⟨i, hi⟩ := List.getElem?_of_mem hc
        exact ⟨i :: way, by simpa [at?_cons, children, hi] using hway⟩
    · rintro ⟨way, hway⟩
      cases way with
      | nil => exact .inl (Option.some.inj hway).symm
      | cons i way =>
        rw [at?_cons, Option.bind_eq_some_iff] at hway
        obtain ⟨c, hc, hway⟩ := hway
        have hmem : c ∈ cs := List.mem_of_getElem? hc
        exact .inr ⟨c, hmem, (ih c hmem).mpr ⟨way, hway⟩⟩

end EnvInline.Syntax.Tree
