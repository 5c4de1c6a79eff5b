import Mathlib.Data.Finset.Card
import Mathlib.Data.List.Forall2
import Mathlib.Data.List.GetD
import EnvInline.Proofs.Fallible
import EnvInline.Proofs.TreeNodes
import EnvInline.Substitution

/-!
# What a substitution rewrites

The imports of the module are taken out, every node that reads an imported variable becomes the
literal of its value, and no other node changes. The places are told by the ways that lead to them,
so nothing can be missed at any depth and nothing is rewritten twice.

* `at?_replace` — a way leads to the rewritten node of the one it led to before;
* `readVariable?_of_mem_nodes_replace` — no node that reads an imported variable is left;
* `countReads_eq` — what is counted is the nodes that are rewritten;
* `isMatching_replace` — what is rewritten imports from no other module than before;
* `run_replaces` — the whole of it, for every program.
-/

namespace EnvInline.Substitution

open EnvInline.Syntax

/-- The variable that a node reads: it is an identifier where an expression may stand, or a member
of an object that is only a variable. -/
def readVariable? : Tree → Option Ident
  | .node (.reference id) _ [] => some id
  | .node (.shorthand id) _ [] => some id
  | _ => none

/-- The literal of a value: a string, or `void 0` where there is no value. -/
def inlined (span : Span) : Option String → Tree
  | some value => .node (.stringLiteral value none) span []
  | none => .node (.unary "void") span [.node (.numberLiteral .zero none) span []]

/-- The variables that some bindings bind. -/
def bound (bindings : List Binding) : List Ident := bindings.map (·.variableId)

/-- The name that a variable is imported under; of several bindings of it the last one counts. -/
def Imports (bindings : List Binding) (id : Ident) (name : String) : Prop :=
  ∃ before after, bindings = before ++ ⟨id, name⟩ :: after ∧ id ∉ bound after

/-- The tree `new` is `old` with the imported variables replaced by their values, and nothing else
is different. -/
structure Replaced (values : Mapping) (bindings : List Binding) (old new : Tree) : Prop where
  /-- nothing reads an imported variable any more -/
  none_left : ∀ u ∈ new.nodes, ∀ id ∈ bound bindings, readVariable? u ≠ some id
  /-- a variable became the literal of its value -/
  reference : ∀ way id span, id ∈ bound bindings →
    old.at? way = some (.node (.reference id) span []) →
      ∃ name, Imports bindings id name ∧ new.at? way = some (inlined span (values.get? name))
  /-- a member that was only a variable became a key with that literal -/
  shorthand : ∀ way id span, id ∈ bound bindings →
    old.at? way = some (.node (.shorthand id) span []) →
      ∃ name, Imports bindings id name ∧ new.at? way = some (.node .property span
        [.node (.name id.name) span [], inlined span (values.get? name)])
  /-- any other node stays, with as many children -/
  other : ∀ way k span cs, old.at? way = some (.node k span cs) →
    (∀ id ∈ bound bindings, readVariable? (.node k span cs) ≠ some id) →
      ∃ cs', new.at? way = some (.node k span cs') ∧ cs'.length = cs.length

/-- If the item is an import, a string names its module. The grammar has no other imports. -/
def NamesModule (item : Tree) : Prop :=
  ∀ typeOnly, item.kind = .importDeclaration typeOnly →
    ∃ value raw, (item.child 1).kind = .stringLiteral value raw

/-- The program `out` and the report are what the imports of `program` come to. -/
structure Rewritten (options : Options) (values : Mapping) (program : Tree)
    (bindings : List Binding) (out : Tree) (report : Report) : Prop where
  /-- every specifier of the imports has a binding, in the order of the text -/
  specifiers : (matchingSpecifiers options program.children).map bindingOf? = bindings.map some
  kind_eq : out.kind = program.kind
  span_eq : out.span = program.span
  /-- the other items are still there, in their order -/
  items : List.Forall₂ (Replaced values bindings)
    (program.children.filter fun item => !isMatching options item) out.children
  removedImports : report.removedImports = program.children.countP (isMatching options)
  distinct : report.bindings = (bound bindings).toFinset.card
  sites : report.replacedReferences =
    ((program.children.filter fun item => !isMatching options item).flatMap Tree.nodes).countP
      fun u => (readVariable? u).any (· ∈ bound bindings)

/-! ## Replacing in a tree -/

section Replace

variable (r : Ident → Option (Option String))

theorem inlined_eq (span : Span) (value : Option String) :
    Literal.ofValue? span value = inlined span value := by
  cases value <;> rfl

theorem replaceMany_eq (ts : List Tree) : replaceMany r ts = ts.map (replace r) := by
  induction ts with
  | nil => rfl
  | cons t ts ih => rw [replaceMany, ih, List.map_cons]

/-- A node has a substitute if it reads a variable with a replacement. -/
theorem substitute?_isSome (t : Tree) :
    (substitute? r t).isSome = (readVariable? t).any fun id => (r id).isSome := by
  fun_cases readVariable? t with
  | case1 id span => simp [substitute?]
  | case2 id span => simp [substitute?]
  | case3 t h₁ h₂ =>
    have hnone : substitute? r t = none := by
      unfold substitute?
      split
      · exact (h₁ _ _ rfl).elim
      · exact (h₂ _ _ rfl).elim
      · rfl
    simp [hnone]

theorem replace_of_none {k : Kind} {span : Span} {cs : List Tree}
    (h : substitute? r (.node k span cs) = none) :
    replace r (.node k span cs) = .node k span (cs.map (replace r)) := by
  rw [replace, h, replaceMany_eq]

/-- A node without a substitute keeps its kind, and its children are replaced at their places. -/
theorem child_replace_of_none {t : Tree} (h : substitute? r t = none) (i : Nat) :
    (replace r t).child i = replace r (t.child i) := by
  obtain ⟨k, span, cs⟩ := t
  rw [replace_of_none r h]
  show (cs.map (replace r)).getD i (replace r Tree.none) = replace r (cs.getD i Tree.none)
  rw [List.getD_map]

theorem kind_replace_of_none {t : Tree} (h : substitute? r t = none) :
    (replace r t).kind = t.kind := by
  obtain ⟨k, span, cs⟩ := t
  rw [replace_of_none r h]
  rfl

theorem replace_of_some {t u : Tree} (h : substitute? r t = some u) : replace r t = u := by
  obtain ⟨k, span, cs⟩ := t
  rw [replace, h]

theorem substitute?_of_kind {t : Tree} (href : ∀ id, t.kind ≠ .reference id)
    (hshort : ∀ id, t.kind ≠ .shorthand id) : substitute? r t = none := by
  unfold substitute?
  split
  · exact (href _ rfl).elim
  · exact (hshort _ rfl).elim
  · rfl

/-- A node with a substitute has no children. -/
theorem children_of_substitute? {t u : Tree} (h : substitute? r t = some u) : t.children = [] := by
  unfold substitute? at h
  split at h
  · rfl
  · rfl
  · cases h

/-- A way leads to the rewritten node of the one it led to before. -/
theorem at?_replace {t u : Tree} {way : List Nat} (h : t.at? way = some u) :
    (replace r t).at? way = some (replace r u) := by
  induction way generalizing t with
  | nil =>
    obtain rfl := Option.some.inj h
    rfl
  | cons i way ih =>
    rw [Tree.at?_cons, Option.bind_eq_some_iff] at h
    obtain ⟨c, hc, hway⟩ := h
    cases hs : substitute? r t with
    | some v =>
      -- the way goes on below `t`, so `t` is no identifier
      rw [children_of_substitute? r hs] at hc
      simp at hc
    | none =>
      obtain ⟨k, span, cs⟩ := t
      have hc' : cs[i]? = some c := hc
      rw [replace_of_none r hs, Tree.at?_cons]
      simp [Tree.children, hc', ih hway]

/-- A literal reads nothing. -/
theorem readVariable?_of_mem_nodes_substitute {t v u : Tree} (h : substitute? r t = some v)
    (hu : u ∈ v.nodes) : readVariable? u = none := by
  have hliteral : ∀ span value, ∀ w ∈ (inlined span value).nodes, readVariable? w = none := by
    intro span value w hw
    cases value with
    | none =>
      simp only [inlined, Tree.nodes_node, List.flatMap_cons, List.flatMap_nil,
        List.append_nil, List.mem_cons, List.not_mem_nil, or_false] at hw
      rcases hw with rfl | rfl <;> rfl
    | some value =>
      simp only [inlined, Tree.nodes_node, List.flatMap_nil, List.mem_singleton] at hw
      subst hw
      rfl
  unfold substitute? at h
  split at h
  · obtain ⟨value, -, rfl⟩ := Option.map_eq_some_iff.mp h
    rw [inlined_eq] at hu
    exact hliteral _ _ u hu
  · obtain ⟨value, -, rfl⟩ := Option.map_eq_some_iff.mp h
    rw [Tree.nodes_node, List.flatMap_cons, List.flatMap_cons, List.flatMap_nil, List.append_nil,
      List.mem_cons, List.mem_append, inlined_eq] at hu
    rcases hu with rfl | hu | hu
    · rfl
    · rw [Tree.nodes_node, List.flatMap_nil, List.mem_singleton] at hu
      subst hu
      rfl
    · exact hliteral _ _ u hu
  · cases h

/-- After replacing, no node reads a variable with a replacement. -/
theorem readVariable?_of_mem_nodes_replace {t u : Tree} (hu : u ∈ (replace r t).nodes) {id : Ident}
    (hid : readVariable? u = some id) : r id = none := by
  induction t using Tree.inductionOn with
  | node k span cs ih =>
    cases hs : substitute? r (.node k span cs) with
    | some v =>
      rw [replace_of_some r hs] at hu
      rw [readVariable?_of_mem_nodes_substitute r hs hu] at hid
      cases hid
    | none =>
      rw [replace_of_none r hs, Tree.nodes_node, List.mem_cons, List.mem_flatMap] at hu
      rcases hu with rfl | ⟨c', hc', hu⟩
      · -- the node itself: it has no substitute, and as many children as before
        have hsame : readVariable? (.node k span cs) = some id := by
          cases cs with
          | nil => exact hid
          | cons c cs => simp [readVariable?] at hid
        have hnot := substitute?_isSome r (.node k span cs)
        rw [hs, hsame] at hnot
        simpa using hnot
      · obtain ⟨c, hc, rfl⟩ := List.mem_map.mp hc'
        exact ih c hc hu

/-! ## Counting -/

theorem countReadsMany_eq_countP_of_forall {ts : List Tree} {p : Tree → Bool}
    (h : ∀ t ∈ ts, countReads r t = t.nodes.countP p) :
    countReadsMany r ts = (ts.flatMap Tree.nodes).countP p := by
  induction ts with
  | nil => rfl
  | cons t ts ih =>
    have hts := ih fun u hu => h u (List.mem_cons_of_mem t hu)
    rw [countReadsMany, h t List.mem_cons_self, hts, List.flatMap_cons, List.countP_append]

/-- What is counted is the nodes with a substitute. -/
theorem countReads_eq (t : Tree) :
    countReads r t = t.nodes.countP fun u => (substitute? r u).isSome := by
  induction t using Tree.inductionOn with
  | node k span cs ih =>
    rw [countReads, Tree.nodes_node, List.countP_cons]
    cases hs : substitute? r (.node k span cs) with
    | some v =>
      -- an identifier has no children that could be counted besides
      have hcs : cs = [] := children_of_substitute? r hs
      simp [hcs]
    | none => simp [countReadsMany_eq_countP_of_forall r ih]

theorem countReadsMany_eq_countP (ts : List Tree) :
    countReadsMany r ts = (ts.flatMap Tree.nodes).countP fun u => (substitute? r u).isSome :=
  countReadsMany_eq_countP_of_forall r fun t _ => countReads_eq r t

end Replace

/-! ## Bindings -/

theorem replacement?_isSome_iff (values : Mapping) (bindings : List Binding) (id : Ident) :
    (replacement? values bindings id).isSome = true ↔ id ∈ bound bindings := by
  simp [replacement?, bound]

/-- A variable that only an earlier binding binds has no replacement by the later ones. -/
theorem replacement?_cons (values : Mapping) (b : Binding) (bs : List Binding) (id : Ident) :
    replacement? values (b :: bs) id =
      (replacement? values bs id).or
        (if b.variableId == id then some (values.get? b.imported) else none) := by
  simp only [replacement?, List.reverse_cons, List.find?_append]
  cases bs.reverse.find? (·.variableId == id) with
  | some b' => rfl
  | none => by_cases hb : b.variableId == id <;> simp [hb]

/-- The last binding of a variable says under which name it is imported. -/
theorem exists_imports (values : Mapping) {bindings : List Binding} {id : Ident}
    (h : id ∈ bound bindings) :
    ∃ name, Imports bindings id name ∧
      replacement? values bindings id = some (values.get? name) := by
  induction bindings with
  | nil => simp [bound] at h
  | cons b bs ih =>
    -- a later binding of the variable goes before this one
    by_cases hbs : id ∈ bound bs
    · obtain ⟨name, ⟨before, after, hsplit, hafter⟩, hr⟩ := ih hbs
      refine ⟨name, ⟨b :: before, after, by rw [hsplit, List.cons_append], hafter⟩, ?_⟩
      rw [replacement?_cons, hr, Option.some_or]
    · have hb : id = b.variableId := (List.mem_cons.mp h).resolve_right hbs
      subst hb
      have hnone : replacement? values bs b.variableId = none := by
        rw [← Option.not_isSome_iff_eq_none, replacement?_isSome_iff]
        exact hbs
      refine ⟨b.imported, ⟨[], bs, rfl, hbs⟩, ?_⟩
      rw [replacement?_cons, hnone, Option.none_or, if_pos (beq_self_eq_true _)]

/-- The bindings are read from the specifiers one by one. -/
theorem map_bindingOf?_of_mapM {options : Options} {values : Mapping}
    {specifiers : List Tree} {bindings : List Binding}
    (h : specifiers.mapM (readSpecifier options values) = .ok bindings) :
    specifiers.map bindingOf? = bindings.map some := by
  induction specifiers generalizing bindings with
  | nil =>
    rw [List.mapM_nil] at h
    cases h
    rfl
  | cons s ss ih =>
    obtain ⟨b, bs, hs, hss, rfl⟩ := Fallible.mapM_cons_eq_ok_iff.mp h
    obtain ⟨hb, -⟩ := checked_of_readSpecifier hs
    rw [List.map_cons, hb, ih hss, List.map_cons]

theorem nodup_eraseDups (l : List Ident) : l.eraseDups.Nodup := by
  induction hn : l.length using Nat.strong_induction_on generalizing l with
  | _ n ih =>
    cases l with
    | nil => exact List.nodup_nil
    | cons a l =>
      rw [List.eraseDups_cons, List.nodup_cons]
      have hlt : (l.filter fun b => !b == a).length < n := by
        have := List.length_filter_le (fun b => !b == a) l
        simp only [List.length_cons] at hn
        omega
      refine ⟨?_, ih _ hlt _ rfl⟩
      rw [List.mem_eraseDups, List.mem_filter]
      simp

/-- Each variable is counted once. -/
theorem length_variableIds (bindings : List Binding) :
    (variableIds bindings).length = (bound bindings).toFinset.card := by
  rw [variableIds, ← List.toFinset_card_of_nodup (nodup_eraseDups _)]
  congr 1
  ext id
  simp [bound]

/-- A node has a substitute if it reads an imported variable. -/
theorem substitute?_replacement?_isSome (values : Mapping) (bindings : List Binding) (t : Tree) :
    (substitute? (replacement? values bindings) t).isSome =
      (readVariable? t).any (· ∈ bound bindings) := by
  rw [substitute?_isSome]
  congr 1
  funext id
  rw [Bool.eq_iff_iff, replacement?_isSome_iff, decide_eq_true_iff]

/-- Replacing the imported variables in a tree does that and nothing else. -/
theorem replaced_replace (values : Mapping) (bindings : List Binding) (t : Tree) :
    Replaced values bindings t (replace (replacement? values bindings) t) where
  none_left u hu id hid hread := by
    have hsome := (replacement?_isSome_iff values bindings id).mpr hid
    rw [readVariable?_of_mem_nodes_replace _ hu hread] at hsome
    cases hsome
  reference way id span hid hat := by
    obtain ⟨name, himports, hr⟩ := exists_imports values hid
    refine ⟨name, himports, ?_⟩
    rw [at?_replace _ hat, Option.some_inj]
    apply replace_of_some
    rw [substitute?, hr, Option.map_some, inlined_eq]
  shorthand way id span hid hat := by
    obtain ⟨name, himports, hr⟩ := exists_imports values hid
    refine ⟨name, himports, ?_⟩
    rw [at?_replace _ hat, Option.some_inj]
    apply replace_of_some
    rw [substitute?, hr, Option.map_some, inlined_eq]
  other way k span cs hat hnot := by
    refine ⟨cs.map (replace (replacement? values bindings)), ?_, List.length_map _⟩
    rw [at?_replace _ hat, Option.some_inj]
    apply replace_of_none
    rw [← Option.not_isSome_iff_eq_none, substitute?_replacement?_isSome]
    intro hany
    obtain ⟨id, hread, hid⟩ := Option.any_eq_true _ _ |>.mp hany
    exact hnot id (decide_eq_true_iff.mp hid) hread

/-! ## The whole of it -/

theorem isMatching_of_kind {options : Options} {item : Tree}
    (h : ∀ typeOnly, item.kind ≠ .importDeclaration typeOnly) :
    isMatching options item = false := by
  unfold isMatching
  split
  · next typeOnly hkind => exact (h typeOnly hkind).elim
  · rfl

/-- What stands in the place of an identifier is no import. -/
theorem kind_of_substitute? {r : Ident → Option (Option String)} {t u : Tree}
    (h : substitute? r t = some u) (typeOnly : Bool) : u.kind ≠ .importDeclaration typeOnly := by
  have hliteral : ∀ span value, (inlined span value).kind ≠ .importDeclaration typeOnly := by
    intro span value
    cases value <;> exact nofun
  unfold substitute? at h
  split at h
  · obtain ⟨value, -, rfl⟩ := Option.map_eq_some_iff.mp h
    exact inlined_eq _ value ▸ hliteral _ value
  · obtain ⟨value, -, rfl⟩ := Option.map_eq_some_iff.mp h
    exact nofun
  · cases h

/-- Replacing in an item neither makes nor breaks an import of the module. -/
theorem isMatching_replace (options : Options) (r : Ident → Option (Option String)) {item : Tree}
    (h : NamesModule item) : isMatching options (replace r item) = isMatching options item := by
  by_cases himport : ∃ typeOnly, item.kind = .importDeclaration typeOnly
  · obtain ⟨typeOnly, hkind⟩ := himport
    obtain ⟨value, raw, hsource⟩ := h typeOnly hkind
    -- neither the import nor the name of its module reads a variable
    have hitem : substitute? r item = none :=
      substitute?_of_kind r (by simp [hkind]) (by simp [hkind])
    have hmodule : substitute? r (item.child 1) = none :=
      substitute?_of_kind r (by simp [hsource]) (by simp [hsource])
    have hreplaced : ((replace r item).child 1).kind = (item.child 1).kind := by
      rw [child_replace_of_none r hitem, kind_replace_of_none r hmodule]
    simp only [isMatching, kind_replace_of_none r hitem, hreplaced]
  · have hnot : ∀ typeOnly, item.kind ≠ .importDeclaration typeOnly := not_exists.mp himport
    rw [isMatching_of_kind hnot]
    cases hs : substitute? r item with
    | some u =>
      rw [replace_of_some r hs]
      exact isMatching_of_kind (kind_of_substitute? hs)
    | none =>
      apply isMatching_of_kind
      rw [kind_replace_of_none r hs]
      exact hnot

/-- Without an import of the module there is nothing to do. -/
theorem run_of_no_matching {options : Options} {program : Tree} (values : Mapping)
    (h : ∀ item ∈ program.children, isMatching options item = false) :
    run options values program = .ok (program, .none) := by
  have hfilter : program.children.filter (isMatching options) = [] := by
    rw [List.filter_eq_nil_iff]
    intro item hitem
    rw [h item hitem]
    exact Bool.false_ne_true
  simp only [run, matchingSpecifiers, hfilter, List.flatMap_nil, List.mapM_nil, List.length_nil,
    if_true, pure, Except.pure]

/-- With one, the bindings are read first and every other item is replaced by them. -/
theorem run_of_matching {options : Options} {values : Mapping} {program out : Tree}
    {report : Report} (h : run options values program = .ok (out, report))
    (hmatching : ∃ item ∈ program.children, isMatching options item = true) :
    ∃ bindings,
      (matchingSpecifiers options program.children).mapM (readSpecifier options values) =
        .ok bindings ∧
      let r := replacement? values bindings
      let kept := program.children.filter fun item => !isMatching options item
      out = .node program.kind program.span (kept.map (replace r)) ∧
      report = ⟨(program.children.filter (isMatching options)).length,
        (variableIds bindings).length, countReadsMany r kept⟩ := by
  have hsome : (program.children.filter (isMatching options)).length ≠ 0 := by
    obtain ⟨item, hitem, hmatch⟩ := hmatching
    have hmem := List.mem_filter.mpr ⟨hitem, hmatch⟩
    exact Nat.ne_of_gt (List.length_pos_of_mem hmem)
  unfold run at h
  cases hread : (matchingSpecifiers options program.children).mapM
      (readSpecifier options values) with
  | error e =>
    simp only [hread] at h
    cases h
  | ok bindings =>
    simp only [hread, if_neg hsome] at h
    obtain ⟨rfl, rfl⟩ := Prod.mk.inj (Except.ok.inj h)
    exact ⟨bindings, rfl, by rw [replaceMany_eq], rfl⟩

/-- For every program: without an import of the module it stays as it is. With one, a run that
gives a program takes the imports out, replaces what reads their variables and nothing else, and
counts both; a second run finds nothing to do. -/
theorem run_replaces (options : Options) (values : Mapping) (program : Tree) :
    ((∀ item ∈ program.children, isMatching options item = false) →
      run options values program = .ok (program, .none)) ∧
    ∀ out report, run options values program = .ok (out, report) →
      (∃ item ∈ program.children, isMatching options item = true) →
        (∃ bindings, Rewritten options values program bindings out report) ∧
        ((∀ item ∈ program.children, NamesModule item) →
          run options values out = .ok (out, .none)) := by
  refine ⟨run_of_no_matching values, ?_⟩
  intro out report hrun hmatching
  obtain ⟨bindings, hread, rfl, rfl⟩ := run_of_matching hrun hmatching
  refine ⟨⟨bindings, ?_⟩, ?_⟩
  · exact {
      specifiers := map_bindingOf?_of_mapM hread
      kind_eq := rfl
      span_eq := rfl
      items := List.forall₂_map_right_iff.mpr
        (List.forall₂_same.mpr fun t _ => replaced_replace values bindings t)
      removedImports := List.countP_eq_length_filter.symm
      distinct := length_variableIds bindings
      sites := by
        simp only [countReadsMany_eq_countP, substitute?_replacement?_isSome] }
  · -- no item that was kept has become an import of the module
    intro hnames
    apply run_of_no_matching
    intro item hitem
    obtain ⟨old, hold, rfl⟩ := List.mem_map.mp hitem
    obtain ⟨hold, hkept⟩ := List.mem_filter.mp hold
    rw [isMatching_replace options _ (hnames old hold)]
    exact Bool.not_eq_true' _ |>.mp hkept

/-- `import { KEY, GONE as g } from "@env"; ({ KEY, key: [g, KEY] })`, where the last `KEY` is
another variable. -/
theorem run_replaces_members :
    let s : Span := ⟨0, 0⟩
    let key : Ident := ⟨"KEY", 1⟩
    let other : Ident := ⟨"KEY", 2⟩
    let gone : Ident := ⟨"g", 1⟩
    let program : Tree := .node (.moduleProgram none) s
      [.node (.importDeclaration false) s
        [.many [.node (.importNamed false) s [.node (.binding key false) s [], .none],
          .node (.importNamed false) s
            [.node (.binding gone false) s [], .node (.name "GONE") s []]],
          .node (.stringLiteral "@env" none) s []],
        .node .object s [.node (.shorthand key) s [],
          .node .property s [.node (.name "key") s [],
            .node .array s [.node (.reference gone) s [], .node (.reference other) s []]]]]
    let out : Tree := .node (.moduleProgram none) s
      [.node .object s
        [.node .property s [.node (.name "KEY") s [], inlined s (some "1")],
          .node .property s [.node (.name "key") s [],
            .node .array s [inlined s none, .node (.reference other) s []]]]]
    run .default (Mapping.empty.insert "KEY" "1") program = .ok (out, ⟨1, 2, 2⟩) ∧
      run .default (Mapping.empty.insert "KEY" "1") out = .ok (out, .none) ∧
      run .default (Mapping.empty.insert "KEY" "1") .none = .ok (.none, .none) ∧
      ∃ bindings, Rewritten .default (Mapping.empty.insert "KEY" "1") program bindings out
        ⟨1, 2, 2⟩ := by
  intro s key other gone program out
  have hrun : run .default (Mapping.empty.insert "KEY" "1") program = .ok (out, ⟨1, 2, 2⟩) := by
    rfl
  have hmatching : ∃ item ∈ program.children, isMatching .default item = true :=
    ⟨_, List.mem_cons_self, by decide⟩
  have hnames : ∀ item ∈ program.children, NamesModule item := by
    intro item hitem
    simp only [program, Tree.children, List.mem_cons, List.not_mem_nil, or_false] at hitem
    rcases hitem with rfl | rfl
    · intro typeOnly _
      exact ⟨"@env", none, rfl⟩
    · intro typeOnly hkind
      cases hkind
  have hnone : ∀ item ∈ Tree.none.children, isMatching .default item = false :=
    fun _ hitem => (List.not_mem_nil hitem).elim
  obtain ⟨hrewritten, hagain⟩ := (run_replaces _ _ _).2 _ _ hrun hmatching
  exact ⟨hrun, hagain hnames, (run_replaces _ _ _).1 hnone, hrewritten⟩

end EnvInline.Substitution
