import EnvInline.Literal
import EnvInline.Proofs.ReadValues
import EnvInline.Proofs.TreeNodes
import Mathlib.Data.List.Forall2

/-!
# Expressions of JSON values

The expression of a JSON value is read back by `Literal.value?`, which knows nothing of how such
expressions are built: it takes literals for what they are, a minus sign for negation, and the
elements and members in their order. It finds the value again with every number rounded
(`Literal.value?_ofJson`). Whether signs and keys are where they should be is a matter of single
nodes (`Literal.Regular`, `Literal.regular_ofJson`).
-/

namespace EnvInline

open EnvInline.Syntax

namespace Json

/-- What holds of the simple values, and of an array or object when it holds of the values in it,
holds of every value. -/
theorem inductionOn {P : Json → Prop} (null : P .null) (bool : ∀ b, P (.bool b))
    (number : ∀ n, P (.number n)) (string : ∀ s, P (.string s))
    (array : ∀ items, (∀ v ∈ items, P v) → P (.array items))
    (object : ∀ members, (∀ m ∈ members, P m.2) → P (.object members)) (j : Json) : P j := by
  match j with
  | .null => exact null
  | .bool b => exact bool b
  | .number n => exact number n
  | .string s => exact string s
  | .array items =>
    exact array items fun v _ => inductionOn null bool number string array object v
  | .object members =>
    exact object members fun m _ => inductionOn null bool number string array object m.2
decreasing_by
  · have := List.sizeOf_lt_of_mem ‹v ∈ items›
    simp
    omega
  · have := List.sizeOf_lt_of_mem ‹m ∈ members›
    cases m
    simp at *
    omega

mutual
/-- The value with each number replaced by its floating point number. -/
def rounded : Json → Json
  | .number n => .number (.floating n.toBinary64)
  | .array items => .array (roundedItems items)
  | .object members => .object (roundedMembers members)
  | .null => .null
  | .bool b => .bool b
  | .string s => .string s

/-- The items of an array with their numbers rounded. -/
def roundedItems : List Json → List Json
  | [] => []
  | item :: items => item.rounded :: roundedItems items

/-- The members of an object with their numbers rounded. -/
def roundedMembers : List (String × Json) → List (String × Json)
  | [] => []
  | (key, value) :: members => (key, value.rounded) :: roundedMembers members
end

theorem rounded_array (items : List Json) :
    rounded (.array items) = .array (items.map rounded) := by
  have h : roundedItems items = items.map rounded := by
    induction items with
    | nil => rfl
    | cons item items ih => rw [roundedItems, ih, List.map_cons]
  rw [rounded, h]

theorem rounded_object (members : List (String × Json)) :
    rounded (.object members) = .object (members.map fun m => (m.1, m.2.rounded)) := by
  have h : roundedMembers members = members.map fun m => (m.1, m.2.rounded) := by
    induction members with
    | nil => rfl
    | cons m members ih => rw [roundedMembers, ih, List.map_cons]
  rw [rounded, h]

/-- The second value is the first one with each number rounded to the nearest floating point number,
and is otherwise the same, key by key and item by item. -/
inductive RoundsTo : Json → Json → Prop
  | null : RoundsTo .null .null
  | bool (b : Bool) : RoundsTo (.bool b) (.bool b)
  | whole (v : ℤ) (x : Binary64) : x.IsNearest v →
    RoundsTo (.number (.whole v)) (.number (.floating x))
  | floating (x : Binary64) : RoundsTo (.number (.floating x)) (.number (.floating x))
  | string (s : String) : RoundsTo (.string s) (.string s)
  | array (items items' : List Json) : List.Forall₂ RoundsTo items items' →
    RoundsTo (.array items) (.array items')
  | object (members members' : List (String × Json)) : members.map (·.1) = members'.map (·.1) →
    List.Forall₂ RoundsTo (members.map (·.2)) (members'.map (·.2)) →
    RoundsTo (.object members) (.object members')

/-- `rounded` rounds well-formed values. -/
theorem roundsTo_rounded {j : Json} (h : j.WellFormed) : RoundsTo j j.rounded := by
  induction h with
  | null => exact .null
  | bool b => exact .bool b
  | string s => exact .string s
  | number n hn =>
    cases n with
    | whole v => exact .whole v _ (Number.toBinary64_nearest hn)
    | floating x => exact .floating x
  | array items _ ih =>
    rw [rounded_array]
    refine .array _ _ ?_
    rw [List.forall₂_map_right_iff, List.forall₂_same]
    exact ih
  | object members _ _ ih =>
    rw [rounded_object]
    refine .object _ _ ?_ ?_
    · rw [List.map_map]
      rfl
    · rw [List.map_map, List.forall₂_map_left_iff, List.forall₂_map_right_iff, List.forall₂_same]
      exact ih

/-- The number with the other sign; other values have none. -/
def negated? : Json → Option Json
  | .number (.floating x) => some (.number (.floating x.neg))
  | _ => none

end Json

namespace Literal

mutual
/-- The value of an expression made of literals, arrays, objects with strings as keys, and minus
signs before numbers. -/
def value? : Tree → Option Json
  | .node .nullLiteral _ [] => some .null
  | .node (.booleanLiteral b) _ [] => some (.bool b)
  | .node (.numberLiteral x _) _ [] => some (.number (.floating x))
  | .node (.stringLiteral s _) _ [] => some (.string s)
  | .node (.unary op) _ [operand] =>
    if op = "-" then (value? operand).bind Json.negated? else none
  | .node .array _ items => (values? items).map .array
  | .node .object _ members => (members? members).map .object
  | _ => none

/-- The values of the elements of an array. -/
def values? : List Tree → Option (List Json)
  | [] => some []
  | item :: items => do return (← value? item) :: (← values? items)

/-- The members of an object. -/
def members? : List Tree → Option (List (String × Json))
  | [] => some []
  | .node .property _ [.node (.stringLiteral key _) _ [], value] :: members => do
    return (key, ← value? value) :: (← members? members)
  | _ => none
end

/-! ### Reading back -/

theorem values?_map {items : List Json} {f : Json → Tree} {g : Json → Json}
    (h : ∀ v ∈ items, value? (f v) = some (g v)) :
    values? (items.map f) = some (items.map g) := by
  induction items with
  | nil => rfl
  | cons item items ih =>
    have hitem := h item List.mem_cons_self
    have hitems := ih fun v hv => h v (List.mem_cons_of_mem _ hv)
    rw [List.map_cons, values?, hitem, hitems]
    rfl

/-- The expression of a member. -/
def member (span : Span) (m : String × Json) : Tree :=
  .node .property span [string span m.1, ofJson span m.2]

theorem members?_map {span : Span} {members : List (String × Json)} {g : Json → Json}
    (h : ∀ m ∈ members, value? (ofJson span m.2) = some (g m.2)) :
    members? (members.map (member span)) = some (members.map fun m => (m.1, g m.2)) := by
  induction members with
  | nil => rfl
  | cons m members ih =>
    have hm := h m List.mem_cons_self
    have hmembers := ih fun m' hm' => h m' (List.mem_cons_of_mem _ hm')
    rw [List.map_cons, member, string, members?, hm, hmembers]
    rfl

theorem ofJson_array (span : Span) (items : List Json) :
    ofJson span (.array items) = .node .array span (items.map (ofJson span)) := by
  have h : ofItems span items = items.map (ofJson span) := by
    induction items with
    | nil => rfl
    | cons item items ih => rw [ofItems, ih, List.map_cons]
  rw [ofJson, h]

theorem ofJson_object (span : Span) (members : List (String × Json)) :
    ofJson span (.object members) = .node .object span (members.map (member span)) := by
  have h : ofMembers span members = members.map (member span) := by
    induction members with
    | nil => rfl
    | cons m members ih => rw [ofMembers, ih, List.map_cons, member]
  rw [ofJson, h]

/-- A number has a minus sign before it exactly when it is below zero. -/
theorem ofNumber_cases (span : Span) (x : Binary64) :
    (x.isNegative = true ∧ x.isZero = false ∧
        ofNumber span x = .node (.unary "-") span [number span x.neg]) ∨
      ((x.isNegative = true → x.isZero = true) ∧ ofNumber span x = number span x) := by
  unfold ofNumber
  split
  · rename_i h
    rw [Bool.and_eq_true, Bool.not_eq_true'] at h
    exact .inl ⟨h.1, h.2, rfl⟩
  · rename_i h
    rw [Bool.and_eq_true, Bool.not_eq_true', not_and, Bool.not_eq_false] at h
    exact .inr ⟨h, rfl⟩

theorem value?_ofNumber (span : Span) (x : Binary64) :
    value? (ofNumber span x) = some (.number (.floating x)) := by
  rcases ofNumber_cases span x with ⟨-, -, h⟩ | ⟨-, h⟩
  · rw [h, value?, if_pos rfl, number, value?, Option.bind_some, Json.negated?,
      Binary64.neg_involutive]
  · rw [h, number, value?]

/-- The expression of a value reads back as the value with its numbers rounded. -/
theorem value?_ofJson (span : Span) (j : Json) : value? (ofJson span j) = some j.rounded := by
  induction j using Json.inductionOn with
  | null => rfl
  | bool b => rfl
  | number n => rw [ofJson, value?_ofNumber, Json.rounded]
  | string s => rfl
  | array items ih =>
    rw [ofJson_array, value?, values?_map ih, Json.rounded_array]
    rfl
  | object members ih =>
    rw [ofJson_object, value?, members?_map ih, Json.rounded_object]
    rfl

/-! ### Signs and keys -/

/-- The key of a member of an object, if it is a string. -/
def key? : Tree → Option String
  | .node .property _ [.node (.stringLiteral key _) _ [], _] => some key
  | _ => none

/-- What every node of the expression of a value satisfies. A sign is a minus sign before the
literal of a positive number, a literal has no sign of its own unless it is a zero, and an object
has no key twice. -/
structure Regular (t : Tree) : Prop where
  unary (op : String) : t.kind = .unary op →
    op = "-" ∧ ∃ span x, t.children = [number span x] ∧ x.IsFinite ∧ 0 < x.value
  numberLiteral (x : Binary64) (raw : Option String) : t.kind = .numberLiteral x raw →
    x.IsFinite ∧ (x.isNegative = true → x.isZero = true)
  object : t.kind = .object →
    ∃ keys : List String, t.children.map key? = keys.map some ∧ keys.Nodup

/-- The kinds that say nothing about signs or keys. -/
inductive Plain : Kind → Prop
  | nullLiteral : Plain .nullLiteral
  | booleanLiteral (b : Bool) : Plain (.booleanLiteral b)
  | stringLiteral (s : String) (raw : Option String) : Plain (.stringLiteral s raw)
  | array : Plain .array
  | property : Plain .property

theorem Plain.regular {k : Kind} (h : Plain k) (span : Span) (cs : List Tree) :
    Regular (.node k span cs) where
  unary op hop := by cases h <;> cases hop
  numberLiteral x raw hx := by cases h <;> cases hx
  object ho := by cases h <;> cases ho

theorem regular_number {span : Span} {x : Binary64} (hx : x.IsFinite)
    (hsign : x.isNegative = true → x.isZero = true) : Regular (number span x) where
  unary _ h := by cases h
  numberLiteral _ _ h := by
    cases h
    exact ⟨hx, hsign⟩
  object h := by cases h

theorem regular_minus {span : Span} {x : Binary64} (hx : x.IsFinite) (hpos : 0 < x.value) :
    Regular (.node (.unary "-") span [number span x]) where
  unary _ h := by
    cases h
    exact ⟨rfl, span, x, rfl, hx, hpos⟩
  numberLiteral _ _ h := by cases h
  object h := by cases h

theorem regular_object {span : Span} {members : List (String × Json)}
    (hkeys : (members.map (·.1)).Nodup) :
    Regular (.node .object span (members.map (member span))) where
  unary _ h := by cases h
  numberLiteral _ _ h := by cases h
  object _ := by
    refine ⟨members.map (·.1), ?_, hkeys⟩
    rw [Tree.children, List.map_map, List.map_map]
    rfl

/-- The node of a literal is its only one. -/
theorem regular_of_leaf {k : Kind} {span : Span} (h : Regular (.node k span [])) :
    ∀ t ∈ (Syntax.Tree.node k span []).nodes, Regular t :=
  Tree.forall_mem_nodes_node.mpr ⟨h, fun _ hc => absurd hc List.not_mem_nil⟩

/-- The nodes of a number are the literal and, for a number below zero, the sign before it. -/
theorem regular_ofNumber {x : Binary64} (hx : x.IsFinite) (span : Span) :
    ∀ t ∈ (ofNumber span x).nodes, Regular t := by
  rcases ofNumber_cases span x with ⟨hnegative, hzero, h⟩ | ⟨hsign, h⟩
  · have hsign : x.neg.isNegative = false := by rw [Binary64.isNegative_neg, hnegative]; rfl
    have hfinite : x.neg.IsFinite := Binary64.isFinite_neg.mpr hx
    have hpos : 0 < x.neg.value :=
      Binary64.value_pos_iff.mpr ⟨hsign, by rw [Binary64.isZero_neg, hzero]⟩
    have hliteral : Regular (number span x.neg) :=
      regular_number hfinite fun h => absurd h (by rw [hsign]; exact Bool.false_ne_true)
    rw [h, Tree.forall_mem_nodes_node, List.forall_mem_singleton]
    exact ⟨regular_minus hfinite hpos, regular_of_leaf hliteral⟩
  · rw [h]
    exact regular_of_leaf (regular_number hx hsign)

/-- Every node of the expression of a well-formed value is regular. -/
theorem regular_ofJson {j : Json} (h : j.WellFormed) (span : Span) :
    ∀ t ∈ (ofJson span j).nodes, Regular t := by
  induction h with
  | null => exact regular_of_leaf (Plain.nullLiteral.regular span [])
  | bool b => exact regular_of_leaf ((Plain.booleanLiteral b).regular span [])
  | number n hn => exact regular_ofNumber (Json.Number.toBinary64_nearest hn).finite span
  | string s => exact regular_of_leaf ((Plain.stringLiteral s none).regular span [])
  | array items _ ih =>
    rw [ofJson_array, Tree.forall_mem_nodes_node, List.forall_mem_map]
    exact ⟨Plain.array.regular span _, ih⟩
  | object members hkeys _ ih =>
    rw [ofJson_object, Tree.forall_mem_nodes_node, List.forall_mem_map]
    refine ⟨regular_object hkeys, fun m hm => ?_⟩
    -- a member stands over its key and its value
    rw [member, Tree.forall_mem_nodes_node, List.forall_mem_cons, List.forall_mem_singleton]
    exact ⟨Plain.property.regular span _,
      regular_of_leaf ((Plain.stringLiteral m.1 none).regular span []), ih m hm⟩

/-- The expression of a value of any nesting reads back as the value with its numbers rounded, the
elements and members in their order. For a well-formed value these are the nearest numbers, and in
its expression a sign stands only before the literal of a positive number, only a zero has a sign of
its own, and no object has a key twice. -/
theorem ofJson_reads_back (span : Span) (j : Json) :
    value? (ofJson span j) = some j.rounded ∧
      (j.WellFormed → j.RoundsTo j.rounded ∧ ∀ t ∈ (ofJson span j).nodes, Regular t) :=
  ⟨value?_ofJson span j, fun h => ⟨Json.roundsTo_rounded h, regular_ofJson h span⟩⟩

/-- `\x7b"a": [-3, -0.0, 1.5], "b": null\x7d`, where the sign of `-3` is written before the literal
and that of `-0.0` in it. -/
theorem ofJson_reads_back_nested :
    let a : Json := .array [.number (.whole (-3)), .number (.floating Binary64.zero.neg),
      .number (.floating ⟨0x3FF8000000000000⟩)]
    let j : Json := .object [("a", a), ("b", .null)]
    let three : Json := .number (.floating ⟨0xC008000000000000⟩)
    j.WellFormed ∧
      value? (ofJson ⟨3, 4⟩ j) = some (.object [("a", .array [three,
        .number (.floating Binary64.zero.neg), .number (.floating ⟨0x3FF8000000000000⟩)]),
        ("b", .null)]) ∧
      j.RoundsTo j.rounded ∧ ∀ t ∈ (ofJson ⟨3, 4⟩ j).nodes, Regular t := by
  intro a j three
  have ha : a.WellFormed := by
    refine .array _ fun v hv => ?_
    rcases List.mem_cons.mp hv with rfl | hv
    · exact .number _ ⟨by decide, by decide⟩
    rcases List.mem_cons.mp hv with rfl | hv
    · exact .number _ (show Binary64.zero.neg.IsFinite by decide)
    · obtain rfl := List.mem_singleton.mp hv
      exact .number _ (show Binary64.IsFinite _ by decide)
  have hj : j.WellFormed := by
    refine .object _ (by decide) fun m hm => ?_
    rcases List.mem_cons.mp hm with rfl | hm
    · exact ha
    · obtain rfl := List.mem_singleton.mp hm
      exact .null
  obtain ⟨hvalue, hregular⟩ := ofJson_reads_back ⟨3, 4⟩ j
  exact ⟨hj, hvalue.trans rfl, hregular hj⟩

end Literal

end EnvInline
