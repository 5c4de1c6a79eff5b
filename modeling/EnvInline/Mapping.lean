/-!
# Mappings

A mapping gives each of finitely many names one text. Its entries are kept in the order of their
names, so two mappings with the same look-ups are the same mapping (`Mapping.ext_get?`).
-/

namespace EnvInline

/-- Names with their values, in strictly increasing order of the names. -/
structure Mapping where
  entries : List (String × String)
  sorted : entries.Pairwise (·.1 < ·.1)
deriving DecidableEq, Repr

namespace Mapping

/-- The mapping without names. -/
def empty : Mapping := ⟨[], .nil⟩

instance : Inhabited Mapping := ⟨empty⟩
instance : EmptyCollection Mapping := ⟨empty⟩

/-- The value under a name in a list of entries. -/
def find? (name : String) : List (String × String) → Option String
  | [] => none
  | (k, v) :: r => if k = name then some v else find? name r

/-- The value of a name. -/
def get? (m : Mapping) (name : String) : Option String :=
  find? name m.entries

/-- Whether a name has a value. -/
def contains (m : Mapping) (name : String) : Bool :=
  (m.get? name).isSome

/-- How many names have a value. -/
def size (m : Mapping) : Nat := m.entries.length

/-- Whether no name has a value. -/
def isEmpty (m : Mapping) : Bool := m.entries.isEmpty

/-- The entries in the order of their names. -/
def toList (m : Mapping) : List (String × String) := m.entries

/-- Puts an entry at its place, over an older one of the same name. -/
def place (name value : String) : List (String × String) → List (String × String)
  | [] => [(name, value)]
  | (k, v) :: r =>
    if name < k then (name, value) :: (k, v) :: r
    else if name = k then (name, value) :: r
    else (k, v) :: place name value r

theorem mem_place {name value : String} {l : List (String × String)} {p : String × String}
    (h : p ∈ place name value l) : p = (name, value) ∨ p ∈ l := by
  induction l with
  | nil => simp_all [place]
  | cons q r ih =>
    obtain ⟨k, v⟩ := q
    unfold place at h
    split at h
    · simpa using h
    · split at h
      · simp only [List.mem_cons] at h ⊢
        exact h.imp_right .inr
      · simp only [List.mem_cons] at h ⊢
        rcases h with h | h
        · exact .inr (.inl h)
        · rcases ih h with h | h
          · exact .inl h
          · exact .inr (.inr h)

theorem lt_of_not_lt_of_ne {a b : String} (h₁ : ¬ a < b) (h₂ : a ≠ b) : b < a := by
  by_cases h : b ≤ a
  · by_cases h' : b < a
    · exact h'
    · exact absurd (String.le_antisymm (String.not_lt.1 h') h) h₂
  · exact absurd (String.not_le.1 h) h₁

theorem sorted_place {name value : String} {l : List (String × String)}
    (h : l.Pairwise (·.1 < ·.1)) : (place name value l).Pairwise (·.1 < ·.1) := by
  induction l with
  | nil => simp [place]
  | cons q r ih =>
    obtain ⟨k, v⟩ := q
    rw [List.pairwise_cons] at h
    unfold place
    split
    · next hlt =>
      refine List.pairwise_cons.2 ⟨fun p hp => ?_, List.pairwise_cons.2 h⟩
      rcases List.mem_cons.1 hp with rfl | hp
      · exact hlt
      · exact String.lt_trans hlt (h.1 p hp)
    · split
      · next heq => subst heq; exact List.pairwise_cons.2 h
      · next hlt hne =>
        refine List.pairwise_cons.2 ⟨fun p hp => ?_, ih h.2⟩
        rcases mem_place hp with rfl | hp
        · exact lt_of_not_lt_of_ne hlt hne
        · exact h.1 p hp

/-- The mapping with `name` set to `value`; an older value of the name is lost. -/
def insert (m : Mapping) (name value : String) : Mapping :=
  ⟨place name value m.entries, sorted_place m.sorted⟩

/-- The mapping that a list of entries describes; of two entries for a name the later counts. -/
def ofList (l : List (String × String)) : Mapping :=
  l.foldl (fun m p => m.insert p.1 p.2) empty

theorem find?_place (name value n : String) (l : List (String × String))
    (h : l.Pairwise (·.1 < ·.1)) :
    find? n (place name value l) = if name = n then some value else find? n l := by
  induction l with
  | nil => simp [place, find?]
  | cons q r ih =>
    obtain ⟨k, v⟩ := q
    rw [List.pairwise_cons] at h
    unfold place
    split
    · simp [find?]
    · split
      · next heq => subst heq; by_cases hn : name = n <;> simp [find?, hn]
      · next hne =>
        simp only [find?, ih h.2]
        by_cases hk : k = n
        · subst hk; simp [hne]
        · simp [hk]

@[simp] theorem get?_empty (n : String) : empty.get? n = none := rfl

/-- Setting a name changes the look-up of that name only. -/
@[simp] theorem get?_insert (m : Mapping) (name value n : String) :
    (m.insert name value).get? n = if name = n then some value else m.get? n :=
  find?_place name value n m.entries m.sorted

theorem find?_eq_none_of_lt {n : String} {l : List (String × String)}
    (h : ∀ p ∈ l, n < p.1) : find? n l = none := by
  induction l with
  | nil => rfl
  | cons q r ih =>
    obtain ⟨k, v⟩ := q
    have hk : k ≠ n := fun e => String.lt_irrefl n (e ▸ h (k, v) (by simp))
    simpa [find?, hk] using ih fun p hp => h p (by simp [hp])

theorem entries_ext {l₁ l₂ : List (String × String)} (h₁ : l₁.Pairwise (·.1 < ·.1))
    (h₂ : l₂.Pairwise (·.1 < ·.1)) (h : ∀ n, find? n l₁ = find? n l₂) : l₁ = l₂ := by
  induction l₁ generalizing l₂ with
  | nil =>
    cases l₂ with
    | nil => rfl
    | cons q r => have := h q.1; simp [find?] at this
  | cons p r ih =>
    obtain ⟨k, v⟩ := p
    cases l₂ with
    | nil => have := h k; simp [find?] at this
    | cons q s =>
      obtain ⟨k', v'⟩ := q
      rw [List.pairwise_cons] at h₁ h₂
      have hk : k = k' := by
        by_cases hlt : k < k'
        · have hn : find? k ((k', v') :: s) = none := find?_eq_none_of_lt fun p hp => by
            rcases List.mem_cons.1 hp with rfl | hp
            · exact hlt
            · exact String.lt_trans hlt (h₂.1 p hp)
          have := h k; rw [hn] at this; simp [find?] at this
        · by_cases heq : k = k'
          · exact heq
          · have hgt := lt_of_not_lt_of_ne hlt heq
            have hn : find? k' ((k, v) :: r) = none := find?_eq_none_of_lt fun p hp => by
              rcases List.mem_cons.1 hp with rfl | hp
              · exact hgt
              · exact String.lt_trans hgt (h₁.1 p hp)
            have := h k'; rw [hn] at this; simp [find?] at this
      subst hk
      have hv : v = v' := by simpa [find?] using h k
      subst hv
      congr 1
      refine ih h₁.2 h₂.2 fun n => ?_
      by_cases hn : k = n
      · subst hn
        rw [find?_eq_none_of_lt h₁.1, find?_eq_none_of_lt h₂.1]
      · simpa [find?, hn] using h n

/-- A mapping is determined by its look-ups. -/
theorem ext_get? {m₁ m₂ : Mapping} (h : ∀ n, m₁.get? n = m₂.get? n) : m₁ = m₂ := by
  cases m₁; cases m₂
  simp only [Mapping.mk.injEq]
  exact entries_ext ‹_› ‹_› h

/-! ## Entries with distinct names -/

theorem find?_eq_lookup (name : String) (l : List (String × String)) :
    find? name l = l.lookup name := by
  induction l with
  | nil => rfl
  | cons p r ih =>
    obtain ⟨k, v⟩ := p
    by_cases h : k = name
    · simp [find?, h]
    · have hne : (name == k) = false := beq_eq_false_iff_ne.mpr (Ne.symm h)
      simp [find?, List.lookup_cons, h, hne, ih]

theorem lookup_toList (m : Mapping) (name : String) : m.toList.lookup name = m.get? name :=
  (find?_eq_lookup name m.entries).symm

theorem nodup_toList (m : Mapping) : (m.toList.map (·.1)).Nodup := by
  rw [List.Nodup, List.pairwise_map]
  exact m.sorted.imp fun h => String.ne_of_lt h

theorem lookup_eq_none_of_notMem {name : String} {l : List (String × String)}
    (h : name ∉ l.map (·.1)) : l.lookup name = none := by
  rw [List.lookup_eq_none_iff]
  intro p hp
  rw [bne_iff_ne]
  intro heq
  exact h (heq ▸ List.mem_map_of_mem hp)

/-- Of entries with distinct names each is found under its name. -/
theorem lookup_eq_some_iff_mem {l : List (String × String)} (h : (l.map (·.1)).Nodup)
    {name value : String} : l.lookup name = some value ↔ (name, value) ∈ l := by
  induction l with
  | nil => simp
  | cons p r ih =>
    obtain ⟨k, v⟩ := p
    rw [List.map_cons, List.nodup_cons] at h
    rw [List.lookup_cons, List.mem_cons, Prod.mk.injEq]
    by_cases hk : name = k
    · subst hk
      have hnone : (name, value) ∉ r := fun hmem =>
        h.1 (List.mem_map.mpr ⟨(name, value), hmem, rfl⟩)
      simp [hnone, eq_comm]
    · have hne : (name == k) = false := beq_eq_false_iff_ne.mpr hk
      simp [hne, hk, ih h.2]

/-- Of several entries for a name the last one counts. -/
theorem get?_ofList (l : List (String × String)) (name : String) :
    (ofList l).get? name = l.reverse.lookup name := by
  have hfold : ∀ m : Mapping,
      (l.foldl (fun m p => m.insert p.1 p.2) m).get? name =
        (l.reverse.lookup name).or (m.get? name) := by
    induction l with
    | nil => intro m; rfl
    | cons p r ih =>
      intro m
      obtain ⟨k, v⟩ := p
      have hlast : [(k, v)].lookup name = if k = name then some v else none := by
        rw [← find?_eq_lookup, find?, find?]
      rw [List.foldl_cons, ih, get?_insert, List.reverse_cons, List.lookup_append, hlast]
      by_cases hk : k = name
      · simp [hk]
      · simp [hk]
  rw [ofList, hfold, get?_empty, Option.or_none]

/-- A mapping is made of its entries. -/
theorem ofList_toList (m : Mapping) : ofList m.toList = m := by
  apply ext_get?
  intro name
  have hreverse : (m.toList.reverse.map (·.1)).Nodup := by
    rw [List.map_reverse]
    exact List.pairwise_reverse.mpr (m.nodup_toList.imp Ne.symm)
  rw [get?_ofList, ← lookup_toList]
  ext value
  rw [lookup_eq_some_iff_mem hreverse, lookup_eq_some_iff_mem m.nodup_toList, List.mem_reverse]

/-- What a mapping of some entries holds is one of them. -/
theorem subset_of_ofList_eq {l : List (String × String)} {m : Mapping} (h : ofList l = m) :
    m.toList ⊆ l := by
  rintro ⟨name, value⟩ hmem
  rw [← lookup_eq_some_iff_mem m.nodup_toList, lookup_toList, ← h, get?_ofList] at hmem
  obtain ⟨before, after, hsplit, -⟩ := List.lookup_eq_some_iff.mp hmem
  rw [← List.mem_reverse, hsplit]
  simp

end Mapping

end EnvInline
