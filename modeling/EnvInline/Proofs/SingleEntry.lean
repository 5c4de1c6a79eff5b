import EnvInline.Proofs.WrittenForm

/-!
# A file of one entry

Where nothing stands behind an entry, its closing quote is the last one of the file, so a backslash
at the end of the value does no harm, and whether the value is read back depends on the value alone.

* `kept_iff_alone` — what stands behind an entry matters only to a backslash at the end;
* `kept_nil_iff` — what a value must not hold where nothing stands behind it;
* `read_single_iff` — exactly these values are read back, and no other reading of the text comes to
  the same entries.
-/

namespace EnvInline.Definition

open EnvInline.Text Quoted

/-! ## One value -/

instance (text : List Char) : Decidable (AllEscaped '"' text) :=
  decidable_of_iff _ (allEscaped_iff (by decide)).symm

theorem not_swallows_nil (q : Char) : ¬ Swallows q [] := by
  rintro ⟨place, before, after, hsplit, -⟩
  simp at hsplit

/-- What stands behind an entry matters only to a value that ends in a backslash. -/
theorem kept_iff_alone (value later : List Char) :
    Kept value later ↔
      Kept value [] ∧ (EndsEscaped value → ¬ Swallows (quoteOf value) later) := by
  constructor
  · intro h
    exact ⟨⟨h.literal, h.inner, fun _ => not_swallows_nil _⟩, h.last⟩
  · rintro ⟨h, hlast⟩
    exact ⟨h.literal, h.inner, hlast⟩

/-- Double quotes are for values that neither single quotes nor backticks suit. -/
theorem quoteOf_eq_double_iff (value : List Char) :
    quoteOf value = '"' ↔ '\r' ∈ value ∨ '\'' ∈ value ∧ '`' ∈ value := by
  unfold quoteOf
  by_cases hreturn : '\r' ∈ value
  · simp [hreturn]
  · by_cases hsingle : '\'' ∈ value
    · by_cases hback : '`' ∈ value <;> simp [hreturn, hsingle, hback]
    · simp [hreturn, hsingle]

/-- In front of nothing a value is kept if single quotes or backticks suit it, or if it holds
nothing that double quotes would change or end at. -/
theorem kept_nil_iff (value : List Char) :
    Kept value [] ↔
      '\r' ∉ value ∧ ('\'' ∉ value ∨ '`' ∉ value) ∨
        ¬ ['\\', 'n'] <:+: value ∧ ¬ ['\\', 'r'] <:+: value ∧ AllEscaped '"' value := by
  have hothers : quoteOf value ≠ '"' ↔ '\r' ∉ value ∧ ('\'' ∉ value ∨ '`' ∉ value) := by
    rw [ne_eq, quoteOf_eq_double_iff, not_or, not_and_or]
  rw [← hothers]
  constructor
  · intro h
    by_cases hdouble : quoteOf value = '"'
    · obtain ⟨hn, hr⟩ := h.literal hdouble
      exact .inr ⟨hn, hr, h.inner hdouble⟩
    · exact .inl hdouble
  · rintro (hother | ⟨hn, hr, hescaped⟩)
    · exact kept_of_ne hother fun _ => not_swallows_nil _
    · exact
        { literal := fun _ => ⟨hn, hr⟩
          inner := fun _ => hescaped
          last := fun _ => not_swallows_nil _ }

/-! ## The file -/

theorem toList_singleton (name value : String) :
    (Mapping.empty.insert name value).toList = [(name, value)] := rfl

/-- An entry takes all the line breaks of its file, so nothing else can be read from there along
with it. -/
theorem kept_of_mem_assigned {name value : String} (hname : IsName name)
    (h : (name, value) ∈ assigned (written [(name, value)])) : Kept value.toList [] := by
  have hnames : ∀ p ∈ [(name, value)], IsName p.1 := List.forall_mem_singleton.mpr hname
  have hcost : cost (assigned (written [(name, value)])) ≤ cost [(name, value)] := by
    rw [← breaks_written hnames]
    exact cost_assigned_le _ (endsLines_written _)
  have hsubset : [(name, value)] ⊆ assigned (written [(name, value)]) := by simpa using h
  have hperm := perm_of_cost_le (by simp) hsubset hcost
  have hkept := allKept_of_perm hnames (by simp) hperm
  exact (allKept_cons.mp hkept).1

/-- The file of one entry is read as exactly that entry if and only if the value suits its quotes:
it holds no carriage return and lacks single quotes or backticks, or it holds neither of the
sequences for line breaks and no double quote that is not escaped. -/
theorem read_single_iff {name : String} (hname : IsName name) (value : String) :
    (read (String.ofList (name.toList ++ '=' :: quote value.toList ++ ['\n']))).entries =
        Mapping.empty.insert name value ↔
      '\r' ∉ value.toList ∧ ('\'' ∉ value.toList ∨ '`' ∉ value.toList) ∨
        ¬ ['\\', 'n'] <:+: value.toList ∧ ¬ ['\\', 'r'] <:+: value.toList ∧
          AllEscaped '"' value.toList := by
  have hnames : ∀ p ∈ (Mapping.empty.insert name value).toList, IsName p.1 := by
    rw [toList_singleton]
    exact List.forall_mem_singleton.mpr hname
  have htext : String.ofList (name.toList ++ '=' :: quote value.toList ++ ['\n']) =
      write (Mapping.empty.insert name value) := by
    simp [write, toList_singleton, writeEntry]
  rw [htext, entries_read_write hnames, ← kept_nil_iff, toList_singleton]
  constructor
  · intro hentries
    have hsubset := Mapping.subset_of_ofList_eq hentries
    rw [toList_singleton] at hsubset
    exact kept_of_mem_assigned hname (hsubset List.mem_cons_self)
  · intro hkept
    have hall : AllKept [(name, value)] := allKept_cons.mpr ⟨hkept, allKept_nil⟩
    rw [assigned_written_of_allKept (List.forall_mem_singleton.mpr hname) hall]
    rfl

/-- A value with all three quotes and a carriage return that ends in a backslash is read back, as
its double quote is escaped; where a letter follows the last backslash it is not. -/
theorem read_single_backslash :
    let text := fun value : String =>
      String.ofList ("A".toList ++ '=' :: quote value.toList ++ ['\n'])
    IsName "A" ∧
      (read (text "'`\\\"#\r\n\\")).entries = Mapping.empty.insert "A" "'`\\\"#\r\n\\" ∧
      (read (text "'`\\\"#\r\n\\r")).entries ≠ Mapping.empty.insert "A" "'`\\\"#\r\n\\r" := by
  intro text
  have hname : IsName "A" := by decide
  refine ⟨hname, (read_single_iff hname _).mpr (by decide +kernel), ?_⟩
  intro hread
  exact absurd ((read_single_iff hname _).mp hread) (by decide +kernel)

end EnvInline.Definition
