/-!
# Lists whose elements may fail

What comes of a list when each of its elements is turned into a value or an error: all values, or
the error of the first element that has one (`mapM_eq_ok_iff`, `mapM_eq_error_iff`).
-/

namespace EnvInline.Fallible

/-- What follows something that may fail is done if that does not fail. -/
theorem bind_eq_ok_iff {x : Except ε α} {next : α → Except ε β} {b : β} :
    (x >>= next) = .ok b ↔ ∃ a, x = .ok a ∧ next a = .ok b := by
  cases x <;> simp [bind, Except.bind]

variable {f : α → Except ε β} {l : List α}

/-- All of a list is read if its head and its tail are. -/
theorem mapM_cons_eq_ok_iff {x : α} {bs : List β} :
    (x :: l).mapM f = .ok bs ↔ ∃ b bs', f x = .ok b ∧ l.mapM f = .ok bs' ∧ bs = b :: bs' := by
  rw [List.mapM_cons]
  cases f x with
  | error e => simp [bind, Except.bind]
  | ok b => cases l.mapM f <;> simp [bind, Except.bind, pure, Except.pure, eq_comm]

theorem mapM_cons_eq_error_iff {x : α} {e : ε} :
    (x :: l).mapM f = .error e ↔ f x = .error e ∨ (∃ b, f x = .ok b) ∧ l.mapM f = .error e := by
  rw [List.mapM_cons]
  cases f x with
  | error e' => simp [bind, Except.bind]
  | ok b => cases l.mapM f <;> simp [bind, Except.bind, pure, Except.pure]

/-- A list is read to its end exactly if each of its elements can be read. -/
theorem mapM_eq_ok_iff : (∃ bs, l.mapM f = .ok bs) ↔ ∀ x ∈ l, ∃ b, f x = .ok b := by
  induction l with
  | nil => simp [pure, Except.pure]
  | cons x l ih =>
    rw [List.forall_mem_cons, ← ih]
    simp only [mapM_cons_eq_ok_iff]
    constructor
    · rintro ⟨-, b, bs, hx, hl, -⟩
      exact ⟨⟨b, hx⟩, bs, hl⟩
    · rintro ⟨⟨b, hx⟩, bs, hl⟩
      exact ⟨b :: bs, b, bs, hx, hl, rfl⟩

/-- Otherwise the first element that cannot be read decides the error. -/
theorem mapM_eq_error_iff {e : ε} :
    l.mapM f = .error e ↔
      ∃ before x after, l = before ++ x :: after ∧ (∀ y ∈ before, ∃ b, f y = .ok b) ∧
        f x = .error e := by
  constructor
  · intro h
    induction l with
    | nil => cases h
    | cons x l ih =>
      rcases mapM_cons_eq_error_iff.mp h with hx | ⟨hx, hl⟩
      · exact ⟨[], x, l, rfl, by simp, hx⟩
      · obtain ⟨before, y, after, rfl, hbefore, hy⟩ := ih hl
        exact ⟨x :: before, y, after, rfl, List.forall_mem_cons.mpr ⟨hx, hbefore⟩, hy⟩
  · rintro ⟨before, x, after, rfl, hbefore, hx⟩
    obtain ⟨bs, hbs⟩ := mapM_eq_ok_iff.mpr hbefore
    rw [List.mapM_append, hbs, List.mapM_cons, hx]
    rfl

/-- Of two lists the first one is read first. -/
theorem mapM_append_eq_error_iff {r : List α} {e : ε} :
    (l ++ r).mapM f = .error e ↔
      l.mapM f = .error e ∨ (∃ bs, l.mapM f = .ok bs) ∧ r.mapM f = .error e := by
  rw [List.mapM_append]
  cases l.mapM f with
  | error e' => simp [bind, Except.bind]
  | ok bs => cases r.mapM f <;> simp [bind, Except.bind, pure, Except.pure]

/-- What is read comes from one of the elements. -/
theorem exists_of_mem_mapM {bs : List β} (h : l.mapM f = .ok bs) {b : β} (hb : b ∈ bs) :
    ∃ x ∈ l, f x = .ok b := by
  induction l generalizing bs with
  | nil =>
    cases h
    cases hb
  | cons x l ih =>
    obtain ⟨b', bs', hx, hl, rfl⟩ := mapM_cons_eq_ok_iff.mp h
    rcases List.mem_cons.mp hb with rfl | hb
    · exact ⟨x, List.mem_cons_self, hx⟩
    · obtain ⟨y, hy, hread⟩ := ih hl hb
      exact ⟨y, List.mem_cons_of_mem x hy, hread⟩

end EnvInline.Fallible
