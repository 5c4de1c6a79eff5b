import Mathlib.Data.List.Perm.Subperm
import EnvInline.Definition.Writer
import EnvInline.Proofs.DefinitionText

/-!
# The line budget of a definition file

Every assignment takes a line break of its own and those of its value, and no two assignments take
the same one (`cost_assigned_le`). So a file with no more breaks than some entries need cannot hold
these entries and an assignment besides (`perm_of_cost_le`).
-/

namespace EnvInline.Definition

open EnvInline.Text

/-- The line breaks that a text stands for between double quotes: its own and those that it writes
as `\n`. -/
def breaks : List Char → Nat
  | [] => 0
  | '\\' :: 'n' :: r => breaks r + 1
  | c :: r => (if c = '\n' then 1 else 0) + breaks r

/-- The line breaks that some entries need, each on lines of its own. -/
def cost : List (String × String) → Nat
  | [] => 0
  | p :: ps => breaks p.2.toList + 1 + cost ps

/-- The text is empty, or its last line has a line break. -/
def EndsLines (text : List Char) : Prop :=
  text = [] ∨ ∃ t, text = t ++ ['\n']

/-! ## Breaks -/

theorem breaks_cons {c : Char} {r : List Char} (h : ∀ r', c = '\\' → r ≠ 'n' :: r') :
    breaks (c :: r) = (if c = '\n' then 1 else 0) + breaks r := by
  rw [breaks]
  exact fun r' hc hr => h r' hc hr

theorem breaks_cons_of_ne {c : Char} (h : c ≠ '\\') (r : List Char) :
    breaks (c :: r) = (if c = '\n' then 1 else 0) + breaks r :=
  breaks_cons fun _ hc => (h hc).elim

theorem breaks_newline (r : List Char) : breaks ('\n' :: r) = breaks r + 1 := by
  rw [breaks_cons_of_ne (by decide), if_pos rfl, Nat.add_comm]

/-- Nothing is counted over the border of two texts, unless the second starts with `n`. -/
theorem breaks_append_cons {c : Char} (hc : c ≠ 'n') (x y : List Char) :
    breaks (x ++ c :: y) = breaks x + breaks (c :: y) := by
  fun_induction breaks x with
  | case1 => simp
  | case2 r ih =>
    rw [List.cons_append, List.cons_append, breaks, ih]
    omega
  | case3 d r hpair ih =>
    have hpair' : ∀ r', d = '\\' → r ++ c :: y ≠ 'n' :: r' := by
      intro r' hd hr
      cases r with
      | nil => exact hc (List.cons.inj hr).1
      | cons e r => exact hpair r hd (by rw [(List.cons.inj hr).1])
    rw [List.cons_append, breaks_cons hpair', ih]
    omega

theorem breaks_append_newline (x y : List Char) :
    breaks (x ++ '\n' :: y) = breaks x + 1 + breaks y := by
  rw [breaks_append_cons (by decide), breaks_newline]
  omega

theorem breaks_eq_zero {x : List Char} (h : ∀ c ∈ x, c ≠ '\\' ∧ c ≠ '\n') : breaks x = 0 := by
  induction x with
  | nil => rfl
  | cons c x ih =>
    obtain ⟨hescape, hline⟩ := h c List.mem_cons_self
    rw [breaks_cons_of_ne hescape, if_neg hline, ih fun d hd => h d (List.mem_cons_of_mem c hd)]

/-- What is counted in two texts is counted in both together. -/
theorem le_breaks_append (x y : List Char) : breaks x + breaks y ≤ breaks (x ++ y) := by
  fun_induction breaks x with
  | case1 => simp
  | case2 r ih =>
    rw [List.cons_append, List.cons_append, breaks]
    omega
  | case3 d r hpair ih =>
    by_cases hnew : ∃ r', d = '\\' ∧ r ++ y = 'n' :: r'
    · obtain ⟨r', rfl, hr⟩ := hnew
      -- the backslash ends the first text: behind it the pair would have been counted
      have hnil : r = [] := by
        cases r with
        | nil => rfl
        | cons e r => exact (hpair r rfl (by rw [(List.cons.inj hr).1])).elim
      subst hnil
      rw [List.nil_append] at hr
      subst hr
      have hy : breaks ('n' :: r') = breaks r' := by
        rw [breaks_cons_of_ne (by decide), if_neg (by decide), Nat.zero_add]
      rw [List.cons_append, List.nil_append, breaks, hy]
      simp [breaks]
    · have hpair' : ∀ r', d = '\\' → r ++ y ≠ 'n' :: r' := fun r' hd hr => hnew ⟨r', hd, hr⟩
      rw [List.cons_append, breaks_cons hpair']
      omega

theorem breaks_le_of_isInfix {x y : List Char} (h : x <:+: y) : breaks x ≤ breaks y := by
  obtain ⟨before, after, rfl⟩ := h
  have h₁ := le_breaks_append (before ++ x) after
  have h₂ := le_breaks_append before x
  omega

open Quoted (expandBreaks content)

theorem head_of_expandBreaks {c : Char} (hline : c ≠ '\n') (hreturn : c ≠ '\r')
    {raw r : List Char} (h : expandBreaks raw = c :: r) : ∃ r', raw = c :: r' := by
  unfold expandBreaks at h
  split at h
  · cases h
  · exact (hline (List.cons.inj h).1.symm).elim
  · exact (hreturn (List.cons.inj h).1.symm).elim
  · exact ⟨_, by rw [(List.cons.inj h).1]⟩

theorem head_of_writeBreaks {c : Char} (hescape : c ≠ '\\') {value r : List Char}
    (h : writeBreaks value = c :: r) : ∃ r', value = c :: r' := by
  unfold writeBreaks at h
  split at h
  · cases h
  · exact (hescape (List.cons.inj h).1.symm).elim
  · exact (hescape (List.cons.inj h).1.symm).elim
  · exact ⟨_, by rw [(List.cons.inj h).1]⟩

theorem writeBreaks_cons {c : Char} (hline : c ≠ '\n') (hreturn : c ≠ '\r') (r : List Char) :
    writeBreaks (c :: r) = c :: writeBreaks r := by
  rw [writeBreaks]
  · exact hline
  · exact hreturn

/-- Reading `\n` as a line break changes what a text holds, not how many breaks it stands for. -/
theorem breaks_expandBreaks (raw : List Char) : breaks (expandBreaks raw) = breaks raw := by
  fun_induction expandBreaks raw with
  | case1 => rfl
  | case2 r ih => rw [breaks_newline, ih, breaks]
  | case3 r ih =>
    rw [breaks_cons_of_ne (by decide), if_neg (by decide), ih]
    have hpair : ∀ r', '\\' = '\\' → 'r' :: r ≠ 'n' :: r' := fun r' _ hr => by
      simp at hr
    rw [breaks_cons hpair, breaks_cons_of_ne (by decide), if_neg (by decide), if_neg (by decide)]
    omega
  | case4 c r hn hr ih =>
    have hpair : ∀ r', c = '\\' → r ≠ 'n' :: r' := fun r' hc h => hn r' hc h
    have hpair' : ∀ r', c = '\\' → expandBreaks r ≠ 'n' :: r' := by
      intro r' hc h
      obtain ⟨r'', hr⟩ := head_of_expandBreaks (by decide) (by decide) h
      exact hn r'' hc hr
    rw [breaks_cons hpair, breaks_cons hpair', ih]

theorem breaks_content (q : Char) (raw : List Char) : breaks (content q raw) = breaks raw := by
  rw [content]
  split
  · exact breaks_expandBreaks raw
  · rfl

/-- Writing a line break as `\n` leaves it a line break to count. -/
theorem breaks_writeBreaks (value : List Char) : breaks (writeBreaks value) = breaks value := by
  fun_induction breaks value with
  | case1 => rfl
  | case2 r ih =>
    rw [writeBreaks_cons (by decide) (by decide), writeBreaks_cons (by decide) (by decide), breaks,
      ih]
  | case3 c r hn ih =>
    by_cases hline : c = '\n'
    · subst hline
      rw [writeBreaks, breaks, ih, if_pos rfl, Nat.add_comm]
    · by_cases hreturn : c = '\r'
      · subst hreturn
        have hpair : ∀ r', '\\' = '\\' → 'r' :: writeBreaks r ≠ 'n' :: r' := fun r' _ h => by
          simp at h
        rw [writeBreaks, breaks_cons hpair, breaks_cons_of_ne (by decide), ih,
          if_neg (by decide), if_neg (by decide), if_neg (by decide), Nat.zero_add]
      · have hpair : ∀ r', c = '\\' → writeBreaks r ≠ 'n' :: r' := by
          intro r' hc h
          obtain ⟨r'', hr⟩ := head_of_writeBreaks (by decide) h
          exact hn r'' hc hr
        rw [writeBreaks_cons hline hreturn, breaks_cons hpair, ih]

/-! ## The budget -/

@[simp] theorem cost_nil : cost [] = 0 := rfl

theorem cost_append (ps ps' : List (String × String)) :
    cost (ps ++ ps') = cost ps + cost ps' := by
  induction ps with
  | nil => rw [List.nil_append, cost, Nat.zero_add]
  | cons p ps ih =>
    rw [List.cons_append, cost, cost, ih]
    omega

theorem cost_perm {ps ps' : List (String × String)} (h : ps.Perm ps') : cost ps = cost ps' := by
  induction h with
  | nil => rfl
  | cons p _ ih => rw [cost, cost, ih]
  | swap p p' ps =>
    rw [cost, cost, cost, cost]
    omega
  | trans _ _ ih₁ ih₂ => exact ih₁.trans ih₂

theorem endsLines_of_suffix {text : List Char} (h : EndsLines text) {x y : List Char}
    (hsplit : text = x ++ y) : EndsLines y := by
  cases y using List.reverseRecOn with
  | nil => exact Or.inl rfl
  | append_singleton y c =>
    right
    rcases h with h | ⟨t, ht⟩
    · rw [h] at hsplit
      simp at hsplit
    · rw [ht, ← List.append_assoc] at hsplit
      obtain ⟨-, hc⟩ := List.append_inj' hsplit rfl
      exact ⟨y, by rw [hc]⟩

theorem cost_assignments_le {role : Role} {l : List Char}
    (h : ∀ name value, role = .assignment name value → value.toList <:+: l) :
    cost (assignments [role]) ≤ breaks l + 1 := by
  cases role with
  | assignment name value =>
    have hvalue := breaks_le_of_isInfix (h name value rfl)
    rw [assignments_singleton, cost, cost_nil]
    exact Nat.succ_le_succ hvalue
  | blank => exact Nat.zero_le _
  | malformed => exact Nat.zero_le _
  | continuation => exact Nat.zero_le _

/-- Behind a character of such a text stands the end of its line. -/
theorem exists_line_behind {x after : List Char} {q : Char} (h : EndsLines (x ++ q :: after))
    (hq : q ≠ '\n') : ∃ l rest, '\n' ∉ l ∧ after = l ++ '\n' :: rest ∧ EndsLines rest := by
  have hmem : '\n' ∈ after := by
    rcases endsLines_of_suffix h rfl with hnil | ⟨t, ht⟩
    · cases hnil
    · cases t with
      | nil => exact (hq (List.cons.inj ht).1).elim
      | cons d t => simp [(List.cons.inj ht).2]
  rcases newline_cases after with hnone | ⟨l, rest, hl, rfl⟩
  · exact (hnone hmem).elim
  · exact ⟨l, rest, hl, rfl, endsLines_of_suffix h (x := x ++ q :: (l ++ ['\n'])) (by simp)⟩

/-- Reading a line takes a stretch of the text away that can pay for the assignment, and what is left
is read afresh. -/
theorem exists_step {l rest : List Char} (hl : '\n' ∉ l) (h : EndsLines (l ++ '\n' :: rest)) :
    ∃ role x left, l ++ '\n' :: rest = x ++ '\n' :: left ∧
      assigned (l ++ '\n' :: rest) = assignments [role] ++ assigned left ∧
      cost (assignments [role]) ≤ breaks x + 1 := by
  rcases readLine_cases l rest with
    ⟨role, hrole, hpart⟩ | ⟨name, q, before, raw, after, hquote, hsplit, hbefore, hrole⟩
  · exact ⟨role, l, rest, rfl, assigned_newline hl hrole List.drop_zero,
      cost_assignments_le hpart⟩
  · -- the value takes the lines that end between its quotes, and the rest of its last line
    obtain ⟨-, hline, -⟩ := isQuote_ne hquote
    have hquoted : EndsLines (before ++ q :: raw ++ q :: after) := by
      rw [List.append_assoc, List.cons_append, ← hsplit]
      exact h
    -- the file ends in a line break, so there is one behind the closing quote
    obtain ⟨tail, left, htail, rfl, -⟩ := exists_line_behind hquoted hline
    have hstretch : l ++ '\n' :: rest = before ++ q :: (raw ++ q :: tail) ++ '\n' :: left := by
      rw [hsplit]
      simp
    have hcount : (before ++ q :: (raw ++ q :: tail)).count '\n' = raw.count '\n' := by
      have hnone : '\n' ∉ before := fun hmem => hl (hbefore.subset hmem)
      simp [List.count_eq_zero_of_not_mem hnone, List.count_eq_zero_of_not_mem htail,
        List.count_cons_of_ne hline]
    have hleft : (splitLines rest).drop (raw.count '\n') = splitLines left :=
      hcount ▸ drop_rest hl hstretch
    have hraw : breaks raw ≤ breaks (before ++ q :: (raw ++ q :: tail)) :=
      breaks_le_of_isInfix ⟨before ++ [q], q :: tail, by simp⟩
    refine ⟨_, _, left, hstretch, assigned_newline hl hrole hleft, ?_⟩
    rw [assignments_singleton, cost, cost_nil, String.toList_ofList, breaks_content]
    exact Nat.succ_le_succ hraw

/-- The assignments of a file need no more line breaks than it has. -/
theorem cost_assigned_le (text : List Char) (h : EndsLines text) :
    cost (assigned text) ≤ breaks text := by
  -- by induction on the length, since a step may take many lines away
  induction hn : text.length using Nat.strong_induction_on generalizing text with
  | _ n ih =>
    rcases newline_cases text with hnone | ⟨l, rest, hl, rfl⟩
    · rcases h with rfl | ⟨t, rfl⟩
      · exact Nat.zero_le _
      · simp at hnone
    · obtain ⟨role, x, left, hsplit, hassigned, hown⟩ := exists_step hl h
      have hlength : left.length < n := by
        rw [hsplit] at hn
        simp only [List.length_append, List.length_cons] at hn
        omega
      have hlines : EndsLines left :=
        endsLines_of_suffix h (x := x ++ ['\n']) (by rw [hsplit]; simp)
      have hleft := ih left.length hlength left hlines rfl
      rw [hassigned, cost_append, hsplit, breaks_append_newline]
      omega

/-- A file that can pay for some entries only and holds them all holds nothing else. -/
theorem perm_of_cost_le {ps assigned : List (String × String)} (hnodup : ps.Nodup)
    (hsubset : ps ⊆ assigned) (hcost : cost assigned ≤ cost ps) : assigned.Perm ps := by
  obtain ⟨ps', hperm, hsublist⟩ := List.subperm_of_subset hnodup hsubset
  obtain ⟨others, hothers⟩ := hsublist.exists_perm_append
  have hsum : cost assigned = cost ps + cost others := by
    rw [cost_perm hothers, cost_append, cost_perm hperm]
  cases others with
  | nil =>
    rw [List.append_nil] at hothers
    exact hothers.trans hperm
  | cons p others =>
    -- one more assignment would need one more break
    rw [cost] at hsum
    omega

end EnvInline.Definition
