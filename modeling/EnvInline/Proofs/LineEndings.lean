import EnvInline.Proofs.DefinitionText

/-!
# Spellings of line breaks

A line break may be spelled LF, CR LF or CR, and a file may mix the three. How it spells its breaks
does not matter to what is read from it.

* `Respelled` — a text with each of its line breaks spelled in one of the three ways;
* `normalizeBreaks_eq` — CR LF is replaced first, and what is left of CR after it;
* `respelled_iff` — the spellings of a text are the texts that come to it by this;
* `read_respelled` — all of them are read alike.
-/

namespace EnvInline.Text

/-- The spellings of a line break. -/
inductive LineBreak where
  | lf
  | crlf
  | cr
deriving DecidableEq, Repr

/-- The characters of a line break. -/
def LineBreak.chars : LineBreak → List Char
  | .lf => ['\n']
  | .crlf => ['\r', '\n']
  | .cr => ['\r']

/-- The second text spells each line break of the first in one of the three ways. A CR does not
stand directly before a break that is spelled LF: both together would be one break. -/
inductive Respelled : List Char → List Char → Prop
  | nil : Respelled [] []
  | char {c : Char} {text spelled : List Char} :
    c ≠ '\n' → Respelled text spelled → Respelled (c :: text) (c :: spelled)
  | lineBreak {b : LineBreak} {text spelled : List Char} :
    (b = .cr → spelled.head? ≠ some '\n') → Respelled text spelled →
    Respelled ('\n' :: text) (b.chars ++ spelled)

/-- Every CR LF becomes LF. -/
def replacePairs : List Char → List Char
  | [] => []
  | '\r' :: '\n' :: r => '\n' :: replacePairs r
  | c :: r => c :: replacePairs r

/-- Every CR becomes LF. -/
def replaceReturns (s : List Char) : List Char :=
  s.map fun c => if c = '\r' then '\n' else c

/-- CR LF is replaced first, and then each CR that is left. -/
theorem normalizeBreaks_eq (s : List Char) :
    normalizeBreaks s = replaceReturns (replacePairs s) := by
  fun_induction normalizeBreaks s with
  | case1 => rfl
  | case2 r ih =>
    rw [ih, replacePairs]
    rfl
  | case3 c r hpair ih =>
    rw [ih, replacePairs]
    · rfl
    · exact hpair

/-- A character is replaced by itself unless it is a CR, and a CR with no LF behind it by a LF. -/
theorem normalizeBreaks_cons {c : Char} {r : List Char} (h : c = '\r' → r.head? ≠ some '\n') :
    normalizeBreaks (c :: r) = (if c = '\r' then '\n' else c) :: normalizeBreaks r := by
  rw [normalizeBreaks]
  rintro r' hc rfl
  exact h hc rfl

theorem return_notMem_normalizeBreaks (s : List Char) : '\r' ∉ normalizeBreaks s := by
  rw [normalizeBreaks_eq, replaceReturns, List.mem_map]
  rintro ⟨c, -, hc⟩
  split at hc
  · exact absurd hc (by decide)
  · contradiction

/-- However the breaks of a text are spelled, it comes to the same. -/
theorem normalizeBreaks_of_respelled {text spelled : List Char} (hreturn : '\r' ∉ text)
    (h : Respelled text spelled) : normalizeBreaks spelled = text := by
  induction h with
  | nil => rfl
  | @char c text spelled _ _ ih =>
    obtain ⟨hc, htext⟩ := not_or.mp (mt List.mem_cons.mpr hreturn)
    have hc' : c ≠ '\r' := Ne.symm hc
    rw [normalizeBreaks_cons fun h => (hc' h).elim, if_neg hc', ih htext]
  | @lineBreak b text spelled hapart _ ih =>
    have htext : '\r' ∉ text := fun h => hreturn (List.mem_cons_of_mem _ h)
    cases b with
    | lf =>
      rw [LineBreak.chars, List.singleton_append, normalizeBreaks_cons (by simp),
        if_neg (by decide), ih htext]
    | crlf =>
      rw [LineBreak.chars, List.cons_append, List.singleton_append, normalizeBreaks, ih htext]
    | cr =>
      rw [LineBreak.chars, List.singleton_append, normalizeBreaks_cons fun _ => hapart rfl,
        if_pos rfl, ih htext]

/-- Every text spells the breaks of what it comes to. -/
theorem respelled_normalizeBreaks (s : List Char) : Respelled (normalizeBreaks s) s := by
  fun_induction normalizeBreaks s with
  | case1 => exact .nil
  | case2 r ih => exact .lineBreak (b := .crlf) (by simp) ih
  | case3 c r hpair ih =>
    by_cases hreturn : c = '\r'
    · rw [if_pos hreturn, hreturn]
      refine .lineBreak (b := .cr) (fun _ hhead => ?_) ih
      -- with a LF behind it the CR would have been taken together with it
      obtain ⟨r', rfl⟩ := List.head?_eq_some_iff.mp hhead
      exact hpair r' hreturn rfl
    · rw [if_neg hreturn]
      by_cases hline : c = '\n'
      · rw [hline]
        exact .lineBreak (b := .lf) (by simp) ih
      · exact .char hline ih

/-- The spellings of a text without CR are exactly the texts that come to it. -/
theorem respelled_iff {text spelled : List Char} :
    ('\r' ∉ text ∧ Respelled text spelled) ↔ normalizeBreaks spelled = text := by
  constructor
  · rintro ⟨hreturn, h⟩
    exact normalizeBreaks_of_respelled hreturn h
  · rintro rfl
    exact ⟨return_notMem_normalizeBreaks spelled, respelled_normalizeBreaks spelled⟩

end EnvInline.Text

namespace EnvInline.Definition

open EnvInline.Text

/-- Whatever ways the line breaks of a file are spelled in, the same entries are read from it, and
the same lines are skipped. -/
theorem read_respelled {text spelled : String} (hreturn : '\r' ∉ text.toList)
    (h : Respelled text.toList spelled.toList) : read spelled = read text := by
  have hspelled : normalizeBreaks spelled.toList = text.toList := respelled_iff.mp ⟨hreturn, h⟩
  rw [read_of_notMem hreturn, read, hspelled]

/-- The value of `A` runs over an empty line, whose breaks are spelled CR and CR LF; behind the
value stands another, between CR LF and LF. -/
theorem read_respelled_mixed :
    let text := "A='x\n\ny' # z\n\n?\nB=1"
    let spelled := "A='x\r\r\ny' # z\r\n\n?\rB=1"
    '\r' ∉ text.toList ∧ Respelled text.toList spelled.toList ∧ read spelled = read text ∧
      (read spelled).entries.get? "A" = some "x\n\ny" ∧
      (read spelled).entries.get? "B" = some "1" ∧ (read spelled).skipped = [5] := by
  intro text spelled
  have hnormal : normalizeBreaks spelled.toList = text.toList := by decide +kernel
  obtain ⟨hreturn, h⟩ := respelled_iff.mpr hnormal
  have hread := read_respelled hreturn h
  rw [hread]
  exact ⟨hreturn, h, rfl, by decide +kernel, by decide +kernel, by decide +kernel⟩

/-- A CR before a break that is spelled LF is one break with it. -/
example : (read "?\r\n?").skipped = [1, 2] ∧ (read "?\n\n?").skipped = [1, 3] := by
  decide +kernel

end EnvInline.Definition
