import EnvInline.Proofs.WrittenForm

/-!
# The last quote that can close a value

A quoted value is said of the whole rest of the file at once: of the quotes that can close it, the
last one does. Nothing here speaks of lines that are taken in one at a time, or of a scan.

* `Closes` — a quote can close a value: no quote before it is unescaped, and behind it the line
  holds blanks and a comment at most;
* `expandBreaks_eq` — both sequences for line breaks are replaced, one after the other;
* `read_last_closer` — what is read is what stands before the last of these quotes.
-/

namespace EnvInline.Definition.Quoted

open EnvInline.Text

/-- A line that goes on like this holds no more than blanks, or a comment behind blanks. -/
def BlankToEnd (after : List Char) : Prop :=
  ∃ blanks rest, after = blanks ++ rest ∧ (∀ c ∈ blanks, isBlank c = true ∧ c ≠ '\n') ∧
    (rest = [] ∨ rest.head? = some '\n' ∨ rest.head? = some '#')

/-- A `q` stands behind `raw` that can close a value. -/
def Closes (q : Char) (text raw : List Char) : Prop :=
  ∃ after, text = raw ++ q :: after ∧ AllEscaped q raw ∧ BlankToEnd after

/-- No quote behind `raw` can close the value but the one that stands there. -/
def ClosesLast (q : Char) (text raw : List Char) : Prop :=
  Closes q text raw ∧ ∀ other, Closes q text other → other.length ≤ raw.length

/-- The text with one character for each backslash that stands before the letter, along with the
letter. -/
def replacePair (letter substitute : Char) : List Char → List Char
  | [] => []
  | [c] => [c]
  | c :: d :: r =>
    if c = '\\' ∧ d = letter then substitute :: replacePair letter substitute r
    else c :: replacePair letter substitute (d :: r)

/-- What stands between two quotes is taken as it is, but between double quotes the sequences for
line breaks are replaced, first the one and then the other. -/
def meaning (q : Char) (raw : List Char) : List Char :=
  if q = '"' then replacePair 'r' '\r' (replacePair 'n' '\n' raw) else raw

/-! ## The end of a line -/

/-- A line behind a quote ends well if it is blank or its first character that is not is a `#`. -/
theorem endsLine_eq_true_iff (after : List Char) :
    endsLine after = true ↔
      trimStart (after.takeWhile (· ≠ '\n')) = [] ∨
        (trimStart (after.takeWhile (· ≠ '\n'))).head? = some '#' := by
  rw [endsLine, trim]
  cases hstart : trimStart (after.takeWhile (· ≠ '\n')) with
  | nil => simp [trimEnd]
  | cons c r =>
    have hblank : isBlank c = false := not_of_dropWhile_eq_cons hstart
    rw [trimEnd_cons hblank]
    simp

theorem blankToEnd_of_endsLine {after : List Char} (h : endsLine after = true) :
    BlankToEnd after := by
  have hsplit : after = after.takeWhile (· ≠ '\n') ++ after.dropWhile (· ≠ '\n') :=
    List.takeWhile_append_dropWhile.symm
  have hnext : after.dropWhile (· ≠ '\n') = [] ∨
      (after.dropWhile (· ≠ '\n')).head? = some '\n' := by
    cases hdrop : after.dropWhile (· ≠ '\n') with
    | nil => exact .inl rfl
    | cons c r => simpa using not_of_dropWhile_eq_cons hdrop
  have hline : ∀ c ∈ after.takeWhile (· ≠ '\n'), c ≠ '\n' := by
    intro c hc
    simpa using List.mem_takeWhile_imp hc
  have hcases := (endsLine_eq_true_iff after).mp h
  generalize after.takeWhile (· ≠ '\n') = line at hsplit hline hcases
  refine ⟨line.takeWhile isBlank, trimStart line ++ after.dropWhile (· ≠ '\n'), ?_, ?_, ?_⟩
  · rw [trimStart, ← List.append_assoc, List.takeWhile_append_dropWhile]
    exact hsplit
  · intro c hc
    exact ⟨List.mem_takeWhile_imp hc, hline c ((List.takeWhile_prefix _).subset hc)⟩
  · rcases hcases with hblank | hcomment
    · rw [hblank, List.nil_append]
      exact hnext.imp_right .inl
    · exact .inr (.inr (by rw [List.head?_append, hcomment, Option.some_or]))

theorem endsLine_of_blankToEnd {after : List Char} (h : BlankToEnd after) :
    endsLine after = true := by
  obtain ⟨blanks, rest, rfl, hblanks, hrest⟩ := h
  have hstart : trimStart ((blanks ++ rest).takeWhile (· ≠ '\n')) =
      trimStart (rest.takeWhile (· ≠ '\n')) := by
    rw [List.takeWhile_append_of_pos fun c hc => decide_eq_true (hblanks c hc).2,
      trimStart_append fun c hc => (hblanks c hc).1]
  rw [endsLine_eq_true_iff, hstart]
  rcases hrest with rfl | hline | hcomment
  · exact .inl rfl
  · obtain ⟨r, rfl⟩ := List.head?_eq_some_iff.mp hline
    exact .inl (by simp)
  · obtain ⟨r, rfl⟩ := List.head?_eq_some_iff.mp hcomment
    rw [List.takeWhile_cons_of_pos (by decide), trimStart_cons (by decide)]
    exact .inr rfl

theorem endsLine_iff (after : List Char) : endsLine after = true ↔ BlankToEnd after :=
  ⟨blankToEnd_of_endsLine, endsLine_of_blankToEnd⟩

/-! ## Line breaks -/

theorem replacePair_cons {letter substitute c : Char} {r : List Char}
    (h : ∀ r', c = '\\' → r ≠ letter :: r') :
    replacePair letter substitute (c :: r) = c :: replacePair letter substitute r := by
  cases r with
  | nil => rfl
  | cons d r =>
    rw [replacePair, if_neg]
    rintro ⟨hc, rfl⟩
    exact h r hc rfl

theorem replacePair_pair (letter substitute : Char) (r : List Char) :
    replacePair letter substitute ('\\' :: letter :: r) =
      substitute :: replacePair letter substitute r := by
  rw [replacePair, if_pos ⟨rfl, rfl⟩]

theorem head_of_replacePair {letter substitute c : Char} (hc : c ≠ substitute) {x y : List Char}
    (h : replacePair letter substitute x = c :: y) : ∃ r, x = c :: r := by
  unfold replacePair at h
  split at h
  · cases h
  · exact ⟨[], by rw [(List.cons.inj h).1]⟩
  · split at h
    · exact (hc (List.cons.inj h).1.symm).elim
    · exact ⟨_, by rw [(List.cons.inj h).1]⟩

/-- No break that one replacement makes gets in the way of the other. -/
theorem expandBreaks_eq (raw : List Char) :
    expandBreaks raw = replacePair 'r' '\r' (replacePair 'n' '\n' raw) := by
  fun_induction expandBreaks raw with
  | case1 => rfl
  | case2 r ih => rw [replacePair_pair, replacePair_cons (by simp), ih]
  | case3 r ih =>
    have hfirst : replacePair 'n' '\n' ('\\' :: 'r' :: r) =
        '\\' :: 'r' :: replacePair 'n' '\n' r := by
      rw [replacePair_cons (by simp), replacePair_cons (by simp)]
    rw [hfirst, replacePair_pair, ih]
  | case4 c r hn hr ih =>
    have hnext : ∀ r', c = '\\' → replacePair 'n' '\n' r ≠ 'r' :: r' := by
      intro r' hc h
      obtain ⟨r'', rfl⟩ := head_of_replacePair (by decide) h
      exact hr r'' hc rfl
    rw [replacePair_cons hn, replacePair_cons hnext, ih]

theorem content_eq (q : Char) (raw : List Char) : content q raw = meaning q raw := by
  rw [content, meaning, expandBreaks_eq]

/-! ## The last quote -/

theorem canClose_iff {q : Char} {text : List Char} {place : Nat} :
    CanClose q text place ↔ ∃ raw, Closes q text raw ∧ raw.length = place := by
  constructor
  · rintro ⟨raw, after, htext, hlength, hends, hescaped⟩
    exact ⟨raw, ⟨after, htext, hescaped, (endsLine_iff after).mp hends⟩, hlength⟩
  · rintro ⟨raw, ⟨after, htext, hescaped, hblank⟩, hlength⟩
    exact ⟨raw, after, htext, hlength, (endsLine_iff after).mpr hblank, hescaped⟩

section

variable {q : Char} (hq : q ≠ '\\')
include hq

theorem closing?_eq_some_iff_closesLast {text : List Char} {place : Nat} :
    closing? q text = some place ↔ ∃ raw, ClosesLast q text raw ∧ raw.length = place := by
  rw [closing?_eq_some_iff hq]
  simp only [canClose_iff]
  constructor
  · rintro ⟨⟨raw, hraw, rfl⟩, hlast⟩
    exact ⟨raw, ⟨hraw, fun other hother => hlast _ ⟨other, hother, rfl⟩⟩, rfl⟩
  · rintro ⟨raw, ⟨hraw, hlast⟩, rfl⟩
    refine ⟨⟨raw, hraw, rfl⟩, ?_⟩
    rintro place ⟨other, hother, rfl⟩
    exact hlast other hother

theorem closing?_eq_none_iff_not_closes {text : List Char} :
    closing? q text = none ↔ ∀ raw, ¬ Closes q text raw := by
  rw [closing?_eq_none_iff hq]
  simp only [canClose_iff]
  constructor
  · exact fun h raw hraw => h raw.length ⟨raw, hraw, rfl⟩
  · rintro h place ⟨raw, hraw, -⟩
    exact h raw hraw

/-- If a quote can close the value, there is a last one. -/
theorem exists_closesLast {text raw : List Char} (h : Closes q text raw) :
    ∃ last, ClosesLast q text last := by
  cases hclosing : closing? q text with
  | none => exact ((closing?_eq_none_iff_not_closes hq).mp hclosing raw h).elim
  | some place =>
    obtain ⟨last, hlast, -⟩ := (closing?_eq_some_iff_closesLast hq).mp hclosing
    exact ⟨last, hlast⟩

end

/-! ## The value -/

section

variable {q : Char} (hq : isQuote q = true) (text : List Char) (following : List (List Char))
include hq

theorem read_eq_map_closing? :
    read q text following =
      (closing? q (joinLines (text :: following))).map
        (enclosed q (joinLines (text :: following))) := by
  obtain ⟨hescape, hline, -⟩ := isQuote_ne hq
  rw [read_eq_readWhole hescape hline, readWhole, foldl_lines]

theorem read_eq_some_iff {value : List Char} {used : Nat} :
    read q text following = some (value, used) ↔
      ∃ raw, ClosesLast q (joinLines (text :: following)) raw ∧ value = meaning q raw ∧
        used = raw.count '\n' := by
  obtain ⟨hescape, -, -⟩ := isQuote_ne hq
  rw [read_eq_map_closing? hq, Option.map_eq_some_iff]
  simp only [closing?_eq_some_iff_closesLast hescape]
  have henclosed : ∀ {whole raw : List Char}, ClosesLast q whole raw →
      enclosed q whole raw.length = (meaning q raw, raw.count '\n') := by
    rintro whole raw ⟨⟨after, rfl, -⟩, -⟩
    rw [enclosed_eq, content_eq]
  constructor
  · rintro ⟨place, ⟨raw, hraw, rfl⟩, hpair⟩
    rw [henclosed hraw, Prod.mk.injEq] at hpair
    exact ⟨raw, hraw, hpair.1.symm, hpair.2.symm⟩
  · rintro ⟨raw, hraw, rfl, rfl⟩
    exact ⟨raw.length, ⟨raw, hraw, rfl⟩, henclosed hraw⟩

theorem read_eq_none_iff :
    read q text following = none ↔ ∀ raw, ¬ Closes q (joinLines (text :: following)) raw := by
  obtain ⟨hescape, -, -⟩ := isQuote_ne hq
  rw [read_eq_map_closing? hq, Option.map_eq_none_iff, closing?_eq_none_iff_not_closes hescape]

end

/-- A quoted value is what stands before the last quote of the whole rest of the file that can close
it, and takes the lines that end in there. There is none exactly if no quote can close it. That
lines are taken in only up to the first quote that is not escaped makes no difference. -/
theorem read_last_closer {q : Char} (hq : isQuote q = true) (text : List Char)
    (following : List (List Char)) :
    let whole := joinLines (text :: following)
    (∀ value used, read q text following = some (value, used) ↔
      ∃ raw, ClosesLast q whole raw ∧ value = meaning q raw ∧ used = raw.count '\n') ∧
    (read q text following = none ↔ ∀ raw, ¬ Closes q whole raw) ∧
    read q text following = readWhole q text following := by
  intro whole
  obtain ⟨hescape, hline, -⟩ := isQuote_ne hq
  refine ⟨?_, read_eq_none_iff hq text following, read_eq_readWhole hescape hline text following⟩
  intro value used
  exact read_eq_some_iff hq text following

/-- The escaped quote of the first line closes the value: it has a comment behind it, and the first
quote that is not escaped does not end its line, so the last one is out of reach. Without the
comment nothing closes it. -/
theorem read_last_closer_comment :
    let following := ["y\" z".toList, "w\"".toList]
    isQuote '"' = true ∧
      read '"' "a\\n\\\" #c".toList following = some ("a\n\\".toList, 0) ∧
      (∃ raw, ClosesLast '"' "a\\n\\\" #c\ny\" z\nw\"".toList raw ∧
        meaning '"' raw = "a\n\\".toList) ∧
      ∀ raw, ¬ Closes '"' "a\\n\\\" c\ny\" z\nw\"".toList raw := by
  intro following
  have hquote : isQuote '"' = true := by decide
  have hread : read '"' "a\\n\\\" #c".toList following = some ("a\n\\".toList, 0) := by
    decide +kernel
  have hnone : read '"' "a\\n\\\" c".toList following = none := by decide +kernel
  obtain ⟨hvalues, -⟩ := read_last_closer hquote "a\\n\\\" #c".toList following
  obtain ⟨-, hvalueless, -⟩ := read_last_closer hquote "a\\n\\\" c".toList following
  obtain ⟨raw, hraw, hvalue, -⟩ := (hvalues _ _).mp hread
  exact ⟨hquote, hread, ⟨raw, hraw, hvalue.symm⟩, hvalueless.mp hnone⟩

end EnvInline.Definition.Quoted
