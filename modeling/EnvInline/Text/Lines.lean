/-!
# Lines

The three spellings of a line break (LF, CR LF, a lone CR) are read as one, and a text is cut at
its breaks. A text with `n` breaks has `n + 1` lines.
-/

namespace EnvInline.Text

/-- Every CR LF and every lone CR becomes LF. -/
def normalizeBreaks : List Char → List Char
  | [] => []
  | '\r' :: '\n' :: r => '\n' :: normalizeBreaks r
  | c :: r => (if c = '\r' then '\n' else c) :: normalizeBreaks r

/-- The text cut at each LF. -/
def splitLines : List Char → List (List Char)
  | [] => [[]]
  | c :: r =>
    if c = '\n' then [] :: splitLines r
    else match splitLines r with
      | [] => [[c]]
      | l :: ls => (c :: l) :: ls

/-- The lines written one after the other with LF between them. -/
def joinLines : List (List Char) → List Char
  | [] => []
  | [l] => l
  | l :: ls => l ++ '\n' :: joinLines ls

theorem splitLines_ne_nil (s : List Char) : splitLines s ≠ [] := by
  cases s with
  | nil => simp [splitLines]
  | cons c r =>
    unfold splitLines
    split
    · simp
    · split <;> simp

/-- Cutting and writing back is the identity. -/
theorem joinLines_splitLines (s : List Char) : joinLines (splitLines s) = s := by
  induction s with
  | nil => rfl
  | cons c r ih =>
    unfold splitLines
    split
    · next h =>
      cases hr : splitLines r with
      | nil => exact absurd hr (splitLines_ne_nil r)
      | cons l ls => rw [← ih, hr, h]; simp [joinLines]
    · cases hr : splitLines r with
      | nil => exact absurd hr (splitLines_ne_nil r)
      | cons l ls =>
        rw [hr] at ih
        cases ls with
        | nil => simp_all [joinLines]
        | cons l' ls => simp_all [joinLines]

end EnvInline.Text
