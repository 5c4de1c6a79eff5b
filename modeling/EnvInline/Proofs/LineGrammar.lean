import EnvInline.Proofs.LastCloser

/-!
# The grammar of a line

What a line of a definition file may look like, said as a grammar. A line that stands alone is read
as the grammar says, and as nothing else.

* `Form`, `Spells` — a name, a separator and a text, with or without `export` in front;
* `Denotes` — the value that a text stands for;
* `LineReads` — what a line comes to as a whole;
* `read?_eq_some_iff`, `value_readValue_iff` — the reader finds the name, the text and the value of
  the grammar;
* `read_line_iff` — a file of one line is read as the grammar says.
-/

namespace EnvInline.Definition

open EnvInline.Text

namespace Assignment

/-- A separator stands in front of the text: a `=`, perhaps behind spaces or tabs, or a `:` at once,
where the line ends or a space or tab follows. -/
inductive Separated : List Char → List Char → Prop
  | equals {blanks text : List Char} :
    (∀ c ∈ blanks, isSpaceOrTab c = true) → Separated (blanks ++ '=' :: text) text
  | colonAtEnd : Separated [':'] []
  | colon {c : Char} {text : List Char} :
    isSpaceOrTab c = true → Separated (':' :: c :: text) (c :: text)

/-- The line is a name, a separator and the text. The name is the longest one that the line starts
with. -/
structure Form (line name text : List Char) : Prop where
  named : name ≠ [] ∧ ∀ c ∈ name, isNameChar c = true
  separated : ∃ rest, line = name ++ rest ∧ (∀ c ∈ rest.head?, isNameChar c = false) ∧
    Separated rest text

/-- The line is `export`, a space or tab, perhaps further blanks, and then the rest. -/
def Exports (line rest : List Char) : Prop :=
  ∃ c blanks, line = "export".toList ++ c :: (blanks ++ rest) ∧ isSpaceOrTab c = true ∧
    ∀ b ∈ blanks, isBlank b = true

/-- The line assigns the text to the name. What stands behind `export` is read first; where it has
no such form, the word is a name like any other. -/
inductive Spells (line name text : List Char) : Prop
  | exported {rest : List Char} : Exports line rest → Form rest name text → Spells line name text
  | plain : (∀ rest name' text', Exports line rest → ¬ Form rest name' text') →
    Form line name text → Spells line name text

end Assignment

open Assignment

/-- The value that a text stands for: what is between quotes, if the text opens with a quote that is
closed, and otherwise the part in front of the first `#`, without blanks at its ends. -/
inductive Denotes (text : List Char) : List Char → Prop
  | quoted {blanks behind raw : List Char} {q : Char} :
    (∀ c ∈ blanks, isBlank c = true) → text = blanks ++ q :: behind → Quoted.isQuote q = true →
    Quoted.ClosesLast q behind raw → Denotes text (Quoted.meaning q raw)
  | unquoted :
    (∀ (blanks behind raw : List Char) (q : Char), (∀ c ∈ blanks, isBlank c = true) →
      text = blanks ++ q :: behind → Quoted.isQuote q = true → ¬ Quoted.Closes q behind raw) →
    Denotes text (trim (text.takeWhile (· ≠ '#')))

/-- What a line comes to that stands alone. -/
inductive LineReads (line : List Char) : Definitions → Prop
  | blank : trimStart line = [] ∨ (trimStart line).head? = some '#' → LineReads line ⟨.empty, []⟩
  | assignment {name text value : List Char} :
    Spells (trimStart line) name text → Denotes text value →
    LineReads line ⟨Mapping.empty.insert (String.ofList name) (String.ofList value), []⟩
  | malformed :
    trimStart line ≠ [] → (trimStart line).head? ≠ some '#' →
    (∀ name text, ¬ Spells (trimStart line) name text) → LineReads line ⟨.empty, [1]⟩

/-! ## Names and separators -/

namespace Assignment

theorem isSpaceOrTab_iff {c : Char} : isSpaceOrTab c = true ↔ c = ' ' ∨ c = '\t' := by
  simp [isSpaceOrTab]

theorem afterSeparator?_eq_some_iff {rest text : List Char} :
    afterSeparator? rest = some text ↔ Separated rest text := by
  constructor
  · intro h
    unfold afterSeparator? at h
    split at h
    · next value hdrop =>
      cases h
      have hsplit := List.takeWhile_append_dropWhile (p := isSpaceOrTab) (l := rest)
      rw [hdrop] at hsplit
      rw [← hsplit]
      exact .equals fun c hc => List.mem_takeWhile_imp hc
    · split at h
      · cases h
        exact .colonAtEnd
      · split at h
        · next hblank =>
          cases h
          exact .colon hblank
        · cases h
      · cases h
  · rintro (hblanks | _ | hblank)
    · next blanks =>
      have hdrop : (blanks ++ '=' :: text).dropWhile isSpaceOrTab = '=' :: text := by
        rw [List.dropWhile_append_of_pos hblanks, List.dropWhile_cons_of_neg (by decide)]
      simp only [afterSeparator?, hdrop]
    · rfl
    · have hcolon : isSpaceOrTab ':' = false := rfl
      simp [afterSeparator?, hblank, hcolon]

/-- Behind a name comes no character of a name. -/
theorem Separated.not_isNameChar {rest text : List Char} (h : Separated rest text) :
    ∀ c ∈ rest.head?, isNameChar c = false := by
  have hcolon : isNameChar ':' = false := by decide
  cases h with
  | colonAtEnd => simpa using hcolon
  | colon => simpa using hcolon
  | @equals blanks text hblanks =>
    cases blanks with
    | nil => simp [show isNameChar '=' = false by decide]
    | cons b blanks =>
      intro c hc
      obtain rfl : b = c := by simpa using hc
      rcases isSpaceOrTab_iff.mp (hblanks b List.mem_cons_self) with rfl | rfl <;> decide

theorem split?_eq_some_iff {line name text : List Char} :
    split? line = some (name, text) ↔ Form line name text := by
  have hsplit := List.takeWhile_append_dropWhile (p := isNameChar) (l := line)
  constructor
  · intro h
    simp only [split?] at h
    split at h
    · cases h
    · next hempty =>
      obtain ⟨value, hvalue, hpair⟩ := Option.map_eq_some_iff.mp h
      obtain ⟨rfl, rfl⟩ := Prod.mk.inj hpair
      have hseparated := afterSeparator?_eq_some_iff.mp hvalue
      exact
        { named := ⟨by simpa using hempty, fun c hc => List.mem_takeWhile_imp hc⟩
          separated := ⟨_, hsplit.symm, hseparated.not_isNameChar, hseparated⟩ }
  · rintro ⟨⟨hne, hname⟩, rest, rfl, hnext, hseparated⟩
    have hstop : rest.takeWhile isNameChar = [] ∧ rest.dropWhile isNameChar = rest := by
      cases rest with
      | nil => exact ⟨rfl, rfl⟩
      | cons c rest => simp [hnext c rfl]
    simp only [split?]
    rw [List.takeWhile_append_of_pos hname, List.dropWhile_append_of_pos hname, hstop.1, hstop.2,
      List.append_nil, if_neg (by simpa using hne), afterSeparator?_eq_some_iff.mpr hseparated]
    rfl

/-- A line of this form starts with a character that is no blank. -/
theorem Form.starts {line name text : List Char} (h : Form line name text) :
    trimStart line = line ∧ line ≠ [] ∧ line.head? ≠ some '#' := by
  obtain ⟨⟨hne, hname⟩, rest, rfl, -⟩ := h
  obtain ⟨c, name', rfl⟩ := List.exists_cons_of_ne_nil hne
  obtain ⟨hblank, -, hcomment, -⟩ := isNameChar_ne (hname c List.mem_cons_self)
  exact ⟨trimStart_cons hblank _, by simp, by simpa using hcomment⟩

/-! ## The reading behind the word -/

theorem afterExport?_eq (c : Char) (rest : List Char) :
    afterExport? ("export".toList ++ c :: rest) =
      if isSpaceOrTab c then some (trimStart rest) else none := rfl

theorem exists_of_afterExport? {line rest : List Char} (h : afterExport? line = some rest) :
    Exports line rest := by
  unfold afterExport? at h
  split at h
  · split at h
    · next c r hblank =>
      cases h
      obtain ⟨blanks, hr, hblanks⟩ := exists_blanks r
      exact ⟨c, blanks, by rw [← hr]; rfl, hblank, hblanks⟩
    · cases h
  · cases h

theorem bind_split?_eq_some_iff {line name text : List Char} :
    (afterExport? line).bind split? = some (name, text) ↔
      ∃ rest, Exports line rest ∧ Form rest name text := by
  rw [Option.bind_eq_some_iff]
  constructor
  · rintro ⟨rest, hrest, hsplit⟩
    exact ⟨rest, exists_of_afterExport? hrest, split?_eq_some_iff.mp hsplit⟩
  · rintro ⟨rest, ⟨c, blanks, rfl, hblank, hblanks⟩, hform⟩
    refine ⟨rest, ?_, split?_eq_some_iff.mpr hform⟩
    rw [afterExport?_eq, if_pos hblank, trimStart_append hblanks, hform.starts.1]

/-- The reader finds the assignment that the line spells. -/
theorem read?_eq_some_iff {line name text : List Char} :
    read? line = some (name, text) ↔ Spells line name text := by
  unfold read?
  constructor
  · intro h
    split at h
    · next hbind =>
      cases h
      obtain ⟨rest, hexports, hform⟩ := bind_split?_eq_some_iff.mp hbind
      exact .exported hexports hform
    · next hbind =>
      refine .plain ?_ (split?_eq_some_iff.mp h)
      intro rest name' text' hexports hform
      have hsome := bind_split?_eq_some_iff.mpr ⟨rest, hexports, hform⟩
      rw [hbind] at hsome
      cases hsome
  · rintro (⟨hexports, hform⟩ | ⟨hnone, hform⟩)
    · rw [bind_split?_eq_some_iff.mpr ⟨_, hexports, hform⟩]
    · cases hbind : (afterExport? line).bind split? with
      | none => exact split?_eq_some_iff.mpr hform
      | some p =>
        obtain ⟨rest, hexports, hform'⟩ := bind_split?_eq_some_iff.mp hbind
        exact (hnone rest _ _ hexports hform').elim

theorem read?_eq_none_iff {line : List Char} :
    read? line = none ↔ ∀ name text, ¬ Spells line name text := by
  rw [Option.eq_none_iff_forall_ne_some]
  simp only [Prod.forall, ne_eq, read?_eq_some_iff]

end Assignment

/-! ## Values -/

/-- A text opens with a quote if this is its first character that is no blank. -/
theorem trimStart_eq_quote_iff {text behind : List Char} {q : Char}
    (hq : Quoted.isQuote q = true) :
    trimStart text = q :: behind ↔
      ∃ blanks, (∀ c ∈ blanks, isBlank c = true) ∧ text = blanks ++ q :: behind := by
  constructor
  · intro h
    obtain ⟨blanks, htext, hblanks⟩ := exists_blanks text
    exact ⟨blanks, hblanks, h ▸ htext⟩
  · rintro ⟨blanks, hblanks, rfl⟩
    rw [trimStart_append hblanks, trimStart_cons (isQuote_not_blank hq).1]

theorem unquoted_trimStart (text : List Char) :
    Assignment.unquoted (trimStart text) = trim (text.takeWhile (· ≠ '#')) := by
  obtain ⟨blanks, htext, hblanks⟩ := exists_blanks text
  have hcomment : ∀ c ∈ blanks, decide (c ≠ '#') = true := by
    intro c hc
    rw [decide_eq_true_iff]
    rintro rfl
    exact absurd (hblanks _ hc) (by decide)
  conv_rhs => rw [htext, List.takeWhile_append_of_pos hcomment, trim, trimStart_append hblanks]
  rfl

section

variable {text : List Char}

/-- A quote that can close the value cuts it off. -/
theorem readValue_of_closesLast {q : Char} {behind raw : List Char} (hq : Quoted.isQuote q = true)
    (hstart : trimStart text = q :: behind) (hlast : Quoted.ClosesLast q behind raw) :
    (readValue text []).1 = Quoted.meaning q raw := by
  have hread := (Quoted.read_eq_some_iff hq behind []).mpr ⟨raw, hlast, rfl, rfl⟩
  rw [readValue, hstart]
  simp only [hq, if_true, hread, Option.getD_some]

/-- Without a quote that can close it, a value is read up to the first `#`. -/
theorem readValue_of_not_closes (h : ∀ q behind raw, trimStart text = q :: behind →
      Quoted.isQuote q = true → ¬ Quoted.Closes q behind raw) :
    (readValue text []).1 = trim (text.takeWhile (· ≠ '#')) := by
  rw [← unquoted_trimStart, readValue]
  cases hstart : trimStart text with
  | nil => rfl
  | cons c r =>
    by_cases hq : Quoted.isQuote c = true
    · have hnone := (Quoted.read_eq_none_iff hq r []).mpr fun raw => h c r raw hstart hq
      simp only [hq, if_true, hnone, Option.getD_none]
    · simp only [hq, Bool.false_eq_true, if_false]

/-- The value that is read from the end of the only line is the one that it stands for. -/
theorem value_readValue_iff {value : List Char} :
    (readValue text []).1 = value ↔ Denotes text value := by
  constructor
  · rintro rfl
    by_cases hclosed : ∃ q behind raw, trimStart text = q :: behind ∧ Quoted.isQuote q = true ∧
        Quoted.ClosesLast q behind raw
    · obtain ⟨q, behind, raw, hstart, hq, hlast⟩ := hclosed
      obtain ⟨blanks, hblanks, htext⟩ := (trimStart_eq_quote_iff hq).mp hstart
      rw [readValue_of_closesLast hq hstart hlast]
      exact .quoted hblanks htext hq hlast
    · have hnone : ∀ q behind raw, trimStart text = q :: behind → Quoted.isQuote q = true →
          ¬ Quoted.Closes q behind raw := by
        intro q behind raw hstart hq hcloses
        obtain ⟨last, hlast⟩ := Quoted.exists_closesLast (isQuote_ne hq).1 hcloses
        exact hclosed ⟨q, behind, last, hstart, hq, hlast⟩
      rw [readValue_of_not_closes hnone]
      refine .unquoted ?_
      intro blanks behind raw q hblanks htext hq
      exact hnone q behind raw ((trimStart_eq_quote_iff hq).mpr ⟨blanks, hblanks, htext⟩) hq
  · rintro (⟨hblanks, htext, hq, hlast⟩ | hnone)
    · exact readValue_of_closesLast hq ((trimStart_eq_quote_iff hq).mpr ⟨_, hblanks, htext⟩) hlast
    · refine readValue_of_not_closes ?_
      intro q behind raw hstart hq
      obtain ⟨blanks, hblanks, htext⟩ := (trimStart_eq_quote_iff hq).mp hstart
      exact hnone blanks behind raw q hblanks htext hq

end

/-! ## The line -/

/-- A file without line breaks has one line. -/
theorem read_line {line : String} (hline : '\n' ∉ line.toList) (hreturn : '\r' ∉ line.toList) :
    read line =
      ⟨.ofList (assignments [(readLine line.toList []).1]),
        malformedLines 1 [(readLine line.toList []).1]⟩ := by
  rw [read_of_notMem hreturn, splitLines_of_notMem hline]
  rfl

theorem Assignment.Spells.not_blank {line name text : List Char} (h : Spells line name text) :
    line ≠ [] ∧ line.head? ≠ some '#' := by
  cases h with
  | exported hexports _ =>
    obtain ⟨c, blanks, rfl, -⟩ := hexports
    exact ⟨by simp, by simp⟩
  | plain _ hform => exact hform.starts.2

theorem readLine_of_blank {line : List Char} {following : List (List Char)}
    (h : trimStart line = [] ∨ (trimStart line).head? = some '#') :
    readLine line following = (.blank, 0) := by
  have hblank : ((trimStart line).isEmpty || (trimStart line).head? == some '#') = true := by
    simpa using h
  exact if_pos hblank

theorem readLine_of_not_blank {line : List Char} (following : List (List Char))
    (h : trimStart line ≠ [] ∧ (trimStart line).head? ≠ some '#') :
    readLine line following =
      match read? (trimStart line) with
      | none => (.malformed, 0)
      | some (name, text) =>
        (.assignment (String.ofList name) (String.ofList (readValue text following).1),
          (readValue text following).2) := by
  have hstarts : ¬ ((trimStart line).isEmpty || (trimStart line).head? == some '#') = true := by
    simpa using h
  exact if_neg hstarts

/-- A file of one line is read as the grammar says: as nothing, as one assignment, or as a line that
was skipped. -/
theorem read_line_iff {line : String} (hline : '\n' ∉ line.toList) (hreturn : '\r' ∉ line.toList)
    (d : Definitions) : read line = d ↔ LineReads line.toList d := by
  rw [read_line hline hreturn]
  generalize line.toList = l
  constructor
  · rintro rfl
    by_cases hblank : trimStart l = [] ∨ (trimStart l).head? = some '#'
    · rw [readLine_of_blank hblank]
      exact .blank hblank
    · rw [not_or] at hblank
      rw [readLine_of_not_blank [] hblank]
      cases hread : read? (trimStart l) with
      | none => exact .malformed hblank.1 hblank.2 (read?_eq_none_iff.mp hread)
      | some p => exact .assignment (read?_eq_some_iff.mp hread) (value_readValue_iff.mp rfl)
  · rintro (hblank | ⟨hspells, hvalue⟩ | ⟨hne, hcomment, hnone⟩)
    · rw [readLine_of_blank hblank]
      rfl
    · rw [readLine_of_not_blank [] hspells.not_blank, read?_eq_some_iff.mpr hspells,
        ← value_readValue_iff.mpr hvalue]
      rfl
    · rw [readLine_of_not_blank [] ⟨hne, hcomment⟩, read?_eq_none_iff.mpr hnone]
      rfl

/-- Behind `export` any blanks may follow the first one, and a quote that nothing closes belongs to
the value. Where no assignment follows it, `export` is a name; and no blank may stand in front of
`:`. -/
theorem read_line_iff_export :
    let opened := "\u3000export \u3000A: \"x # y"
    '\n' ∉ opened.toList ∧ '\r' ∉ opened.toList ∧
      LineReads opened.toList ⟨Mapping.empty.insert "A" "\"x", []⟩ ∧
      LineReads "export =b".toList ⟨Mapping.empty.insert "export" "b", []⟩ ∧
      LineReads "export A : b".toList ⟨.empty, [1]⟩ := by
  intro opened
  have hline : '\n' ∉ opened.toList := by decide +kernel
  have hreturn : '\r' ∉ opened.toList := by decide +kernel
  refine ⟨hline, hreturn, (read_line_iff hline hreturn _).mp (by decide +kernel), ?_, ?_⟩
  · exact (read_line_iff (by decide) (by decide) _).mp (by decide +kernel)
  · exact (read_line_iff (by decide) (by decide) _).mp (by decide +kernel)

end EnvInline.Definition
