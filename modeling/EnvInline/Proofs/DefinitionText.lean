import EnvInline.Definition.Reader
import EnvInline.Proofs.ClosingQuote

/-!
# Reading a definition file step by step

A definition file is read line by line, but a value may run over many lines. Here a step is said of
the text that is left.

* `roles_newline` — the first line is read with everything behind it in sight;
* `read_splitLines` — a quoted value is cut out of the text behind its opening quote;
* `assigned_newline` — the assignments of a text are those of its first line and those of what that
  line leaves over.
-/

namespace EnvInline.Definition

open EnvInline.Text

/-- The assignments of a text without carriage returns. -/
def assigned (text : List Char) : List (String × String) :=
  assignments (roles 0 (splitLines text))

/-- What the text between two quotes stands for. -/
def Quoted.content (q : Char) (raw : List Char) : List Char :=
  if q = '"' then expandBreaks raw else raw

/-! ## Lines -/

theorem normalizeBreaks_of_notMem {text : List Char} (h : '\r' ∉ text) :
    normalizeBreaks text = text := by
  fun_induction normalizeBreaks text with
  | case1 => rfl
  | case2 r ih => simp at h
  | case3 c r hpair ih =>
    have hc : c ≠ '\r' := fun hc => h (hc ▸ List.mem_cons_self)
    rw [if_neg hc, ih fun hr => h (List.mem_cons_of_mem c hr)]

theorem read_of_notMem {text : String} (h : '\r' ∉ text.toList) :
    read text = readLines (splitLines text.toList) := by
  rw [read, normalizeBreaks_of_notMem h]

theorem splitLines_of_notMem {l : List Char} (h : '\n' ∉ l) : splitLines l = [l] := by
  induction l with
  | nil => rfl
  | cons c l ih =>
    have hc : c ≠ '\n' := fun hc => h (hc ▸ List.mem_cons_self)
    rw [splitLines, if_neg hc, ih fun hl => h (List.mem_cons_of_mem c hl)]

/-- A text is cut at each line break in turn. -/
theorem splitLines_newline (a b : List Char) :
    splitLines (a ++ '\n' :: b) = splitLines a ++ splitLines b := by
  induction a with
  | nil => rfl
  | cons c a ih =>
    rw [List.cons_append, splitLines, splitLines, ih]
    by_cases hc : c = '\n'
    · rw [if_pos hc, if_pos hc, List.cons_append]
    · rw [if_neg hc, if_neg hc]
      cases hlines : splitLines a with
      | nil => exact (splitLines_ne_nil a hlines).elim
      | cons l ls => rfl

theorem newline_notMem_of_mem_splitLines {text l : List Char} (h : l ∈ splitLines text) :
    '\n' ∉ l := by
  induction text generalizing l with
  | nil =>
    obtain rfl := List.mem_singleton.mp h
    exact List.not_mem_nil
  | cons c text ih =>
    rw [splitLines] at h
    by_cases hc : c = '\n'
    · rw [if_pos hc] at h
      rcases List.mem_cons.mp h with rfl | h
      · exact List.not_mem_nil
      · exact ih h
    · rw [if_neg hc] at h
      cases hlines : splitLines text with
      | nil => exact (splitLines_ne_nil text hlines).elim
      | cons l' ls =>
        rw [hlines] at h ih
        rcases List.mem_cons.mp h with rfl | h
        · intro hmem
          rcases List.mem_cons.mp hmem with hmem | hmem
          · exact hc hmem.symm
          · exact ih List.mem_cons_self hmem
        · exact ih (List.mem_cons_of_mem l' h)

theorem length_splitLines (text : List Char) :
    (splitLines text).length = text.count '\n' + 1 := by
  induction text with
  | nil => rfl
  | cons c text ih =>
    rw [splitLines]
    by_cases hc : c = '\n'
    · rw [if_pos hc, List.length_cons, ih, hc, List.count_cons_self]
    · rw [if_neg hc, List.count_cons_of_ne hc, ← ih]
      cases hlines : splitLines text with
      | nil => exact (splitLines_ne_nil text hlines).elim
      | cons l ls => rfl

theorem splitLines_append {l : List Char} (h : '\n' ∉ l) (rest : List Char) :
    splitLines (l ++ '\n' :: rest) = l :: splitLines rest := by
  rw [splitLines_newline, splitLines_of_notMem h, List.singleton_append]

/-- The lines behind a line break are those of the text behind it. -/
theorem drop_splitLines (x y : List Char) :
    (splitLines (x ++ '\n' :: y)).drop (x.count '\n' + 1) = splitLines y := by
  rw [splitLines_newline, ← length_splitLines, List.drop_left]

/-- Behind the first line, as many lines are dropped as end before `y`. -/
theorem drop_rest {l rest x y : List Char} (hl : '\n' ∉ l)
    (h : l ++ '\n' :: rest = x ++ '\n' :: y) :
    (splitLines rest).drop (x.count '\n') = splitLines y := by
  have hdrop := drop_splitLines x y
  rw [← h, splitLines_append hl, List.drop_succ_cons] at hdrop
  exact hdrop

theorem joinLines_cons_splitLines (l rest : List Char) :
    joinLines (l :: splitLines rest) = l ++ '\n' :: rest := by
  cases hlines : splitLines rest with
  | nil => exact (splitLines_ne_nil rest hlines).elim
  | cons l' ls => rw [joinLines, ← hlines, joinLines_splitLines]; exact List.cons_ne_nil _ _

/-- Every text is one line or has a first line. -/
theorem newline_cases (text : List Char) :
    '\n' ∉ text ∨ ∃ l rest, '\n' ∉ l ∧ text = l ++ '\n' :: rest := by
  by_cases h : '\n' ∈ text
  · right
    obtain ⟨l, rest, htext, hl⟩ := List.eq_append_cons_of_mem h
    exact ⟨l, rest, hl, htext⟩
  · exact Or.inl h

/-! ## Roles -/

/-- A value above takes its lines away and leaves the others. -/
theorem roles_eq (owed : Nat) (ls : List (List Char)) :
    roles owed ls =
      List.replicate (min owed ls.length) .continuation ++ roles 0 (ls.drop owed) := by
  induction ls generalizing owed with
  | nil => simp [roles]
  | cons l ls ih =>
    cases owed with
    | zero => simp
    | succ owed =>
      rw [roles, ih owed, List.length_cons, Nat.succ_min_succ, List.replicate_succ,
        List.drop_succ_cons, List.cons_append]

theorem assignments_append (rs rs' : List Role) :
    assignments (rs ++ rs') = assignments rs ++ assignments rs' :=
  List.filterMap_append

theorem assignments_roles (owed : Nat) (ls : List (List Char)) :
    assignments (roles owed ls) = assignments (roles 0 (ls.drop owed)) := by
  have hnone : ∀ n, assignments (List.replicate n Role.continuation) = [] := by
    intro n
    induction n with
    | zero => rfl
    | succ n ih => exact ih
  rw [roles_eq, assignments_append, hnone, List.nil_append]

theorem roles_newline {l : List Char} (h : '\n' ∉ l) (rest : List Char) :
    roles 0 (splitLines (l ++ '\n' :: rest)) =
      (readLine l (splitLines rest)).1 ::
        roles (readLine l (splitLines rest)).2 (splitLines rest) := by
  rw [splitLines_append h, roles]

/-- The assignments of a text are that of its first line and those of the text that it leaves. -/
theorem assigned_newline {l rest left : List Char} {role : Role} {used : Nat} (h : '\n' ∉ l)
    (hrole : readLine l (splitLines rest) = (role, used))
    (hleft : (splitLines rest).drop used = splitLines left) :
    assigned (l ++ '\n' :: rest) = assignments [role] ++ assigned left := by
  rw [assigned, roles_newline h, hrole, ← List.singleton_append, assignments_append,
    assignments_roles, hleft, assigned]

theorem assignments_singleton (name value : String) :
    assignments [.assignment name value] = [(name, value)] := rfl

/-- The numbers of the malformed lines are counted from that of the first line. -/
theorem mem_malformedLines {n k : Nat} {rs : List Role} :
    k ∈ malformedLines n rs ↔ ∃ i, rs[i]? = some .malformed ∧ k = n + i := by
  induction rs generalizing n with
  | nil => simp [malformedLines]
  | cons r rs ih =>
    have hlater : k ∈ malformedLines n (r :: rs) ↔
        (r = .malformed ∧ k = n) ∨ k ∈ malformedLines (n + 1) rs := by
      cases r <;> simp [malformedLines]
    rw [hlater, ih]
    constructor
    · rintro (⟨rfl, rfl⟩ | ⟨i, hi, rfl⟩)
      · exact ⟨0, rfl, rfl⟩
      · exact ⟨i + 1, hi, by omega⟩
    · rintro ⟨i, hi, rfl⟩
      cases i with
      | zero => exact .inl ⟨by simpa using hi, rfl⟩
      | succ i => exact .inr ⟨i, hi, by omega⟩

/-! ## Values -/

theorem isQuote_iff {c : Char} : Quoted.isQuote c = true ↔ c = '"' ∨ c = '\'' ∨ c = '`' := by
  simp [Quoted.isQuote, or_assoc]

theorem isQuote_ne {q : Char} (hq : Quoted.isQuote q = true) : q ≠ '\\' ∧ q ≠ '\n' ∧ q ≠ 'n' := by
  rcases isQuote_iff.mp hq with rfl | rfl | rfl <;> decide

/-- A quoted value is cut out of the text behind its opening quote. -/
theorem read_splitLines {q : Char} (hq : Quoted.isQuote q = true) (text rest : List Char) :
    Quoted.read q text (splitLines rest) =
      (Quoted.closing? q (text ++ '\n' :: rest)).map
        (Quoted.enclosed q (text ++ '\n' :: rest)) := by
  obtain ⟨hescape, hline, -⟩ := isQuote_ne hq
  rw [Quoted.read_eq_readWhole hescape hline, Quoted.readWhole, Quoted.foldl_lines,
    joinLines_cons_splitLines]

theorem suffix_of_afterSeparator? {rest text : List Char}
    (h : Assignment.afterSeparator? rest = some text) : text <:+ rest := by
  unfold Assignment.afterSeparator? at h
  split at h
  · next value hvalue =>
    obtain rfl := Option.some.inj h
    have hdrop : '=' :: value <:+ rest := hvalue ▸ List.dropWhile_suffix isSpaceOrTab
    exact (List.suffix_cons '=' value).trans hdrop
  · split at h
    · obtain rfl := Option.some.inj h
      exact List.nil_suffix
    · split at h
      · obtain rfl := Option.some.inj h
        exact List.suffix_cons ':' _
      · cases h
    · cases h

theorem suffix_of_split? {line name text : List Char}
    (h : Assignment.split? line = some (name, text)) : text <:+ line := by
  simp only [Assignment.split?] at h
  split at h
  · cases h
  · obtain ⟨value, hvalue, hpair⟩ := Option.map_eq_some_iff.mp h
    obtain rfl : value = text := (Prod.mk.inj hpair).2
    exact (suffix_of_afterSeparator? hvalue).trans (List.dropWhile_suffix _)

theorem suffix_of_afterExport? {line rest : List Char}
    (h : Assignment.afterExport? line = some rest) : rest <:+ line := by
  unfold Assignment.afterExport? at h
  split at h
  · split at h
    · next c r _ =>
      obtain rfl := Option.some.inj h
      have htrim : trimStart r <:+ r := List.dropWhile_suffix isBlank
      exact htrim.trans ⟨['e', 'x', 'p', 'o', 'r', 't', c], rfl⟩
    · cases h
  · cases h

/-- The text of a value is the end of its line. -/
theorem suffix_of_read? {line name text : List Char}
    (h : Assignment.read? line = some (name, text)) : text <:+ line := by
  unfold Assignment.read? at h
  split at h
  · next p hexport =>
    obtain rfl := Option.some.inj h
    obtain ⟨rest, hrest, hsplit⟩ := Option.bind_eq_some_iff.mp hexport
    exact (suffix_of_split? hsplit).trans (suffix_of_afterExport? hrest)
  · exact suffix_of_split? h

theorem enclosed_eq (q : Char) (raw rest : List Char) :
    Quoted.enclosed q (raw ++ rest) raw.length = (Quoted.content q raw, raw.count '\n') := by
  simp [Quoted.enclosed, Quoted.content]

theorem infix_unquoted (text : List Char) : Assignment.unquoted text <:+: text := by
  have hend : ∀ s, trimEnd s <+: s := fun s => List.rdropWhile_prefix isBlank s
  have hstart : ∀ s, trimStart s <:+ s := fun s => List.dropWhile_suffix isBlank
  have htrim := (hend (trimStart (text.takeWhile (· ≠ '#')))).isInfix.trans
    (hstart (text.takeWhile (· ≠ '#'))).isInfix
  exact htrim.trans (List.takeWhile_prefix _).isInfix

theorem isQuote_not_blank {q : Char} (hq : Quoted.isQuote q = true) :
    isBlank q = false ∧ q ≠ '#' := by
  rcases isQuote_iff.mp hq with rfl | rfl | rfl <;> decide

theorem readValue_quote {q : Char} (hq : Quoted.isQuote q = true) (l rest : List Char) :
    readValue (q :: l) (splitLines rest) =
      ((Quoted.closing? q (l ++ '\n' :: rest)).map (Quoted.enclosed q (l ++ '\n' :: rest))).getD
        (Assignment.unquoted (q :: l), 0) := by
  rw [readValue, trimStart_cons (isQuote_not_blank hq).1]
  simp only [hq, if_true, read_splitLines hq]

/-- A value is a part of its line, or it stands between two quotes. -/
theorem readValue_cases (text rest : List Char) :
    (∃ value, readValue text (splitLines rest) = (value, 0) ∧ value <:+: text) ∨
    ∃ q before behind raw after, Quoted.isQuote q = true ∧ text = before ++ q :: behind ∧
      behind ++ '\n' :: rest = raw ++ q :: after ∧
      readValue text (splitLines rest) = (Quoted.content q raw, raw.count '\n') := by
  have htrim : trimStart text <:+ text := List.dropWhile_suffix isBlank
  unfold readValue
  split
  · exact Or.inl ⟨[], rfl, List.nil_infix⟩
  · next c r hcr =>
    rw [hcr] at htrim
    have hunquoted : Assignment.unquoted (c :: r) <:+: text :=
      (infix_unquoted (c :: r)).trans htrim.isInfix
    split
    · next hquote =>
      rw [read_splitLines hquote]
      cases hclosing : Quoted.closing? c (r ++ '\n' :: rest) with
      | none => exact Or.inl ⟨_, rfl, hunquoted⟩
      | some place =>
        right
        obtain ⟨before, rfl⟩ := htrim
        obtain ⟨⟨raw, after, hsplit, rfl, -⟩, -⟩ :=
          (Quoted.closing?_eq_some_iff (isQuote_ne hquote).1).mp hclosing
        refine ⟨c, before, r, raw, after, hquote, rfl, hsplit, ?_⟩
        rw [Option.map_some, Option.getD_some, hsplit, enclosed_eq]
    · exact Or.inl ⟨_, rfl, hunquoted⟩

/-- The value of an assignment is a part of its line, or it stands between two quotes and takes
away the lines that end between them. -/
theorem readLine_cases (l rest : List Char) :
    (∃ role, readLine l (splitLines rest) = (role, 0) ∧
      ∀ name value, role = .assignment name value → value.toList <:+: l) ∨
    ∃ name q before raw after, Quoted.isQuote q = true ∧
      l ++ '\n' :: rest = before ++ q :: (raw ++ q :: after) ∧ before <+: l ∧
      readLine l (splitLines rest) =
        (.assignment name (String.ofList (Quoted.content q raw)), raw.count '\n') := by
  have htrim : trimStart l <:+ l := List.dropWhile_suffix isBlank
  simp only [readLine]
  split
  · exact Or.inl ⟨.blank, rfl, nofun⟩
  · split
    · exact Or.inl ⟨.malformed, rfl, nofun⟩
    · next name text hread =>
      obtain ⟨start, hstart⟩ := (suffix_of_read? hread).trans htrim
      rcases readValue_cases text rest with
        ⟨value, hvalue, hpart⟩ | ⟨q, before, behind, raw, after, hquote, rfl, hsplit, hvalue⟩
      · left
        rw [hvalue]
        refine ⟨_, rfl, ?_⟩
        rintro name' value' hrole
        obtain ⟨-, rfl⟩ := Role.assignment.inj hrole
        have htext : text <:+ l := ⟨start, hstart⟩
        rw [String.toList_ofList]
        exact hpart.trans htext.isInfix
      · right
        rw [hvalue]
        refine ⟨_, q, start ++ before, raw, after, hquote, ?_, ?_, rfl⟩
        · rw [← hstart, ← hsplit]
          simp
        · rw [← hstart, ← List.append_assoc]
          exact List.prefix_append _ _

/-! ## Names -/

theorem isNameChar_range {c : Char} (h : Assignment.isNameChar c = true) :
    45 ≤ c.toNat ∧ c.toNat ≤ 122 ∧ c.toNat ≠ 61 := by
  have halphanum : c.isAlphanum =
      ((decide (65 ≤ c.val ∧ c.val ≤ 90) || 97 ≤ c.val && c.val ≤ 122) ||
        48 ≤ c.val && c.val ≤ 57) := rfl
  simp only [Assignment.isNameChar, halphanum, Bool.or_eq_true, Bool.and_eq_true,
    decide_eq_true_eq, beq_iff_eq, UInt32.le_iff_toNat_le] at h
  change 45 ≤ c.val.toNat ∧ c.val.toNat ≤ 122 ∧ c.val.toNat ≠ 61
  rcases h with ((((h | h) | h) | rfl) | rfl) | rfl
  · change 65 ≤ c.val.toNat ∧ c.val.toNat ≤ 90 at h
    omega
  · change 97 ≤ c.val.toNat ∧ c.val.toNat ≤ 122 at h
    omega
  · change 48 ≤ c.val.toNat ∧ c.val.toNat ≤ 57 at h
    omega
  · decide
  · decide
  · decide

/-- A character of a name is none that the reader stops at. -/
theorem isNameChar_ne {c : Char} (h : Assignment.isNameChar c = true) :
    isBlank c = false ∧ isSpaceOrTab c = false ∧ c ≠ '#' ∧ c ≠ '\n' ∧ c ≠ '\r' := by
  obtain ⟨hlow, hhigh, -⟩ := isNameChar_range h
  refine ⟨?_, ?_, ?_, ?_, ?_⟩
  · simp only [isBlank, Bool.or_eq_false_iff, Bool.and_eq_false_iff, decide_eq_false_iff_not,
      beq_eq_false_iff_ne]
    omega
  · simp only [isSpaceOrTab, Bool.or_eq_false_iff, beq_eq_false_iff_ne]
    constructor
    · rintro rfl
      exact absurd hlow (by decide)
    · rintro rfl
      exact absurd hlow (by decide)
  · rintro rfl
    exact absurd hlow (by decide)
  · rintro rfl
    exact absurd hlow (by decide)
  · rintro rfl
    exact absurd hlow (by decide)

section Name

variable {name : List Char} (hne : name ≠ [])
  (hname : ∀ c ∈ name, Assignment.isNameChar c = true)
include hname

theorem afterExport?_name (text : List Char) :
    Assignment.afterExport? (name ++ '=' :: text) = none := by
  unfold Assignment.afterExport?
  split
  · next c r heq =>
    have hblank : isSpaceOrTab c = false := by
      have hsplit : name ++ '=' :: text = ['e', 'x', 'p', 'o', 'r', 't'] ++ c :: r := heq
      rcases List.append_eq_append_iff.mp hsplit with ⟨x, hx, htail⟩ | ⟨x, hx, htail⟩
      · cases x with
        | nil =>
          obtain ⟨rfl, -⟩ := List.cons.inj htail
          rfl
        | cons d x =>
          -- the name would end inside the word, and `=` stand in it
          obtain ⟨rfl, -⟩ := List.cons.inj htail
          have hmem : '=' ∈ ['e', 'x', 'p', 'o', 'r', 't'] := by simp [hx]
          exact absurd hmem (by decide)
      · cases x with
        | nil =>
          obtain ⟨rfl, -⟩ := List.cons.inj htail
          rfl
        | cons d x =>
          obtain ⟨rfl, -⟩ := List.cons.inj htail
          exact (isNameChar_ne (hname c (by simp [hx]))).2.1
    rw [hblank, if_neg Bool.false_ne_true]
  · rfl

include hne

/-- A name before `=` is read as a name. -/
theorem read?_name (text : List Char) :
    Assignment.read? (name ++ '=' :: text) = some (name, text) := by
  have htake : (name ++ '=' :: text).takeWhile Assignment.isNameChar = name := by
    rw [List.takeWhile_append_of_pos hname, List.takeWhile_cons_of_neg (by decide),
      List.append_nil]
  have hdrop : (name ++ '=' :: text).dropWhile Assignment.isNameChar = '=' :: text := by
    rw [List.dropWhile_append_of_pos hname, List.dropWhile_cons_of_neg (by decide)]
  rw [Assignment.read?, afterExport?_name hname, Option.bind_none]
  simp only [Assignment.split?, htake, hdrop, List.isEmpty_iff, hne, if_false]
  rfl

theorem readLine_name (text : List Char) (following : List (List Char)) :
    readLine (name ++ '=' :: text) following =
      (.assignment (String.ofList name) (String.ofList (readValue text following).1),
        (readValue text following).2) := by
  obtain ⟨c, name', rfl⟩ := List.exists_cons_of_ne_nil hne
  obtain ⟨hblank, -, hcomment, -⟩ := isNameChar_ne (hname c List.mem_cons_self)
  have hstart : trimStart (c :: name' ++ '=' :: text) = c :: name' ++ '=' :: text :=
    trimStart_cons hblank _
  rw [readLine]
  simp only [hstart, read?_name hne hname]
  rw [if_neg (by simp [hcomment])]

end Name

end EnvInline.Definition
