import EnvInline.Proofs.LineBudget

/-!
# Written mappings read back

When a mapping that was written to a definition file is read back as it was.

* `read_write_iff` — exactly when each value is kept: the sequences `\n` and `\r` and unescaped
  double quotes do not stand between double quotes, and where a value ends in an odd run of
  backslashes no later entry closes it;
* `not_read_write_neighbours` — so a backslash at the end of a value can cost the next entry.
-/

namespace EnvInline.Definition

open EnvInline.Text Quoted

/-- A name that may stand before a separator. -/
def IsName (name : String) : Prop :=
  name ≠ "" ∧ name.toList.all Assignment.isNameChar = true

instance (name : String) : Decidable (IsName name) :=
  inferInstanceAs (Decidable (_ ∧ _))

/-- The quotes that a value is written between. -/
def quoteOf (value : List Char) : Char :=
  if '\r' ∉ value ∧ '\'' ∉ value then '\''
  else if '\r' ∉ value ∧ '`' ∉ value then '`'
  else '"'

/-- What is written between them. -/
def body (value : List Char) : List Char :=
  if quoteOf value = '"' then writeBreaks value else value

/-- The text that some entries are written as. -/
def written (ps : List (String × String)) : List Char :=
  ps.flatMap fun p => writeEntry p.1 p.2

/-- A value is read back as it is, with the text of the later entries behind it. -/
structure Kept (value later : List Char) : Prop where
  /-- nothing between double quotes looks like a written line break -/
  literal : quoteOf value = '"' → ¬ ['\\', 'n'] <:+: value ∧ ¬ ['\\', 'r'] <:+: value
  /-- no double quote inside closes the value -/
  inner : quoteOf value = '"' → AllEscaped '"' value
  /-- a closing quote that looks escaped is the last that can close the value -/
  last : EndsEscaped value → ¬ Swallows (quoteOf value) later

theorem IsName.isNameChar {name : String} (h : IsName name) {c : Char} (hc : c ∈ name.toList) :
    Assignment.isNameChar c = true :=
  List.all_eq_true.mp h.2 c hc

/-! ## The written text -/

theorem quote_eq (value : List Char) :
    quote value = quoteOf value :: (body value ++ [quoteOf value]) := by
  unfold quote body quoteOf
  split
  · rfl
  · split <;> rfl

theorem isQuote_quoteOf (value : List Char) : isQuote (quoteOf value) = true := by
  unfold quoteOf
  split
  · rfl
  · split <;> rfl

/-- A value between other quotes than double ones holds neither the quote nor a return. -/
theorem quoteOf_notMem {value : List Char} (h : quoteOf value ≠ '"') :
    '\r' ∉ value ∧ quoteOf value ∉ value := by
  unfold quoteOf at h ⊢
  split at h
  · next hsingle =>
    rw [if_pos hsingle]
    exact hsingle
  · next hsingle =>
    split at h
    · next hback =>
      rw [if_neg hsingle, if_pos hback]
      exact hback
    · exact (h rfl).elim

theorem written_cons (name value : String) (ps : List (String × String)) :
    written ((name, value) :: ps) =
      name.toList ++ '=' :: quoteOf value.toList ::
        (body value.toList ++ quoteOf value.toList :: '\n' :: written ps) := by
  simp [written, writeEntry, quote_eq]

theorem endsLines_written (ps : List (String × String)) : EndsLines (written ps) := by
  induction ps with
  | nil => exact Or.inl rfl
  | cons p ps ih =>
    right
    obtain ⟨name, value⟩ := p
    rw [written_cons]
    rcases ih with hnil | ⟨t, ht⟩
    · exact ⟨name.toList ++ '=' :: quoteOf value.toList ::
        (body value.toList ++ [quoteOf value.toList]), by rw [hnil]; simp⟩
    · exact ⟨name.toList ++ '=' :: quoteOf value.toList ::
        (body value.toList ++ quoteOf value.toList :: '\n' :: t), by rw [ht]; simp⟩

/-! ## Written line breaks -/

theorem escapedAfter_writeBreaks (escaped : Bool) (value : List Char) :
    escapedAfter escaped (writeBreaks value) = escapedAfter escaped value := by
  fun_induction writeBreaks value generalizing escaped with
  | case1 => rfl
  | case2 r ih => cases escaped <;> simp [escapedAfter_cons, ih]
  | case3 r ih => cases escaped <;> simp [escapedAfter_cons, ih]
  | case4 c r hn hr ih => rw [escapedAfter_cons, escapedAfter_cons, ih]

theorem endsEscaped_writeBreaks (value : List Char) :
    EndsEscaped (writeBreaks value) ↔ EndsEscaped value := by
  rw [← escapedAfter_false_iff, ← escapedAfter_false_iff, escapedAfter_writeBreaks]

theorem firstUnescaped_writeBreaks (escaped : Bool) (value : List Char) :
    firstUnescaped '"' escaped (writeBreaks value) = none ↔
      firstUnescaped '"' escaped value = none := by
  have hq : '"' ≠ '\\' := by decide
  fun_induction writeBreaks value generalizing escaped with
  | case1 => rfl
  | case2 r ih => cases escaped <;> simp [firstUnescaped_cons hq, ih]
  | case3 r ih => cases escaped <;> simp [firstUnescaped_cons hq, ih]
  | case4 c r hn hr ih =>
    rw [firstUnescaped_cons hq, firstUnescaped_cons hq]
    split
    · rfl
    · rw [Option.map_eq_none_iff, Option.map_eq_none_iff]
      exact ih _

theorem allEscaped_writeBreaks (value : List Char) :
    AllEscaped '"' (writeBreaks value) ↔ AllEscaped '"' value := by
  rw [allEscaped_iff (by decide), allEscaped_iff (by decide), firstUnescaped_writeBreaks]

/-- A text that is read as a value, and is the beginning of what is written for it, is all of it. -/
theorem eq_writeBreaks_of_isPrefix {raw value after : List Char}
    (hbegins : raw <+: writeBreaks value ++ '"' :: after) (h : expandBreaks raw = value) :
    raw = writeBreaks value := by
  fun_induction expandBreaks raw generalizing value with
  | case1 =>
    subst h
    rfl
  | case2 r ih =>
    subst h
    rw [writeBreaks, List.cons_append, List.cons_append, List.prefix_cons_inj,
      List.prefix_cons_inj] at hbegins
    rw [writeBreaks, ← ih hbegins rfl]
  | case3 r ih =>
    subst h
    rw [writeBreaks, List.cons_append, List.cons_append, List.prefix_cons_inj,
      List.prefix_cons_inj] at hbegins
    rw [writeBreaks, ← ih hbegins rfl]
  | case4 c r hn hr ih =>
    subst h
    have hline : c ≠ '\n' := by
      rintro rfl
      simp [writeBreaks] at hbegins
    have hreturn : c ≠ '\r' := by
      rintro rfl
      simp [writeBreaks] at hbegins
    rw [writeBreaks_cons hline hreturn, List.cons_append, List.prefix_cons_inj] at hbegins
    rw [writeBreaks_cons hline hreturn, ← ih hbegins rfl]

theorem expandBreaks_cons {c : Char} {r : List Char} (hn : ∀ r', c = '\\' → r ≠ 'n' :: r')
    (hr : ∀ r', c = '\\' → r ≠ 'r' :: r') : expandBreaks (c :: r) = c :: expandBreaks r := by
  rw [expandBreaks]
  · exact hn
  · exact hr

theorem pair_infix_cons_iff {c : Char} (d : Char) (r : List Char) :
    ['\\', d] <:+: c :: r ↔ (c = '\\' ∧ ∃ r', r = d :: r') ∨ ['\\', d] <:+: r := by
  rw [List.infix_cons_iff]
  refine or_congr_left ?_
  constructor
  · rintro ⟨t, ht⟩
    obtain ⟨rfl, rfl⟩ := List.cons.inj ht
    exact ⟨rfl, t, rfl⟩
  · rintro ⟨rfl, t, rfl⟩
    exact ⟨t, rfl⟩

/-- Line breaks are read back unless the value holds one of the sequences itself. -/
theorem expandBreaks_writeBreaks_iff (value : List Char) :
    expandBreaks (writeBreaks value) = value ↔
      ¬ ['\\', 'n'] <:+: value ∧ ¬ ['\\', 'r'] <:+: value := by
  fun_induction writeBreaks value with
  | case1 => simp [expandBreaks]
  | case2 r ih => simp [expandBreaks, pair_infix_cons_iff, ih]
  | case3 r ih => simp [expandBreaks, pair_infix_cons_iff, ih]
  | case4 c r hline hreturn ih =>
    rw [pair_infix_cons_iff, pair_infix_cons_iff]
    by_cases hn : c = '\\' ∧ ∃ r', r = 'n' :: r'
    · obtain ⟨rfl, r', rfl⟩ := hn
      rw [writeBreaks_cons (by decide) (by decide), expandBreaks]
      simp
    · by_cases hr : c = '\\' ∧ ∃ r', r = 'r' :: r'
      · obtain ⟨rfl, r', rfl⟩ := hr
        rw [writeBreaks_cons (by decide) (by decide), expandBreaks]
        simp
      · have hexpand : expandBreaks (c :: writeBreaks r) = c :: expandBreaks (writeBreaks r) := by
          refine expandBreaks_cons ?_ ?_
          · intro r' hc h
            exact hn ⟨hc, head_of_writeBreaks (by decide) h⟩
          · intro r' hc h
            exact hr ⟨hc, head_of_writeBreaks (by decide) h⟩
        rw [hexpand, List.cons_inj_right, ih]
        simp only [hn, hr, false_or]

theorem length_le_writeBreaks (value : List Char) : value.length ≤ (writeBreaks value).length := by
  fun_induction writeBreaks value with
  | case1 => exact Nat.le_refl 0
  | case2 r ih => simp only [List.length_cons]; omega
  | case3 r ih => simp only [List.length_cons]; omega
  | case4 c r hline hreturn ih => simp only [List.length_cons]; omega

/-- Written line breaks are no line breaks, and the rest of a value stays. -/
theorem mem_writeBreaks {c : Char} {value : List Char} (h : c ∈ writeBreaks value) :
    c ≠ '\n' ∧ c ≠ '\r' ∧ (c ∈ value ∨ c = '\\' ∨ c = 'n' ∨ c = 'r') := by
  fun_induction writeBreaks value with
  | case1 => cases h
  | case2 r ih =>
    rcases List.mem_cons.mp h with rfl | h
    · simp
    · rcases List.mem_cons.mp h with rfl | h
      · simp
      · obtain ⟨hline, hreturn, hmem⟩ := ih h
        exact ⟨hline, hreturn, hmem.imp_left (List.mem_cons_of_mem _)⟩
  | case3 r ih =>
    rcases List.mem_cons.mp h with rfl | h
    · simp
    · rcases List.mem_cons.mp h with rfl | h
      · simp
      · obtain ⟨hline, hreturn, hmem⟩ := ih h
        exact ⟨hline, hreturn, hmem.imp_left (List.mem_cons_of_mem _)⟩
  | case4 d r hd hd' ih =>
    rcases List.mem_cons.mp h with rfl | h
    · exact ⟨hd, hd', Or.inl List.mem_cons_self⟩
    · obtain ⟨hline, hreturn, hmem⟩ := ih h
      exact ⟨hline, hreturn, hmem.imp_left (List.mem_cons_of_mem _)⟩

/-! ## A value behind its opening quote -/

/-- Other quotes than double ones keep all but a backslash at the end. -/
theorem kept_of_ne {value later : List Char} (h : quoteOf value ≠ '"')
    (hlast : EndsEscaped value → ¬ Swallows (quoteOf value) later) : Kept value later where
  literal hdouble := (h hdouble).elim
  inner hdouble := (h hdouble).elim
  last := hlast

/-- A value is kept if its own quote closes it and what is read between the quotes is the value. -/
theorem kept_iff (value later : List Char) :
    Kept value later ↔
      closing? (quoteOf value) (body value ++ quoteOf value :: '\n' :: later) =
          some (body value).length ∧
        content (quoteOf value) (body value) = value := by
  obtain ⟨hescape, hline, -⟩ := isQuote_ne (isQuote_quoteOf value)
  rw [closing?_enclosed_iff hescape hline]
  by_cases hdouble : quoteOf value = '"'
  · have hbody : body value = writeBreaks value := if_pos hdouble
    rw [hbody, hdouble, allEscaped_writeBreaks, endsEscaped_writeBreaks, content, if_pos rfl,
      expandBreaks_writeBreaks_iff]
    constructor
    · intro h
      exact ⟨⟨h.inner hdouble, hdouble ▸ h.last⟩, h.literal hdouble⟩
    · rintro ⟨⟨hinner, hlast⟩, hliteral⟩
      exact ⟨fun _ => hliteral, fun _ => hinner, hdouble.symm ▸ hlast⟩
  · have hbody : body value = value := if_neg hdouble
    rw [hbody, content, if_neg hdouble]
    constructor
    · intro h
      exact ⟨⟨allEscaped_of_notMem (quoteOf_notMem hdouble).2, h.last⟩, rfl⟩
    · rintro ⟨⟨-, hlast⟩, -⟩
      exact kept_of_ne hdouble hlast

theorem trimEnd_cons {c : Char} (h : isBlank c = false) (s : List Char) :
    trimEnd (c :: s) = c :: trimEnd s := by
  rw [trimEnd, trimEnd, List.reverse_cons, List.dropWhile_append]
  split
  · next hempty =>
    rw [List.isEmpty_iff.mp hempty]
    simp [h]
  · simp

theorem trimEnd_concat {c : Char} (h : isBlank c = false) (s : List Char) :
    trimEnd (s ++ [c]) = s ++ [c] := by
  simp [trimEnd, h]

/-- Without a quote that closes it, a value keeps its opening quote. -/
theorem unquoted_quote {q : Char} (hq : isQuote q = true) (l : List Char) :
    Assignment.unquoted (q :: l) = q :: trimEnd (l.takeWhile (· ≠ '#')) := by
  obtain ⟨hblank, hcomment⟩ := isQuote_not_blank hq
  have htake : (q :: l).takeWhile (· ≠ '#') = q :: l.takeWhile (· ≠ '#') := by
    simp [hcomment]
  rw [Assignment.unquoted, htake, trim, trimStart_cons hblank, trimEnd_cons hblank]

theorem eq_of_newline {l l' rest rest' : List Char} (hl : '\n' ∉ l) (hl' : '\n' ∉ l')
    (h : l ++ '\n' :: rest = l' ++ '\n' :: rest') : l = l' := by
  have hlines := congrArg splitLines h
  rw [splitLines_append hl, splitLines_append hl'] at hlines
  exact (List.cons.inj hlines).1

/-- Without a quote that closes it, a written value is never read back. -/
theorem unquoted_ne {value later l rest : List Char} (hl : '\n' ∉ l)
    (hsplit : l ++ '\n' :: rest = body value ++ quoteOf value :: '\n' :: later) :
    Assignment.unquoted (quoteOf value :: l) ≠ value := by
  intro hvalue
  rw [unquoted_quote (isQuote_quoteOf value)] at hvalue
  by_cases hdouble : quoteOf value = '"'
  · -- between double quotes the whole value stands on one line
    have hbody : body value = writeBreaks value := if_pos hdouble
    have hone : '\n' ∉ writeBreaks value ++ ['"'] := by
      intro hmem
      rcases List.mem_append.mp hmem with hmem | hmem
      · exact (mem_writeBreaks hmem).1 rfl
      · simp at hmem
    rw [hbody, hdouble] at hsplit
    obtain rfl : l = writeBreaks value ++ ['"'] := eq_of_newline hl hone (by simpa using hsplit)
    rw [hdouble] at hvalue
    by_cases hcomment : '#' ∈ writeBreaks value
    · -- the value holds a `#`, and what is read does not
      have hmem : '#' ∈ value := by
        simpa using (mem_writeBreaks hcomment).2.2
      rw [← hvalue] at hmem
      rcases List.mem_cons.mp hmem with h | h
      · simp at h
      · have htake := (List.rdropWhile_prefix isBlank _).subset h
        simpa using List.mem_takeWhile_imp htake
    · have hall : (writeBreaks value ++ ['"']).takeWhile (· ≠ '#') =
          writeBreaks value ++ ['"'] := by
        rw [List.takeWhile_eq_self_iff]
        intro c hc
        rw [decide_eq_true_iff]
        rintro rfl
        rcases List.mem_append.mp hc with hc | hc
        · exact hcomment hc
        · simp at hc
      rw [hall, trimEnd_concat (by decide)] at hvalue
      have hlength := congrArg List.length hvalue
      have hle := length_le_writeBreaks value
      simp only [List.length_cons, List.length_append, List.length_nil] at hlength
      omega
  · have hmem : quoteOf value ∈
        quoteOf value :: trimEnd (l.takeWhile (· ≠ '#')) := List.mem_cons_self
    rw [hvalue] at hmem
    exact (quoteOf_notMem hdouble).2 hmem

theorem eq_body_of_isPrefix {raw value after : List Char}
    (hbegins : raw <+: body value ++ quoteOf value :: after)
    (h : content (quoteOf value) raw = value) : raw = body value := by
  by_cases hdouble : quoteOf value = '"'
  · rw [body, if_pos hdouble, hdouble] at hbegins
    rw [content, if_pos hdouble] at h
    rw [body, if_pos hdouble]
    exact eq_writeBreaks_of_isPrefix hbegins h
  · rw [content, if_neg hdouble] at h
    rw [body, if_neg hdouble]
    exact h

/-- What is read behind the opening quote of a written value is the value exactly if it is kept. -/
theorem readValue_written_iff {value later l rest : List Char} (hl : '\n' ∉ l)
    (hsplit : l ++ '\n' :: rest = body value ++ quoteOf value :: '\n' :: later) :
    (readValue (quoteOf value :: l) (splitLines rest)).1 = value ↔ Kept value later := by
  have hquote := isQuote_quoteOf value
  obtain ⟨hescape, -, -⟩ := isQuote_ne hquote
  rw [kept_iff, readValue_quote hquote, ← hsplit]
  constructor
  · intro hvalue
    cases hclosing : closing? (quoteOf value) (l ++ '\n' :: rest) with
    | none =>
      -- nothing closes the value, so its opening quote would belong to it
      rw [hclosing] at hvalue
      exact (unquoted_ne hl hsplit hvalue).elim
    | some place =>
      obtain ⟨⟨raw, after, hraw, rfl, -⟩, -⟩ := (closing?_eq_some_iff hescape).mp hclosing
      rw [hclosing, hraw, Option.map_some, enclosed_eq, Option.getD_some] at hvalue
      have hbody : raw = body value :=
        eq_body_of_isPrefix ⟨quoteOf value :: after, hraw.symm.trans hsplit⟩ hvalue
      exact ⟨by rw [hbody], by rw [← hbody]; exact hvalue⟩
  · rintro ⟨hclosing, hcontent⟩
    rw [hclosing, hsplit, Option.map_some, enclosed_eq, Option.getD_some]
    exact hcontent

/-- Behind a value that is kept the later entries are read afresh. -/
theorem drop_of_kept {value later l rest : List Char} (hl : '\n' ∉ l)
    (hsplit : l ++ '\n' :: rest = body value ++ quoteOf value :: '\n' :: later)
    (h : Kept value later) :
    (splitLines rest).drop (readValue (quoteOf value :: l) (splitLines rest)).2 =
      splitLines later := by
  have hquote := isQuote_quoteOf value
  obtain ⟨-, hline, -⟩ := isQuote_ne hquote
  have hused : (readValue (quoteOf value :: l) (splitLines rest)).2 =
      (body value ++ [quoteOf value]).count '\n' := by
    rw [readValue_quote hquote, hsplit, ((kept_iff value later).mp h).1, Option.map_some,
      enclosed_eq, Option.getD_some]
    simp [hline]
  have hstretch : l ++ '\n' :: rest = body value ++ [quoteOf value] ++ '\n' :: later := by
    rw [hsplit]
    simp
  rw [hused, drop_rest hl hstretch]

/-! ## One entry -/

/-- The first line of the written text: the name, the separator, the quote and what stands behind
it. -/
theorem exists_first_line {name : String} (hname : IsName name) (value : String)
    (ps : List (String × String)) :
    ∃ l rest, '\n' ∉ l ∧
      l ++ '\n' :: rest =
        body value.toList ++ quoteOf value.toList :: '\n' :: written ps ∧
      '\n' ∉ name.toList ++ '=' :: quoteOf value.toList :: l ∧
      written ((name, value) :: ps) =
        name.toList ++ '=' :: quoteOf value.toList :: l ++ '\n' :: rest := by
  obtain ⟨-, hline, -⟩ := isQuote_ne (isQuote_quoteOf value.toList)
  rcases newline_cases
      (body value.toList ++ quoteOf value.toList :: '\n' :: written ps) with
    hnone | ⟨l, rest, hl, hsplit⟩
  · simp at hnone
  · refine ⟨l, rest, hl, hsplit.symm, ?_, ?_⟩
    · intro hmem
      rcases List.mem_append.mp hmem with hmem | hmem
      · exact (isNameChar_ne (hname.isNameChar hmem)).2.2.2.1 rfl
      · simp [hl, hline.symm] at hmem
    · rw [written_cons, hsplit]
      simp

/-- What is read for the first entry, with the text of the others behind it. -/
theorem assigned_written_cons {name value : String} (hname : IsName name)
    (ps : List (String × String)) :
    ∃ value' rest, assigned (written ((name, value) :: ps)) = (name, value') :: rest ∧
      (value' = value ↔ Kept value.toList (written ps)) ∧
      (Kept value.toList (written ps) → rest = assigned (written ps)) := by
  have hne : name.toList ≠ [] := fun h => hname.1 (String.toList_eq_nil_iff.mp h)
  obtain ⟨l, rest, hl, hsplit, hfirst, htext⟩ := exists_first_line hname value ps
  have hread := readLine_name hne (fun c => hname.isNameChar)
    (quoteOf value.toList :: l) (splitLines rest)
  rw [String.ofList_toList] at hread
  refine ⟨String.ofList (readValue (quoteOf value.toList :: l) (splitLines rest)).1,
    assignments (roles (readValue (quoteOf value.toList :: l) (splitLines rest)).2
      (splitLines rest)), ?_, ?_, ?_⟩
  · rw [htext, assigned, roles_newline hfirst, hread]
    rfl
  · rw [← readValue_written_iff hl hsplit, ← String.toList_inj, String.toList_ofList]
  · intro hkept
    rw [assignments_roles, drop_of_kept hl hsplit hkept, assigned]

/-! ## All entries -/

/-- Every value is kept where it stands. -/
def AllKept (ps : List (String × String)) : Prop :=
  ∀ before name value later, ps = before ++ (name, value) :: later →
    Kept value.toList (written later)

theorem allKept_nil : AllKept [] := by
  intro before name value later hsplit
  simp at hsplit

theorem allKept_cons {name value : String} {ps : List (String × String)} :
    AllKept ((name, value) :: ps) ↔ Kept value.toList (written ps) ∧ AllKept ps := by
  constructor
  · intro h
    refine ⟨h [] name value ps rfl, ?_⟩
    rintro before name' value' later rfl
    exact h ((name, value) :: before) name' value' later rfl
  · rintro ⟨hfirst, hothers⟩ before name' value' later hsplit
    cases before with
    | nil =>
      obtain ⟨hpair, rfl⟩ := List.cons.inj hsplit
      obtain ⟨rfl, rfl⟩ := Prod.mk.inj hpair
      exact hfirst
    | cons p before =>
      exact hothers before name' value' later (List.cons.inj hsplit).2

/-- Kept values are read one after the other. -/
theorem assigned_written_of_allKept {ps : List (String × String)}
    (hnames : ∀ p ∈ ps, IsName p.1) (h : AllKept ps) : assigned (written ps) = ps := by
  induction ps with
  | nil => rfl
  | cons p ps ih =>
    obtain ⟨name, value⟩ := p
    obtain ⟨hkept, hothers⟩ := allKept_cons.mp h
    obtain ⟨value', rest, hassigned, hvalue, hrest⟩ :=
      assigned_written_cons (hnames _ List.mem_cons_self) ps
    rw [hassigned, hvalue.mpr hkept, hrest hkept,
      ih (fun p hp => hnames p (List.mem_cons_of_mem _ hp)) hothers]

/-- If nothing but the entries is read, in any order, each was read where it stands. -/
theorem allKept_of_perm {ps : List (String × String)} (hnames : ∀ p ∈ ps, IsName p.1)
    (hnodup : (ps.map (·.1)).Nodup) (h : (assigned (written ps)).Perm ps) : AllKept ps := by
  induction ps with
  | nil => exact allKept_nil
  | cons p ps ih =>
    obtain ⟨name, value⟩ := p
    obtain ⟨value', rest, hassigned, hvalue, hrest⟩ :=
      assigned_written_cons (hnames _ List.mem_cons_self) ps
    rw [hassigned] at h
    obtain ⟨hfirst, hothers⟩ := List.nodup_cons.mp hnodup
    -- no other entry has this name, so its value was read here
    have hsame : value' = value := by
      rcases List.mem_cons.mp (h.subset List.mem_cons_self) with hp | hp
      · exact (Prod.mk.inj hp).2
      · exact (hfirst (List.mem_map.mpr ⟨_, hp, rfl⟩)).elim
    have hkept := hvalue.mp hsame
    rw [hsame, hrest hkept] at h
    exact allKept_cons.mpr ⟨hkept,
      ih (fun p hp => hnames p (List.mem_cons_of_mem _ hp)) hothers h.cons_inv⟩

theorem breaks_body (value : List Char) : breaks (body value) = breaks value := by
  unfold body
  split
  · exact breaks_writeBreaks value
  · rfl

/-- The written text has as many line breaks as its entries need. -/
theorem breaks_written {ps : List (String × String)} (hnames : ∀ p ∈ ps, IsName p.1) :
    breaks (written ps) = cost ps := by
  induction ps with
  | nil => rfl
  | cons p ps ih =>
    obtain ⟨name, value⟩ := p
    obtain ⟨hescape, hline, hn⟩ := isQuote_ne (isQuote_quoteOf value.toList)
    have hcost : cost ((name, value) :: ps) = breaks value.toList + 1 + cost ps := rfl
    have hname : breaks name.toList = 0 := by
      refine breaks_eq_zero ?_
      intro c hc
      have hchar := (hnames _ List.mem_cons_self).isNameChar hc
      refine ⟨?_, (isNameChar_ne hchar).2.2.2.1⟩
      rintro rfl
      exact absurd hchar (by decide)
    rw [written_cons, breaks_append_cons (by decide), hname, breaks_cons_of_ne (by decide),
      breaks_cons_of_ne hescape, breaks_append_cons hn, breaks_cons_of_ne hescape,
      breaks_newline, breaks_body, if_neg (by decide), if_neg hline, hcost,
      ih fun p hp => hnames p (List.mem_cons_of_mem _ hp)]
    omega

theorem return_notMem_body (value : List Char) : '\r' ∉ body value := by
  unfold body
  split
  · intro h
    exact (mem_writeBreaks h).2.1 rfl
  · next hdouble => exact (quoteOf_notMem hdouble).1

theorem return_notMem_written {ps : List (String × String)} (hnames : ∀ p ∈ ps, IsName p.1) :
    '\r' ∉ written ps := by
  induction ps with
  | nil => exact List.not_mem_nil
  | cons p ps ih =>
    obtain ⟨name, value⟩ := p
    have hname : '\r' ∉ name.toList := fun h =>
      (isNameChar_ne ((hnames _ List.mem_cons_self).isNameChar h)).2.2.2.2 rfl
    have hquote : '\r' ≠ quoteOf value.toList := by
      intro h
      have hreturn := isQuote_quoteOf value.toList
      rw [← h] at hreturn
      exact absurd hreturn (by decide)
    have hothers := ih fun p hp => hnames p (List.mem_cons_of_mem _ hp)
    rw [written_cons]
    simp [hname, hquote, return_notMem_body, hothers]

theorem toList_write (m : Mapping) : (write m).toList = written m.toList :=
  String.toList_ofList

theorem entries_read_write {m : Mapping} (hnames : ∀ p ∈ m.toList, IsName p.1) :
    (read (write m)).entries = .ofList (assigned (written m.toList)) := by
  rw [read, toList_write, normalizeBreaks_of_notMem (return_notMem_written hnames)]
  rfl

/-- A mapping is read back as it was written exactly if each of its values is kept: no entry is
lost, changed or added. -/
theorem read_write_iff (m : Mapping) (hnames : ∀ p ∈ m.toList, IsName p.1) :
    (read (write m)).entries = m ↔ AllKept m.toList := by
  rw [entries_read_write hnames]
  constructor
  · intro hentries
    -- the entries are among the assignments, and the budget leaves no room for others
    have hnodup : m.toList.Nodup :=
      (List.pairwise_map.mp m.nodup_toList).imp fun hne heq => hne (congrArg _ heq)
    have hcost : cost (assigned (written m.toList)) ≤ cost m.toList := by
      rw [← breaks_written hnames]
      exact cost_assigned_le _ (endsLines_written _)
    exact allKept_of_perm hnames m.nodup_toList
      (perm_of_cost_le hnodup (Mapping.subset_of_ofList_eq hentries) hcost)
  · intro hkept
    rw [assigned_written_of_allKept hnames hkept, Mapping.ofList_toList]

/-- A backslash at the end of a value does no harm where no later entry can close it: here the quote
of the next entry does not end its line. -/
theorem read_write_backslash :
    let m := (Mapping.empty.insert "A" "x\\").insert "B" "it's"
    (∀ p ∈ m.toList, IsName p.1) ∧ (read (write m)).entries = m := by
  intro m
  have hnames : ∀ p ∈ m.toList, IsName p.1 := by decide +kernel
  have hentries : m.toList = [("A", "x\\"), ("B", "it's")] := by decide +kernel
  have hopen : closing? '\'' (written [("B", "it's")]) = none := by decide +kernel
  refine ⟨hnames, (read_write_iff m hnames).mpr ?_⟩
  rw [hentries, allKept_cons, allKept_cons]
  refine ⟨kept_of_ne (by decide) ?_, kept_of_ne (by decide) ?_, allKept_nil⟩
  · rintro - ⟨place, hplace⟩
    exact (closing?_eq_none_iff (by decide)).mp hopen place hplace
  · intro hends
    exact absurd hends (by decide)

/-- A backslash at the end of a value costs the next entry, although neither value holds all three
quotes. -/
theorem not_read_write_neighbours :
    let m := (Mapping.empty.insert "A" "x\\").insert "B" "#y"
    (∀ p ∈ m.toList, IsName p.1) ∧
      (∀ p ∈ m.toList, ¬ ('\'' ∈ p.2.toList ∧ '"' ∈ p.2.toList ∧ '`' ∈ p.2.toList ∧
        '\\' ∈ p.2.toList)) ∧
      (read (write m)).entries = Mapping.empty.insert "A" "x\\'\nB=" ∧
      (read (write m)).entries ≠ m := by
  decide +kernel

end EnvInline.Definition
