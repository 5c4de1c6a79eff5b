import EnvInline.Proofs.DefinitionText

/-!
# A definition file behind another

A value between quotes looks ahead over the lines behind it, so a text that is put behind a file
could change how that file is read. It does not if every quoted value of the file meets a quote in
it that is not escaped: then the look-ahead ends inside the file.

* `read_append` — lines that are put behind do not matter to such a value;
* `roles_append` — nor to the role of any line;
* `read_concat` — the second file overrides the entries of the first, and its lines are counted on.
-/

namespace EnvInline.Definition

open EnvInline.Text

/-- The quote that opens the value of the assignment on a line, and what follows it there. -/
def opening? (line : List Char) : Option (Char × List Char) :=
  match (Assignment.read? (trimStart line)).map fun p => trimStart p.2 with
  | some (q :: rest) => if Quoted.isQuote q then some (q, rest) else none
  | _ => none

/-- An assignment among the lines opens its value with `q`, and `behind` is everything behind that
quote. -/
def Opens (lines : List (List Char)) (q : Char) (behind : List Char) : Prop :=
  ∃ i name value line following rest,
    (roles 0 lines)[i]? = some (.assignment name value) ∧
      lines.drop i = line :: following ∧ opening? line = some (q, rest) ∧
      behind = joinLines (rest :: following)

/-- Every quoted value meets its quote again in the text, not escaped. -/
def QuotesClose (lines : List (List Char)) : Prop :=
  ∀ q behind, Opens lines q behind →
    ∃ before after, behind = before ++ q :: after ∧ ¬ Quoted.EndsEscaped before

/-! ## Looking ahead -/

namespace Quoted

theorem joinLines_cons_cons (text l : List Char) (ls : List (List Char)) :
    joinLines (text :: l :: ls) = joinLines ((text ++ '\n' :: l) :: ls) := by
  rw [← foldl_lines, ← foldl_lines, List.foldl_cons]

theorem not_allEscaped_iff {q : Char} {text : List Char} :
    ¬ AllEscaped q text ↔ ∃ before after, text = before ++ q :: after ∧ ¬ EndsEscaped before := by
  simp [AllEscaped]

/-- No line is taken in behind a quote that is not escaped. -/
theorem gather_append {q : Char} (hq : q ≠ '\\') {text : List Char} {ls : List (List Char)}
    (h : ¬ AllEscaped q (joinLines (text :: ls))) (ls' : List (List Char)) :
    gather q text (ls ++ ls') = gather q text ls := by
  induction ls generalizing text with
  | nil =>
    have hscan : firstUnescaped q false text ≠ none :=
      fun hnone => h ((allEscaped_iff hq).mpr hnone)
    cases ls' with
    | nil => rfl
    | cons l ls' =>
      rw [List.nil_append, gather, gather]
      split
      · rfl
      · next hnone => exact (hscan hnone).elim
  | cons l ls ih =>
    rw [List.cons_append, gather, gather]
    split
    · rfl
    · rw [joinLines_cons_cons] at h
      exact ih h

theorem read_append {q : Char} (hq : q ≠ '\\') {text : List Char} {ls : List (List Char)}
    (h : ¬ AllEscaped q (joinLines (text :: ls))) (ls' : List (List Char)) :
    read q text (ls ++ ls') = read q text ls := by
  rw [read, read, gather_append hq h]

/-- Each line that is taken in brings one line break. -/
theorem count_gather_le (q : Char) (text : List Char) {ls : List (List Char)}
    (h : ∀ l ∈ ls, '\n' ∉ l) :
    (gather q text ls).count '\n' ≤ text.count '\n' + ls.length := by
  induction ls generalizing text with
  | nil => exact Nat.le_refl _
  | cons l ls ih =>
    rw [gather]
    split
    · exact Nat.le_add_right _ _
    · have hl : l.count '\n' = 0 := List.count_eq_zero_of_not_mem (h l List.mem_cons_self)
      have hls := ih (text ++ '\n' :: l) fun l' hl' => h l' (List.mem_cons_of_mem l hl')
      rw [List.count_append, List.count_cons_self, hl] at hls
      rw [List.length_cons]
      omega

/-- A value takes no more lines than there are. -/
theorem used_le {q : Char} {text : List Char} {ls : List (List Char)} (htext : '\n' ∉ text)
    (h : ∀ l ∈ ls, '\n' ∉ l) {value : List Char} {used : Nat}
    (hread : read q text ls = some (value, used)) : used ≤ ls.length := by
  obtain ⟨place, -, henclosed⟩ := Option.map_eq_some_iff.mp hread
  obtain rfl : _ = used := (Prod.mk.inj henclosed).2
  have hgather := count_gather_le q text h
  rw [List.count_eq_zero_of_not_mem htext, Nat.zero_add] at hgather
  exact ((List.take_sublist _ _).count_le _).trans hgather

end Quoted

/-! ## One line -/

theorem opening?_eq_some {line name text rest : List Char} {q : Char}
    (hread : Assignment.read? (trimStart line) = some (name, text))
    (hstart : trimStart text = q :: rest) (hquote : Quoted.isQuote q = true) :
    opening? line = some (q, rest) := by
  simp [opening?, hread, hstart, hquote]

theorem read?_nil : Assignment.read? [] = none := rfl

theorem read?_comment (line : List Char) : Assignment.read? ('#' :: line) = none := by
  have hname : Assignment.isNameChar '#' = false := by decide
  simp [Assignment.read?, Assignment.afterExport?, Assignment.split?, hname]

/-- A line that opens a quoted value is an assignment. -/
theorem exists_assignment_of_opening? {line rest : List Char} {q : Char}
    (h : opening? line = some (q, rest)) (ls : List (List Char)) :
    ∃ name value, (readLine line ls).1 = .assignment name value := by
  cases hread : Assignment.read? (trimStart line) with
  | none => simp [opening?, hread] at h
  | some p =>
    have hne : ((trimStart line).isEmpty || (trimStart line).head? == some '#') = false := by
      cases hstart : trimStart line with
      | nil => simp [hstart, read?_nil] at hread
      | cons c r =>
        by_cases hc : c = '#'
        · simp [hstart, hc, read?_comment] at hread
        · simp [hc]
    simp only [readLine, hread, hne]
    exact ⟨_, _, rfl⟩

/-- Lines behind matter only to a quoted value that does not end before them. -/
theorem readLine_append {line : List Char} {ls : List (List Char)}
    (h : ∀ q rest, opening? line = some (q, rest) →
      ¬ Quoted.AllEscaped q (joinLines (rest :: ls))) (ls' : List (List Char)) :
    readLine line (ls ++ ls') = readLine line ls := by
  simp only [readLine]
  split
  · rfl
  · cases hread : Assignment.read? (trimStart line) with
    | none => rfl
    | some p =>
      obtain ⟨name, text⟩ := p
      have hvalue : readValue text (ls ++ ls') = readValue text ls := by
        simp only [readValue]
        cases hstart : trimStart text with
        | nil => rfl
        | cons q rest =>
          by_cases hquote : Quoted.isQuote q = true
          · have hopen := h q rest (opening?_eq_some hread hstart hquote)
            simp only [hquote, if_true, Quoted.read_append (isQuote_ne hquote).1 hopen]
          · simp only [hquote]
            rfl
      simp only [hvalue]

/-- What follows the opening quote of a value is the end of its line. -/
theorem suffix_of_opening {line name text rest : List Char} {q : Char}
    (hread : Assignment.read? (trimStart line) = some (name, text))
    (hstart : trimStart text = q :: rest) : rest <:+ line := by
  have htext : rest <:+ text :=
    (List.suffix_cons q rest).trans (hstart ▸ List.dropWhile_suffix isBlank)
  have hstarted : text <:+ line := (suffix_of_read? hread).trans (List.dropWhile_suffix isBlank)
  exact htext.trans hstarted

theorem used_readLine_le {line : List Char} {ls : List (List Char)} (hline : '\n' ∉ line)
    (h : ∀ l ∈ ls, '\n' ∉ l) : (readLine line ls).2 ≤ ls.length := by
  simp only [readLine]
  split
  · exact Nat.zero_le _
  · split
    · exact Nat.zero_le _
    · next name text hread =>
      simp only [readValue]
      split
      · exact Nat.zero_le _
      · next q rest hstart =>
        split
        · cases hvalue : Quoted.read q rest ls with
          | none => exact Nat.zero_le _
          | some p =>
            have hrest : '\n' ∉ rest := fun hmem =>
              hline ((suffix_of_opening hread hstart).subset hmem)
            exact Quoted.used_le hrest h hvalue
        · exact Nat.zero_le _

/-! ## All lines -/

theorem length_roles (owed : Nat) (ls : List (List Char)) : (roles owed ls).length = ls.length := by
  induction ls generalizing owed with
  | nil => rw [roles]; rfl
  | cons l ls ih =>
    cases owed with
    | zero => rw [roles, List.length_cons, List.length_cons, ih]
    | succ owed => rw [roles, List.length_cons, List.length_cons, ih]

theorem malformedLines_append (n : Nat) (rs rs' : List Role) :
    malformedLines n (rs ++ rs') = malformedLines n rs ++ malformedLines (n + rs.length) rs' := by
  induction rs generalizing n with
  | nil => rfl
  | cons r rs ih =>
    have hlength : n + (rs.length + 1) = n + 1 + rs.length := by omega
    rw [List.cons_append, List.length_cons, hlength]
    cases r <;> simp only [malformedLines, ih, List.cons_append]

/-- The numbers of the lines are counted from that of the first one. -/
theorem malformedLines_add (n k : Nat) (rs : List Role) :
    malformedLines (n + k) rs = (malformedLines n rs).map (· + k) := by
  induction rs generalizing n with
  | nil => rfl
  | cons r rs ih =>
    have hnext : n + k + 1 = n + 1 + k := by omega
    cases r <;> simp only [malformedLines, hnext, ih, List.map_cons]

/-- What a line leaves over is as well closed as the whole. -/
theorem QuotesClose.drop {l : List Char} {ls : List (List Char)} (h : QuotesClose (l :: ls))
    (hused : (readLine l ls).2 ≤ ls.length) : QuotesClose (ls.drop (readLine l ls).2) := by
  rintro q behind ⟨i, name, value, line, following, rest, hrole, hline, hopen, hbehind⟩
  refine h q behind
    ⟨(readLine l ls).2 + i + 1, name, value, line, following, rest, ?_, ?_, hopen, hbehind⟩
  · -- the continuation lines of the value stand between
    rw [roles, roles_eq, List.getElem?_cons_succ, Nat.min_eq_left hused,
      List.getElem?_append_right (by rw [List.length_replicate]; omega), List.length_replicate,
      Nat.add_sub_cancel_left]
    exact hrole
  · rw [List.drop_succ_cons, ← List.drop_drop]
    exact hline

/-- Lines behind do not matter to the role of any line if all quoted values end before them. -/
theorem roles_append {ls : List (List Char)} (hline : ∀ l ∈ ls, '\n' ∉ l) (h : QuotesClose ls)
    (ls' : List (List Char)) : roles 0 (ls ++ ls') = roles 0 ls ++ roles 0 ls' := by
  -- by induction on the number of lines, since a value may take many lines away
  induction hn : ls.length using Nat.strong_induction_on generalizing ls with
  | _ n ih =>
    cases ls with
    | nil => rw [List.nil_append, roles, List.nil_append]
    | cons l ls =>
      have hls : ∀ l' ∈ ls, '\n' ∉ l' := fun l' hl' => hline l' (List.mem_cons_of_mem l hl')
      have hused := used_readLine_le (hline l List.mem_cons_self) hls
      have hfirst : readLine l (ls ++ ls') = readLine l ls := by
        apply readLine_append
        intro q rest hopen
        obtain ⟨name, value, hrole⟩ := exists_assignment_of_opening? hopen ls
        rw [Quoted.not_allEscaped_iff]
        exact h q _ ⟨0, name, value, l, ls, rest, by rw [roles, hrole]; rfl, rfl, hopen, rfl⟩
      have hdrop : ∀ l' ∈ ls.drop (readLine l ls).2, '\n' ∉ l' :=
        fun l' hl' => hls l' (List.mem_of_mem_drop hl')
      have hrest := ih (ls.drop (readLine l ls).2).length
        (by rw [List.length_drop, ← hn, List.length_cons]; omega) hdrop (h.drop hused) rfl
      rw [List.cons_append, roles, roles, hfirst, roles_eq, roles_eq _ ls,
        List.drop_append_of_le_length hused, hrest, Nat.min_eq_left hused,
        Nat.min_eq_left (by rw [List.length_append]; omega)]
      simp only [List.cons_append, List.append_assoc]

/-! ## Two files -/

theorem readLines_append {ls : List (List Char)} (hline : ∀ l ∈ ls, '\n' ∉ l)
    (h : QuotesClose ls) (ls' : List (List Char)) :
    (∀ name, (readLines (ls ++ ls')).entries.get? name =
      ((readLines ls').entries.get? name).or ((readLines ls).entries.get? name)) ∧
    (readLines (ls ++ ls')).skipped =
      (readLines ls).skipped ++ (readLines ls').skipped.map (· + ls.length) := by
  simp only [readLines, roles_append hline h ls']
  constructor
  · intro name
    rw [assignments_append, Mapping.get?_ofList, Mapping.get?_ofList, Mapping.get?_ofList,
      List.reverse_append, List.lookup_append]
  · rw [malformedLines_append, length_roles, malformedLines_add]

/-- A second file behind a first one, on lines of its own: its entries override those of the first,
and its skipped lines follow those of the first, counted on from the number of its lines. -/
theorem read_concat (a b : String) (ha : '\r' ∉ a.toList) (hb : '\r' ∉ b.toList)
    (hclose : QuotesClose (splitLines a.toList)) :
    (∀ name, (read (a ++ "\n" ++ b)).entries.get? name =
      ((read b).entries.get? name).or ((read a).entries.get? name)) ∧
    (read (a ++ "\n" ++ b)).skipped =
      (read a).skipped ++ (read b).skipped.map (· + (a.toList.count '\n' + 1)) := by
  have htext : (a ++ "\n" ++ b).toList = a.toList ++ '\n' :: b.toList := by simp
  have hboth : '\r' ∉ (a ++ "\n" ++ b).toList := by
    rw [htext]
    simp [ha, hb]
  rw [read_of_notMem hboth, read_of_notMem ha, read_of_notMem hb, htext, splitLines_newline,
    ← length_splitLines]
  exact readLines_append (fun _ => newline_notMem_of_mem_splitLines) hclose (splitLines b.toList)

/-- The value of `A` runs over an escaped quote and a line that looks like an assignment up to the
last quote of its kind; the value of `C` opens a quote that nothing closes. -/
theorem read_concat_quoted :
    let a := "A='it\\'s\nB=\"1'\nnope\nB=2"
    let b := "B=\"3\" # c\njunk\nC='open"
    let ab := read (a ++ "\n" ++ b)
    '\r' ∉ a.toList ∧ '\r' ∉ b.toList ∧ QuotesClose (splitLines a.toList) ∧
      ab.entries.get? "A" = some "it\\'s\nB=\"1" ∧ ab.entries.get? "B" = some "3" ∧
      ab.entries.get? "C" = some "'open" ∧ ab.skipped = [3, 6] := by
  intro a b ab
  have ha : '\r' ∉ a.toList := by decide +kernel
  have hb : '\r' ∉ b.toList := by decide +kernel
  have hroles : roles 0 (splitLines a.toList) =
      [.assignment "A" "it\\'s\nB=\"1", .continuation, .malformed, .assignment "B" "2"] := by
    decide +kernel
  have hlines : splitLines a.toList =
      ["A='it\\'s".toList, "B=\"1'".toList, "nope".toList, "B=2".toList] := by decide +kernel
  have hclose : QuotesClose (splitLines a.toList) := by
    rintro q behind ⟨i, name, value, line, following, rest, hrole, hline, hopen, rfl⟩
    rw [hroles] at hrole
    rw [hlines] at hline
    match i with
    | 0 =>
      obtain ⟨rfl, rfl⟩ := List.cons.inj hline
      have hfirst : opening? "A='it\\'s".toList = some ('\'', "it\\'s".toList) := by decide +kernel
      obtain ⟨rfl, rfl⟩ := Prod.mk.inj (Option.some.inj (hfirst.symm.trans hopen))
      exact ⟨"it\\'s\nB=\"1".toList, "\nnope\nB=2".toList, by decide +kernel, by decide +kernel⟩
    | 1 => cases hrole
    | 2 => cases hrole
    | 3 =>
      obtain ⟨rfl, rfl⟩ := List.cons.inj hline
      have hlast : opening? "B=2".toList = none := by decide +kernel
      cases hlast.symm.trans hopen
    | i + 4 => cases hrole
  obtain ⟨hentries, hskipped⟩ := read_concat a b ha hb hclose
  refine ⟨ha, hb, hclose, ?_, ?_, ?_, ?_⟩
  · exact (hentries "A").trans (by decide +kernel)
  · exact (hentries "B").trans (by decide +kernel)
  · exact (hentries "C").trans (by decide +kernel)
  · exact hskipped.trans (by decide +kernel)

end EnvInline.Definition
