import EnvInline.Proofs.Concatenation
import EnvInline.Proofs.LineGrammar

/-!
# What becomes of each line

The reader goes over the lines of a file by an index, and a value between quotes moves the index
ahead by as many lines as end between its quotes. Here every line of a file is accounted for.

* `Fresh`, `Taken` — the lines that the reader takes up afresh, which are the values of its index,
  and those that the value of such a line takes;
* `LineIs` — what a line is: blank, skipped, the first line of an assignment, or a line within the
  quotes of an assignment above;
* `fresh_or_taken`, `drop_roles` — every line is fresh or taken, and from a fresh line on the file
  is read as if it began there;
* `lineIs_iff` — the reader finds for each line the role that the line has;
* `lines_accounted` — no line is lost, read twice or reported without cause.
-/

namespace EnvInline.Definition

open EnvInline.Text Assignment

/-- The lines that are taken up afresh: the values of the line index. -/
inductive Fresh (lines : List (List Char)) : Nat → Prop
  | first : Fresh lines 0
  | next {i : Nat} {line : List Char} {following : List (List Char)} :
    Fresh lines i → lines.drop i = line :: following →
    Fresh lines (i + 1 + (readLine line following).2)

/-- The lines that are passed over with the value of a fresh line. -/
def Taken (lines : List (List Char)) (i : Nat) : Prop :=
  ∃ j k line following, Fresh lines j ∧ lines.drop j = line :: following ∧
    k < (readLine line following).2 ∧ i = j + 1 + k

/-- What a line reads as that is taken up afresh. -/
inductive ReadsAs (line : List Char) (following : List (List Char)) : Role → Prop
  | blank : trimStart line = [] ∨ (trimStart line).head? = some '#' →
    ReadsAs line following .blank
  | malformed : trimStart line ≠ [] → (trimStart line).head? ≠ some '#' →
    (∀ name text, ¬ Spells (trimStart line) name text) → ReadsAs line following .malformed
  | assignment {name text : List Char} : Spells (trimStart line) name text →
    ReadsAs line following
      (.assignment (String.ofList name) (String.ofList (readValue text following).1))

/-- The line is taken up afresh, and reads as this. -/
def Begins (lines : List (List Char)) (i : Nat) (role : Role) : Prop :=
  Fresh lines i ∧ ∃ line following, lines.drop i = line :: following ∧ ReadsAs line following role

/-- The line spells an assignment whose value stands between two quotes: `raw` is the text behind
the first of them up to the last quote of the file that can close it. -/
def Encloses (line : List Char) (following : List (List Char)) (name value : String)
    (raw : List Char) : Prop :=
  ∃ text q behind, Spells (trimStart line) name.toList text ∧ trimStart text = q :: behind ∧
    Quoted.isQuote q = true ∧ Quoted.ClosesLast q (joinLines (behind :: following)) raw ∧
    value.toList = Quoted.meaning q raw

/-- An assignment on a fresh line above has a value between quotes, and the line is a further line
of the text in there, in whole or up to the closing quote. -/
def Continues (lines : List (List Char)) (i : Nat) : Prop :=
  ∃ j line following name value raw, Fresh lines j ∧ lines.drop j = line :: following ∧
    Encloses line following name value raw ∧
    ∃ k part here, i = j + 1 + k ∧ (splitLines raw)[k + 1]? = some part ∧
      following[k]? = some here ∧ part <+: here

/-- What a line of a file is, where the lines with the numbers `skipped` are reported. -/
def LineIs (lines : List (List Char)) (skipped : List Nat) (i : Nat) : Role → Prop
  | .blank => Begins lines i .blank
  | .malformed => i + 1 ∈ skipped
  | .assignment name value => Begins lines i (.assignment name value)
  | .continuation => Continues lines i

/-! ## Among the roles -/

/-- The numbers of the skipped lines increase. -/
theorem pairwise_malformedLines (n : Nat) (rs : List Role) :
    (malformedLines n rs).Pairwise (· < ·) := by
  induction rs generalizing n with
  | nil => exact .nil
  | cons r rs ih =>
    cases r with
    | malformed =>
      refine List.pairwise_cons.mpr ⟨fun k hk => ?_, ih (n + 1)⟩
      obtain ⟨i, -, rfl⟩ := mem_malformedLines.mp hk
      omega
    | blank => exact ih (n + 1)
    | assignment name value => exact ih (n + 1)
    | continuation => exact ih (n + 1)

theorem lt_length_of_role {lines : List (List Char)} {i : Nat} {role : Role}
    (h : (roles 0 lines)[i]? = some role) : i < lines.length := by
  obtain ⟨hlt, -⟩ := List.getElem?_eq_some_iff.mp h
  rwa [length_roles] at hlt

/-- The numbers of the skipped lines are those of the malformed ones. -/
theorem mem_skipped_iff {lines : List (List Char)} {i : Nat} :
    i + 1 ∈ (readLines lines).skipped ↔ (roles 0 lines)[i]? = some .malformed := by
  change i + 1 ∈ malformedLines 1 (roles 0 lines) ↔ _
  rw [mem_malformedLines]
  constructor
  · rintro ⟨k, hk, heq⟩
    obtain rfl : i = k := by omega
    exact hk
  · intro hi
    exact ⟨i, hi, Nat.add_comm i 1⟩

/-- One more assignment counts for its own name only. -/
theorem get?_assignments_concat (rs : List Role) (r : Role) (name : String) :
    (Mapping.ofList (assignments (rs ++ [r]))).get? name =
      ((assignments [r]).lookup name).or ((Mapping.ofList (assignments rs)).get? name) := by
  rw [assignments_append, Mapping.get?_ofList, Mapping.get?_ofList, List.reverse_append,
    List.lookup_append]
  cases r <;> rfl

theorem getElem?_concat_of_ne {rs : List Role} {r role : Role} (h : r ≠ role) {i : Nat} :
    (rs ++ [r])[i]? = some role ↔ rs[i]? = some role := by
  rw [List.getElem?_append]
  split
  · rfl
  · next hge =>
    rw [List.getElem?_eq_none (not_lt.mp hge)]
    refine ⟨fun hmem => ?_, fun hnone => by cases hnone⟩
    exact (h (List.mem_singleton.mp (List.mem_of_getElem? hmem)).symm).elim

/-- The value of a name is the one that the last assignment to it gives. -/
theorem get?_ofList_assignments {rs : List Role} {name value : String} :
    (Mapping.ofList (assignments rs)).get? name = some value ↔
      ∃ i : Nat, rs[i]? = some (.assignment name value) ∧
        ∀ j : Nat, i < j → ∀ other, rs[j]? ≠ some (.assignment name other) := by
  induction rs using List.reverseRecOn with
  | nil => simp [assignments, Mapping.ofList]
  | append_singleton rs r ih =>
    rw [get?_assignments_concat]
    by_cases hlast : ∃ v, r = .assignment name v
    · obtain ⟨v, rfl⟩ := hlast
      have hend : (rs ++ [Role.assignment name v])[rs.length]? = some (.assignment name v) :=
        List.getElem?_concat_length
      rw [assignments_singleton, List.lookup_cons_self, Option.some_or]
      constructor
      · rintro ⟨rfl⟩
        refine ⟨rs.length, hend, fun j hj other => ?_⟩
        rw [List.getElem?_eq_none (by simp; omega)]
        exact (Option.some_ne_none _).symm
      · rintro ⟨i, hi, hlater⟩
        -- an earlier assignment would have the last one behind it
        obtain ⟨hlt, -⟩ := List.getElem?_eq_some_iff.mp hi
        rw [List.length_append, List.length_singleton] at hlt
        obtain rfl : i = rs.length := by
          by_contra hne
          exact hlater rs.length (by omega) v hend
        rw [hend] at hi
        exact congrArg some (Role.assignment.inj (Option.some.inj hi)).2
    · have hlookup : (assignments [r]).lookup name = none := by
        cases r with
        | assignment other v =>
          have hother : name ≠ other := fun h => hlast ⟨v, h ▸ rfl⟩
          rw [assignments_singleton, List.lookup_cons, beq_eq_false_iff_ne.mpr hother]
          rfl
        | blank => rfl
        | malformed => rfl
        | continuation => rfl
      have hsame : ∀ (i : Nat) (v : String),
          (rs ++ [r])[i]? = some (.assignment name v) ↔ rs[i]? = some (.assignment name v) :=
        fun i v => getElem?_concat_of_ne fun h => hlast ⟨v, h⟩
      rw [hlookup, Option.none_or, ih]
      simp only [hsame, ne_eq]

/-! ## One line -/

/-- The reader makes of a fresh line what the line reads as. -/
theorem fst_readLine_iff {line : List Char} {following : List (List Char)} {role : Role} :
    (readLine line following).1 = role ↔ ReadsAs line following role := by
  constructor
  · rintro rfl
    by_cases hblank : trimStart line = [] ∨ (trimStart line).head? = some '#'
    · rw [readLine_of_blank hblank]
      exact .blank hblank
    · rw [not_or] at hblank
      rw [readLine_of_not_blank following hblank]
      cases hread : read? (trimStart line) with
      | none => exact .malformed hblank.1 hblank.2 (read?_eq_none_iff.mp hread)
      | some p => exact .assignment (read?_eq_some_iff.mp hread)
  · rintro (hblank | ⟨hne, hcomment, hspells⟩ | hspells)
    · rw [readLine_of_blank hblank]
    · rw [readLine_of_not_blank following ⟨hne, hcomment⟩, read?_eq_none_iff.mpr hspells]
    · rw [readLine_of_not_blank following hspells.not_blank, read?_eq_some_iff.mpr hspells]

theorem readLine_of_spells {line name text : List Char} (h : Spells (trimStart line) name text)
    (following : List (List Char)) :
    readLine line following =
      (.assignment (String.ofList name) (String.ofList (readValue text following).1),
        (readValue text following).2) := by
  rw [readLine_of_not_blank following h.not_blank, read?_eq_some_iff.mpr h]

/-- A value between quotes takes the lines that end between them. -/
theorem readLine_of_encloses {line raw : List Char} {following : List (List Char)}
    {name value : String} (h : Encloses line following name value raw) :
    readLine line following = (.assignment name value, raw.count '\n') := by
  obtain ⟨text, q, behind, hspells, hstart, hquote, hlast, hvalue⟩ := h
  have hread := (Quoted.read_eq_some_iff hquote behind following).mpr ⟨raw, hlast, hvalue, rfl⟩
  have hreadValue : readValue text following = (value.toList, raw.count '\n') := by
    rw [readValue, hstart]
    simp only [hquote, if_true, hread, Option.getD_some]
  rw [readLine_of_spells hspells, hreadValue, String.ofList_toList, String.ofList_toList]

/-- A value takes lines away only if it is read between quotes. -/
theorem exists_read_of_used {text value : List Char} {following : List (List Char)} {used : Nat}
    (h : readValue text following = (value, used)) (hused : 0 < used) :
    ∃ q behind, trimStart text = q :: behind ∧ Quoted.isQuote q = true ∧
      Quoted.read q behind following = some (value, used) := by
  rw [readValue] at h
  split at h
  · cases h
    cases hused
  · next q behind hstart =>
    split at h
    · next hquote =>
      cases hread : Quoted.read q behind following with
      | none =>
        rw [hread] at h
        cases h
        cases hused
      | some p =>
        rw [hread, Option.getD_some] at h
        exact ⟨q, behind, hstart, hquote, by rw [hread, h]⟩
    · cases h
      cases hused

/-- A line that takes others away encloses a value. -/
theorem exists_encloses {line : List Char} {following : List (List Char)}
    (h : 0 < (readLine line following).2) :
    ∃ name value raw, Encloses line following name value raw := by
  -- of the three readings of a line only an assignment takes lines away
  have hreads := fst_readLine_iff.mp (Eq.refl (readLine line following).1)
  generalize (readLine line following).1 = role at hreads
  cases hreads with
  | blank hblank =>
    rw [readLine_of_blank hblank] at h
    cases h
  | malformed hne hcomment hspells =>
    rw [readLine_of_not_blank following ⟨hne, hcomment⟩, read?_eq_none_iff.mpr hspells] at h
    cases h
  | @assignment name text hspells =>
    rw [readLine_of_spells hspells] at h
    obtain ⟨q, behind, hstart, hquote, hread⟩ := exists_read_of_used rfl h
    obtain ⟨raw, hlast, -⟩ := (Quoted.read_eq_some_iff hquote behind following).mp hread
    exact ⟨String.ofList name, String.ofList (Quoted.meaning q raw), raw, text, q, behind,
      String.toList_ofList ▸ hspells, hstart, hquote, hlast, String.toList_ofList⟩

/-! ## The lines between two quotes -/

theorem splitLines_cons_of_ne {c : Char} (hc : c ≠ '\n') {x line : List Char}
    {lines : List (List Char)} (h : splitLines x = line :: lines) :
    splitLines (c :: x) = (c :: line) :: lines := by
  rw [splitLines, if_neg hc, h]

/-- A line of the beginning of a text begins a line of the text. -/
theorem exists_splitLines_append (x y : List Char) {k : Nat} {part : List Char}
    (h : (splitLines x)[k]? = some part) :
    ∃ line, (splitLines (x ++ y))[k]? = some line ∧ part <+: line := by
  induction x generalizing k part with
  | nil =>
    cases k with
    | zero =>
      obtain ⟨line, lines, hlines⟩ := List.exists_cons_of_ne_nil (splitLines_ne_nil y)
      obtain rfl : [] = part := Option.some.inj h
      exact ⟨line, by rw [List.nil_append, hlines]; rfl, List.nil_prefix⟩
    | succ k => cases h
  | cons c x ih =>
    by_cases hc : c = '\n'
    · subst hc
      cases k with
      | zero =>
        obtain rfl : [] = part := Option.some.inj h
        exact ⟨[], rfl, List.nil_prefix⟩
      | succ k => exact ih h
    · obtain ⟨head, tail, hx⟩ := List.exists_cons_of_ne_nil (splitLines_ne_nil x)
      obtain ⟨head', tail', hy⟩ := List.exists_cons_of_ne_nil (splitLines_ne_nil (x ++ y))
      rw [splitLines_cons_of_ne hc hx] at h
      rw [List.cons_append, splitLines_cons_of_ne hc hy]
      rw [hx, hy] at ih
      cases k with
      | zero =>
        obtain rfl : c :: head = part := Option.some.inj h
        obtain ⟨line, hline, hprefix⟩ := ih (k := 0) rfl
        obtain rfl : head' = line := Option.some.inj hline
        exact ⟨c :: head', rfl, (List.prefix_cons_inj c).mpr hprefix⟩
      | succ k => exact ih (k := k + 1) h

theorem splitLines_joinLines {line : List Char} {lines : List (List Char)} (hline : '\n' ∉ line)
    (hlines : ∀ l ∈ lines, '\n' ∉ l) : splitLines (joinLines (line :: lines)) = line :: lines := by
  induction lines generalizing line with
  | nil => exact splitLines_of_notMem hline
  | cons l lines ih =>
    rw [joinLines, splitLines_append hline,
      ih (hlines l List.mem_cons_self) fun l' hl' => hlines l' (List.mem_cons_of_mem l hl')]
    exact List.cons_ne_nil l lines

section

variable {line : List Char} {following : List (List Char)} (hline : '\n' ∉ line)
  (hfollowing : ∀ l ∈ following, '\n' ∉ l) {name value : String} {raw : List Char}
include hline hfollowing

/-- The lines of the text between two quotes are lines of the file. -/
theorem Encloses.exists_part (h : Encloses line following name value raw) {k : Nat}
    (hk : k < raw.count '\n') :
    ∃ part here, (splitLines raw)[k + 1]? = some part ∧ following[k]? = some here ∧
      part <+: here := by
  -- `raw` begins what is behind the quote, and is cut where that is cut
  obtain ⟨text, q, behind, hspells, hstart, -, ⟨⟨after, hsplit, -⟩, -⟩, -⟩ := h
  have hbehind : '\n' ∉ behind := fun hmem =>
    hline ((suffix_of_opening (read?_eq_some_iff.mpr hspells) hstart).subset hmem)
  have hlength : k + 1 < (splitLines raw).length := by rw [length_splitLines]; omega
  have hpart := List.getElem?_eq_getElem hlength
  obtain ⟨here, hhere, hprefix⟩ := exists_splitLines_append raw (q :: after) hpart
  rw [← hsplit, splitLines_joinLines hbehind hfollowing] at hhere
  exact ⟨_, here, hpart, hhere, hprefix⟩

end

/-! ## Fresh lines -/

/-- Every line is fresh or taken, and so is the end of the file. -/
theorem fresh_or_taken {lines : List (List Char)} {i : Nat} (h : i ≤ lines.length) :
    Fresh lines i ∨ Taken lines i := by
  induction i with
  | zero => exact .inl .first
  | succ i ih =>
    rcases ih (Nat.le_of_succ_le h) with hfresh | ⟨j, k, line, following, hfresh, hdrop, hk, rfl⟩
    · have hdrop := List.drop_eq_getElem_cons h
      have hnext := hfresh.next hdrop
      rcases Nat.eq_zero_or_pos (readLine lines[i] (lines.drop (i + 1))).2 with hnone | hused
      · rw [hnone] at hnext
        exact .inl hnext
      · exact .inr ⟨i, 0, _, _, hfresh, hdrop, hused, rfl⟩
    · rcases Nat.lt_or_eq_of_le hk with hlt | heq
      · exact .inr ⟨j, k + 1, line, following, hfresh, hdrop, hlt, rfl⟩
      · -- the value ends on line `j + 1 + k`, so the next line is fresh
        have hnext := hfresh.next hdrop
        rw [← heq] at hnext
        exact .inl hnext

section

variable {lines : List (List Char)} (hlines : ∀ l ∈ lines, '\n' ∉ l)
include hlines

section

variable {i : Nat} {line : List Char} {following : List (List Char)}
  (h : lines.drop i = line :: following)
include h

theorem newline_notMem_of_drop_eq : '\n' ∉ line ∧ ∀ l ∈ following, '\n' ∉ l := by
  have hdrop : ∀ l ∈ line :: following, '\n' ∉ l :=
    fun l hl => hlines l (List.mem_of_mem_drop (h ▸ hl))
  exact List.forall_mem_cons.mp hdrop

/-- A value takes no more lines than follow. -/
theorem used_le_of_drop_eq : (readLine line following).2 ≤ following.length := by
  obtain ⟨hline, hfollowing⟩ := newline_notMem_of_drop_eq hlines h
  exact used_readLine_le hline hfollowing

/-- Behind the value the index is still within the file. -/
theorem next_le_length : i + 1 + (readLine line following).2 ≤ lines.length := by
  have hused := used_le_of_drop_eq hlines h
  have hlength := congrArg List.length h
  rw [List.length_drop, List.length_cons] at hlength
  omega

end

/-- The index does not pass the last line. -/
theorem Fresh.le_length {i : Nat} (h : Fresh lines i) : i ≤ lines.length := by
  cases h with
  | first => exact Nat.zero_le _
  | next _ hdrop => exact next_le_length hlines hdrop

/-- From a fresh line on, a file is read as if it began there. -/
theorem drop_roles {i : Nat} (h : Fresh lines i) :
    (roles 0 lines).drop i = roles 0 (lines.drop i) := by
  induction h with
  | first => rfl
  | @next i line following hi hdrop ih =>
    have hused := used_le_of_drop_eq hlines hdrop
    -- the roles of the lines that the value takes go along with these lines
    have hskip : lines.drop (i + 1 + (readLine line following).2) =
        following.drop (readLine line following).2 := by
      rw [← List.drop_drop, ← List.drop_drop, hdrop, List.drop_one, List.tail_cons]
    rw [← List.drop_drop, ← List.drop_drop, ih, hdrop, hskip, roles, List.drop_one, List.tail_cons,
      roles_eq, Nat.min_eq_left hused, List.drop_left' List.length_replicate]

/-- No value takes the end of the file. -/
theorem Taken.lt_length {i : Nat} (h : Taken lines i) : i < lines.length := by
  obtain ⟨j, k, line, following, -, hdrop, hk, rfl⟩ := h
  have hnext := next_le_length hlines hdrop
  omega

/-- The index comes to the end of the file. -/
theorem fresh_length : Fresh lines lines.length := by
  rcases fresh_or_taken (Nat.le_refl lines.length) with hfresh | htaken
  · exact hfresh
  · exact (Nat.lt_irrefl _ (htaken.lt_length hlines)).elim

/-- A value takes lines away only between its quotes. -/
theorem taken_iff_continues {i : Nat} : Taken lines i ↔ Continues lines i := by
  constructor
  · rintro ⟨j, k, line, following, hfresh, hdrop, hk, rfl⟩
    obtain ⟨name, value, raw, hencloses⟩ := exists_encloses (Nat.zero_lt_of_lt hk)
    obtain ⟨hline, hfollowing⟩ := newline_notMem_of_drop_eq hlines hdrop
    rw [readLine_of_encloses hencloses] at hk
    obtain ⟨part, here, hpart, hhere, hprefix⟩ := hencloses.exists_part hline hfollowing hk
    exact ⟨j, line, following, name, value, raw, hfresh, hdrop, hencloses, k, part, here, rfl,
      hpart, hhere, hprefix⟩
  · rintro ⟨j, line, following, name, value, raw, hfresh, hdrop, hencloses, k, part, here, rfl,
      hpart, -⟩
    obtain ⟨hlt, -⟩ := List.getElem?_eq_some_iff.mp hpart
    rw [length_splitLines] at hlt
    refine ⟨j, k, line, following, hfresh, hdrop, ?_, rfl⟩
    rw [readLine_of_encloses hencloses]
    exact Nat.lt_of_succ_lt_succ hlt

/-! ## Roles -/

/-- A fresh line has the role that is read from it. -/
theorem role_of_fresh {i : Nat} (h : Fresh lines i) {line : List Char}
    {following : List (List Char)} (hdrop : lines.drop i = line :: following) :
    (roles 0 lines)[i]? = some (readLine line following).1 := by
  have hrole := congrArg List.head? (drop_roles hlines h)
  rwa [List.head?_drop, hdrop, roles] at hrole

/-- A line that is taken continues the value. -/
theorem role_of_taken {i : Nat} (h : Taken lines i) :
    (roles 0 lines)[i]? = some .continuation := by
  obtain ⟨j, k, line, following, hfresh, hdrop, hk, rfl⟩ := h
  have hused := used_le_of_drop_eq hlines hdrop
  have hlater : (roles 0 lines).drop (j + 1) = roles (readLine line following).2 following := by
    rw [← List.drop_drop, drop_roles hlines hfresh, hdrop, roles, List.drop_one, List.tail_cons]
  rw [← List.getElem?_drop, hlater, roles_eq, Nat.min_eq_left hused,
    List.getElem?_append_left (by rwa [List.length_replicate]), List.getElem?_replicate_of_lt hk]

theorem fresh_or_taken_of_role {i : Nat} {role : Role} (h : (roles 0 lines)[i]? = some role) :
    Begins lines i role ∨ (Taken lines i ∧ role = .continuation) := by
  have hlt := lt_length_of_role h
  rcases fresh_or_taken hlt.le with hfresh | htaken
  · have hdrop := List.drop_eq_getElem_cons hlt
    rw [role_of_fresh hlines hfresh hdrop] at h
    exact .inl ⟨hfresh, _, _, hdrop, fst_readLine_iff.mp (Option.some.inj h)⟩
  · rw [role_of_taken hlines htaken] at h
    exact .inr ⟨htaken, (Option.some.inj h).symm⟩

/-- Every role but that of a continued line is the role of a fresh line. -/
theorem role_iff_begins {i : Nat} {role : Role} (hne : role ≠ .continuation) :
    (roles 0 lines)[i]? = some role ↔ Begins lines i role := by
  constructor
  · intro hrole
    rcases fresh_or_taken_of_role hlines hrole with hbegins | ⟨-, hcontinued⟩
    · exact hbegins
    · exact (hne hcontinued).elim
  · rintro ⟨hfresh, line, following, hdrop, hreads⟩
    rw [role_of_fresh hlines hfresh hdrop, fst_readLine_iff.mpr hreads]

/-- A line is continued exactly if it lies within the quotes of an assignment above. -/
theorem role_iff_continues {i : Nat} :
    (roles 0 lines)[i]? = some .continuation ↔ Continues lines i := by
  rw [← taken_iff_continues hlines]
  refine ⟨fun hrole => ?_, role_of_taken hlines⟩
  rcases fresh_or_taken_of_role hlines hrole with ⟨-, line, following, -, hline⟩ | ⟨htaken, -⟩
  · cases hline
  · exact htaken

/-- A line that a value takes is not taken up. -/
theorem Taken.not_fresh {i : Nat} (h : Taken lines i) : ¬ Fresh lines i := by
  intro hfresh
  have hrole := role_of_taken hlines h
  rw [role_of_fresh hlines hfresh (List.drop_eq_getElem_cons (h.lt_length hlines))] at hrole
  have hline := fst_readLine_iff.mp (Option.some.inj hrole)
  cases hline

/-- The reader finds for each line the role that the line has. -/
theorem lineIs_iff {i : Nat} {role : Role} :
    LineIs lines (readLines lines).skipped i role ↔ (roles 0 lines)[i]? = some role := by
  cases role with
  | blank => exact (role_iff_begins hlines (by simp)).symm
  | malformed => exact mem_skipped_iff
  | assignment name value => exact (role_iff_begins hlines (by simp)).symm
  | continuation => exact (role_iff_continues hlines).symm

/-! ## The account -/

/-- A file is accounted for by what was read from it. -/
structure Accounted (lines : List (List Char)) (d : Definitions) : Prop where
  /-- each line is one thing, and nothing else -/
  one : ∀ i < lines.length, ∃! role, LineIs lines d.skipped i role
  /-- a line is reported if it is taken up afresh and is neither blank nor an assignment -/
  reported : ∀ i, i + 1 ∈ d.skipped ↔ Begins lines i .malformed
  /-- the value of a name comes from the last line that is taken up as an assignment to it -/
  assigned : ∀ name value, d.entries.get? name = some value ↔
    ∃ i, Begins lines i (.assignment name value) ∧
      ∀ j, i < j → ∀ other, ¬ Begins lines j (.assignment name other)
  /-- a line within quotes is not taken up, and not reported -/
  within : ∀ i, Continues lines i → ¬ Fresh lines i ∧ i + 1 ∉ d.skipped
  /-- the numbers of the reported lines increase -/
  increasing : d.skipped.Pairwise (· < ·)
  /-- the reported lines are lines of the file -/
  numbered : ∀ k ∈ d.skipped, 1 ≤ k ∧ k ≤ lines.length
  /-- a value between quotes is that of an assignment, and takes the lines that end between them -/
  quoted : ∀ i line following name value raw, Fresh lines i →
    lines.drop i = line :: following → Encloses line following name value raw →
    Begins lines i (.assignment name value) ∧ (readLine line following).2 = raw.count '\n'
  /-- no line takes more lines than remain -/
  remaining : ∀ i line following, lines.drop i = line :: following →
    (readLine line following).2 ≤ following.length
  /-- the index stays within the file and ends behind its last line -/
  index : (∀ i, Fresh lines i → i ≤ lines.length) ∧ Fresh lines lines.length

/-- Every line that is read is accounted for. -/
theorem accounted_readLines : Accounted lines (readLines lines) where
  one i hi := by
    rw [← length_roles 0 lines] at hi
    refine ⟨(roles 0 lines)[i], (lineIs_iff hlines).mpr (List.getElem?_eq_getElem hi), ?_⟩
    intro role hrole
    rw [lineIs_iff hlines, List.getElem?_eq_getElem hi] at hrole
    exact (Option.some.inj hrole).symm
  reported i := mem_skipped_iff.trans (role_iff_begins hlines (by simp))
  assigned name value := by
    have hroles : ∀ (i : Nat) (v : String),
        (roles 0 lines)[i]? = some (.assignment name v) ↔ Begins lines i (.assignment name v) :=
      fun i v => role_iff_begins hlines (by simp)
    exact get?_ofList_assignments.trans (by simp only [hroles, ne_eq])
  within i hi := by
    refine ⟨((taken_iff_continues hlines).mpr hi).not_fresh hlines, ?_⟩
    rw [mem_skipped_iff, (role_iff_continues hlines).mpr hi]
    simp
  increasing := pairwise_malformedLines 1 _
  numbered k hk := by
    obtain ⟨i, hi, rfl⟩ := mem_malformedLines.mp hk
    have hlt := lt_length_of_role hi
    omega
  quoted i line following name value raw hfresh hdrop hencloses := by
    have hread := readLine_of_encloses hencloses
    rw [hread]
    exact ⟨⟨hfresh, line, following, hdrop, fst_readLine_iff.mp (by rw [hread])⟩, rfl⟩
  remaining i line following hdrop := used_le_of_drop_eq hlines hdrop
  index := ⟨fun i hi => hi.le_length hlines, fresh_length hlines⟩

end

/-- Whatever a file holds, it has one line more than line breaks, however these are spelled, and
every line is accounted for. -/
theorem lines_accounted (text : String) :
    let normal := normalizeBreaks text.toList
    (splitLines normal).length = normal.count '\n' + 1 ∧
      Accounted (splitLines normal) (read text) := by
  intro normal
  exact ⟨length_splitLines normal,
    accounted_readLines fun _ => newline_notMem_of_mem_splitLines⟩

/-- The look-ahead for the value of `A` goes on to the quote of the second line, but what closes the
value is the escaped quote of the first. -/
example :
    roles 0 (splitLines "A='one\\' # c\ntwo' x\n\nB='1\n\n#2' #3".toList) =
      [.assignment "A" "one\\", .malformed, .blank, .assignment "B" "1\n\n#2", .continuation,
        .continuation] := by
  decide +kernel

end EnvInline.Definition
