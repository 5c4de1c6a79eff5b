import Mathlib.Data.List.DropRight
import Mathlib.Data.List.Induction
import EnvInline.Definition.Quoted
import EnvInline.Text.Lines

/-!
# Closing quotes

Which quote closes a value, said of the text as it is written and not of the scan that finds it.

* `closing?_eq_some_iff` — it is the last of the quotes that can close the value;
* `closing?_enclosed_iff` — the quote behind a value closes it if everything inside is escaped and,
  where that quote is escaped itself, nothing behind it can close the value instead;
* `read_eq_readWhole` — taking lines in one at a time and reading the whole rest of the file are
  the same.
-/

namespace EnvInline.Definition.Quoted

open EnvInline.Text

/-- A quote behind the text is escaped: the text ends in an odd run of backslashes. -/
def EndsEscaped (text : List Char) : Prop :=
  (text.rtakeWhile (· = '\\')).length % 2 = 1

instance (text : List Char) : Decidable (EndsEscaped text) :=
  inferInstanceAs (Decidable (_ = _))

/-- Every `q` in the text is escaped. -/
def AllEscaped (q : Char) (text : List Char) : Prop :=
  ∀ before after, text = before ++ q :: after → EndsEscaped before

/-- The `q` at a place of the text can close a value that starts with the text. -/
def CanClose (q : Char) (text : List Char) (place : Nat) : Prop :=
  ∃ before after, text = before ++ q :: after ∧ before.length = place ∧
    endsLine after = true ∧ AllEscaped q before

/-- The text closes a value that is open before it. -/
def Swallows (q : Char) (text : List Char) : Prop :=
  ∃ place, CanClose q text place

/-! ## Escapes -/

/-- Whether a quote is escaped behind some text, where `escaped` tells it for the place before. -/
def escapedAfter (escaped : Bool) (text : List Char) : Bool :=
  text.foldl (fun e c => c == '\\' && !e) escaped

theorem escapedAfter_cons (escaped : Bool) (c : Char) (text : List Char) :
    escapedAfter escaped (c :: text) = escapedAfter (c == '\\' && !escaped) text := rfl

theorem endsEscaped_concat (text : List Char) (c : Char) :
    EndsEscaped (text ++ [c]) ↔ c = '\\' ∧ ¬ EndsEscaped text := by
  unfold EndsEscaped
  rw [List.rtakeWhile_concat]
  by_cases hc : c = '\\'
  · simp only [hc, decide_true, if_true, List.length_append, List.length_singleton, true_and]
    omega
  · simp [hc]

theorem escapedAfter_false_iff (text : List Char) :
    escapedAfter false text = true ↔ EndsEscaped text := by
  induction text using List.reverseRecOn with
  | nil => simp [escapedAfter, EndsEscaped]
  | append_singleton text c ih =>
    rw [endsEscaped_concat, ← ih, escapedAfter, List.foldl_append]
    simp [escapedAfter]

/-- A character that is no backslash ends all escapes before it. -/
theorem endsEscaped_append_cons {c : Char} (hc : c ≠ '\\') (before after : List Char) :
    EndsEscaped (before ++ c :: after) ↔ EndsEscaped after := by
  induction after using List.reverseRecOn with
  | nil =>
    rw [endsEscaped_concat]
    simp [hc, EndsEscaped]
  | append_singleton after d ih =>
    rw [← List.cons_append, ← List.append_assoc, endsEscaped_concat, endsEscaped_concat, ih]

/-- The places of the quotes in a text with a quote in it: before it, at it and behind it. -/
theorem allEscaped_append_cons {q : Char} (hq : q ≠ '\\') (before after : List Char) :
    AllEscaped q (before ++ q :: after) ↔
      AllEscaped q before ∧ EndsEscaped before ∧ AllEscaped q after := by
  constructor
  · intro h
    refine ⟨?_, h before after rfl, ?_⟩
    · rintro b a rfl
      exact h b (a ++ q :: after) (by simp)
    · rintro b a rfl
      rw [← endsEscaped_append_cons hq before b]
      exact h (before ++ q :: b) a (by simp)
  · rintro ⟨hbefore, hat, hafter⟩ b a hsplit
    -- the quote that is asked for stands behind the one in the middle, at it or before it
    rcases List.append_eq_append_iff.mp hsplit with ⟨x, rfl, hx⟩ | ⟨x, rfl, hx⟩
    · cases x with
      | nil =>
        rw [List.append_nil]
        exact hat
      | cons c x =>
        obtain ⟨rfl, rfl⟩ := List.cons.inj hx
        rw [endsEscaped_append_cons hq]
        exact hafter x a rfl
    · cases x with
      | nil =>
        rw [List.append_nil] at hat
        exact hat
      | cons c x =>
        obtain ⟨rfl, -⟩ := List.cons.inj hx
        exact hbefore b x rfl

/-- Quotes of a text without a `q` in front are those of the text. -/
theorem allEscaped_cons {q c : Char} (hc : c ≠ '\\') (hcq : c ≠ q) (text : List Char) :
    AllEscaped q (c :: text) ↔ AllEscaped q text := by
  constructor
  · rintro h b a rfl
    rw [← endsEscaped_append_cons hc [] b]
    exact h (c :: b) a rfl
  · rintro h b a hsplit
    cases b with
    | nil => exact (hcq (List.cons.inj hsplit).1).elim
    | cons d b =>
      obtain ⟨rfl, rfl⟩ := List.cons.inj hsplit
      rw [← List.nil_append (c :: b), endsEscaped_append_cons hc]
      exact h b a rfl

theorem allEscaped_of_notMem {q : Char} {text : List Char} (h : q ∉ text) : AllEscaped q text := by
  rintro b a rfl
  exact (h (by simp)).elim

/-! ## The scan for an unescaped quote -/

section Scan

variable {q : Char} (hq : q ≠ '\\')
include hq

theorem firstUnescaped_cons (escaped : Bool) (c : Char) (text : List Char) :
    firstUnescaped q escaped (c :: text) =
      if c = q ∧ escaped = false then some 0
      else (firstUnescaped q (c == '\\' && !escaped) text).map (· + 1) := by
  rw [firstUnescaped]
  by_cases hc : c = '\\'
  · cases escaped <;> simp [hc, Ne.symm hq]
  · have hstate : (c == '\\' && !escaped) = false := by simp [hc]
    rw [hstate, if_neg fun h => hc h.1]
    simp only [Bool.not_eq_true]

/-- All quotes before the one that is found are escaped, and it is not. -/
theorem firstUnescaped_eq_some {escaped : Bool} {text : List Char} {n : Nat}
    (h : firstUnescaped q escaped text = some n) :
    ∃ before after, text = before ++ q :: after ∧ before.length = n ∧
      escapedAfter escaped before = false ∧
      ∀ b a, before = b ++ q :: a → escapedAfter escaped b = true := by
  induction text generalizing escaped n with
  | nil => cases h
  | cons c text ih =>
    rw [firstUnescaped_cons hq] at h
    by_cases hfound : c = q ∧ escaped = false
    · rw [if_pos hfound] at h
      obtain ⟨rfl, rfl⟩ := hfound
      refine ⟨[], text, rfl, Option.some.inj h, rfl, ?_⟩
      intro b a hsplit
      simp at hsplit
    · rw [if_neg hfound] at h
      obtain ⟨m, hm, rfl⟩ := Option.map_eq_some_iff.mp h
      obtain ⟨before, after, rfl, rfl, hnot, hall⟩ := ih hm
      refine ⟨c :: before, after, rfl, rfl, hnot, ?_⟩
      intro b a hsplit
      cases b with
      | nil =>
        -- the character before the scan went on is an escaped quote
        have hc : c = q := (List.cons.inj hsplit).1
        cases escaped with
        | true => rfl
        | false => exact (hfound ⟨hc, rfl⟩).elim
      | cons d b =>
        obtain ⟨rfl, rfl⟩ := List.cons.inj hsplit
        exact hall b a rfl

theorem firstUnescaped_eq_none {escaped : Bool} {text : List Char}
    (h : firstUnescaped q escaped text = none) (b a : List Char) (hsplit : text = b ++ q :: a) :
    escapedAfter escaped b = true := by
  induction text generalizing escaped b with
  | nil => simp at hsplit
  | cons c text ih =>
    rw [firstUnescaped_cons hq] at h
    by_cases hfound : c = q ∧ escaped = false
    · rw [if_pos hfound] at h
      cases h
    · rw [if_neg hfound, Option.map_eq_none_iff] at h
      cases b with
      | nil =>
        have hc : c = q := (List.cons.inj hsplit).1
        cases escaped with
        | true => rfl
        | false => exact (hfound ⟨hc, rfl⟩).elim
      | cons d b =>
        obtain ⟨rfl, rfl⟩ := List.cons.inj hsplit
        exact ih h b rfl

theorem allEscaped_iff {text : List Char} :
    AllEscaped q text ↔ firstUnescaped q false text = none := by
  constructor
  · intro hall
    cases hscan : firstUnescaped q false text with
    | none => rfl
    | some n =>
      obtain ⟨x, y, rfl, -, hnot, -⟩ := firstUnescaped_eq_some hq hscan
      have hx := hall x y rfl
      rw [← escapedAfter_false_iff, hnot] at hx
      cases hx
  · intro hscan b a hsplit
    rw [← escapedAfter_false_iff]
    exact firstUnescaped_eq_none hq hscan b a hsplit

/-- The scan gets as far as a place if no quote before it is unescaped. -/
theorem length_le_firstUnescaped_iff (before after : List Char) :
    before.length ≤ (firstUnescaped q false (before ++ q :: after)).getD
        (before ++ q :: after).length ↔ AllEscaped q before := by
  cases hscan : firstUnescaped q false (before ++ q :: after) with
  | none =>
    have hall := firstUnescaped_eq_none hq hscan
    constructor
    · rintro - b a rfl
      rw [← escapedAfter_false_iff]
      exact hall b (a ++ q :: after) (by simp)
    · intro _
      simp
  | some n =>
    obtain ⟨x, y, hsplit, rfl, hnot, hall⟩ := firstUnescaped_eq_some hq hscan
    have hnotx : ¬ EndsEscaped x := by
      rw [← escapedAfter_false_iff, hnot]
      exact Bool.false_ne_true
    rw [Option.getD_some]
    rcases List.append_eq_append_iff.mp hsplit with ⟨z, rfl, hz⟩ | ⟨z, rfl, hz⟩
    · -- the place comes before the quote that is found
      refine iff_of_true (by simp) ?_
      rintro b a rfl
      rw [← escapedAfter_false_iff]
      exact hall b (a ++ z) (by simp)
    · cases z with
      | nil =>
        rw [List.append_nil]
        refine iff_of_true (Nat.le_refl _) ?_
        intro b a hb
        rw [← escapedAfter_false_iff]
        exact hall b a hb
      | cons c z =>
        obtain ⟨rfl, rfl⟩ := List.cons.inj hz
        refine iff_of_false ?_ ?_
        · simp
        · intro hescaped
          exact hnotx (hescaped x z rfl)

end Scan

/-! ## The quote that closes a value -/

theorem mem_closers {q : Char} {i place : Nat} {text : List Char} :
    place ∈ closers q i text ↔
      ∃ before after, text = before ++ q :: after ∧ before.length + i = place ∧
        endsLine after = true := by
  induction text generalizing i with
  | nil => simp [closers]
  | cons c text ih =>
    have hmem : place ∈ closers q i (c :: text) ↔
        (c = q ∧ endsLine text = true ∧ i = place) ∨ place ∈ closers q (i + 1) text := by
      rw [closers]
      by_cases h : c = q ∧ endsLine text = true
      · rw [if_pos h, List.mem_cons, eq_comm]
        simp [h.1, h.2]
      · rw [if_neg h]
        constructor
        · exact Or.inr
        · rintro (⟨hc, hends, -⟩ | hlater)
          · exact (h ⟨hc, hends⟩).elim
          · exact hlater
    rw [hmem, ih]
    constructor
    · rintro (⟨rfl, hends, rfl⟩ | ⟨before, after, rfl, rfl, hends⟩)
      · exact ⟨[], text, rfl, Nat.zero_add i, hends⟩
      · exact ⟨c :: before, after, rfl, by simp only [List.length_cons]; omega, hends⟩
    · rintro ⟨before, after, hsplit, rfl, hends⟩
      cases before with
      | nil =>
        obtain ⟨rfl, rfl⟩ := List.cons.inj hsplit
        exact Or.inl ⟨rfl, hends, (Nat.zero_add i).symm⟩
      | cons d before =>
        obtain ⟨rfl, rfl⟩ := List.cons.inj hsplit
        exact Or.inr ⟨before, after, rfl, by simp only [List.length_cons]; omega, hends⟩

/-- The places are found in their order. -/
theorem pairwise_closers (q : Char) (i : Nat) (text : List Char) :
    (closers q i text).Pairwise (· < ·) := by
  induction text generalizing i with
  | nil => exact List.Pairwise.nil
  | cons c text ih =>
    rw [closers]
    split
    · refine List.pairwise_cons.mpr ⟨?_, ih (i + 1)⟩
      intro place hplace
      obtain ⟨before, after, -, rfl, -⟩ := mem_closers.mp hplace
      omega
    · exact ih (i + 1)

theorem getLast?_eq_some_iff {l : List Nat} (h : l.Pairwise (· < ·)) {n : Nat} :
    l.getLast? = some n ↔ n ∈ l ∧ ∀ m ∈ l, m ≤ n := by
  induction l using List.reverseRecOn with
  | nil => simp
  | append_singleton l k _ =>
    have hlt : ∀ m ∈ l, m < k := fun m hm =>
      (List.pairwise_append.mp h).2.2 m hm k (List.mem_singleton_self k)
    rw [List.getLast?_concat, Option.some_inj]
    constructor
    · rintro rfl
      refine ⟨by simp, ?_⟩
      intro m hm
      rcases List.mem_append.mp hm with hm | hm
      · exact Nat.le_of_lt (hlt m hm)
      · exact Nat.le_of_eq (List.mem_singleton.mp hm)
    · rintro ⟨hn, hmax⟩
      have hk : k ≤ n := hmax k (by simp)
      rcases List.mem_append.mp hn with hn | hn
      · have := hlt n hn
        omega
      · exact (List.mem_singleton.mp hn).symm

variable {q : Char} (hq : q ≠ '\\')
include hq

theorem mem_filter_closers {text : List Char} {place : Nat} :
    place ∈ (closers q 0 text).filter
        (· ≤ (firstUnescaped q false text).getD text.length) ↔ CanClose q text place := by
  rw [List.mem_filter, mem_closers]
  constructor
  · rintro ⟨⟨before, after, rfl, rfl, hends⟩, hle⟩
    have hescaped := (length_le_firstUnescaped_iff hq before after).mp (by simpa using hle)
    exact ⟨before, after, rfl, rfl, hends, hescaped⟩
  · rintro ⟨before, after, rfl, rfl, hends, hescaped⟩
    have hle := (length_le_firstUnescaped_iff hq before after).mpr hescaped
    exact ⟨⟨before, after, rfl, rfl, hends⟩, by simpa using hle⟩

/-- Of the quotes that can close a value the last one does. -/
theorem closing?_eq_some_iff {text : List Char} {place : Nat} :
    closing? q text = some place ↔
      CanClose q text place ∧ ∀ other, CanClose q text other → other ≤ place := by
  rw [closing?, getLast?_eq_some_iff ((pairwise_closers q 0 text).filter _),
    mem_filter_closers hq]
  simp only [mem_filter_closers hq]

theorem closing?_eq_none_iff {text : List Char} :
    closing? q text = none ↔ ∀ place, ¬ CanClose q text place := by
  rw [closing?, List.getLast?_eq_none_iff, List.eq_nil_iff_forall_not_mem]
  simp only [mem_filter_closers hq]

/-! ## A value between its quotes -/

omit hq in
theorem endsLine_newline (text : List Char) : endsLine ('\n' :: text) = true := rfl

omit hq in
/-- Only the rest of the line behind a quote matters. -/
theorem endsLine_append_newline (text rest : List Char) :
    endsLine (text ++ '\n' :: rest) = endsLine text := by
  have htake : ∀ t : List Char,
      (t ++ '\n' :: rest).takeWhile (· ≠ '\n') = t.takeWhile (· ≠ '\n') := by
    intro t
    induction t with
    | nil => simp
    | cons c t ih => simp only [List.cons_append, List.takeWhile_cons, ih]
  rw [endsLine, endsLine, htake]

omit hq in
theorem canClose_at_iff {body after : List Char} :
    CanClose q (body ++ q :: after) body.length ↔ endsLine after = true ∧ AllEscaped q body := by
  constructor
  · rintro ⟨before, after', hsplit, hlength, hends, hescaped⟩
    obtain ⟨rfl, htail⟩ := List.append_inj hsplit hlength.symm
    obtain rfl := (List.cons.inj htail).2
    exact ⟨hends, hescaped⟩
  · rintro ⟨hends, hescaped⟩
    exact ⟨body, after, rfl, rfl, hends, hescaped⟩

/-- A later quote can close a value if it can close what stands behind its own quote. -/
theorem canClose_beyond_iff (hline : q ≠ '\n') {body later : List Char} {place : Nat}
    (hplace : body.length < place) :
    CanClose q (body ++ q :: '\n' :: later) place ↔
      AllEscaped q body ∧ EndsEscaped body ∧
        ∃ p, CanClose q later p ∧ place = body.length + 2 + p := by
  constructor
  · rintro ⟨before, after, hsplit, rfl, hends, hescaped⟩
    rcases List.append_eq_append_iff.mp hsplit with ⟨x, rfl, hx⟩ | ⟨x, rfl, -⟩
    · -- first come the value's own quote and its line break
      rcases x with _ | ⟨c, _ | ⟨d, x⟩⟩
      · simp at hplace
      · exact (hline (List.cons.inj (List.cons.inj hx).2).1.symm).elim
      · obtain ⟨rfl, htail⟩ := List.cons.inj hx
        obtain ⟨rfl, rfl⟩ := List.cons.inj htail
        obtain ⟨hbody, hlast, hinner⟩ := (allEscaped_append_cons hq body _).mp hescaped
        rw [allEscaped_cons (by decide) hline.symm] at hinner
        refine ⟨hbody, hlast, x.length, ⟨x, after, rfl, rfl, hends, hinner⟩, ?_⟩
        simp only [List.length_append, List.length_cons]
        omega
    · simp only [List.length_append] at hplace
      omega
  · rintro ⟨hbody, hlast, p, ⟨x, after, rfl, rfl, hends, hx⟩, rfl⟩
    refine ⟨body ++ q :: '\n' :: x, after, by simp, ?_, hends, ?_⟩
    · simp only [List.length_append, List.length_cons]
      omega
    · rw [allEscaped_append_cons hq, allEscaped_cons (by decide) hline.symm]
      exact ⟨hbody, hlast, hx⟩

/-- When the quote behind a value closes it: everything inside is escaped, and if that quote is
escaped too, nothing behind it can close the value. -/
theorem closing?_enclosed_iff (hline : q ≠ '\n') (body later : List Char) :
    closing? q (body ++ q :: '\n' :: later) = some body.length ↔
      AllEscaped q body ∧ (EndsEscaped body → ¬ Swallows q later) := by
  rw [closing?_eq_some_iff hq, canClose_at_iff]
  constructor
  · rintro ⟨⟨-, hbody⟩, hmax⟩
    refine ⟨hbody, ?_⟩
    rintro hlast ⟨p, hp⟩
    have hbeyond : CanClose q (body ++ q :: '\n' :: later) (body.length + 2 + p) :=
      (canClose_beyond_iff hq hline (by omega)).mpr ⟨hbody, hlast, p, hp, rfl⟩
    have := hmax _ hbeyond
    omega
  · rintro ⟨hbody, hlast⟩
    refine ⟨⟨endsLine_newline later, hbody⟩, ?_⟩
    intro other hother
    by_contra hlt
    obtain ⟨-, hends, p, hp, -⟩ := (canClose_beyond_iff hq hline (by omega)).mp hother
    exact hlast hends ⟨p, hp⟩

/-! ## Reading line by line -/

omit hq in
theorem foldl_lines (text : List Char) (following : List (List Char)) :
    following.foldl (fun t l => t ++ '\n' :: l) text = joinLines (text :: following) := by
  induction following generalizing text with
  | nil => rfl
  | cons l ls ih =>
    rw [List.foldl_cons, ih]
    cases ls with
    | nil => rfl
    | cons l' ls => simp [joinLines]

omit hq in
/-- Lines are taken in until a quote is not escaped. -/
theorem gather_eq (text : List Char) (following : List (List Char)) :
    gather q text following = joinLines (text :: following) ∨
      (firstUnescaped q false (gather q text following)).isSome ∧
      ∃ rest, joinLines (text :: following) = gather q text following ++ '\n' :: rest := by
  induction following generalizing text with
  | nil => exact Or.inl rfl
  | cons l ls ih =>
    rw [gather]
    cases hscan : firstUnescaped q false text with
    | some n =>
      right
      exact ⟨by simp [hscan], joinLines (l :: ls), rfl⟩
    | none =>
      have hjoin : joinLines (text :: l :: ls) = joinLines ((text ++ '\n' :: l) :: ls) := by
        rw [← foldl_lines, ← foldl_lines, List.foldl_cons]
      rw [hjoin]
      exact ih (text ++ '\n' :: l)

omit hq in
/-- Lines behind a quote that is not escaped do not matter. -/
theorem canClose_append_newline (hline : q ≠ '\n') {text : List Char}
    (h : ¬ AllEscaped q text) (rest : List Char) (place : Nat) :
    CanClose q (text ++ '\n' :: rest) place ↔ CanClose q text place := by
  constructor
  · rintro ⟨before, after, hsplit, rfl, hends, hescaped⟩
    rcases List.append_eq_append_iff.mp hsplit with ⟨x, rfl, -⟩ | ⟨x, rfl, hx⟩
    · -- a quote behind the text would have the unescaped one before it
      refine (h ?_).elim
      rintro b a rfl
      exact hescaped b (a ++ x) (by simp)
    · cases x with
      | nil => exact (hline (List.cons.inj hx).1).elim
      | cons c x =>
        obtain ⟨rfl, rfl⟩ := List.cons.inj hx
        have hends' : endsLine x = true := endsLine_append_newline x rest ▸ hends
        exact ⟨before, x, rfl, rfl, hends', hescaped⟩
  · rintro ⟨before, after, rfl, rfl, hends, hescaped⟩
    refine ⟨before, after ++ '\n' :: rest, by simp, rfl, ?_, hescaped⟩
    rw [endsLine_append_newline]
    exact hends

theorem closing?_append_newline (hline : q ≠ '\n') {text : List Char}
    (h : ¬ AllEscaped q text) (rest : List Char) :
    closing? q (text ++ '\n' :: rest) = closing? q text := by
  ext place
  rw [closing?_eq_some_iff hq, closing?_eq_some_iff hq]
  simp only [canClose_append_newline hline h]

/-- A value is the same whether lines are taken in one at a time or all at once. -/
theorem read_eq_readWhole (hline : q ≠ '\n') (text : List Char) (following : List (List Char)) :
    read q text following = readWhole q text following := by
  rw [read, readWhole, foldl_lines]
  rcases gather_eq text following with hall | ⟨hscan, rest, hrest⟩
  · rw [hall]
  · have hescaped : ¬ AllEscaped q (gather q text following) := by
      rw [allEscaped_iff hq, ← ne_eq, Option.ne_none_iff_isSome]
      exact hscan
    rw [hrest, closing?_append_newline hq hline hescaped]
    cases hclosing : closing? q (gather q text following) with
    | none => rfl
    | some place =>
      obtain ⟨⟨before, after, hsplit, rfl, -⟩, -⟩ := (closing?_eq_some_iff hq).mp hclosing
      simp [enclosed, hsplit]

end EnvInline.Definition.Quoted
