import Mathlib.Data.List.TakeWhile
import EnvInline.Layout.Quoted
import EnvInline.Proofs.Reading

/-!
# Quoted strings are read back

A string that is written between quotes is read back as the same string, up to its closing quote and
whatever stands behind it, with one exception. A backslash that opens an escape of half a surrogate
pair is not doubled (`keepsHalf`), so that it opens an escape for the reader too; and if that escape
has a brace that is not closed behind its digits, what is written is no string (`isReadable`).

* `escapeChar_cases` — how a character is written (`Escape`);
* `run_escapedChars` — an escape is read back as its character;
* `run_keptEscape` — what is read where a backslash was not doubled;
* `run_stringToken`, `run_stringToken_fault` — what a quoted string is read as.
-/

namespace EnvInline.Layout

open EnvInline.Syntax

/-! ## How characters are written -/

/-- A digit of an old octal escape. -/
def isOctal (c : Char) : Bool := (digitValue? 8 c).isSome

/-- Characters that are escaped by a letter. -/
def letterEscapes : List (Char × Char) :=
  [('\x08', 'b'), ('\x0c', 'f'), ('\n', 'n'), ('\r', 'r'), ('\x0b', 'v')]

/-- Characters that are escaped by four digits. -/
def unicodeEscapes : List (Char × List Char) :=
  [('\u2028', ['2', '0', '2', '8']), ('\u2029', ['2', '0', '2', '9']),
    ('\ufeff', ['F', 'E', 'F', 'F'])]

/-- What is written behind a backslash for a character, before the rest of the string. -/
inductive Escape (quote : Char) (rest : List Char) : Char → List Char → Prop where
  | null (h : ¬ rest.head?.any (·.isDigit) = true) : Escape quote rest '\x00' ['0']
  | letter {c d : Char} (h : (c, d) ∈ letterEscapes) : Escape quote rest c [d]
  | backslash (h : spellsHalf rest = false) : Escape quote rest '\\' ['\\']
  | quote : Escape quote rest quote [quote]
  | hex {c : Char} (h : c.toNat < 32) :
    Escape quote rest c ['x', hexDigit (c.toNat / 16), hexDigit (c.toNat % 16)]
  | unicode {c : Char} {ds : List Char} (h : (c, ds) ∈ unicodeEscapes) :
    Escape quote rest c ('u' :: ds)

/-- The character stands for itself in a string with these quotes. -/
def isPlain (quote c : Char) : Bool := c != quote && c != '\\' && c != '\n' && c != '\r'

/-- A character stands for itself, or it is escaped, or it is a backslash that is not doubled. -/
theorem escapeChar_cases {q : Char} (hq : q = '"' ∨ q = '\'') (c : Char) (rest : List Char) :
    (escapeChar q c rest = [c] ∧ isPlain q c = true) ∨
    (∃ e, escapeChar q c rest = '\\' :: e ∧ Escape q rest c e) ∨
    (c = '\\' ∧ spellsHalf rest = true ∧ escapeChar q c rest = ['\\']) := by
  have hletter {d : Char} (h : (c, d) ∈ letterEscapes) :
      ∃ e, ['\\', d] = '\\' :: e ∧ Escape q rest c e := ⟨_, rfl, .letter h⟩
  have hunicode {ds : List Char} (h : (c, ds) ∈ unicodeEscapes) :
      ∃ e, '\\' :: 'u' :: ds = '\\' :: e ∧ Escape q rest c e := ⟨_, rfl, .unicode h⟩
  fun_cases escapeChar q c rest with
  | case1 hc => exact .inr (.inl ⟨_, rfl, hc ▸ .hex (by decide)⟩)
  | case2 hc hdigit => exact .inr (.inl ⟨_, rfl, hc ▸ .null hdigit⟩)
  | case8 _ _ _ _ _ _ hc =>
    refine .inl ⟨hc ▸ rfl, ?_⟩
    rcases hq with rfl | rfl <;> subst hc <;> rfl
  | case9 _ _ _ _ _ _ _ hc hhalf =>
    subst hc
    exact .inr (.inr ⟨rfl, hhalf, rfl⟩)
  | case10 _ _ _ _ _ _ _ hc hhalf =>
    subst hc
    exact .inr (.inl ⟨_, rfl, .backslash (Bool.eq_false_iff.mpr hhalf)⟩)
  | case11 _ _ _ _ _ _ _ _ hc =>
    subst hc
    exact .inr (.inl ⟨_, rfl, .quote⟩)
  | case12 => exact .inr (.inl ⟨_, rfl, .hex ‹_›⟩)
  | case16 _ _ _ hline hreturn _ _ hslash hquote =>
    exact .inl ⟨rfl, by simp [isPlain, hline, hreturn, hslash, hquote]⟩
  | case3 _ hc | case4 _ _ hc | case5 _ _ _ hc | case6 _ _ _ _ hc | case7 _ _ _ _ _ hc =>
    exact .inr (.inl (hletter (hc ▸ by decide)))
  | case13 _ _ _ _ _ _ _ _ _ _ hc | case14 _ _ _ _ _ _ _ _ _ _ _ hc
  | case15 _ _ _ _ _ _ _ _ _ _ _ _ hc =>
    exact .inr (.inl (hunicode (hc ▸ by decide)))

/-! ## What stays as it is -/

/-- An escape of half a surrogate pair is spelled somewhere: its backslash is not doubled. -/
def keepsHalf : List Char → Bool
  | [] => false
  | c :: r => (c == '\\' && spellsHalf r) || keepsHalf r

/-- The escape that opens behind a backslash has no brace, or its brace is closed behind the digits
of a code point. -/
def closesBrace : List Char → Bool
  | 'u' :: '\x7b' :: text =>
    let ds := text.takeWhile isHexDigit
    digitsValue 16 ds ≤ 0x10FFFF && (text.drop ds.length).head? == some '\x7d'
  | _ => true

/-- Every escape of half a surrogate pair has a brace that is closed, or none. -/
def isReadable : List Char → Bool
  | [] => true
  | c :: r => (c != '\\' || !spellsHalf r || closesBrace r) && isReadable r

theorem isReadable_cons_of_ne {c : Char} {r : List Char} (h : (c == '\\' && spellsHalf r) = false) :
    isReadable (c :: r) = isReadable r := by
  have hkept : (c != '\\' || !spellsHalf r) = true := by
    rw [bne, ← Bool.not_and, h]
    rfl
  rw [isReadable, hkept, Bool.true_or, Bool.true_and]

theorem keepsHalf_cons_of_ne {c : Char} {r : List Char} (h : (c == '\\' && spellsHalf r) = false) :
    keepsHalf (c :: r) = keepsHalf r := by
  rw [keepsHalf, h, Bool.false_or]

theorem isReadable_append {cs : List Char} (h : '\\' ∉ cs) (t : List Char) :
    isReadable (cs ++ t) = isReadable t := by
  induction cs with
  | nil => rfl
  | cons c cs ih =>
    rw [List.mem_cons, not_or] at h
    have hc : (c == '\\') = false := by simpa using Ne.symm h.1
    rw [List.cons_append, isReadable_cons_of_ne (by rw [hc, Bool.false_and]), ih h.2]

theorem keepsHalf_append {cs : List Char} (h : '\\' ∉ cs) (t : List Char) :
    keepsHalf (cs ++ t) = keepsHalf t := by
  induction cs with
  | nil => rfl
  | cons c cs ih =>
    rw [List.mem_cons, not_or] at h
    have hc : (c == '\\') = false := by simpa using Ne.symm h.1
    rw [List.cons_append, keepsHalf_cons_of_ne (by rw [hc, Bool.false_and]), ih h.2]

/-- A character that is escaped leaves no backslash that is not doubled. -/
theorem Escape.not_kept {q c : Char} {rest e : List Char} (hq : q = '"' ∨ q = '\'')
    (h : Escape q rest c e) : (c == '\\' && spellsHalf rest) = false := by
  cases h with
  | null => rfl
  | letter h =>
    simp only [letterEscapes, List.mem_cons, Prod.mk.injEq, List.not_mem_nil, or_false] at h
    rcases h with ⟨rfl, rfl⟩ | ⟨rfl, rfl⟩ | ⟨rfl, rfl⟩ | ⟨rfl, rfl⟩ | ⟨rfl, rfl⟩ <;> rfl
  | backslash h => exact h
  | quote => rcases hq with rfl | rfl <;> rfl
  | hex h =>
    have hc : c ≠ '\\' := by
      rintro rfl
      revert h
      decide
    rw [beq_eq_false_iff_ne.mpr hc, Bool.false_and]
  | unicode h =>
    simp only [unicodeEscapes, List.mem_cons, Prod.mk.injEq, List.not_mem_nil, or_false] at h
    rcases h with ⟨rfl, rfl⟩ | ⟨rfl, rfl⟩ | ⟨rfl, rfl⟩ <;> rfl

/-- Digits, letters and braces stand for themselves. -/
theorem escapeChar_of_range {q c : Char} (hq : q = '"' ∨ q = '\'') (hlow : 48 ≤ c.toNat)
    (hhigh : c.toNat ≤ 125) (hslash : c ≠ '\\') (rest : List Char) : escapeChar q c rest = [c] := by
  have hne : ∀ d : Char, d.toNat < 48 ∨ 125 < d.toNat → c ≠ d := by
    rintro d hd rfl
    omega
  have hquote : c ≠ q := by
    rcases hq with rfl | rfl
    · exact hne _ (by decide)
    · exact hne _ (by decide)
  have hlarge : ¬ c.toNat < 32 := by omega
  simp only [escapeChar, hne '\x00' (by decide), hne '\x08' (by decide), hne '\x0c' (by decide),
    hne '\n' (by decide), hne '\r' (by decide), hne '\x0b' (by decide), hne '\t' (by decide),
    hne '\u2028' (by decide), hne '\u2029' (by decide), hne '\ufeff' (by decide), hslash, hquote,
    hlarge, if_false]

/-- A digit is one of the ten, or a letter if there are more than ten digits. -/
theorem range_of_digitValue? {radix : Nat} {c : Char} (h : (digitValue? radix c).isSome = true) :
    (48 ≤ c.toNat ∧ c.toNat ≤ 57) ∨
      (10 < radix ∧ (97 ≤ c.toNat ∧ c.toNat ≤ 122 ∨ 65 ≤ c.toNat ∧ c.toNat ≤ 90)) := by
  have hle (low high : Char) : (decide (low ≤ c) && decide (c ≤ high)) = true ↔
      low.toNat ≤ c.toNat ∧ c.toNat ≤ high.toNat := by
    rw [Bool.and_eq_true, decide_eq_true_eq, decide_eq_true_eq]
    rfl
  unfold digitValue? at h
  rw [Option.isSome_filter] at h
  split at h
  · next hdigit => exact .inl ((hle '0' '9').mp hdigit)
  · split at h
    · next hletter =>
      simp only [Option.any_some, decide_eq_true_eq] at h
      exact .inr ⟨by omega, .inl ((hle 'a' 'z').mp hletter)⟩
    · split at h
      · next hletter =>
        simp only [Option.any_some, decide_eq_true_eq] at h
        exact .inr ⟨by omega, .inr ((hle 'A' 'Z').mp hletter)⟩
      · cases h

theorem isDigit_of_digitValue? {radix : Nat} (hradix : radix ≤ 10) {c : Char}
    (h : (digitValue? radix c).isSome = true) : c.isDigit = true := by
  rcases range_of_digitValue? h with hdigit | ⟨hlarge, -⟩
  · simpa [Char.isDigit, UInt32.le_iff_toNat_le] using hdigit
  · omega

/-- A hexadecimal digit stands for itself. -/
theorem escapeChar_of_isHexDigit {q c : Char} (hq : q = '"' ∨ q = '\'')
    (h : isHexDigit c = true) (rest : List Char) : escapeChar q c rest = [c] := by
  have hslash : c ≠ '\\' := by
    rintro rfl
    revert h
    decide
  have hrange := range_of_digitValue? h
  exact escapeChar_of_range hq (by omega) (by omega) hslash rest

theorem escapeAll_append {q : Char} {cs : List Char}
    (h : ∀ c ∈ cs, ∀ rest, escapeChar q c rest = [c]) (t : List Char) :
    escapeAll q (cs ++ t) = cs ++ escapeAll q t := by
  induction cs with
  | nil => rfl
  | cons c cs ih =>
    obtain ⟨hc, hcs⟩ := List.forall_mem_cons.mp h
    rw [List.cons_append, escapeAll, hc, ih hcs]
    rfl

/-- What is written of a string opens with a character of a class only if the string does. -/
theorem head?_of_written {q : Char} (hq : q = '"' ∨ q = '\'') {p : Char → Bool}
    (hquote : p q = false) (hslash : p '\\' = false) (r rest : List Char)
    (h : (escapeAll q r ++ q :: rest).head?.any p = true) : r.head?.any p = true := by
  cases r with
  | nil => simp [escapeAll, hquote] at h
  | cons d r =>
    rw [escapeAll] at h
    rcases escapeChar_cases hq d r with ⟨hself, -⟩ | ⟨e, he, -⟩ | ⟨-, -, hkept⟩
    · rw [hself] at h
      exact h
    · simp [he, hslash] at h
    · simp [hkept, hslash] at h

/-! ## Escapes -/

variable (env : Surroundings) (s : State)

theorem digitValue?_hexDigit {n : Nat} (h : n < 16) : digitValue? 16 (hexDigit n) = some n := by
  revert n
  decide

theorem run_skipChars (cs t : List Char) (p : Nat) :
    skipChars cs.length env (s.moved (cs ++ t) p) = .ok () (s.moved t (p + byteLength cs)) := by
  induction cs generalizing p with
  | nil => rfl
  | cons c cs ih =>
    rw [List.length_cons, List.cons_append, run_skipChars_succ, ih, byteLength_cons, Nat.add_assoc]

@[simp] theorem run_eatChar_self (c : Char) (t : List Char) (p : Nat) :
    eatChar c env (s.moved (c :: t) p) = .ok true (s.moved t (p + c.utf8Size)) := by
  simp [eatChar]

theorem run_eatChar_of_ne {c : Char} {t : List Char} (h : t.head? ≠ some c) (p : Nat) :
    eatChar c env (s.moved t p) = .ok false (s.moved t p) := by
  simp [eatChar, h]

theorem takeWhile_isHexDigit {ds : List Char} (hds : ∀ d ∈ ds, isHexDigit d = true)
    (t : List Char) : (ds ++ t).takeWhile (fun c => (digitValue? 16 c).isSome) =
      ds ++ t.takeWhile isHexDigit :=
  List.takeWhile_append_of_pos hds

theorem takeWhile_of_head? {p : Char → Bool} {t : List Char} (ht : t.head?.any p = false) :
    t.takeWhile p = [] := by
  cases t with
  | nil => rfl
  | cons c t => exact List.takeWhile_cons_of_neg (by simpa using ht)

theorem ne_of_isHexDigit {c d : Char} (hc : isHexDigit c = true) (hd : isHexDigit d = false) :
    c ≠ d := by
  rintro rfl
  rw [hc] at hd
  cases hd

/-- As many digits as are wanted are read, whatever stands behind them. -/
theorem run_hexDigits? {ds : List Char} (hds : ∀ d ∈ ds, isHexDigit d = true)
    (hne : ds ≠ []) (t : List Char) (p : Nat) :
    hexDigits? ds.length env (s.moved (ds ++ t) p) =
      .ok (some ds) (s.moved t (p + byteLength ds)) := by
  have hlength : ds.length ≠ 0 := fun h => hne (List.length_eq_zero_iff.mp h)
  have hread : (ds.isEmpty || decide (ds.length < ds.length)) = false := by simp [hne]
  simp only [hexDigits?, run_bind, run_get, moved_rest, if_neg hlength, takeWhile_isHexDigit hds,
    List.take_left, hread, Bool.false_eq_true, if_false, run_skipChars, run_pure]

/-- All digits are read if their number does not matter. -/
theorem run_hexDigits?_all {ds t : List Char} (hds : ∀ d ∈ ds, isHexDigit d = true)
    (ht : t.head?.any isHexDigit = false) (p : Nat) :
    hexDigits? 0 env (s.moved (ds ++ t) p) =
      if ds = [] then .ok none (s.moved (ds ++ t) p)
      else .ok (some ds) (s.moved t (p + byteLength ds)) := by
  simp only [hexDigits?, run_bind, run_get, moved_rest, takeWhile_isHexDigit hds,
    takeWhile_of_head? ht,
    List.append_nil, if_true]
  by_cases hne : ds = []
  · simp [hne]
  · simp [hne, run_skipChars]

theorem charOf?_toNat (c : Char) : charOf? c.toNat = some c := by
  have hvalid : c.toNat.isValidChar := c.valid
  rw [charOf?, dif_pos hvalid]
  rfl

/-- What an escape by its digits stands for; half of a surrogate pair stands for its spelling. -/
def meant (spelling ds : List Char) : List Char :=
  match charOf? (digitsValue 16 ds) with
  | some c => [c]
  | none => spelling

/-- Four digits without braces. -/
theorem run_unicodeEscape_four {ds : List Char} (hlength : ds.length = 4)
    (hds : ∀ d ∈ ds, isHexDigit d = true) (hrange : digitsValue 16 ds ≤ 0x10FFFF) (start : Nat)
    (t : List Char) (p : Nat) :
    unicodeEscape start env (s.moved (ds ++ t) p) =
      .ok (meant ('\\' :: 'u' :: ds) ds) (s.moved t (p + byteLength ds)) := by
  obtain ⟨d, ds', rfl⟩ : ∃ d ds', ds = d :: ds' := List.exists_cons_of_length_eq_add_one hlength
  have hd : d ≠ '\x7b' := ne_of_isHexDigit (hds d List.mem_cons_self) (by decide)
  have hbrace : (d :: ds' ++ t).head? ≠ some '\x7b' := by simpa using hd
  have hread := run_hexDigits? env s hds (List.cons_ne_nil _ _) t p
  rw [hlength] at hread
  unfold unicodeEscape meant
  simp only [run_bind, run_eatChar_of_ne env s hbrace, hread, run_ite, Bool.false_eq_true, if_false,
    Nat.not_lt.mpr hrange, gt_iff_lt]
  cases charOf? (digitsValue 16 (d :: ds')) <;> rfl

/-- Digits in braces that are closed. -/
theorem run_unicodeEscape_closed {ds : List Char} (hne : ds ≠ [])
    (hds : ∀ d ∈ ds, isHexDigit d = true) (hrange : digitsValue 16 ds ≤ 0x10FFFF) (start : Nat)
    (t : List Char) (p : Nat) :
    unicodeEscape start env (s.moved ('\x7b' :: (ds ++ '\x7d' :: t)) p) =
      .ok (meant ('\\' :: 'u' :: '\x7b' :: (ds ++ ['\x7d'])) ds)
        (s.moved t (p + byteLength ('\x7b' :: (ds ++ ['\x7d'])))) := by
  have hclosing : ('\x7d' :: t).head?.any isHexDigit = false := rfl
  have hread := run_hexDigits?_all env s hds hclosing (p + 1)
  rw [if_neg hne] at hread
  have hsize : ('\x7b').utf8Size = 1 ∧ ('\x7d').utf8Size = 1 := ⟨rfl, rfl⟩
  unfold unicodeEscape meant
  simp only [run_bind, run_eatChar_self, hsize, hread, run_ite, if_true, Bool.not_true,
    Bool.false_eq_true, if_false, Nat.not_lt.mpr hrange, gt_iff_lt, byteLength_cons,
    byteLength_append, byteLength_nil]
  have hplace : p + 1 + byteLength ds + 1 = p + (1 + (byteLength ds + (1 + 0))) := by omega
  rw [hplace]
  cases charOf? (digitsValue 16 ds) <;> rfl

/-- Digits in braces that are not closed, or spell no code point. -/
theorem run_unicodeEscape_open {ds t : List Char} (hds : ∀ d ∈ ds, isHexDigit d = true)
    (ht : t.head?.any isHexDigit = false)
    (hopen : digitsValue 16 ds ≤ 0x10FFFF → t.head? ≠ some '\x7d') (start p : Nat) :
    ∃ f s', unicodeEscape start env (s.moved ('\x7b' :: (ds ++ t)) p) = .error f s' := by
  have hread := run_hexDigits?_all env s hds ht (p + ('\x7b').utf8Size)
  by_cases hne : ds = []
  · rw [if_pos hne] at hread
    simp [unicodeEscape, hread]
  · rw [if_neg hne] at hread
    by_cases hrange : digitsValue 16 ds ≤ 0x10FFFF
    · simp [unicodeEscape, hread, Nat.not_lt.mpr hrange, run_eatChar_of_ne env _ (hopen hrange)]
    · simp [unicodeEscape, hread, Nat.lt_of_not_le hrange]

theorem run_unicodeEscape {c : Char} {ds : List Char} (h : (c, ds) ∈ unicodeEscapes) (start : Nat)
    (t : List Char) (p : Nat) :
    unicodeEscape start env (s.moved (ds ++ t) p) = .ok [c] (s.moved t (p + byteLength ds)) := by
  obtain ⟨hlength, hds, hrange, hvalue⟩ : ds.length = 4 ∧ ds.all isHexDigit = true ∧
      digitsValue 16 ds ≤ 0x10FFFF ∧ digitsValue 16 ds = c.toNat := by
    simp only [unicodeEscapes, List.mem_cons, Prod.mk.injEq, List.not_mem_nil, or_false] at h
    rcases h with ⟨rfl, rfl⟩ | ⟨rfl, rfl⟩ | ⟨rfl, rfl⟩ <;> decide
  rw [run_unicodeEscape_four env s hlength (List.all_eq_true.mp hds) hrange, meant, hvalue,
    charOf?_toNat]

theorem run_escapedChars_u (t : List Char) (p : Nat) :
    escapedChars false env (s.moved ('\\' :: 'u' :: t) p) =
      unicodeEscape p env (s.moved t (p + ('\\').utf8Size + ('u').utf8Size)) := by
  simp [escapedChars]

/-- An escape is read back as the character that it stands for. -/
theorem run_escapedChars {q c : Char} {rest e t : List Char}
    (hq : q = '"' ∨ q = '\'') (h : Escape q rest c e)
    (hnext : t.head?.any isOctal = true → rest.head?.any (·.isDigit) = true) (p : Nat) :
    escapedChars false env (s.moved ('\\' :: e ++ t) p) =
      .ok [c] (s.moved t (p + byteLength ('\\' :: e))) := by
  cases h with
  | null h =>
    have hzero : digitValue? 8 '0' = some 0 := by decide
    -- an octal digit behind the zero would be read as part of the escape
    have hoctal : t.head?.any (fun c => (digitValue? 8 c).isSome) = false := by
      rw [← Bool.not_eq_true]
      exact fun ho => h (hnext ho)
    simp [escapedChars, hzero, hoctal, byteLength_cons, Nat.add_assoc]
  | letter h =>
    simp only [letterEscapes, List.mem_cons, Prod.mk.injEq, List.not_mem_nil, or_false] at h
    rcases h with ⟨rfl, rfl⟩ | ⟨rfl, rfl⟩ | ⟨rfl, rfl⟩ | ⟨rfl, rfl⟩ | ⟨rfl, rfl⟩ <;>
      simp [escapedChars, byteLength_cons, Nat.add_assoc]
  | backslash =>
    have hnone : digitValue? 8 '\\' = none := by decide
    simp [escapedChars, hnone, byteLength_cons, Nat.add_assoc]
  | quote =>
    have hnone : digitValue? 8 q = none := by rcases hq with rfl | rfl <;> decide
    rcases hq with rfl | rfl <;> simp [escapedChars, hnone, byteLength_cons, Nat.add_assoc]
  | hex h =>
    have hhigh : c.toNat / 16 < 16 := by omega
    have hlow : c.toNat % 16 < 16 := by omega
    have hvalue : digitsValue 16 [hexDigit (c.toNat / 16), hexDigit (c.toNat % 16)] = c.toNat := by
      simp only [digitsValue, List.foldl_cons, List.foldl_nil, digitValue?_hexDigit hhigh,
        digitValue?_hexDigit hlow, Option.getD_some]
      omega
    have hdigits : ∀ d ∈ [hexDigit (c.toNat / 16), hexDigit (c.toNat % 16)],
        (digitValue? 16 d).isSome = true := by
      simp [digitValue?_hexDigit hhigh, digitValue?_hexDigit hlow]
    have hread := run_hexDigits? env s hdigits (List.cons_ne_nil _ _) t
    simp only [List.length_cons, List.length_nil, Nat.zero_add, Nat.reduceAdd, List.cons_append,
      List.nil_append] at hread
    simp [escapedChars, hread, hvalue, charOf?_toNat, byteLength_cons, Nat.add_assoc]
  | unicode h =>
    rw [List.cons_append, List.cons_append, run_escapedChars_u, run_unicodeEscape env s h]
    simp [byteLength_cons, Nat.add_assoc]

/-! ## Backslashes that are not doubled -/

theorem opensHalf_iff {text : List Char} :
    opensHalf text = true ↔ (text.take 4).length = 4 ∧ (∀ d ∈ text.take 4, isHexDigit d = true) ∧
      isHalf (digitsValue 16 (text.take 4)) = true := by
  simp only [opensHalf, Bool.and_eq_true, beq_iff_eq, List.all_eq_true, and_assoc]

/-- Behind such a backslash stand four digits, or a brace with some digits. -/
theorem spellsHalf_cases {r : List Char} (h : spellsHalf r = true) :
    ∃ ds t, (∀ d ∈ ds, isHexDigit d = true) ∧ ds ≠ [] ∧
      (r = 'u' :: (ds ++ t) ∧ ds.length = 4 ∧ isHalf (digitsValue 16 ds) = true ∨
        r = 'u' :: '\x7b' :: (ds ++ t) ∧ t.head?.any isHexDigit = false) := by
  unfold spellsHalf at h
  split at h
  · next text =>
    obtain ⟨hlength, hds, -⟩ := opensHalf_iff.mp h
    refine ⟨text.takeWhile isHexDigit, text.dropWhile isHexDigit,
      fun d hd => List.mem_takeWhile_imp hd, ?_, .inr ⟨by rw [List.takeWhile_append_dropWhile], ?_⟩⟩
    · cases text with
      | nil => simp at hlength
      | cons d text => simp [hds d (by simp)]
    · cases hdrop : text.dropWhile isHexDigit with
      | nil => rfl
      | cons c t =>
        have hc := List.head?_dropWhile_not isHexDigit text
        rw [hdrop] at hc
        simpa using hc
  · next text _ =>
    obtain ⟨hlength, hds, hhalf⟩ := opensHalf_iff.mp h
    refine ⟨text.take 4, text.drop 4, hds, ?_, .inl ⟨by rw [List.take_append_drop], hlength, hhalf⟩⟩
    intro hnil
    rw [hnil] at hlength
    cases hlength
  · cases h

theorem isHalf_le {n : Nat} (h : isHalf n = true) : n ≤ 0x10FFFF := by
  simp only [isHalf, Bool.and_eq_true, decide_eq_true_eq] at h
  omega

theorem closesBrace_four {ds : List Char} (hds : ∀ d ∈ ds, isHexDigit d = true) (hne : ds ≠ [])
    (t : List Char) : closesBrace ('u' :: (ds ++ t)) = true := by
  obtain ⟨d, ds, rfl⟩ := List.exists_cons_of_ne_nil hne
  have hd : d ≠ '\x7b' := ne_of_isHexDigit (hds d List.mem_cons_self) (by decide)
  simp [closesBrace, hd]

theorem closesBrace_brace {ds t : List Char} (hds : ∀ d ∈ ds, isHexDigit d = true)
    (ht : t.head?.any isHexDigit = false) :
    closesBrace ('u' :: '\x7b' :: (ds ++ t)) = true ↔
      digitsValue 16 ds ≤ 0x10FFFF ∧ t.head? = some '\x7d' := by
  have htake : (ds ++ t).takeWhile isHexDigit = ds := by
    rw [List.takeWhile_append_of_pos hds, takeWhile_of_head? ht, List.append_nil]
  simp only [closesBrace, htake, List.drop_left, Bool.and_eq_true, decide_eq_true_eq, beq_iff_eq]

/-- The escape is read as one character or as its own spelling, unless its brace is not closed. -/
theorem run_keptEscape {q : Char} (hq : q = '"' ∨ q = '\'') {r : List Char}
    (h : spellsHalf r = true) (rest : List Char) :
    (closesBrace r = true → ∃ e r' cs, r = e ++ r' ∧ '\\' ∉ e ∧
      escapeAll q r = e ++ escapeAll q r' ∧
      ∀ (s : State) (p : Nat),
        escapedChars false env (s.moved ('\\' :: e ++ (escapeAll q r' ++ q :: rest)) p) =
          .ok cs (s.moved (escapeAll q r' ++ q :: rest) (p + byteLength ('\\' :: e)))) ∧
    (closesBrace r = false → ∀ (s : State) (p : Nat), ∃ f s',
      escapedChars false env (s.moved ('\\' :: (escapeAll q r ++ q :: rest)) p) = .error f s') := by
  have hu : ∀ rest, escapeChar q 'u' rest = ['u'] :=
    escapeChar_of_range hq (by decide) (by decide) (by decide)
  have hopening : ∀ rest, escapeChar q '\x7b' rest = ['\x7b'] :=
    escapeChar_of_range hq (by decide) (by decide) (by decide)
  have hclosing : ∀ rest, escapeChar q '\x7d' rest = ['\x7d'] :=
    escapeChar_of_range hq (by decide) (by decide) (by decide)
  obtain ⟨ds, t, hds, hne, ⟨rfl, hlength, hhalf⟩ | ⟨rfl, ht⟩⟩ := spellsHalf_cases h
  all_goals
    have hself : ∀ d ∈ ds, ∀ rest, escapeChar q d rest = [d] :=
      fun d hd => escapeChar_of_isHexDigit hq (hds d hd)
    have hslash : '\\' ∉ ds := fun hd => absurd (hds _ hd) (by decide)
  · have hwritten : escapeAll q ('u' :: (ds ++ t)) = 'u' :: ds ++ escapeAll q t :=
      escapeAll_append (List.forall_mem_cons.mpr ⟨hu, hself⟩) t
    refine ⟨fun _ => ⟨'u' :: ds, t, meant ('\\' :: 'u' :: ds) ds, rfl, by simp [hslash], hwritten,
      fun s p => ?_⟩, ?_⟩
    · rw [List.cons_append, List.cons_append, run_escapedChars_u,
        run_unicodeEscape_four env s hlength hds (isHalf_le hhalf)]
      simp [byteLength_cons, Nat.add_assoc]
    · rw [closesBrace_four hds hne]
      rintro ⟨⟩
  · have hwritten : escapeAll q ('u' :: '\x7b' :: (ds ++ t)) =
        'u' :: '\x7b' :: ds ++ escapeAll q t :=
      escapeAll_append (List.forall_mem_cons.mpr ⟨hu, List.forall_mem_cons.mpr ⟨hopening, hself⟩⟩) t
    constructor
    · intro hcloses
      obtain ⟨hrange, hhead⟩ := (closesBrace_brace hds ht).mp hcloses
      obtain ⟨t, rfl⟩ : ∃ t', t = '\x7d' :: t' := by
        cases t with
        | nil => cases hhead
        | cons c t => exact ⟨t, by rw [Option.some.inj hhead]⟩
      refine ⟨'u' :: '\x7b' :: (ds ++ ['\x7d']), t,
        meant ('\\' :: 'u' :: '\x7b' :: (ds ++ ['\x7d'])) ds, by simp, by simp [hslash], ?_,
        fun s p => ?_⟩
      · rw [hwritten, escapeAll, hclosing]
        simp
      · have hread := run_unicodeEscape_closed env s hne hds hrange p (escapeAll q t ++ q :: rest)
        simp only [List.cons_append, List.append_assoc, List.nil_append, run_escapedChars_u]
        rw [hread]
        simp [byteLength_cons, byteLength_append, Nat.add_assoc]
    · intro hopen s p
      have hhead : digitsValue 16 ds ≤ 0x10FFFF →
          (escapeAll q t ++ q :: rest).head? ≠ some '\x7d' := by
        intro hrange hhead
        have hquote : (q == '\x7d') = false := by rcases hq with rfl | rfl <;> rfl
        obtain ⟨c, hc, heq⟩ := (Option.any_eq_true _ _).mp
          (head?_of_written hq (p := (· == '\x7d')) hquote rfl t rest (by simp [hhead]))
        have hcloses := (closesBrace_brace hds ht).mpr ⟨hrange, by rw [hc, eq_of_beq heq]⟩
        rw [hopen] at hcloses
        cases hcloses
      have hdigit : (escapeAll q t ++ q :: rest).head?.any isHexDigit = false := by
        rw [← Bool.not_eq_true] at ht ⊢
        have hquote : isHexDigit q = false := by rcases hq with rfl | rfl <;> rfl
        exact fun h => ht (head?_of_written hq hquote rfl t rest h)
      rw [hwritten]
      simp only [List.cons_append, List.append_assoc, run_escapedChars_u]
      exact run_unicodeEscape_open env s hds hdigit hhead _ _

/-! ## Strings -/

theorem not_mem_of_isPlain {q : Char} {cs : List Char} (h : ∀ c ∈ cs, isPlain q c = true) :
    '\\' ∉ cs := by
  intro hmem
  have := h _ hmem
  simp [isPlain] at this

/-- A text begins with characters that stand for themselves, up to one that is written behind a
backslash or a backslash that stays single. -/
theorem exists_plain {q : Char} (hq : q = '"' ∨ q = '\'') (v : List Char) :
    ∃ before after, v = before ++ after ∧ (∀ c ∈ before, isPlain q c = true) ∧
      escapeAll q v = before ++ escapeAll q after ∧
      (after = [] ∨
        (∃ c r e, after = c :: r ∧ escapeAll q after = '\\' :: e ++ escapeAll q r ∧
          Escape q r c e) ∨
        ∃ r, after = '\\' :: r ∧ escapeAll q after = '\\' :: escapeAll q r ∧
          spellsHalf r = true) := by
  induction v with
  | nil => exact ⟨[], [], rfl, by simp, rfl, .inl rfl⟩
  | cons c r ih =>
    rcases escapeChar_cases hq c r with ⟨hself, hplain⟩ | ⟨e, he, hescape⟩ | ⟨rfl, hhalf, hkept⟩
    · obtain ⟨before, after, rfl, hbefore, hescaped, hafter⟩ := ih
      refine ⟨c :: before, after, rfl, List.forall_mem_cons.mpr ⟨hplain, hbefore⟩, ?_, hafter⟩
      rw [escapeAll, hself, hescaped]
      rfl
    · exact ⟨[], c :: r, rfl, by simp, rfl, .inr (.inl ⟨c, r, e, rfl, by rw [escapeAll, he],
        hescape⟩)⟩
    · exact ⟨[], '\\' :: r, rfl, by simp, rfl, .inr (.inr ⟨r, rfl, by rw [escapeAll, hkept]; rfl,
        hhalf⟩)⟩

/-- One turn of reading a string. -/
def stringPart (q : Char) (parts : List (List Char)) : P (ForInStep (List (List Char))) := do
  let plain ← takeChars (isPlain q)
  if ← nextIs '\\' then return .yield ((← escapedChars false) :: plain :: parts)
  else return .done (plain :: parts)

theorem stringToken_eq (q : Char) : stringToken q = (do
    let start ← place
    skipChar
    let parts ← Turns.run (stringPart q) (← turns).count []
    if !(← eatChar q) then report start .unterminatedString
    return .string (String.ofList parts.reverse.flatten) (← textSince start)) := by
  rfl

theorem isPlain_quote (q : Char) : isPlain q q = false := by simp [isPlain]

theorem isPlain_backslash (q : Char) : isPlain q '\\' = false := by simp [isPlain]

/-- A turn reads what stands for itself, and then the escape behind it. -/
theorem run_stringPart {q : Char} {before : List Char} (hbefore : ∀ c ∈ before, isPlain q c = true)
    (t : List Char) (parts : List (List Char)) (p : Nat) :
    stringPart q parts env (s.moved (before ++ '\\' :: t) p) =
      ((fun cs => .yield (cs :: before :: parts)) <$> escapedChars false) env
        (s.moved ('\\' :: t) (p + byteLength before)) := by
  simp only [stringPart, run_bind, run_takeChars, run_nextIs, moved_rest, run_ite, run_pure,
    List.takeWhile_append_of_pos hbefore, List.dropWhile_append_of_pos hbefore,
    List.takeWhile_cons_of_neg (Bool.eq_false_iff.mp (isPlain_backslash q)),
    List.dropWhile_cons_of_neg (Bool.eq_false_iff.mp (isPlain_backslash q)),
    List.append_nil, List.head?_cons, BEq.rfl, if_true, run_map]

/-- A turn that reads an escape leaves the rest of the string. -/
theorem run_stringPart_escape {q : Char} {before e r cs : List Char}
    (hbefore : ∀ c ∈ before, isPlain q c = true) (rest : List Char) {p : Nat}
    (hchars : escapedChars false env
        (s.moved ('\\' :: e ++ (escapeAll q r ++ q :: rest)) (p + byteLength before)) =
      .ok cs (s.moved (escapeAll q r ++ q :: rest)
        (p + byteLength before + byteLength ('\\' :: e))))
    (parts : List (List Char)) :
    stringPart q parts env
        (s.moved (before ++ ('\\' :: e ++ escapeAll q r) ++ q :: rest) p) =
      .ok (.yield (cs :: before :: parts)) (s.moved (escapeAll q r ++ q :: rest)
        (p + byteLength before + byteLength ('\\' :: e))) := by
  have hpart := run_stringPart env s hbefore (e ++ (escapeAll q r ++ q :: rest)) parts p
  rw [List.cons_append] at hchars
  rw [run_map, hchars] at hpart
  simpa using hpart

/-- One turn reads all of the string, or its front, or it is a fault. -/
theorem stringPart_cases {q : Char} (hq : q = '"' ∨ q = '\'') (v rest : List Char) :
    (isReadable v = true ∧ ∀ (s : State) parts p,
      stringPart q parts env (s.moved (escapeAll q v ++ q :: rest) p) =
        .ok (.done (v :: parts)) (s.moved (q :: rest) (p + byteLength (escapeAll q v)))) ∨
    (∃ front r w, v = front ++ r ∧ front ≠ [] ∧ isReadable v = isReadable r ∧
      (keepsHalf v = false → keepsHalf r = false ∧ w.reverse.flatten = front) ∧
      ∀ (s : State) parts p, ∃ p',
        p' + byteLength (escapeAll q r) = p + byteLength (escapeAll q v) ∧
        stringPart q parts env (s.moved (escapeAll q v ++ q :: rest) p) =
          .ok (.yield (w ++ parts)) (s.moved (escapeAll q r ++ q :: rest) p')) ∨
    (isReadable v = false ∧ ∀ (s : State) parts p, ∃ f s',
      stringPart q parts env (s.moved (escapeAll q v ++ q :: rest) p) = .error f s') := by
  obtain ⟨before, after, rfl, hbefore, hwritten, hafter⟩ := exists_plain hq v
  have hslash := not_mem_of_isPlain hbefore
  rw [isReadable_append hslash, keepsHalf_append hslash, hwritten]
  rcases hafter with rfl | ⟨c, r, e, rfl, hwritten, hescape⟩ | ⟨r, rfl, hwritten, hhalf⟩
  · refine .inl ⟨rfl, fun s parts p => ?_⟩
    have hquote : q ≠ '\\' := by rcases hq with rfl | rfl <;> decide
    simp [stringPart, escapeAll, List.takeWhile_append_of_pos hbefore,
      List.dropWhile_append_of_pos hbefore, isPlain_quote, hquote]
  · have hdigit : (escapeAll q r ++ q :: rest).head?.any isOctal = true →
        r.head?.any (·.isDigit) = true := by
      intro h
      have hoctal : isOctal q = false := by rcases hq with rfl | rfl <;> decide
      obtain ⟨d, hd, hvalue⟩ := (Option.any_eq_true _ _).mp
        (head?_of_written hq hoctal (by decide) r rest h)
      rw [hd, Option.any_some]
      exact isDigit_of_digitValue? (by decide) hvalue
    have hkept := hescape.not_kept hq
    rw [isReadable_cons_of_ne hkept, keepsHalf_cons_of_ne hkept, hwritten]
    refine .inr (.inl ⟨before ++ [c], r, [[c], before], by simp, by simp, rfl,
      fun h => ⟨h, by simp⟩, fun s parts p => ⟨_, ?_, run_stringPart_escape env s hbefore rest
        (run_escapedChars env s hq hescape hdigit (p + byteLength before)) parts⟩⟩)
    simp only [byteLength_append, byteLength_cons]
    omega
  · obtain ⟨hclosed, hopen⟩ := run_keptEscape env hq hhalf rest
    have hkeeps : keepsHalf ('\\' :: r) = true := by
      rw [keepsHalf, hhalf]
      rfl
    have hreadable : isReadable ('\\' :: r) = (closesBrace r && isReadable r) := by
      rw [isReadable, hhalf]
      rfl
    rw [hkeeps, hreadable, hwritten]
    cases hcloses : closesBrace r with
    | false =>
      refine .inr (.inr ⟨rfl, fun s parts p => ?_⟩)
      obtain ⟨f, s', herror⟩ := hopen hcloses s (p + byteLength before)
      have hpart := run_stringPart env s hbefore (escapeAll q r ++ q :: rest) parts p
      rw [run_map, herror] at hpart
      rw [List.append_assoc]
      exact ⟨f, s', hpart⟩
    | true =>
      obtain ⟨e, r', cs, rfl, hslash', hwritten', hchars⟩ := hclosed hcloses
      rw [isReadable_append hslash', Bool.true_and, hwritten']
      refine .inr (.inl ⟨before ++ '\\' :: e, r', [cs, before], by simp, by simp, rfl,
        Bool.noConfusion, fun s parts p => ⟨_, ?_, run_stringPart_escape env s hbefore rest
          (hchars s (p + byteLength before)) parts⟩⟩)
      simp only [byteLength_append, byteLength_cons]
      omega

/-- The turns of a loop read a string up to its closing quote. The induction is on the turns, each
of which reads the front of what the string still holds. -/
theorem run_stringParts {q : Char} (hq : q = '"' ∨ q = '\'') (rest : List Char) {n : Nat}
    {v : List Char} (hn : v.length < n) (hread : isReadable v = true) :
    ∃ w, (keepsHalf v = false → w = v) ∧ ∀ (s : State) parts p, ∃ parts',
      parts'.reverse.flatten = parts.reverse.flatten ++ w ∧
      Turns.run (stringPart q) n parts env (s.moved (escapeAll q v ++ q :: rest) p) =
        .ok parts' (s.moved (q :: rest) (p + byteLength (escapeAll q v))) := by
  induction n generalizing v with
  | zero => omega
  | succ n ih =>
    rcases stringPart_cases env hq v rest with
      ⟨-, hturn⟩ | ⟨front, r, w, rfl, hfront, hsame, hkept, hturn⟩ | ⟨hunread, -⟩
    · exact ⟨v, fun _ => rfl, fun s parts p =>
        ⟨_, by simp, run_turns_done env n (hturn s parts p)⟩⟩
    · have hr : r.length < n := by
        have hpos := List.length_pos_iff.mpr hfront
        rw [List.length_append] at hn
        omega
      obtain ⟨w', hw', hrun⟩ := ih hr (hsame ▸ hread)
      refine ⟨w.reverse.flatten ++ w', fun h => ?_, fun s parts p => ?_⟩
      · obtain ⟨hr, hw⟩ := hkept h
        rw [hw, hw' hr]
      · obtain ⟨p', hplace, hturn⟩ := hturn s parts p
        obtain ⟨parts', hparts, hrun⟩ := hrun s (w ++ parts) p'
        exact ⟨parts', by simp [hparts], by rw [run_turns_yield env n hturn, hrun, hplace]⟩
    · rw [hread] at hunread
      cases hunread

/-- If an escape is not closed the turns of the loop end with a fault. -/
theorem run_stringParts_fault {q : Char} (hq : q = '"' ∨ q = '\'') (rest : List Char) {n : Nat}
    {v : List Char} (hn : v.length < n) (hread : isReadable v = false) (s : State)
    (parts : List (List Char)) (p : Nat) :
    ∃ f s', Turns.run (stringPart q) n parts env (s.moved (escapeAll q v ++ q :: rest) p) =
      .error f s' := by
  induction n generalizing v parts p with
  | zero => omega
  | succ n ih =>
    rcases stringPart_cases env hq v rest with
      ⟨hreads, -⟩ | ⟨front, r, w, rfl, hfront, hsame, -, hturn⟩ | ⟨-, hturn⟩
    · rw [hread] at hreads
      cases hreads
    · have hr : r.length < n := by
        have hpos := List.length_pos_iff.mpr hfront
        rw [List.length_append] at hn
        omega
      obtain ⟨p', -, hturn⟩ := hturn s parts p
      rw [run_turns_yield env n hturn]
      exact ih hr (hsame ▸ hread) _ p'
    · obtain ⟨f, s', hturn⟩ := hturn s parts p
      exact ⟨f, s', by rw [Turns.run, run_bind, hturn]⟩

/-- A string is read up to its closing quote. What is read is the string itself unless it keeps an
escape of half a surrogate pair. -/
theorem run_stringToken {q : Char} (hq : q = '"' ∨ q = '\'') {v : List Char}
    (hread : isReadable v = true) (rest : List Char) (hturns : v.length < env.turns) :
    ∃ w, (keepsHalf v = false → w = v) ∧ ∀ (s : State) (p : Nat),
      stringToken q env (s.moved (q :: (escapeAll q v ++ q :: rest)) p) =
        .ok (.string (String.ofList w) (String.ofList (textBetween p
          (p + byteLength (q :: escapeAll q v ++ [q])) env.text)))
          (s.moved rest (p + byteLength (q :: escapeAll q v ++ [q]))) := by
  obtain ⟨w, hw, hrun⟩ := run_stringParts env hq rest hturns hread
  refine ⟨w, hw, fun s p => ?_⟩
  obtain ⟨parts, hparts, hrun⟩ := hrun s [] (p + q.utf8Size)
  have hplace : p + byteLength (q :: escapeAll q v ++ [q]) =
      p + q.utf8Size + byteLength (escapeAll q v) + q.utf8Size := by
    simp only [byteLength_append, byteLength_cons, byteLength_nil]
    omega
  rw [hplace]
  simp [stringToken_eq, hrun, hparts]

/-- A string with an escape that is not closed is a fault. -/
theorem run_stringToken_fault {q : Char} (hq : q = '"' ∨ q = '\'') {v : List Char}
    (hread : isReadable v = false) (rest : List Char) (hturns : v.length < env.turns) (s : State)
    (p : Nat) :
    ∃ f s', stringToken q env (s.moved (q :: (escapeAll q v ++ q :: rest)) p) = .error f s' := by
  obtain ⟨f, s', hrun⟩ := run_stringParts_fault env hq rest hturns hread s [] (p + q.utf8Size)
  exact ⟨f, s', by simp [stringToken_eq, hrun]⟩

end EnvInline.Layout
