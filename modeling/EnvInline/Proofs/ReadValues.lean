import EnvInline.Json.Reader
import EnvInline.Mapping
import EnvInline.Proofs.NearestNumber

/-!
# Values that are read

What `Json.read` gives is well-formed: a whole number fits into 64 bits, any other number is finite,
and an object has no key twice (`Json.read_wellFormed`). Numbers that are too large are the one
thing to show, since a number with an exponent is read in steps that are each rounded.
-/

namespace EnvInline

/-- A value whose numbers are in range and whose objects have no key twice. -/
inductive Json.WellFormed : Json → Prop
  | null : WellFormed .null
  | bool (b : Bool) : WellFormed (.bool b)
  | number (n : Json.Number) : n.InRange → WellFormed (.number n)
  | string (s : String) : WellFormed (.string s)
  | array (items : List Json) : (∀ v ∈ items, WellFormed v) → WellFormed (.array items)
  | object (members : List (String × Json)) :
    (members.map (·.1)).Nodup → (∀ m ∈ members, WellFormed m.2) → WellFormed (.object members)

namespace Binary64

/-! ### Rounded products and quotients -/

theorem ofScaled_finite_or {m s : ℕ} (hm : m < 2 ^ 53) :
    (ofScaled m s).IsFinite ∨ ofScaled m s = infinity := by
  by_cases h : m < 2 ^ 52
  · have heq : ofScaled m s = ofScaled m 0 := by simp only [ofScaled, Nat.pow_eq, if_pos h]
    rw [heq]
    exact .inl (ofScaled_spec hm (by norm_num) (.inl rfl)).1
  · rcases lt_or_ge s 2046 with hs | hs
    · exact .inl (ofScaled_spec hm hs (.inr (not_lt.mp h))).1
    · refine .inr ?_
      simp only [ofScaled, Nat.pow_eq, if_neg h, if_pos (show s + 1 ≥ 2047 by omega)]

/-- A quotient is rounded to a finite number or to infinity. -/
theorem ofRatio_finite_or (num : ℕ) {den : ℕ} (hden : 0 < den) :
    (ofRatio num den).IsFinite ∨ ofRatio num den = infinity := by
  rcases Nat.eq_zero_or_pos num with rfl | hnum
  · exact .inl (by rw [ofRatio, if_pos rfl]; decide)
  · obtain ⟨s, heq, -⟩ := ofRatio_eq hnum hden
    rw [heq]
    dsimp only
    split
    · exact ofScaled_finite_or ‹_›
    · exact ofScaled_finite_or (by norm_num)

theorem ratio_pos (x : Binary64) : 0 < x.ratio.2 := Nat.pow_pos two_pos

theorem div_ratio (x : Binary64) : (x.ratio.1 : ℚ) / x.ratio.2 = x.magnitude := by
  have hsplit : (x.scale : ℤ) - 1074 = ((x.scale - 1074 : ℕ) : ℤ) - ((1074 - x.scale : ℕ) : ℤ) := by
    omega
  rw [magnitude, hsplit, zpow_sub₀ two_ne_zero, zpow_natCast, zpow_natCast, mul_div_assoc', ratio]
  simp only [Nat.pow_eq]
  push_cast
  rfl

/-- A product is rounded to a finite number or to infinity. -/
theorem mul_finite_or (x y : Binary64) : (x.mul y).IsFinite ∨ x.mul y = infinity :=
  ofRatio_finite_or _ (Nat.mul_pos x.ratio_pos y.ratio_pos)

/-- Rounding at most doubles, since zero is a number too. -/
theorem IsNearest.magnitude_le {x : Binary64} {q : ℚ} (h : x.IsNearest q) (hq : 0 ≤ q) :
    x.magnitude ≤ 2 * q := by
  have hzero := h.le_abs zero (by decide)
  rw [value_zero, zero_sub, abs_neg, abs_of_nonneg hq] at hzero
  have htriangle := abs_sub_abs_le_abs_sub x.value q
  rw [abs_value, abs_of_nonneg hq] at htriangle
  linarith

/-- Dividing a number in the range of the whole ones by two or more leaves it there. -/
theorem div_spec {x y : Binary64} (hx : x.magnitude ≤ 2 ^ 65) (hy : 2 ≤ y.magnitude) :
    (x.div y).IsFinite ∧ (x.div y).magnitude ≤ 2 ^ 65 := by
  have hden : 0 < x.ratio.2 * y.ratio.1 := by
    refine Nat.mul_pos x.ratio_pos (Nat.pos_of_ne_zero fun h => ?_)
    rw [← div_ratio, h, Nat.cast_zero, zero_div] at hy
    linarith
  have hquotient : ((x.ratio.1 * y.ratio.2 : ℕ) : ℚ) / (x.ratio.2 * y.ratio.1 : ℕ) =
      x.magnitude / y.magnitude := by
    rw [← div_ratio, ← div_ratio, div_div_div_eq, Nat.cast_mul, Nat.cast_mul]
  have hle : x.magnitude / y.magnitude ≤ 2 ^ 64 := by
    rw [div_le_iff₀ (by linarith)]
    linarith
  have hsmall : x.ratio.1 * y.ratio.2 < overflow * (x.ratio.2 * y.ratio.1) := by
    rw [← hquotient, div_le_iff₀ (by exact_mod_cast hden)] at hle
    calc x.ratio.1 * y.ratio.2 ≤ 2 ^ 64 * (x.ratio.2 * y.ratio.1) := by exact_mod_cast hle
      _ < overflow * (x.ratio.2 * y.ratio.1) := Nat.mul_lt_mul_of_pos_right (by decide +kernel) hden
  have hnearest := ofRatio_nearest hden hsmall
  rw [hquotient] at hnearest
  have hnonneg : 0 ≤ x.magnitude / y.magnitude := div_nonneg x.magnitude_nonneg y.magnitude_nonneg
  have := hnearest.magnitude_le hnonneg
  exact ⟨hnearest.finite, this.trans (by linarith)⟩

/-- A power of ten stays above two when it is rounded, since two is a number too. -/
theorem two_le_ofDecimal_one {e : ℕ} (hpos : 0 < e) (he : e ≤ 308) :
    2 ≤ (ofDecimal 1 e).magnitude := by
  have hsmall : 1 * 10 ^ e < overflow := by
    calc 1 * 10 ^ e = 10 ^ e := Nat.one_mul _
      _ ≤ 10 ^ 308 := Nat.pow_le_pow_right (by norm_num) he
      _ < overflow := by decide +kernel
  have hnearest := ofDecimal_nearest (he.trans (by norm_num)) hsmall
  have hten : (2 : ℚ) ≤ (1 * 10 ^ e : ℕ) := by
    have : 10 ^ 1 ≤ 10 ^ e := Nat.pow_le_pow_right (by norm_num) hpos
    exact_mod_cast (show 2 ≤ 1 * 10 ^ e by omega)
  let two : Binary64 := ⟨0x4000000000000000⟩
  have htwo : two.value = 2 := by
    have hsignificand : two.significand = 2 ^ 52 := by decide
    have hscale : two.scale = 1023 := by decide
    have hsign : two.isNegative = false := by decide
    rw [value, hsign, if_neg Bool.false_ne_true, magnitude_eq, hsignificand, hscale, unit]
    norm_num
  have hle := hnearest.le_abs two (by decide)
  rw [htwo, abs_sub_comm 2, abs_of_nonneg (sub_nonneg.mpr hten)] at hle
  have hlow := (abs_le.mp hle).1
  have := le_abs_self (ofDecimal 1 e).value
  rw [abs_value] at this
  linarith

end Binary64

namespace Json

/-! ### Numbers -/

namespace Read

open Binary64

/-- A number in the range of the whole ones that is scaled in steps is finite, if it does not
overflow. -/
theorem isFinite_of_scale {x y : Binary64} {fuel : ℕ} {e : ℤ} (hx : x.IsFinite)
    (hsmall : x.magnitude ≤ 2 ^ 65) (h : scale x fuel e = some y) : y.IsFinite := by
  induction fuel generalizing x e with
  | zero =>
    obtain rfl : x = y := Option.some.inj h
    exact hx
  | succ fuel ih =>
    unfold scale at h
    split at h
    · rename_i hrange
      dsimp only at h
      split at h
      · split at h
        · cases h
        · rename_i hinfinity
          obtain rfl := Option.some.inj h
          exact (mul_finite_or _ _).resolve_right (by simpa using hinfinity)
      · obtain rfl := Option.some.inj h
        exact (div_spec hsmall (two_le_ofDecimal_one (by omega) hrange)).1
    · split at h
      · obtain rfl := Option.some.inj h
        exact hx
      · split at h
        · cases h
        · have hpower : 2 ≤ (ofDecimal 1 308).magnitude :=
            two_le_ofDecimal_one (by norm_num) le_rfl
          obtain ⟨hfinite, hsmall'⟩ := div_spec hsmall hpower
          exact ih hfinite hsmall' h

theorem ofDecimal_whole {n : ℕ} (h : n < 2 ^ 64) :
    (ofDecimal n 0).IsFinite ∧ (ofDecimal n 0).magnitude ≤ 2 ^ 65 := by
  have hnearest := ofDecimal_whole_nearest h
  have hle : (n : ℚ) ≤ 2 ^ 64 := by exact_mod_cast h.le
  have := hnearest.magnitude_le n.cast_nonneg
  exact ⟨hnearest.finite, this.trans (by linarith)⟩

/-! ### What steps give -/

variable {α β : Type} {P : α → Prop} {Q : β → Prop} {r : Read α}

/-- What some steps give, if they give anything, has a property. -/
def Yields (r : Read α) (P : α → Prop) : Prop :=
  ∀ c v c', r c = .ok v c' → P v

theorem Yields.pure {v : α} (h : P v) : Yields (pure v) P := by
  rintro c _ _ ⟨⟩
  exact h

theorem Yields.bind {f : α → Read β} (hr : Yields r P) (hf : ∀ v, P v → Yields (f v) Q) :
    Yields (r >>= f) Q := by
  intro c v c' h
  change EStateM.bind r f c = _ at h
  unfold EStateM.bind at h
  split at h
  · rename_i w d heq
    exact hf w (hr c w d heq) d v c' h
  · cases h

/-- Steps of which nothing needs to be known. -/
theorem Yields.after {f : α → Read β} (hf : ∀ v, Yields (f v) Q) : Yields (r >>= f) Q :=
  Yields.bind (P := fun _ => True) (fun _ _ _ _ => trivial) fun v _ => hf v

/-- Steps that come only in one of two cases, before others of which all is known. -/
theorem Yields.optional {c : Prop} [Decidable c] {next : Read β} (h : Yields next Q) :
    Yields (if c then r >>= fun _ => next else next) Q := by
  split
  · exact .after fun _ => h
  · exact h

/-- Steps that follow at once or after others, and in a third case are replaced. -/
theorem Yields.ofThree {c c' : Prop} [Decidable c] [Decidable c'] {next other : Read β}
    (h : Yields next Q) (hother : Yields other Q) :
    Yields (if c then r >>= fun _ => next else if c' then other else next) Q := by
  split
  · exact .after fun _ => h
  · split
    · exact hother
    · exact h

/-- One of two ways to the same steps. -/
theorem Yields.either {c : Prop} [Decidable c] {r' : Read α} {next : α → Read β}
    (h : ∀ v, Yields (next v) Q) : Yields (if c then r >>= next else r' >>= next) Q := by
  split
  · exact .after h
  · exact .after h

theorem yields_fail (cause : Cause) : Yields (fail cause) P := by
  rintro c _ _ ⟨⟩

theorem yields_failNext (cause : Cause) : Yields (failNext cause) P := by
  rintro c _ _ ⟨⟩

theorem yields_fail_bind (cause : Cause) (f : α → Read β) : Yields (fail cause >>= f) Q :=
  (yields_fail (P := fun _ => False) cause).bind fun _ h => h.elim

theorem yields_failNext_bind (cause : Cause) (f : α → Read β) : Yields (failNext cause >>= f) Q :=
  (yields_failNext (P := fun _ => False) cause).bind fun _ h => h.elim

theorem lt_of_digits {text : List Char} {p : Position} {n count : ℕ} (hn : n < 2 ^ 64) :
    (digits text p n count).1.1 < 2 ^ 64 := by
  induction text generalizing p n count with
  | nil => exact hn
  | cons c r ih =>
    unfold digits
    dsimp only
    split
    · split
      · exact hn
      · rename_i hfits
        exact ih (not_le.mp hfits)
    · exact hn

theorem yields_takeDigits {n : ℕ} (hn : n < 2 ^ 64) :
    Yields (takeDigits n) fun answer => answer.1 < 2 ^ 64 := by
  rintro c _ _ ⟨⟩
  exact lt_of_digits hn

theorem yields_floating {n : ℕ} (hn : n < 2 ^ 64) (isNegative : Bool) (e : ℤ) :
    Yields (floating isNegative n e) Number.InRange := by
  unfold floating
  split
  · exact yields_fail _
  · rename_i x hx
    obtain ⟨hfinite, hsmall⟩ := ofDecimal_whole hn
    have hx : x.IsFinite := isFinite_of_scale hfinite hsmall hx
    refine .pure (show Binary64.IsFinite _ from ?_)
    split
    · exact isFinite_neg.mpr hx
    · exact hx

theorem inRange_zero (isNegative : Bool) :
    (Number.floating (if isNegative then zero.neg else .zero)).InRange := by
  cases isNegative
  · exact show zero.IsFinite by decide
  · exact show zero.neg.IsFinite by decide

theorem yields_exponent {n : ℕ} (hn : n < 2 ^ 64) (isNegative : Bool) (start : ℤ) :
    Yields (exponent isNegative n start) Number.InRange := by
  unfold exponent
  refine .after fun _ => .after fun down => ?_
  dsimp only
  refine .optional (.after fun next => ?_)
  split
  · exact yields_fail_bind _ _
  · refine .optional (.after fun _ => .after fun _ => ?_)
    split
    · exact .optional (.pure (inRange_zero isNegative))
    · exact yields_floating hn isNegative _

theorem yields_fraction {n : ℕ} (hn : n < 2 ^ 64) (isNegative : Bool) (start : ℤ) :
    Yields (fraction isNegative n start) Number.InRange := by
  unfold fraction
  refine .after fun _ => (yields_takeDigits hn).bind fun taken hm => ?_
  obtain ⟨m, count, isFull⟩ := taken
  dsimp only at hm ⊢
  refine .ofThree (.after fun next => ?_) (.after fun next => ?_)
  · split
    · exact yields_exponent hm isNegative _
    · exact yields_exponent hm isNegative _
    · exact yields_floating hm isNegative _
  · split
    · exact yields_failNext_bind _ _
    · exact yields_failNext_bind _ _

theorem yields_afterWhole {n : ℕ} (hn : n < 2 ^ 64) (isNegative isFull : Bool) :
    Yields (afterWhole isNegative n isFull) Number.InRange := by
  have hwhole : Yields (if !isNegative then return .whole n
      else if n = 0 || n > Nat.pow 2 63 then return .floating (Binary64.ofDecimal n 0).neg
      else return .whole (-n) : Read Number) Number.InRange := by
    split
    · exact .pure ⟨by omega, by omega⟩
    · split
      · exact .pure (isFinite_neg.mpr (ofDecimal_whole hn).1)
      · rename_i hfits
        rw [Bool.or_eq_true, not_or, decide_eq_true_eq, decide_eq_true_eq, Nat.pow_eq] at hfits
        exact .pure ⟨by omega, by omega⟩
  unfold afterWhole
  dsimp only
  refine .either fun skipped => .after fun next => ?_
  split
  · exact yields_fraction hn isNegative _
  · exact yields_exponent hn isNegative _
  · exact yields_exponent hn isNegative _
  · split
    · exact yields_floating hn isNegative _
    · exact hwhole

/-- A number that is read fits into its 64 bits. -/
theorem yields_number (isNegative : Bool) : Yields (number isNegative) Number.InRange := by
  unfold number
  refine .after fun next => ?_
  split
  · exact yields_fail _
  · dsimp only
    exact .after fun _ => .after fun _ => .optional (yields_afterWhole (by norm_num) _ _)
  · refine .optional ((yields_takeDigits (by norm_num)).bind fun taken hm => ?_)
    obtain ⟨m, count, isFull⟩ := taken
    exact yields_afterWhole hm isNegative isFull

/-! ### Values -/

theorem Yields.enclosed {close : Read Unit} (hr : Yields r P) : Yields (enclosed r close) P := by
  intro c v c' h
  unfold Read.enclosed at h
  dsimp only at h
  split at h
  · rename_i w d heq
    split at h
    · cases h
      exact hr c v d heq
    · cases h
  · split at h <;> cases h

theorem yields_elements {value : Read Json} (hvalue : Yields value WellFormed) {fuel : ℕ}
    {isFirst : Bool} {before : List Json} (h : ∀ v ∈ before, v.WellFormed) :
    Yields (elements value fuel isFirst before) fun items => ∀ v ∈ items, v.WellFormed := by
  induction fuel generalizing isFirst before with
  | zero => exact .pure fun v hv => h v (List.mem_reverse.mp hv)
  | succ fuel ih =>
    unfold elements
    refine .after fun more => ?_
    split
    · exact .pure fun v hv => h v (List.mem_reverse.mp hv)
    · exact hvalue.bind fun v hv => ih (List.forall_mem_cons.mpr ⟨hv, h⟩)

theorem yields_members {value : Read Json} (hvalue : Yields value WellFormed) {fuel : ℕ}
    {isFirst : Bool} {before : List (String × Json)} (h : ∀ m ∈ before, m.2.WellFormed) :
    Yields (members value fuel isFirst before) fun ms => ∀ m ∈ ms, m.2.WellFormed := by
  induction fuel generalizing isFirst before with
  | zero => exact .pure fun m hm => h m (List.mem_reverse.mp hm)
  | succ fuel ih =>
    unfold members
    refine .after fun more => ?_
    split
    · exact .pure fun m hm => h m (List.mem_reverse.mp hm)
    · exact .after fun key => .after fun _ => hvalue.bind fun v hv =>
        ih (List.forall_mem_cons.mpr ⟨hv, h⟩)

end Read

/-- Putting a member at its place brings in nothing else. -/
theorem mem_placeMember {key : String} {value : Json} {ms : List (String × Json)}
    {m : String × Json} (h : m ∈ placeMember key value ms) : m = (key, value) ∨ m ∈ ms := by
  induction ms with
  | nil => exact .inl (List.mem_singleton.mp h)
  | cons first ms ih =>
    obtain ⟨k, v⟩ := first
    unfold placeMember at h
    split at h
    · exact List.mem_cons.mp h
    · split at h
      · exact (List.mem_cons.mp h).imp_right (List.mem_cons_of_mem _)
      · rcases List.mem_cons.mp h with rfl | h
        · exact .inr List.mem_cons_self
        · exact (ih h).imp_right (List.mem_cons_of_mem _)

theorem sorted_placeMember {key : String} {value : Json} {ms : List (String × Json)}
    (h : ms.Pairwise (·.1 < ·.1)) : (placeMember key value ms).Pairwise (·.1 < ·.1) := by
  induction ms with
  | nil => exact List.pairwise_singleton _ _
  | cons first ms ih =>
    obtain ⟨k, v⟩ := first
    obtain ⟨hfirst, hrest⟩ := List.pairwise_cons.mp h
    unfold placeMember
    split
    · rename_i hlt
      refine List.pairwise_cons.mpr ⟨fun m hm => ?_, h⟩
      rcases List.mem_cons.mp hm with rfl | hm
      · exact hlt
      · exact String.lt_trans hlt (hfirst m hm)
    · rename_i hnlt
      split
      · rename_i heq
        subst heq
        exact List.pairwise_cons.mpr ⟨hfirst, hrest⟩
      · rename_i hne
        refine List.pairwise_cons.mpr ⟨fun m hm => ?_, ih hrest⟩
        rcases mem_placeMember hm with rfl | hm
        · exact Mapping.lt_of_not_lt_of_ne hnlt hne
        · exact hfirst m hm

/-- An object of well-formed values is well-formed: its keys are in order, so none is there
twice. -/
theorem wellFormed_ofMembers {ms : List (String × Json)} (h : ∀ m ∈ ms, m.2.WellFormed) :
    (ofMembers ms).WellFormed := by
  have hall : ∀ placed : List (String × Json), placed.Pairwise (·.1 < ·.1) →
      (∀ m ∈ placed, m.2.WellFormed) →
      (Json.object (ms.foldl (fun placed m => placeMember m.1 m.2 placed) placed)).WellFormed := by
    induction ms with
    | nil =>
      intro placed hsorted hplaced
      refine .object _ (List.pairwise_map.mpr (hsorted.imp fun hlt heq => ?_)) hplaced
      exact String.lt_irrefl _ (heq ▸ hlt)
    | cons m ms ih =>
      obtain ⟨hm, hms⟩ := List.forall_mem_cons.mp h
      intro placed hsorted hplaced
      refine ih hms _ (sorted_placeMember hsorted) fun m' hm' => ?_
      rcases mem_placeMember hm' with rfl | hm'
      · exact hm
      · exact hplaced m' hm'
  exact hall [] List.Pairwise.nil (List.forall_mem_nil _)

namespace Read

/-- Every value that is read is well-formed. -/
theorem yields_value (depth : ℕ) : Yields (value depth) WellFormed := by
  induction depth with
  | zero => exact yields_failNext _
  | succ depth ih =>
    unfold value
    refine .after fun next => ?_
    split
    · exact yields_failNext _
    · exact .after fun _ => .pure .null
    · exact .after fun _ => .pure (.bool true)
    · exact .after fun _ => .pure (.bool false)
    · exact .after fun _ => (yields_number true).bind fun n hn => .pure (.number n hn)
    · exact .after fun _ => .after fun s => .pure (.string s)
    · refine .after fun _ => .after fun _ => ?_
      exact (yields_elements ih (List.forall_mem_nil _)).enclosed.bind fun items h =>
        .pure (.array items h)
    · refine .after fun _ => .after fun _ => ?_
      exact (yields_members ih (List.forall_mem_nil _)).enclosed.bind fun ms h =>
        .pure (wellFormed_ofMembers h)
    · split
      · exact (yields_number false).bind fun n hn => .pure (.number n hn)
      · exact yields_failNext _

end Read

/-- The value of every text that can be read is well-formed. -/
theorem read_wellFormed {text : String} {j : Json} (h : read text = .ok j) : j.WellFormed := by
  unfold read at h
  dsimp only at h
  split at h
  · rename_i v c heq
    cases h
    have hall : Read.Yields (do
        let v ← Read.value 128
        Read.finish
        return v) WellFormed :=
      (Read.yields_value 128).bind fun v hv => .after fun _ => .pure hv
    exact hall _ _ _ heq
  · cases h

end Json

end EnvInline
