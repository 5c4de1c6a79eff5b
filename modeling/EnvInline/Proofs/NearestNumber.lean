import EnvInline.Json.Value
import Mathlib.Algebra.Order.Field.Power
import Mathlib.Algebra.Order.Archimedean.Basic
import Mathlib.Algebra.Ring.Parity
import Mathlib.Tactic.FieldSimp
import Mathlib.Tactic.Linarith
import Mathlib.Tactic.NormNum
import Mathlib.Tactic.Positivity
import Mathlib.Tactic.Ring

/-!
# The nearest floating point number

A finite number has an exact rational value (`Binary64.value`), and the numbers with one scale are
the whole multiples of a power of two. A quotient is rounded at the scale where it has 53 bits; the
multiple nearest to it there is nearest among all finite numbers, since a number of a smaller scale
lies below every number of 53 bits (`Binary64.ofRatio_nearest`).
-/

namespace EnvInline

namespace Binary64

/-- The number is neither an infinity nor no number at all. -/
def IsFinite (x : Binary64) : Prop := x.exponentBits ≠ 2047

instance (x : Binary64) : Decidable x.IsFinite := inferInstanceAs (Decidable (_ ≠ _))

/-- The value of a finite number without its sign. -/
def magnitude (x : Binary64) : ℚ := x.significand * 2 ^ ((x.scale : ℤ) - 1074)

/-- The value of a finite number. -/
def value (x : Binary64) : ℚ := if x.isNegative then -x.magnitude else x.magnitude

/-- No finite number is nearer to a rational; of two that are equally near, this is the even one. -/
structure IsNearest (x : Binary64) (q : ℚ) : Prop where
  finite : x.IsFinite
  le_abs (y : Binary64) : y.IsFinite → |x.value - q| ≤ |y.value - q|
  even_of_eq (y : Binary64) : y.IsFinite → y.value ≠ x.value → |y.value - q| = |x.value - q| →
    Even x.fractionBits

/-! ### The fields of a number -/

theorem significand_lt (x : Binary64) : x.significand < 2 ^ 53 := by
  have : x.fractionBits < 2 ^ 52 := Nat.mod_lt _ (by decide)
  simp only [significand, Nat.pow_eq]
  split <;> omega

theorem magnitude_nonneg (x : Binary64) : 0 ≤ x.magnitude := by
  unfold magnitude
  positivity

theorem abs_value (x : Binary64) : |x.value| = x.magnitude := by
  unfold value
  split
  · rw [abs_neg, abs_of_nonneg x.magnitude_nonneg]
  · rw [abs_of_nonneg x.magnitude_nonneg]

theorem magnitude_eq_zero_iff {x : Binary64} : x.magnitude = 0 ↔ x.isZero := by
  have hpower : (2 : ℚ) ^ ((x.scale : ℤ) - 1074) ≠ 0 := by positivity
  rw [magnitude, mul_eq_zero, or_iff_left hpower, Nat.cast_eq_zero]
  unfold significand isZero
  split <;> simp_all

theorem value_pos_iff {x : Binary64} :
    0 < x.value ↔ x.isNegative = false ∧ x.isZero = false := by
  have hzero := @magnitude_eq_zero_iff x
  have hnonneg := x.magnitude_nonneg
  cases hsign : x.isNegative <;> cases hz : x.isZero <;> simp_all [value]
  exact lt_of_le_of_ne hnonneg (Ne.symm hzero)

theorem value_zero : zero.value = 0 :=
  abs_eq_zero.mp (zero.abs_value.trans (magnitude_eq_zero_iff.mpr (by decide)))

/-- A finite number is nearest to its own value. -/
theorem IsNearest.of_finite {x : Binary64} (h : x.IsFinite) : x.IsNearest x.value := by
  refine ⟨h, fun y _ => ?_, fun y _ hne heq => absurd ?_ hne⟩
  · rw [sub_self, abs_zero]
    exact abs_nonneg _
  · rwa [sub_self, abs_zero, abs_eq_zero, sub_eq_zero] at heq

/-! ### The sign -/

theorem toNat_neg (x : Binary64) :
    x.neg.bits.toNat =
      if x.bits.toNat < 2 ^ 63 then x.bits.toNat + 2 ^ 63 else x.bits.toNat - 2 ^ 63 := by
  have hxor : x.neg.bits.toNat = x.bits.toNat ^^^ 2 ^ 63 := by
    rw [neg, UInt64.toNat_xor]
    rfl
  have hbits : x.bits.toNat < 2 ^ 64 := x.bits.toNat_lt
  have hlow : (x.bits.toNat ^^^ 2 ^ 63) % 2 ^ 63 = x.bits.toNat % 2 ^ 63 := by
    rw [Nat.xor_mod_two_pow, Nat.mod_self, Nat.xor_zero]
  have hhigh : (x.bits.toNat ^^^ 2 ^ 63) / 2 ^ 63 = x.bits.toNat / 2 ^ 63 ^^^ 1 := by
    rw [Nat.xor_div_two_pow, Nat.div_self (by positivity)]
  rw [hxor]
  split
  · have : x.bits.toNat / 2 ^ 63 = 0 := by omega
    rw [this, Nat.zero_xor] at hhigh
    omega
  · have : x.bits.toNat / 2 ^ 63 = 1 := by omega
    rw [this, Nat.xor_self] at hhigh
    omega

@[simp] theorem exponentBits_neg (x : Binary64) : x.neg.exponentBits = x.exponentBits := by
  have := x.bits.toNat_lt
  simp only [exponentBits, toNat_neg, Nat.pow_eq]
  split <;> omega

@[simp] theorem fractionBits_neg (x : Binary64) : x.neg.fractionBits = x.fractionBits := by
  have := x.bits.toNat_lt
  simp only [fractionBits, toNat_neg, Nat.pow_eq]
  split <;> omega

@[simp] theorem isNegative_neg (x : Binary64) : x.neg.isNegative = !x.isNegative := by
  have := x.bits.toNat_lt
  rw [Bool.eq_not_iff, Ne, Bool.eq_iff_iff]
  simp only [isNegative, toNat_neg, Nat.pow_eq, beq_iff_eq]
  split <;> omega

@[simp] theorem isZero_neg (x : Binary64) : x.neg.isZero = x.isZero := by simp [isZero]

@[simp] theorem isFinite_neg {x : Binary64} : x.neg.IsFinite ↔ x.IsFinite := by simp [IsFinite]

@[simp] theorem magnitude_neg (x : Binary64) : x.neg.magnitude = x.magnitude := by
  simp [magnitude, significand, scale]

@[simp] theorem value_neg (x : Binary64) : x.neg.value = -x.value := by
  cases h : x.isNegative <;> simp [value, h]

@[simp] theorem neg_involutive (x : Binary64) : x.neg.neg = x := by
  have := x.bits.toNat_lt
  have h : x.neg.neg.bits.toNat = x.bits.toNat := by
    rw [toNat_neg, toNat_neg]
    split <;> split <;> omega
  exact congrArg mk (UInt64.toNat_inj.mp h)

/-- Rounding is symmetric about zero. -/
theorem IsNearest.neg {x : Binary64} {q : ℚ} (h : x.IsNearest q) : x.neg.IsNearest (-q) := by
  have hdist (y : Binary64) : |y.value - -q| = |y.neg.value - q| := by
    rw [value_neg, ← abs_neg]
    ring_nf
  refine ⟨isFinite_neg.mpr h.finite, fun y hy => ?_, fun y hy hne heq => ?_⟩
  · rw [hdist, hdist, neg_involutive]
    exact h.le_abs y.neg (isFinite_neg.mpr hy)
  · rw [hdist, hdist, neg_involutive] at heq
    rw [fractionBits_neg]
    refine h.even_of_eq y.neg (isFinite_neg.mpr hy) (fun hv => hne ?_) heq
    rw [value_neg, ← hv, value_neg, neg_neg]

/-! ### Grids

The finite numbers of one scale lie on a grid. The unit at scale `s` is `2 ^ (s - 1074)`.
-/

/-- The distance of two neighbours at a scale. -/
def unit (s : ℕ) : ℚ := 2 ^ ((s : ℤ) - 1074)

theorem unit_pos (s : ℕ) : 0 < unit s := zpow_pos (by norm_num) _

/-- A unit is a whole multiple of every smaller one. -/
theorem unit_add (s k : ℕ) : unit (s + k) = 2 ^ k * unit s := by
  unfold unit
  rw [← zpow_natCast (2 : ℚ) k, ← zpow_add₀ (by norm_num)]
  congr 1
  push_cast
  ring

theorem scale_lt_of_unit_lt {s : ℕ} {e : ℤ} (h : unit s < 2 ^ e) : (s : ℤ) - 1074 < e :=
  (zpow_lt_zpow_iff_right₀ one_lt_two).mp h

theorem magnitude_eq (x : Binary64) : x.magnitude = x.significand * unit x.scale := rfl

/-- A number whose scale is not below that of a grid lies on the grid. -/
theorem value_eq_mul_unit {x : Binary64} {s : ℕ} (h : s ≤ x.scale) :
    ∃ k : ℤ, x.value = k * unit s := by
  obtain ⟨d, hd⟩ := Nat.exists_eq_add_of_le h
  have hmag : x.magnitude = ((x.significand * 2 ^ d : ℕ) : ℤ) * unit s := by
    rw [magnitude_eq, hd, unit_add]
    push_cast
    ring
  unfold value
  split
  · exact ⟨-(x.significand * 2 ^ d : ℕ), by rw [hmag]; push_cast; ring⟩
  · exact ⟨(x.significand * 2 ^ d : ℕ), hmag⟩

/-- A number whose scale is below that of a grid lies below the 53 bit numbers of the grid. -/
theorem value_lt_of_scale_lt {x : Binary64} {s : ℕ} (h : x.scale < s) :
    x.value < 2 ^ 52 * unit s := by
  obtain ⟨d, rfl⟩ := Nat.exists_eq_add_of_lt h
  have hsig : (x.significand : ℚ) < 2 ^ 53 := by exact_mod_cast x.significand_lt
  have hpow : (2 : ℚ) ≤ 2 ^ (d + 1) := le_self_pow₀ (by norm_num) (by omega)
  calc x.value ≤ x.magnitude := x.abs_value ▸ le_abs_self _
    _ = x.significand * unit x.scale := x.magnitude_eq
    _ < 2 ^ 53 * unit x.scale := mul_lt_mul_of_pos_right hsig (unit_pos _)
    _ = 2 ^ 52 * (2 * unit x.scale) := by ring
    _ ≤ 2 ^ 52 * (2 ^ (d + 1) * unit x.scale) := by
        have := (unit_pos x.scale).le
        gcongr
    _ = 2 ^ 52 * unit (x.scale + d + 1) := by rw [add_assoc, unit_add]

/-- A whole number at most one half away is nearest, and others are as near only at one half. -/
theorem abs_sub_le_of_le_half {m : ℤ} (k : ℤ) {p : ℚ} (h : |(m : ℚ) - p| ≤ 1 / 2) :
    |(m : ℚ) - p| ≤ |(k : ℚ) - p| ∧
      (k ≠ m → |(k : ℚ) - p| = |(m : ℚ) - p| → |(m : ℚ) - p| = 1 / 2) := by
  by_cases hk : k = m
  · exact ⟨by rw [hk], fun hne => absurd hk hne⟩
  · have hone : (1 : ℚ) ≤ |(k : ℚ) - m| := by exact_mod_cast Int.one_le_abs (sub_ne_zero.mpr hk)
    have htriangle := abs_sub_le (k : ℚ) p m
    rw [abs_sub_comm p] at htriangle
    exact ⟨by linarith, fun _ heq => by linarith⟩

/-- On the grid where a rational has 53 bits, rounding to a whole multiple gives the nearest of all
finite numbers. -/
theorem isNearest_of_grid {x : Binary64} {m s : ℕ} {p : ℚ} (hfinite : x.IsFinite)
    (hvalue : x.value = m * unit s) (hhalf : |(m : ℚ) - p| ≤ 1 / 2)
    (heven : |(m : ℚ) - p| = 1 / 2 → Even x.fractionBits) (hbits : s = 0 ∨ 2 ^ 52 ≤ p) :
    x.IsNearest (p * unit s) := by
  have hunit := unit_pos s
  have hdist (r : ℚ) : |r * unit s - p * unit s| = |r - p| * unit s := by
    rw [← sub_mul, abs_mul, abs_of_pos hunit]
  have hwhole (k : ℤ) := abs_sub_le_of_le_half (m := (m : ℤ)) k hhalf
  -- off the grid another number is strictly farther away than the grid point `2 ^ 52`
  have hoff (y : Binary64) (hy : y.scale < s) :
      |x.value - p * unit s| < |y.value - p * unit s| := by
    have hp : 2 ^ 52 ≤ p := hbits.resolve_left (by omega)
    have hlow : |((2 ^ 52 : ℤ) : ℚ) - p| = p - 2 ^ 52 := by
      rw [Int.cast_pow, Int.cast_ofNat, abs_sub_comm, abs_of_nonneg (sub_nonneg.mpr hp)]
    calc |x.value - p * unit s| = |(m : ℚ) - p| * unit s := by rw [hvalue, hdist]
      _ ≤ (p - 2 ^ 52) * unit s := by
          have := (hwhole (2 ^ 52)).1
          rw [hlow] at this
          exact mul_le_mul_of_nonneg_right this hunit.le
      _ = p * unit s - 2 ^ 52 * unit s := sub_mul _ _ _
      _ < p * unit s - y.value := sub_lt_sub_left (value_lt_of_scale_lt hy) _
      _ ≤ |y.value - p * unit s| := by rw [abs_sub_comm]; exact le_abs_self _
  refine ⟨hfinite, fun y _ => ?_, fun y _ hne heq => ?_⟩
  · rcases lt_or_ge y.scale s with hy | hy
    · exact (hoff y hy).le
    · obtain ⟨k, hk⟩ := value_eq_mul_unit hy
      rw [hvalue, hk, hdist, hdist]
      exact mul_le_mul_of_nonneg_right (hwhole k).1 hunit.le
  · rcases lt_or_ge y.scale s with hy | hy
    · exact absurd heq (hoff y hy).ne'
    · obtain ⟨k, hk⟩ := value_eq_mul_unit hy
      rw [hvalue, hk] at hne
      rw [hvalue, hk, hdist, hdist] at heq
      exact heven ((hwhole k).2 (by rintro rfl; exact hne rfl) (mul_right_cancel₀ hunit.ne' heq))

/-! ### Rounding a quotient -/

/-- Rounding to a whole number is off by one half at most, and then the result is even. -/
theorem roundDiv_spec (num : ℕ) {den : ℕ} (hden : 0 < den) :
    |(roundDiv num den : ℚ) - num / den| ≤ 1 / 2 ∧
      (|(roundDiv num den : ℚ) - num / den| = 1 / 2 → Even (roundDiv num den)) := by
  have hdenQ : (0 : ℚ) < den := by exact_mod_cast hden
  have hquotient : (num : ℚ) / den = (num / den : ℕ) + ((num % den : ℕ) : ℚ) / den := by
    have h : (num : ℚ) = den * (num / den : ℕ) + (num % den : ℕ) := by
      exact_mod_cast (Nat.div_add_mod num den).symm
    rw [h]
    field_simp
  have hmod : ((num % den : ℕ) : ℚ) / den < 1 := by
    rw [div_lt_one hdenQ]
    exact_mod_cast Nat.mod_lt num hden
  have hmod_nonneg : (0 : ℚ) ≤ ((num % den : ℕ) : ℚ) / den := by positivity
  have hbelow : ((num % den : ℕ) : ℚ) / den < 1 / 2 ↔ 2 * (num % den) < den := by
    rw [div_lt_div_iff₀ hdenQ (by norm_num), one_mul, mul_comm]
    exact_mod_cast Iff.rfl
  have habove : 1 / 2 < ((num % den : ℕ) : ℚ) / den ↔ den < 2 * (num % den) := by
    rw [div_lt_div_iff₀ (by norm_num) hdenQ, one_mul, mul_comm]
    exact_mod_cast Iff.rfl
  rw [hquotient]
  unfold roundDiv
  generalize ((num % den : ℕ) : ℚ) / den = t at *
  dsimp only
  rcases lt_trichotomy (2 * (num % den)) den with h | h | h
  · have ht := hbelow.mpr h
    rw [if_pos h, sub_add_cancel_left, abs_neg, abs_of_nonneg hmod_nonneg]
    exact ⟨ht.le, fun heq => absurd heq ht.ne⟩
  · have ht : t = 1 / 2 :=
      le_antisymm (not_lt.mp fun hlt => h.not_gt (habove.mp hlt))
        (not_lt.mp fun hlt => h.not_lt (hbelow.mp hlt))
    rw [if_neg h.not_lt, if_neg h.not_gt]
    refine ⟨?_, fun _ => Nat.even_iff.mpr (by omega)⟩
    rcases Nat.mod_two_eq_zero_or_one (num / den) with hpar | hpar
    all_goals
      rw [hpar, ht]
      push_cast
      rw [abs_le]
      constructor <;> linarith
  · have ht := habove.mpr h
    rw [if_neg h.not_gt, if_pos h, Nat.cast_add_one, add_sub_add_left_eq_sub,
      abs_of_nonneg (by linarith)]
    exact ⟨by linarith, fun heq => by linarith⟩

/-- The quotient in units of a scale, as `ofRatio` computes it. -/
def inUnits (num den s : ℕ) : ℕ × ℕ :=
  if s ≤ 1074 then (num * Nat.pow 2 (1074 - s), den) else (num, den * Nat.pow 2 (s - 1074))

theorem inUnits_pos {den : ℕ} (num s : ℕ) (hden : 0 < den) : 0 < (inUnits num den s).2 := by
  unfold inUnits
  split
  · exact hden
  · exact Nat.mul_pos hden (Nat.pow_pos (by norm_num))

theorem div_inUnits (num den s : ℕ) :
    ((inUnits num den s).1 : ℚ) / (inUnits num den s).2 = num / den / unit s := by
  unfold inUnits unit
  split
  · rename_i h
    have : ((s : ℤ) - 1074) = -((1074 - s : ℕ) : ℤ) := by omega
    rw [this, zpow_neg, zpow_natCast, div_inv_eq_mul, Nat.pow_eq, Nat.cast_mul, Nat.cast_pow,
      Nat.cast_ofNat, div_mul_eq_mul_div]
  · rename_i h
    have : ((s : ℤ) - 1074) = ((s - 1074 : ℕ) : ℤ) := by omega
    rw [this, zpow_natCast, Nat.pow_eq, Nat.cast_mul, Nat.cast_pow, Nat.cast_ofNat, div_div]

theorem ofRatio_of_pos {num : ℕ} (hnum : 0 < num) (den : ℕ) :
    ofRatio num den =
      let s₀ := ((num.log2 : ℤ) - den.log2 - 53 + 1074).toNat
      let s :=
        if (inUnits num den s₀).1 / (inUnits num den s₀).2 < Nat.pow 2 53 then s₀ else s₀ + 1
      let m := roundDiv (inUnits num den s).1 (inUnits num den s).2
      if m < Nat.pow 2 53 then ofScaled m s else ofScaled (Nat.pow 2 52) (s + 1) := by
  unfold ofRatio
  rw [if_neg hnum.ne']
  rfl

/-- The logarithms of a numerator and a denominator give the quotient up to a factor of four. -/
theorem log2_bounds {num den : ℕ} (hnum : 0 < num) (hden : 0 < den) :
    (2 : ℚ) ^ ((num.log2 : ℤ) - den.log2 - 1) ≤ num / den ∧
      (num : ℚ) / den < 2 ^ ((num.log2 : ℤ) - den.log2 + 1) := by
  have hdenQ : (0 : ℚ) < den := by exact_mod_cast hden
  have hlow {n : ℕ} (h : 0 < n) : (2 : ℚ) ^ (n.log2 : ℤ) ≤ n := by
    exact_mod_cast Nat.log2_self_le h.ne'
  have hhigh (n : ℕ) : (n : ℚ) < 2 ^ ((n.log2 : ℤ) + 1) := by exact_mod_cast Nat.lt_log2_self
  have hsplit (a b : ℤ) : (2 : ℚ) ^ a = 2 ^ (a - b) * 2 ^ b := by
    rw [← zpow_add₀ two_ne_zero, sub_add_cancel]
  constructor
  · rw [le_div_iff₀ hdenQ]
    calc (2 : ℚ) ^ ((num.log2 : ℤ) - den.log2 - 1) * den
        ≤ 2 ^ ((num.log2 : ℤ) - den.log2 - 1) * 2 ^ ((den.log2 : ℤ) + 1) := by
          have := (hhigh den).le
          gcongr
      _ = 2 ^ (num.log2 : ℤ) := by rw [hsplit num.log2 (den.log2 + 1)]; congr 2; ring
      _ ≤ num := hlow hnum
  · rw [div_lt_iff₀ hdenQ]
    calc (num : ℚ) < 2 ^ ((num.log2 : ℤ) + 1) := hhigh num
      _ = 2 ^ ((num.log2 : ℤ) - den.log2 + 1) * 2 ^ (den.log2 : ℤ) := by
          rw [hsplit (num.log2 + 1) den.log2]; congr 2; ring
      _ ≤ 2 ^ ((num.log2 : ℤ) - den.log2 + 1) * den := by
          have := hlow hden
          gcongr

/-- The quotient has 53 bits at the scale that it is rounded at, or less at the lowest scale. -/
theorem ofRatio_eq {num den : ℕ} (hnum : 0 < num) (hden : 0 < den) :
    ∃ s, ofRatio num den =
        (let m := roundDiv (inUnits num den s).1 (inUnits num den s).2
         if m < Nat.pow 2 53 then ofScaled m s else ofScaled (Nat.pow 2 52) (s + 1)) ∧
      (num : ℚ) / den / unit s < 2 ^ 53 ∧ (s = 0 ∨ 2 ^ 52 ≤ (num : ℚ) / den / unit s) := by
  obtain ⟨hlow, hhigh⟩ := log2_bounds hnum hden
  generalize hs₀ : ((num.log2 : ℤ) - den.log2 - 53 + 1074).toNat = s₀
  have hguess_high : (num : ℚ) / den / unit s₀ < 2 ^ 54 := by
    rw [div_lt_iff₀ (unit_pos _)]
    refine hhigh.trans_le ?_
    rw [unit, ← zpow_natCast, ← zpow_add₀ two_ne_zero]
    exact zpow_le_zpow_right₀ one_le_two (by push_cast; omega)
  have hguess_low : s₀ = 0 ∨ 2 ^ 52 ≤ (num : ℚ) / den / unit s₀ := by
    rcases Nat.eq_zero_or_pos s₀ with h | h
    · exact .inl h
    · refine .inr ?_
      rw [le_div_iff₀ (unit_pos _)]
      refine le_trans (le_of_eq ?_) hlow
      rw [unit, ← zpow_natCast, ← zpow_add₀ two_ne_zero]
      congr 1
      push_cast
      omega
  have hfloor : (inUnits num den s₀).1 / (inUnits num den s₀).2 < Nat.pow 2 53 ↔
      (num : ℚ) / den / unit s₀ < 2 ^ 53 := by
    have hpos := inUnits_pos num s₀ hden
    rw [← div_inUnits, div_lt_iff₀ (by exact_mod_cast hpos), Nat.div_lt_iff_lt_mul hpos]
    exact_mod_cast Iff.rfl
  rw [ofRatio_of_pos hnum, hs₀]
  by_cases h : (num : ℚ) / den / unit s₀ < 2 ^ 53
  · refine ⟨s₀, ?_, h, hguess_low⟩
    dsimp only
    rw [if_pos (hfloor.mpr h)]
  · have hhalved : (num : ℚ) / den / unit (s₀ + 1) = num / den / unit s₀ / 2 := by
      rw [unit_add, pow_one, mul_comm, div_div _ (unit s₀)]
    refine ⟨s₀ + 1, ?_, ?_, .inr ?_⟩
    · dsimp only
      rw [if_neg (hfloor.not.mpr h)]
    · rw [hhalved]
      linarith
    · rw [hhalved]
      linarith

theorem toNat_ofScaled {m s : ℕ} (hm : m < 2 ^ 53) (hs : s < 2046) :
    (ofScaled m s).bits.toNat = if m < 2 ^ 52 then m else (s + 1) * 2 ^ 52 + (m - 2 ^ 52) := by
  simp only [ofScaled, Nat.pow_eq]
  split
  · exact UInt64.toNat_ofNat_of_lt' (show m < 2 ^ 64 by omega)
  · rw [if_neg (by omega)]
    exact UInt64.toNat_ofNat_of_lt' (show _ < 2 ^ 64 by omega)

/-- A number put together from a significand and a scale has these as its parts. -/
theorem ofScaled_spec {m s : ℕ} (hm : m < 2 ^ 53) (hs : s < 2046) (hbits : s = 0 ∨ 2 ^ 52 ≤ m) :
    (ofScaled m s).IsFinite ∧ (ofScaled m s).value = m * unit s ∧
      (ofScaled m s).fractionBits = m % 2 ^ 52 := by
  have hnat := toNat_ofScaled hm hs
  have hexponent : (ofScaled m s).exponentBits = if m < 2 ^ 52 then 0 else s + 1 := by
    simp only [exponentBits, hnat, Nat.pow_eq]
    split <;> omega
  have hfraction : (ofScaled m s).fractionBits = m % 2 ^ 52 := by
    simp only [fractionBits, hnat, Nat.pow_eq]
    split <;> omega
  have hsign : (ofScaled m s).isNegative = false := by
    simp only [isNegative, hnat, Nat.pow_eq, beq_eq_false_iff_ne]
    split <;> omega
  refine ⟨?_, ?_, hfraction⟩
  · rw [IsFinite, hexponent]
    split <;> omega
  · have hsignificand : (ofScaled m s).significand = m := by
      simp only [significand, hexponent, hfraction, Nat.pow_eq]
      by_cases h : m < 2 ^ 52
      · rw [if_pos h, if_pos rfl, Nat.mod_eq_of_lt h]
      · rw [if_neg h, if_neg (Nat.succ_ne_zero s)]
        omega
    have hscale : (ofScaled m s).scale = s := by
      rw [scale, hexponent]
      split <;> omega
    rw [value, hsign, if_neg Bool.false_ne_true, magnitude_eq, hsignificand, hscale]

/-- The least whole number that is rounded to infinity: the largest finite number and half the
distance that the next one would have. -/
def overflow : ℕ := (2 ^ 54 - 1) * 2 ^ 970

/-- A rational of 53 bits that does not overflow lies at a finite scale, and below the last one if
it is rounded up to the next. -/
theorem scale_lt_of_lt_overflow {p : ℚ} {s : ℕ} (h : p * unit s < overflow) :
    (2 ^ 52 ≤ p → s < 2046) ∧ (2 ^ 53 - 1 / 2 ≤ p → s < 2045) := by
  have hoverflow : p * unit s < (2 ^ 54 - 1) * 2 ^ (970 : ℤ) := by
    rwa [overflow, Nat.cast_mul, Nat.cast_pow, Nat.cast_sub (by norm_num)] at h
  have htop : (0 : ℚ) < 2 ^ (970 : ℤ) := zpow_pos two_pos _
  constructor
  · intro hp
    have hle := mul_le_mul_of_nonneg_right hp (unit_pos s).le
    have hunit : unit s < 2 ^ ((970 : ℤ) + 2) := by
      rw [zpow_add₀ two_ne_zero]
      generalize (2 : ℚ) ^ (970 : ℤ) = top at *
      linarith
    have := scale_lt_of_unit_lt hunit
    omega
  · intro hp
    have hle := mul_le_mul_of_nonneg_right hp (unit_pos s).le
    have hunit : unit s < 2 ^ ((970 : ℤ) + 1) := by
      rw [zpow_add₀ two_ne_zero]
      generalize (2 : ℚ) ^ (970 : ℤ) = top at *
      linarith
    have := scale_lt_of_unit_lt hunit
    omega

/-- A quotient that does not overflow is rounded to the nearest number. -/
theorem ofRatio_nearest {num den : ℕ} (hden : 0 < den) (hsmall : num < overflow * den) :
    (ofRatio num den).IsNearest (num / den) := by
  rcases Nat.eq_zero_or_pos num with rfl | hnum
  · rw [ofRatio, if_pos rfl, Nat.cast_zero, zero_div]
    exact value_zero ▸ IsNearest.of_finite (by decide)
  obtain ⟨s, heq, hlt, hbits⟩ := ofRatio_eq hnum hden
  obtain ⟨hhalf, heven⟩ := roundDiv_spec (inUnits num den s).1 (inUnits_pos num s hden)
  rw [div_inUnits] at hhalf heven
  rw [heq]
  generalize roundDiv (inUnits num den s).1 (inUnits num den s).2 = m at *
  generalize hp : (num : ℚ) / den / unit s = p at *
  have hpq : (num : ℚ) / den = p * unit s := by rw [← hp, div_mul_cancel₀ _ (unit_pos s).ne']
  rw [hpq]
  obtain ⟨hhalf_low, hhalf_high⟩ := abs_le.mp hhalf
  have hm : m ≤ 2 ^ 53 := by
    have : (m : ℚ) < (2 ^ 53 + 1 : ℕ) := by push_cast; linarith
    exact Nat.lt_succ_iff.mp (by exact_mod_cast this)
  have hmbits : s = 0 ∨ 2 ^ 52 ≤ m := hbits.imp_right fun h => by
    have : ((2 ^ 52 : ℕ) : ℚ) < (m + 1 : ℕ) := by push_cast; linarith
    exact Nat.lt_succ_iff.mp (by exact_mod_cast this)
  have hoverflow : p * unit s < overflow := by
    rw [← hpq, div_lt_iff₀ (by exact_mod_cast hden)]
    exact_mod_cast hsmall
  obtain ⟨hlast, hnext⟩ := scale_lt_of_lt_overflow hoverflow
  have hs : s < 2046 := hbits.elim (fun h => h ▸ by norm_num) hlast
  dsimp only
  split
  · rename_i hlt'
    obtain ⟨hfinite, hvalue, hfraction⟩ := ofScaled_spec hlt' hs hmbits
    refine isNearest_of_grid hfinite hvalue hhalf (fun h => ?_) hbits
    have := Nat.even_iff.mp (heven h)
    rw [hfraction, Nat.even_iff]
    omega
  · rename_i hge
    -- rounding up to `2 ^ 53` gives the first number of the next scale
    obtain rfl : m = 2 ^ 53 := le_antisymm hm (not_lt.mp hge)
    have hs' : s + 1 < 2046 := Nat.succ_lt_succ (hnext (by push_cast at hhalf_high; linarith))
    obtain ⟨hfinite, hvalue, hfraction⟩ :=
      ofScaled_spec (show 2 ^ 52 < 2 ^ 53 by norm_num) hs' (.inr le_rfl)
    refine isNearest_of_grid hfinite ?_ hhalf (fun _ => ?_) hbits
    · rw [Nat.pow_eq, hvalue, unit_add]
      push_cast
      ring
    · rw [Nat.pow_eq, hfraction, Nat.mod_self]
      exact Even.zero

/-- A whole decimal that does not overflow is read to the nearest number. -/
theorem ofDecimal_nearest {n e : ℕ} (he : e ≤ 400) (h : n * 10 ^ e < overflow) :
    (ofDecimal n e).IsNearest (n * 10 ^ e : ℕ) := by
  rcases Nat.eq_zero_or_pos n with rfl | hn
  · rw [ofDecimal, if_pos rfl, Nat.zero_mul, Nat.cast_zero]
    exact value_zero ▸ IsNearest.of_finite (by decide)
  · have heq : ofDecimal n e = ofRatio (n * 10 ^ e) 1 := by
      rw [ofDecimal, if_neg hn.ne', if_neg (by omega), if_neg (by omega), if_pos (by omega)]
      rfl
    have hsmall : n * 10 ^ e < overflow * 1 := by rwa [Nat.mul_one]
    have := ofRatio_nearest Nat.one_pos hsmall
    rwa [Nat.cast_one, div_one, ← heq] at this

/-- A whole number of 64 bits is read to the nearest number. -/
theorem ofDecimal_whole_nearest {n : ℕ} (h : n < 2 ^ 64) : (ofDecimal n 0).IsNearest n := by
  have hsmall : n * 10 ^ 0 < overflow := by
    rw [pow_zero, Nat.mul_one]
    exact h.trans (by decide +kernel)
  have hnearest := ofDecimal_nearest (Nat.zero_le 400) hsmall
  rwa [pow_zero, Nat.mul_one] at hnearest

end Binary64

namespace Json.Number

/-- The value of a number. -/
def value : Json.Number → ℚ
  | .whole v => v
  | .floating x => x.value

/-- A whole number fits into 64 bits, with a sign or without; any other number is finite. -/
def InRange : Json.Number → Prop
  | .whole v => -2 ^ 63 ≤ v ∧ v < 2 ^ 64
  | .floating x => x.IsFinite

/-- A number of JSON becomes the nearest floating point number. -/
theorem toBinary64_nearest {n : Json.Number} (h : n.InRange) : n.toBinary64.IsNearest n.value := by
  cases n with
  | floating x => exact .of_finite h
  | whole v =>
    obtain ⟨hlow, hhigh⟩ : -2 ^ 63 ≤ v ∧ v < 2 ^ 64 := h
    have hnearest := Binary64.ofDecimal_whole_nearest (show v.natAbs < 2 ^ 64 by omega)
    simp only [toBinary64, value]
    split
    · have hvalue : (v : ℚ) = -(v.natAbs : ℚ) := by
        rw [Nat.cast_natAbs, abs_of_neg ‹_›]
        push_cast
        ring
      exact hvalue ▸ hnearest.neg
    · have hvalue : (v : ℚ) = (v.natAbs : ℚ) := by
        rw [Nat.cast_natAbs, abs_of_nonneg (not_lt.mp ‹_›)]
      exact hvalue ▸ hnearest

end Json.Number

end EnvInline
