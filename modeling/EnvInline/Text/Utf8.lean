/-!
# UTF-8

A text as bytes and back. Bytes that are no text are refused by `Utf8.decode?`; `Utf8.decodeLossy`
puts U+FFFD in the place of each longest run of bytes that begins a character and does not end it,
and of each byte that cannot begin one. The bytes of a text stand for it (`decodeLossy_encode`).
-/

namespace EnvInline.Text.Utf8

/-- A byte that is not the first one of a character, from six bits. -/
def tail (n : Nat) : UInt8 := UInt8.ofNat (0x80 + n % 64)

/-- The bytes of a character. -/
def encodeChar (c : Char) : List UInt8 :=
  let n := c.toNat
  if n < 0x80 then [UInt8.ofNat n]
  else if n < 0x800 then [UInt8.ofNat (0xC0 + n / 64), tail n]
  else if n < 0x10000 then [UInt8.ofNat (0xE0 + n / 4096), tail (n / 64), tail n]
  else [UInt8.ofNat (0xF0 + n / 262144), tail (n / 4096), tail (n / 64), tail n]

/-- The bytes of a text. -/
def encode (s : List Char) : List UInt8 := s.flatMap encodeChar

/-- What the bytes that may follow a first byte stand for: how many there are, and the bounds of
the one right behind it. -/
structure Lead where
  value : Nat
  tails : Nat
  low : Nat
  high : Nat
deriving DecidableEq, Repr

/-- What a first byte says. The bounds leave out long forms of small characters, surrogates, and
what lies above U+10FFFF. -/
def lead? (b : UInt8) : Option Lead :=
  let n := b.toNat
  if n < 0x80 then some ⟨n, 0, 0, 0⟩
  else if n < 0xC2 then none
  else if n < 0xE0 then some ⟨n - 0xC0, 1, 0x80, 0xBF⟩
  else if n < 0xF0 then
    some ⟨n - 0xE0, 2, if n = 0xE0 then 0xA0 else 0x80, if n = 0xED then 0x9F else 0xBF⟩
  else if n < 0xF5 then
    some ⟨n - 0xF0, 3, if n = 0xF0 then 0x90 else 0x80, if n = 0xF4 then 0x8F else 0xBF⟩
  else none

/-- Takes the bytes that are still wanted, as long as they are within their bounds; gives the
character, if it is complete, and how many bytes were taken. -/
def takeTails : Nat → Nat → Nat → Nat → List UInt8 → Option Char × Nat
  | value, 0, _, _, _ => (some (Char.ofNat value), 0)
  | _, _ + 1, _, _, [] => (none, 0)
  | value, k + 1, low, high, b :: r =>
    if low ≤ b.toNat ∧ b.toNat ≤ high then
      let (c?, n) := takeTails (value * 64 + (b.toNat - 0x80)) k 0x80 0xBF r
      (c?, n + 1)
    else (none, 0)

/-- The character that starts with a byte, if there is one, and how many of the bytes behind it
belong to it. -/
def takeChar (b : UInt8) (rest : List UInt8) : Option Char × Nat :=
  match lead? b with
  | none => (none, 0)
  | some l => takeTails l.value l.tails l.low l.high rest

/-- The text that some bytes stand for. -/
def decode? : List UInt8 → Option (List Char)
  | [] => some []
  | b :: r =>
    match takeChar b r with
    | (none, _) => none
    | (some c, n) => (decode? (r.drop n)).map (c :: ·)
termination_by bytes => bytes.length
decreasing_by simp only [List.length_drop, List.length_cons]; omega

/-- The text that some bytes stand for, with U+FFFD for what is no character. -/
def decodeLossy : List UInt8 → List Char
  | [] => []
  | b :: r =>
    let (c?, n) := takeChar b r
    c?.getD '\uFFFD' :: decodeLossy (r.drop n)
termination_by bytes => bytes.length
decreasing_by simp only [List.length_drop, List.length_cons]; omega

/-- The bytes of a string. -/
def ofString (s : String) : List UInt8 := encode s.toList

/-- The string that some bytes stand for. -/
def toString? (bytes : List UInt8) : Option String := (decode? bytes).map String.ofList

/-- The string that some bytes stand for, with U+FFFD for what is no character. -/
def toStringLossy (bytes : List UInt8) : String := String.ofList (decodeLossy bytes)

/-! ### Back and forth -/

theorem toNat_ofNat_of_lt {n : Nat} (h : n < 256) : (UInt8.ofNat n).toNat = n := by
  rw [UInt8.toNat_ofNat', Nat.mod_eq_of_lt h]

theorem lead?_one {n : Nat} (h : n < 0x80) : lead? (UInt8.ofNat n) = some ⟨n, 0, 0, 0⟩ := by
  unfold lead?
  rw [toNat_ofNat_of_lt (by omega), if_pos h]

theorem lead?_two {k : Nat} (hlow : 2 ≤ k) (hhigh : k < 32) :
    lead? (UInt8.ofNat (0xC0 + k)) = some ⟨k, 1, 0x80, 0xBF⟩ := by
  unfold lead?
  rw [toNat_ofNat_of_lt (by omega), if_neg (by omega), if_neg (by omega), if_pos (by omega),
    Nat.add_sub_cancel_left]

theorem lead?_three {k : Nat} (h : k < 16) :
    lead? (UInt8.ofNat (0xE0 + k)) =
      some ⟨k, 2, if k = 0 then 0xA0 else 0x80, if k = 13 then 0x9F else 0xBF⟩ := by
  have hlow : 0xE0 + k = 0xE0 ↔ k = 0 := by omega
  have hhigh : 0xE0 + k = 0xED ↔ k = 13 := by omega
  unfold lead?
  rw [toNat_ofNat_of_lt (by omega), if_neg (by omega), if_neg (by omega), if_neg (by omega),
    if_pos (by omega), Nat.add_sub_cancel_left]
  simp only [hlow, hhigh]

theorem lead?_four {k : Nat} (h : k < 5) :
    lead? (UInt8.ofNat (0xF0 + k)) =
      some ⟨k, 3, if k = 0 then 0x90 else 0x80, if k = 4 then 0x8F else 0xBF⟩ := by
  have hlow : 0xF0 + k = 0xF0 ↔ k = 0 := by omega
  have hhigh : 0xF0 + k = 0xF4 ↔ k = 4 := by omega
  unfold lead?
  rw [toNat_ofNat_of_lt (by omega), if_neg (by omega), if_neg (by omega), if_neg (by omega),
    if_neg (by omega), if_pos (by omega), Nat.add_sub_cancel_left]
  simp only [hlow, hhigh]

/-- A byte within its bounds adds its six bits. -/
theorem takeTails_tail {low high n : Nat} (hlow : low ≤ 0x80 + n % 64)
    (hhigh : 0x80 + n % 64 ≤ high) (value k : Nat) (rest : List UInt8) :
    takeTails value (k + 1) low high (tail n :: rest) =
      ((takeTails (value * 64 + n % 64) k 0x80 0xBF rest).1,
        (takeTails (value * 64 + n % 64) k 0x80 0xBF rest).2 + 1) := by
  rw [takeTails, tail, toNat_ofNat_of_lt (by omega), if_pos ⟨hlow, hhigh⟩,
    Nat.add_sub_cancel_left]

/-- What a character is written as is taken as that character, whatever stands behind. -/
theorem exists_takeChar (c : Char) (rest : List UInt8) :
    ∃ b r, encodeChar c = b :: r ∧ takeChar b (r ++ rest) = (some c, r.length) := by
  -- surrogates are no characters; this is what the upper bound behind 0xED relies on
  have hvalid : c.toNat < 0xD800 ∨ 0xDFFF < c.toNat ∧ c.toNat < 0x110000 := c.valid
  have hback : Char.ofNat c.toNat = c := Char.ofNat_toNat c
  unfold encodeChar
  generalize c.toNat = n at hvalid hback ⊢
  subst hback
  dsimp only
  split
  · next h1 =>
    refine ⟨_, _, rfl, ?_⟩
    rw [takeChar, lead?_one h1]
    rfl
  split
  · next h1 h2 =>
    have hvalue : n / 64 * 64 + n % 64 = n := by omega
    refine ⟨_, _, rfl, ?_⟩
    rw [takeChar, lead?_two (by omega) (by omega)]
    simp only [List.cons_append, List.nil_append]
    rw [takeTails_tail (by omega) (by omega), hvalue]
    rfl
  split
  · next h1 h2 h3 =>
    have hvalue : (n / 4096 * 64 + n / 64 % 64) * 64 + n % 64 = n := by omega
    refine ⟨_, _, rfl, ?_⟩
    rw [takeChar, lead?_three (by omega)]
    simp only [List.cons_append, List.nil_append]
    rw [takeTails_tail (by split <;> omega) (by split <;> omega),
      takeTails_tail (by omega) (by omega), hvalue]
    rfl
  · next h1 h2 h3 =>
    have hvalue : ((n / 262144 * 64 + n / 4096 % 64) * 64 + n / 64 % 64) * 64 + n % 64 = n := by
      omega
    refine ⟨_, _, rfl, ?_⟩
    rw [takeChar, lead?_four (by omega)]
    simp only [List.cons_append, List.nil_append]
    rw [takeTails_tail (by split <;> omega) (by split <;> omega),
      takeTails_tail (by omega) (by omega), takeTails_tail (by omega) (by omega), hvalue]
    rfl

theorem decodeLossy_encode (s : List Char) : decodeLossy (encode s) = s := by
  induction s with
  | nil => rw [encode, List.flatMap_nil, decodeLossy]
  | cons c s ih =>
    obtain ⟨b, r, hbytes, htake⟩ := exists_takeChar c (encode s)
    have hencode : encode (c :: s) = b :: (r ++ encode s) := by
      rw [encode, List.flatMap_cons, hbytes]
      rfl
    rw [hencode, decodeLossy, htake]
    simp [ih]

/-- The bytes of a string stand for that string. -/
@[simp] theorem toStringLossy_ofString (s : String) : toStringLossy (ofString s) = s := by
  rw [toStringLossy, ofString, decodeLossy_encode, String.ofList_toList]

end EnvInline.Text.Utf8
