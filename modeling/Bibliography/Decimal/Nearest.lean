import Bibliography.Decimal.Shortest

/-!
# Nearest floating-point numbers

The floating-point number of 64 bits that is nearest to a decimal; halfway between two of them it is
the one with an even fraction. A number at or beyond half a unit above the largest one is infinite.

All arithmetic is on whole numbers. The bits of a positive number count the floating-point numbers
below it, so rounding up at the end of a range of exponents leads into the next one by itself.

Main statements: `roundedQuotient` is exact where a division is (`roundedQuotient_mul`), and is off
by at most half a unit (`two_mul_roundedQuotient_le`, `le_two_mul_roundedQuotient`).
-/

namespace Bibliography.Decimal

/-! ## §1 Rounding -/

/-- The whole number nearest to `a / b`; halfway between two of them, the even one. -/
def roundedQuotient (a b : Nat) : Nat :=
  let below := a / b
  let rest := a % b
  if 2 * rest < b ∨ (2 * rest = b ∧ below % 2 = 0) then below else below + 1

theorem roundedQuotient_mul (q : Nat) {b : Nat} (h : 0 < b) : roundedQuotient (q * b) b = q := by
  simp [roundedQuotient, Nat.mul_div_cancel q h, h]

theorem two_mul_roundedQuotient_le (a : Nat) {b : Nat} (h : 0 < b) :
    2 * (roundedQuotient a b * b) ≤ 2 * a + b := by
  have split := Nat.div_add_mod' a b
  have bound := Nat.mod_lt a h
  simp only [roundedQuotient]
  split
  · omega
  · rw [Nat.add_mul]
    omega

theorem le_two_mul_roundedQuotient (a : Nat) {b : Nat} (h : 0 < b) :
    2 * a ≤ 2 * (roundedQuotient a b * b) + b := by
  have split := Nat.div_add_mod' a b
  have bound := Nat.mod_lt a h
  simp only [roundedQuotient]
  split
  · omega
  · rw [Nat.add_mul]
    omega

/-! ## §2 Bits -/

/-- The exponent of the smallest positive number. -/
def leastExponent : Int := -1074

/-- The bits of infinity. -/
def infiniteBits : Nat := 2047 * fractionUnit

/-- The largest `k` with `2 ^ k ≤ a / b`, for positive `a` and `b`. -/
def quotientLog (a b : Nat) : Int :=
  let k : Int := (a.log2 : Int) - b.log2
  if b * Nat.pow 2 k.toNat ≤ a * Nat.pow 2 (-k).toNat then k else k - 1

/-- The bits of the number nearest to `a / b`, for positive `b`. -/
def nearestBits (a b : Nat) : Nat :=
  if a = 0 then 0
  else
    let q := max (quotientLog a b - 52) leastExponent
    let m := roundedQuotient (a * Nat.pow 2 (-q).toNat) (b * Nat.pow 2 q.toNat)
    min ((q - leastExponent).toNat * fractionUnit + m) infiniteBits

/-! ## §3 Decimals -/

/-- An exponent of ten beyond which every number is infinite, and below whose opposite it is zero. -/
def farExponent : Int := 400

/-- The floating-point number nearest to a decimal. -/
def Numeral.nearest (d : Numeral) : Float :=
  let bits :=
    if d.digits = 0 ∨ d.exponent + d.digits.log2 < -farExponent then 0
    else if farExponent < d.exponent then infiniteBits
    else nearestBits (d.digits * Nat.pow 10 d.exponent.toNat) (Nat.pow 10 (-d.exponent).toNat)
  Float.ofBits bits.toUInt64

end Bibliography.Decimal
