/-!
# Shortest decimals

The decimal with the fewest digits that lies in the interval of reals which round to a given binary
floating-point value, and of several such decimals the nearest one. A value is `m · 2 ^ q`; its
interval reaches half a unit in the last place to either side, except that below a power of two the
spacing is halved. The ends belong to the interval when `m` is even.

A grid of decimals `c · 10 ^ k` has a point in the interval only if one of the two grid points next
to the value lies in it, so looking at these two is enough.
-/

namespace Bibliography.Decimal

/-- A positive binary floating-point value `m · 2 ^ q`; `narrowBelow` says that the next smaller
value is only half as far away as the next larger one. -/
structure Binary where
  m : Nat
  q : Int
  narrowBelow : Bool
  deriving DecidableEq, Repr

/-- A decimal `digits · 10 ^ exponent`. -/
structure Numeral where
  digits : Nat
  exponent : Int
  deriving DecidableEq, Repr

/-! ## §1 Exact comparison -/

/-- The value in quarters of its last place, scaled so that multiples of `10 ^ k` are whole. -/
def Binary.scale (b : Binary) (k : Int) (quarters : Nat) : Nat :=
  quarters * Nat.pow 2 (b.q - 2).toNat * Nat.pow 10 (-k).toNat

/-- The grid unit `10 ^ k` in the same scale. -/
def Binary.unit (b : Binary) (k : Int) : Nat :=
  Nat.pow 10 k.toNat * Nat.pow 2 (2 - b.q).toNat

/-- Whether `c · 10 ^ k` rounds to the value. -/
def Binary.accepts (b : Binary) (k : Int) (c : Nat) : Bool :=
  let low := b.scale k (4 * b.m - if b.narrowBelow then 1 else 2)
  let high := b.scale k (4 * b.m + 2)
  let x := c * b.unit k
  if b.m % 2 = 0 then low ≤ x && x ≤ high else low < x && x < high

/-! ## §2 Search -/

/-- The decimal on the grid of step `10 ^ k` that rounds to the value and is nearest to it. -/
def Binary.onGrid? (b : Binary) (k : Int) : Option Nat :=
  let v := b.scale k (4 * b.m)
  let unit := b.unit k
  let below := v / unit
  match b.accepts k below && below != 0, b.accepts k (below + 1) with
  -- both neighbours round to the value, so the nearer one counts, and the even one between them
  | true, true =>
    if 2 * (v - below * unit) < unit ∨ (2 * (v - below * unit) = unit ∧ below % 2 = 0) then some below
    else some (below + 1)
  | true, false => some below
  | false, true => some (below + 1)
  | false, false => none

/-- The exponent of the first digit of the value, tried downwards from an estimate `e`. -/
def Binary.leadingExponent (b : Binary) : Nat → Int → Int
  | 0, e => e
  | fuel + 1, e => if b.unit e ≤ b.scale e (4 * b.m) then e else b.leadingExponent fuel (e - 1)

/-- The first grid that has a decimal in the interval, tried from coarse to fine. -/
def Binary.firstGrid (b : Binary) (leading : Int) : Nat → Nat → Numeral
  | 0, n => ⟨(b.scale (leading + 1 - n) (4 * b.m)) / b.unit (leading + 1 - n), leading + 1 - n⟩
  | fuel + 1, n =>
    let k := leading + 1 - n
    match b.onGrid? k with
    | some c => ⟨c, k⟩
    | none => b.firstGrid leading fuel (n + 1)

/-- The shortest decimal that rounds to the value. -/
def Binary.shortest (b : Binary) : Numeral :=
  b.firstGrid (b.leadingExponent 8 ((b.m.log2 + b.q) * 3 / 10 + 2)) 17 1

/-! ## §3 Binary64 -/

/-- A floating-point number taken apart. -/
inductive Parts where
  | nan
  | infinite (negative : Bool)
  | zero (negative : Bool)
  | finite (negative : Bool) (value : Binary)
  deriving DecidableEq, Repr

/-- The bit above the 52 bits of a fraction. -/
def fractionUnit : Nat := 0x10000000000000

/-- Takes apart the 64 bits of a floating-point number: a sign, 11 bits of exponent, a fraction. -/
def Parts.ofBits (bits : Nat) : Parts :=
  let negative := bits / (2048 * fractionUnit) % 2 == 1
  let exponent := bits / fractionUnit % 2048
  let fraction := bits % fractionUnit
  if exponent = 2047 then if fraction = 0 then .infinite negative else .nan
  else if exponent = 0 then
    if fraction = 0 then .zero negative else .finite negative ⟨fraction, -1074, false⟩
  else
    .finite negative
      ⟨fractionUnit + fraction, (exponent : Int) - 1075, fraction == 0 && decide (1 < exponent)⟩

/-- Takes a floating-point number apart. -/
def Parts.ofFloat (x : Float) : Parts := Parts.ofBits x.toBits.toNat

/-! ## §4 The written form -/

/-- The digits of a number without the zeros at its end. -/
def significant (n : Nat) : List Char :=
  ((Nat.toDigits 10 n).reverse.dropWhile (· == '0')).reverse

/-- A positive value, positional for exponents of the first digit from -4 to 15 and with at least
one digit on either side of the point; otherwise in scientific notation with a signed exponent of at
least two digits. -/
def Binary.text (b : Binary) : List Char :=
  let d := b.shortest
  let digits := significant d.digits
  let point : Int := (Nat.toDigits 10 d.digits).length + d.exponent
  -- close to one the digits stand around the point, filled up with zeros
  if -3 ≤ point ∧ point ≤ 0 then
    '0' :: '.' :: List.replicate (-point).toNat '0' ++ digits
  else if 0 < point ∧ point ≤ 16 then
    let n := point.toNat
    if digits.length ≤ n then digits ++ List.replicate (n - digits.length) '0' ++ ['.', '0']
    else digits.take n ++ '.' :: digits.drop n
  else
    let e := point - 1
    let mantissa := match digits with
      | [c] => [c]
      | c :: cs => c :: '.' :: cs
      | [] => []
    let exponent := Nat.toDigits 10 e.natAbs
    mantissa ++ 'e' :: (if e < 0 then '-' else '+')
      :: (if exponent.length < 2 then '0' :: exponent else exponent)

/-- The written form of a number taken apart. -/
def Parts.text : Parts → String
  | .nan => "nan"
  | .infinite negative => if negative then "-inf" else "inf"
  | .zero negative => if negative then "-0.0" else "0.0"
  | .finite negative value => String.ofList ((if negative then ['-'] else []) ++ value.text)

/-- The shortest written form of a floating-point number that reads back as the same number. -/
def floatText (x : Float) : String := (Parts.ofFloat x).text

/-! ## §5 Whole numbers -/

/-- The whole number that a floating-point number is equal to, if there is one. -/
def Parts.whole? : Parts → Option Int
  | .nan => none
  | .infinite _ => none
  | .zero _ => some 0
  | .finite negative value =>
    let magnitude : Option Nat :=
      let unit := Nat.pow 2 value.q.natAbs
      if 0 ≤ value.q then some (value.m * unit)
      else if value.m % unit = 0 then some (value.m / unit)
      else none
    magnitude.map fun n => if negative then -(n : Int) else n

end Bibliography.Decimal
