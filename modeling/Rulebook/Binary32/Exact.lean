/-
Rulebook/Binary32/Exact.lean

Single precision numbers as exact fractions.  A finite number is
`± m · 2 ^ q` with natural `m < 2 ^ 24`; `ofFloat` reads the two off the
bits and `toFloat` puts them back.  What cannot be had from the rounded
operations of the machine is computed here on `m` and `q`, in natural
numbers: the remainder of a division, and (in `Rulebook.Binary32.Digits`)
the decimal digits.

`rem` and `modulo` are exact, since the remainder of two numbers is a
multiple of the smaller of their two units and smaller than the divisor.
-/

namespace Rulebook.Binary32

/-- A power of two. -/
def twoPow (n : Nat) : Nat := Nat.pow 2 n

/-! ### Sign, significand and exponent -/

/-- The number `± significand · 2 ^ exponent`. -/
structure Exact where
  negative : Bool
  significand : Nat
  exponent : Int
deriving DecidableEq

/-- Whether the sign bit of a number is set; the negative zero has one. -/
def isNegative (x : Float32) : Bool := 2147483648 ≤ x.toBits.toNat

namespace Exact

/-- The fraction that a finite number stands for. -/
def ofFloat (x : Float32) : Exact :=
  let bits := x.toBits.toNat
  let fraction := bits % twoPow 23
  let biased := bits / twoPow 23 % twoPow 8
  if biased = 0 then
    ⟨isNegative x, fraction, -149⟩
  else
    ⟨isNegative x, twoPow 23 + fraction, Int.ofNat biased - 150⟩

/-- The number that stands for a fraction, which has to be a multiple of the
smallest number and to have no more than 24 significant bits. -/
def toFloat (x : Exact) : Float32 :=
  let sign := if x.negative then twoPow 31 else 0
  let top := x.exponent + x.significand.log2
  let magnitude :=
    if x.significand = 0 then 0
    else if top < -126 then x.significand * twoPow (x.exponent + 149).toNat
    else
      (top + 127).toNat * twoPow 23 +
        (x.significand * twoPow (23 - x.significand.log2) - twoPow 23)
  Float32.ofBits (UInt32.ofNat (sign + magnitude))

/-- Remainder of the division of two fractions, with the sign of the first.
Both are counted in the smaller of their two units. -/
def rem (x y : Exact) : Exact :=
  let unit := min x.exponent y.exponent
  let m := x.significand * twoPow (x.exponent - unit).toNat
  let n := y.significand * twoPow (y.exponent - unit).toNat
  let r := m % n
  -- a remainder with more than 24 bits is the first number itself
  if r = m then x else ⟨x.negative, r, unit⟩

end Exact

/-! ### Operations on numbers -/

/-- Remainder of the division rounded toward zero: exact, and with the sign
of the dividend. -/
def rem (x y : Float32) : Float32 :=
  if x.isFinite && y.isFinite && y != 0 then
    ((Exact.ofFloat x).rem (Exact.ofFloat y)).toFloat
  else if x.isFinite && y.isInf then
    x
  else
    0 / 0

/-- Euclidean remainder: the remainder of `rem`, with a divisor's magnitude
added when it is negative. -/
def modulo (x y : Float32) : Float32 :=
  let r := rem x y
  if r < 0 then r + y.abs else r

/-- The greater number; a NaN gives way to the other operand. -/
def max (x y : Float32) : Float32 :=
  if x.isNaN then y else if y.isNaN then x else if x < y then y else x

/-- The smaller number; a NaN gives way to the other operand. -/
def min (x y : Float32) : Float32 :=
  if x.isNaN then y else if y.isNaN then x else if y < x then y else x

end Rulebook.Binary32
