/-
Rulebook/Binary32/Digits.lean

The shortest decimal of a single precision number.  A decimal reads back as
the number `m · 2 ^ q` when it lies in the interval of the reals that round
to it; the two ends belong to the interval when `m` is even.  `shortest`
takes the coarsest grid of decimals `c · 10 ^ k` that meets the interval.
If a point of a grid lies in the interval, so does one of the two neighbours
of the number on that grid, so only these two are tested, in natural
numbers and without rounding.  The nearer of two hits wins, and the greater
one of two equally near.
-/
import Rulebook.Binary32.Exact

namespace Rulebook.Binary32

/-- The decimal `digits · 10 ^ exponent`. -/
structure Decimal where
  digits : Nat
  exponent : Int
deriving DecidableEq

/-- The reals that round to a number, in quarters of its unit, and the
number itself. -/
structure Interval where
  lower : Nat
  value : Nat
  upper : Nat
  /-- The unit of the three is `2 ^ exponent`. -/
  exponent : Int
  /-- Whether the ends belong to the interval. -/
  closed : Bool

/-- Interval of a positive number: it ends halfway to the two neighbours, and
the lower neighbour of a power of two is only half as far away. -/
def Interval.ofExact (x : Exact) : Interval where
  lower := if x.significand = twoPow 23 then 4 * x.significand - 1 else 4 * x.significand - 2
  value := 4 * x.significand
  upper := 4 * x.significand + 2
  exponent := x.exponent - 2
  closed := x.significand % 2 = 0

namespace Decimal

/-- The point `c` of the grid `10 ^ k` that the interval holds, if it holds one:
the nearest to the number, and the greater of two equally near. -/
def onGrid? (i : Interval) (k : Int) : Option Nat :=
  -- both sides in one unit: a point `c` stands at `c * b`, a real `r` at `r * a`
  let a := twoPow i.exponent.toNat * Nat.pow 10 (-k).toNat
  let b := twoPow (-i.exponent).toNat * Nat.pow 10 k.toNat
  let holds (c : Nat) : Bool :=
    if i.closed then i.lower * a ≤ c * b && c * b ≤ i.upper * a
    else i.lower * a < c * b && c * b < i.upper * a
  let floor := i.value * a / b
  let near := if 2 * (i.value * a - floor * b) < b then floor else floor + 1
  let far := if near = floor then floor + 1 else floor
  [near, far].find? holds

/-- Search of the grids from `10 ^ k` down, `n` of them. -/
def search (i : Interval) : Nat → Int → Decimal
  | 0, k => ⟨0, k⟩
  | n + 1, k =>
    match onGrid? i k with
    | some c => ⟨c, k⟩
    | none => search i n (k - 1)

/-- The shortest decimal that reads back as a positive number; zero is its
own. Finite numbers lie below `10 ^ 39` and are multiples of `10 ^ -149`. -/
def shortest (x : Exact) : Decimal :=
  if x.significand = 0 then ⟨0, 0⟩ else search (.ofExact x) 189 39

end Decimal

end Rulebook.Binary32
