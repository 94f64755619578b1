/-
Rulebook/Binary32/Text.lean

Text of single precision numbers.  A `Style` records the decisions of a
format, and `Style.render` writes the shortest decimal of a number by them.
Two styles are in use: `plain`, which is always positional, and `exact`,
which keeps a number apart from an integer and writes very small and very
large ones with an exponent.
-/
import Rulebook.Binary32.Digits

namespace Rulebook.Binary32

/-- The decisions of a number format. -/
structure Style where
  /-- Whether an integral number is written with the suffix `.0`. -/
  marksIntegral : Bool
  /-- The powers of ten that are written positionally: `some (a, b)` for
  `10 ^ a` up to, and not including, `10 ^ b`; all of them for `none`. -/
  positional : Option (Int × Int)

namespace Style

/-- Always positional, and an integral number has no point. -/
def plain : Style := ⟨false, none⟩

/-- An integral number ends in `.0`; below `0.0001` and from `10 ^ 16` on the
number is written with an exponent. -/
def exact : Style := ⟨true, some (-4, 16)⟩

/-- Digits with a point before the place `point`, counted from the left. -/
def positionalText (s : Style) (digits : String) (point : Int) : String :=
  let n : Int := digits.length
  if n ≤ point then
    digits ++ "".pushn '0' (point - n).toNat ++ (if s.marksIntegral then ".0" else "")
  else if 0 < point then
    (digits.take point.toNat).toString ++ "." ++ (digits.drop point.toNat).toString
  else
    "0." ++ "".pushn '0' (-point).toNat ++ digits

/-- Digits with a point after the first, and the exponent of the first. -/
def scientificText (digits : String) (exponent : Int) : String :=
  let rest := (digits.drop 1).toString
  (digits.take 1).toString ++ (if rest.isEmpty then "" else "." ++ rest) ++ "e" ++ toString exponent

/-- Text of a nonnegative decimal. -/
def decimalText (s : Style) (d : Decimal) : String :=
  if d.digits = 0 then
    s.positionalText "0" 1
  else
    let digits := toString d.digits
    let point := digits.length + d.exponent
    match s.positional with
    | some (a, b) =>
      if a < point && point ≤ b then s.positionalText digits point
      else scientificText digits (point - 1)
    | none => s.positionalText digits point

/-- Text of a number. -/
def render (s : Style) (x : Float32) : String :=
  if x.isNaN then "NaN"
  else
    let sign := if isNegative x then "-" else ""
    if x.isInf then sign ++ "inf"
    else sign ++ s.decimalText (.shortest (.ofFloat x))

end Style

end Rulebook.Binary32
