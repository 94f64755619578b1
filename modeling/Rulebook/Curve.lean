/-
Rulebook/Curve.lean

Curves.  A curve is an authored table, damage by level for example, that is
sampled at integer positions.  Its values stand at consecutive positions
from `first` on, so it covers a closed range of positions, and that range is
never empty: the two facts about the number of values are part of the type.

Positions are 32-bit words.  A curve whose last values would stand beyond
the greatest position is cut there by `last`, never wrapped around.
-/
import Rulebook.Ref

namespace Rulebook

/-- A numeric curve over a closed range of integer positions. -/
structure Curve where
  /-- Position of the first value. -/
  first : Int32
  values : Array Float32
  /-- A curve has a value. -/
  nonempty : 0 < values.size
  /-- The number of values is itself a position. -/
  size_le : values.size ≤ 2147483647

namespace Curve

/-- The curve that starts at `first`; there is none without values. -/
def ofValues? (first : Int32) (values : Array Float32) : Option Curve :=
  if h : 0 < values.size ∧ values.size ≤ 2147483647 then
    some ⟨first, values, h.1, h.2⟩
  else
    none

/-- Position of the last value, or the greatest position there is. -/
def last (c : Curve) : Int32 :=
  Int32.ofInt (min (c.first.toInt + (c.values.size - 1)) Int32.maxValue.toInt)

/-- Whether position `i` lies on the curve. -/
def covers (c : Curve) (i : Int32) : Bool := c.first ≤ i && i ≤ c.last

/-- Value at position `i`, if the curve covers it. -/
def get? (c : Curve) (i : Int32) : Option Float32 :=
  if c.covers i then c.values[(i.toInt - c.first.toInt).toNat]? else none

/-- The position on the curve that is nearest to `i`. -/
def clamp (c : Curve) (i : Int32) : Int32 :=
  if i < c.first then c.first else if c.last < i then c.last else i

end Curve

/-! ### Tables of curves -/

/-- The curves of a game, each with a name for diagnostics. -/
structure CurveTable where
  entries : Std.TreeMap CurveId (String × Curve) := ∅

namespace CurveTable

/-- Enter a curve, replacing the one that had its place. -/
def insert (t : CurveTable) (id : CurveId) (name : String) (c : Curve) : CurveTable :=
  ⟨t.entries.insert id (name, c)⟩

/-- The curve `id`. -/
def get? (t : CurveTable) (id : CurveId) : Option Curve := t.entries[id]?.map (·.2)

/-- Name of the curve `id` in diagnostics. -/
def name (t : CurveTable) (id : CurveId) : String :=
  (t.entries[id]?.map (·.1)).getD "<unknown curve>"

/-- Number of curves. -/
def size (t : CurveTable) : Nat := t.entries.size

end CurveTable

end Rulebook
