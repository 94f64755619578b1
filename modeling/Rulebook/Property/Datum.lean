/-
Rulebook/Property/Datum.lean

Stored values.  A `Datum` is what a property collection holds under a key:
a value tagged with one of eight storage types.  The views `integer?`,
`real?` and so on give the payload of a datum of their own type and nothing
for the others, and `Datum.zero` is the value of a type before anything was
recorded.
-/
import Rulebook.Binary32.Text
import Rulebook.Ref

namespace Rulebook

/-! ### Storage types -/

/-- Storage type of a property. -/
inductive DataType where
  | boolean
  | real
  | integer
  | prototype
  | asset
  | entity
  | region
  | time
deriving DecidableEq

namespace DataType

/-- All storage types. -/
def all : List DataType :=
  [.boolean, .real, .integer, .prototype, .asset, .entity, .region, .time]

/-- Name of a storage type. -/
def name : DataType → String
  | .boolean => "Boolean"
  | .real => "Real"
  | .integer => "Integer"
  | .prototype => "Prototype"
  | .asset => "Asset"
  | .entity => "EntityId"
  | .region => "RegionId"
  | .time => "Time"

/-- The storage type with a given name. -/
def ofName? (s : String) : Option DataType := all.find? (·.name == s)

end DataType

/-! ### Data -/

/-- A stored value. -/
inductive Datum where
  | boolean (v : Bool)
  | real (v : Float32)
  | integer (v : Int64)
  | prototype (v : PrototypeId)
  | asset (v : AssetId)
  | entity (v : EntityId)
  | region (v : RegionId)
  /-- A span of time, in milliseconds. -/
  | time (ms : Int64)

namespace Datum

/-- Storage type of a datum. -/
def dataType : Datum → DataType
  | .boolean _ => .boolean
  | .real _ => .real
  | .integer _ => .integer
  | .prototype _ => .prototype
  | .asset _ => .asset
  | .entity _ => .entity
  | .region _ => .region
  | .time _ => .time

/-- The zero of a storage type. -/
def zero : DataType → Datum
  | .boolean => .boolean false
  | .real => .real 0
  | .integer => .integer 0
  | .prototype => .prototype .null
  | .asset => .asset .null
  | .entity => .entity .null
  | .region => .region .null
  | .time => .time 0

@[simp] theorem dataType_zero (t : DataType) : (zero t).dataType = t := by
  cases t <;> rfl

/-! ### Views -/

/-- The truth value of a datum of type `boolean`. -/
def boolean? : Datum → Option Bool
  | .boolean v => some v
  | _ => none

/-- The number of a datum of type `real`. -/
def real? : Datum → Option Float32
  | .real v => some v
  | _ => none

/-- The integer of a datum of type `integer`. -/
def integer? : Datum → Option Int64
  | .integer v => some v
  | _ => none

/-- The reference of a datum of type `prototype`. -/
def prototype? : Datum → Option PrototypeId
  | .prototype v => some v
  | _ => none

/-- The reference of a datum of type `asset`. -/
def asset? : Datum → Option AssetId
  | .asset v => some v
  | _ => none

/-- The reference of a datum of type `entity`. -/
def entity? : Datum → Option EntityId
  | .entity v => some v
  | _ => none

/-- The reference of a datum of type `region`. -/
def region? : Datum → Option RegionId
  | .region v => some v
  | _ => none

/-- The milliseconds of a datum of type `time`. -/
def time? : Datum → Option Int64
  | .time ms => some ms
  | _ => none

/-! ### Text -/

/-- A datum as it is shown to a reader. -/
def text : Datum → String
  | .boolean v => toString v
  | .real v => Binary32.Style.plain.render v
  | .integer v => toString v
  | .prototype v => v.describe
  | .asset v => v.describe
  | .entity v => v.describe
  | .region v => v.describe
  | .time ms => toString ms ++ "ms"

/-- A datum in diagnostics, with its storage type. -/
def describe : Datum → String
  | .boolean v => "Boolean(" ++ toString v ++ ")"
  | .real v => "Real(" ++ Binary32.Style.exact.render v ++ ")"
  | .integer v => "Integer(" ++ toString v ++ ")"
  | .prototype v => "Prototype(" ++ v.describe ++ ")"
  | .asset v => "Asset(" ++ v.describe ++ ")"
  | .entity v => "EntityId(" ++ v.describe ++ ")"
  | .region v => "RegionId(" ++ v.describe ++ ")"
  | .time ms => "Time(TimeSpan(" ++ toString ms ++ "))"

end Datum

end Rulebook
