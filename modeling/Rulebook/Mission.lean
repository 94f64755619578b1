/-
Rulebook/Mission.lean

Missions.  A mission prototype says whether the mission is offered at all
and whose progress it records; the state of a mission is one of six stages.
Property collections store a stage as an integer: `ofRaw` reads every
integer outside the six codes as `invalid`, so `ofRaw_toRaw` holds and its
converse does not.
-/
import Rulebook.Ref

namespace Rulebook

/-! ### Stages -/

/-- Stage of a mission for one player, or for one avatar. -/
inductive MissionState where
  | invalid
  | inactive
  | available
  | active
  | completed
  | failed
deriving DecidableEq

namespace MissionState

/-- All stages, in the order of their codes. -/
def all : List MissionState :=
  [.invalid, .inactive, .available, .active, .completed, .failed]

/-- Code of a stage in a property collection. -/
def toRaw : MissionState → Int64
  | .invalid => 0
  | .inactive => 1
  | .available => 2
  | .active => 3
  | .completed => 4
  | .failed => 5

/-- The stage with the code `raw`; an unknown code is `invalid`. -/
def ofRaw (raw : Int64) : MissionState :=
  (all.find? (·.toRaw == raw)).getD .invalid

/-- Name of a stage. -/
def name : MissionState → String
  | .invalid => "Invalid"
  | .inactive => "Inactive"
  | .available => "Available"
  | .active => "Active"
  | .completed => "Completed"
  | .failed => "Failed"

/-- The stage with a given name. -/
def ofName? (s : String) : Option MissionState := all.find? (·.name == s)

@[simp] theorem ofRaw_toRaw (s : MissionState) : ofRaw s.toRaw = s := by
  cases s <;> rfl

end MissionState

/-! ### Mission prototypes -/

/-- What rule evaluation needs to know of a mission prototype. -/
structure Mission where
  id : PrototypeId
  /-- Content that is not approved for the current build is switched off. -/
  approved : Bool := true
  /-- Live tuning can switch a mission off without new data. -/
  live : Bool := true
  /-- Whether progress is recorded per avatar instead of per player. -/
  perAvatar : Bool := false
deriving DecidableEq

/-- Whether the mission may currently be offered or tracked. -/
def Mission.isEnabled (m : Mission) : Bool := m.approved && m.live

end Rulebook
