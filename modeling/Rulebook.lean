/-
Rulebook

Rules of a game, authored as expression trees, and their evaluation against
typed property collections and the state of the game.
-/
import Rulebook.Session
import Rulebook.Proofs.ReadOnly
import Rulebook.Proofs.Restore
import Rulebook.Proofs.Typing
import Rulebook.Proofs.Allowance
import Rulebook.Proofs.Assignment
import Rulebook.Proofs.LoopLimit
import Rulebook.Proofs.Policy
import Rulebook.Proofs.Result
import Rulebook.Proofs.Scoping
import Rulebook.Proofs.Fallthrough
import Rulebook.Proofs.ReadBack
import Rulebook.Proofs.ConditionBinding
import Rulebook.Proofs.KeyOrder
import Rulebook.Proofs.ReferenceParams
import Rulebook.Proofs.DomainCapacity
import Rulebook.Proofs.RegistryConsistency
import Rulebook.Proofs.PropertyNames
import Rulebook.Proofs.NamedLoads
import Rulebook.Proofs.CurveIndex
import Rulebook.Proofs.EntityReference
import Rulebook.Proofs.LoopCourse
import Rulebook.Proofs.Unrolling
import Rulebook.Proofs.ClearedSlots
import Rulebook.Proofs.IntegerParams
import Rulebook.Proofs.MissionStages
import Rulebook.Proofs.IntegerArithmetic
import Rulebook.Proofs.CountedLoop
import Rulebook.Proofs.Purity
import Rulebook.Proofs.DefaultPrototypes
import Rulebook.Proofs.HeldItems
import Rulebook.Proofs.MissingEntities
import Rulebook.Proofs.OwningPlayer
import Rulebook.Proofs.CurveDomain
import Rulebook.Proofs.ItemOwners
