import WikiGateway.Failure
import WikiGateway.Instant

/-! What the gateway asks of a cache of page texts, and the limits of a cache. -/
namespace WikiGateway

/-- A cache of `α`, whose state is a `κ`. A failed operation may have changed the state. -/
structure Cache (κ τ α : Type) where
  get : (title : String) → (now : τ) → Action κ (Option α)
  put : (title : String) → (text : α) → (now : τ) → Action κ Bool
  isHealthy : Action κ Bool

namespace Cache

def defaultCapacity : Int := 256

/-- Half a day, in seconds. -/
def defaultTtl : Int := 43200

/-- The number asked for, or the usual one in place of none or zero. -/
def orUsual (usual : Int) (asked : Option Int) : Int :=
  match asked with
  | none => usual
  | some n => if n = 0 then usual else n

/-- What a cache with a fault laid out for each of its operations does. Without one it never has a
page, takes every page, and is as healthy as it is said to be. -/
def faulty {κ τ α : Type} (get put health : Option Fault) (healthy : Bool) :
    Cache κ τ α :=
  let meet {β : Type} (trouble : Option Fault) (answer : β) : Action κ β :=
    match trouble with
    | some f => throw f
    | none => return answer
  { get := fun _ _ => meet get none
    put := fun _ _ _ => meet put true
    isHealthy := meet health healthy }

end Cache

end WikiGateway
