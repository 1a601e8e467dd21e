import WikiGateway.Telemetry.Record
import WikiGateway.Telemetry.Store

/-!
A ledger saved to a store and loaded from it, each of its parts on its own. Saving leaves the ledger
alone, and loading the store.
-/
namespace WikiGateway.Telemetry

/-- Saves one part of a ledger; tells whether that succeeded. -/
def save (l : Ledger Float) (record : Record) : StateM Store Bool := do
  match ← (Store.put record.name (encode l record).write).run with
  | .ok () => return true
  | .error _ => return false

/-- Saves all parts; tells of each whether that succeeded. -/
def saveAll (l : Ledger Float) : StateM Store (List (Record × Bool)) :=
  Record.all.mapM fun record => return (record, ← save l record)

/-- Whether a fault says that a stored text is not what was stored of a ledger. -/
def isCorruption : Fault → Bool
  | .badValue _ | .wrongShape => true
  | _ => false

/-- Loads one part of a ledger; tells whether that succeeded. The part is left as it was if there is
no text to load it from, or a corrupt one. -/
def load (s : Store) (record : Record) : Action (Ledger Float) Bool := do
  match s.payload? record.name with
  | .error _ | .ok none => return false
  | .ok (some payload) =>
    match restore (← get) record payload with
    | .ok l =>
      set l
      return true
    | .error f => if isCorruption f then return false else throw f

/-- Loads all parts, in order; tells of each whether that succeeded. -/
def loadAll (s : Store) : Action (Ledger Float) (List (Record × Bool)) :=
  Record.all.mapM fun record => return (record, ← load s record)

end WikiGateway.Telemetry
