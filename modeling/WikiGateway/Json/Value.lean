import WikiGateway.OrderedMap

/-! JSON values. Whole numbers and floating-point numbers are kept apart, and the members of an
object keep their order. -/
namespace WikiGateway

inductive Json
  | null
  | bool (b : Bool)
  | int (n : Int)
  | float (x : Float)
  | str (s : String)
  | arr (items : List Json)
  | obj (members : List (String × Json))
  deriving Inhabited

namespace Json

/-- Whether a value counts as one: nothing, false, zero and what is empty do not. -/
def isSet : Json → Bool
  | null => false
  | bool b => b
  | int n => n != 0
  | float x => !(x == 0)
  | str s => !s.isEmpty
  | arr items => !items.isEmpty
  | obj members => !members.isEmpty

/-- The value of a member, if the value is an object that has it. -/
def member? (key : String) : Json → Option Json
  | obj members => members.lookup key
  | _ => none

mutual

/-- Whether all numbers in a value are finite. -/
def isFinite : Json → Bool
  | float x => x.isFinite
  | arr items => areFinite items
  | obj members => memberFinite members
  | _ => true

def areFinite : List Json → Bool
  | [] => true
  | v :: vs => v.isFinite && areFinite vs

def memberFinite : List (String × Json) → Bool
  | [] => true
  | (_, v) :: ms => v.isFinite && memberFinite ms

end

def ofStrings (ss : List String) : Json := arr (ss.map str)

end Json

end WikiGateway
