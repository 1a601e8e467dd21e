import WikiGateway.Json.Value
import WikiGateway.Decimal.Whole
import WikiGateway.Instant

/-! Values from outside checked field by field; all that is wrong is reported, in field order. -/
namespace WikiGateway

/-- What is wrong with a value. -/
inductive Defect
  | missing
  | unknownField
  | notText
  | tooShort
  | tooLong
  /-- Neither a whole number nor something that may hold one. -/
  | notWhole
  | unreadableWhole
  | fraction
  | notFinite
  | tooLarge
  /-- Neither a truth value nor something that may stand for one. -/
  | notTruth
  | unreadableTruth
  | notNumber
  | unreadableNumber
  /-- Neither a point in time nor something that may stand for one. -/
  | notMoment
  | unreadableMoment
  /-- A text that gives neither a date nor a point in time. -/
  | noDate
  | notList
  | notObject
  | notModel
  /-- A text that holds no JSON. -/
  | notJson
  | belowMinimum
  | refused (message : String)
  deriving DecidableEq, Repr

/-- The word by which a defect is reported. -/
def Defect.name : Defect → String
  | missing => "missing"
  | unknownField => "extra_forbidden"
  | notText => "string_type"
  | tooShort => "string_too_short"
  | tooLong => "string_too_long"
  | notWhole => "int_type"
  | unreadableWhole => "int_parsing"
  | fraction => "int_from_float"
  | notFinite => "finite_number"
  | tooLarge => "int_parsing_size"
  | notTruth => "bool_type"
  | unreadableTruth => "bool_parsing"
  | notNumber => "float_type"
  | unreadableNumber => "float_parsing"
  | notMoment => "datetime_type"
  | unreadableMoment => "datetime_parsing"
  | noDate => "datetime_from_date_parsing"
  | notList => "list_type"
  | notObject => "dict_type"
  | notModel => "model_attributes_type"
  | notJson => "json_invalid"
  | belowMinimum => "greater_than_equal"
  | refused _ => "value_error"

/-- A defect and the way to it through fields and items. -/
structure Problem where
  path : List String
  defect : Defect
  deriving DecidableEq, Repr

/-- A checked value, or all the problems found. -/
inductive Validated (α : Type)
  | valid (a : α)
  | invalid (problems : List Problem)

namespace Validated

variable {α β : Type}

def problems : Validated α → List Problem
  | valid _ => []
  | invalid ps => ps

/-- Applies a checked function to a checked value; the problems of both are kept. -/
def apply (f : Validated (α → β)) (x : Validated α) : Validated β :=
  match f, x with
  | valid f, valid a => valid (f a)
  | valid _, invalid ps => invalid ps
  | invalid ps, x => invalid (ps ++ x.problems)

instance : Applicative Validated where
  pure := valid
  seq f x := apply f (x ())

theorem problems_apply (f : Validated (α → β)) (x : Validated α) :
    (apply f x).problems = f.problems ++ x.problems := by
  cases f <;> cases x <;> simp [apply, problems]

/-- The problems of a value that stands under a name. -/
def under (name : String) : Validated α → Validated α
  | valid a => valid a
  | invalid ps => invalid (ps.map fun p => { p with path := name :: p.path })

def ofExcept (path : List String) : Except Defect α → Validated α
  | .ok a => valid a
  | .error d => invalid [⟨path, d⟩]

end Validated

namespace Json

/-- How a value of a field is read. -/
abbrev Reader (α : Type) := Json → Except Defect α

def readText : Reader String
  | str s => .ok s
  | _ => .error .notText

/-- The whole number that a number is. Those beyond 64 bits count as too large. -/
def wholeOfFloat (x : Float) : Except Defect Int :=
  let magnitude := floorOf x.abs
  if x.isNaN ∨ x.isInf then .error .notFinite
  else if Float.ofNat magnitude != x.abs then .error .fraction
  else if Nat.pow 2 63 ≤ magnitude then .error .tooLarge
  else .ok (if x < 0 then -(magnitude : Int) else magnitude)

/-- A whole number; also a truth value, a number without a fraction or a text that holds one. -/
def readWhole : Reader Int
  | int n => .ok n
  | bool b => .ok (if b then 1 else 0)
  | float x => wholeOfFloat x
  | str s => match Decimal.readWhole s with
    | .value n => .ok n
    | .tooLong => .error .tooLarge
    | .unreadable => .error .unreadableWhole
  | _ => .error .notWhole

/-- A number; also a truth value or a text that holds a number, with blanks around it or with single
underscores in it, but not with both. -/
def readFloat : Reader Float
  | float x => .ok x
  | int n => match Decimal.ofInt? n with
    | some x => .ok x
    | none => .error .notNumber
  | bool b => .ok (if b then 1 else 0)
  | str s =>
    let cs := s.toList
    match (Decimal.signed? (Decimal.trimPadding cs)).or
        (Decimal.signed? (Decimal.dropUnderscores cs)) with
    | some x => .ok x
    | none => .error .unreadableNumber
  | _ => .error .notNumber

def falseWords : List String := ["0", "off", "f", "false", "n", "no"]

def trueWords : List String := ["1", "on", "t", "true", "y", "yes"]

/-- Zero and one as truth values. Other numbers stand for none, and those beyond 64 bits are not
even taken for numbers that might. -/
def truthOfWhole (n : Int) : Except Defect Bool :=
  if n = 0 then .ok false
  else if n = 1 then .ok true
  else if -(Nat.pow 2 63 : Int) ≤ n ∧ n < Nat.pow 2 63 then .error .unreadableTruth
  else .error .notTruth

/-- A truth value; also zero, one or a word that stands for one. -/
def readTruth : Reader Bool
  | bool b => .ok b
  | int n => truthOfWhole n
  | float x => match wholeOfFloat x with
    | .ok n => truthOfWhole n
    | .error _ => .error .notTruth
  | str s =>
    let word := s.map Char.toLower
    if falseWords.contains word then .ok false
    else if trueWords.contains word then .ok true
    else .error .unreadableTruth
  | _ => .error .notTruth

/-- Nothing, or a value that is read. -/
def optionally {α : Type} (read : Reader α) : Reader (Option α)
  | null => .ok none
  | v => some <$> read v

/-- Reads a value and then tests it. -/
def checked {α : Type} (read : Reader α) (test : α → Bool) (defect : Defect) : Reader α := fun v =>
  do
  let a ← read v
  if test a then return a else throw defect

/-- The field of an object, which has to be there. -/
def required {α : Type} (members : List (String × Json)) (name : String) (read : Reader α) :
    Validated α :=
  .ofExcept [name] (match members.lookup name with
    | none => .error .missing
    | some v => read v)

/-- The field of an object, or a default. -/
def withDefault {α : Type} (members : List (String × Json)) (name : String) (default : α)
    (read : Reader α) : Validated α :=
  match members.lookup name with
  | none => .valid default
  | some v => .ofExcept [name] (read v)

/-- The items of a list, each at its place. -/
def itemsFrom {α : Type} (path : List String) (read : Reader α) : (place : Nat) → List Json →
    Validated (List α)
  | _, [] => .valid []
  | place, v :: vs =>
    List.cons <$> Validated.ofExcept (path ++ [toString place]) (read v) <*>
      itemsFrom path read (place + 1) vs

/-- The members of an object, each under its name. -/
def membersFrom {α : Type} (path : List String) (read : Reader α) : List (String × Json) →
    Validated (List (String × α))
  | [] => .valid []
  | (k, v) :: ms =>
    (fun a rest => (k, a) :: rest) <$> Validated.ofExcept (path ++ [k]) (read v) <*>
      membersFrom path read ms

end Json

end WikiGateway
