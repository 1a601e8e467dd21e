import WikiGateway.Failure
import WikiGateway.Json.Reader
import WikiGateway.Ledger.Basic

/-! The parts of a ledger as texts to be stored: series of times by name, and the start time. -/
namespace WikiGateway.Telemetry

/-- A value read as a number: numbers, truth values and texts that hold a number. -/
def toNumber : Json → Except Fault Float
  | .float x => .ok x
  | .int n => match Decimal.ofInt? n with
    | some x => .ok x
    | none => .error .tooLarge
  | .bool b => .ok (if b then 1 else 0)
  | .str s => match Decimal.float? s with
    | some x => .ok x
    | none => .error (.badValue ("could not convert string to float: " ++ quoted s))
  | .null | .arr _ | .obj _ => .error .wrongShape

/-- The parts of a ledger that are stored, each under its own name. -/
inductive Record
  | terms | invocations | startTime
  deriving DecidableEq, Repr

namespace Record

def name : Record → String
  | terms => "terms"
  | invocations => "invocations"
  | startTime => "start_time"

def all : List Record := [terms, invocations, startTime]

end Record

def encodeSeries (series : OrderedMap (List Float)) : Json :=
  .obj (series.entries.map fun (k, ts) => (k, .arr (ts.map .float)))

def encodeStart (start : Float) : Json := .obj [(Record.startTime.name, .float start)]

/-- What is stored of a ledger in a record. -/
def encode (l : Ledger Float) : Record → Json
  | .terms => encodeSeries l.terms
  | .invocations => encodeSeries l.invocations
  | .startTime => encodeStart l.start

def readPayload (payload : String) : Except Fault Json :=
  match Json.read payload with
  | .ok v => .ok v
  | .error .tooDeep => .error .tooDeep
  | .error _ => .error (.badValue "payload is not JSON")

def decodeTimes (key : String) : Json → Except Fault (List Float)
  | .arr items => items.mapM toNumber
  | _ => .error (.badValue ("timestamps for '" ++ key ++ "' must be a list"))

/-- Series of times from a stored text: an object of lists of numbers. -/
def decodeSeries (payload : String) : Except Fault (OrderedMap (List Float)) := do
  match ← readPayload payload with
  | .obj members =>
    let entries ← members.mapM fun (k, v) => return (k, ← decodeTimes k v)
    return OrderedMap.ofList entries
  | _ => throw (.badValue "payload must be an object")

/-- A start time from a stored text: the member of that name. -/
def decodeStart (payload : String) : Except Fault Float := do
  match (← readPayload payload).member? Record.startTime.name with
  | some v => toNumber v
  | none => throw (.badValue "payload must contain start_time")

/-- A ledger with the content of a stored text in place of one of its parts. -/
def restore (l : Ledger Float) (record : Record) (payload : String) : Except Fault (Ledger Float) :=
  match record with
  | .terms => return l.restoreTerms (← decodeSeries payload)
  | .invocations => return l.restoreInvocations (← decodeSeries payload)
  | .startTime => return l.restoreStart (← decodeStart payload)

end WikiGateway.Telemetry
