import WikiGateway.Failure
import WikiGateway.Text.Capitals

/-! What is logged, and how. -/
namespace WikiGateway.Logging

def lineBreakAsBlank (c : Char) : Char := if c = '\r' ∨ c = '\n' then ' ' else c

/-- How many of `length` characters are kept; a negative limit counts from the end. -/
def kept (length : Nat) (limit : Int) : Nat :=
  if 0 ≤ limit then limit.toNat else (length + limit).toNat

def defaultLimit : Int := 100

/-- A text for a log line: on one line, cut where it is longer than the limit. -/
def sanitize (text : Option String) (limit : Int := defaultLimit) : String :=
  let cs := (text.getD "").toList
  if cs.isEmpty then "[empty]"
  else
    let line := cs.map lineBreakAsBlank
    if limit < (line.length : Int) then String.ofList (line.take (kept line.length limit)) ++ "..."
    else String.ofList line

/-- The levels that a log may have, by name. -/
def levels : List (String × Nat) :=
  [("CRITICAL", 50), ("FATAL", 50), ("ERROR", 40), ("WARNING", 30), ("WARN", 30), ("INFO", 20),
    ("DEBUG", 10), ("NOTSET", 0)]

/-- Something that writes log lines. -/
structure Handler where
  level : Nat
  format : String
  dateFormat : String
  deriving DecidableEq, Repr

structure Log where
  level : Nat
  handlers : List Handler
  deriving DecidableEq, Repr

def dateFormat : String := "%Y-%m-%d %H:%M:%S"

/-- In production lines are short; otherwise they say where they were written. -/
def lineFormat (production : Bool) : String :=
  if production then "%(asctime)s - %(levelname)s - %(message)s"
  else "%(asctime)s - %(name)s - %(levelname)s - %(funcName)s:%(lineno)d - %(message)s"

/-- The handler of a log that was set up before any settings. -/
def firstHandler : Handler := ⟨20, lineFormat false, dateFormat⟩

/-- The format of lines for which none is set; its name is no level. -/
def basicFormat : String := "%(levelname)s:%(name)s:%(message)s"

/-- Why a name that is no level is refused: it may stand for a format, for the styles of formats, or
for nothing. -/
def refusal (name : String) : Fault :=
  if name = "BASIC_FORMAT" then .badValue ("Unknown level: " ++ quoted basicFormat)
  else if name = "_STYLES" then .wrongShape
  else .notAnObject

/-- The level of a name. In production nothing is logged in more detail than information. -/
def level (production : Bool) (name : String) : Except Fault Nat :=
  let name := inCapitals name
  match levels.lookup (if production && name == "DEBUG" then "INFO" else name) with
  | some n => .ok n
  | none => .error (refusal name)

/-- Sets a log up at a level; handlers that it has are kept. -/
def setup (production : Bool) (handlers : List Handler) (name : String) : Except Fault Log := do
  let level ← level production name
  let fresh : Handler := ⟨level, lineFormat production, dateFormat⟩
  return ⟨level, if handlers.isEmpty then [fresh] else handlers⟩

end WikiGateway.Logging
