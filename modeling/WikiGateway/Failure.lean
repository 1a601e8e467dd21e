import WikiGateway.Address
import WikiGateway.Json.Writer

/-! What can go wrong: failures that the gateway names itself, and faults of any kind. -/
namespace WikiGateway

/-- Particulars of a failure, by name. -/
abbrev Details := List (String × Json)

/-- The failures that the gateway names. A code or particulars given here replace the usual ones,
unless they are empty. -/
inductive Failure
  | general (message : String) (code : Option String) (details : Details)
  | contentSource (message : String) (code : Option String) (details : Details)
  | pageNotFound (title : String) (details : Details)
  | networkTimeout (operation : String) (seconds : Float) (details : Details)
  | cache (message : String) (code : Option String) (details : Details)
  | cacheConnection (reason : String) (details : Details)
  | database (message : String) (code : Option String) (details : Details)
  | databaseConnection (reason : String) (details : Details)
  | databaseQuery (query reason : String) (details : Details)
  | validation (field reason : String) (details : Details)
  | invalidQuery (reason : String) (position : Option Int) (details : Details)
  deriving Inhabited

namespace Failure

/-- Kinds of failure; each but the first is a special case of another. -/
inductive Family
  | general | contentSource | pageNotFound | networkTimeout | cache | cacheConnection
  | database | databaseConnection | databaseQuery | validation | invalidQuery
  deriving DecidableEq, Repr

def Family.all : List Family :=
  [general, contentSource, pageNotFound, networkTimeout, cache, cacheConnection, database,
    databaseConnection, databaseQuery, validation, invalidQuery]

/-- The family and those that it is a special case of, nearest first. -/
def Family.chain : Family → List Family
  | general => [general]
  | contentSource => [contentSource, general]
  | pageNotFound => [pageNotFound, contentSource, general]
  | networkTimeout => [networkTimeout, contentSource, general]
  | cache => [cache, general]
  | cacheConnection => [cacheConnection, cache, general]
  | database => [database, general]
  | databaseConnection => [databaseConnection, database, general]
  | databaseQuery => [databaseQuery, database, general]
  | validation => [validation, general]
  | invalidQuery => [invalidQuery, validation, general]

def family : Failure → Family
  | general .. => .general
  | contentSource .. => .contentSource
  | pageNotFound .. => .pageNotFound
  | networkTimeout .. => .networkTimeout
  | cache .. => .cache
  | cacheConnection .. => .cacheConnection
  | database .. => .database
  | databaseConnection .. => .databaseConnection
  | databaseQuery .. => .databaseQuery
  | validation .. => .validation
  | invalidQuery .. => .invalidQuery

def isA (family : Family) (f : Failure) : Bool := f.family.chain.contains family

/-- The code that a failure has when none was given. -/
def generalCode : String := "UNKNOWN_ERROR"

/-- The code given, or the usual one in place of none or an empty one. -/
def orUsual (usual : String) : Option String → String
  | none => usual
  | some code => if code.isEmpty then usual else code

/-- The code of a failure. Only a general one can be without. -/
def code? : Failure → Option String
  | general _ code _ => code
  | contentSource _ code _ => some (orUsual "CONTENT_SOURCE_ERROR" code)
  | pageNotFound .. => some "PAGE_NOT_FOUND"
  | networkTimeout .. => some "NETWORK_TIMEOUT"
  | cache _ code _ => some (orUsual "CACHE_ERROR" code)
  | cacheConnection .. => some "CACHE_CONNECTION_ERROR"
  | database _ code _ => some (orUsual "DB_ERROR" code)
  | databaseConnection .. => some "DB_CONNECTION_ERROR"
  | databaseQuery .. => some "DB_QUERY_ERROR"
  | validation .. => some "VALIDATION_ERROR"
  | invalidQuery .. => some "INVALID_QUERY"

def validationMessage (field reason : String) : String :=
  "Validation failed for '" ++ field ++ "': " ++ reason

def message : Failure → String
  | general m _ _ | contentSource m _ _ | cache m _ _ | database m _ _ => m
  | pageNotFound title _ => "Page not found: " ++ title
  | networkTimeout operation seconds _ =>
    "Network timeout during '" ++ operation ++ "' after " ++ Decimal.text seconds ++ "s"
  | cacheConnection reason _ => "Failed to connect to cache: " ++ reason
  | databaseConnection reason _ => "Database connection failed: " ++ reason
  | databaseQuery _ reason _ => "Database query failed: " ++ reason
  | validation field reason _ => validationMessage field reason
  | invalidQuery reason none _ => validationMessage "query" reason
  | invalidQuery reason (some p) _ =>
    validationMessage "query" (reason ++ " (at position " ++ toString p ++ ")")

/-- The particulars given, or what the failure itself says. -/
def details (f : Failure) : Details :=
  let orOwn (given own : Details) := if given.isEmpty then own else given
  match f with
  | general _ _ d | contentSource _ _ d | cache _ _ d | database _ _ d => d
  | databaseConnection _ d => d
  | pageNotFound title d => orOwn d [("title", .str title)]
  | networkTimeout operation seconds d =>
    orOwn d [("operation", .str operation), ("timeout_s", .float seconds)]
  | cacheConnection reason d => orOwn d [("reason", .str reason)]
  | databaseQuery query reason d => orOwn d [("query", .str query), ("reason", .str reason)]
  | validation field reason d => orOwn d [("field", .str field), ("reason", .str reason)]
  | invalidQuery _ position d =>
    orOwn d [("position", position.elim .null .int)]

/-- The whole text of a failure: its code and its message. -/
def text (f : Failure) : String := "[" ++ f.code?.getD "None" ++ "] " ++ f.message

end Failure

/-- What stops an operation. -/
inductive Fault
  | failure (f : Failure)
  /-- A value that is not acceptable. -/
  | badValue (message : String)
  | broken (message : String)
  /-- Something is not of a shape on which the operation works. -/
  | wrongShape
  /-- A member was asked of something that is no object. -/
  | notAnObject
  /-- An object lacks a member that has to be there. -/
  | missingMember
  /-- A list has no item at the place asked for. -/
  | missingItem
  /-- A whole number is beyond all floating-point numbers. -/
  | tooLarge
  /-- A text is to be sent where only characters of ASCII can. -/
  | notAscii (text : String)
  /-- A text is to be sent to that is no address. -/
  | badAddress (defect : Address.Defect)
  /-- A request is to be sent on to what is no address. -/
  | badMove (defect : Address.Defect)
  /-- The name of a host cannot be read. -/
  | badName (defect : Address.Label.Defect)
  /-- Something is nested more deeply than can be followed. -/
  | tooDeep
  /-- The operation did not end within the steps that it was given. -/
  | unfinished
  deriving Inhabited

namespace Fault

def isA (family : Failure.Family) : Fault → Bool
  | failure f => f.isA family
  | _ => false

def isAscii (c : Char) : Bool := c.toNat < 128

/-- Where the first characters beyond ASCII stand in a text, and which they are. -/
def asciiMessage (text : String) : String :=
  let before := text.toList.takeWhile isAscii
  let run := (text.toList.drop before.length).takeWhile (!isAscii ·)
  let start := before.length
  "'ascii' codec can't encode " ++
    (match run with
      | [c] =>
        "character '" ++ String.ofList (hexEscape c.toNat) ++ "' in position " ++ toString start
      | _ => "characters in position " ++ toString start ++ "-" ++
          toString (start + run.length - 1)) ++
    ": ordinal not in range(128)"

/-- The message of a fault that has one. -/
def message? : Fault → Option String
  | failure f => some f.text
  | badValue m | broken m => some m
  | notAscii text => some (asciiMessage text)
  | badAddress d => some d.message
  | badMove d => some ("Invalid URL in location header: " ++ d.message ++ ".")
  | badName d => some d.message
  | _ => none

/-- The message of a fault inside other messages. -/
def reason : Fault → String
  | tooLarge => "int too large to convert to float"
  | f => f.message?.getD ""

end Fault

/-- A computation that may read and change a world `ω` and may stop with a fault; what it did to the
world before that stays done. -/
abbrev Action (ω α : Type) := ExceptT Fault (StateM ω) α

/-- Lets an action work on a part of a larger world. -/
def Action.onPart {σ ω α : Type} (part : σ → ω) (replace : ω → σ → σ) (act : Action ω α) :
    Action σ α := fun s =>
  let (r, w) := act.run.run (part s)
  (r, replace w s)

end WikiGateway
