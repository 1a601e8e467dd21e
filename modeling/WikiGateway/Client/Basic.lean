import WikiGateway.Client.Wire
import WikiGateway.Json.Access
import WikiGateway.Json.Reader
import WikiGateway.Origin
import WikiGateway.Settings
import WikiGateway.Text.Encoding

/-!
A client of a wiki's interface for programs. A request is answered by an object of JSON; where the
answer is not complete it says with which parameters to ask for the rest.
-/
namespace WikiGateway

/-- A client and the time, in seconds, that it waits for an answer. -/
structure Client where
  address : String
  timeout : Float

namespace Client

/-- A client with what is asked for; the settings stand in for what is not given, empty or zero. -/
def ofOptions (settings : Settings) (address : Option String) (timeout : Option Float) :
    Client where
  address := match address with
    | none => settings.wikiApiUrl
    | some a => if a.isEmpty then settings.wikiApiUrl else a
  timeout := match timeout with
    | none => settings.wikiHttpTimeout
    | some t => if t == 0 then settings.wikiHttpTimeout else t

/-- What a client calls itself. -/
def userAgent (settings : Settings) (given : Option String) : String :=
  match given with
  | none => settings.wikiUserAgent
  | some a => if a.isEmpty then settings.wikiUserAgent else a

def headers (settings : Settings) (given : Option String) : List (String × String) :=
  [("User-Agent", userAgent settings given), ("Accept", "application/json")]

/-- What a connection of the client's own sends of its name. -/
def sentAgent (settings : Settings) (given : Option String) : Except Fault String :=
  let agent := userAgent settings given
  if agent.toList.all Fault.isAscii then .ok agent else .error (.notAscii agent)

/-- The parameters of every request. -/
def fixedParameters : Parameters :=
  OrderedMap.ofList [("action", .str "query"), ("format", .str "json"), ("formatversion", .str "2")]

def lostConnection (description : String) : Failure :=
  .contentSource "MediaWiki request failed" none [("error", .str description)]

def badStatus (status : Int) : Failure :=
  .contentSource ("MediaWiki returned HTTP " ++ toString status) (some "CONTENT_SOURCE_HTTP_ERROR")
    [("status_code", .int status)]

def unreadable : Failure :=
  .contentSource "MediaWiki returned invalid JSON" (some "CONTENT_SOURCE_PARSE_ERROR") []

/-- The failure that an answer reports of itself. -/
def reported (error : Json) : Except Fault Failure := do
  let code ← error.memberOr "code" (.str "unknown")
  let info ← error.memberOr "info" code
  return .contentSource ("MediaWiki API error: " ++ info.message) (some "CONTENT_SOURCE_API_ERROR")
    [("code", ← error.memberOr "code" .null)]

/-- What a call is about, as it is told of one that took too long. -/
def operation (params : Parameters) : String :=
  match params.find? "list" with
  | some v => if v.isSet then v.message else ((params.find? "prop").getD .null).message
  | none => ((params.find? "prop").getD .null).message

/-- The value in a body. -/
def readBody (body : List UInt8) : Except Fault Json :=
  match (Encoding.decode? body).map Json.read with
  | some (.ok data) => .ok data
  | some (.error .tooDeep) => .error .tooDeep
  | some (.error _) | none => .error (.failure unreadable)

/-- The value in the answer to a call, unless the answer reports a failure or is none. -/
def readAnswer (c : Client) (params : Parameters) : Exchange → Except Fault Json
  | .timeout => .error (.failure (.networkTimeout (operation params) c.timeout []))
  | .lost description => .error (.failure (lostConnection description))
  | .answer status body =>
    if 400 ≤ status then .error (.failure (badStatus status))
    else do
      let data ← readBody body
      if ← data.mentions "error" then
        throw (.failure (← reported (← data.memberAt "error")))
      return data

/-- Where the calls go, if one with such parameters can be sent there. -/
def destination (c : Client) (params : Parameters) : Except Address.Defect Address := do
  let a ← Address.read c.address
  a.checkParts params.query
  return a

/-- The fault of an answer to a call of which no one knows which server it went to. -/
def unknownKind (a : Address) (params : Parameters) : Fault :=
  .badValue ("unknown url type: " ++
    quoted (Address.writtenPath a.pathFromRoot ++ "?" ++ params.query))

/-- Makes one call, if the name of the host can be read. An answer is lost if it cannot be told from
where it comes. -/
def request (c : Client) (params : Parameters) : Action Wire Json := do
  let all := fixedParameters.overlay params.entries
  let a ← (c.destination all).mapError Fault.badAddress
  if a.isWhole then
    let _ ← (Origin.ofAddress a).shownHost
  let exchange ← Wire.send all
  if exchange.isAnswer then
    if a.isWhole then (Origin.ofAddress a).checkBrackets else throw (unknownKind a all)
  c.readAnswer params exchange

/-- Whether so much was gathered that no more is asked for. -/
def isEnough (limit : Option Nat) (gathered : List Json) : Bool :=
  limit.any (· ≤ gathered.length)

/-- Calls until an answer is complete or enough was gathered, at most `fuel` times. Each call has
its own parameters, and over them those that the answer before it said. -/
def gather (c : Client) (params : Parameters) (hits : Json → Except Fault (List Json))
    (limit : Option Nat) : (fuel : Nat) → (continuation : List (String × Json)) →
    (gathered : List Json) → Action Wire (List Json)
  | 0, _, _ => throw .unfinished
  | fuel + 1, continuation, gathered => do
    let data ← c.request (params.overlay continuation)
    let gathered := gathered ++ (← hits data)
    if isEnough limit gathered then return gathered.take (limit.getD gathered.length)
    match data.member? "continue" with
    | none => return gathered
    | some (.obj continuation) => gather c params hits limit fuel continuation gathered
    | some _ => throw .wrongShape

/-- All hits of a call, or the first of them up to a limit. A script ends, and the first call after
it fails, so that there are no more calls than exchanges and one. -/
def collect (c : Client) (params : Parameters) (hits : Json → Except Fault (List Json))
    (limit : Option Nat := none) : Action Wire (List Json) := do
  let w ← get
  c.gather params hits limit (w.script.length + 1) [] []

end Client

end WikiGateway
