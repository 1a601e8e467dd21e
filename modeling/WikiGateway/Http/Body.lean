import WikiGateway.Limits
import WikiGateway.Moment

/-! The bodies of requests and responses: how they are checked, and how they are written. -/
namespace WikiGateway.Http

abbrev Members := List (String × Json)

def textOrNull (t : Option String) : Json := t.elim .null .str

def atLeastWhole (least : Int) : Json.Reader Int :=
  Json.checked Json.readWhole (fun n => decide (least ≤ n)) .belowMinimum

/-- The field of an object, which has to be a list of texts. -/
def textItems (name : String) : Json → Validated (List String)
  | .arr items => Json.itemsFrom [name] Json.readText 0 items
  | _ => .invalid [⟨[name], .notList⟩]

def optionalItems (members : Members) (name : String) : Validated (List String) :=
  match members.lookup name with
  | none => .valid []
  | some v => textItems name v

/-- A request to answer a query. -/
structure QueryForm where
  query : String

namespace QueryForm

/-- A query text has one to `Limits.maxText` characters, not all of them blank. -/
def readQuery : Json.Reader String := fun v => do
  let s ← Json.readText v
  if s.isEmpty then throw .tooShort
  if Limits.maxText < s.length then throw .tooLong
  if isBlankText s then throw (.refused "query must not be blank")
  return s

def read (members : Members) : Validated QueryForm :=
  QueryForm.mk <$> Json.required members "query" readQuery

def members (f : QueryForm) : Members := [("query", .str f.query)]

end QueryForm

/-- Titles, or names of authors or categories. -/
structure TitleList where
  status : String
  items : List String
  message : Option String
  errorCode : Option String

namespace TitleList

def read (members : Members) : Validated TitleList :=
  TitleList.mk <$> Json.required members "status" Json.readText
    <*> optionalItems members "items"
    <*> Json.withDefault members "message" none (Json.optionally Json.readText)
    <*> Json.withDefault members "error_code" none (Json.optionally Json.readText)

/-- The members of a list of which the items may not be texts. -/
def membersOf (status : String) (items : Json) (message errorCode : Option String) : Members :=
  [("status", .str status), ("items", items), ("message", textOrNull message),
    ("error_code", textOrNull errorCode)]

def members (l : TitleList) : Members :=
  membersOf l.status (.ofStrings l.items) l.message l.errorCode

end TitleList

structure Page where
  title : String
  text : String

namespace Page

def read (members : Members) : Validated Page :=
  Page.mk <$> Json.required members "title" Json.readText
    <*> Json.required members "text" Json.readText

/-- The members of a page of which the text may be none. -/
def membersOf (title : String) (text : Json) : Members := [("title", .str title), ("text", text)]

def members (p : Page) : Members := membersOf p.title (.str p.text)

end Page

structure PathAnswer where
  start : String
  stop : String
  path : List String
  status : String
  hops : Int
  elapsedMillis : Option Float

namespace PathAnswer

/-- A span of time may not be negative. -/
def readMillis : Json.Reader Float :=
  Json.checked Json.readFloat (fun x => decide (0 ≤ x)) .belowMinimum

def read (members : Members) : Validated PathAnswer :=
  PathAnswer.mk <$> Json.required members "start" Json.readText
    <*> Json.required members "stop" Json.readText
    <*> optionalItems members "path"
    <*> Json.required members "status" Json.readText
    <*> Json.required members "hops" (atLeastWhole 0)
    <*> Json.withDefault members "elapsed_ms" none (Json.optionally readMillis)

def members (p : PathAnswer) : Members :=
  [("start", .str p.start), ("stop", .str p.stop), ("path", .ofStrings p.path),
    ("status", .str p.status), ("hops", .int p.hops),
    ("elapsed_ms", p.elapsedMillis.elim .null .float)]

end PathAnswer

structure PeakLoad where
  peak : Int

namespace PeakLoad

def read (members : Members) : Validated PeakLoad :=
  PeakLoad.mk <$> Json.required members "peak_load_30s" (atLeastWhole 1)

def members (p : PeakLoad) : Members := [("peak_load_30s", .int p.peak)]

end PeakLoad

/-- Which records were saved or restored. -/
structure Snapshot where
  status : String
  records : List (String × Bool)

namespace Snapshot

def readRecords (members : Members) : Validated (List (String × Bool)) :=
  match members.lookup "records" with
  | none => .invalid [⟨["records"], .missing⟩]
  | some (.obj records) => Json.membersFrom ["records"] Json.readTruth records
  | some _ => .invalid [⟨["records"], .notObject⟩]

def read (members : Members) : Validated Snapshot :=
  Snapshot.mk <$> Json.required members "status" Json.readText <*> readRecords members

def members (s : Snapshot) : Members :=
  [("status", .str s.status), ("records", .obj (s.records.map fun (k, b) => (k, .bool b)))]

end Snapshot

/-- How the gateway is. -/
structure Health where
  status : String
  /-- A point in time, as it was given. -/
  timestamp : Json
  version : String

namespace Health

def read (members : Members) : Validated Health :=
  Health.mk <$> Json.required members "status" Json.readText
    <*> Json.required members "timestamp" Moment.read
    <*> Json.required members "version" Json.readText

def members (h : Health) : Members :=
  [("status", .str h.status), ("timestamp", h.timestamp), ("version", .str h.version)]

end Health

end WikiGateway.Http
