import WikiGateway.Client.Basic
import WikiGateway.Limits
import WikiGateway.Source

/-! What a client can be asked: the questions of a source of wiki content. -/
namespace WikiGateway.Client

/-- The most hits that a search asks for at once. -/
def mostHits : Int := 500

/-- The first of the pages in an answer; an empty object if there is none. -/
def firstPage (data : Json) : Except Fault Json := do
  let pages ← (← data.memberOr "query" (.obj [])).memberOr "pages" .null
  if pages.isSet then pages.firstItem else return .obj []

/-- Whether a page is empty, or said to be missing or invalid. -/
def isMissing (page : Json) : Except Fault Bool := do
  if !page.isSet then return true
  if (← page.memberOr "missing" .null).isSet then return true
  return (← page.memberOr "invalid" .null).isSet

/-- The titles of the things in a list. -/
def titles (list : Json) : Except Fault (List Json) := do
  (← list.parts).mapM (Json.memberAt "title")

/-- The titles in a list of the answer. -/
def listed (name : String) (data : Json) : Except Fault (List Json) := do
  titles (← (← data.memberOr "query" (.obj [])).memberOr name (.arr []))

/-- The titles in a list of the answer's page. -/
def listedOnPage (name : String) (data : Json) : Except Fault (List Json) := do
  titles (← (← firstPage data).memberOr name (.arr []))

/-- A title that holds the separator of titles is that of no page. -/
def isNoTitle (title : String) : Bool := title.toList.contains Limits.titleSeparator

variable (c : Client)

def search (term : String) (limit : Int) : Action Wire (List Json) :=
  if limit ≤ 0 then return []
  else
    c.collect (.ofList [("list", .str "search"), ("srsearch", .str term),
      ("srlimit", .int (min limit mostHits)), ("srprop", .str "")]) (listed "search")
      (some limit.toNat)

/-- The first revision of a page, if there are any. -/
def firstRevision? (page : Json) : Except Fault (Option Json) := do
  let revisions ← page.memberOr "revisions" .null
  if revisions.isSet then return some (← revisions.firstItem) else return none

/-- The text of a page, as its newest revision has it. -/
def textOf (page : Json) : Except Fault Json := do
  if ← isMissing page then return .str ""
  match ← firstRevision? page with
  | none => return .str ""
  | some r =>
    let main ← (← r.memberOr "slots" (.obj [])).memberOr "main" (.obj [])
    main.memberOr "content" (.str "")

/-- The name of whoever made the newest revision of a page. -/
def editorOf (page : Json) : Except Fault Json := do
  if ← isMissing page then return .str ""
  match ← firstRevision? page with
  | none => return .str ""
  | some r => r.memberOr "user" (.str "")

def pageText (title : String) : Action Wire Json := do
  if isNoTitle title then return .str ""
  let data ← c.request (.ofList [("prop", .str "revisions"), ("titles", .str title),
    ("rvprop", .str "content"), ("rvslots", .str "main")])
  textOf (← firstPage data)

def linksOn (title : String) : Action Wire (List Json) :=
  if isNoTitle title then return []
  else
    c.collect (.ofList [("prop", .str "links"), ("titles", .str title), ("plnamespace", .int 0),
      ("pllimit", .str "max")]) (listedOnPage "links")

def categoryMembers (category : String) : Action Wire (List Json) :=
  if isNoTitle category then return []
  else
    c.collect (.ofList [("list", .str "categorymembers"), ("cmtitle", .str category),
      ("cmlimit", .str "max")]) (listed "categorymembers")

def categoriesOn (title : String) : Action Wire (List Json) :=
  if isNoTitle title then return []
  else
    c.collect (.ofList [("prop", .str "categories"), ("titles", .str title),
      ("cllimit", .str "max")]) (listedOnPage "categories")

def lastEditor (title : String) : Action Wire Json := do
  if isNoTitle title then return .str ""
  let data ← c.request (.ofList [("prop", .str "revisions"), ("titles", .str title),
    ("rvprop", .str "user"), ("rvlimit", .int 1)])
  editorOf (← firstPage data)

def pageExists (title : String) : Action Wire Bool := do
  if isNoTitle title then return false
  let data ← c.request (.ofList [("prop", .str "info"), ("titles", .str title)])
  return !(← isMissing (← firstPage data))

/-- The client as a source for the gateway. -/
def source : Source Wire Json where
  search := c.search
  pageText := c.pageText
  linksOn := c.linksOn
  categoryMembers := c.categoryMembers
  categoriesOn := c.categoriesOn
  lastEditor := c.lastEditor
  pageExists := c.pageExists

end WikiGateway.Client
