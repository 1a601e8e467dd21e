import WikiGateway.OrderedMap
import WikiGateway.Failure

/-!
A store of texts by name. Work on it is done in sessions, and may be made to fail at each stage of
one. What is written counts from the moment it is committed.
-/
namespace WikiGateway

namespace Store

/-- The stages of a session at which it can fail. -/
inductive Stage
  | opening | querying | adding | committing | rollingBack | closing
  deriving DecidableEq, Repr

namespace Stage

def all : List Stage := [opening, querying, adding, committing, rollingBack, closing]

/-- What is done at a stage. -/
def work : Stage → String
  | opening => "open"
  | querying => "query"
  | adding => "add"
  | committing => "commit"
  | rollingBack => "rollback"
  | closing => "close"

/-- What is raised where a session fails. -/
def fault : Stage → Fault
  | opening => .broken "database is gone"
  | stage => .broken (stage.work ++ ": disk I/O error")

end Stage

end Store

structure Store where
  records : OrderedMap String
  /-- The stages that fail. -/
  fails : Store.Stage → Bool

namespace Store

/-- A store in which nothing fails. -/
def healthy (records : OrderedMap String) : Store := ⟨records, fun _ => false⟩

/-- A store in which one stage may fail. -/
def failingAt (stage : Option Stage) (s : Store) : Store :=
  { s with fails := fun x => stage = some x }

/-- Goes through a stage, if it does not fail. -/
def pass (s : Store) (stage : Stage) : Except Fault Unit :=
  if s.fails stage then .error stage.fault else .ok ()

def queryFailure (query : String) (f : Fault) : Fault := .failure (.databaseQuery query f.reason [])

/-- The record of a name in words, as failures tell it. -/
def label (work name : String) : String := work ++ " telemetry_snapshots[" ++ name ++ "]"

/-- The text stored under a name, looked up in an open session. -/
def find? (s : Store) (name : String) : Except Fault (Option String) :=
  match s.pass .querying with
  | .ok () => .ok (s.records.find? name)
  | .error f => .error (queryFailure (label "select" name) f)

/-- The text stored under a name. A session that does not close gives no answer. -/
def payload? (s : Store) (name : String) : Except Fault (Option String) := do
  s.pass .opening
  s.pass .closing
  s.find? name

/-- Writes a text in an open session and commits it. -/
def commit (s : Store) (name payload : String) : Except Fault Store := do
  s.pass .querying
  if !s.records.contains name then s.pass .adding
  s.pass .committing
  return { s with records := s.records.insert name payload }

/-- Writes a text in an open session; if that fails, what was done is taken back. -/
def write (s : Store) (name payload : String) : Except Fault Store :=
  match s.commit name payload with
  | .ok t => .ok t
  | .error f => do
    s.pass .rollingBack
    throw (queryFailure (label "upsert" name) f)

/-- Stores a text under a name. Where only the closing fails, the text is stored all the same. -/
def put (name payload : String) : Action Store Unit := do
  let s ← get
  s.pass .opening
  match s.write name payload with
  | .ok t =>
    set t
    t.pass .closing
  | .error f =>
    s.pass .closing
    throw f

end Store

end WikiGateway
