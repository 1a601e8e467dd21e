import WikiGateway.Http.Body
import WikiGateway.Json.Reader
import WikiGateway.Origin
import WikiGateway.Text.Capitals
import WikiGateway.Text.Encoding

/-! Requests and responses, and how the parts of a request are read. -/
namespace WikiGateway.Http

structure Request where
  method : String
  origin : Origin
  /-- The path asked for, from the root. -/
  path : String
  /-- The query as it is sent. -/
  query : String
  body : List UInt8

/-- A request to an address, with parameters in place of those that the address has. -/
def Request.ofAddress (method address : String) (params : List (String × String))
    (body : List UInt8) : Except Fault Request := do
  let a ← (Address.read address).mapError Fault.badAddress
  let query := Address.writtenParams params
  (a.checkParts query).mapError Fault.badAddress
  let straight := if a.isWhole then a.pathFromRoot else Address.straighten a.pathFromRoot
  let path := if straight.isEmpty then "/" else straight
  return ⟨inCapitals method, .ofAddress a, String.ofList (Percent.decode path.toList), query, body⟩

inductive Response
  | answer (status : Nat) (body : Json)
  /-- The request has not the form that its route asks for. -/
  | rejected (problems : List Problem)
  /-- What was to be answered has not the form of an answer. -/
  | malformed (problems : List Problem)
  /-- Something stopped the request on its way. -/
  | stopped (fault : Fault)

namespace Response

/-- Whether a response comes back to the one who asked. -/
def isSent : Response → Bool
  | answer .. | rejected _ => true
  | malformed _ | stopped _ => false

/-- A refusal that says why. -/
def refusal (status : Nat) (detail : String) : Response :=
  .answer status (.obj [("detail", .str detail)])

def notFound : Response := refusal 404 "Not Found"

def methodNotAllowed : Response := refusal 405 "Method Not Allowed"

def unreadableBody : Response := refusal 400 "There was an error parsing the body"

/-- What is written for a member; null stands for a number that JSON lacks. -/
def written : Json → Json
  | .float x => if x.isFinite then .float x else .null
  | v => v

/-- Answers with a body, if it has the form that is to be answered. -/
def ofMembers {α : Type} (read : Members → Validated α) (members : Members) : Response :=
  match read members with
  | .valid _ => .answer 200 (.obj (members.map fun (k, v) => (k, written v)))
  | .invalid ps => .malformed ps

/-- What stops a request or a response with numbers that JSON lacks. -/
def unwritable : Fault := .badValue "Out of range float values are not JSON compliant"

end Response

namespace Request

/-- The value of a parameter; of repeated ones the last. -/
def param? (r : Request) (name : String) : Option String :=
  (Address.readParams r.query).reverse.lookup name

/-- A parameter that has to be there. -/
def text (r : Request) (name : String) : Validated String :=
  .under "query" (.ofExcept [name] ((r.param? name).elim (.error .missing) .ok))

/-- A parameter that holds a whole number. -/
def whole (r : Request) (name : String) (default : Int) : Validated Int :=
  match r.param? name with
  | none => .valid default
  | some s => .under "query" (.ofExcept [name] (Json.readWhole (.str s)))

/-- The value at the end of a way through members, as far as it leads. -/
def valueAt : List String → Json → Json
  | name :: names, v =>
    match v.member? name with
    | some member => valueAt names member
    | none => v
  | [], v => v

/-- The problems of a body, each of which is answered with the value that has it. -/
def reject {α : Type} (body : Json) (problems : List Problem) : Except Response α :=
  if problems.all fun p => (valueAt p.path body).isFinite then
    .error (.rejected (problems.map fun p => { p with path := "body" :: p.path }))
  else .error (.stopped Response.unwritable)

/-- The value in the body of a request, if there is a body. -/
def content (r : Request) : Except Response (Option Json) :=
  if r.body.isEmpty then .ok none
  else
    match (Encoding.decode? r.body).map Json.read with
    | some (.ok body) => .ok (some body)
    | some (.error .syntaxError) => reject .null [⟨[], .notJson⟩]
    | some (.error _) | none => .error .unreadableBody

/-- A body that has the form of a model. -/
def model {α : Type} (body : Option Json) (read : Members → Validated α) : Except Response α :=
  match body with
  | none => reject .null [⟨[], .missing⟩]
  | some (.obj members) =>
    match read members with
    | .valid a => .ok a
    | .invalid ps => reject (.obj members) ps
  | some body => reject body [⟨[], .notModel⟩]

end Request

end WikiGateway.Http
