import WikiGateway.OrderedMap
import WikiGateway.Failure

/-! A wire to a wiki that follows a script: what comes of each request is laid out in advance. -/
namespace WikiGateway

/-- What comes of a request. -/
inductive Exchange
  | answer (status : Int) (body : List UInt8)
  | timeout
  /-- The connection failed; the description says how. -/
  | lost (description : String)

def Exchange.isAnswer : Exchange → Bool
  | answer .. => true
  | timeout | lost _ => false

/-- The parameters of a request, by name. -/
abbrev Parameters := OrderedMap Json

namespace Parameters

/-- The text of one value. -/
def text : Json → String
  | .null => ""
  | .bool b => if b then "true" else "false"
  | v => v.message

/-- The parameters as they are sent: the name of a list is repeated for each of its items. -/
def pairs (params : Parameters) : List (String × String) :=
  params.entries.flatMap fun (name, value) =>
    match value with
    | .arr items => items.map fun v => (name, text v)
    | v => [(name, text v)]

/-- The query in which the parameters are sent. -/
def query (params : Parameters) : String := Address.writtenParams params.pairs

end Parameters

/-- The exchanges still to come, and the requests sent so far. -/
structure Wire where
  script : List Exchange
  sent : Array (List (String × String))

namespace Wire

def ofScript (script : List Exchange) : Wire := ⟨script, #[]⟩

/-- How many bytes come of an exchange. -/
def weight : Exchange → Nat
  | .answer _ body => body.length
  | .timeout | .lost _ => 0

/-- More pages than a search can come upon: a title takes at least a byte of an answer. -/
def pageBound (w : Wire) : Nat := w.script.foldl (fun n e => n + weight e) 2

/-- What comes of the requests after those of the script. -/
def silence : Exchange := .answer 500 []

/-- Sends a request; the next exchange of the script comes of it. -/
def send (params : Parameters) : Action Wire Exchange := do
  let w ← get
  set (⟨w.script.tail, w.sent.push params.pairs⟩ : Wire)
  return w.script.headD silence

end Wire

end WikiGateway
