import WikiGateway.OrderedMap
import WikiGateway.Failure
import WikiGateway.Ledger.Timestamps

/-!
The ledger of requests: when each entry point was called and when each term was used. The entry
points are fixed when a ledger is opened; a term comes in when it is first used.
-/
namespace WikiGateway

structure Ledger (τ : Type) where
  start : τ
  methods : List String
  invocations : OrderedMap (List τ)
  terms : OrderedMap (List τ)

namespace Ledger

variable {τ : Type}

/-- The entry points of the gateway. -/
def entryPoints : List String :=
  ["search", "get_page", "get_connected_pages", "zeitgeist", "trending", "peak_load_30s",
    "get_path", "execute_query"]

/-- For each method its series in `given`, and an empty one for the rest. -/
def seriesOf (methods : List String) (given : OrderedMap (List τ)) : OrderedMap (List τ) :=
  OrderedMap.ofList (methods.map fun m => (m, (given.find? m).getD []))

/-- A ledger without records that starts at `now`. -/
def opened (now : τ) (methods : List String := entryPoints) : Ledger τ :=
  ⟨now, methods, seriesOf methods .empty, .empty⟩

def recordInvocation (l : Ledger τ) (method : String) (now : τ) : Except Fault (Ledger τ) :=
  match l.invocations.find? method with
  | none => .error (.badValue ("Unknown method key: " ++ method))
  | some series => .ok { l with invocations := l.invocations.insert method (series ++ [now]) }

def recordTerm (l : Ledger τ) (term : String) (now : τ) : Ledger τ :=
  { l with terms := l.terms.insert term ((l.terms.find? term).getD [] ++ [now]) }

def termCounts [Instant τ] (l : Ledger τ) (since : Option τ := none) : OrderedMap Nat :=
  l.terms.map (Timestamps.countAfter since)

def invocationCounts (l : Ledger τ) : OrderedMap Nat := l.invocations.map List.length

/-- The times of all calls, in order. -/
def timestamps [Instant τ] (l : Ledger τ) : List τ :=
  Timestamps.sort (l.invocations.entries.flatMap (·.2))

def restoreTerms (l : Ledger τ) (terms : OrderedMap (List τ)) : Ledger τ := { l with terms }

/-- Takes over the series of the ledger's own methods; others are dropped, missing ones empty. -/
def restoreInvocations (l : Ledger τ) (invocations : OrderedMap (List τ)) : Ledger τ :=
  { l with invocations := seriesOf l.methods invocations }

def restoreStart (l : Ledger τ) (start : τ) : Ledger τ := { l with start }

end Ledger

end WikiGateway
