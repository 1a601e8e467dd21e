import WikiGateway.OrderedMap
import WikiGateway.Failure
import WikiGateway.Instant

/-! A budget of time, measured from when it is started, with named marks on the way. -/
namespace WikiGateway

structure Budget (τ : Type) where
  total : τ
  startedAt : Option τ
  marks : OrderedMap τ

namespace Budget

variable {τ : Type} [Instant τ]

/-- A total is refused if it is not more than nothing. -/
def isRefused (total : τ) : Bool := Ranked.le total Instant.zero

/-- A budget that was not started yet. -/
def ofTotal (total : τ) : Budget τ := ⟨total, none, .empty⟩

/-- Why a total in seconds is refused. -/
def refusal (total : Float) : String :=
  "total_budget must be positive (got " ++ Decimal.text total ++ "s)"

/-- A budget of so many seconds, which have to be acceptable. -/
def ofSeconds (total : Float) : Except Fault (Budget Float) :=
  if isRefused total then .error (.badValue (refusal total)) else .ok (ofTotal total)

/-- The seconds that a search may take when no budget is given. -/
def defaultSeconds : Float := 300

/-- Starts to measure, and forgets the marks of the time before. -/
def start (b : Budget τ) (now : τ) : Budget τ := { b with startedAt := some now, marks := .empty }

/-- Time since the start; nothing before it. -/
def elapsed (b : Budget τ) (now : τ) : τ :=
  match b.startedAt with
  | none => Instant.zero
  | some t => Instant.sub now t

/-- Notes the time elapsed under a name, in place of what was noted under it before. -/
def mark (b : Budget τ) (name : String) (now : τ) : Except Fault (Budget τ) :=
  match b.startedAt with
  | none => .error (.broken "Budget not started. Call start() first.")
  | some t => .ok { b with marks := b.marks.insert name (Instant.sub now t) }

/-- What is left, at least nothing. -/
def remaining (b : Budget τ) (now : τ) : τ :=
  let left := Instant.sub b.total (b.elapsed now)
  if Ranked.lt Instant.zero left then left else Instant.zero

def isExhausted (b : Budget τ) (now : τ) : Bool := Ranked.le b.total (b.elapsed now)

end Budget

/-- A budget at one moment. -/
structure Budget.Report (τ : Type) where
  total : τ
  elapsed : τ
  remaining : τ
  marks : OrderedMap τ
  isExhausted : Bool

namespace Budget

variable {τ : Type} [Instant τ]

def report (b : Budget τ) (now : τ) : Report τ :=
  ⟨b.total, b.elapsed now, b.remaining now, b.marks, b.isExhausted now⟩

end Budget

end WikiGateway
