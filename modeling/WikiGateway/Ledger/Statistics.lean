import WikiGateway.Ledger.Basic
import WikiGateway.Ledger.Ranking

/-! What a ledger says about use: the terms used most, ever and of late, and the peak load. -/
namespace WikiGateway.Ledger

variable {τ : Type} [Instant τ]

/-- A window of this many seconds is looked at when none is given. -/
def defaultWindow : Int := 30

/-- The window asked for, or the default in place of none or zero. -/
def windowOr (window : Option Int) : Int :=
  match window with
  | none => defaultWindow
  | some w => if w = 0 then defaultWindow else w

/-- The terms used most since the ledger was opened. -/
def zeitgeist (l : Ledger τ) (limit : Int) : List String :=
  if limit ≤ 0 then [] else topTerms (l.termCounts.map Int.ofNat) limit

/-- A whole number of seconds as a span. -/
def span (n : Int) : Except Fault τ :=
  match Instant.seconds? n with
  | none => .error .tooLarge
  | some s => .ok s

/-- The terms used most after `now - window`. -/
def trending (l : Ledger τ) (window limit : Int) (now : τ) : Except Fault (List String) :=
  if limit ≤ 0 then .ok []
  else do
    let since := Instant.sub now (← span window)
    return topTerms ((l.termCounts (some since)).map Int.ofNat) limit

/-- The largest number of sorted times in a window `[t, t + width)`, for `t` one second apart from
`start` to `last`, or `peak` if that is larger. There is none if so many steps do not lead past
`last`. -/
def peakFrom (times : Array τ) (width last : τ) (steps : Nat) (start : τ) (peak : Nat) :
    Option Nat :=
  if Ranked.le start last then
    match steps with
    | 0 => none
    | steps + 1 =>
      let inside := Timestamps.countBefore times (Instant.add start width) -
        Timestamps.countBefore times start
      peakFrom times width last steps (Instant.add start Instant.second) (max peak inside)
  else some peak

/-- The most calls in a window whose start lies a whole number of seconds after the ledger's. While
the ledger is younger than a window, all calls, and none where no one knows its age. Where the
seconds do not lead from the start to the last window there is no answer. -/
def peakLoad (l : Ledger τ) (window : Int) (now : τ) : Except Fault Nat := do
  let times := l.timestamps
  let last := Instant.sub now (← span (window - 1))
  if Ranked.le last l.start then return times.length
  if !Ranked.le l.start last then return 0
  let width ← span window
  match peakFrom times.toArray width last (Instant.steps l.start last) l.start 0 with
  | some peak => return peak
  | none => throw .unfinished

end WikiGateway.Ledger
