import WikiGateway.Failure

/-! The schedule on which the ledger is saved. -/
namespace WikiGateway.Telemetry

structure Schedule where
  /-- Seconds between two savings; none is scheduled unless this is positive. -/
  interval : Int
  isRunning : Bool
  deriving DecidableEq, Repr

namespace Schedule

/-- The one job of a running schedule. -/
def jobId : String := "telemetry_snapshot"

def jobName : String := "Telemetry Snapshot"

/-- Intervals beyond this, in seconds, lead past the last date that there is, the end of the year
9999. -/
def maxInterval : Int := 251600000000

/-- A schedule at the interval given or, without one, at that of the settings. -/
def create (interval : Option Int) (setting : Int) : Schedule := ⟨interval.getD setting, false⟩

/-- Starts the schedule. Tells whether it was running before, and nothing if it does not run. -/
def start (s : Schedule) : Except Fault (Option Bool × Schedule) :=
  if s.interval ≤ 0 then .ok (none, s)
  else if s.isRunning then .ok (some true, s)
  else if maxInterval < s.interval then .error .tooLarge
  else .ok (some false, { s with isRunning := true })

def shutdown (s : Schedule) : Schedule := { s with isRunning := false }

end Schedule

end WikiGateway.Telemetry
