import WikiGateway.Http.Site
import WikiGateway.Telemetry.Schedule

/-! The life of a site: what is done before the first request and after the last. -/
namespace WikiGateway.Http

/-- The connection to the wiki, and how often it was closed. -/
structure Connection where
  isOpen : Bool
  closings : Nat
  deriving DecidableEq, Repr

def Connection.fresh : Connection := ⟨true, 0⟩

/-- Closes a connection, if it is still open. -/
def Connection.close (c : Connection) : Connection :=
  if c.isOpen then ⟨false, c.closings + 1⟩ else c

/-- A site with what else runs beside it. -/
structure Running (ω κ : Type) where
  site : Site ω κ
  schedule : Telemetry.Schedule
  connection : Connection

namespace Running

variable {ω κ ν : Type} [Named ν]

/-- A site that was not started yet. The ledger is to be saved every `autosave` seconds. -/
def ofSite (site : Site ω κ) (autosave : Int) : Running ω κ :=
  ⟨site, .create none autosave, .fresh⟩

/-- Starts: the ledger is loaded, if that is asked for, and its saving is scheduled. -/
def startup (load : Bool) : Action (Running ω κ) Unit := do
  if load then
    let _ ← Site.loadAll.onPart Running.site fun site (s : Running ω κ) => { s with site }
  let (_, schedule) ← (← get).schedule.start
  modify fun s => { s with schedule }

def handle (g : Gateway ω κ Float ν) (r : Request) : Action (Running ω κ) Response :=
  (Site.handle g r).onPart Running.site fun site s => { s with site }

/-- Shuts down: where savings were scheduled there is a last one, and the connection is closed
unless the closing itself cannot be called. -/
def shutdown (closes : Bool) (s : Running ω κ) : Running ω κ :=
  { site := if 0 < s.schedule.interval then (Site.saveAll.run s.site).2 else s.site
    schedule := s.schedule.shutdown
    connection := if closes then s.connection.close else s.connection }

end Running

end WikiGateway.Http
