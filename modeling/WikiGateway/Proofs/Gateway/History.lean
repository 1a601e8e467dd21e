import WikiGateway.Gateway.Basic
import WikiGateway.Proofs.Action
import WikiGateway.Proofs.Ledger.Changes

/-! What happens to a gateway between its opening and a request: every request is counted, and only
requests for pages touch the cache. -/
namespace WikiGateway

namespace Ledger

/-- A ledger has a series for each entry point of the gateway. -/
def Ready {τ : Type} (l : Ledger τ) : Prop := l.methods = entryPoints ∧ l.Complete

theorem ready_opened {τ : Type} (start : τ) : (opened start).Ready :=
  ⟨rfl, complete_opened start entryPoints⟩

variable {τ : Type} {l : Ledger τ}

theorem Ready.changed (h : l.Ready) (change : Change τ) : (l.changed change).Ready := by
  obtain ⟨hsame, hcomplete⟩ := h.2.changed change
  exact ⟨hsame.trans h.1, hcomplete⟩

theorem Ready.changedBy (h : l.Ready) (changes : List (Change τ)) :
    (l.changedBy changes).Ready := by
  obtain ⟨hsame, hcomplete⟩ := h.2.changedBy changes
  exact ⟨hsame.trans h.1, hcomplete⟩

/-- A call of an entry point is never refused. -/
theorem Ready.recordInvocation (h : l.Ready) (request : Gateway.Request) (now : τ) :
    l.recordInvocation request.entryPoint now =
      .ok (l.changed (.invocation request.entryPoint now)) := by
  have hmem : request.entryPoint ∈ l.invocations.keys := by
    rw [h.2, List.mem_eraseDups, h.1]
    exact request.entryPoint_mem
  obtain ⟨series, hseries⟩ := OrderedMap.mem_keys_iff.mp hmem
  rw [Ledger.changed, Ledger.recordInvocation, hseries]

end Ledger

namespace Gateway

open WikiGateway.Action

variable {ω κ τ ν α : Type} {g : Gateway ω κ τ ν} {s : State ω κ τ} {P : State ω κ τ → Prop}

/-- What a request changes in the ledger. -/
def Request.changes (request : Request) (now : τ) : List (Ledger.Change τ) :=
  .invocation request.entryPoint now :: request.term?.toList.map (.term · now)

/-- A request is counted before anything else is done about it. -/
theorem runIn_note (h : s.ledger.Ready) (request : Request) : (g.note request).runIn s =
    (.ok (), { s with ledger := s.ledger.changedBy (request.changes (g.clock s.world)) }) := by
  have hcount := h.recordInvocation request (g.clock s.world)
  simp only [note, now, runIn_bind, runIn_get, runIn_pure, runIn_lift, hcount, runIn_set]
  cases hterm : request.term? with
  | none => simp only [Request.changes, hterm]; rfl
  | some term => simp only [Request.changes, hterm]; rfl

theorem runIn_now (s : State ω κ τ) : g.now.runIn s = (.ok (g.clock s.world), s) := rfl

theorem runIn_ask (question : Action ω α) (s : State ω κ τ) : (ask question).runIn s =
    ((question.runIn s.world).1, { s with world := (question.runIn s.world).2 }) := rfl

/-- A cache that fails only as caches do stops no request. -/
theorem runIn_useCache (act : Action κ α) (instead : α)
    (h : ∀ f, (act.runIn s.cached).1 = .error f → f.isA .cache = true) :
    (useCache act instead).runIn s =
      (.ok (match (act.runIn s.cached).1 with | .ok a => a | .error _ => instead),
        { s with cached := (act.runIn s.cached).2 }) := by
  rw [useCache, runIn_tryCatch, runIn_onPart]
  cases hact : (act.runIn s.cached).1 with
  | ok a => rfl
  | error f => simp only [h f hact, if_true, runIn_pure]

theorem keeps_useCache (hP : ∀ s cached, P s → P { s with cached }) (act : Action κ α)
    (instead : α) : Keeps P (useCache act instead) := by
  refine Keeps.tryCatch (fun s hs => hP s _ hs) fun f => ?_
  split
  · exact keeps_pure _
  · exact keeps_throw f

/-- A property of the cache and the ledger is left true by questions to the source. -/
theorem keeps_ask (hP : ∀ s world, P s → P { s with world }) (question : Action ω α) :
    Keeps P (ask question) := by
  intro s hs
  rw [runIn_ask]
  exact hP s _ hs

variable [Named ν] [Instant τ]

theorem runIn_answer (h : s.ledger.Ready) (request : Request) : (g.answer request).runIn s =
    (g.serve request).runIn
      { s with ledger := s.ledger.changedBy (request.changes (g.clock s.world)) } := by
  rw [answer, runIn_bind, runIn_note h]

/-- No request but one for a page touches the cache, and none but by being counted the ledger. -/
theorem keeps_serve (hP : ∀ s world, P s → P { s with world }) {request : Request}
    (hpage : ∀ title, request = .page title → Keeps P (g.pageText title)) :
    Keeps P (g.serve request) := by
  have hask {β : Type} (question : Action ω β) : Keeps (P := P) (ask question) :=
    keeps_ask hP question
  have hpath (start stop : String) : Keeps P (g.findPath start stop) :=
    keeps_get.bind fun _ => hask _
  cases request with
  | search term limit =>
    refine Keeps.map ?_ _
    rw [Gateway.search]
    split
    · exact keeps_pure _
    · exact (hask _).map _
  | page title => exact (hpage title rfl).map _
  | connectedPages title hops => exact (hask _).map _
  | zeitgeist limit => exact keeps_get.bind fun _ => keeps_pure _
  | trending limit =>
    exact keeps_get.bind fun _ => keeps_get.bind fun _ => (keeps_lift _).bind fun _ => keeps_pure _
  | peakLoad =>
    exact keeps_get.bind fun _ => keeps_get.bind fun _ => (keeps_lift _).bind fun _ => keeps_pure _
  | path start stop => exact (hpath start stop).bind fun _ => keeps_pure _
  | findPath start stop => exact (hpath start stop).map _
  | query text => exact (hask _).map _

/-- What happens to a gateway: it gets a request, the world around it changes, or its ledger is
changed from outside. -/
inductive Event (ω τ : Type)
  | call (request : Request)
  | world (world : ω)
  | ledger (change : Ledger.Change τ)

def after (g : Gateway ω κ τ ν) (s : State ω κ τ) : Event ω τ → State ω κ τ
  | .call request => ((g.answer request).runIn s).2
  | .world world => { s with world }
  | .ledger change => { s with ledger := s.ledger.changed change }

def afterAll (g : Gateway ω κ τ ν) (s : State ω κ τ) (events : List (Event ω τ)) : State ω κ τ :=
  events.foldl g.after s

/-- Whatever the cache and the source do, the ledger is what it is once the request is counted. -/
theorem keeps_serve_ledger (l : Ledger τ) (request : Request) :
    Keeps (fun s : State ω κ τ => s.ledger = l) (g.serve request) := by
  refine keeps_serve (fun s world hs => hs) fun title _ => ?_
  refine (keeps_get.bind fun _ => keeps_pure _).bind fun now => ?_
  refine (keeps_useCache (fun s cached hs => hs) _ _).bind fun found => ?_
  split
  · exact keeps_pure _
  · refine (keeps_ask (fun s world hs => hs) _).bind fun text => ?_
    refine (keeps_get.bind fun _ => keeps_pure _).bind fun now => ?_
    exact (keeps_useCache (fun s cached hs => hs) _ _).bind fun _ => keeps_pure _

/-- What an event changes in the ledger of a gateway. -/
def changesOf (g : Gateway ω κ τ ν) (s : State ω κ τ) : Event ω τ → List (Ledger.Change τ)
  | .call request => request.changes (g.clock s.world)
  | .world _ => []
  | .ledger change => [change]

def changesOfAll (g : Gateway ω κ τ ν) (s : State ω κ τ) :
    List (Event ω τ) → List (Ledger.Change τ)
  | [] => []
  | event :: events => g.changesOf s event ++ g.changesOfAll (g.after s event) events

theorem ledger_after (h : s.ledger.Ready) (event : Event ω τ) :
    (g.after s event).ledger = s.ledger.changedBy (g.changesOf s event) := by
  cases event with
  | call request =>
    rw [Gateway.after, runIn_answer h]
    exact keeps_serve_ledger _ request _ rfl
  | world world => rfl
  | ledger change => rfl

/-- The ledger of a gateway is what the events make of it. -/
theorem ledger_afterAll (h : s.ledger.Ready) (events : List (Event ω τ)) :
    (g.afterAll s events).ledger = s.ledger.changedBy (g.changesOfAll s events) := by
  induction events generalizing s with
  | nil => rfl
  | cons event events ih =>
    have hafter := g.ledger_after h event
    have hready : (g.after s event).ledger.Ready := hafter ▸ h.changedBy _
    have hrest := ih hready
    rw [hafter] at hrest
    exact hrest.trans (List.foldl_append ..).symm

theorem ready_afterAll (h : s.ledger.Ready) (events : List (Event ω τ)) :
    (g.afterAll s events).ledger.Ready := by
  rw [ledger_afterAll h]
  exact h.changedBy _

end Gateway

end WikiGateway
