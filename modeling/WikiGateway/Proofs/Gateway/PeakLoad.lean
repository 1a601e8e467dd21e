import WikiGateway.Proofs.Decimal.Bits
import WikiGateway.Proofs.Gateway.History
import WikiGateway.Proofs.Ledger.History
import WikiGateway.Proofs.Ledger.PeakLoad
import WikiGateway.Source.Table
import WikiGateway.Telemetry.Record

/-! A request for the peak load counts itself first, and finds itself in a window unless the seconds
lead past it. -/
namespace WikiGateway

namespace Ledger

variable {τ : Type} {l : Ledger τ}

/-- A ledger notes a call of an entry point among the calls. -/
theorem Ready.mem_calls (h : l.Ready) (request : Gateway.Request) (now : τ) :
    now ∈ (l.changed (.invocation request.entryPoint now)).calls := by
  have hmethod : request.entryPoint ∈ l.methods := by
    rw [h.1]
    exact request.entryPoint_mem
  have hseries := h.2.find?_changed hmethod (.invocation request.entryPoint now)
  simp only [Change.invocations?, Change.call?, if_true, Option.toList_some] at hseries
  exact List.mem_flatMap.mpr ⟨_, OrderedMap.find?_eq_some_iff.mp hseries, by simp⟩

end Ledger

namespace Gateway

open WikiGateway.Action

variable {ω κ τ ν : Type} [Named ν]

section Counted

variable [Instant τ] {g : Gateway ω κ τ ν} {s : State ω κ τ}

/-- The ledger once a request for the peak load is counted. -/
def counted (g : Gateway ω κ τ ν) (s : State ω κ τ) : Ledger τ :=
  s.ledger.changed (.invocation "peak_load_30s" (g.clock s.world))

theorem runIn_peakLoad (h : s.ledger.Ready) : ((g.answer .peakLoad).runIn s).1 =
    ((g.counted s).peakLoad g.window (g.clock s.world)).map .count := by
  rw [runIn_answer h]
  simp only [serve, now, runIn_bind, runIn_get, runIn_pure, runIn_lift]
  have hcounted : s.ledger.changedBy (Request.peakLoad.changes (g.clock s.world)) = g.counted s :=
    rfl
  rw [hcounted]
  cases (g.counted s).peakLoad g.window (g.clock s.world) <;> rfl

end Counted

section Exact

variable [Field τ] [LinearOrder τ] [FloorSemiring τ] [IsStrictOrderedRing τ]

/-- With exact times every request for the peak load is answered, and with at least one call. -/
theorem peakLoad_exact (g : Gateway ω κ τ ν) (hwindow : 1 ≤ g.window) (world : ω) (cached : κ)
    (start : τ) (events : List (Event ω τ)) :
    ∃ peak, ((g.answer .peakLoad).runIn (g.afterAll ⟨world, cached, .opened start⟩ events)).1 =
      .ok (.count peak) ∧ 0 < peak := by
  have hready := g.ready_afterAll (s := ⟨world, cached, .opened start⟩) (Ledger.ready_opened start)
    events
  obtain ⟨peak, hpeak, hpos⟩ := Ledger.peakLoad_pos hwindow (hready.mem_calls .peakLoad _)
  refine ⟨peak, ?_, hpos⟩
  rw [runIn_peakLoad hready]
  change ((g.counted _).peakLoad _ _) = _ at hpeak
  rw [hpeak]
  rfl

end Exact

section Doubles

open Ledger (Passes secondsAfter inWindow)

/-- With doubles a request for the peak load is answered with at least one call if the ledger is
younger than a window, or else if the seconds pass the last window and there is a call in a window
before; if there is none, the answer is zero. Where the seconds never pass the last window, there is
no answer. -/
theorem peakLoad_outcomes (g : Gateway ω κ Float ν) (world : ω) (cached : κ) (start : Float)
    (events : List (Event ω Float)) {width back : Float}
    (hwidth : Instant.seconds? g.window = some width)
    (hback : Instant.seconds? (g.window - 1) = some back) :
    let s := g.afterAll ⟨world, cached, .opened start⟩ events
    let l := g.counted s
    let last := g.clock s.world - back
    let inside (k : Nat) := inWindow l.timestamps.toArray width (secondsAfter l.start k)
    let answer := ((g.answer .peakLoad).runIn s).1
    ((∃ peak, answer = .ok (.count peak) ∧ 0 < peak) ↔
      last ≤ l.start ∨ ∃ n, Passes l.start last n ∧ ∃ k < n, 0 < inside k) ∧
    (answer = .ok (.count 0) ↔
      ¬ last ≤ l.start ∧ ∃ n, Passes l.start last n ∧ ∀ k < n, inside k = 0) ∧
    (answer = .error .unfinished ↔
      ¬ last ≤ l.start ∧ ∀ k, secondsAfter l.start k ≤ last) ∧
    ((∀ t ∈ l.calls, t.isNaN = false) → ∀ k, inside k = l.calls.countP fun t =>
      !decide (t < secondsAfter l.start k) && decide (t < secondsAfter l.start k + width)) := by
  intro s l last inside answer
  have hready := g.ready_afterAll (s := ⟨world, cached, .opened start⟩) (Ledger.ready_opened start)
    events
  have hanswer : answer = (l.peakLoad g.window (g.clock s.world)).map .count :=
    runIn_peakLoad hready
  have hcalls : ∀ hnumbers : ∀ t ∈ l.calls, t.isNaN = false, ∀ k, inside k = _ :=
    fun hnumbers k => Ledger.inWindow_doubles hnumbers width (secondsAfter l.start k)
  have hlength : 0 < l.timestamps.length := by
    rw [Ledger.length_timestamps]
    exact List.length_pos_of_mem (hready.mem_calls .peakLoad _)
  rw [hanswer]
  rcases Ledger.peakLoad_cases hback hwidth l (g.clock s.world) with
    ⟨hearly, hpeak⟩ | ⟨hlate, n, hn, hpeak⟩ | ⟨hlate, hnever, hpeak⟩
  · have hle : last ≤ l.start := of_decide_eq_true hearly
    rw [hpeak]
    refine ⟨?_, ?_, ?_, hcalls⟩
    · simp [Except.map, hle, hlength]
    · simp [Except.map, hle, hlength.ne']
    · simp [Except.map, hle]
  · have hnot : ¬ last ≤ l.start := of_decide_eq_false hlate
    change Passes l.start last n at hn
    have hends : ¬ ∀ k, secondsAfter l.start k ≤ last := fun h => of_decide_eq_false hn.passed (h n)
    rw [hpeak]
    refine ⟨?_, ?_, ?_, hcalls⟩
    · rw [hn.exists_iff, ← Ledger.mostIn_pos_iff]
      simp [Except.map, hnot]
    · rw [hn.exists_iff, ← Ledger.mostIn_eq_zero_iff]
      simp [Except.map, hnot]
    · simp [Except.map, hends]
  · have hnot : ¬ last ≤ l.start := of_decide_eq_false hlate
    have hnone (n : Nat) : ¬ Passes l.start last n := by
      intro hn
      exact Bool.false_ne_true (hn.passed.symm.trans (hnever n))
    have hall : ∀ k, secondsAfter l.start k ≤ last := fun k => of_decide_eq_true (hnever k)
    rw [hpeak]
    refine ⟨?_, ?_, ?_, hcalls⟩
    · simp [Except.map, hnot, hnone]
    · simp [Except.map, hnone]
    · simp [Except.map, hnot, hall]

/-- A gateway to a wiki without pages. -/
def deserted : Gateway (Session Float) Unit Float String where
  source := Table.source ⟨[], [], [], [], [], [], [], 0⟩
  cache := Cache.faulty none none none true
  clock := Session.now
  searchTime := 300
  searchSteps := fun _ => 2
  window := 30

/-- The state of the gateway some time after it was opened. -/
def quiet (opened : Float) (events : List (Event (Session Float) Float)) :
    State (Session Float) Unit Float :=
  deserted.afterAll ⟨⟨opened, #[]⟩, (), .opened opened⟩ events

theorem seconds_window : Instant.seconds? deserted.window = some (30 : Float) := by
  have hwindow : deserted.window = 30 := rfl
  rw [hwindow]
  rfl

theorem seconds_back : Instant.seconds? (deserted.window - 1) = some (29 : Float) := by
  have hback : deserted.window - 1 = 29 := rfl
  rw [hback]
  rfl

/-- Half a minute and more after the ledger was opened, the request is in the last window. -/
theorem peakLoad_outcomes_quiet :
    Instant.seconds? deserted.window = some (30 : Float) ∧
    Instant.seconds? (deserted.window - 1) = some (29 : Float) ∧
    ∃ peak, ((deserted.answer .peakLoad).runIn (quiet 1000 [.world ⟨1050, #[]⟩])).1 =
      .ok (.count peak) ∧ 0 < peak := by
  refine ⟨seconds_window, seconds_back, ?_⟩
  obtain ⟨hpos, -⟩ :=
    peakLoad_outcomes deserted ⟨1000, #[]⟩ () 1000 [.world ⟨1050, #[]⟩]
      seconds_window seconds_back
  refine hpos.mpr (Or.inr ⟨22, ⟨?_, ?_⟩, 21, by decide, ?_⟩)
  · decide +kernel
  · decide +kernel
  · decide +kernel

theorem answer_quiet (opened : Float) (events : List (Event (Session Float) Float)) :
    ((deserted.answer .peakLoad).runIn (quiet opened events)).1 =
      ((deserted.counted (quiet opened events)).peakLoad deserted.window
        (quiet opened events).world.now).map .count := by
  have hready : (quiet opened events).ledger.Ready :=
    deserted.ready_afterAll (Ledger.ready_opened opened) events
  exact runIn_peakLoad hready

/-- The state of the gateway fifty seconds after it was opened, with a start that was loaded. -/
def reopened (start : Float) : State (Session Float) Unit Float :=
  quiet 1000 [.ledger (.start start), .world ⟨1050, #[]⟩]

theorem start_reopened (start : Float) : (deserted.counted (reopened start)).start = start := by
  have hcall : (Ledger.Change.invocation "peak_load_30s" (1050 : Float)).part ≠ .start := by
    rintro ⟨⟩
  exact Ledger.start_changed hcall

theorem answer_reopened (start : Float) :
    ((deserted.answer .peakLoad).runIn (reopened start)).1 =
      ((deserted.counted (reopened start)).peakLoad deserted.window 1050).map .count :=
  answer_quiet 1000 _

/-- A text can be loaded as a start that passes a test. -/
theorem exists_decodeStart (payload : String) (test : Float → Bool)
    (h : (Telemetry.decodeStart payload).toOption.any test = true) :
    ∃ start, Telemetry.decodeStart payload = .ok start ∧ test start = true := by
  cases hstart : Telemetry.decodeStart payload with
  | ok start => exact ⟨start, rfl, by simpa [hstart, Except.toOption] using h⟩
  | error fault => simp [hstart, Except.toOption] at h

/-- A start is loaded that is not a number, and one that is endlessly long ago. With the former a
request looks at no window at all, with the latter at windows without end. Where nothing is loaded,
a rounded second may lead past the last window. -/
theorem peakLoad_astray :
    (∃ start, Telemetry.decodeStart "\x7b\"start_time\": NaN\x7d" = .ok start ∧
      ((deserted.answer .peakLoad).runIn (reopened start)).1 = .ok (.count 0)) ∧
    (∃ start, Telemetry.decodeStart "\x7b\"start_time\": -Infinity\x7d" = .ok start ∧
      ((deserted.answer .peakLoad).runIn (reopened start)).1 = .error .unfinished) ∧
    ((deserted.answer .peakLoad).runIn (quiet 0.7 [.world ⟨30.7, #[]⟩])).1 = .ok (.count 0) := by
  refine ⟨?_, ?_, ?_⟩
  · obtain ⟨start, hdecoded, hnan⟩ := exists_decodeStart "\x7b\"start_time\": NaN\x7d" Float.isNaN
      (by decide +kernel)
    have hlate : ¬ (1050 : Float) - 29 ≤ start := Decimal.not_le_of_isNaN (Or.inr hnan)
    have hpassed : ¬ start ≤ (1050 : Float) - 29 := Decimal.not_le_of_isNaN (Or.inl hnan)
    have hpasses : Passes start ((1050 : Float) - 29) 0 :=
      Ledger.passes_zero (decide_eq_false hpassed)
    refine ⟨start, hdecoded, ?_⟩
    rw [← start_reopened start] at hlate hpasses
    rw [answer_reopened,
      Ledger.peakLoad_of_passes seconds_back seconds_window (decide_eq_false hlate) hpasses]
    rfl
  · obtain ⟨start, hdecoded, htest⟩ := exists_decodeStart "\x7b\"start_time\": -Infinity\x7d"
      (fun start => decide ((start + 1).toBits.toNat = start.toBits.toNat) &&
        decide (start ≤ 1050 - 29) && !decide (1050 - 29 ≤ start)) (by decide +kernel)
    simp only [Bool.and_eq_true, decide_eq_true_iff, Bool.not_eq_true', decide_eq_false_iff_not]
      at htest
    obtain ⟨⟨hbits, hbefore⟩, hlate⟩ := htest
    have hstays (k : Nat) : secondsAfter start k = start :=
      Ledger.secondsAfter_of_stuck (Decimal.eq_of_bits hbits) k
    have hnever (k : Nat) : Ranked.le (secondsAfter start k) ((1050 : Float) - 29) = true := by
      rw [hstays]
      exact decide_eq_true hbefore
    refine ⟨start, hdecoded, ?_⟩
    rw [← start_reopened start] at hlate hnever
    rw [answer_reopened,
      Ledger.peakLoad_unfinished seconds_back seconds_window (decide_eq_false hlate) hnever]
    rfl
  · have hlate : Ranked.le ((30.7 : Float) - 29) 0.7 = false := by decide +kernel
    have hpasses : Passes (0.7 : Float) ((30.7 : Float) - 29) 1 :=
      ⟨by decide +kernel, by decide +kernel⟩
    have hnone : Ledger.mostIn
        (deserted.counted (quiet 0.7 [.world ⟨30.7, #[]⟩])).timestamps.toArray (30 : Float) 0.7 1 =
        0 := by decide +kernel
    have hpeak := Ledger.peakLoad_of_passes seconds_back seconds_window
      (l := deserted.counted (quiet 0.7 [.world ⟨30.7, #[]⟩])) hlate hpasses
    rw [answer_quiet]
    refine (congrArg (Except.map Answer.count) hpeak).trans ?_
    exact congrArg (fun peak => Except.ok (Answer.count peak)) hnone

end Doubles

end Gateway

end WikiGateway
