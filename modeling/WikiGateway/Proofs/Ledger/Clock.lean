import WikiGateway.Proofs.Ledger.History
import WikiGateway.Proofs.Ledger.PeakLoad

/-! A ledger under a clock that never goes back: it holds the calls that were made, each between its
opening and now. -/
namespace WikiGateway

namespace Ledger

variable {τ : Type}

/-- What happens to a ledger under a clock: a method is called, or time passes. -/
inductive Occurrence (τ : Type)
  | call (method : String)
  | wait (span : τ)

/-- A ledger and the time on its clock. -/
structure Clocked (τ : Type) where
  ledger : Ledger τ
  now : τ

theorem calls_opened (start : τ) (methods : List String) : (opened start methods).calls = [] := by
  have hnone : TimesIn (fun _ => False) (opened start methods).invocations :=
    timesIn_empty.seriesOf methods
  rw [calls, List.flatMap_eq_nil_iff]
  rintro ⟨method, times⟩ hentry
  exact List.eq_nil_iff_forall_not_mem.mpr fun t ht =>
    hnone method times (OrderedMap.find?_eq_some_iff.mpr hentry) t ht

/-- A call is noted, if the ledger has the method. -/
theorem Complete.perm_calls {l : Ledger τ} (h : l.Complete) (method : String) (now : τ) :
    (l.changed (.invocation method now)).calls.Perm
      (l.calls ++ if method ∈ l.methods then [now] else []) := by
  split
  · rename_i hmethod
    obtain ⟨series, hseries⟩ := OrderedMap.mem_keys_iff.mp (h.mem_keys_iff.mpr hmethod)
    rw [Ledger.changed, Ledger.recordInvocation, hseries]
    exact OrderedMap.perm_flatMap_insert hseries rfl
  · rename_i hmethod
    rw [Ledger.changed, h.recordInvocation_unknown hmethod, List.append_nil]

section General

variable [Instant τ]

namespace Clocked

/-- A ledger that is opened now. -/
def opened (now : τ) (methods : List String) : Clocked τ := ⟨.opened now methods, now⟩

def after (c : Clocked τ) : Occurrence τ → Clocked τ
  | .call method => { c with ledger := c.ledger.changed (.invocation method c.now) }
  | .wait span => { c with now := Instant.add c.now span }

def afterAll (c : Clocked τ) (os : List (Occurrence τ)) : Clocked τ := os.foldl after c

end Clocked

/-- The times at which the methods are called, from now on. -/
def callTimes (methods : List String) : (now : τ) → List (Occurrence τ) → List τ
  | _, [] => []
  | now, .call method :: os =>
    (if method ∈ methods then [now] else []) ++ callTimes methods now os
  | now, .wait span :: os => callTimes methods (Instant.add now span) os

namespace Clocked

variable {c : Clocked τ} {os : List (Occurrence τ)}

theorem complete_after (h : c.ledger.Complete) (o : Occurrence τ) :
    (c.after o).ledger.methods = c.ledger.methods ∧ (c.after o).ledger.Complete := by
  cases o with
  | call method => exact h.changed (.invocation method c.now)
  | wait span => exact ⟨rfl, h⟩

theorem start_after (c : Clocked τ) (o : Occurrence τ) :
    (c.after o).ledger.start = c.ledger.start := by
  cases o with
  | call method => exact start_changed (by rintro ⟨⟩)
  | wait span => rfl

theorem start_afterAll (c : Clocked τ) (os : List (Occurrence τ)) :
    (c.afterAll os).ledger.start = c.ledger.start := by
  induction os generalizing c with
  | nil => rfl
  | cons o os ih => exact (ih (c.after o)).trans (c.start_after o)

theorem complete_afterAll (h : c.ledger.Complete) (os : List (Occurrence τ)) :
    (c.afterAll os).ledger.Complete := by
  induction os generalizing c with
  | nil => exact h
  | cons o os ih => exact ih (complete_after h o).2

theorem afterAll_append (c : Clocked τ) (os later : List (Occurrence τ)) :
    c.afterAll (os ++ later) = (c.afterAll os).afterAll later := List.foldl_append

/-- The ledger holds the calls that it held and those that were made. -/
theorem perm_calls_afterAll (h : c.ledger.Complete) (os : List (Occurrence τ)) :
    (c.afterAll os).ledger.calls.Perm
      (c.ledger.calls ++ callTimes c.ledger.methods c.now os) := by
  induction os generalizing c with
  | nil => rw [callTimes, List.append_nil]; rfl
  | cons o os ih =>
    obtain ⟨hmethods, hcomplete⟩ := complete_after h o
    have hrest := ih hcomplete
    rw [hmethods] at hrest
    cases o with
    | call method =>
      have hcall := (h.perm_calls method c.now).append_right (callTimes c.ledger.methods c.now os)
      rw [List.append_assoc] at hcall
      exact hrest.trans hcall
    | wait span => exact hrest

theorem perm_calls_opened (start : τ) (methods : List String) (os : List (Occurrence τ)) :
    ((opened start methods).afterAll os).ledger.calls.Perm (callTimes methods start os) := by
  have hcalls := perm_calls_afterAll (c := opened start methods)
    (complete_opened start methods) os
  have hnone : (opened start methods).ledger.calls = [] := calls_opened start methods
  rwa [hnone] at hcalls

end Clocked

end General

section Exact

variable [Field τ] [LinearOrder τ] {os : List (Occurrence τ)}

/-- The clock never goes back. -/
def Forward (os : List (Occurrence τ)) : Prop := ∀ span, .wait span ∈ os → 0 ≤ span

theorem Forward.append {later : List (Occurrence τ)} (h : Forward os) (hlater : Forward later) :
    Forward (os ++ later) :=
  fun span hmem => (List.mem_append.mp hmem).elim (h span) (hlater span)

theorem Forward.tail {o : Occurrence τ} (h : Forward (o :: os)) : Forward os :=
  fun span hmem => h span (List.mem_cons_of_mem o hmem)

variable [FloorSemiring τ] [IsStrictOrderedRing τ]

theorem Forward.now_le_after {o : Occurrence τ} (h : Forward (o :: os)) (c : Clocked τ) :
    c.now ≤ (c.after o).now := by
  cases o with
  | call method => exact le_rfl
  | wait span => exact le_add_of_nonneg_right (h span List.mem_cons_self)

theorem Forward.now_le (h : Forward os) (c : Clocked τ) : c.now ≤ (c.afterAll os).now := by
  induction os generalizing c with
  | nil => exact le_rfl
  | cons o os ih => exact (h.now_le_after c).trans (ih h.tail (c.after o))

/-- Calls are made between then and now. -/
theorem Forward.callTimes_bounds (h : Forward os) (c : Clocked τ) (methods : List String) :
    ∀ t ∈ callTimes methods c.now os, c.now ≤ t ∧ t ≤ (c.afterAll os).now := by
  induction os generalizing c with
  | nil =>
    intro t ht
    cases ht
  | cons o os ih =>
    have hrest := ih h.tail (c.after o)
    have hfirst := h.now_le_after c
    cases o with
    | call method =>
      intro t ht
      rcases List.mem_append.mp ht with ht | ht
      · obtain rfl : t = c.now := by
          split at ht
          · exact List.mem_singleton.mp ht
          · cases ht
        exact ⟨le_rfl, h.now_le c⟩
      · exact hrest t ht
    | wait span =>
      intro t ht
      obtain ⟨hfrom, hto⟩ := hrest t ht
      exact ⟨hfirst.trans hfrom, hto⟩

end Exact

end Ledger

end WikiGateway
