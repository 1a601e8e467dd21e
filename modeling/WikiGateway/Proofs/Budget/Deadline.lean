import Mathlib
import WikiGateway.Budget
import WikiGateway.Settings
import WikiGateway.Proofs.Decimal.Difference
import WikiGateway.Proofs.Http.Parameters

/-! A budget of seconds as a deadline: what is left of it and whether it is used up are computed by
two comparisons of their own, which agree for numbers and only for numbers. -/
namespace WikiGateway

open Decimal

namespace Budget

variable {b : Budget Float} {total start now : Float}

theorem ofSeconds_eq_ok : ofSeconds total = .ok b ↔ ¬ total ≤ 0 ∧ ofTotal total = b := by
  have hrefused : isRefused total = true ↔ total ≤ 0 := decide_eq_true_iff
  rw [ofSeconds, Attempt.ite_error_eq_ok, hrefused, Except.ok.injEq]

theorem isExhausted_iff : b.isExhausted now = true ↔ b.total ≤ b.elapsed now := decide_eq_true_iff

theorem remaining_eq_zero_iff :
    b.remaining now = 0 ↔ ¬ 0 < b.total - b.elapsed now := by
  have hpositive (x : Float) : Ranked.lt Instant.zero x = true ↔ 0 < x := decide_eq_true_iff
  rw [remaining]
  split
  · rename_i hleft
    have hmore : 0 < b.total - b.elapsed now := (hpositive _).mp hleft
    refine iff_of_false (fun hzero => ?_) (not_not.mpr hmore)
    have hsame : b.total - b.elapsed now = 0 := hzero
    rw [hsame] at hmore
    exact absurd hmore (by decide +kernel)
  · rename_i hleft
    exact iff_of_true rfl fun hmore => hleft ((hpositive _).mpr hmore)

/-- For a budget that is a number, no time is left just when the deadline has come. -/
theorem isExhausted_iff_remaining (htotal : b.total.isNaN = false)
    (h : (b.elapsed now).isFinite = true) :
    b.isExhausted now = true ↔ b.remaining now = 0 := by
  have helapsed : (b.elapsed now).isNaN = false := isNaN_of_isFinite h
  rw [isExhausted_iff, remaining_eq_zero_iff, sub_pos_iff htotal h, le_iff_rank htotal helapsed,
    lt_iff_rank helapsed htotal, not_lt]

/-- The deadline of a budget that is no number never comes, though no time is left from the start
on. -/
theorem isExhausted_of_isNaN (htotal : b.total.isNaN = true) (now : Float) :
    b.isExhausted now = false ∧ b.remaining now = 0 := by
  constructor
  · rw [← Bool.not_eq_true, isExhausted_iff]
    exact not_le_of_isNaN (.inl htotal)
  · rw [remaining_eq_zero_iff]
    exact not_lt_of_isNaN (.inr (isNaN_sub htotal _))

/-- A deadline that can be relied on: at every moment a finite time after a start, it has come just
when no time is left. -/
def IsDeadline (b : Budget Float) : Prop :=
  ∀ start now, ((b.start start).elapsed now).isFinite = true →
    ((b.start start).isExhausted now = true ↔ (b.start start).remaining now = 0)

end Budget

namespace Validated

variable {α β : Type}

theorem seq_eq_valid {f : Validated (α → β)} {x : Validated α} {b : β} :
    f <*> x = .valid b ↔ ∃ g, f = .valid g ∧ ∃ a, x = .valid a ∧ g a = b := by
  cases f <;> cases x <;> simp [Seq.seq, apply]

/-- Whether a value is valid and passes a test. -/
def passes (x : Validated α) (test : α → Bool) : Bool :=
  match x with
  | valid a => test a
  | invalid _ => false

theorem passes_iff {x : Validated α} {test : α → Bool} :
    x.passes test = true ↔ ∃ a, x = .valid a ∧ test a = true := by
  cases x <;> simp [passes]

end Validated

namespace Settings

variable {given values : List (String × Json)} {environment : List (String × String)}
  {name : String} {s : Settings} {x fallback : Float}

theorem timeout_eq_ok {v : Json} (h : timeout v = .ok x) : ¬ x ≤ 0 := by
  obtain ⟨y, -, hy⟩ := Attempt.bind_eq_ok.mp h
  split at hy
  · rename_i hmore
    cases hy
    simpa using hmore
  · cases hy

theorem withDefault_timeout (hfallback : ¬ fallback ≤ 0)
    (h : Json.withDefault values name fallback timeout = .valid x) : ¬ x ≤ 0 := by
  rw [Json.withDefault] at h
  split at h
  · cases h
    exact hfallback
  · exact timeout_eq_ok (Validated.ofExcept_eq_valid.mp h)

theorem exists_of_load (h : load given environment = .valid s) :
    ∃ values, Json.withDefault values "path_search_timeout_s" default.pathSearchTimeout timeout =
      .valid s.pathSearchTimeout := by
  rw [load] at h
  split at h
  · -- Eight fields come after the time limit of a search, and seven before it.
    simp only [Validated.seq_eq_valid, Validated.map_eq_valid] at h
    obtain ⟨_, ⟨_, ⟨_, ⟨_, ⟨_, ⟨_, ⟨_, ⟨_, ⟨f, hf, x, hx, rfl⟩, _, _, rfl⟩, _, _, rfl⟩, _, _, rfl⟩,
      _, _, rfl⟩, _, _, rfl⟩, _, _, rfl⟩, _, _, rfl⟩, _, _, rfl⟩ := h
    obtain ⟨_, ⟨_, ⟨_, ⟨_, ⟨_, ⟨_, ⟨_, _, rfl⟩, _, _, rfl⟩, _, _, rfl⟩, _, _, rfl⟩, _, _, rfl⟩,
      _, _, rfl⟩, _, _, rfl⟩ := hf
    exact ⟨_, hx⟩
  · cases h

/-- The time limit of every settings is accepted as a budget. -/
theorem ofSeconds_pathSearchTimeout (h : load given environment = .valid s) :
    Budget.ofSeconds s.pathSearchTimeout = .ok (.ofTotal s.pathSearchTimeout) := by
  obtain ⟨values, hvalues⟩ := exists_of_load h
  have hdefault : ¬ Settings.default.pathSearchTimeout ≤ 0 := by decide +kernel
  exact Budget.ofSeconds_eq_ok.mpr ⟨withDefault_timeout hdefault hvalues, rfl⟩

end Settings

/-- Just the accepted budgets that are numbers are deadlines that can be relied on. What is no
number passes the tests of a budget and of the settings, which refuse what is zero or less; its
deadline never comes, though no time is left. -/
theorem Budget.isDeadline_iff (total : Float) :
    (∀ b, Budget.ofSeconds total = .ok b →
      (b.IsDeadline ↔ total.isNaN = false) ∧
        (total.isNaN = true → ∀ start now,
          (b.start start).isExhausted now = false ∧ (b.start start).remaining now = 0)) ∧
      ∀ given environment s, Settings.load given environment = .valid s →
        s.pathSearchTimeout = total → ∃ b, Budget.ofSeconds total = .ok b := by
  constructor
  · intro b h
    obtain ⟨-, rfl⟩ := ofSeconds_eq_ok.mp h
    refine ⟨⟨fun hdeadline => ?_, fun hnumber start now hfinite => ?_⟩, fun hnone start now => ?_⟩
    · by_contra hnone
      have htotal : total.isNaN = true := by simpa using hnone
      have hfinite : ((0 : Float) - 0).isFinite = true := by decide +kernel
      obtain ⟨hexhausted, hremaining⟩ :=
        isExhausted_of_isNaN (b := (ofTotal total).start 0) htotal 0
      have hcome := (hdeadline 0 0 hfinite).mpr hremaining
      rw [hexhausted] at hcome
      cases hcome
    · exact isExhausted_iff_remaining (b := (ofTotal total).start start) hnumber hfinite
    · exact isExhausted_of_isNaN (b := (ofTotal total).start start) hnone now
  · rintro given environment s hload rfl
    exact ⟨_, Settings.ofSeconds_pathSearchTimeout hload⟩

/-- Ten seconds are a number. -/
theorem Budget.isDeadline_tenSeconds :
    Budget.ofSeconds 10 = .ok (.ofTotal 10) ∧ (Budget.ofTotal (10 : Float)).IsDeadline := by
  have haccepted : Budget.ofSeconds 10 = .ok (.ofTotal 10) :=
    Budget.ofSeconds_eq_ok.mpr ⟨by decide +kernel, rfl⟩
  exact ⟨haccepted, ((Budget.isDeadline_iff 10).1 _ haccepted).1.mpr (by decide +kernel)⟩

/-- The settings take a time limit that is no number, and the budget of it is accepted: five seconds
after the start no time is left, and the deadline has not come. -/
theorem Budget.not_isDeadline_ofSettings :
    ∃ s, Settings.load [("path_search_timeout_s", .str "nan")] [] = .valid s ∧
      ∃ b, Budget.ofSeconds s.pathSearchTimeout = .ok b ∧
        ((b.start 0).elapsed 5).isFinite = true ∧ (b.start 0).isExhausted 5 = false ∧
        (b.start 0).remaining 5 = 0 := by
  have hload : (Settings.load [("path_search_timeout_s", .str "nan")] []).passes
      (fun s => s.pathSearchTimeout.isNaN) = true := by decide +kernel
  have hfinite : ((5 : Float) - 0).isFinite = true := by decide +kernel
  obtain ⟨s, hs, hnone⟩ := Validated.passes_iff.mp hload
  exact ⟨s, hs, _, Settings.ofSeconds_pathSearchTimeout hs, hfinite,
    Budget.isExhausted_of_isNaN (b := (Budget.ofTotal s.pathSearchTimeout).start 0) hnone 5⟩

end WikiGateway
