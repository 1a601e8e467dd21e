import Mathlib.Data.List.Chain
import Mathlib.Data.Rat.Floor
import Mathlib.Tactic.Linarith
import WikiGateway.Cache.Memory
import WikiGateway.Instant.Exact
import WikiGateway.Proofs.Cache.NewestFirst

/-! The cache in memory answers like the list of pages that is cut off at the capacity: what it
drives out for its age is at the end of the list, and would not be answered from there. -/
namespace WikiGateway

theorem filter_append_filter_not {α : Type} {p : α → Bool} {as : List α}
    (h : as.Pairwise fun a b => p b → p a) : as.filter p ++ as.filter (!p ·) = as := by
  induction as with
  | nil => rfl
  | cons a as ih =>
    obtain ⟨hhead, htail⟩ := List.pairwise_cons.mp h
    by_cases ha : p a
    · simp [ha, ih htail]
    · have hnone : ∀ b ∈ as, ¬ p b := fun b hb hp => ha (hhead b hb hp)
      have hlive : as.filter p = [] := List.filter_eq_nil_iff.mpr hnone
      have hdead : as.filter (!p ·) = as := List.filter_eq_self.mpr (by simpa using hnone)
      simp [ha, hlive, hdead]

theorem reverse_drop_excess {α : Type} (as : List α) {n : Nat} (h : 0 < n) :
    (as.drop (as.length + 1 - n)).reverse = as.reverse.take (n - 1) := by
  rw [List.reverse_drop, List.take_eq_take_iff, List.length_reverse]
  omega

theorem exists_chain_cons {τ : Type} [Preorder τ] [Nonempty τ] {times : List τ}
    (h : times.IsChain (· ≤ ·)) : ∃ time, (time :: times).IsChain (· ≤ ·) := by
  cases times with
  | nil => exact ⟨Classical.arbitrary τ, .singleton _⟩
  | cons time times => exact ⟨time, List.isChain_cons_cons.mpr ⟨le_rfl, h⟩⟩

namespace MemoryCache

open Cache

variable {τ α : Type} {c : MemoryCache τ α} {held : List (Held τ α)} {title : String} {text : α}
  {now now' time : τ} {steps : List (τ × Request α)}

/-- Makes room for a page and puts it in. -/
def push (c : MemoryCache τ α) (title : String) (text : α) (now : τ) : MemoryCache τ α :=
  { c with entries := (c.entries.drop (c.entries.size + 1 - c.capacity)).insert title (text, now) }

theorem entries_push (h : title ∉ c.entries.keys) (text : α) (now : τ) :
    (c.push title text now).entries.entries =
      c.entries.entries.drop (c.entries.size + 1 - c.capacity) ++ [(title, text, now)] := by
  refine putEntry_new (fun hmem => h ?_) _
  exact ((List.drop_sublist _ _).map Prod.fst).mem hmem

theorem ofLimits_eq_ok {capacity ttl : Nat} (hcapacity : 0 < capacity) (httl : 0 < ttl) :
    ofLimits (some capacity) (some ttl) = .ok (⟨capacity, ttl, .empty⟩ : MemoryCache τ α) := by
  have hcapacity' : orUsual defaultCapacity (some capacity) = capacity := by
    simp [orUsual, hcapacity.ne']
  have httl' : orUsual defaultTtl (some ttl) = ttl := by
    simp [orUsual, httl.ne']
  rw [ofLimits, hcapacity', httl', if_neg (by omega)]
  rfl

section Stages

variable [Instant τ]

def operations : Operations (MemoryCache τ α) τ α where
  get := get?
  put := put
  delete c title := (c.delete title).2
  clear := clear

/-- Drives out what is too old. -/
def purge (c : MemoryCache τ α) (now : τ) : MemoryCache τ α :=
  { c with entries := c.entries.filter fun _ e => !c.isExpired now e.2 }

theorem put_eq (c : MemoryCache τ α) (title : String) (text : α) (now : τ) :
    c.put title text now = ((c.delete title).2.purge now).push title text now := rfl

theorem not_mem_keys_purge (c : MemoryCache τ α) (title : String) (now : τ) :
    title ∉ ((c.delete title).2.purge now).entries.keys := by
  simp [purge, delete, OrderedMap.keys, OrderedMap.filter, OrderedMap.erase]

end Stages

variable [Field τ] [LinearOrder τ] [FloorSemiring τ]

/-- The cache holds the front of a list of pages, newest first; the rest of the list is too old. -/
structure Agrees (c : MemoryCache τ α) (held : List (Held τ α)) (now : τ) : Prop where
  begins : ∃ old, held = c.entries.entries.reverse ++ old ∧ ∀ e ∈ old, c.isExpired now e.2.2
  newestFirst : held.Pairwise fun e e' => e'.2.2 ≤ e.2.2
  past : ∀ e ∈ held, e.2.2 ≤ now
  fits : held.length ≤ c.capacity

theorem isExpired_iff : c.isExpired now time ↔ (c.ttl : τ) ≤ now - time := by
  simp [isExpired]

theorem agrees_empty (capacity ttl : Nat) (now : τ) :
    Agrees (⟨capacity, ttl, .empty⟩ : MemoryCache τ α) [] now :=
  ⟨⟨[], rfl, by simp⟩, .nil, by simp, by simp⟩

theorem after_limits (c : MemoryCache τ α) (step : τ × Request α) :
    (operations.after c step).capacity = c.capacity ∧ (operations.after c step).ttl = c.ttl := by
  obtain ⟨time, request⟩ := step
  cases request <;> exact ⟨rfl, rfl⟩

theorem Agrees.size_le (h : Agrees c held now) : c.size ≤ c.capacity := by
  obtain ⟨old, hold, -⟩ := h.begins
  have hfits := h.fits
  simp only [hold, List.length_append, List.length_reverse] at hfits
  simp only [size, OrderedMap.size]
  omega

theorem Agrees.get (h : Agrees c held now) :
    c.get? title now = NewestFirst.get c.ttl held title now := by
  obtain ⟨old, hold, hexpired⟩ := h.begins
  rw [get?, NewestFirst.get, hold, List.find?_append, OrderedMap.find?_reverse_entries]
  rcases c.entries.find? title with _ | ⟨text, time⟩
  · cases hfind : old.find? (·.1 = title) with
    | none => simp
    | some e =>
      have htime := isExpired_iff.mp (hexpired e (List.mem_of_find?_eq_some hfind))
      simp [not_lt.mpr htime]
  · simp only [isExpired, Instant.exact_reaches, Instant.exact_sub, Option.map_some,
      Option.some_or, decide_eq_true_eq, ← not_lt]
    split <;> simp_all

theorem Agrees.answer? (h : Agrees c held now) (request : Request α) :
    operations.answer? c (now, request) =
      (NewestFirst.operations c.capacity c.ttl).answer? held (now, request) := by
  cases request with
  | get title => exact congrArg some h.get
  | _ => rfl

theorem Agrees.delete (h : Agrees c held now) :
    Agrees (c.delete title).2 (NewestFirst.delete held title) now := by
  obtain ⟨old, hold, hexpired⟩ := h.begins
  have hsub : (NewestFirst.delete held title).Sublist held := List.filter_sublist
  refine ⟨⟨NewestFirst.delete old title, ?_, ?_⟩, h.newestFirst.sublist hsub, ?_, ?_⟩
  · rw [hold, NewestFirst.delete, List.filter_append, List.filter_reverse]
    rfl
  · exact fun e he => hexpired e (List.mem_filter.mp he).1
  · exact fun e he => h.past e (hsub.mem he)
  · exact hsub.length_le.trans h.fits

theorem Agrees.push (h : Agrees c held now) (hnew : title ∉ c.entries.keys)
    (hcapacity : 0 < c.capacity) :
    Agrees (c.push title text now) (((title, text, now) :: held).take c.capacity) now := by
  obtain ⟨old, hold, hexpired⟩ := h.begins
  obtain ⟨n, hn⟩ : ∃ n, c.capacity = n + 1 := ⟨c.capacity - 1, by omega⟩
  have hkept : (c.push title text now).entries.entries.reverse =
      (title, text, now) :: c.entries.entries.reverse.take n := by
    rw [entries_push hnew, List.reverse_append, OrderedMap.size,
      reverse_drop_excess _ hcapacity, hn]
    rfl
  have hpast : ∀ e ∈ (title, text, now) :: held, e.2.2 ≤ now := by
    simpa using h.past
  have hsorted : ((title, text, now) :: held).Pairwise fun e e' => e'.2.2 ≤ e.2.2 :=
    List.pairwise_cons.mpr ⟨h.past, h.newestFirst⟩
  refine ⟨⟨old.take (n - c.entries.entries.reverse.length), ?_, ?_⟩, ?_, ?_, ?_⟩
  · rw [hkept, hn, List.take_succ_cons, hold, List.take_append, List.cons_append]
  · exact fun e he => hexpired e (List.mem_of_mem_take he)
  · exact hsorted.sublist (List.take_sublist _ _)
  · exact fun e he => hpast e (List.mem_of_mem_take he)
  · exact List.length_take_le _ _

section Ordered

variable [IsStrictOrderedRing τ]

theorem isExpired_later (h : c.isExpired now time) (hle : now ≤ now') : c.isExpired now' time := by
  rw [isExpired_iff] at h ⊢
  linarith

theorem isExpired_older (h : c.isExpired now now') (hle : time ≤ now') : c.isExpired now time := by
  rw [isExpired_iff] at h ⊢
  linarith

theorem Agrees.later (h : Agrees c held now) (hle : now ≤ now') : Agrees c held now' := by
  obtain ⟨old, hold, hexpired⟩ := h.begins
  exact ⟨⟨old, hold, fun e he => isExpired_later (hexpired e he) hle⟩, h.newestFirst,
    fun e he => (h.past e he).trans hle, h.fits⟩

/-- Of pages from the newest on, those that are not too old come first. -/
theorem live_append_expired (h : held.Pairwise fun e e' => e'.2.2 ≤ e.2.2) :
    held.filter (fun e => !c.isExpired now e.2.2) ++ held.filter (fun e => c.isExpired now e.2.2) =
      held := by
  have hdown : held.Pairwise fun e e' => !c.isExpired now e'.2.2 → !c.isExpired now e.2.2 := by
    refine h.imp fun {e e'} hle hlive => ?_
    simp only [Bool.not_eq_true', ← Bool.not_eq_true] at hlive ⊢
    exact fun hexpired => hlive (isExpired_older hexpired hle)
  simpa using filter_append_filter_not hdown

theorem Agrees.purge (h : Agrees c held now) : Agrees (c.purge now) held now := by
  obtain ⟨old, hold, hexpired⟩ := h.begins
  have hsorted : c.entries.entries.reverse.Pairwise fun e e' => e'.2.2 ≤ e.2.2 :=
    h.newestFirst.sublist (hold ▸ List.sublist_append_left _ _)
  refine ⟨⟨c.entries.entries.reverse.filter (fun e => c.isExpired now e.2.2) ++ old, ?_, ?_⟩,
    h.newestFirst, h.past, h.fits⟩
  · -- What is purged stands last among what is held, next to what was missing before.
    have hlive : (c.purge now).entries.entries.reverse =
        c.entries.entries.reverse.filter fun e => !c.isExpired now e.2.2 := by
      rw [List.filter_reverse]
      rfl
    rw [hlive, ← List.append_assoc, live_append_expired hsorted, hold]
  · intro e he
    rcases List.mem_append.mp he with he | he
    · exact (List.mem_filter.mp he).2
    · exact hexpired e he

theorem Agrees.put (h : Agrees c held now) (hcapacity : 0 < c.capacity) :
    Agrees (c.put title text now) (NewestFirst.put c.capacity held title text now) now := by
  rw [put_eq]
  exact h.delete.purge.push (not_mem_keys_purge c title now) hcapacity

theorem Agrees.after (h : Agrees c held now) (hcapacity : 0 < c.capacity) (request : Request α) :
    Agrees (operations.after c (now, request))
      ((NewestFirst.operations c.capacity c.ttl).after held (now, request)) now := by
  cases request with
  | put title text => exact h.put hcapacity
  | get title => exact h
  | delete title => exact h.delete
  | clear => exact agrees_empty c.capacity c.ttl now

theorem Agrees.answers (h : Agrees c held now) (hcapacity : 0 < c.capacity)
    (hclock : (now :: steps.map Prod.fst).IsChain (· ≤ ·)) :
    operations.answers c steps = (NewestFirst.operations c.capacity c.ttl).answers held steps := by
  induction steps generalizing c held now with
  | nil => rfl
  | cons step steps ih =>
    obtain ⟨time, request⟩ := step
    obtain ⟨hle, hrest⟩ := List.isChain_cons_cons.mp hclock
    have hnow := h.later hle
    obtain ⟨hsame, hlife⟩ := after_limits c (time, request)
    have hanswers := ih (hnow.after hcapacity request) (hsame ▸ hcapacity) hrest
    rw [hsame, hlife] at hanswers
    rw [Operations.answers, Operations.answers, hanswers, hnow.answer? request]

theorem Agrees.afterAll (h : Agrees c held now) (hcapacity : 0 < c.capacity)
    (hclock : (now :: steps.map Prod.fst).IsChain (· ≤ ·)) :
    (operations.afterAll c steps).size ≤ c.capacity := by
  induction steps generalizing c held now with
  | nil => exact h.size_le
  | cons step steps ih =>
    obtain ⟨time, request⟩ := step
    obtain ⟨hle, hrest⟩ := List.isChain_cons_cons.mp hclock
    obtain ⟨hsame, -⟩ := after_limits c (time, request)
    have hsize := ih ((h.later hle).after hcapacity request) (hsame ▸ hcapacity) hrest
    exact hsame ▸ hsize

/-- Whatever a cache of positive limits is asked by a clock that never goes back, it answers like
the list, and it never holds more pages than it has room for. -/
theorem answers_newestFirst {capacity ttl : Nat} (hcapacity : 0 < capacity) (httl : 0 < ttl)
    (hclock : (steps.map Prod.fst).IsChain (· ≤ ·)) :
    ∃ c : MemoryCache τ α, ofLimits (some capacity) (some ttl) = .ok c ∧
      operations.answers c steps = (NewestFirst.operations capacity ttl).answers [] steps ∧
      ∀ before, before <+: steps → (operations.afterAll c before).size ≤ capacity := by
  obtain ⟨now, hnow⟩ := exists_chain_cons hclock
  have hempty := agrees_empty (α := α) capacity ttl now
  refine ⟨⟨capacity, ttl, .empty⟩, ofLimits_eq_ok hcapacity httl, hempty.answers hcapacity hnow, ?_⟩
  rintro before ⟨rest, rfl⟩
  rw [List.map_append, ← List.cons_append] at hnow
  exact hempty.afterAll hcapacity hnow.left_of_append

end Ordered

/-- The third page drives the first one out for its age, the fourth the second one for lack of
room. -/
def threeOfFour : List (ℚ × Request String) :=
  [(0, .put "A" "a"), (5, .put "B" "b"), (11, .put "C" "c"), (12, .get "A"), (12, .get "B"),
    (12, .put "D" "d"), (12, .get "B"), (21, .get "C"), (21, .delete "D"), (21, .get "D")]

theorem answers_threeOfFour :
    0 < 2 ∧ 0 < 10 ∧ (threeOfFour.map Prod.fst).IsChain (· ≤ ·) ∧
    ∃ c : MemoryCache ℚ String, ofLimits (some 2) (some 10) = .ok c ∧
      operations.answers c threeOfFour = (NewestFirst.operations 2 10).answers [] threeOfFour ∧
      ∀ before, before <+: threeOfFour → (operations.afterAll c before).size ≤ 2 := by
  have hclock : (threeOfFour.map Prod.fst).IsChain (· ≤ ·) := by decide
  exact ⟨by decide, by decide, hclock, answers_newestFirst (by decide) (by decide) hclock⟩

end MemoryCache

end WikiGateway
