import Mathlib.Data.Rat.Floor
import WikiGateway.Proofs.Cache.Alike

/-!
What a cache answers for a page that was put in last. The cache in memory has it until its time is
over. The shared cache may have driven it out at once: of pages that came in at the same time it
drives out those with the least keys, the new one not excepted.
-/
namespace WikiGateway

namespace Cache

variable {α : Type}

/-- A request that leaves what is stored under a title alone, and puts nothing in. -/
def Request.Spares (title : String) : Request α → Prop
  | put .. | clear => False
  | get _ => True
  | delete other => other ≠ title

end Cache

namespace MemoryCache

variable {τ α : Type} [Instant τ] {c : MemoryCache τ α} {title : String}

theorem find?_put (c : MemoryCache τ α) (title : String) (text : α) (now : τ) :
    (c.put title text now).entries.find? title = some (text, now) := by
  rw [put, OrderedMap.find?_insert, if_pos rfl]

theorem ttl_afterAll (c : MemoryCache τ α) (steps : List (τ × Cache.Request α)) :
    (operations.afterAll c steps).ttl = c.ttl := by
  induction steps generalizing c with
  | nil => rfl
  | cons step steps ih =>
    refine (ih (operations.after c step)).trans ?_
    obtain ⟨now, request⟩ := step
    cases request <;> rfl

theorem find?_after {step : τ × Cache.Request α} (h : step.2.Spares title) :
    (operations.after c step).entries.find? title = c.entries.find? title := by
  obtain ⟨now, request⟩ := step
  cases request with
  | put | clear => exact h.elim
  | get => rfl
  | delete other =>
    have hne : title ≠ other := Ne.symm h
    change (c.entries.erase other).find? title = _
    rw [OrderedMap.find?_erase, if_neg hne]

theorem find?_afterAll {later : List (τ × Cache.Request α)}
    (h : ∀ step ∈ later, step.2.Spares title) :
    (operations.afterAll c later).entries.find? title = c.entries.find? title := by
  induction later generalizing c with
  | nil => rfl
  | cons step later ih =>
    obtain ⟨hstep, hlater⟩ := List.forall_mem_cons.mp h
    exact (ih (c := operations.after c step) hlater).trans (find?_after hstep)

/-- A page that was put in is there until it is too old, whatever the state of the cache was. -/
theorem get?_afterAll_put (c : MemoryCache τ α) (text : α) (now : τ)
    {later : List (τ × Cache.Request α)} (h : ∀ step ∈ later, step.2.Spares title) (time : τ) :
    (operations.afterAll (c.put title text now) later).get? title time =
      if c.isExpired time now then none else some text := by
  have hexpired : (operations.afterAll (c.put title text now) later).isExpired time now =
      c.isExpired time now := by
    rw [isExpired, ttl_afterAll]
    rfl
  rw [get?, find?_afterAll h, find?_put]
  exact congrArg (fun expired : Bool => if expired then none else some text) hexpired

end MemoryCache

namespace SharedCache

variable {τ : Type} [LinearOrder τ] {c : SharedCache} {s : Server τ} {keys : OrderedMap τ}
  {k title text : String} {now since life : τ}

/-- How many pages in an index came in at a time, of those with keys after `k`. -/
def rivals (keys : OrderedMap τ) (k : String) (now : τ) : Nat :=
  keys.entries.countP fun e => e.2 = now ∧ k < e.1

/-- The server refuses nothing, and no page in its index came in after `since`. -/
def Dated (s : Server τ) (since : τ) : Prop :=
  ∃ values keys, s.Holds index values keys ∧ ∀ e ∈ keys.entries, e.2 ≤ since

theorem Dated.later (h : Dated s since) (hle : since ≤ now) : Dated s now := by
  obtain ⟨values, keys, hs, hdated⟩ := h
  exact ⟨values, keys, hs, fun e he => (hdated e he).trans hle⟩

/-- The server refuses nothing, and this is what it holds under a key. -/
def HoldsUnder {τ : Type} (s : Server τ) (k : String) (found : Option (String × τ)) : Prop :=
  ∃ values keys, s.Holds index values keys ∧ values.find? k = found

/-- Of the members that stand in order, as many come after one as there are behind it. -/
theorem countP_not_before {α : Type} {before : α → α → Bool} {front back : List α} {a : α}
    (hfront : ∀ b ∈ front, before b a) (ha : before a a) (hback : ∀ b ∈ back, ¬ before b a) :
    (front ++ a :: back).countP (fun b => !before b a) = back.length := by
  rw [List.countP_append, List.countP_cons_of_neg (by simpa using ha),
    List.countP_eq_zero.mpr (by simpa using hfront),
    List.countP_eq_length.mpr (by simpa using hback), Nat.zero_add]

/-- Among the first so many is what has fewer before it. -/
theorem mem_map_take_iff {α β : Type} {f : α → β} {front back : List α} {a : α}
    (h : ((front ++ a :: back).map f).Nodup) (n : Nat) :
    f a ∈ ((front ++ a :: back).take n).map f ↔ front.length < n := by
  rw [List.map_append, List.map_cons] at h
  obtain ⟨-, -, hapart⟩ := List.nodup_append.mp h
  rw [List.take_append, List.map_append, List.mem_append]
  constructor
  · rintro (hmem | hmem)
    · have hfront : f a ∈ front.map f := ((List.take_sublist n front).map f).mem hmem
      exact absurd rfl (hapart (f a) hfront (f a) List.mem_cons_self)
    · by_contra hge
      simp [Nat.sub_eq_zero_of_le (not_lt.mp hge)] at hmem
  · intro hlt
    obtain ⟨m, hm⟩ : ∃ m, n - front.length = m + 1 := ⟨n - front.length - 1, by omega⟩
    refine Or.inr ?_
    rw [hm, List.take_succ_cons, List.map_cons]
    exact List.mem_cons_self

variable [Field τ] [FloorSemiring τ]

/-- A key is driven out if as many come after it as there is room for. -/
theorem mem_excess_iff {score : τ} (h : (k, score) ∈ keys.entries) :
    k ∈ c.excess keys ↔
      c.capacity ≤ keys.entries.countP fun e => !Server.scoredBefore e (k, score) := by
  have hperm := List.mergeSort_perm keys.entries Server.scoredBefore
  have hsorted := pairwise_mergeSort_scored keys.entries
  have hnodup : ((keys.entries.mergeSort Server.scoredBefore).map Prod.fst).Nodup :=
    (hperm.map Prod.fst).nodup_iff.mpr keys.nodup
  obtain ⟨front, back, hsplit⟩ := List.append_of_mem (hperm.mem_iff.mpr h)
  rw [excess, Server.lowest, ← hperm.countP_eq]
  have hsize : keys.size = front.length + (back.length + 1) := by
    rw [OrderedMap.size, ← hperm.length_eq, hsplit, List.length_append, List.length_cons]
  rw [hsplit] at hsorted hnodup ⊢
  obtain ⟨-, hbehind, hbefore⟩ := List.pairwise_append.mp hsorted
  have hself : Server.scoredBefore (k, score) (k, score) = true :=
    scoredBefore_iff.mpr (Or.inr ⟨rfl, String.le_refl k⟩)
  have hback : ∀ b ∈ back, ¬ Server.scoredBefore b (k, score) := by
    intro b hb hle
    obtain rfl := scoredBefore_antisymm hle ((List.pairwise_cons.mp hbehind).1 b hb)
    rw [List.map_append, List.map_cons] at hnodup
    have hrepeat := (List.nodup_append.mp hnodup).2.1
    exact (List.nodup_cons.mp hrepeat).1 (List.mem_map_of_mem hb)
  rw [countP_not_before (fun b hb => hbefore b hb _ List.mem_cons_self) hself hback]
  refine (mem_map_take_iff (a := (k, score)) hnodup _).trans ?_
  omega

/-- In the index, the rivals of a key that comes in are those that it had before. -/
theorem countP_insert (hdated : ∀ e ∈ keys.entries, e.2 ≤ now) :
    (keys.insert k now).entries.countP (fun e => !Server.scoredBefore e (k, now)) =
      rivals keys k now := by
  have hself : (!Server.scoredBefore (k, now) (k, now)) = false := by
    rw [Bool.not_eq_false', scoredBefore_iff]
    exact Or.inr ⟨rfl, String.le_refl k⟩
  calc (keys.insert k now).entries.countP (fun e => !Server.scoredBefore e (k, now))
      = (keys.erase k).entries.countP (fun e => !Server.scoredBefore e (k, now)) := by
        rw [(keys.perm_entries_insert k now).countP_eq, List.countP_cons_of_neg (by simp [hself])]
    _ = rivals keys k now := by
        rw [OrderedMap.erase, List.countP_filter, rivals]
        refine List.countP_congr fun e he => ?_
        have hle := hdated e he
        rw [Bool.and_eq_true, Bool.not_eq_true', ← Bool.not_eq_true, scoredBefore_iff]
        simp only [decide_eq_true_eq]
        grind

variable [IsStrictOrderedRing τ]

/-- Nothing that came in now is taken for expired. -/
theorem countP_refreshed (hdated : ∀ e ∈ keys.entries, e.2 ≤ now) (hlife : 0 < life) :
    (refreshed keys k now life).entries.countP (fun e => !Server.scoredBefore e (k, now)) =
      rivals keys k now := by
  rw [refreshed, OrderedMap.filter, List.countP_filter, ← countP_insert hdated]
  refine List.countP_congr fun e he => ?_
  have hpast : now - life < now := sub_lt_self now hlife
  rw [Bool.and_eq_true, and_iff_left_iff_imp, Bool.not_eq_true', ← Bool.not_eq_true,
    scoredBefore_iff]
  intro hafter
  have hnow : ¬ e.2 ≤ now - life := fun hle => hafter (Or.inl (hle.trans_lt hpast))
  simp [hnow]

/-- A page that is put in can be read, unless there are too many rivals. -/
theorem Dated.put (h : Dated s since) (hle : since ≤ now)
    (hlife : Instant.seconds? (τ := τ) c.ttl = some life) (hpositive : 0 < life)
    (title text : String) :
    ∃ t, (c.put title text now).runIn s = (.ok true, t) ∧ Dated t now ∧
      HoldsUnder t (key title)
        (if c.capacity ≤ rivals (s.members index) (key title) now then none
          else some (text, now + life)) := by
  obtain ⟨values, keys, hs, hdated⟩ := h
  have hnow : ∀ e ∈ keys.entries, e.2 ≤ now := fun e he => (hdated e he).trans hle
  have hinsert : ∀ e ∈ (refreshed keys (key title) now life).entries, e.2 ≤ now := by
    intro e he
    have hmem := (keys.perm_entries_insert (key title) now).mem_iff.mp (List.mem_filter.mp he).1
    rcases List.mem_cons.mp hmem with rfl | hmem
    · exact le_rfl
    · exact hnow e (List.mem_filter.mp hmem).1
  have hpast : ¬ now ≤ now - life := not_le.mpr (sub_lt_self now hpositive)
  have hlisted : (key title, now) ∈ (refreshed keys (key title) now life).entries := by
    refine List.mem_filter.mpr ⟨?_, by simp [hpast]⟩
    rw [← OrderedMap.find?_eq_some_iff, OrderedMap.find?_insert, if_pos rfl]
  have hexcess := mem_excess_iff (c := c) hlisted
  rw [countP_refreshed hnow hpositive] at hexcess
  obtain ⟨t, hput, ht⟩ := runIn_put hs hlife title text now
  refine ⟨t, hput, ⟨_, _, ht, ?_⟩, _, _, ht, ?_⟩
  · intro e he
    rw [OrderedMap.entries_foldl_erase] at he
    exact hinsert e (List.mem_filter.mp he).1
  · rw [OrderedMap.find?_foldl_erase, OrderedMap.find?_insert, if_pos rfl, hs.members_eq]
    simp only [hexcess]
    rfl

theorem Dated.after (h : Dated s since) (hle : since ≤ now)
    (hlife : Instant.seconds? (τ := τ) c.ttl = some life) (hpositive : 0 < life)
    (request : Request) : Dated (c.after s (now, request)) now := by
  cases request with
  | put title text =>
    obtain ⟨t, hput, ht, -⟩ := h.put hle hlife hpositive title text
    have hrun : (c.perform now (.put title text)).runIn s = (.ok none, t) := by
      simp only [perform, Action.runIn_bind, hput, Action.runIn_pure]
    rw [SharedCache.after, hrun]
    exact ht
  | get title =>
    obtain ⟨values, keys, hs, hdated⟩ := h.later hle
    obtain ⟨t, hget, ht⟩ := runIn_get hs title now
    have hafter : c.after s (now, .get title) = t := by
      rw [SharedCache.after, perform, Action.runIn_map, hget]
    exact hafter ▸ ⟨values, keys, ht, hdated⟩
  | delete title =>
    obtain ⟨values, keys, hs, hdated⟩ := h.later hle
    obtain ⟨found, t, hdelete, ht⟩ := runIn_delete hs title now
    have hafter : c.after s (now, .delete title) = t := by
      simp only [SharedCache.after, perform, Action.runIn_bind, hdelete, Action.runIn_pure]
    exact hafter ▸ ⟨_, _, ht, fun e he => hdated e (List.mem_filter.mp he).1⟩

theorem Dated.afterAll (h : Dated s since) (hlife : Instant.seconds? (τ := τ) c.ttl = some life)
    (hpositive : 0 < life) {steps : List (τ × Request)}
    (hclock : (since :: (steps.map Prod.fst ++ [now])).IsChain (· ≤ ·)) :
    Dated (c.afterAll s steps) now := by
  induction steps generalizing s since with
  | nil => exact h.later (List.isChain_cons_cons.mp hclock).1
  | cons step steps ih =>
    obtain ⟨hle, hrest⟩ := List.isChain_cons_cons.mp hclock
    exact ih (h.after hle hlife hpositive step.2) hrest

omit [IsStrictOrderedRing τ] in
theorem HoldsUnder.get {found : Option (String × τ)} (h : HoldsUnder s (key title) found)
    (time : τ) : ((get title time).runIn s).1 =
      .ok (found.bind fun e => if time < e.2 then some e.1 else none) := by
  obtain ⟨values, keys, hs, hfound⟩ := h
  obtain ⟨t, hget, -⟩ := runIn_get hs title time
  rw [hget, Server.live?, hfound]
  cases found with
  | none => rfl
  | some e => simp

omit [IsStrictOrderedRing τ] in
theorem HoldsUnder.after {found : Option (String × τ)} {titles : Set String}
    (h : HoldsUnder s (key title) found) (hkeys : Set.InjOn key titles) (htitle : title ∈ titles)
    {step : τ × Request} (hmem : step.2.title ∈ titles) (hspares : step.2.toCache.Spares title) :
    HoldsUnder (c.after s step) (key title) found := by
  obtain ⟨values, keys, hs, hfound⟩ := h
  obtain ⟨now, request⟩ := step
  cases request with
  | put => exact hspares.elim
  | get other =>
    obtain ⟨t, hget, ht⟩ := runIn_get hs other now
    have hafter : c.after s (now, .get other) = t := by
      rw [SharedCache.after, perform, Action.runIn_map, hget]
    exact hafter ▸ ⟨values, keys, ht, hfound⟩
  | delete other =>
    obtain ⟨deleted, t, hdelete, ht⟩ := runIn_delete hs other now
    have hafter : c.after s (now, .delete other) = t := by
      simp only [SharedCache.after, perform, Action.runIn_bind, hdelete, Action.runIn_pure]
    have hne : key title ≠ key other := fun heq => hspares (hkeys hmem htitle heq.symm)
    refine hafter ▸ ⟨_, _, ht, ?_⟩
    rw [OrderedMap.find?_erase, if_neg hne, hfound]

omit [IsStrictOrderedRing τ] in
theorem HoldsUnder.afterAll {found : Option (String × τ)} {titles : Set String}
    (h : HoldsUnder s (key title) found) (hkeys : Set.InjOn key titles) (htitle : title ∈ titles)
    {later : List (τ × Request)} (htitles : titlesOf later ⊆ titles)
    (hspares : ∀ step ∈ later, step.2.toCache.Spares title) :
    HoldsUnder (c.afterAll s later) (key title) found := by
  induction later generalizing s with
  | nil => exact h
  | cons step later ih =>
    obtain ⟨hstep, hlater⟩ := List.forall_mem_cons.mp hspares
    have hmem : step.2.title ∈ titles := htitles ⟨step, List.mem_cons_self, rfl⟩
    have hrest : titlesOf later ⊆ titles :=
      fun other ⟨step, hstep, he⟩ => htitles ⟨step, List.mem_cons_of_mem _ hstep, he⟩
    exact ih (h.after hkeys htitle hmem hstep) hrest hlater

/-- A page that was put in is answered until its time is over, it is taken out or another one is put
in; by the shared cache only if it was not driven out at once, for as many pages in the index of the
same time with greater keys as there is room for. -/
theorem get_after_put {capacity ttl : Nat} (hcapacity : 0 < capacity) (httl : 0 < ttl)
    (title text : String) (now : τ) :
    (∀ before later : List (τ × Cache.Request String), (∀ step ∈ later, step.2.Spares title) →
      ∃ m : MemoryCache τ String, MemoryCache.ofLimits (some capacity) (some ttl) = .ok m ∧
        ∀ time, (MemoryCache.operations.afterAll m
            (before ++ (now, .put title text) :: later)).get? title time =
          if time < now + ttl then some text else none) ∧
    ∀ before later : List (τ × Request),
      ((before ++ [(now, Request.put title text)]).map Prod.fst).IsChain (· ≤ ·) →
      Set.InjOn key (titlesOf (before ++ (now, .put title text) :: later)) →
      (∀ step ∈ later, step.2.toCache.Spares title) →
      ∃ (c : SharedCache) (s t : Server τ),
        (connect (some capacity) (some ttl)).runIn (Server.empty fun _ _ => false) = (.ok c, s) ∧
        (c.put title text now).runIn (c.afterAll s before) = (.ok true, t) ∧
        ∀ time, ((get title time).runIn (c.afterAll t later)).1 =
          .ok (if capacity ≤ rivals ((c.afterAll s before).members index) (key title) now then none
            else if time < now + ttl then some text else none) := by
  constructor
  · intro before later hspares
    refine ⟨_, MemoryCache.ofLimits_eq_ok hcapacity httl, fun time => ?_⟩
    have hsplit : MemoryCache.operations.afterAll ⟨capacity, ttl, .empty⟩
        (before ++ (now, .put title text) :: later) =
        MemoryCache.operations.afterAll
          ((MemoryCache.operations.afterAll ⟨capacity, ttl, .empty⟩ before).put title text now)
          later := List.foldl_append
    have hexpired : (MemoryCache.operations.afterAll ⟨capacity, ttl, .empty⟩ before).isExpired time
        now ↔ ¬ time < now + ttl := by
      rw [MemoryCache.isExpired_iff, MemoryCache.ttl_afterAll, ← not_lt, sub_lt_iff_lt_add']
    rw [hsplit, MemoryCache.get?_afterAll_put _ text now hspares]
    simp only [hexpired, ite_not]
  · intro before later hclock hkeys hspares
    obtain ⟨s, hconnect, hs⟩ := runIn_connect (Server.holds_empty (τ := τ) index)
      (some (capacity : Int)) (some (ttl : Int))
    have hcapacity' :
        (ofLimits (some (capacity : Int)) (some (ttl : Int))).capacity = capacity := by
      simp [ofLimits, Cache.orUsual, hcapacity.ne']
    have hlife : Instant.seconds? (τ := τ)
        (ofLimits (some (capacity : Int)) (some (ttl : Int))).ttl = some (ttl : τ) := by
      simp [ofLimits, Cache.orUsual, httl.ne', Instant.seconds?]
    have hpositive : 0 < (ttl : τ) := Nat.cast_pos.mpr httl
    obtain ⟨since, hsince⟩ := exists_chain_cons hclock
    have hdated : Dated s since := ⟨_, _, hs, by simp [OrderedMap.empty]⟩
    rw [List.map_append] at hsince
    obtain ⟨t, hput, -, hunder⟩ := (hdated.afterAll hlife hpositive hsince).put le_rfl hlife
      hpositive title text
    have htitle : title ∈ titlesOf (before ++ (now, .put title text) :: later) :=
      ⟨(now, .put title text), by simp, rfl⟩
    have htitles : titlesOf later ⊆ titlesOf (before ++ (now, .put title text) :: later) := by
      rintro other ⟨step, hmem, rfl⟩
      exact ⟨step, by simp [hmem], rfl⟩
    refine ⟨_, s, t, hconnect, hput, fun time => ?_⟩
    rw [(hunder.afterAll hkeys htitle htitles hspares).get, hcapacity']
    simp only [Nat.cast_le]
    split <;> rfl

/-- Three pages come in at once, the last of them with the greatest key. -/
def atOnce : List (ℚ × Request) := [(5, .put "A" "a"), (5, .put "C" "c")]

/-- Requests that leave the last of them alone. -/
def aside : List (ℚ × Request) := [(6, .get "B"), (7, .delete "A"), (8, .get "B")]

theorem get_after_put_atOnce :
    0 < 2 ∧ 0 < 10 ∧ (∀ step ∈ toCache aside, step.2.Spares "B") ∧
    ((atOnce ++ [(5, Request.put "B" "b")]).map Prod.fst).IsChain (· ≤ ·) ∧
    Set.InjOn key (titlesOf (atOnce ++ (5, .put "B" "b") :: aside)) ∧
    (∀ step ∈ aside, step.2.toCache.Spares "B") ∧
    (∃ m : MemoryCache ℚ String, MemoryCache.ofLimits (some 2) (some 10) = .ok m ∧
      ∀ time, (MemoryCache.operations.afterAll m
          (toCache atOnce ++ (5, .put "B" "b") :: toCache aside)).get? "B" time =
        if time < 5 + (10 : Nat) then some "b" else none) ∧
    ∃ (c : SharedCache) (s t : Server ℚ),
      (connect (some 2) (some 10)).runIn (Server.empty fun _ _ => false) = (.ok c, s) ∧
      (c.put "B" "b" 5).runIn (c.afterAll s atOnce) = (.ok true, t) ∧
      ∀ time, ((get "B" time).runIn (c.afterAll t aside)).1 =
        .ok (if 2 ≤ rivals ((c.afterAll s atOnce).members index) (key "B") 5 then none
          else if time < 5 + (10 : Nat) then some "b" else none) := by
  have hspares : ∀ step ∈ aside, step.2.toCache.Spares "B" := by
    simp [aside, Request.toCache, Cache.Request.Spares]
  have hspares' : ∀ step ∈ toCache aside, step.2.Spares "B" := by
    intro step hstep
    obtain ⟨step, hmem, rfl⟩ := List.mem_map.mp hstep
    exact hspares step hmem
  have hclock : ((atOnce ++ [(5, Request.put "B" "b")]).map Prod.fst).IsChain (· ≤ ·) := by
    decide +kernel
  have hkeys : Set.InjOn key (titlesOf (atOnce ++ (5, .put "B" "b") :: aside)) :=
    injOn_key (by decide +kernel)
  obtain ⟨hmemory, hshared⟩ :=
    get_after_put (by decide : 0 < 2) (by decide : 0 < 10) "B" "b" (5 : ℚ)
  exact ⟨by decide, by decide, hspares', hclock, hkeys, hspares, hmemory _ _ hspares',
    hshared _ _ hclock hkeys hspares⟩

/-- Of two pages that come in at the same time, the one with the greater key stays, be it the
older one. -/
theorem get_put_drivenOut :
    ([10, 10] : List ℚ).IsChain (· ≤ ·) ∧ key "A" ≠ key "B" ∧
    ∃ (c : SharedCache) (s t : Server ℚ),
      (connect (some 1) (some 100)).runIn (Server.empty fun _ _ => false) = (.ok c, s) ∧
      (c.put "A" "a" 10).runIn (c.afterAll s [(10, .put "B" "b")]) = (.ok true, t) ∧
      ((get "A" 10).runIn t).1 = .ok none := by
  let s : Server ℚ := ⟨.empty, .empty, #[.ping], fun _ _ => false⟩
  let c : SharedCache := ⟨1, 100⟩
  have hdated : Dated s 10 :=
    ⟨.empty, .empty, ⟨fun _ _ => rfl, rfl, rfl⟩, fun e he => (List.not_mem_nil he).elim⟩
  have hpast : Dated (c.afterAll s [(10, .put "B" "b")]) 10 :=
    hdated.after le_rfl rfl (by norm_num) (.put "B" "b")
  have hrivals : rivals ((c.afterAll s [(10, .put "B" "b")]).members index) (key "A") 10 = 1 := by
    decide +kernel
  obtain ⟨t, hput, -, hunder⟩ := hpast.put (c := c) le_rfl rfl (by norm_num) "A" "a"
  rw [hrivals, if_pos (by decide)] at hunder
  exact ⟨by decide, by decide +kernel, c, s, t, rfl, hput, hunder.get 10⟩

end SharedCache

end WikiGateway
