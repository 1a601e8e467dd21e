import Mathlib.Data.List.Dedup
import Mathlib.Data.Rat.Floor
import WikiGateway.Proofs.Attempt
import WikiGateway.Proofs.Cache.Mirror

/-! The shared cache answers like the cache in memory, as long as no page is asked for at a time
before the last one was put in. -/
namespace WikiGateway.SharedCache

variable {τ : Type} [Field τ] [LinearOrder τ] [FloorSemiring τ] {c : SharedCache}
  {m : MemoryCache τ String} {s : Server τ} {titles : Set String} {since : τ}

/-- The same request to a cache of any kind. -/
def Request.toCache : Request → Cache.Request String
  | put title text => .put title text
  | get title => .get title
  | delete title => .delete title

/-- The same requests to a cache of any kind, at the same times. -/
def toCache (steps : List (τ × Request)) : List (τ × Cache.Request String) :=
  steps.map fun step => (step.1, step.2.toCache)

/-- The titles in requests. -/
def titlesOf (steps : List (τ × Request)) : Set String :=
  {title | ∃ step ∈ steps, step.2.title = title}

/-- When a page was last put in, once a request was carried out. -/
def lastPut (since : τ) (step : τ × Request) : τ :=
  match step.2 with
  | .put .. => step.1
  | _ => since

/-- Pages are put in at later and later times after `since`, and none is asked for at a time before
the last one was put in. -/
def Advances (since : τ) : List (τ × Request) → Prop
  | [] => True
  | step :: steps =>
    (match step.2 with
      | .put .. => since < step.1
      | .get _ => since ≤ step.1
      | .delete _ => True) ∧ Advances (lastPut since step) steps

/-- The two caches have the same limits and hold the same pages. -/
structure Alike (titles : Set String) (c : SharedCache) (m : MemoryCache τ String) (s : Server τ)
    (since : τ) : Prop where
  capacity_eq : c.capacity = m.capacity
  ttl_eq : c.ttl = m.ttl
  capacity_pos : 0 < m.capacity
  ttl_pos : 0 < m.ttl
  since_nonneg : 0 ≤ since
  mirrors : ∃ values keys, s.Holds index values keys ∧ Mirrors titles m values keys since

omit [FloorSemiring τ] in
theorem alike_connect {capacity ttl : Nat} (hcapacity : 0 < capacity) (httl : 0 < ttl)
    (titles : Set String) :
    ∃ (m : MemoryCache τ String) (c : SharedCache) (s : Server τ),
      MemoryCache.ofLimits (some capacity) (some ttl) = .ok m ∧
      (connect (some capacity) (some ttl)).runIn (Server.empty fun _ _ => false) = (.ok c, s) ∧
      m.capacity = capacity ∧ Alike titles c m s 0 := by
  obtain ⟨s, hconnect, hs⟩ := runIn_connect (Server.holds_empty (τ := τ) index)
    (some (capacity : Int)) (some (ttl : Int))
  refine ⟨_, _, s, MemoryCache.ofLimits_eq_ok hcapacity httl, hconnect, rfl, ?_, ?_, hcapacity,
    httl, le_rfl, .empty, .empty, hs, mirrors_empty titles capacity ttl 0⟩
  · simp [ofLimits, Cache.orUsual, hcapacity.ne']
  · simp [ofLimits, Cache.orUsual, httl.ne']

theorem Alike.delete (h : Alike titles c m s since) (hkeys : Set.InjOn key titles) {title : String}
    (htitle : title ∈ titles) (now : τ) :
    ∃ found t, (SharedCache.delete title now).runIn s = (.ok found, t) ∧
      Alike titles c (m.delete title).2 t since := by
  obtain ⟨values, keys, hs, hm⟩ := h.mirrors
  obtain ⟨found, t, hdelete, ht⟩ := runIn_delete hs title now
  exact ⟨found, t, hdelete, { h with mirrors := ⟨_, _, ht, hm.delete hkeys htitle⟩ }⟩

variable [IsStrictOrderedRing τ]

theorem Alike.put (h : Alike titles c m s since) (hkeys : Set.InjOn key titles) {title : String}
    (htitle : title ∈ titles) (text : String) {now : τ} (hlater : since < now) :
    ∃ t, (c.put title text now).runIn s = (.ok true, t) ∧
      Alike titles c (m.put title text now) t now := by
  obtain ⟨values, keys, hs, hm⟩ := h.mirrors
  have hlife : Instant.seconds? (τ := τ) c.ttl = some (m.ttl : τ) := by
    rw [h.ttl_eq]
    exact congrArg some (Int.cast_natCast m.ttl)
  have hpositive : 0 < now := h.since_nonneg.trans_lt hlater
  obtain ⟨t, hput, ht⟩ := runIn_put hs hlife title text now
  refine ⟨t, hput, h.capacity_eq, h.ttl_eq, h.capacity_pos, h.ttl_pos, hpositive.le, _, _, ht, ?_⟩
  exact hm.put hkeys htitle h.capacity_pos h.capacity_eq h.ttl_pos hlater hpositive text

theorem Alike.get (h : Alike titles c m s since) (hkeys : Set.InjOn key titles) {title : String}
    (htitle : title ∈ titles) {now : τ} (hle : since ≤ now) :
    ∃ t, (SharedCache.get title now).runIn s = (.ok (m.get? title now), t) ∧
      Alike titles c m t since := by
  obtain ⟨values, keys, hs, hm⟩ := h.mirrors
  obtain ⟨t, hget, ht⟩ := runIn_get hs title now
  rw [hm.get hkeys htitle hle] at hget
  exact ⟨t, hget, { h with mirrors := ⟨values, keys, ht, hm⟩ }⟩

/-- A request is answered alike, and the caches are alike after it. -/
theorem Alike.step (h : Alike titles c m s since) (hkeys : Set.InjOn key titles)
    {now : τ} {request : Request} {rest : List (τ × Request)} (htitle : request.title ∈ titles)
    (hclock : Advances since ((now, request) :: rest)) :
    ((c.perform now request).runIn s).1 =
        .ok (MemoryCache.operations.answer? m (now, request.toCache)) ∧
      Alike titles c (MemoryCache.operations.after m (now, request.toCache))
        (c.after s (now, request)) (lastPut since (now, request)) := by
  obtain ⟨htime, -⟩ := hclock
  cases request with
  | put title text =>
    have hlater : since < now := htime
    have hmem : title ∈ titles := htitle
    obtain ⟨t, hput, ht⟩ := h.put hkeys hmem text hlater
    have hrun : (c.perform now (.put title text)).runIn s = (.ok none, t) := by
      simp only [perform, Action.runIn_bind, hput, Action.runIn_pure]
    rw [after, hrun]
    exact ⟨rfl, ht⟩
  | get title =>
    have hle : since ≤ now := htime
    have hmem : title ∈ titles := htitle
    obtain ⟨t, hget, ht⟩ := h.get hkeys hmem hle
    have hrun : (c.perform now (.get title)).runIn s = (.ok (some (m.get? title now)), t) := by
      rw [perform, Action.runIn_map, hget]
      rfl
    rw [after, hrun]
    exact ⟨rfl, ht⟩
  | delete title =>
    have hmem : title ∈ titles := htitle
    obtain ⟨found, t, hdelete, ht⟩ := h.delete hkeys hmem now
    have hrun : (c.perform now (.delete title)).runIn s = (.ok none, t) := by
      simp only [perform, Action.runIn_bind, hdelete, Action.runIn_pure]
    rw [after, hrun]
    exact ⟨rfl, ht⟩

theorem Alike.answers (h : Alike titles c m s since) (hkeys : Set.InjOn key titles)
    {steps : List (τ × Request)} (htitles : titlesOf steps ⊆ titles)
    (hclock : Advances since steps) :
    c.answers s steps = (MemoryCache.operations.answers m (toCache steps)).map .ok := by
  induction steps generalizing m s since with
  | nil => rfl
  | cons step steps ih =>
    obtain ⟨now, request⟩ := step
    have htitle : request.title ∈ titles := htitles ⟨_, List.mem_cons_self, rfl⟩
    have hrest : titlesOf steps ⊆ titles :=
      fun title ⟨step, hmem, he⟩ => htitles ⟨step, List.mem_cons_of_mem _ hmem, he⟩
    obtain ⟨hanswer, hafter⟩ := h.step hkeys htitle hclock
    have hanswers := ih hafter hrest hclock.2
    rw [SharedCache.answers, hanswer, hanswers]
    change _ = (((MemoryCache.operations.answer? m (now, request.toCache)).toList ++
      MemoryCache.operations.answers _ (toCache steps)).map Except.ok)
    rw [List.map_append]
    cases MemoryCache.operations.answer? m (now, request.toCache) <;> rfl

theorem Alike.afterAll (h : Alike titles c m s since) (hkeys : Set.InjOn key titles)
    {before rest : List (τ × Request)} (htitles : titlesOf before ⊆ titles)
    (hclock : Advances since (before ++ rest)) :
    ∃ m' since', Alike titles c m' (c.afterAll s before) since' ∧ m'.capacity = m.capacity ∧
      Advances since' rest := by
  induction before generalizing m s since with
  | nil => exact ⟨m, since, h, rfl, hclock⟩
  | cons step before ih =>
    obtain ⟨now, request⟩ := step
    have htitle : request.title ∈ titles := htitles ⟨_, List.mem_cons_self, rfl⟩
    have hrest : titlesOf before ⊆ titles :=
      fun title ⟨step, hmem, he⟩ => htitles ⟨step, List.mem_cons_of_mem _ hmem, he⟩
    obtain ⟨-, hafter⟩ := h.step hkeys htitle hclock
    obtain ⟨m', since', hm', hsize, hclock'⟩ := ih hafter hrest hclock.2
    refine ⟨m', since', hm', hsize.trans ?_, hclock'⟩
    exact (MemoryCache.after_limits m (now, request.toCache)).1

/-- Caches of the same positive limits, asked for the same by the same clock, answer alike as long
as no page is asked for at a time before the last one was put in. After each page that is put in,
the server holds no more pages than there is room for that have not expired, and the index lists
them all. -/
theorem answers_alike {capacity ttl : Nat} (hcapacity : 0 < capacity) (httl : 0 < ttl)
    {steps : List (τ × Request)} (hkeys : Set.InjOn key (titlesOf steps))
    (hclock : Advances 0 steps) :
    ∃ (m : MemoryCache τ String) (c : SharedCache) (s : Server τ),
      MemoryCache.ofLimits (some capacity) (some ttl) = .ok m ∧
      (connect (some capacity) (some ttl)).runIn (Server.empty fun _ _ => false) = (.ok c, s) ∧
      c.answers s steps = (MemoryCache.operations.answers m (toCache steps)).map .ok ∧
      ∀ before now title text, before ++ [(now, .put title text)] <+: steps →
        let t := c.afterAll s (before ++ [(now, .put title text)])
        (liveKeys t.values now).length ≤ capacity ∧
          ∀ k ∈ liveKeys t.values now, k ∈ (t.members index).keys := by
  obtain ⟨m, c, s, hm, hc, hsize, halike⟩ :=
    alike_connect (τ := τ) hcapacity httl (titlesOf steps)
  refine ⟨m, c, s, hm, hc, halike.answers hkeys subset_rfl hclock, ?_⟩
  rintro before now title text ⟨rest, rfl⟩
  rw [List.append_assoc] at hclock
  have htitles : titlesOf before ⊆ titlesOf (before ++ [(now, .put title text)] ++ rest) := by
    rintro title ⟨step, hmem, rfl⟩
    exact ⟨step, by simp [hmem], rfl⟩
  have htitle : title ∈ titlesOf (before ++ [(now, .put title text)] ++ rest) :=
    ⟨(now, .put title text), by simp, rfl⟩
  obtain ⟨m', since, halike', hsize', hlater, -⟩ := halike.afterAll hkeys htitles hclock
  obtain ⟨t, hput, halike''⟩ := halike'.put hkeys htitle text hlater
  have hafter : c.afterAll s (before ++ [(now, .put title text)]) = t := by
    rw [afterAll, List.foldl_append]
    change ((c.perform now (.put title text)).runIn (c.afterAll s before)).2 = t
    simp only [perform, Action.runIn_bind, hput, Action.runIn_pure]
  obtain ⟨values, keys, ht, hmirrors⟩ := halike''.mirrors
  intro u
  have hu : u = t := hafter
  rw [hu, ht.values_eq, ht.members_eq]
  refine ⟨?_, fun k hk => hmirrors.mem_liveKeys le_rfl hk⟩
  exact (hmirrors.length_liveKeys le_rfl).trans_eq (hsize'.trans hsize)

/-- Titles with digests that differ have keys that differ. -/
theorem injOn_key {steps : List (ℚ × Request)}
    (h : ((steps.map fun step => step.2.title).dedup.map key).Nodup) :
    Set.InjOn key (titlesOf steps) := by
  rintro a ⟨step, hstep, rfl⟩ b ⟨other, hother, rfl⟩ heq
  have hmem : ∀ step ∈ steps, step.2.title ∈ (steps.map fun step => step.2.title).dedup :=
    fun step hmem => List.mem_dedup.mpr (List.mem_map_of_mem hmem)
  exact List.inj_on_of_nodup_map h (hmem step hstep) (hmem other hother) heq

/-- The third page drives the first one out for its age, the fourth the second one for lack of room;
the fourth is put in once more and then taken out. -/
def fourPages : List (ℚ × Request) :=
  [(1, .put "A" "a"), (5, .put "B" "b"), (5, .get "A"), (12, .put "C" "c"), (12, .get "A"),
    (13, .put "D" "d"), (14, .get "B"), (15, .put "D" "e"), (16, .get "D"), (22, .get "C"),
    (16, .delete "D"), (16, .get "D")]

theorem answers_fourPages :
    0 < 2 ∧ 0 < 10 ∧ Set.InjOn key (titlesOf fourPages) ∧ Advances 0 fourPages ∧
    ∃ (m : MemoryCache ℚ String) (c : SharedCache) (s : Server ℚ),
      MemoryCache.ofLimits (some 2) (some 10) = .ok m ∧
      (connect (some 2) (some 10)).runIn (Server.empty fun _ _ => false) = (.ok c, s) ∧
      c.answers s fourPages = (MemoryCache.operations.answers m (toCache fourPages)).map .ok ∧
      ∀ before now title text, before ++ [(now, .put title text)] <+: fourPages →
        let t := c.afterAll s (before ++ [(now, .put title text)])
        (liveKeys t.values now).length ≤ 2 ∧
          ∀ k ∈ liveKeys t.values now, k ∈ (t.members index).keys := by
  have hkeys : Set.InjOn key (titlesOf fourPages) := injOn_key (by decide +kernel)
  have hclock : Advances 0 fourPages := by
    simp only [fourPages, Advances, lastPut]
    norm_num
  exact ⟨by decide, by decide, hkeys, hclock, answers_alike (by decide) (by decide) hkeys hclock⟩

/-- Answers without a fault are the pages that can be read off them. -/
theorem eq_map_ok {answers : List (Except Fault (Option String))} {pages : List (Option String)}
    (h : answers.map Except.toOption = pages.map some) : answers = pages.map .ok := by
  induction answers generalizing pages with
  | nil => rw [List.map_eq_nil_iff.mp h.symm, List.map_nil]
  | cons answer answers ih =>
    obtain ⟨page, pages, rfl, hanswer, hanswers⟩ := List.map_eq_cons_iff.mp h.symm
    rw [List.map_cons, ih hanswers.symm, Attempt.eq_ok_of_toOption hanswer.symm]

/-- A page is asked for at a time before the last one was put in. -/
def turnedBack : List (ℚ × Request) := [(10, .put "A" "a"), (16, .put "B" "b"), (12, .get "A")]

/-- The times at which pages are put in. -/
def putTimes (steps : List (ℚ × Request)) : List ℚ :=
  steps.filterMap fun step =>
    match step.2 with
    | .put .. => some step.1
    | _ => none

/-- The cache in memory forgets a page that is too old when another one is put in; the server still
has it for whoever asks by a clock that went back. -/
theorem answers_turnedBack :
    (∀ step ∈ turnedBack, 0 < step.1) ∧ (putTimes turnedBack).IsChain (· < ·) ∧
    Set.InjOn key (titlesOf turnedBack) ∧
    ∃ (m : MemoryCache ℚ String) (c : SharedCache) (s : Server ℚ),
      MemoryCache.ofLimits (some 2) (some 5) = .ok m ∧
      (connect (some 2) (some 5)).runIn (Server.empty fun _ _ => false) = (.ok c, s) ∧
      c.answers s turnedBack = [.ok (some "a")] ∧
      MemoryCache.operations.answers m (toCache turnedBack) = [none] := by
  refine ⟨by decide +kernel, by decide +kernel, injOn_key (by decide +kernel), ⟨2, 5, .empty⟩,
    ⟨2, 5⟩, ⟨.empty, .empty, #[.ping], fun _ _ => false⟩, rfl, rfl, ?_, by decide +kernel⟩
  have hread : (answers ⟨2, 5⟩ ⟨.empty, .empty, #[.ping], fun _ _ => false⟩ turnedBack).map
      Except.toOption = [some "a"].map some := by decide +kernel
  exact eq_map_ok hread

end WikiGateway.SharedCache
