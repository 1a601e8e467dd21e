import Mathlib.Data.Rat.Floor
import WikiGateway.Instant.Exact
import WikiGateway.Proofs.Cache.Memory
import WikiGateway.Proofs.Cache.Truthful
import WikiGateway.Proofs.Gateway.History
import WikiGateway.Source.Table

/-! The cache of a gateway never shows in the pages that it answers. -/
namespace WikiGateway

open WikiGateway.Action

/-- A source may fail at any time, but the text of a page never changes. -/
def Source.Tells {ω : Type} (source : Source ω String) (text : String → String) : Prop :=
  ∀ title world found, ((source.pageText title).runIn world).1 = .ok found → found = text title

namespace Gateway

variable {ω κ τ γ : Type} {g : Gateway ω κ τ String} {s : State ω κ τ} {text : String → String}
  {titles : Set String} {contents : κ → γ} {Sound : γ → Prop} {title : String}

/-- What a trusted cache is asked for it gives, or it is as if it had nothing. -/
theorem runIn_useCache_get (h : Trusted g.cache text titles contents Sound)
    (htitle : title ∈ titles) (hs : Sound (contents s.cached)) (now : τ) :
    ∃ found cached,
      (useCache (g.cache.get title now) none).runIn s = (.ok found, { s with cached }) ∧
      contents cached = contents s.cached ∧ ∀ t ∈ found, t = text title := by
  have hget := runIn_useCache (g.cache.get title now) none (s := s) fun f hf => h.get_fault hf
  refine ⟨_, _, hget, h.contents_get title now s.cached, ?_⟩
  intro t ht
  cases hrun : ((g.cache.get title now).runIn s.cached).1 with
  | error f =>
    rw [hrun] at ht
    cases ht
  | ok found =>
    rw [hrun] at ht
    obtain rfl : found = some t := ht
    exact h.get_eq htitle hs hrun

theorem runIn_useCache_put (h : Trusted g.cache text titles contents Sound)
    (htitle : title ∈ titles) (hs : Sound (contents s.cached)) (now : τ) :
    ∃ kept cached, (useCache (g.cache.put title (text title) now) false).runIn s =
      (.ok kept, { s with cached }) ∧ Sound (contents cached) := by
  have hput :=
    runIn_useCache (g.cache.put title (text title) now) false (s := s) fun f hf => h.put_fault hf
  exact ⟨_, _, hput, h.sound_put now htitle hs⟩

/-- The text of a page comes out right, or the source failed to give it, and then the cache holds
what it held before. -/
theorem runIn_pageText (h : Trusted g.cache text titles contents Sound)
    (hsource : g.source.Tells text) (htitle : title ∈ titles) (hs : Sound (contents s.cached)) :
    ∃ r world cached, (g.pageText title).runIn s = (r, { s with world, cached }) ∧
      Sound (contents cached) ∧
      (r = .ok (text title) ∨ ∃ f, r = .error f ∧
        ((g.source.pageText title).runIn s.world).1 = .error f ∧
        contents cached = contents s.cached) := by
  obtain ⟨found, c, hget, hsame, hfound⟩ :=
    runIn_useCache_get h htitle hs (g.clock s.world)
  have hc : Sound (contents c) := hsame ▸ hs
  have hgiven : found.filter Named.isGiven = found := by cases found <;> rfl
  simp only [pageText, runIn_bind, runIn_now, hget, hgiven]
  cases found with
  | some t =>
    obtain rfl := hfound t rfl
    exact ⟨_, _, _, rfl, hc, .inl rfl⟩
  | none =>
    simp only [runIn_bind, runIn_ask, runIn_now]
    rcases hrun : (g.source.pageText title).runIn s.world with ⟨f | t, w⟩
    · exact ⟨_, _, _, rfl, hc, .inr ⟨f, rfl, rfl, hsame⟩⟩
    · have htext : t = text title := hsource title s.world t (congrArg Prod.fst hrun)
      obtain ⟨kept, c', hput, hc'⟩ :=
        runIn_useCache_put (s := { s with world := w, cached := c }) h htitle hc (g.clock w)
      rw [← htext] at hput
      simp only [hput, runIn_pure]
      exact ⟨_, _, _, rfl, hc', .inl (congrArg Except.ok htext)⟩

/-- The cache of a gateway holds what it should, and its ledger counts all requests. -/
structure Orderly (contents : κ → γ) (Sound : γ → Prop) (s : State ω κ τ) : Prop where
  cached : Sound (contents s.cached)
  ledger : s.ledger.Ready

variable [Instant τ]

theorem Orderly.after (hs : Orderly contents Sound s)
    (h : Trusted g.cache text titles contents Sound) (hsource : g.source.Tells text)
    {event : Event ω τ} (htitles : ∀ title, event = .call (.page title) → title ∈ titles) :
    Orderly contents Sound (g.after s event) := by
  cases event with
  | world world => exact ⟨hs.cached, hs.ledger⟩
  | ledger change => exact ⟨hs.cached, hs.ledger.changed change⟩
  | call request =>
    have hpage (title : String) (hrequest : request = .page title) :
        Keeps (Orderly contents Sound) (g.pageText title) := by
      intro s hs
      have htitle : title ∈ titles := htitles title (congrArg Event.call hrequest)
      obtain ⟨r, world, cached, hrun, hcached, -⟩ := runIn_pageText h hsource htitle hs.cached
      rw [hrun]
      exact ⟨hcached, hs.ledger⟩
    have hserve : Keeps (Orderly contents Sound) (g.serve request) :=
      keeps_serve (fun s world hs => ⟨hs.cached, hs.ledger⟩) hpage
    rw [Gateway.after, runIn_answer hs.ledger]
    exact hserve _ ⟨hs.cached, hs.ledger.changedBy _⟩

theorem Orderly.afterAll (hs : Orderly contents Sound s)
    (h : Trusted g.cache text titles contents Sound) (hsource : g.source.Tells text)
    {events : List (Event ω τ)} (htitles : ∀ title, .call (.page title) ∈ events → title ∈ titles) :
    Orderly contents Sound (g.afterAll s events) := by
  induction events generalizing s with
  | nil => exact hs
  | cons event events ih =>
    have hfirst : Orderly contents Sound (g.after s event) := by
      refine hs.after h hsource fun title hevent => htitles title ?_
      rw [hevent]
      exact List.mem_cons_self
    exact ih hfirst fun title hmem => htitles title (List.mem_cons_of_mem _ hmem)

/-- Whatever happened to a gateway with this source and this cache, it answers a request for a page
with the right text. If it fails, then because the source did, and the cache holds what it held. -/
def Faithful (source : Source ω String) (text : String → String) (cache : Cache κ τ String)
    (titles : Set String) (contents : κ → γ) (cached : κ) : Prop :=
  ∀ g : Gateway ω κ τ String, g.source = source → g.cache = cache →
  ∀ (world : ω) (start : τ) (events : List (Event ω τ)),
    (∀ title, .call (.page title) ∈ events → title ∈ titles) →
  ∀ title ∈ titles,
    let s := g.afterAll ⟨world, cached, .opened start⟩ events
    let (result, after) := (g.answer (.page title)).runIn s
    (∀ a, result = .ok a → a = .page title (text title)) ∧
      ∀ f, result = .error f → ((source.pageText title).runIn s.world).1 = .error f ∧
        contents after.cached = contents s.cached

theorem faithful_of_trusted {source : Source ω String} {cache : Cache κ τ String} {cached : κ}
    (h : Trusted cache text titles contents Sound) (hsource : source.Tells text)
    (hs : Sound (contents cached)) : Faithful source text cache titles contents cached := by
  rintro g rfl rfl world start events htitles title htitle s
  have hopened : Orderly contents Sound (⟨world, cached, .opened start⟩ : State ω κ τ) :=
    ⟨hs, Ledger.ready_opened start⟩
  have hnow : Orderly contents Sound s := hopened.afterAll h hsource htitles
  obtain ⟨r, world', cached', hrun, -, hresult⟩ :=
    runIn_pageText (s := { s with ledger := s.ledger.changedBy _ }) h hsource htitle hnow.cached
  rw [runIn_answer hnow.ledger, serve, runIn_map, hrun]
  refine ⟨fun a ha => ?_, fun f hf => ?_⟩
  · obtain rfl | ⟨f, rfl, -⟩ := hresult
    · exact (Except.ok.inj ha).symm
    · cases ha
  · obtain rfl | ⟨f', rfl, hfault, hsame⟩ := hresult
    · cases hf
    · rw [← Except.error.inj hf]
      exact ⟨hfault, hsame⟩

/-- The cache in memory, a shared cache whatever its server refuses and whenever it does, and a
cache that fails at any time do not change the pages that a gateway answers. -/
theorem pages_faithful {source : Source ω String} (hsource : source.Tells text) :
    (∀ capacity ttl : Nat, 0 < capacity → 0 < ttl → ∃ c : MemoryCache τ String,
      MemoryCache.ofLimits (some capacity) (some ttl) = .ok c ∧
        Faithful source text MemoryCache.cache .univ MemoryCache.entries c) ∧
    (∀ (c : SharedCache) (titles : Set String) (s : Server τ), Set.InjOn SharedCache.key titles →
      s.values = .empty → Faithful source text c.cache titles SharedCache.contents s) ∧
    ∀ (κ : Type) (cache : Cache κ τ String) (pages : κ → MemoryCache τ String) (cached : κ),
      Unsteady cache pages → (pages cached).entries = .empty →
        Faithful source text cache .univ (fun c => (pages c).entries) cached := by
  refine ⟨fun capacity ttl hcapacity httl => ?_, fun c titles s hkey hempty => ?_,
    fun κ cache pages cached hunsteady hempty => ?_⟩
  · refine ⟨_, MemoryCache.ofLimits_eq_ok hcapacity httl, ?_⟩
    exact faithful_of_trusted (Unsteady.memory.trusted text) hsource Truthful.empty
  · refine faithful_of_trusted (SharedCache.trusted hkey c text) hsource ?_
    rw [SharedCache.contents, hempty]
    exact Truthful.empty
  · refine faithful_of_trusted (hunsteady.trusted text) hsource ?_
    rw [hempty]
    exact Truthful.empty

end Gateway

namespace Table

variable {τ : Type} [Instant τ]

/-- The text of a page, as the tables have it. -/
def textOf (t : Table τ) (title : String) : String := (t.texts.lookup title).getD ""

/-- Whatever trouble is laid out for it, a source of tables always has the same texts. -/
theorem source_tells (t : Table τ) : t.source.Tells t.textOf := by
  intro title world found hfound
  cases htrouble : t.troubleFor .pageText title with
  | some f =>
    have hrun : ((t.source.pageText title).runIn world).1 = .error f := by
      simp only [source, ask, htrouble]
      rfl
    rw [hrun] at hfound
    cases hfound
  | none =>
    have hrun : ((t.source.pageText title).runIn world).1 = .ok (t.textOf title) := by
      simp only [source, ask, htrouble]
      rfl
    rw [hrun] at hfound
    exact (Except.ok.inj hfound).symm

/-- The text of "A" is told, that of "B" never is; other pages are empty. -/
def halfTold : Table ℚ where
  links := []
  categories := []
  pageCategories := []
  editors := []
  texts := [("A", "a"), ("B", "b")]
  results := []
  troubles := [⟨.pageText, some "B", .failure (.cacheConnection "no luck" [])⟩]
  cost := 1

end Table

namespace Gateway

/-- The server of the shared cache refuses every third command, and the last cache takes no page. -/
theorem pages_halfTold :
    let source := Table.halfTold.source
    let text := Table.halfTold.textOf
    let down : Fault := .failure (.cacheConnection "down" [])
    source.Tells text ∧
    (∃ c : MemoryCache ℚ String, MemoryCache.ofLimits (some 2) (some 10) = .ok c ∧
      Faithful source text MemoryCache.cache .univ MemoryCache.entries c) ∧
    Faithful source text (SharedCache.cache ⟨2, 10⟩) {"A", "B", "C"} SharedCache.contents
      (Server.empty fun n _ => n % 3 = 2 : Server ℚ) ∧
    Faithful source text (Cache.faulty none (some down) none false : Cache Unit ℚ String) .univ
      (fun _ => (.empty : OrderedMap (String × ℚ))) () := by
  intro source text down
  have hsource : source.Tells text := Table.source_tells Table.halfTold
  have hkeys : Set.InjOn SharedCache.key {"A", "B", "C"} := by
    have hnodup : (["A", "B", "C"].map SharedCache.key).Nodup := by decide +kernel
    intro a ha b hb heq
    exact List.inj_on_of_nodup_map hnodup (by simpa using ha) (by simpa using hb) heq
  have hnone : ∀ f ∈ (none : Option Fault), f.isA .cache = true := by
    rintro f ⟨⟩
  have hdown : ∀ f ∈ some down, f.isA .cache = true := by
    rintro f ⟨⟩
    rfl
  have hfaulty := Unsteady.faulty (κ := Unit) (τ := ℚ) hnone hdown none false 2 10
  exact ⟨hsource, (pages_faithful hsource).1 2 10 (by decide) (by decide),
    (pages_faithful hsource).2.1 ⟨2, 10⟩ _ _ hkeys rfl,
    (pages_faithful hsource).2.2 Unit _ _ () hfaulty rfl⟩

end Gateway

end WikiGateway
