import Mathlib.Data.Set.Function
import WikiGateway.Cache.Memory
import WikiGateway.Cache.Shared
import WikiGateway.Proofs.Action
import WikiGateway.Proofs.Cache.Server
import WikiGateway.Proofs.Cache.Shared

/-! Caches into which only the right texts of pages are put hold no others, whatever they drive out
and whenever they fail. -/
namespace WikiGateway

open WikiGateway.Action

/-- Pages are kept under keys of their titles, and each with its right text. -/
def Truthful {τ : Type} (text : String → String) (titles : Set String) (key : String → String)
    (d : OrderedMap (String × τ)) : Prop :=
  ∀ title ∈ titles, ∀ found time, d.find? (key title) = some (found, time) → found = text title

namespace Truthful

variable {τ : Type} {text : String → String} {titles : Set String} {key : String → String}
  {d e : OrderedMap (String × τ)} {title : String}

theorem empty : Truthful text titles key (.empty : OrderedMap (String × τ)) := by
  intro title htitle found time hfound
  cases hfound

/-- What is left of right texts is right. -/
theorem of_subset (h : Truthful text titles key d) (hsub : e.entries ⊆ d.entries) :
    Truthful text titles key e := by
  intro title htitle found time hfound
  have hmem : (key title, found, time) ∈ d.entries := hsub (OrderedMap.find?_eq_some_iff.mp hfound)
  exact h title htitle found time (OrderedMap.find?_eq_some_iff.mpr hmem)

theorem foldl_erase (h : Truthful text titles key d) (keys : List String) :
    Truthful text titles key (keys.foldl OrderedMap.erase d) := by
  refine h.of_subset fun e he => ?_
  rw [OrderedMap.entries_foldl_erase] at he
  exact (List.mem_filter.mp he).1

theorem insert (h : Truthful text titles key d) (hkey : Set.InjOn key titles)
    (htitle : title ∈ titles) (time : τ) :
    Truthful text titles key (d.insert (key title) (text title, time)) := by
  intro other hother found time' hfound
  rw [OrderedMap.find?_insert] at hfound
  by_cases hsame : key other = key title
  · rw [if_pos hsame] at hfound
    cases hfound
    rw [hkey hother htitle hsame]
  · rw [if_neg hsame] at hfound
    exact h other hother found time' hfound

end Truthful

/-- A cache can be trusted with the texts of pages: as long as it holds what it should, it answers
with the right text or none, and it fails only as caches do. Asking it changes nothing. -/
structure Trusted {κ τ γ : Type} (cache : Cache κ τ String) (text : String → String)
    (titles : Set String) (contents : κ → γ) (Sound : γ → Prop) : Prop where
  get_eq {title : String} {now : τ} {c : κ} {found : String} : title ∈ titles → Sound (contents c) →
    ((cache.get title now).runIn c).1 = .ok (some found) → found = text title
  get_fault {title : String} {now : τ} {c : κ} {f : Fault} :
    ((cache.get title now).runIn c).1 = .error f → f.isA .cache = true
  contents_get (title : String) (now : τ) (c : κ) :
    contents ((cache.get title now).runIn c).2 = contents c
  sound_put {title : String} (now : τ) {c : κ} : title ∈ titles → Sound (contents c) →
    Sound (contents ((cache.put title (text title) now).runIn c).2)
  put_fault {title found : String} {now : τ} {c : κ} {f : Fault} :
    ((cache.put title found now).runIn c).1 = .error f → f.isA .cache = true

namespace MemoryCache

variable {τ : Type} [Instant τ] {text : String → String} {c : MemoryCache τ String}

theorem get?_eq_some {title found : String} {now : τ} (h : c.get? title now = some found) :
    ∃ time, c.entries.find? title = some (found, time) := by
  rw [get?] at h
  split at h
  · cases h
  · rename_i entry time hentry
    split at h
    · cases h
    · exact ⟨time, Option.some.inj h ▸ hentry⟩

theorem truthful_put (h : Truthful text .univ id c.entries) (title : String) (now : τ) :
    Truthful text .univ id (c.put title (text title) now).entries := by
  refine Truthful.insert (h.of_subset fun e he => ?_) (Set.injOn_id _) trivial now
  have hlive := List.mem_of_mem_drop he
  exact (List.mem_filter.mp (List.mem_filter.mp hlive).1).1

end MemoryCache

/-- A cache that has the pages of a cache in memory, but may fail at any time: when it is asked for
a page, and before or after one was put in. -/
structure Unsteady {κ τ : Type} [Instant τ] (cache : Cache κ τ String)
    (pages : κ → MemoryCache τ String) : Prop where
  get (title : String) (now : τ) (c : κ) :
    pages ((cache.get title now).runIn c).2 = pages c ∧
      (((cache.get title now).runIn c).1 = .ok ((pages c).get? title now) ∨
        ∃ f, ((cache.get title now).runIn c).1 = .error f ∧ f.isA .cache = true)
  put (title found : String) (now : τ) (c : κ) :
    (pages ((cache.put title found now).runIn c).2 = pages c ∨
        pages ((cache.put title found now).runIn c).2 = (pages c).put title found now) ∧
      ∀ f, ((cache.put title found now).runIn c).1 = .error f → f.isA .cache = true

namespace Unsteady

variable {κ τ : Type} [Instant τ] {cache : Cache κ τ String} {pages : κ → MemoryCache τ String}

/-- A cache in memory never fails. -/
theorem memory : Unsteady (MemoryCache.cache (τ := τ) (α := String)) id where
  get title now c := ⟨rfl, .inl rfl⟩
  put title found now c := ⟨.inr rfl, fun f hf => by cases hf⟩

/-- A cache that meets faults of caches alone is empty at all times. -/
theorem faulty {get put : Option Fault} (hget : ∀ f ∈ get, f.isA .cache = true)
    (hput : ∀ f ∈ put, f.isA .cache = true) (health : Option Fault) (healthy : Bool)
    (capacity ttl : Nat) :
    Unsteady (Cache.faulty get put health healthy : Cache κ τ String)
      fun _ => ⟨capacity, ttl, .empty⟩ where
  get title now c := by
    cases get with
    | none => exact ⟨rfl, .inl rfl⟩
    | some f => exact ⟨rfl, .inr ⟨f, rfl, hget f rfl⟩⟩
  put title found now c := by
    cases put with
    | none => exact ⟨.inl rfl, fun f hf => by cases hf⟩
    | some f' =>
      refine ⟨.inl rfl, fun f hf => ?_⟩
      obtain rfl : f' = f := Except.error.inj hf
      exact hput f' rfl

theorem trusted (h : Unsteady cache pages) (text : String → String) :
    Trusted cache text .univ (fun c => (pages c).entries) (Truthful text .univ id) where
  get_eq {title now c found} htitle hs hfound := by
    obtain ⟨-, hget | ⟨f, hfault, -⟩⟩ := h.get title now c
    · rw [hget] at hfound
      obtain ⟨time, hentry⟩ := MemoryCache.get?_eq_some (Except.ok.inj hfound)
      exact hs title htitle found time hentry
    · rw [hfault] at hfound
      cases hfound
  get_fault {title now c f} hfault := by
    obtain ⟨-, hget | ⟨f', hfault', hcache⟩⟩ := h.get title now c
    · rw [hget] at hfault
      cases hfault
    · rw [hfault'] at hfault
      exact Except.error.inj hfault ▸ hcache
  contents_get title now c := congrArg MemoryCache.entries (h.get title now c).1
  sound_put {title} now {c} _ hs := by
    obtain ⟨hsame | hput, -⟩ := h.put title (text title) now c
    · rw [hsame]
      exact hs
    · rw [hput]
      exact MemoryCache.truthful_put hs title now
  put_fault {title found now c f} hfault := (h.put title found now c).2 f hfault

end Unsteady

namespace SharedCache

variable {τ : Type} {text : String → String} {titles : Set String} {s : Server τ}

/-- What a server holds: values under keys, and sets. -/
def contents (s : Server τ) : OrderedMap (String × τ) × OrderedMap (OrderedMap τ) :=
  (s.values, s.sets)

/-- Whatever is asked of a server, it notes that first, and nothing else changes. -/
theorem contents_issue (c : Command τ) (s : Server τ) :
    contents ((Server.issue c).runIn s).2 = contents s := by
  simp only [Server.issue, runIn_bind, runIn_getThe, runIn_set]
  split <;> rfl

theorem keeps_issue {P : OrderedMap (String × τ) × OrderedMap (OrderedMap τ) → Prop}
    (c : Command τ) : Keeps (fun s => P (contents s)) (Server.issue c) := by
  intro s hs
  rw [contents_issue]
  exact hs

theorem isA_cache_of_guarded {α : Type} {say : String → String} {act : Action (Server τ) α}
    {f : Fault} (h : ((guarded say act).runIn s).1 = .error f) : f.isA .cache = true := by
  rw [runIn_guarded] at h
  rcases hact : act.runIn s with ⟨f' | a, t⟩
  · rw [hact] at h
    cases h
    rfl
  · rw [hact] at h
    cases h

/-- A server that holds right texts goes on to hold right texts. -/
def KeepsTruth {α : Type} (text : String → String) (titles : Set String)
    (act : Action (Server τ) α) : Prop :=
  Keeps (fun s => Truthful text titles key (contents s).1) act

theorem keepsTruth_issue (c : Command τ) : KeepsTruth text titles (Server.issue c) :=
  keeps_issue (P := fun x => Truthful text titles key x.1) c

theorem keepsTruth_zcard (name : String) : KeepsTruth (τ := τ) text titles (Server.zcard name) :=
  (keepsTruth_issue _).bind fun _ => keeps_getThe.bind fun _ => keeps_pure _

variable [Instant τ]

theorem keepsTruth_zpopmin (name : String) (count : Int) :
    KeepsTruth (τ := τ) text titles (Server.zpopmin name count) :=
  (keepsTruth_issue _).bind fun _ _ hs => hs

theorem keepsTruth_delete (keys : List String) (now : τ) :
    KeepsTruth text titles (Server.delete keys now) := by
  refine (keepsTruth_issue _).bind fun _ s hs => ?_
  simp only [runIn_bind, runIn_getThe, runIn_set, runIn_pure, contents]
  rw [Server.fst_foldl_erase (fun _ _ => rfl)]
  exact hs.foldl_erase keys

/-- Commands that put only right texts in. -/
def Right (text : String → String) (titles : Set String) : Command τ → Prop
  | .setex key _ value => ∃ title ∈ titles, key = SharedCache.key title ∧ value = text title
  | _ => True

theorem truthful_apply (hkey : Set.InjOn key titles) {c : Command τ} (hright : Right text titles c)
    {now : τ} {t : Server τ} (h : Truthful text titles key s.values)
    (happly : Server.apply now s c = .ok t) : Truthful text titles key t.values := by
  cases c with
  | setex k ttl value =>
    obtain ⟨title, htitle, rfl, rfl⟩ := hright
    rw [Server.apply] at happly
    split at happly
    · cases happly
    · cases happly
      exact h.insert hkey htitle _
  | _ =>
    cases happly
    exact h

theorem keepsTruth_execute (hkey : Set.InjOn key titles) {queue : List (Command τ)}
    (hright : ∀ c ∈ queue, Right text titles c) (now : τ) :
    KeepsTruth text titles (Server.execute queue now) := by
  have hturn (c : Command τ) (hc : c ∈ queue) : KeepsTruth text titles
      (do let t ← Server.apply now (← getThe (Server τ)) c
          set t
          return ForInStep.yield () : Action (Server τ) (ForInStep Unit)) := by
    intro s hs
    simp only [runIn_bind, runIn_getThe, runIn_lift]
    cases happly : Server.apply now s c with
    | error f => exact hs
    | ok t => exact truthful_apply hkey (hright c hc) hs happly
  refine (keepsTruth_issue _).bind fun _ => ?_
  exact (keeps_forIn fun c hc _ => hturn c hc).bind fun _ => keeps_pure _

theorem keepsTruth_evict (c : SharedCache) (now : τ) : KeepsTruth text titles (c.evict now) := by
  refine (keepsTruth_zcard _).bind fun n => ?_
  dsimp only
  split
  · refine (keepsTruth_zpopmin _ _).bind fun keys => ?_
    split
    · exact (keepsTruth_delete keys now).bind fun _ => keeps_pure _
    · exact keeps_pure _
  · exact keeps_pure _

theorem keepsTruth_store (hkey : Set.InjOn key titles) {title : String} (htitle : title ∈ titles)
    (c : SharedCache) (now : τ) : KeepsTruth text titles (c.store title (text title) now) := by
  refine (keepsTruth_issue _).bind fun _ => (keepsTruth_issue _).bind fun _ => ?_
  split
  · exact keeps_throw _
  · refine (keepsTruth_issue _).bind fun _ => ?_
    refine (keepsTruth_execute hkey ?_ now).bind fun _ => keepsTruth_evict c now
    intro command hcommand
    simp only [List.mem_cons, List.not_mem_nil, or_false] at hcommand
    rcases hcommand with rfl | rfl | rfl
    · exact ⟨title, htitle, rfl, rfl⟩
    · trivial
    · trivial

theorem keepsTruth_put (hkey : Set.InjOn key titles) {title : String} (htitle : title ∈ titles)
    (c : SharedCache) (now : τ) : KeepsTruth text titles (c.put title (text title) now) :=
  ((keepsTruth_store hkey htitle c now).tryCatch fun _ => keeps_throw _).bind fun _ => keeps_pure _

theorem get_eq_some {title found : String} {now : τ}
    (h : ((get title now).runIn s).1 = .ok (some found)) :
    ∃ time, s.values.find? (key title) = some (found, time) := by
  have hissue := contents_issue (.get (key title)) s
  rw [get, runIn_guarded, Server.get, runIn_bind] at h
  rcases hrun : (Server.issue (.get (key title))).runIn s with ⟨f | _, t⟩
  · rw [hrun] at h
    cases h
  · rw [hrun] at h hissue
    have hvalues : t.values = s.values := congrArg Prod.fst hissue
    simp only [runIn_bind, runIn_getThe, runIn_pure, hvalues] at h
    have hlive : Server.live? s.values (key title) now = some found := Except.ok.inj h
    rw [Server.live?] at hlive
    split at hlive
    · cases hlive
    · rename_i value time hentry
      split at hlive
      · exact ⟨time, Option.some.inj hlive ▸ hentry⟩
      · cases hlive

theorem trusted (hkey : Set.InjOn key titles) (c : SharedCache) (text : String → String) :
    Trusted (c.cache (τ := τ)) text titles contents (fun x => Truthful text titles key x.1) where
  get_eq {title now s found} htitle hs hfound := by
    obtain ⟨time, hentry⟩ := get_eq_some hfound
    exact hs title htitle found time hentry
  get_fault hfault := isA_cache_of_guarded hfault
  contents_get title now s := by
    have hget : Keeps (fun t => contents t = contents s) (get title now) :=
      ((keeps_issue (P := fun x => x = contents s) _).bind fun _ =>
        keeps_getThe.bind fun _ => keeps_pure _).tryCatch fun _ => keeps_throw _
    exact hget s rfl
  sound_put now _ htitle hs := keepsTruth_put hkey htitle c now _ hs
  put_fault {title found now s f} hfault := by
    change ((c.put title found now).runIn s).1 = .error f at hfault
    rw [put, runIn_bind] at hfault
    rcases hrun : (guarded ("write failed: " ++ ·) (c.store title found now)).runIn s with
      ⟨f' | _, t⟩
    · rw [hrun] at hfault
      cases hfault
      exact isA_cache_of_guarded (congrArg Prod.fst hrun)
    · rw [hrun] at hfault
      cases hfault

end SharedCache

end WikiGateway
