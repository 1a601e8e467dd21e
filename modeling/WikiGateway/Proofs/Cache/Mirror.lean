import Mathlib.Data.List.Perm.Subperm
import Mathlib.Data.Prod.Lex
import Mathlib.Data.Set.Function
import WikiGateway.Proofs.Cache.Memory
import WikiGateway.Proofs.Cache.Shared
import WikiGateway.Proofs.Named

/-! The cache in memory and the shared cache hold the same pages, the second one under keys that it
also lists by the times when the pages were put in. -/
namespace WikiGateway

theorem filter_not_mem_take {α β : Type} [DecidableEq β] {f : α → β} {as : List α}
    (h : (as.map f).Nodup) (n : Nat) :
    as.filter (fun a => f a ∉ (as.take n).map f) = as.drop n := by
  have hsplit : ((as.take n).map f ++ (as.drop n).map f).Nodup := by
    rwa [← List.map_append, List.take_append_drop]
  obtain ⟨-, -, hapart⟩ := List.nodup_append.mp hsplit
  have hfront : (as.take n).filter (fun a => f a ∉ (as.take n).map f) = [] := by
    refine List.filter_eq_nil_iff.mpr fun a ha => ?_
    have hmem : f a ∈ (as.take n).map f := List.mem_map_of_mem ha
    simpa only [decide_eq_true_eq, not_not] using hmem
  have hback : (as.drop n).filter (fun a => f a ∉ (as.take n).map f) = as.drop n := by
    refine List.filter_eq_self.mpr fun a ha => ?_
    have hnot : f a ∉ (as.take n).map f :=
      fun hmem => hapart _ hmem _ (List.mem_map_of_mem ha) rfl
    exact decide_eq_true hnot
  calc as.filter (fun a => f a ∉ (as.take n).map f)
      = (as.take n ++ as.drop n).filter (fun a => f a ∉ (as.take n).map f) := by
        rw [List.take_append_drop]
    _ = as.drop n := by rw [List.filter_append, hfront, hback, List.nil_append]

namespace SharedCache

variable {τ : Type} {c : SharedCache} {m : MemoryCache τ String} {titles : Set String}
  {values : OrderedMap (String × τ)} {keys : OrderedMap τ} {title text k : String} {since now : τ}

/-- The keys of a server's values that have not expired. -/
def liveKeys [LT τ] [DecidableLT τ] (values : OrderedMap (String × τ)) (now : τ) : List String :=
  (values.entries.filter fun e => now < e.2.2).map Prod.fst

variable [Field τ] [LinearOrder τ]

/-- The server holds the pages of the cache in memory and lists their keys; what else it holds had
expired at the last time when a page was put in. -/
structure Mirrors (titles : Set String) (m : MemoryCache τ String)
    (values : OrderedMap (String × τ)) (keys : OrderedMap τ) (since : τ) : Prop where
  used : ∀ e ∈ m.entries.entries, e.1 ∈ titles
  listed : keys.entries.Perm (m.entries.entries.map fun e => (key e.1, e.2.2))
  stored : ∀ e ∈ m.entries.entries, values.find? (key e.1) = some (e.2.1, e.2.2 + m.ttl)
  expired : ∀ k text expiry, values.find? k = some (text, expiry) → k ∉ keys.keys → expiry ≤ since
  oldestFirst : m.entries.entries.Pairwise fun e e' => e.2.2 < e'.2.2
  positive : ∀ e ∈ m.entries.entries, 0 < e.2.2
  past : ∀ e ∈ m.entries.entries, e.2.2 ≤ since
  fits : m.entries.size ≤ m.capacity

theorem mirrors_empty (titles : Set String) (capacity ttl : Nat) (since : τ) :
    Mirrors titles ⟨capacity, ttl, .empty⟩ .empty .empty since where
  used := by simp [OrderedMap.empty]
  listed := .refl _
  stored := by simp [OrderedMap.empty]
  expired := by simp [OrderedMap.find?_empty]
  oldestFirst := .nil
  positive := by simp [OrderedMap.empty]
  past := by simp [OrderedMap.empty]
  fits := Nat.zero_le _

theorem Mirrors.mem_keys_iff (h : Mirrors titles m values keys since) :
    k ∈ keys.keys ↔ ∃ e ∈ m.entries.entries, key e.1 = k := by
  rw [OrderedMap.keys, (h.listed.map Prod.fst).mem_iff, List.map_map]
  simp

theorem Mirrors.key_mem_keys_iff (h : Mirrors titles m values keys since)
    (hkeys : Set.InjOn key titles) (htitle : title ∈ titles) :
    key title ∈ keys.keys ↔ title ∈ m.entries.keys := by
  rw [h.mem_keys_iff, OrderedMap.keys, List.mem_map]
  constructor
  · rintro ⟨e, he, hkey⟩
    exact ⟨e, he, hkeys (h.used e he) htitle hkey⟩
  · rintro ⟨e, he, rfl⟩
    exact ⟨e, he, rfl⟩

theorem Mirrors.mem_liveKeys (h : Mirrors titles m values keys since) (hle : since ≤ now)
    (hk : k ∈ liveKeys values now) : k ∈ keys.keys := by
  obtain ⟨⟨_, text, expiry⟩, he, rfl⟩ := List.mem_map.mp hk
  obtain ⟨he, hlive⟩ := List.mem_filter.mp he
  by_contra hmissing
  have hexpiry := h.expired _ _ _ (OrderedMap.find?_eq_some_iff.mpr he) hmissing
  exact absurd (of_decide_eq_true hlive) (not_lt.mpr (hexpiry.trans hle))

theorem Mirrors.length_liveKeys (h : Mirrors titles m values keys since) (hle : since ≤ now) :
    (liveKeys values now).length ≤ m.capacity := by
  have hnodup : (liveKeys values now).Nodup :=
    (List.filter_sublist.map Prod.fst).nodup values.nodup
  have hlength : keys.keys.length = m.entries.size := by
    rw [OrderedMap.keys, List.length_map, h.listed.length_eq, List.length_map, OrderedMap.size]
  calc (liveKeys values now).length
      ≤ keys.keys.length :=
        (List.subperm_of_subset hnodup fun k hk => h.mem_liveKeys hle hk).length_le
    _ = m.entries.size := hlength
    _ ≤ m.capacity := h.fits

theorem Mirrors.delete (h : Mirrors titles m values keys since) (hkeys : Set.InjOn key titles)
    (htitle : title ∈ titles) :
    Mirrors titles (m.delete title).2 (values.erase (key title)) (keys.erase (key title))
      since := by
  have hsub : (m.entries.erase title).entries.Sublist m.entries.entries := List.filter_sublist
  have hsame : ∀ e ∈ m.entries.entries, (key e.1 ≠ key title ↔ e.1 ≠ title) := by
    intro e he
    exact not_congr ⟨fun hkey => hkeys (h.used e he) htitle hkey, congrArg key⟩
  refine ⟨fun e he => h.used e (hsub.mem he), ?_, ?_, ?_, h.oldestFirst.sublist hsub,
    fun e he => h.positive e (hsub.mem he), fun e he => h.past e (hsub.mem he),
    hsub.length_le.trans h.fits⟩
  · have hfiltered := h.listed.filter fun e => decide (e.1 ≠ key title)
    rw [List.filter_map] at hfiltered
    refine hfiltered.trans (.of_eq (congrArg _ (List.filter_congr fun e he => ?_)))
    exact decide_eq_decide.mpr (hsame e he)
  · intro e he
    obtain ⟨he, hne⟩ := List.mem_filter.mp he
    rw [OrderedMap.find?_erase, if_neg ((hsame e he).mpr (of_decide_eq_true hne))]
    exact h.stored e he
  · intro k text expiry hk hmissing
    rw [OrderedMap.find?_erase] at hk
    rw [OrderedMap.keys_erase, List.mem_filter] at hmissing
    by_cases hkey : k = key title
    · simp [hkey] at hk
    · rw [if_neg hkey] at hk
      exact h.expired k text expiry hk fun hmem => hmissing ⟨hmem, by simpa using hkey⟩

variable [FloorSemiring τ]

theorem scoredBefore_iff {a b : String × τ} :
    Server.scoredBefore a b = true ↔ a.2 < b.2 ∨ a.2 = b.2 ∧ a.1 ≤ b.1 := by
  simp only [Server.scoredBefore, Instant.exact_lt, Bool.or_eq_true, Bool.and_eq_true,
    Bool.not_eq_true', decide_eq_true_eq, decide_eq_false_iff_not]
  grind

theorem scoredBefore_iff_toLex (a b : String × τ) :
    Server.scoredBefore a b = true ↔ toLex (a.2, a.1) ≤ toLex (b.2, b.1) := by
  rw [scoredBefore_iff, Prod.Lex.toLex_le_toLex]

/-- The lowest members come out in the order of scores and names. -/
theorem pairwise_mergeSort_scored (scored : List (String × τ)) :
    (scored.mergeSort Server.scoredBefore).Pairwise fun a b => Server.scoredBefore a b = true :=
  (pairwise_mergeSort_of_key _ scoredBefore_iff_toLex scored).imp
    fun h => (scoredBefore_iff_toLex _ _).mpr h

theorem scoredBefore_antisymm {a b : String × τ} (hab : Server.scoredBefore a b = true)
    (hba : Server.scoredBefore b a = true) : a = b := by
  have hsame := toLex_inj.mp
    (le_antisymm ((scoredBefore_iff_toLex a b).mp hab) ((scoredBefore_iff_toLex b a).mp hba))
  exact Prod.ext (congrArg Prod.snd hsame) (congrArg Prod.fst hsame)

theorem mergeSort_scored {scored sorted : List (String × τ)} (hperm : scored.Perm sorted)
    (hsorted : sorted.Pairwise fun a b => a.2 < b.2) :
    scored.mergeSort Server.scoredBefore = sorted := by
  have hbefore : sorted.Pairwise fun a b => Server.scoredBefore a b = true :=
    hsorted.imp fun hlt => scoredBefore_iff.mpr (Or.inl hlt)
  exact List.Perm.eq_of_pairwise (fun a b _ _ hab hba => scoredBefore_antisymm hab hba)
    (pairwise_mergeSort_scored scored) hbefore ((List.mergeSort_perm _ _).trans hperm)

/-- The pages in memory that are not driven out for their age, and a new one. -/
def candidates (m : MemoryCache τ String) (title text : String) (now : τ) :
    List (String × String × τ) :=
  (m.entries.entries.filter (·.1 ≠ title)).filter (fun e => !m.isExpired now e.2.2) ++
    [(title, text, now)]

theorem mem_candidates_iff {e : String × String × τ} : e ∈ candidates m title text now ↔
    (e ∈ m.entries.entries ∧ e.1 ≠ title ∧ ¬ m.isExpired now e.2.2) ∨ e = (title, text, now) := by
  simp only [candidates, List.mem_append, List.mem_filter, List.mem_singleton, and_assoc,
    decide_eq_true_eq, Bool.not_eq_true', Bool.not_eq_true]

theorem entries_put (hcapacity : 0 < m.capacity) (title text : String) (now : τ) :
    (m.put title text now).entries.entries =
      (candidates m title text now).drop ((candidates m title text now).length - m.capacity) := by
  have hnew := MemoryCache.not_mem_keys_purge m title now
  have hroom : ((m.delete title).2.purge now).entries.entries.length + 1 - m.capacity ≤
      ((m.delete title).2.purge now).entries.entries.length := by omega
  have hcandidates : candidates m title text now =
      ((m.delete title).2.purge now).entries.entries ++ [(title, text, now)] := rfl
  rw [MemoryCache.put_eq, MemoryCache.entries_push hnew, hcandidates, List.length_append,
    List.length_singleton, List.drop_append_of_le_length hroom]
  rfl

theorem Mirrors.pairwise_candidates (h : Mirrors titles m values keys since)
    (hlater : since < now) (title text : String) :
    (candidates m title text now).Pairwise fun e e' => e.2.2 < e'.2.2 := by
  have hold := (h.oldestFirst.filter (·.1 ≠ title)).filter (fun e => !m.isExpired now e.2.2)
  refine List.pairwise_append.mpr ⟨hold, List.pairwise_singleton _ _, ?_⟩
  intro e he e' he'
  obtain rfl := List.mem_singleton.mp he'
  have hmem := (List.mem_filter.mp (List.mem_filter.mp he).1).1
  exact (h.past e hmem).trans_lt hlater

variable [IsStrictOrderedRing τ]

theorem Mirrors.get (h : Mirrors titles m values keys since) (hkeys : Set.InjOn key titles)
    (htitle : title ∈ titles) (hle : since ≤ now) :
    Server.live? values (key title) now = m.get? title now := by
  rw [Server.live?, MemoryCache.get?]
  cases hm : m.entries.find? title with
  | some e =>
    obtain ⟨text, time⟩ := e
    have hstored := h.stored _ (OrderedMap.find?_eq_some_iff.mp hm)
    have hlive : now < time + m.ttl ↔ ¬ m.isExpired now time := by
      rw [MemoryCache.isExpired_iff, not_le, sub_lt_iff_lt_add']
    simp only at hstored
    by_cases hexpired : m.isExpired now time <;> simp [hstored, hlive, hexpired]
  | none =>
    cases hv : values.find? (key title) with
    | none => rfl
    | some e =>
      obtain ⟨text, expiry⟩ := e
      have hmissing : key title ∉ keys.keys := by
        rw [h.key_mem_keys_iff hkeys htitle, OrderedMap.mem_keys_iff, hm]
        simp
      have hexpiry := h.expired _ _ _ hv hmissing
      simp [not_lt.mpr (hexpiry.trans hle)]

theorem Mirrors.perm_refreshed (h : Mirrors titles m values keys since)
    (hkeys : Set.InjOn key titles) (htitle : title ∈ titles) (httl : 0 < m.ttl) (text : String)
    (now : τ) :
    (refreshed keys (key title) now m.ttl).entries.Perm
      ((candidates m title text now).map fun e => (key e.1, e.2.2)) := by
  have hdelete := h.delete hkeys htitle
  let isKept (e : String × τ) : Bool :=
    !(Ranked.le Instant.zero e.2 && Ranked.le e.2 (Instant.sub now (m.ttl : τ)))
  have hnew : isKept (key title, now) = true := by
    have hpast : now - (m.ttl : τ) < now := sub_lt_self now (Nat.cast_pos.mpr httl)
    simp [isKept, hpast.not_ge]
  have hold : ∀ e ∈ m.entries.entries.filter (·.1 ≠ title),
      isKept (key e.1, e.2.2) = !m.isExpired now e.2.2 := by
    intro e he
    have hpositive := hdelete.positive e he
    simp [isKept, MemoryCache.isExpired, hpositive.le, le_sub_comm]
  have hinsert := (keys.perm_entries_insert (key title) now).filter isKept
  rw [List.filter_cons_of_pos hnew] at hinsert
  have herase := hdelete.listed.filter isKept
  rw [List.filter_map] at herase
  have hlive : ((m.delete title).2.entries.entries.filter
      (isKept ∘ fun e => (key e.1, e.2.2))) =
        (m.entries.entries.filter (·.1 ≠ title)).filter (fun e => !m.isExpired now e.2.2) :=
    List.filter_congr hold
  rw [hlive] at herase
  rw [candidates, List.map_append]
  exact (hinsert.trans (herase.cons _)).trans (List.perm_append_singleton _ _).symm

theorem Mirrors.nodup_candidates (h : Mirrors titles m values keys since)
    (hkeys : Set.InjOn key titles) (htitle : title ∈ titles) (httl : 0 < m.ttl) (text : String)
    (now : τ) : ((candidates m title text now).map fun e => key e.1).Nodup := by
  have hlisted := h.perm_refreshed hkeys htitle httl text now
  have hfst := (hlisted.map Prod.fst).nodup_iff.mp (OrderedMap.nodup _)
  rwa [List.map_map] at hfst

/-- The shared cache drives out the keys of the pages that the cache in memory drives out. -/
theorem Mirrors.excess_refreshed (h : Mirrors titles m values keys since)
    (hkeys : Set.InjOn key titles) (htitle : title ∈ titles) (hsize : c.capacity = m.capacity)
    (httl : 0 < m.ttl) (hlater : since < now) (text : String) :
    c.excess (refreshed keys (key title) now m.ttl) =
      ((candidates m title text now).take
        ((candidates m title text now).length - m.capacity)).map fun e => key e.1 := by
  have hlisted := h.perm_refreshed hkeys htitle httl text now
  have hmerge := mergeSort_scored hlisted
    (List.pairwise_map.mpr (h.pairwise_candidates hlater title text))
  have hlength : (refreshed keys (key title) now (m.ttl : τ)).size =
      (candidates m title text now).length := by
    rw [OrderedMap.size, hlisted.length_eq, List.length_map]
  have hcount : (((refreshed keys (key title) now (m.ttl : τ)).size : Int) - c.capacity).toNat =
      (candidates m title text now).length - m.capacity := by omega
  rw [excess, Server.lowest, hmerge, hcount, ← List.map_take, List.map_map]
  rfl

theorem Mirrors.put (h : Mirrors titles m values keys since) (hkeys : Set.InjOn key titles)
    (htitle : title ∈ titles) (hcapacity : 0 < m.capacity) (hsize : c.capacity = m.capacity)
    (httl : 0 < m.ttl) (hlater : since < now) (hpositive : 0 < now) (text : String) :
    let kept := refreshed keys (key title) now m.ttl
    Mirrors titles (m.put title text now)
      ((c.excess kept).foldl OrderedMap.erase
        (values.insert (key title) (text, Instant.add now (m.ttl : τ))))
      ((c.excess kept).foldl OrderedMap.erase kept) now := by
  intro kept
  have hentries := entries_put hcapacity title text now
  have hexcess := h.excess_refreshed hkeys htitle hsize httl hlater text
  have hback := filter_not_mem_take (h.nodup_candidates hkeys htitle httl text now)
    ((candidates m title text now).length - m.capacity)
  rw [← hentries, ← hexcess] at hback
  have hmem : ∀ e, e ∈ (m.put title text now).entries.entries ↔
      e ∈ candidates m title text now ∧ key e.1 ∉ c.excess kept := by
    intro e
    rw [← hback, List.mem_filter, decide_eq_true_eq]
  have hsub : (m.put title text now).entries.entries.Sublist (candidates m title text now) :=
    hentries ▸ List.drop_sublist _ _
  have hused : ∀ e ∈ m.entries.entries, e.1 ≠ title → key e.1 ≠ key title :=
    fun e he hne hkey => hne (hkeys (h.used e he) htitle hkey)
  have hlisted : ((c.excess kept).foldl OrderedMap.erase kept).entries.Perm
      ((m.put title text now).entries.entries.map fun e => (key e.1, e.2.2)) := by
    have hfilter := (h.perm_refreshed hkeys htitle httl text now).filter
      fun e => decide (e.1 ∉ c.excess kept)
    rw [List.filter_map] at hfilter
    rw [OrderedMap.entries_foldl_erase, ← hback]
    exact hfilter
  refine { used := ?used, listed := hlisted, stored := ?stored, expired := ?expired,
           oldestFirst := (h.pairwise_candidates hlater title text).sublist hsub,
           positive := ?positive, past := ?past, fits := ?fits }
  case used =>
    intro e he
    rcases mem_candidates_iff.mp (hsub.mem he) with ⟨he, -⟩ | rfl
    · exact h.used e he
    · exact htitle
  case stored =>
    intro e he
    obtain ⟨hcandidate, hroom⟩ := (hmem e).mp he
    rw [OrderedMap.find?_foldl_erase, if_neg hroom, OrderedMap.find?_insert]
    rcases mem_candidates_iff.mp hcandidate with ⟨hold, hne, -⟩ | rfl
    · rw [if_neg (hused e hold hne)]
      exact h.stored e hold
    · rw [if_pos rfl]
      rfl
  case expired =>
    intro k text' expiry hk hmissing
    rw [OrderedMap.find?_foldl_erase] at hk
    have hroom : k ∉ c.excess kept := fun hover => by simp [hover] at hk
    have hgone : ∀ e ∈ candidates m title text now, key e.1 ≠ k := by
      rintro e he rfl
      refine hmissing ?_
      rw [OrderedMap.keys, (hlisted.map Prod.fst).mem_iff, List.map_map]
      exact List.mem_map_of_mem ((hmem e).mpr ⟨he, hroom⟩)
    have hother : k ≠ key title := (hgone _ (mem_candidates_iff.mpr (Or.inr rfl))).symm
    rw [if_neg hroom, OrderedMap.find?_insert, if_neg hother] at hk
    by_cases hlisted : k ∈ keys.keys
    · -- Its page was in memory, and only for its age can it be no candidate.
      obtain ⟨e, he, rfl⟩ := h.mem_keys_iff.mp hlisted
      have hne : e.1 ≠ title := fun heq => hother (congrArg key heq)
      have hold : m.isExpired now e.2.2 := by
        by_contra hlive
        exact hgone e (mem_candidates_iff.mpr (Or.inl ⟨he, hne, hlive⟩)) rfl
      have hexpiry : e.2.2 + (m.ttl : τ) = expiry :=
        congrArg Prod.snd (Option.some.inj ((h.stored e he).symm.trans hk))
      rw [MemoryCache.isExpired_iff] at hold
      linarith
    · exact (h.expired k text' expiry hk hlisted).trans hlater.le
  case positive =>
    intro e he
    rcases mem_candidates_iff.mp (hsub.mem he) with ⟨he, -⟩ | rfl
    · exact h.positive e he
    · exact hpositive
  case past =>
    intro e he
    rcases mem_candidates_iff.mp (hsub.mem he) with ⟨he, -⟩ | rfl
    · exact (h.past e he).trans hlater.le
    · exact le_rfl
  case fits =>
    have hlength := congrArg List.length hentries
    rw [List.length_drop] at hlength
    change (m.put title text now).entries.entries.length ≤ m.capacity
    omega

end SharedCache

end WikiGateway
