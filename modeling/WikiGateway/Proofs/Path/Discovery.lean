import WikiGateway.Path
import WikiGateway.Proofs.Links

/-!
What a breadth-first search has discovered. The pages known are kept in the order in which they were
come upon: first those already looked at, then those of the frontier, none nearer than one before.
-/
namespace WikiGateway.Path

open Links

variable {links : String → List String} {start stop page link : String}
  {parents : OrderedMap String} {s t : State String} {done ls : List String} {b : Bool}

/-- The pages known lie in the order of their distances, and each but the first is linked from its
parent, which is one link nearer. -/
structure Discovered (links : String → List String) (start : String)
    (parents : OrderedMap String) : Prop where
  root : parents.find? start = some start
  reachable : ∀ q ∈ parents.keys, Reachable links start q
  parent : ∀ q p, parents.find? q = some p → q ≠ start →
    p ∈ parents.keys ∧ q ∈ links p ∧ distance links start q = distance links start p + 1
  sorted : parents.keys.Pairwise fun p q => distance links start p ≤ distance links start q

theorem Discovered.start_mem (h : Discovered links start parents) : start ∈ parents.keys :=
  OrderedMap.mem_keys_iff.mpr ⟨start, h.root⟩

theorem keys_initial : (OrderedMap.empty.insert start start).keys = [start] := by
  rw [OrderedMap.keys_insert_new (by simp [OrderedMap.keys_empty]), OrderedMap.keys_empty,
    List.nil_append]

theorem discovered_initial :
    Discovered links start (OrderedMap.empty.insert start start) where
  root := by simp [OrderedMap.find?_insert]
  reachable := by
    intro q hq
    obtain rfl : q = start := by simpa [keys_initial] using hq
    exact reachable_start
  parent := by
    intro q p hq hne
    simp [OrderedMap.find?_insert, OrderedMap.find?_empty, hne] at hq
  sorted := by
    rw [keys_initial]
    exact List.pairwise_singleton _ _

theorem Discovered.insert (h : Discovered links start parents) (hpage : page ∈ parents.keys)
    (hlink : link ∈ links page) (hnew : link ∉ parents.keys)
    (hnear : ∀ q ∈ parents.keys, distance links start q ≤ distance links start page + 1)
    (hdist : distance links start link = distance links start page + 1) :
    Discovered links start (parents.insert link page) where
  root := by
    have hne : start ≠ link := fun he => hnew (he ▸ h.start_mem)
    simp [OrderedMap.find?_insert, hne, h.root]
  reachable := by
    intro q hq
    rw [OrderedMap.keys_insert_new hnew, List.mem_append, List.mem_singleton] at hq
    rcases hq with hq | rfl
    · exact h.reachable q hq
    · exact (h.reachable page hpage).link hlink
  parent := by
    intro q p hq hne
    rw [OrderedMap.keys_insert_new hnew]
    rw [OrderedMap.find?_insert] at hq
    split at hq
    · rename_i he
      subst he
      obtain rfl : page = p := by simpa using hq
      exact ⟨List.mem_append_left _ hpage, hlink, hdist⟩
    · obtain ⟨hp, hlinked, hd⟩ := h.parent q p hq hne
      exact ⟨List.mem_append_left _ hp, hlinked, hd⟩
  sorted := by
    rw [OrderedMap.keys_insert_new hnew, List.pairwise_append]
    refine ⟨h.sorted, by simp, ?_⟩
    intro p hp q hq
    obtain rfl : q = link := by simpa using hq
    exact (hnear p hp).trans hdist.ge

/-- The search is going through the links of `page`, after it has looked at the pages in `done`. -/
structure Noting (links : String → List String) (start page : String) (done : List String)
    (s : State String) : Prop where
  discovered : Discovered links start s.parents
  keys_eq : s.parents.keys = done ++ page :: s.frontier
  expanded_eq : s.expanded = done.length + 1
  near : ∀ q ∈ s.parents.keys, distance links start q ≤ distance links start page + 1
  complete : ∀ q, Reachable links start q →
    distance links start q ≤ distance links start page → q ∈ s.parents.keys

theorem Noting.page_mem (h : Noting links start page done s) : page ∈ s.parents.keys := by
  simp [h.keys_eq]

/-- A page come upon for the first time is one link further than the page that it was found on. -/
theorem Noting.distance_of_new (h : Noting links start page done s) (hlink : link ∈ links page)
    (hnew : link ∉ s.parents.keys) :
    distance links start link = distance links start page + 1 := by
  have hpage := h.discovered.reachable page h.page_mem
  have hle := distance_link_le hpage hlink
  have hgt : ¬ distance links start link ≤ distance links start page :=
    fun hd => hnew (h.complete link (hpage.link hlink) hd)
  omega

theorem note_known (h : link ∈ s.parents.keys) : s.note page link = s := by
  have hc := OrderedMap.contains_eq_true_iff.mpr h
  simp [State.note, Named.text?, hc]

theorem note_new (h : link ∉ s.parents.keys) :
    s.note page link =
      { s with frontier := s.frontier ++ [link], parents := s.parents.insert link page } := by
  have hc : ¬ s.parents.contains link = true := fun hc => h (OrderedMap.contains_eq_true_iff.mp hc)
  simp [State.note, Named.text?, hc]

theorem mem_keys_note {q : String} :
    q ∈ (s.note page link).parents.keys ↔ q ∈ s.parents.keys ∨ q = link := by
  by_cases h : link ∈ s.parents.keys
  · rw [note_known h]
    exact ⟨Or.inl, fun hq => hq.elim id fun he => he ▸ h⟩
  · rw [note_new h, OrderedMap.keys_insert_new h, List.mem_append, List.mem_singleton]

theorem Noting.note (h : Noting links start page done s) (hlink : link ∈ links page) :
    Noting links start page done (s.note page link) := by
  by_cases hknown : link ∈ s.parents.keys
  · rwa [note_known hknown]
  · have hdist := h.distance_of_new hlink hknown
    have hkeys : (s.note page link).parents.keys = s.parents.keys ++ [link] := by
      rw [note_new hknown, OrderedMap.keys_insert_new hknown]
    refine ⟨?_, ?_, ?_, ?_, ?_⟩
    · rw [note_new hknown]
      exact h.discovered.insert h.page_mem hlink hknown h.near hdist
    · rw [hkeys, h.keys_eq, note_new hknown]
      simp
    · rw [note_new hknown]
      exact h.expanded_eq
    · intro q hq
      rcases mem_keys_note.mp hq with hq | rfl
      · exact h.near q hq
      · exact hdist.le
    · intro q hq hd
      exact mem_keys_note.mpr (Or.inl (h.complete q hq hd))

@[simp]
theorem noteLinks_nil : State.noteLinks stop page [] s = .ok (false, s) := rfl

theorem noteLinks_cons :
    State.noteLinks stop page (link :: ls) s =
      if link = stop then .ok (true, s.note page link)
      else State.noteLinks stop page ls (s.note page link) := by
  simp [State.noteLinks, Named.isAtomic, Named.text?]

/-- Texts can always be told apart, so that going through links does not fail. -/
theorem exists_noteLinks (stop page : String) (ls : List String) (s : State String) :
    ∃ b t, State.noteLinks stop page ls s = .ok (b, t) := by
  induction ls generalizing s with
  | nil => exact ⟨false, s, rfl⟩
  | cons link ls ih =>
    rw [noteLinks_cons]
    split
    · exact ⟨true, _, rfl⟩
    · exact ih _

theorem noteLinks_found_iff (h : State.noteLinks stop page ls s = .ok (b, t)) :
    b = true ↔ stop ∈ ls := by
  induction ls generalizing s with
  | nil =>
    obtain ⟨rfl, rfl⟩ := by simpa using h
    simp
  | cons link ls ih =>
    rw [noteLinks_cons] at h
    split at h
    · rename_i he
      obtain ⟨rfl, rfl⟩ := by simpa using h
      simp [he]
    · rename_i hne
      rw [ih h, List.mem_cons, or_iff_right (Ne.symm hne)]

theorem mem_keys_noteLinks_found (h : State.noteLinks stop page ls s = .ok (true, t)) :
    stop ∈ t.parents.keys := by
  induction ls generalizing s with
  | nil => simp at h
  | cons link ls ih =>
    rw [noteLinks_cons] at h
    split at h
    · rename_i he
      obtain rfl := by simpa using h
      exact mem_keys_note.mpr (Or.inr he.symm)
    · exact ih h

theorem mem_keys_noteLinks (h : State.noteLinks stop page ls s = .ok (false, t)) {q : String} :
    q ∈ t.parents.keys ↔ q ∈ s.parents.keys ∨ q ∈ ls := by
  induction ls generalizing s with
  | nil =>
    obtain rfl := by simpa using h
    simp
  | cons link ls ih =>
    rw [noteLinks_cons] at h
    split at h
    · simp at h
    · rw [ih h, mem_keys_note, List.mem_cons, or_assoc]

theorem Noting.noteLinks (hn : Noting links start page done s) (hls : ∀ l ∈ ls, l ∈ links page)
    (h : State.noteLinks stop page ls s = .ok (b, t)) : Noting links start page done t := by
  induction ls generalizing s with
  | nil =>
    obtain ⟨rfl, rfl⟩ := by simpa using h
    exact hn
  | cons link ls ih =>
    rw [noteLinks_cons] at h
    have hnote := hn.note (hls link List.mem_cons_self)
    split at h
    · obtain ⟨rfl, rfl⟩ := by simpa using h
      exact hnote
    · exact ih hnote (fun l hl => hls l (List.mem_cons_of_mem _ hl)) h

/-- The search is about to look at the next page of the frontier, and has looked at those in
`done`. -/
structure Searching (links : String → List String) (start stop : String) (done : List String)
    (s : State String) : Prop where
  discovered : Discovered links start s.parents
  keys_eq : s.parents.keys = done ++ s.frontier
  expanded_eq : s.expanded = done.length
  closed : ∀ p ∈ done, ∀ q ∈ links p, q ∈ s.parents.keys
  near : ∀ page rest, s.frontier = page :: rest →
    ∀ q ∈ s.parents.keys, distance links start q ≤ distance links start page + 1
  unseen : stop ∉ s.parents.keys

theorem searching_initial (hne : start ≠ stop) :
    Searching links start stop [] (.initial start) where
  discovered := discovered_initial
  keys_eq := keys_initial
  expanded_eq := rfl
  closed := by simp
  near := by
    intro page rest _ q hq
    obtain rfl : q = start := by simpa [State.initial, keys_initial] using hq
    simp [distance_start]
  unseen := by simpa [State.initial, keys_initial] using hne.symm

/-- Every page no further than all those of the frontier is known. -/
theorem Searching.complete_of_le (h : Searching links start stop done s) {d : Nat}
    (hfrontier : ∀ p ∈ s.frontier, d ≤ distance links start p) {q : String}
    (hq : Reachable links start q) (hd : distance links start q ≤ d) : q ∈ s.parents.keys := by
  generalize hn : distance links start q = n at hd
  induction n generalizing q with
  | zero =>
    by_cases he : q = start
    · exact he ▸ h.discovered.start_mem
    · have := distance_pos hq he
      omega
  | succ n ih =>
    have hne : q ≠ start := by
      rintro rfl
      simp [distance_start] at hn
    obtain ⟨p, hp, hlink, hdist⟩ := exists_nearer hq hne
    have hknown := ih hp (by omega) (by omega)
    rw [h.keys_eq, List.mem_append] at hknown
    rcases hknown with hdone | hp
    · exact h.closed p hdone q hlink
    · -- Such a page of the frontier would be nearer than any of them is.
      have hge := hfrontier p hp
      omega

/-- The pages known are in the order of their distances, those looked at first. -/
theorem Searching.sorted (h : Searching links start stop done s) :
    (done ++ s.frontier).Pairwise fun p q => distance links start p ≤ distance links start q :=
  h.keys_eq ▸ h.discovered.sorted

/-- No page of the frontier is nearer than its first one. -/
theorem Searching.frontier_le (h : Searching links start stop done s) {rest : List String}
    (hs : s.frontier = page :: rest) :
    ∀ p ∈ s.frontier, distance links start page ≤ distance links start p := by
  have hsorted := (List.pairwise_append.mp h.sorted).2.1
  rw [hs] at hsorted ⊢
  intro p hp
  rcases List.mem_cons.mp hp with rfl | hp
  · exact le_rfl
  · exact List.rel_of_pairwise_cons hsorted hp

/-- Every page no further than the next one of the frontier is known. -/
theorem Searching.complete (h : Searching links start stop done s) {rest : List String}
    (hs : s.frontier = page :: rest) {q : String} (hq : Reachable links start q)
    (hd : distance links start q ≤ distance links start page) : q ∈ s.parents.keys :=
  h.complete_of_le (h.frontier_le hs) hq hd

/-- As long as `stop` was not come upon, only pages nearer than it are looked at. -/
theorem Searching.nearer_than_stop (h : Searching links start stop done s) {rest : List String}
    (hs : s.frontier = page :: rest) (hstop : Reachable links start stop) :
    distance links start page < distance links start stop := by
  by_contra hle
  exact h.unseen (h.complete hs hstop (not_lt.mp hle))

theorem Searching.noting (h : Searching links start stop done s) {rest : List String}
    (hs : s.frontier = page :: rest) :
    Noting links start page done { s with frontier := rest, expanded := s.expanded + 1 } where
  discovered := h.discovered
  keys_eq := by rw [h.keys_eq, hs]
  expanded_eq := by rw [h.expanded_eq]
  near := h.near page rest hs
  complete := fun _ hq hd => h.complete hs hq hd

/-- Looking at a page that does not link to `stop` leads on to the next one. -/
theorem Searching.look (h : Searching links start stop done s) {rest : List String}
    (hs : s.frontier = page :: rest)
    (hnote : State.noteLinks stop page (links page)
      { s with frontier := rest, expanded := s.expanded + 1 } = .ok (false, t)) :
    Searching links start stop (done ++ [page]) t := by
  have hn := (h.noting hs).noteLinks (fun _ hl => hl) hnote
  have hmissing : stop ∉ links page := by
    simpa using (noteLinks_found_iff hnote).not.mp
  refine ⟨hn.discovered, ?_, ?_, ?_, ?_, ?_⟩
  · rw [hn.keys_eq, List.append_assoc, List.singleton_append]
  · rw [hn.expanded_eq, List.length_append, List.length_singleton]
  · intro p hp q hq
    rw [mem_keys_noteLinks hnote]
    rcases List.mem_append.mp hp with hp | hp
    · exact Or.inl (h.closed p hp q hq)
    · obtain rfl : p = page := by simpa using hp
      exact Or.inr hq
  · intro next rest' hs' q hq
    have hsorted := hn.discovered.sorted
    rw [hn.keys_eq, hs'] at hsorted
    have hle : distance links start page ≤ distance links start next :=
      List.rel_of_pairwise_cons (List.pairwise_append.mp hsorted).2.1 List.mem_cons_self
    have := hn.near q hq
    omega
  · rw [mem_keys_noteLinks hnote]
    exact not_or.mpr ⟨h.unseen, hmissing⟩

/-- With nothing left to look at, everything that can be reached is known. -/
theorem Searching.mem_done_iff (h : Searching links start stop done s) (hs : s.frontier = [])
    {q : String} : q ∈ done ↔ Reachable links start q := by
  have hkeys : s.parents.keys = done := by rw [h.keys_eq, hs, List.append_nil]
  constructor
  · intro hq
    exact h.discovered.reachable q (hkeys ▸ hq)
  · rw [reachable_iff]
    rintro ⟨n, hn⟩
    induction hn with
    | start => exact hkeys ▸ h.discovered.start_mem
    | link _ hq ih => exact hkeys ▸ h.closed _ ih _ hq

end WikiGateway.Path
