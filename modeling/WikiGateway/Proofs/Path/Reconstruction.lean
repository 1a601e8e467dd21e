import WikiGateway.Proofs.Attempt
import WikiGateway.Proofs.Path.Shortest
import WikiGateway.Proofs.Path.Steps

/-!
The path back from `stop`, over any source. Along the parents the pages come ever earlier among
those come upon, so that the way back ends at the start, and every page on it has a parent.
-/
namespace WikiGateway.Path

variable {ω ν τ : Type} [Named ν] {source : Source ω ν} {start stop node p : String}
  {answers : List (String × List ν)} {s : State ν} {parents : OrderedMap String}
  {nodes path : List String} {fuel : Nat} {w : ω} {c d : Config ω ν}

/-- The way from `node` back to `start`: each page is the parent of the one before, and was come
upon earlier. -/
structure Retraces (start : String) (parents : OrderedMap String) (node : String)
    (nodes : List String) : Prop where
  head : nodes.head? = some node
  last : nodes.getLast? = some start
  parent : nodes.IsChain fun q p => parents.find? q = some p
  known : ∀ q ∈ nodes, q ∈ parents.keys
  earlier : nodes.Pairwise fun q p => Earlier parents p q

theorem retraces_start (h : start ∈ parents.keys) : Retraces start parents start [start] where
  head := rfl
  last := rfl
  parent := .singleton _
  known := by
    intro q hq
    obtain rfl : q = start := List.mem_singleton.mp hq
    exact h
  earlier := List.pairwise_singleton _ _

theorem Retraces.cons (h : Retraces start parents p nodes) (hnode : parents.find? node = some p)
    (hearlier : Earlier parents p node) : Retraces start parents node (node :: nodes) := by
  obtain ⟨hhead, hlast, hparent, hknown, hpairs⟩ := h
  cases nodes with
  | nil => cases hhead
  | cons page rest =>
    obtain rfl : page = p := by simpa using hhead
    refine ⟨rfl, by simpa using hlast, List.isChain_cons_cons.mpr ⟨hnode, hparent⟩,
      List.forall_mem_cons.mpr ⟨OrderedMap.mem_keys_iff.mpr ⟨_, hnode⟩, hknown⟩, ?_⟩
    refine List.pairwise_cons.mpr ⟨fun q hq => ?_, hpairs⟩
    rcases List.mem_cons.mp hq with rfl | hq
    · exact hearlier
    · exact Nat.lt_trans (List.rel_of_pairwise_cons hpairs hq) hearlier

theorem Retraces.nodup (h : Retraces start parents node nodes) : nodes.Nodup :=
  h.earlier.imp fun hearlier => by
    rintro rfl
    exact Nat.lt_irrefl _ hearlier

/-- A way back has at most as many pages as were come upon. -/
theorem Retraces.length_le (h : Retraces start parents node nodes) :
    nodes.length ≤ parents.size := by
  have hle := (List.subperm_of_subset h.nodup h.known).length_le
  rwa [OrderedMap.keys, List.length_map] at hle

theorem Grounded.start_mem (h : Grounded start answers s) : start ∈ s.parents.keys :=
  OrderedMap.mem_keys_iff.mpr ⟨start, h.root⟩

/-- As many steps back as pages were come upon before a page are enough to retrace it. -/
theorem Grounded.exists_retraces (h : Grounded start answers s) (hnode : node ∈ s.parents.keys) :
    ∃ nodes, Retraces start s.parents node nodes ∧
      ∀ fuel, s.parents.keys.idxOf node ≤ fuel → trace s.parents start fuel node = .ok nodes := by
  -- The induction is on how many pages came before; a parent has fewer of them.
  generalize hrank : s.parents.keys.idxOf node = rank
  induction rank using Nat.strong_induction_on generalizing node with
  | _ rank ih =>
    by_cases hstart : node = start
    · subst hstart
      refine ⟨[node], retraces_start hnode, fun fuel _ => ?_⟩
      cases fuel <;> simp [trace]
    · obtain ⟨parent, hparent⟩ := OrderedMap.mem_keys_iff.mp hnode
      obtain ⟨hearlier, -⟩ := h.parent node parent hparent hstart
      have hlt : s.parents.keys.idxOf parent < rank := hrank ▸ hearlier
      obtain ⟨nodes, hback, htrace⟩ := ih _ hlt hearlier.mem_keys rfl
      refine ⟨node :: nodes, hback.cons hparent hearlier, fun fuel hfuel => ?_⟩
      obtain ⟨fuel, rfl⟩ := Nat.exists_eq_add_of_lt (hlt.trans_le hfuel)
      have hrest := htrace (s.parents.keys.idxOf parent + fuel) (Nat.le_add_right _ _)
      simp only [trace, hstart, if_false, hparent, hrest]
      rfl

/-- The path from `start` to a page, by what led to each. -/
structure LeadsTo (start : String) (parents : OrderedMap String) (stop : String)
    (path : List String) : Prop where
  head : path.head? = some start
  last : path.getLast? = some stop
  nodup : path.Nodup
  parent : path.IsChain fun p q => parents.find? q = some p
  length_le : path.length ≤ parents.size

theorem Retraces.leadsTo (h : Retraces start parents stop nodes) :
    LeadsTo start parents stop nodes.reverse where
  head := by rw [List.head?_reverse, h.last]
  last := by rw [List.getLast?_reverse, h.head]
  nodup := List.nodup_reverse.mpr h.nodup
  parent := List.isChain_reverse.mpr h.parent
  length_le := by
    rw [List.length_reverse]
    exact h.length_le

/-- From every page come upon there is a path back, however many steps more it is given. -/
theorem Grounded.exists_leadsTo (h : Grounded start answers s) (hstop : stop ∈ s.parents.keys) :
    ∃ path, s.pathTo start stop = .ok path ∧ LeadsTo start s.parents stop path ∧
      ∀ fuel, s.parents.size ≤ fuel → trace s.parents start fuel stop = .ok path.reverse := by
  obtain ⟨nodes, hback, htrace⟩ := h.exists_retraces hstop
  have henough : s.parents.keys.idxOf stop ≤ s.parents.size := by
    have hle := List.idxOf_le_length (a := stop) (l := s.parents.keys)
    rwa [OrderedMap.keys, List.length_map] at hle
  refine ⟨nodes.reverse, ?_, hback.leadsTo, fun fuel hfuel => ?_⟩
  · rw [State.pathTo, htrace _ henough]
    rfl
  · rw [List.reverse_reverse, htrace fuel (henough.trans hfuel)]

section Run

variable [Instant τ] {clock : ω → τ} {budget : Budget τ} {total : τ}

/-- What a search comes to that gets as far as some step: it has no more turns or no more time, has
looked at everything, is given what it cannot work with or a failure, or has found `stop` and the
path to it. -/
inductive ComesTo (source : Source ω ν) (start stop : String) :
    Config ω ν → Except Fault (Outcome τ) × ω → Prop
  | unfinished {w : ω} {s : State ν} {answers : List (String × List ν)} :
      ComesTo source start stop ⟨w, s, .looking, answers⟩ (.error .unfinished, w)
  | late {w : ω} {s : State ν} {answers : List (String × List ν)} {o : Outcome τ}
      (ho : o.status = .deadlineExceeded) :
      ComesTo source start stop ⟨w, s, .looking, answers⟩ (.ok o, w)
  | exhausted {w : ω} {s : State ν} {answers : List (String × List ν)} {o : Outcome τ}
      (hs : s.frontier = []) (ho : o.status = .frontierExhausted) :
      ComesTo source start stop ⟨w, s, .looking, answers⟩ (.ok o, w)
  | untitled {w : ω} {s : State ν} {answers : List (String × List ν)} {page : ν} {rest : List ν}
      (hs : s.frontier = page :: rest) (hpage : Named.text? page = none) :
      ComesTo source start stop ⟨w, s, .looking, answers⟩ (.error .wrongShape, w)
  | failed {w w' : ω} {s : State ν} {answers : List (String × List ν)} {page : ν} {rest : List ν}
      {title : String} {f : Fault} (hs : s.frontier = page :: rest)
      (hpage : Named.text? page = some title)
      (hsource : (source.linksOn title).runIn w = (.error f, w')) :
      ComesTo source start stop ⟨w, s, .looking, answers⟩ (.error f, w')
  | shapeless {w : ω} {s : State ν} {answers : List (String × List ν)} {page : String} {link : ν}
      {left : List ν} (hlink : Named.isAtomic link = false) :
      ComesTo source start stop ⟨w, s, .noting page (link :: left), answers⟩ (.error .wrongShape, w)
  | found {w : ω} {s : State ν} {answers : List (String × List ν)} {o : Outcome τ}
      (ho : o.status = .found) (hpath : s.pathTo start stop = .ok o.path) :
      ComesTo source start stop ⟨w, s, .found, answers⟩ (.ok o, w)

section Faults

variable {page : ν} {rest ls : List ν} {title : String} {f : Fault} {w' : ω}

theorem search_untitled (htime : budget.isExhausted (clock w) = false)
    (hs : s.frontier = page :: rest) (htitle : Named.text? page = none) :
    (search source clock budget start stop (fuel + 1) s).runIn w = (.error .wrongShape, w) := by
  simp [search, Action.runIn_bind, htime, hs, Named.title, htitle]

theorem search_failed (htime : budget.isExhausted (clock w) = false)
    (hs : s.frontier = page :: rest) (htitle : Named.text? page = some title)
    (hsource : (source.linksOn title).runIn w = (.error f, w')) :
    (search source clock budget start stop (fuel + 1) s).runIn w = (.error f, w') := by
  simp [search, Action.runIn_bind, htime, hs, Named.title, htitle, hsource]

theorem search_shapeless (htime : budget.isExhausted (clock w) = false)
    (hs : s.frontier = page :: rest) (htitle : Named.text? page = some title)
    (hsource : (source.linksOn title).runIn w = (.ok ls, w'))
    (hnote : State.noteLinks stop title ls
      { s with frontier := rest, expanded := s.expanded + 1 } = .error f) :
    (search source clock budget start stop (fuel + 1) s).runIn w = (.error f, w') := by
  simp [search, Action.runIn_bind, htime, hs, Named.title, htitle, hsource, hnote]

end Faults

/-- Every search goes on by its steps, and then comes to what it can there. -/
theorem exists_comesTo {startedAt : τ} (source : Source ω ν) (clock : ω → τ)
    (hstarted : budget.startedAt = some startedAt) (fuel : Nat) (w : ω) (s : State ν)
    (answers : List (String × List ν))
    (h : Config.Sound start stop ⟨w, s, .looking, answers⟩) :
    ∃ d, Steps source stop ⟨w, s, .looking, answers⟩ d ∧
      ComesTo source start stop d ((search source clock budget start stop fuel s).runIn w) := by
  induction fuel generalizing w s answers with
  | zero => exact ⟨_, .refl, .unfinished⟩
  | succ fuel ih =>
    cases htime : budget.isExhausted (clock w) with
    | true =>
      obtain ⟨o, hcut, -, hrun⟩ := search_deadline source start stop s hstarted htime
      rw [hrun fuel]
      exact ⟨_, .refl, .late hcut.status⟩
    | false =>
      cases hs : s.frontier with
      | nil =>
        rw [search_nil htime hs]
        exact ⟨_, .refl, .exhausted hs rfl⟩
      | cons page rest =>
        cases htitle : Named.text? page with
        | none =>
          rw [search_untitled htime hs htitle]
          exact ⟨_, .refl, .untitled hs htitle⟩
        | some title =>
          rcases hsource : (source.linksOn title).runIn w with ⟨f | links, w'⟩
          · rw [search_failed htime hs htitle hsource]
            exact ⟨_, .refl, .failed hs htitle hsource⟩
          · obtain ⟨d, hlinks, hnoted⟩ := exists_noted source stop title w'
              (answers ++ [(title, links)]) links
              { s with frontier := rest, expanded := s.expanded + 1 }
            have hsteps := Relation.ReflTransGen.head (Step.ask hs htitle hsource) hlinks
            have hsound := Steps.sound hsteps h
            generalize hnote : State.noteLinks stop title links
              { s with frontier := rest, expanded := s.expanded + 1 } = noted at hnoted
            cases hnoted with
            | @found t =>
              obtain ⟨path, hpath, -⟩ := hsound.1.exists_leadsTo hsound.2
              rw [search_found htime hs htitle hsource hnote hpath]
              exact ⟨_, hsteps, .found rfl hpath⟩
            | @through t =>
              obtain ⟨e, hmore, he⟩ := ih w' t _ hsound
              rw [search_turn htime hs htitle hsource hnote]
              exact ⟨e, hsteps.trans hmore, he⟩
            | shapeless hlink =>
              rw [search_shapeless htime hs htitle hsource hnote]
              exact ⟨_, hsteps, .shapeless hlink⟩

/-- Whatever the source answers, at every step of a search the start is its own parent, every other
page come upon has a parent that was come upon earlier and was given with a link to it, what is
still to be looked at was come upon, no page is asked twice, and later steps only add pages at the
end and change no parent. When `stop` has just been found, the way back along the parents meets no
page without one and ends at the start, with as many turns as pages were come upon or with more, and
is a path without repetition. By such steps every search goes on to what it comes to. -/
theorem leadsTo_of_steps (hname : Named.text? (Named.ofText start : ν) = some start)
    (hc : Steps source stop (.initial start w) c) :
    c.state.parents.find? start = some start ∧
    (∀ q p, c.state.parents.find? q = some p → q ≠ start →
      p ∈ c.state.parents.keys ∧ Earlier c.state.parents p q ∧ LinksTo c.answers p q) ∧
    (∀ page ∈ c.state.frontier, ∀ title, Named.text? page = some title →
      title ∈ c.state.parents.keys) ∧
    (c.answers.map Prod.fst).Nodup ∧
    (∀ d, Steps source stop c d → Grows c.state.parents d.state.parents) ∧
    (c.stage = .found → ∃ path, c.state.pathTo start stop = .ok path ∧
      LeadsTo start c.state.parents stop path ∧
      ∀ fuel, c.state.parents.size ≤ fuel →
        trace c.state.parents start fuel stop = .ok path.reverse) ∧
    (start ≠ stop → ∀ (clock : ω → τ) (total : τ) (fuel : Nat),
      ∃ d, Steps source stop (.initial start w) d ∧
        ComesTo source start stop d ((find source clock total fuel start stop).runIn w)) := by
  have hinitial : Config.Sound start stop (.initial start w : Config ω ν) := sound_initial hname w
  obtain ⟨hgrounded, hfits⟩ := Steps.sound hc hinitial
  refine ⟨hgrounded.root, fun q p hq hne => ?_, fun page hpage title htitle => ?_, ?_,
    fun d hd => Steps.grows hd, fun hfound => ?_, fun hne clock total fuel => ?_⟩
  · obtain ⟨hearlier, hlinks⟩ := hgrounded.parent q p hq hne
    exact ⟨hearlier.mem_keys, hearlier, hlinks⟩
  · rw [hgrounded.keys_eq]
    exact List.mem_append_right _ (List.mem_filterMap.mpr ⟨page, hpage, htitle⟩)
  · have hnodup := c.state.parents.nodup_keys
    rw [hgrounded.keys_eq] at hnodup
    exact hnodup.of_append_left
  · rw [hfound] at hfits
    exact hgrounded.exists_leadsTo hfits
  · have hrun : (find source clock total fuel start stop).runIn w =
        (search source clock ((Budget.ofTotal total).start (clock w)) start stop fuel
          (.initial start)).runIn w := by
      simp [find, Action.runIn_bind, hne]
    rw [hrun]
    exact exists_comesTo source clock rfl fuel w (.initial start) [] hinitial

omit [Instant τ] in
/-- A search that finds a path has got to `stop`. -/
theorem ComesTo.stage_eq_found {r : Except Fault (Outcome τ) × ω} {o : Outcome τ}
    (h : ComesTo source start stop d r) (hr : r.1 = .ok o) (ho : o.status = .found) :
    d.stage = .found ∧ d.state.pathTo start stop = .ok o.path := by
  cases h with
  | late hstatus =>
    obtain rfl := Except.ok.inj hr
    rw [hstatus] at ho
    cases ho
  | exhausted hs hstatus =>
    obtain rfl := Except.ok.inj hr
    rw [hstatus] at ho
    cases ho
  | found hstatus hpath =>
    obtain rfl := Except.ok.inj hr
    exact ⟨rfl, hpath⟩
  | unfinished | untitled | failed | shapeless => cases hr

end Run

/-- Over pages with links to themselves, back to where one came from and to the same page twice, the
steps of a search lead to the page sought. -/
theorem leadsTo_of_steps_looped :
    ∃ c : Config (Session ℚ) String,
      Named.text? (Named.ofText "A" : String) = some "A" ∧
      Steps looped.source "D" (.initial "A" ⟨0, #[]⟩) c ∧ c.stage = .found ∧
      LeadsTo "A" c.state.parents "D" ["A", "E", "D"] := by
  let run := (find looped.source Session.now (300 : ℚ) 5 "A" "D").runIn ⟨0, #[]⟩
  have hrun : run.1.toOption.map (fun o => (o.status, o.path)) =
      some (.found, ["A", "E", "D"]) := by
    decide +kernel
  obtain ⟨o, ho, hends⟩ := Option.map_eq_some_iff.mp hrun
  obtain ⟨hfound, hpath⟩ := Prod.mk.inj hends
  have hok : run.1 = .ok o := Attempt.eq_ok_of_toOption ho
  have hname : Named.text? (Named.ofText "A" : String) = some "A" := rfl
  have hstart : Steps looped.source "D" (.initial "A" ⟨0, #[]⟩) (.initial "A" ⟨0, #[]⟩) := .refl
  obtain ⟨-, -, -, -, -, -, hcomes⟩ := leadsTo_of_steps (τ := ℚ) hname hstart
  obtain ⟨c, hc, hlast⟩ := hcomes (by decide) Session.now 300 5
  obtain ⟨hstage, hreached⟩ := hlast.stage_eq_found hok hfound
  obtain ⟨-, -, -, -, -, hback, -⟩ := leadsTo_of_steps (τ := ℚ) hname hc
  obtain ⟨path, hsame, hleads, -⟩ := hback hstage
  obtain rfl : path = o.path := Except.ok.inj (hsame.symm.trans hreached)
  rw [hpath] at hleads
  exact ⟨c, hname, hc, hstage, hleads⟩

end WikiGateway.Path
