import WikiGateway.Proofs.Path.Discovery

/-! The way back from a page to the start of a search, from parent to parent. -/
namespace WikiGateway.Path

open Links

variable {links : String → List String} {start stop node p : String}
  {parents : OrderedMap String} {nodes : List String} {fuel : Nat}

/-- The pages from `node` back to `start`, each one nearer than the one before. -/
structure LeadsBack (links : String → List String) (start : String) (parents : OrderedMap String)
    (node : String) (nodes : List String) : Prop where
  head : nodes.head? = some node
  last : nodes.getLast? = some start
  linked : nodes.IsChain fun q p => q ∈ links p
  length_eq : nodes.length = distance links start node + 1
  known : ∀ q ∈ nodes, q ∈ parents.keys
  nearer : nodes.Pairwise fun q p => distance links start p < distance links start q

theorem leadsBack_start (h : Discovered links start parents) :
    LeadsBack links start parents start [start] where
  head := rfl
  last := rfl
  linked := .singleton _
  length_eq := by simp [distance_start]
  known := by
    intro q hq
    obtain rfl : q = start := by simpa using hq
    exact h.start_mem
  nearer := List.pairwise_singleton _ _

theorem LeadsBack.cons (h : LeadsBack links start parents p nodes) (hnode : node ∈ parents.keys)
    (hlink : node ∈ links p) (hdist : distance links start node = distance links start p + 1) :
    LeadsBack links start parents node (node :: nodes) := by
  obtain ⟨hhead, hlast, hlinked, hlength, hknown, hnearer⟩ := h
  cases nodes with
  | nil => simp at hhead
  | cons page rest =>
    obtain rfl : page = p := by simpa using hhead
    refine ⟨rfl, by simpa using hlast, List.isChain_cons_cons.mpr ⟨hlink, hlinked⟩,
      by simp [hlength, hdist], List.forall_mem_cons.mpr ⟨hnode, hknown⟩, ?_⟩
    refine List.pairwise_cons.mpr ⟨?_, hnearer⟩
    intro q hq
    rcases List.mem_cons.mp hq with rfl | hq
    · omega
    · have := List.rel_of_pairwise_cons hnearer hq
      omega

theorem LeadsBack.nodup (h : LeadsBack links start parents node nodes) : nodes.Nodup :=
  h.nearer.imp fun hlt => by
    rintro rfl
    exact lt_irrefl _ hlt

theorem exists_trace (h : Discovered links start parents) (hnode : node ∈ parents.keys)
    (hfuel : distance links start node ≤ fuel) :
    ∃ nodes, trace parents start fuel node = .ok nodes ∧
      LeadsBack links start parents node nodes := by
  induction fuel generalizing node with
  | zero =>
    have he : node = start := by
      by_contra hne
      have := distance_pos (h.reachable node hnode) hne
      omega
    subst he
    exact ⟨[node], by simp [trace], leadsBack_start h⟩
  | succ fuel ih =>
    by_cases he : node = start
    · subst he
      exact ⟨[node], by simp [trace], leadsBack_start h⟩
    · obtain ⟨parent, hparent⟩ := OrderedMap.mem_keys_iff.mp hnode
      obtain ⟨hmem, hlink, hdist⟩ := h.parent node parent hparent he
      obtain ⟨nodes, htrace, hback⟩ := ih hmem (by omega)
      refine ⟨node :: nodes, ?_, hback.cons hnode hlink hdist⟩
      simp only [trace, he, if_false, hparent, htrace]
      rfl

/-- The pages known are more than the links to any of them. -/
theorem Discovered.distance_lt_size (h : Discovered links start parents)
    (hnode : node ∈ parents.keys) : distance links start node < parents.size := by
  obtain ⟨nodes, -, hback⟩ := exists_trace h hnode le_rfl
  have hle := (List.subperm_of_subset hback.nodup hback.known).length_le
  rw [hback.length_eq, OrderedMap.keys, List.length_map] at hle
  exact hle

theorem LeadsBack.isShortest (h : LeadsBack links start parents stop nodes) :
    IsShortest links start stop nodes.reverse where
  head := by rw [List.head?_reverse, h.last]
  last := by rw [List.getLast?_reverse, h.head]
  linked := List.isChain_reverse.mpr h.linked
  nodup := List.nodup_reverse.mpr h.nodup
  minimal := by
    intro others hothers
    rw [List.length_reverse, h.length_eq]
    exact hothers.distance_lt_length

/-- The path to a page that the search has come upon is a shortest one. -/
theorem exists_pathTo {s : State String} (h : Discovered links start s.parents)
    (hstop : stop ∈ s.parents.keys) :
    ∃ path, s.pathTo start stop = .ok path ∧ IsShortest links start stop path := by
  obtain ⟨nodes, htrace, hback⟩ := exists_trace h hstop (h.distance_lt_size hstop).le
  exact ⟨nodes.reverse, by rw [State.pathTo, htrace]; rfl, hback.isShortest⟩

end WikiGateway.Path
