import Mathlib.Data.List.Chain
import Mathlib.Data.Set.Finite.Lattice
import Mathlib.Order.Lattice.Nat

/-! Pages joined by links: walks from page to page, and how far apart pages are. -/
namespace WikiGateway.Links

variable {links : String → List String} {start stop p q : String} {n : Nat} {pages : List String}

/-- A page to which a number of links lead from `start`, one after the other. -/
inductive Hops (links : String → List String) (start : String) : Nat → String → Prop
  | start : Hops links start 0 start
  | link {n : Nat} {p q : String} : Hops links start n p → q ∈ links p → Hops links start (n + 1) q

/-- The pages of a walk, from the first to the last; each but the first is linked from the one
before. -/
structure IsWalk (links : String → List String) (start stop : String) (pages : List String) :
    Prop where
  head : pages.head? = some start
  last : pages.getLast? = some stop
  linked : pages.IsChain fun p q => q ∈ links p

def Reachable (links : String → List String) (start page : String) : Prop :=
  ∃ pages, IsWalk links start page pages

/-- A walk without repetition that no walk between its ends undercuts. -/
structure IsShortest (links : String → List String) (start stop : String) (pages : List String) :
    Prop extends IsWalk links start stop pages where
  nodup : pages.Nodup
  minimal : ∀ others, IsWalk links start stop others → pages.length ≤ others.length

/-- The fewest links that lead from `start` to a page. -/
noncomputable def distance (links : String → List String) (start page : String) : Nat :=
  sInf {n | Hops links start n page}

theorem exists_walk (h : Hops links start n p) :
    ∃ pages, IsWalk links start p pages ∧ pages.length = n + 1 := by
  induction h with
  | start => exact ⟨[start], ⟨rfl, rfl, .singleton _⟩, rfl⟩
  | @link n p q _ hq ih =>
    obtain ⟨pages, hwalk, hlength⟩ := ih
    refine ⟨pages ++ [q], ⟨?_, by simp, ?_⟩, by simp [hlength]⟩
    · simp [hwalk.head]
    · refine List.isChain_append.mpr ⟨hwalk.linked, .singleton _, ?_⟩
      intro x hx y hy
      rw [hwalk.last] at hx
      obtain rfl : p = x := by simpa using hx
      obtain rfl : q = y := by simpa using hy
      exact hq

/-- A walk that goes on from a page leads as many links further as it has pages after it. -/
theorem hops_of_chain (h : Hops links start n p)
    (hchain : (p :: pages).IsChain fun a b => b ∈ links a) :
    ∀ q ∈ (p :: pages).getLast?, Hops links start (n + pages.length) q := by
  induction pages generalizing n p with
  | nil =>
    intro q hq
    obtain rfl : p = q := by simpa using hq
    exact h
  | cons next rest ih =>
    obtain ⟨hlink, hrest⟩ := List.isChain_cons_cons.mp hchain
    intro q hq
    have hhops := ih (h.link hlink) hrest q (by simpa using hq)
    rwa [show n + (next :: rest).length = n + 1 + rest.length by simp; omega]

theorem IsWalk.hops (h : IsWalk links start stop pages) :
    Hops links start (pages.length - 1) stop := by
  obtain ⟨hhead, hlast, hlinked⟩ := h
  cases pages with
  | nil => simp at hhead
  | cons page rest =>
    obtain rfl : page = start := by simpa using hhead
    simpa using hops_of_chain .start hlinked stop hlast

theorem reachable_iff : Reachable links start p ↔ ∃ n, Hops links start n p := by
  constructor
  · rintro ⟨pages, hwalk⟩
    exact ⟨_, hwalk.hops⟩
  · rintro ⟨n, hn⟩
    obtain ⟨pages, hwalk, -⟩ := exists_walk hn
    exact ⟨pages, hwalk⟩

theorem reachable_start : Reachable links start start := reachable_iff.mpr ⟨0, .start⟩

theorem Reachable.link (h : Reachable links start p) (hq : q ∈ links p) :
    Reachable links start q := by
  obtain ⟨n, hn⟩ := reachable_iff.mp h
  exact reachable_iff.mpr ⟨n + 1, hn.link hq⟩

theorem hops_distance (h : Reachable links start p) : Hops links start (distance links start p) p :=
  Nat.sInf_mem (reachable_iff.mp h)

theorem distance_le (h : Hops links start n p) : distance links start p ≤ n := Nat.sInf_le h

theorem distance_start : distance links start start = 0 := Nat.le_zero.mp (distance_le .start)

theorem distance_link_le (h : Reachable links start p) (hq : q ∈ links p) :
    distance links start q ≤ distance links start p + 1 :=
  distance_le ((hops_distance h).link hq)

theorem distance_pos (h : Reachable links start p) (hp : p ≠ start) :
    0 < distance links start p := by
  by_contra hzero
  have hhops := hops_distance h
  rw [Nat.eq_zero_of_not_pos hzero] at hhops
  cases hhops
  exact hp rfl

/-- The last link of a shortest walk starts one link nearer. -/
theorem exists_nearer (h : Reachable links start q) (hq : q ≠ start) :
    ∃ p, Reachable links start p ∧ q ∈ links p ∧
      distance links start q = distance links start p + 1 := by
  have hpos := distance_pos h hq
  have hhops := hops_distance h
  generalize hd : distance links start q = d at hpos hhops
  cases hhops with
  | start => omega
  | @link n p _ hp hlink =>
    have hreach : Reachable links start p := reachable_iff.mpr ⟨n, hp⟩
    refine ⟨p, hreach, hlink, ?_⟩
    have hle := distance_le hp
    have hge := distance_link_le hreach hlink
    omega

/-- On the way to a page there are pages at every smaller distance. -/
theorem exists_at_distance (h : Reachable links start q) (hn : n ≤ distance links start q) :
    ∃ p, Reachable links start p ∧ distance links start p = n := by
  generalize hd : distance links start q = d at hn
  induction d generalizing q with
  | zero => exact ⟨q, h, by omega⟩
  | succ d ih =>
    by_cases he : n = d + 1
    · exact ⟨q, h, by omega⟩
    · have hne : q ≠ start := by
        rintro rfl
        rw [distance_start] at hd
        omega
      obtain ⟨p, hp, -, hdist⟩ := exists_nearer h hne
      exact ih hp (by omega) (by omega)

theorem finite_hops (links : String → List String) (start : String) (n : Nat) :
    {p | Hops links start n p}.Finite := by
  induction n with
  | zero =>
    refine (Set.finite_singleton start).subset ?_
    intro p hp
    cases hp
    rfl
  | succ n ih =>
    refine (ih.biUnion fun p _ => List.finite_toSet (links p)).subset ?_
    intro q hq
    cases hq with
    | link hp hlink => exact Set.mem_biUnion hp hlink

/-- Only finitely many pages are within a given distance, as every page has finitely many links. -/
theorem finite_nearer (links : String → List String) (start : String) (n : Nat) :
    {p | Reachable links start p ∧ distance links start p < n}.Finite := by
  refine ((Set.finite_lt_nat n).biUnion fun k _ => finite_hops links start k).subset ?_
  rintro p ⟨hp, hlt⟩
  exact Set.mem_biUnion hlt (hops_distance hp)

/-- No walk has fewer links than its ends are apart. -/
theorem IsWalk.distance_lt_length (h : IsWalk links start stop pages) :
    distance links start stop < pages.length := by
  have hle := distance_le h.hops
  have hne : pages ≠ [] := by
    rintro rfl
    simpa using h.head
  have := List.length_pos_iff.mpr hne
  omega

/-- A shortest walk has one page more than its ends are links apart. -/
theorem IsShortest.length_eq (h : IsShortest links start stop pages) :
    pages.length = distance links start stop + 1 := by
  have hreach : Reachable links start stop := ⟨pages, h.toIsWalk⟩
  obtain ⟨others, hothers, hlength⟩ := exists_walk (hops_distance hreach)
  have hle := h.minimal others hothers
  have hlt := h.toIsWalk.distance_lt_length
  omega

/-- Links that lead from none of some pages to another lead from none of them to any other page. -/
theorem Reachable.mem_of_closed {known : Set String} (h : Reachable links start p)
    (hstart : start ∈ known) (hclosed : ∀ p ∈ known, ∀ q ∈ links p, q ∈ known) : p ∈ known := by
  obtain ⟨n, hn⟩ := reachable_iff.mp h
  induction hn with
  | start => exact hstart
  | @link n p q hp hlink ih => exact hclosed p (ih (reachable_iff.mpr ⟨n, hp⟩)) q hlink

end WikiGateway.Links
