import Mathlib.Data.List.Basic
import Mathlib.Logic.Relation
import WikiGateway.Path
import WikiGateway.Proofs.Action

/-!
The search loop one step at a time, over any source: it may fail, answer the same question
differently each time, and give what is no title. Whatever it answers, each page come upon but the
first has a parent that was come upon before it and has it among the links that were given for it.
-/
namespace WikiGateway.Path

/-- Where a search stands: before the next page, among the links of a page, or at `stop`, just come
upon. -/
inductive Stage (ν : Type)
  | looking
  | noting (page : String) (left : List ν)
  | found

/-- A search on its way, with the links that it was given so far, page by page. -/
structure Config (ω ν : Type) where
  world : ω
  state : State ν
  stage : Stage ν
  answers : List (String × List ν)

variable {ω ν : Type} [Named ν] {source : Source ω ν} {start stop page title : String}
  {links left : List ν} {link : ν} {answers : List (String × List ν)} {s : State ν}
  {c d : Config ω ν} {parents : OrderedMap String}

/-- The search that has just begun. -/
def Config.initial (start : String) (w : ω) : Config ω ν := ⟨w, .initial start, .looking, []⟩

/-- One step of the search loop, as long as it has time. -/
inductive Step (source : Source ω ν) (stop : String) : Config ω ν → Config ω ν → Prop
  /-- The next page is asked for its links. -/
  | ask {w w' : ω} {s : State ν} {page : ν} {rest links : List ν} {title : String}
      {answers : List (String × List ν)} (hs : s.frontier = page :: rest)
      (htitle : Named.text? page = some title)
      (hsource : (source.linksOn title).runIn w = (.ok links, w')) :
      Step source stop ⟨w, s, .looking, answers⟩
        ⟨w', { s with frontier := rest, expanded := s.expanded + 1 }, .noting title links,
          answers ++ [(title, links)]⟩
  | note {w : ω} {s : State ν} {page : String} {link : ν} {left : List ν}
      {answers : List (String × List ν)} (hatomic : Named.isAtomic link = true)
      (hother : Named.text? link ≠ some stop) :
      Step source stop ⟨w, s, .noting page (link :: left), answers⟩
        ⟨w, s.note page link, .noting page left, answers⟩
  | find {w : ω} {s : State ν} {page : String} {link : ν} {left : List ν}
      {answers : List (String × List ν)} (hatomic : Named.isAtomic link = true)
      (hstop : Named.text? link = some stop) :
      Step source stop ⟨w, s, .noting page (link :: left), answers⟩
        ⟨w, s.note page link, .found, answers⟩
  | turn {w : ω} {s : State ν} {page : String} {answers : List (String × List ν)} :
      Step source stop ⟨w, s, .noting page [], answers⟩ ⟨w, s, .looking, answers⟩

/-- One page was come upon before another; the keys stand in the order in which they came. -/
def Earlier (parents : OrderedMap String) (p q : String) : Prop :=
  parents.keys.idxOf p < parents.keys.idxOf q

/-- One page has another among the links that were given for it. -/
def LinksTo (answers : List (String × List ν)) (p q : String) : Prop :=
  ∃ links, (p, links) ∈ answers ∧ ∃ link ∈ links, Named.text? link = some q

/-- What the search knows rests on the answers that it had: every page come upon was asked or is
still to be, and each but `start` has a parent that came before it and links to it. -/
structure Grounded (start : String) (answers : List (String × List ν)) (s : State ν) : Prop where
  root : s.parents.find? start = some start
  keys_eq : s.parents.keys = answers.map Prod.fst ++ s.frontier.filterMap Named.text?
  parent : ∀ q p, s.parents.find? q = some p → q ≠ start →
    Earlier s.parents p q ∧ LinksTo answers p q

/-- What holds where a search stands: the links that are left belong to the page that was asked, and
`stop` is known when it was come upon. -/
def Stage.Fits (stop : String) (answers : List (String × List ν)) (s : State ν) : Stage ν → Prop
  | looking => True
  | noting page left => ∃ links, (page, links) ∈ answers ∧ ∀ link ∈ left, link ∈ links
  | found => stop ∈ s.parents.keys

/-- A later state of the map of parents: what came new stands at the end, and no parent changes. -/
structure Grows (before after : OrderedMap String) : Prop where
  keys : before.keys <+: after.keys
  kept : ∀ q p, before.find? q = some p → after.find? q = some p

theorem Grows.refl (parents : OrderedMap String) : Grows parents parents :=
  ⟨List.prefix_rfl, fun _ _ h => h⟩

theorem Grows.trans {a b c : OrderedMap String} (h : Grows a b) (h' : Grows b c) : Grows a c :=
  ⟨h.keys.trans h'.keys, fun q p hq => h'.kept q p (h.kept q p hq)⟩

theorem grows_insert (hnew : title ∉ parents.keys) (page : String) :
    Grows parents (parents.insert title page) where
  keys := by
    rw [OrderedMap.keys_insert_new hnew]
    exact List.prefix_append _ _
  kept := by
    intro q p hq
    have hne : q ≠ title := fun he => hnew (he ▸ OrderedMap.mem_keys_iff.mpr ⟨p, hq⟩)
    rw [OrderedMap.find?_insert, if_neg hne, hq]

theorem Earlier.mem_keys {p q : String} (h : Earlier parents p q) : p ∈ parents.keys :=
  List.idxOf_lt_length_iff.mp (Nat.lt_of_lt_of_le h List.idxOf_le_length)

/-- What was come upon earlier stays so. -/
theorem Earlier.grows {after : OrderedMap String} {p q : String} (h : Earlier parents p q)
    (hq : q ∈ parents.keys) (hgrows : Grows parents after) : Earlier after p q := by
  obtain ⟨more, hmore⟩ := hgrows.keys
  rw [Earlier, ← hmore, List.idxOf_append_of_mem h.mem_keys, List.idxOf_append_of_mem hq]
  exact h

theorem earlier_insert {p : String} (hp : p ∈ parents.keys) (hnew : title ∉ parents.keys)
    (page : String) : Earlier (parents.insert title page) p title := by
  rw [Earlier, OrderedMap.keys_insert_new hnew, List.idxOf_append_of_mem hp,
    List.idxOf_append_of_notMem hnew]
  exact Nat.lt_of_lt_of_le (List.idxOf_lt_length_iff.mpr hp) (Nat.le_add_right _ _)

theorem Grounded.mem_keys (h : Grounded start answers s)
    (hpage : (page, links) ∈ answers) : page ∈ s.parents.keys := by
  rw [h.keys_eq]
  exact List.mem_append_left _ (List.mem_map_of_mem hpage)

theorem LinksTo.append {p q : String} (h : LinksTo answers p q)
    (more : List (String × List ν)) : LinksTo (answers ++ more) p q := by
  obtain ⟨links, hlinks, hlink⟩ := h
  exact ⟨links, List.mem_append_left _ hlinks, hlink⟩

/-- A link is new, or else noting it changes nothing that is known of pages. -/
theorem note_cases (s : State ν) (page : String) (link : ν) :
    (∃ title, Named.text? link = some title ∧ title ∉ s.parents.keys ∧
      s.note page link =
        { s with frontier := s.frontier ++ [link], parents := s.parents.insert title page }) ∨
    (s.note page link).parents = s.parents ∧
      (s.note page link).frontier.filterMap Named.text? = s.frontier.filterMap Named.text? ∧
      ∀ title, Named.text? link = some title → title ∈ s.parents.keys := by
  cases htext : Named.text? link with
  | none =>
    refine .inr ⟨by simp [State.note, htext], by simp [State.note, htext], ?_⟩
    rintro title ⟨⟩
  | some title =>
    by_cases hknown : title ∈ s.parents.keys
    · have hcontains := OrderedMap.contains_eq_true_iff.mpr hknown
      have hsame : s.note page link = s := by simp [State.note, htext, hcontains]
      refine .inr ⟨by rw [hsame], by rw [hsame], ?_⟩
      rintro _ ⟨rfl⟩
      exact hknown
    · have hcontains : ¬ s.parents.contains title = true :=
        fun hc => hknown (OrderedMap.contains_eq_true_iff.mp hc)
      exact .inl ⟨title, rfl, hknown, by simp [State.note, htext, hcontains]⟩

theorem grows_note (s : State ν) (page : String) (link : ν) :
    Grows s.parents (s.note page link).parents := by
  obtain ⟨title, -, hnew, hnote⟩ | ⟨hsame, -⟩ := note_cases s page link
  · rw [hnote]
    exact grows_insert hnew page
  · rw [hsame]
    exact Grows.refl _

theorem mem_keys_note_of_text (htext : Named.text? link = some title) :
    title ∈ (s.note page link).parents.keys := by
  obtain ⟨new, hnew, hfresh, hnote⟩ | ⟨hsame, -, hknown⟩ := note_cases s page link
  · obtain rfl : title = new := Option.some.inj (htext.symm.trans hnew)
    rw [hnote, OrderedMap.keys_insert_new hfresh]
    exact List.mem_append_right _ (List.mem_singleton_self _)
  · rw [hsame]
    exact hknown title htext

theorem Grounded.note (h : Grounded start answers s) (hpage : (page, links) ∈ answers)
    (hlink : link ∈ links) : Grounded start answers (s.note page link) := by
  have hgrows := grows_note s page link
  obtain ⟨title, htext, hnew, hnote⟩ | ⟨hsame, hfrontier, -⟩ := note_cases s page link
  · rw [hnote] at hgrows ⊢
    refine ⟨hgrows.kept _ _ h.root, ?_, ?_⟩
    · rw [OrderedMap.keys_insert_new hnew, h.keys_eq, List.filterMap_append, List.append_assoc]
      simp [htext]
    · intro q p hq hne
      rw [OrderedMap.find?_insert] at hq
      split at hq
      · rename_i he
        obtain rfl : page = p := Option.some.inj hq
        rw [he]
        exact ⟨earlier_insert (h.mem_keys hpage) hnew page,
          links, hpage, link, hlink, htext⟩
      · obtain ⟨hearlier, hlinks⟩ := h.parent q p hq hne
        exact ⟨hearlier.grows (OrderedMap.mem_keys_iff.mpr ⟨p, hq⟩) hgrows, hlinks⟩
  · exact ⟨hsame ▸ h.root, by rw [hsame, hfrontier, h.keys_eq], hsame ▸ h.parent⟩

/-- What holds of a search at each of its steps. -/
def Config.Sound (start stop : String) (c : Config ω ν) : Prop :=
  Grounded start c.answers c.state ∧ c.stage.Fits stop c.answers c.state

theorem Step.sound (hstep : Step source stop c d) (h : c.Sound start stop) :
    d.Sound start stop := by
  obtain ⟨hgrounded, hfits⟩ := h
  cases hstep with
  | @ask w w' s page rest links title answers hs htitle hsource =>
    refine ⟨⟨hgrounded.root, ?_, fun q p hq hne => ?_⟩, links, by simp, fun _ hlink => hlink⟩
    · have hkeys : s.parents.keys = answers.map Prod.fst ++ s.frontier.filterMap Named.text? :=
        hgrounded.keys_eq
      rw [hkeys, hs, List.filterMap_cons_some htitle, List.map_append, List.append_assoc]
      rfl
    · obtain ⟨hearlier, hlinks⟩ := hgrounded.parent q p hq hne
      exact ⟨hearlier, hlinks.append _⟩
  | note hatomic hother =>
    obtain ⟨links, hpage, hleft⟩ := hfits
    exact ⟨hgrounded.note hpage (hleft _ List.mem_cons_self), links, hpage,
      fun link hlink => hleft link (List.mem_cons_of_mem _ hlink)⟩
  | find hatomic hstop =>
    obtain ⟨links, hpage, hleft⟩ := hfits
    exact ⟨hgrounded.note hpage (hleft _ List.mem_cons_self), mem_keys_note_of_text hstop⟩
  | turn => exact ⟨hgrounded, trivial⟩

theorem Step.grows (h : Step source stop c d) : Grows c.state.parents d.state.parents := by
  cases h with
  | ask => exact Grows.refl _
  | note => exact grows_note _ _ _
  | find => exact grows_note _ _ _
  | turn => exact Grows.refl _

/-- A step that a search can take, taken any number of times. -/
abbrev Steps (source : Source ω ν) (stop : String) : Config ω ν → Config ω ν → Prop :=
  Relation.ReflTransGen (Step source stop)

theorem Steps.sound (hsteps : Steps source stop c d) (h : c.Sound start stop) :
    d.Sound start stop := by
  induction hsteps with
  | refl => exact h
  | tail _ hstep ih => exact hstep.sound ih

theorem Steps.grows (h : Steps source stop c d) : Grows c.state.parents d.state.parents := by
  induction h with
  | refl => exact Grows.refl _
  | tail _ hstep ih => exact ih.trans hstep.grows

/-- A search begins with nothing known but its start. -/
theorem sound_initial (hname : Named.text? (Named.ofText start : ν) = some start) (w : ω) :
    (Config.initial start w : Config ω ν).Sound start stop := by
  refine ⟨⟨?_, ?_, fun q p hq hne => ?_⟩, trivial⟩
  · simp [Config.initial, State.initial, OrderedMap.find?_insert]
  · have hkeys : (OrderedMap.empty.insert start start).keys = [start] :=
      OrderedMap.keys_insert_new (by simp [OrderedMap.keys_empty]) start
    have hfrontier : [(Named.ofText start : ν)].filterMap Named.text? = [start] := by
      rw [List.filterMap_cons_some hname, List.filterMap_nil]
    exact hkeys.trans hfrontier.symm
  · simp [Config.initial, State.initial, OrderedMap.find?_insert, OrderedMap.find?_empty, hne]
      at hq

/-- What going through the links of a page comes to, and the step of the search that it stands for:
`stop` is found, the links are gone through, or one of them cannot be told from others. -/
inductive Noted (w : ω) (answers : List (String × List ν)) :
    Except Fault (Bool × State ν) → Config ω ν → Prop
  | found {s : State ν} : Noted w answers (.ok (true, s)) ⟨w, s, .found, answers⟩
  | through {s : State ν} : Noted w answers (.ok (false, s)) ⟨w, s, .looking, answers⟩
  | shapeless {s : State ν} {page : String} {link : ν} {left : List ν}
      (hlink : Named.isAtomic link = false) :
      Noted w answers (.error .wrongShape) ⟨w, s, .noting page (link :: left), answers⟩

/-- Going through the links of a page is a run of steps. -/
theorem exists_noted (source : Source ω ν) (stop page : String) (w : ω)
    (answers : List (String × List ν)) (links : List ν) (s : State ν) :
    ∃ d, Steps source stop ⟨w, s, .noting page links, answers⟩ d ∧
      Noted w answers (State.noteLinks stop page links s) d := by
  induction links generalizing s with
  | nil => exact ⟨_, .single .turn, .through⟩
  | cons link left ih =>
    cases hatomic : Named.isAtomic link with
    | false =>
      simp only [State.noteLinks, hatomic]
      exact ⟨_, .refl, .shapeless hatomic⟩
    | true =>
      simp only [State.noteLinks, hatomic]
      by_cases hstop : Named.text? link = some stop
      · simp only [hstop, if_true]
        exact ⟨_, .single (.find hatomic hstop), .found⟩
      · obtain ⟨d, hsteps, hd⟩ := ih (s.note page link)
        simp only [hstop, if_false]
        exact ⟨d, .head (.note hatomic hstop) hsteps, hd⟩

end WikiGateway.Path
