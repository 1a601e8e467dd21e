import WikiGateway.Proofs.Query.Meaning

/-!
Three conditions that are all to be met, joined one way or the other. It makes no difference which
two are joined first, unless these are two authors who share a page.
-/
namespace WikiGateway.Query

variable {ω : Type} {facts : Facts} {source : Source ω String} {mode : Mode}

/-- A condition with one part left open. -/
inductive Surrounding
  | hole
  | andLeft (inner : Surrounding) (right : Condition Empty)
  | andRight (left : Condition Empty) (inner : Surrounding)
  | orLeft (inner : Surrounding) (right : Condition Empty)
  | orRight (left : Condition Empty) (inner : Surrounding)

def Surrounding.fill : Surrounding → Condition Empty → Condition Empty
  | hole, c => c
  | andLeft inner right, c => .and (inner.fill c) right
  | andRight left inner, c => .and left (inner.fill c)
  | orLeft inner right, c => .or (inner.fill c) right
  | orRight left inner, c => .or left (inner.fill c)

/-- What a condition selects depends on its parts only through what these select. -/
theorem select_fill {c d : Condition Empty} (h : facts.select mode c = facts.select mode d)
    (s : Surrounding) : facts.select mode (s.fill c) = facts.select mode (s.fill d) := by
  induction s with
  | hole => exact h
  | andLeft inner right ih => rw [Surrounding.fill, Surrounding.fill, Facts.select, ih, Facts.select]
  | andRight left inner ih => rw [Surrounding.fill, Surrounding.fill, Facts.select, ih, Facts.select]
  | orLeft inner right ih => rw [Surrounding.fill, Surrounding.fill, Facts.select, ih, Facts.select]
  | orRight left inner ih => rw [Surrounding.fill, Surrounding.fill, Facts.select, ih, Facts.select]

/-- The author that a condition speaks of, if it speaks of nothing else. -/
def Condition.author? : Condition Empty → Option String
  | leaf .author name => some name
  | and l r =>
    match l.author?, r.author? with
    | some a, some b => if a = b then some a else none
    | _, _ => none
  | _ => none

theorem author?_and {l r : Condition Empty} {author : String} :
    (Condition.and l r).author? = some author ↔
      l.author? = some author ∧ r.author? = some author := by
  rw [Condition.author?]
  cases l.author? <;> cases r.author? <;> grind

theorem both_eq_writtenBy_iff {x y : Selection String} {author : String} :
    facts.both mode x y = .writtenBy author ↔ x = .writtenBy author ∧ y = .writtenBy author := by
  cases x <;> cases y <;> grind [Facts.both]

theorem select_eq_writtenBy_iff {c : Condition Empty} {author : String} :
    facts.select mode c = .writtenBy author ↔ c.author? = some author := by
  induction c with
  | leaf kind value => cases kind <;> cases mode <;> simp [Condition.author?, Facts.select, Facts.leaf]
  | and l r ihl ihr => rw [Facts.select, both_eq_writtenBy_iff, ihl, ihr, author?_and]
  | or l r => simp [Condition.author?, Facts.select, either]
  | foreign kind => exact kind.elim

/-- A page counts for two authors if it is named like the one and was changed last by the other. -/
theorem isBy_and_isBy_iff {a b page : String} (hne : a ≠ b) :
    facts.isBy mode a page = true ∧ facts.isBy mode b page = true ↔
      mode ≠ .author ∧ facts.isPage page = true ∧
        (page = a ∧ facts.editor page = b ∨ page = b ∧ facts.editor page = a) := by
  rw [isBy_iff, isBy_iff]
  constructor
  · rintro ⟨rfl | ⟨hmode, hpage, rfl⟩, rfl | ⟨hmode', hpage', heditor⟩⟩
    · exact absurd rfl hne
    · exact ⟨hmode', hpage', .inl ⟨rfl, heditor⟩⟩
    · exact ⟨hmode, hpage, .inr ⟨rfl, rfl⟩⟩
    · exact absurd heditor hne
  · rintro ⟨hmode, hpage, ⟨rfl, rfl⟩ | ⟨rfl, rfl⟩⟩
    · exact ⟨.inl rfl, .inr ⟨hmode, hpage, rfl⟩⟩
    · exact ⟨.inr ⟨hmode, hpage, rfl⟩, .inl rfl⟩

/-- Two different authors stand side by side, and what can be listed beside them holds something
that counts for both. -/
def Facts.Torn (facts : Facts) (mode : Mode) : (left middle right : Selection String) → Prop
  | .items xs, .writtenBy a, .writtenBy b | .writtenBy a, .writtenBy b, .items xs =>
    a ≠ b ∧ ∃ page ∈ xs, facts.isBy mode a page = true ∧ facts.isBy mode b page = true
  | _, _, _ => False

theorem filter_contains_filter (test : String → Bool) (xs ys : List String) :
    xs.filter ((ys.filter test).contains ·) = (xs.filter (ys.contains ·)).filter test := by
  rw [List.filter_filter]
  refine List.filter_congr fun x _ => ?_
  rw [Bool.eq_iff_iff, List.contains_iff_mem, List.mem_filter, Bool.and_eq_true,
    List.contains_iff_mem, and_comm]

theorem filter_isBy_isBy {a b : String} {xs : List String}
    (h : ¬ ∃ page ∈ xs, facts.isBy mode a page = true ∧ facts.isBy mode b page = true) :
    (xs.filter (facts.isBy mode a)).filter (facts.isBy mode b) = [] := by
  rw [List.filter_filter, List.filter_eq_nil_iff]
  intro page hpage hby
  obtain ⟨hb, ha⟩ := (Bool.and_eq_true _ _).mp hby
  exact h ⟨page, hpage, ha, hb⟩

theorem filter_isBy_self (a : String) (xs : List String) :
    (xs.filter (facts.isBy mode a)).filter (facts.isBy mode a) = xs.filter (facts.isBy mode a) := by
  rw [List.filter_filter]
  simp only [Bool.and_self]

/-- Selections that are all to be met can be grouped either way, if no page is torn. -/
theorem both_assoc {x y z : Selection String} (h : ¬ facts.Torn mode x y z) :
    facts.both mode (facts.both mode x y) z = facts.both mode x (facts.both mode y z) := by
  rcases x with xs | a <;> rcases y with ys | b <;> rcases z with zs | c
  · exact congrArg Selection.items (filter_contains_filter _ xs ys).symm
  · exact congrArg Selection.items (filter_contains_filter _ xs ys).symm
  · refine congrArg Selection.items ?_
    rw [filter_contains_filter, List.filter_comm]
  · by_cases hsame : b = c
    · subst hsame
      simp only [Facts.both, if_true, filter_isBy_self]
    · have hnone := filter_isBy_isBy fun hpage => h ⟨hsame, hpage⟩
      simp only [Facts.both, if_neg hsame, hnone, List.contains_nil, List.filter_false]
  · exact congrArg Selection.items (List.filter_comm _ _ ys)
  · exact congrArg Selection.items (List.filter_comm _ _ ys)
  · by_cases hsame : a = b
    · subst hsame
      simp only [Facts.both, if_true, filter_isBy_self]
    · have hnone := filter_isBy_isBy fun hpage => h ⟨hsame, hpage⟩
      rw [List.filter_comm] at hnone
      simp only [Facts.both, if_neg hsame, hnone, List.filter_nil]
  · grind [Facts.both]

/-- If a page is torn, it is listed if it is met with one author after the other, and nothing is
listed if the authors are met with each other first. -/
theorem both_of_torn {x y z : Selection String} (h : facts.Torn mode x y z) :
    ∃ xs ys, facts.both mode (facts.both mode x y) z = .items xs ∧
      facts.both mode x (facts.both mode y z) = .items ys ∧ xs ≠ ys := by
  have hkept {a b : String} {xs : List String} {page : String} (hpage : page ∈ xs)
      (hby : facts.isBy mode a page = true ∧ facts.isBy mode b page = true) :
      (xs.filter (facts.isBy mode a)).filter (facts.isBy mode b) ≠ [] :=
    List.ne_nil_of_mem (List.mem_filter.mpr ⟨List.mem_filter.mpr ⟨hpage, hby.1⟩, hby.2⟩)
  rcases x with xs | a <;> rcases y with ys | b <;> rcases z with zs | c <;> try exact h.elim
  · obtain ⟨hne, page, hpage, hby⟩ := h
    refine ⟨_, [], rfl, ?_, hkept hpage hby⟩
    simp only [Facts.both, if_neg hne, List.contains_nil, List.filter_false]
  · obtain ⟨hne, page, hpage, hby⟩ := h
    refine ⟨[], _, ?_, rfl, (hkept hpage hby.symm).symm⟩
    simp only [Facts.both, if_neg hne, List.filter_nil]

/-- Grouping matters for three conditions: two that stand side by side speak of different authors,
and the other one lists a page that is named like the one author and was changed last by the
other. -/
def Facts.GroupingMatters (facts : Facts) (mode : Mode) (left middle right : Condition Empty) :
    Prop :=
  mode ≠ .author ∧ ∃ a b page, a ≠ b ∧ facts.isPage page = true ∧
    (page = a ∧ facts.editor page = b ∨ page = b ∧ facts.editor page = a) ∧
    (page ∈ (facts.meaning mode left).listed mode ∧
        middle.author? = some a ∧ right.author? = some b ∨
      left.author? = some a ∧ middle.author? = some b ∧
        page ∈ (facts.meaning mode right).listed mode)

theorem mem_listed_meaning_iff {c : Condition Empty} {page : String} (hmode : mode ≠ .author) :
    page ∈ (facts.meaning mode c).listed mode ↔
      ∃ xs, facts.select mode c = .items xs ∧ page ∈ xs := by
  rw [← ((means_select c).listed mode).2]
  cases facts.select mode c with
  | items xs => simp [Selection.listed]
  | writtenBy a => simp [Selection.listed, hmode]

theorem torn_select_iff {left middle right : Condition Empty} :
    facts.Torn mode (facts.select mode left) (facts.select mode middle) (facts.select mode right) ↔
      facts.GroupingMatters mode left middle right := by
  constructor
  · intro h
    rcases hl : facts.select mode left with xs | a <;>
      rcases hm : facts.select mode middle with ys | b <;>
      rcases hr : facts.select mode right with zs | c <;> rw [hl, hm, hr] at h <;>
      try exact h.elim
    · obtain ⟨hne, page, hmem, hby⟩ := h
      obtain ⟨hmode, hpage, hnamed⟩ := (isBy_and_isBy_iff hne).mp hby
      exact ⟨hmode, b, c, page, hne, hpage, hnamed, .inl
        ⟨(mem_listed_meaning_iff hmode).mpr ⟨xs, hl, hmem⟩, select_eq_writtenBy_iff.mp hm,
          select_eq_writtenBy_iff.mp hr⟩⟩
    · obtain ⟨hne, page, hmem, hby⟩ := h
      obtain ⟨hmode, hpage, hnamed⟩ := (isBy_and_isBy_iff hne).mp hby
      exact ⟨hmode, a, b, page, hne, hpage, hnamed, .inr
        ⟨select_eq_writtenBy_iff.mp hl, select_eq_writtenBy_iff.mp hm,
          (mem_listed_meaning_iff hmode).mpr ⟨zs, hr, hmem⟩⟩⟩
  · rintro ⟨hmode, a, b, page, hne, hpage, hnamed, ⟨hlisted, ha, hb⟩ | ⟨ha, hb, hlisted⟩⟩
    · obtain ⟨xs, hl, hmem⟩ := (mem_listed_meaning_iff hmode).mp hlisted
      rw [hl, select_eq_writtenBy_iff.mpr ha, select_eq_writtenBy_iff.mpr hb]
      exact ⟨hne, page, hmem, (isBy_and_isBy_iff hne).mpr ⟨hmode, hpage, hnamed⟩⟩
    · obtain ⟨zs, hr, hmem⟩ := (mem_listed_meaning_iff hmode).mp hlisted
      rw [hr, select_eq_writtenBy_iff.mpr ha, select_eq_writtenBy_iff.mpr hb]
      exact ⟨hne, page, hmem, (isBy_and_isBy_iff hne).mpr ⟨hmode, hpage, hnamed⟩⟩

theorem exists_arrange (order : Option Order) (found : List String) :
    ∃ xs, arrange order found = .ok xs := by
  cases order with
  | none => exact ⟨found, rfl⟩
  | some order => cases order <;> exact ⟨_, rfl⟩

/-- On a source that always answers, three conditions that are all to be met can be grouped either
way in any query, exactly if the grouping does not matter for the three. -/
theorem evaluate_regrouped_iff (h : facts.Answered source) (mode : Mode)
    (left middle right : Condition Empty) (w w' : ω) :
    (∀ (s : Surrounding) (order : Option Order), ∃ xs,
      ((evaluate source ⟨mode, s.fill (.and (.and left middle) right), order⟩).runIn w).1 =
        .ok xs ∧
      ((evaluate source ⟨mode, s.fill (.and left (.and middle right)), order⟩).runIn w').1 =
        .ok xs) ↔
      ¬ facts.GroupingMatters mode left middle right := by
  rw [← torn_select_iff]
  constructor
  · intro hsame htorn
    obtain ⟨xs, ys, hxs, hys, hne⟩ := both_of_torn htorn
    obtain ⟨found, hfirst, hlast⟩ := hsame .hole none
    have hfound : (facts.both mode (facts.both mode (facts.select mode left)
        (facts.select mode middle)) (facts.select mode right)).listed mode = found :=
      Except.ok.inj ((runIn_evaluate h _ w).symm.trans hfirst)
    have hfound' : (facts.both mode (facts.select mode left) (facts.both mode
        (facts.select mode middle) (facts.select mode right))).listed mode = found :=
      Except.ok.inj ((runIn_evaluate h _ w').symm.trans hlast)
    rw [hxs] at hfound
    rw [hys] at hfound'
    exact hne (hfound.trans hfound'.symm)
  · intro htorn s order
    have hgroup : facts.select mode (.and (.and left middle) right) =
        facts.select mode (.and left (.and middle right)) := both_assoc htorn
    obtain ⟨xs, hxs⟩ := exists_arrange order
      ((facts.select mode (s.fill (.and (.and left middle) right))).listed mode)
    refine ⟨xs, (runIn_evaluate h _ w).trans hxs, (runIn_evaluate h _ w').trans ?_⟩
    rw [← select_fill hgroup]
    exact hxs

/-- No page of cats is named like an author, so the two authors can be met in any order. -/
theorem evaluate_regrouped_catPages :
    let cats : Condition Empty := .leaf .category "Cats"
    let ann : Condition Empty := .leaf .author "Ann"
    let bob : Condition Empty := .leaf .author "Bob"
    catPages.facts.Answered catPages.source ∧ ¬ catPages.facts.GroupingMatters .page cats ann bob ∧
    ∀ (s : Surrounding) (order : Option Order), ∃ xs,
      ((evaluate catPages.source ⟨.page, s.fill (.and (.and cats ann) bob), order⟩).runIn
        ⟨0, #[]⟩).1 = .ok xs ∧
      ((evaluate catPages.source ⟨.page, s.fill (.and cats (.and ann bob)), order⟩).runIn
        ⟨0, #[]⟩).1 = .ok xs := by
  intro cats ann bob
  have hanswered := Table.answered (t := catPages) rfl
  have hgrouping : ¬ catPages.facts.GroupingMatters .page cats ann bob := by
    rintro ⟨-, a, b, page, -, hpage, hnamed, ⟨-, ha, hb⟩ | ⟨ha, -⟩⟩
    · obtain rfl : "Ann" = a := Option.some.inj ha
      obtain rfl : "Bob" = b := Option.some.inj hb
      obtain ⟨rfl, -⟩ | ⟨rfl, -⟩ := hnamed
      · exact absurd hpage (by decide)
      · exact absurd hpage (by decide)
    · cases ha
  exact ⟨hanswered, hgrouping,
    (evaluate_regrouped_iff hanswered .page cats ann bob ⟨0, #[]⟩ ⟨0, #[]⟩).mpr hgrouping⟩

/-- The page Alice, which Bob changed last. -/
def alicesPage : Table ℚ := { catPages with categories := [], editors := [("Alice", "Bob")] }

/-- The page Alice is kept if it is met with the author Alice and then with the author Bob; the two
authors have nothing in common. -/
theorem regrouped_alicesPage :
    let title : Condition Empty := .leaf .title "Alice"
    let alice : Condition Empty := .leaf .author "Alice"
    let bob : Condition Empty := .leaf .author "Bob"
    alicesPage.facts.Answered alicesPage.source ∧
    ((evaluate alicesPage.source ⟨.page, .and (.and title alice) bob, none⟩).runIn ⟨0, #[]⟩).1 =
      .ok ["Alice"] ∧
    ((evaluate alicesPage.source ⟨.page, .and title (.and alice bob), none⟩).runIn ⟨0, #[]⟩).1 =
      .ok [] :=
  ⟨Table.answered rfl, rfl, rfl⟩

end WikiGateway.Query
