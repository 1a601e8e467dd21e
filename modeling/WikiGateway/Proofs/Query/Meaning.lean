import Mathlib.Data.Rat.Floor
import Mathlib.Data.Set.Basic
import WikiGateway.Instant.Exact
import WikiGateway.Proofs.Named
import WikiGateway.Proofs.Query.Selection

/-! The sets that conditions stand for, and the order in which their members are listed. -/
namespace WikiGateway.Query

variable {ω : Type} {facts : Facts} {source : Source ω String} {mode : Mode}

/-- What a condition means: a set of things, or whatever one author wrote. -/
inductive Meaning
  | set (members : Set String)
  | writtenBy (author : String)

/-- What counts of a meaning where things are to be listed: of an author's work nothing, in author
mode the author. -/
def Meaning.listed (mode : Mode) : Meaning → Set String
  | set s => s
  | writtenBy author => {x | mode = .author ∧ x = author}

/-- The category of a name: the name itself if it is marked as one, else the name with the mark. -/
def fullTitle (name : String) : String :=
  if categoryMark.toList <+: name.toList then name else categoryMark ++ name

theorem categoryTitle_eq_fullTitle (name : String) : categoryTitle name = fullTitle name := by
  simp only [categoryTitle, fullTitle, List.isPrefixOf_iff_prefix]

def Facts.leafMeaning (facts : Facts) (mode : Mode) (kind : LeafKind) (value : String) : Meaning :=
  match kind, mode with
  | .author, _ => .writtenBy value
  | .category, .page => .set {x | x ∈ facts.members (fullTitle value)}
  | .category, .author =>
    .set {x | x ≠ "" ∧ ∃ page ∈ facts.members (fullTitle value), facts.editor page = x}
  | .category, .category => .set {x | x ∈ facts.categories (fullTitle value)}
  | .title, .page => .set {value}
  | .title, .author => .set {x | x ≠ "" ∧ facts.editor value = x}
  | .title, .category => .set {x | x ∈ facts.categories value}

/-- Those of a set that an author wrote, or that are the author. -/
def Facts.restrict (facts : Facts) (mode : Mode) (author : String) (s : Set String) : Set String :=
  {x ∈ s | x = author ∨ (mode ≠ .author ∧ facts.isPage x = true ∧ facts.editor x = author)}

def Facts.bothMeaning (facts : Facts) (mode : Mode) : Meaning → Meaning → Meaning
  | .writtenBy a, .writtenBy b => if a = b then .writtenBy a else .set ∅
  | .writtenBy a, .set s | .set s, .writtenBy a => .set (facts.restrict mode a s)
  | .set s, .set t => .set (s ∩ t)

def Facts.meaning (facts : Facts) (mode : Mode) : Condition Empty → Meaning
  | .leaf kind value => facts.leafMeaning mode kind value
  | .and l r => facts.bothMeaning mode (facts.meaning mode l) (facts.meaning mode r)
  | .or l r => .set ((facts.meaning mode l).listed mode ∪ (facts.meaning mode r).listed mode)

/-- A selection lists the members of a set, each once, or speaks of the same author. -/
def Means : Selection String → Meaning → Prop
  | .items xs, .set s => xs.Nodup ∧ ∀ x, x ∈ xs ↔ x ∈ s
  | .writtenBy a, .writtenBy b => a = b
  | _, _ => False

theorem means_eraseDups {xs : List String} {s : Set String} (h : ∀ x, x ∈ xs ↔ x ∈ s) :
    Means (.items xs.eraseDups) (.set s) :=
  ⟨nodup_eraseDups xs, fun x => List.mem_eraseDups.trans (h x)⟩

theorem Means.filter {xs : List String} {s t : Set String} {test : String → Bool}
    (h : Means (.items xs) (.set s)) (ht : ∀ x, x ∈ t ↔ x ∈ s ∧ test x = true) :
    Means (.items (xs.filter test)) (.set t) := by
  obtain ⟨hdistinct, hmem⟩ := h
  refine ⟨hdistinct.filter test, fun x => ?_⟩
  rw [List.mem_filter, hmem, ht]

theorem editor?_eq_some_iff {title name : String} :
    facts.editor? title = some name ↔ name ≠ "" ∧ facts.editor title = name := by
  rw [Facts.editor?]
  by_cases hempty : facts.editor title = ""
  · rw [if_pos hempty]
    constructor
    · intro h
      cases h
    · rintro ⟨hname, rfl⟩
      exact absurd hempty hname
  · rw [if_neg hempty]
    constructor
    · intro h
      obtain rfl := Option.some.inj h
      exact ⟨hempty, rfl⟩
    · rintro ⟨-, rfl⟩
      rfl

theorem isBy_iff {author item : String} :
    facts.isBy mode author item = true ↔
      item = author ∨ (mode ≠ .author ∧ facts.isPage item = true ∧ facts.editor item = author) := by
  simp only [Facts.isBy, Bool.or_eq_true, Bool.and_eq_true, beq_iff_eq, bne_iff_ne, ne_eq,
    and_assoc]

theorem means_leaf (kind : LeafKind) (value : String) :
    Means (facts.leaf mode kind value) (facts.leafMeaning mode kind value) := by
  have htitle := categoryTitle_eq_fullTitle value
  cases kind with
  | author => exact rfl
  | category =>
    rw [Facts.leaf.eq_def, htitle]
    cases mode with
    | page => exact means_eraseDups fun x => Iff.rfl
    | author =>
      refine means_eraseDups fun x => ?_
      simp only [List.mem_filterMap, editor?_eq_some_iff]
      constructor
      · rintro ⟨page, hpage, hname, heditor⟩
        exact ⟨hname, page, hpage, heditor⟩
      · rintro ⟨hname, page, hpage, heditor⟩
        exact ⟨page, hpage, hname, heditor⟩
    | category => exact means_eraseDups fun x => Iff.rfl
  | title =>
    cases mode with
    | page => exact ⟨List.nodup_singleton value, fun x => List.mem_singleton⟩
    | author =>
      refine ⟨?_, fun x => ?_⟩
      · cases facts.editor? value with
        | none => exact List.nodup_nil
        | some name => exact List.nodup_singleton name
      · rw [Option.mem_toList, editor?_eq_some_iff]
        exact Iff.rfl
    | category => exact means_eraseDups fun x => Iff.rfl

theorem Means.both {left right : Selection String} {l r : Meaning} (hl : Means left l)
    (hr : Means right r) : Means (facts.both mode left right) (facts.bothMeaning mode l r) := by
  have hby (author : String) (s : Set String) (x : String) :
      x ∈ facts.restrict mode author s ↔ x ∈ s ∧ facts.isBy mode author x = true := by
    rw [isBy_iff]
    exact Iff.rfl
  rcases left with xs | a <;> rcases l with s | a' <;> try exact hl.elim
  · rcases right with ys | b <;> rcases r with t | b' <;> try exact hr.elim
    · refine hl.filter fun x => ?_
      rw [List.contains_iff_mem, hr.2]
      exact Iff.rfl
    · obtain rfl : b = b' := hr
      exact hl.filter (hby b s)
  · obtain rfl : a = a' := hl
    rcases right with ys | b <;> rcases r with t | b' <;> try exact hr.elim
    · exact hr.filter (hby a t)
    · obtain rfl : b = b' := hr
      simp only [Facts.both, Facts.bothMeaning]
      by_cases hsame : a = b
      · rw [if_pos hsame, if_pos hsame]
        exact rfl
      · rw [if_neg hsame, if_neg hsame]
        exact ⟨List.nodup_nil, fun x => by simp⟩

/-- What is listed of a selection are the members of what it means, each once. -/
theorem Means.listed {s : Selection String} {m : Meaning} (h : Means s m) (mode : Mode) :
    (s.listed mode).Nodup ∧ ∀ x, x ∈ s.listed mode ↔ x ∈ m.listed mode := by
  rcases s with xs | a <;> rcases m with members | b <;> try exact h.elim
  · exact h
  · obtain rfl : a = b := h
    by_cases hauthor : mode = .author
    · rw [Selection.listed, if_pos hauthor]
      refine ⟨List.nodup_singleton _, fun x => ?_⟩
      rw [List.mem_singleton]
      exact (and_iff_right hauthor).symm
    · rw [Selection.listed, if_neg hauthor]
      refine ⟨List.nodup_nil, fun x => iff_of_false List.not_mem_nil fun hlisted => ?_⟩
      exact hauthor hlisted.1

theorem Means.joined {left right : Selection String} {l r : Meaning} (hl : Means left l)
    (hr : Means right r) :
    Means (either mode left right) (.set (l.listed mode ∪ r.listed mode)) := by
  refine means_eraseDups fun x => ?_
  rw [List.mem_append, (hl.listed mode).2, (hr.listed mode).2]
  exact Iff.rfl

/-- A condition selects what it means. -/
theorem means_select (c : Condition Empty) :
    Means (facts.select mode c) (facts.meaning mode c) := by
  induction c with
  | leaf kind value => exact means_leaf kind value
  | and l r ihl ihr => exact ihl.both ihr
  | or l r ihl ihr => exact ihl.joined ihr
  | foreign kind => exact kind.elim

/-- What two selections share is listed in the order of the left one; where that one cannot be
listed, in the order of the right one. -/
def Selection.Shared (left right shared : Selection String) : Prop :=
  match left, right with
  | .items xs, _ => ∃ zs, shared = .items zs ∧ zs.Sublist xs
  | .writtenBy _, .items ys => ∃ zs, shared = .items zs ∧ zs.Sublist ys
  | .writtenBy a, .writtenBy b => shared = if a = b then .writtenBy a else .items []

theorem shared_both (left right : Selection String) :
    left.Shared right (facts.both mode left right) := by
  cases left with
  | items xs => cases right <;> exact ⟨_, rfl, List.filter_sublist⟩
  | writtenBy a =>
    cases right with
    | items ys => exact ⟨_, rfl, List.filter_sublist⟩
    | writtenBy b => exact rfl

/-- Selections are listed together in the order of the left one, and then of what the right one adds
to it. -/
theorem either_eq {left right : Selection String} {l r : Meaning} (hl : Means left l)
    (hr : Means right r) :
    either mode left right = .items (left.listed mode ++
      (right.listed mode).filter (!(left.listed mode).contains ·)) := by
  have hleft := (hl.listed mode).1
  have hright := (hr.listed mode).1
  rw [either, Named.withoutRepeats_texts, List.eraseDups_append, eraseDups_eq_self hleft,
    List.removeAll, eraseDups_eq_self (hright.filter _)]

/-- Wherever two conditions are joined, they are listed in the order of discovery, whatever was
asked for before. -/
def ListsAsDiscovered (facts : Facts) (source : Source ω String) (mode : Mode) : Prop :=
  ∀ l r : Condition Empty, ∃ left right shared,
    Gives facts (evalCondition source mode l) left ∧
    Gives facts (evalCondition source mode r) right ∧
    Gives facts (evalCondition source mode (.and l r)) shared ∧ left.Shared right shared ∧
    Gives facts (evalCondition source mode (.or l r)) (.items (left.listed mode ++
      (right.listed mode).filter (!(left.listed mode).contains ·)))

theorem listsAsDiscovered (h : facts.Answered source) : ListsAsDiscovered facts source mode := by
  intro l r
  have hor : Gives facts (evalCondition source mode (.or l r)) (facts.select mode (.or l r)) :=
    gives_select h (.or l r)
  rw [Facts.select, either_eq (means_select l) (means_select r)] at hor
  exact ⟨_, _, _, gives_select h l, gives_select h r, gives_select h (.and l r), shared_both _ _,
    hor⟩

theorem runIn_evaluate (h : facts.Answered source) (q : Query) (w : ω) :
    ((evaluate source q).runIn w).1 =
      arrange q.order ((facts.select q.mode q.condition).listed q.mode) := by
  have hnone : facts.Support [] := by
    intro title name hlook
    cases hlook
  obtain ⟨known, w', hrun, -⟩ := gives_select h q.condition [] w hnone
  rw [evaluate, Action.runIn_bind, hrun]
  rfl

/-- On a source that always answers, a query lists the members of what its condition means, each
once: in strict order if it is to ascend, in the opposite order if it is to descend, and else in the
order of discovery. -/
theorem evaluate_meaning (h : facts.Answered source) (q : Query) (w : ω) :
    ∃ xs, ((evaluate source q).runIn w).1 = .ok xs ∧ xs.Nodup ∧
      (∀ x, x ∈ xs ↔ x ∈ (facts.meaning q.mode q.condition).listed q.mode) ∧
      match q.order with
      | some .ascending => xs.Pairwise (· < ·)
      | some .descending =>
        ((evaluate source { q with order := some .ascending }).runIn w).1 = .ok xs.reverse
      | none => ListsAsDiscovered facts source q.mode ∧
        ∃ s, Gives facts (evalCondition source q.mode q.condition) s ∧ xs = s.listed q.mode := by
  obtain ⟨mode, condition, order⟩ := q
  have hmeans : Means (facts.select mode condition) (facts.meaning mode condition) :=
    means_select condition
  obtain ⟨hdistinct, hmem⟩ := hmeans.listed mode
  set found := (facts.select mode condition).listed mode with hfound
  have hsorted (x : String) :
      x ∈ sortTexts found ↔ x ∈ (facts.meaning mode condition).listed mode :=
    mem_sortTexts.trans (hmem x)
  have hstrict := pairwise_lt_sortTexts hdistinct
  cases order with
  | none =>
    refine ⟨found, runIn_evaluate h _ w, hdistinct, hmem, listsAsDiscovered h, _, ?_, hfound⟩
    exact gives_select h condition
  | some order =>
    have hascending : ((evaluate source ⟨mode, condition, some .ascending⟩).runIn w).1 =
        .ok (sortTexts found) := runIn_evaluate h _ w
    have hnodup : (sortTexts found).Nodup := (perm_sortTexts found).nodup_iff.mpr hdistinct
    cases order with
    | ascending => exact ⟨sortTexts found, hascending, hnodup, hsorted, hstrict⟩
    | descending =>
      refine ⟨(sortTexts found).reverse, runIn_evaluate h _ w, List.nodup_reverse.mpr hnodup,
        fun x => List.mem_reverse.trans (hsorted x), ?_⟩
      rw [List.reverse_reverse]
      exact hascending

/-- Two pages of a category, of which one is there twice, and their editors. -/
def catPages : Table ℚ where
  links := []
  categories := [("Category:Cats", ["Tom", "Felix", "Tom"])]
  pageCategories := []
  editors := [("Tom", "Ann"), ("Felix", "Bob")]
  texts := []
  results := []
  troubles := []
  cost := 1

/-- The page Rex, and the pages in the category that Ann edited last. -/
def catsOfAnn : Query where
  mode := .page
  condition := .or (.leaf .title "Rex") (.and (.leaf .author "Ann") (.leaf .category "Cats"))
  order := some .descending

theorem evaluate_catsOfAnn :
    catPages.facts.Answered catPages.source ∧
    ∃ xs, ((evaluate catPages.source catsOfAnn).runIn ⟨0, #[]⟩).1 = .ok xs ∧ xs.Nodup ∧
      (∀ x, x ∈ xs ↔ x ∈ (catPages.facts.meaning .page catsOfAnn.condition).listed .page) ∧
      ((evaluate catPages.source { catsOfAnn with order := some .ascending }).runIn ⟨0, #[]⟩).1 =
        .ok xs.reverse := by
  have hanswered := Table.answered (t := catPages) rfl
  exact ⟨hanswered, evaluate_meaning hanswered catsOfAnn ⟨0, #[]⟩⟩

end WikiGateway.Query
