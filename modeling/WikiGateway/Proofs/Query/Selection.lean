import WikiGateway.Proofs.Table
import WikiGateway.Query.Evaluation

/-!
Conditions evaluated on a source that always answers, and always the same. Which editors were asked
for before makes no difference, as long as what is known of them is true.
-/
namespace WikiGateway.Query

/-- What a source knows, as far as conditions ask for it. -/
structure Facts where
  members : String → List String
  categories : String → List String
  editor : String → String
  isPage : String → Bool

variable {ω α β : Type} {facts : Facts} {source : Source ω String} {mode : Mode}

/-- Whatever the world, a source answers from what it knows. -/
structure Facts.Answered (facts : Facts) (source : Source ω String) : Prop where
  categoryMembers (category : String) (w : ω) :
    ((source.categoryMembers category).runIn w).1 = .ok (facts.members category)
  categoriesOn (title : String) (w : ω) :
    ((source.categoriesOn title).runIn w).1 = .ok (facts.categories title)
  lastEditor (title : String) (w : ω) :
    ((source.lastEditor title).runIn w).1 = .ok (facts.editor title)
  pageExists (title : String) (w : ω) :
    ((source.pageExists title).runIn w).1 = .ok (facts.isPage title)

/-- The last editor of a page, if there is one. -/
def Facts.editor? (facts : Facts) (title : String) : Option String :=
  if facts.editor title = "" then none else some (facts.editor title)

/-- The selection of a leaf. -/
def Facts.leaf (facts : Facts) (mode : Mode) (kind : LeafKind) (value : String) :
    Selection String :=
  match kind, mode with
  | .author, _ => .writtenBy value
  | .category, .page => .items (facts.members (categoryTitle value)).eraseDups
  | .category, .author =>
    .items ((facts.members (categoryTitle value)).filterMap facts.editor?).eraseDups
  | .category, .category => .items (facts.categories (categoryTitle value)).eraseDups
  | .title, .page => .items [value]
  | .title, .author => .items (facts.editor? value).toList
  | .title, .category => .items (facts.categories value).eraseDups

/-- Whether something counts as an author's. -/
def Facts.isBy (facts : Facts) (mode : Mode) (author item : String) : Bool :=
  item == author || (mode != .author && facts.isPage item && facts.editor item == author)

def Facts.both (facts : Facts) (mode : Mode) :
    Selection String → Selection String → Selection String
  | .writtenBy a, .writtenBy b => if a = b then .writtenBy a else .items []
  | .writtenBy a, .items xs | .items xs, .writtenBy a => .items (xs.filter (facts.isBy mode a))
  | .items xs, .items ys => .items (xs.filter (ys.contains ·))

/-- What a condition selects, if each editor is asked for whenever it is needed. -/
def Facts.select (facts : Facts) (mode : Mode) : Condition Empty → Selection String
  | .leaf kind value => facts.leaf mode kind value
  | .and l r => facts.both mode (facts.select mode l) (facts.select mode r)
  | .or l r => either mode (facts.select mode l) (facts.select mode r)

/-- What is known of editors is true. -/
def Facts.Support (facts : Facts) (known : Editors String) : Prop :=
  ∀ title name, known.lookup title = some name → name = facts.editor title

/-- Whatever the world and the editors known, an evaluation gives an answer, and what is known
afterwards is still true. -/
def Gives (facts : Facts) (act : Evaluating ω String α) (a : α) : Prop :=
  ∀ known w, facts.Support known →
    ∃ known' w', Action.runIn (act.run known) w = (.ok (a, known'), w') ∧ facts.Support known'

theorem gives_pure (a : α) : Gives facts (pure a : Evaluating ω String α) a :=
  fun known w hknown => ⟨known, w, rfl, hknown⟩

theorem Gives.bind {act : Evaluating ω String α} {f : α → Evaluating ω String β} {a : α} {b : β}
    (h : Gives facts act a) (hf : Gives facts (f a) b) : Gives facts (act >>= f) b := by
  intro known w hknown
  obtain ⟨known₁, w₁, hact, h₁⟩ := h known w hknown
  obtain ⟨known₂, w₂, hrest, h₂⟩ := hf known₁ w₁ h₁
  refine ⟨known₂, w₂, ?_, h₂⟩
  rw [StateT.run_bind, Action.runIn_bind, hact]
  exact hrest

/-- A question put from within an evaluation changes nothing that is known. -/
theorem runIn_put {ν : Type} (act : Action ω α) (known : Editors ν) (w : ω) :
    Action.runIn ((liftM act : StateT (Editors ν) (Action ω) α).run known) w =
      ((act.runIn w).1.map (·, known), (act.runIn w).2) := by
  change (act >>= fun a => pure (a, known)).runIn w = _
  rw [← map_eq_pure_bind, Action.runIn_map]

theorem run_editor_known {ν : Type} {source : Source ω ν} {known : Editors ν} {title : String}
    {name : ν} (h : known.lookup title = some name) :
    (editor source title).run known = pure (name, known) := by
  simp only [editor, StateT.run_bind, StateT.run_get, pure_bind, h]
  rfl

theorem run_editor_new {ν : Type} {source : Source ω ν} {known : Editors ν} {title : String}
    (h : known.lookup title = none) :
    (editor source title).run known =
      (fun name => (name, (title, name) :: known)) <$> source.lastEditor title := by
  simp only [editor, StateT.run_bind, StateT.run_get, pure_bind, h, StateT.run_monadLift,
    StateT.run_modify, StateT.run_pure, bind_assoc, map_eq_pure_bind]
  rfl

theorem gives_ask {act : Action ω α} {a : α} (h : ∀ w, (act.runIn w).1 = .ok a) :
    Gives facts (liftM act : Evaluating ω String α) a := by
  intro known w hknown
  refine ⟨known, (act.runIn w).2, ?_, hknown⟩
  rw [runIn_put, h w]
  rfl

theorem gives_ok (a : α) : Gives facts (liftM (.ok a : Except Fault α) : Evaluating ω String α) a :=
  fun known w hknown => ⟨known, w, rfl, hknown⟩

theorem Gives.mapM {g : α → Evaluating ω String β} {f : α → β} (h : ∀ a, Gives facts (g a) (f a))
    (as : List α) : Gives facts (as.mapM g) (as.map f) := by
  induction as with
  | nil => exact gives_pure []
  | cons a as ih =>
    rw [List.mapM_cons]
    exact (h a).bind (ih.bind (gives_pure _))

theorem Gives.keep {g : α → Evaluating ω String Bool} {test : α → Bool}
    (h : ∀ a, Gives facts (g a) (test a)) (as : List α) :
    Gives facts (keep g as) (as.filter test) := by
  induction as with
  | nil => exact gives_pure []
  | cons a as ih =>
    rw [List.filter_cons]
    exact (h a).bind (ih.bind (gives_pure _))

theorem gives_editor (h : facts.Answered source) (title : String) :
    Gives facts (editor source title) (facts.editor title) := by
  intro known w hknown
  cases hlook : known.lookup title with
  | some name =>
    rw [run_editor_known hlook, hknown title name hlook]
    exact ⟨known, w, rfl, hknown⟩
  | none =>
    refine ⟨(title, facts.editor title) :: known, ((source.lastEditor title).runIn w).2, ?_, ?_⟩
    · rw [run_editor_new hlook, Action.runIn_map, h.lastEditor title w]
      rfl
    · intro other name hother
      rw [lookup_entry] at hother
      split at hother
      · rename_i hsame
        obtain rfl : other = title := hsame
        exact (Option.some.inj hother).symm
      · exact hknown other name hother

theorem gives_editor? (h : facts.Answered source) (title : String) :
    Gives facts (editor? source title) (facts.editor? title) := by
  refine (gives_ok title).bind ((gives_editor h title).bind ?_)
  rw [Facts.editor?]
  by_cases hempty : facts.editor title = ""
  · rw [if_pos hempty, if_pos (by simp [hempty, Named.isSet])]
    exact gives_pure _
  · rw [if_neg hempty, if_neg (by simp [hempty, Named.isSet]), if_pos (by rfl)]
    exact gives_pure _

theorem gives_leaf (h : facts.Answered source) (kind : LeafKind) (value : String) :
    Gives facts (evalLeaf source mode kind value) (facts.leaf mode kind value) := by
  have hmembers : Gives facts (liftM (source.categoryMembers (categoryTitle value)))
      (facts.members (categoryTitle value)) := gives_ask (h.categoryMembers _)
  cases kind with
  | author => exact gives_pure _
  | category =>
    cases mode with
    | page =>
      refine hmembers.bind ?_
      simp only [Named.distinct_texts]
      exact (gives_ok _).bind (gives_pure _)
    | author =>
      refine hmembers.bind ((Gives.mapM (gives_editor? h) _).bind ?_)
      rw [List.filterMap_map]
      exact gives_pure _
    | category =>
      refine (gives_ask (h.categoriesOn _)).bind ?_
      simp only [Named.distinct_texts]
      exact (gives_ok _).bind (gives_pure _)
  | title =>
    cases mode with
    | page => exact gives_pure _
    | author => exact (gives_editor? h value).bind (gives_pure _)
    | category =>
      refine (gives_ask (h.categoriesOn _)).bind ?_
      simp only [Named.distinct_texts]
      exact (gives_ok _).bind (gives_pure _)

theorem gives_matchesAuthor (h : facts.Answered source) (author item : String) :
    Gives facts (matchesAuthor source mode author item) (facts.isBy mode author item) := by
  have hsame : Named.isSame item (Named.ofText author) = (item == author) := rfl
  rw [matchesAuthor, hsame, Facts.isBy]
  cases hitem : item == author with
  | true =>
    rw [if_pos rfl, Bool.true_or]
    exact gives_pure _
  | false =>
    rw [if_neg Bool.false_ne_true, Bool.false_or]
    by_cases hauthor : mode = .author
    · rw [if_pos hauthor, hauthor]
      exact gives_pure _
    rw [if_neg hauthor, bne_iff_ne.mpr hauthor, Bool.true_and]
    refine (gives_ok item).bind ((gives_ask (h.pageExists item)).bind ?_)
    cases facts.isPage item with
    | false => exact gives_pure _
    | true => exact (gives_editor h item).bind (gives_pure _)

theorem gives_both (h : facts.Answered source) (left right : Selection String) :
    Gives facts (both source mode left right) (facts.both mode left right) := by
  have hkeep (author : String) (xs : List String) :
      Gives facts (keep (matchesAuthor source mode author) xs)
        (xs.filter (facts.isBy mode author)) :=
    Gives.keep (gives_matchesAuthor h author) xs
  cases left with
  | items xs =>
    cases right with
    | items ys =>
      have hpure : Gives facts (pure (Selection.items (xs.filter (ys.contains ·))) :
          Evaluating ω String (Selection String)) (.items (xs.filter (ys.contains ·))) :=
        gives_pure _
      simpa only [both, Facts.both, ← Named.isAmong_texts] using hpure
    | writtenBy b => exact (hkeep b xs).bind (gives_pure _)
  | writtenBy a =>
    cases right with
    | items ys => exact (hkeep a ys).bind (gives_pure _)
    | writtenBy b => exact gives_pure _

/-- A condition is evaluated to what it selects. -/
theorem gives_select (h : facts.Answered source) (c : Condition Empty) :
    Gives facts (evalCondition source mode c) (facts.select mode c) := by
  induction c with
  | leaf kind value => exact gives_leaf h kind value
  | and l r ihl ihr => exact ihl.bind (ihr.bind (gives_both h _ _))
  | or l r ihl ihr => exact ihl.bind (ihr.bind (gives_pure _))
  | foreign kind => exact kind.elim

end WikiGateway.Query

namespace WikiGateway.Table

variable {τ : Type} [Instant τ] {t : Table τ}

/-- What the tables say about pages and categories. -/
def facts (t : Table τ) : Query.Facts where
  members category := (t.categories.lookup category).getD []
  categories title := (t.pageCategories.lookup title).getD []
  editor title := (t.editors.lookup title).getD ""
  isPage := t.mentions

theorem answered (h : t.troubles = []) : t.facts.Answered t.source where
  categoryMembers _ w := congrArg Prod.fst (runIn_ask h _ _ w)
  categoriesOn _ w := congrArg Prod.fst (runIn_ask h _ _ w)
  lastEditor _ w := congrArg Prod.fst (runIn_ask h _ _ w)
  pageExists _ w := congrArg Prod.fst (runIn_ask h _ _ w)

end WikiGateway.Table
