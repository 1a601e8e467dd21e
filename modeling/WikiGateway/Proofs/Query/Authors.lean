import WikiGateway.Proofs.Named
import WikiGateway.Proofs.Query.Inquiring

/-!
Where authors are listed, whatever one author wrote counts as the list of the one name. Conditions
can then be evaluated on lists alone, and nothing else comes of it.
-/
namespace WikiGateway.Query

variable {ω ι α β : Type} {source : Source ω String}

/-- The names that a condition stands for: an author for the one name, two conditions that are both
met for the names that they share, in the order of the left one, and two of which either is met for
the names of the left one and then those that the right one adds. -/
def evalNames (source : Source ω String) : Condition ι → Evaluating ω String (List String)
  | .leaf .author name => return [name]
  | .leaf .category name => do
    let members ← source.categoryMembers (categoryTitle name)
    let names ← members.mapM (editor? source)
    return (names.filterMap id).eraseDups
  | .leaf .title title => do return (← editor? source title).toList
  | .and l r => do
    let left ← evalNames source l
    let right ← evalNames source r
    return left.filter (right.contains ·)
  | .or l r => do
    let left ← evalNames source l
    let right ← evalNames source r
    return (left ++ right).eraseDups
  | .foreign _ l r => do
    let _ ← evalNames source l
    let _ ← evalNames source r
    throw .wrongShape

/-- Lists authors, with a condition evaluated on lists of names alone. -/
def evaluateNames (source : Source ω String) (c : Condition ι) (order : Option Order) :
    Action ω (List String) := do
  let (names, _) ← (evalNames source c).run []
  arrange order names

/-- Two evaluations go the same way: they fail alike, or they come to what `V` relates, knowing the
same editors. -/
def GoTogether (V : α → β → Prop) (act : Evaluating ω String α) (act' : Evaluating ω String β) :
    Prop :=
  ∀ known w, match Action.runIn (act.run known) w with
    | (.ok (a, known'), w') => ∃ b, Action.runIn (act'.run known) w = (.ok (b, known'), w') ∧ V a b
    | (.error f, w') => Action.runIn (act'.run known) w = (.error f, w')

theorem goTogether_pure {V : α → β → Prop} {a : α} {b : β} (h : V a b) :
    GoTogether V (pure a : Evaluating ω String α) (pure b) := fun _ _ => ⟨b, rfl, h⟩

theorem goTogether_self (act : Evaluating ω String α) : GoTogether Eq act act := by
  intro known w
  rcases hrun : Action.runIn (act.run known) w with ⟨f | ⟨a, known'⟩, w'⟩
  · rfl
  · exact ⟨a, rfl, rfl⟩

theorem GoTogether.bind {α' β' : Type} {V : α → β → Prop} {V' : α' → β' → Prop}
    {act : Evaluating ω String α} {act' : Evaluating ω String β} {f : α → Evaluating ω String α'}
    {g : β → Evaluating ω String β'} (h : GoTogether V act act')
    (hfg : ∀ a b, V a b → GoTogether V' (f a) (g b)) : GoTogether V' (act >>= f) (act' >>= g) := by
  intro known w
  have hact := h known w
  simp only [StateT.run_bind, Action.runIn_bind]
  rcases hrun : Action.runIn (act.run known) w with ⟨e | ⟨a, known'⟩, w'⟩
  · rw [hrun] at hact
    rw [hact]
  · rw [hrun] at hact
    obtain ⟨b, hrun', hab⟩ := hact
    rw [hrun']
    exact hfg a b hab known' w'

/-- The names that are listed of a selection, each of them once. -/
def Names (s : Selection String) (names : List String) : Prop :=
  s.listed .author = names ∧ names.Nodup

theorem listed_author (name : String) :
    (Selection.writtenBy name : Selection String).listed .author = [name] := rfl

theorem keep_pure {m : Type → Type} [Monad m] [LawfulMonad m] (test : α → Bool) (as : List α) :
    Query.keep (fun a => (pure (test a) : m Bool)) as = pure (as.filter test) := by
  induction as with
  | nil => rfl
  | cons a as ih =>
    rw [Query.keep, pure_bind, ih, pure_bind, List.filter_cons]

/-- Where authors are listed, the source is not asked what an author wrote. -/
theorem matchesAuthor_author (source : Source ω String) (author item : String) :
    matchesAuthor source .author author item = pure (item == author) := by
  have hsame : Named.isSame item (Named.ofText author) = (item == author) := rfl
  rw [matchesAuthor, hsame]
  cases item == author <;> rfl

/-- Of names that do not repeat, those that are one name are that name or none. -/
theorem filter_eq_name {names : List String} (h : names.Nodup) (name : String) :
    names.filter (· == name) = [name].filter (names.contains ·) := by
  rw [List.filter_beq, List.filter_cons, List.filter_nil]
  by_cases hmem : name ∈ names
  · rw [List.count_eq_one_of_mem h hmem, if_pos (List.contains_iff_mem.mpr hmem)]
    rfl
  · rw [List.count_eq_zero_of_not_mem hmem, if_neg fun hin => hmem (List.contains_iff_mem.mp hin)]
    rfl

theorem goTogether_both {left right : Selection String} {names names' : List String}
    (hleft : Names left names) (hright : Names right names') :
    GoTogether Names (both source .author left right)
      (pure (names.filter (names'.contains ·)) : Evaluating ω String (List String)) := by
  obtain ⟨rfl, hl⟩ := hleft
  obtain ⟨rfl, hr⟩ := hright
  have hnodup := hl.filter ((right.listed .author).contains ·)
  have hkeep (author : String) (xs : List String) :
      Query.keep (matchesAuthor source .author author) xs = pure (xs.filter (· == author)) := by
    rw [funext (matchesAuthor_author source author), keep_pure]
  cases left with
  | items xs =>
    cases right with
    | items ys =>
      refine goTogether_pure ⟨List.filter_congr fun x _ => ?_, hnodup⟩
      exact Named.isAmong_texts ys x
    | writtenBy b =>
      rw [both, hkeep, pure_bind]
      refine goTogether_pure ⟨List.filter_congr fun x _ => ?_, hnodup⟩
      rw [listed_author, List.contains_cons, List.contains_nil, Bool.or_false]
  | writtenBy a =>
    cases right with
    | items ys =>
      rw [both, hkeep, pure_bind]
      exact goTogether_pure ⟨filter_eq_name hr a, hnodup⟩
    | writtenBy b =>
      refine goTogether_pure ⟨?_, hnodup⟩
      rw [listed_author, listed_author, List.filter_cons, List.contains_cons, List.contains_nil,
        Bool.or_false]
      by_cases hsame : a = b
      · rw [if_pos hsame, if_pos (beq_iff_eq.mpr hsame), listed_author]
        rfl
      · rw [if_neg hsame, if_neg (by simpa using hsame)]
        rfl

theorem goTogether_leaf (kind : LeafKind) (value : String) :
    GoTogether Names (evalLeaf source .author kind value)
      (evalNames source (.leaf kind value : Condition ι)) := by
  cases kind with
  | author => exact goTogether_pure ⟨rfl, List.nodup_singleton value⟩
  | category =>
    refine (goTogether_self _).bind fun members _ hmembers => ?_
    subst hmembers
    refine (goTogether_self _).bind fun names _ hnames => ?_
    subst hnames
    exact goTogether_pure ⟨rfl, nodup_eraseDups _⟩
  | title =>
    refine (goTogether_self _).bind fun name _ hname => ?_
    subst hname
    refine goTogether_pure ⟨rfl, ?_⟩
    cases name with
    | none => exact List.nodup_nil
    | some name => exact List.nodup_singleton name

/-- Where authors are listed, a condition comes to its names. -/
theorem goTogether_condition (c : Condition ι) :
    GoTogether Names (evalCondition source .author c) (evalNames source c) := by
  induction c with
  | leaf kind value => exact goTogether_leaf kind value
  | and l r ihl ihr =>
    exact ihl.bind fun left names hleft => ihr.bind fun right names' hright =>
      goTogether_both hleft hright
  | or l r ihl ihr =>
    refine ihl.bind fun left names hleft => ihr.bind fun right names' hright => ?_
    obtain ⟨rfl, -⟩ := hleft
    obtain ⟨rfl, -⟩ := hright
    exact goTogether_pure ⟨rfl, nodup_eraseDups _⟩
  | foreign kind l r ihl ihr =>
    exact ihl.bind fun _ _ _ => ihr.bind fun _ _ _ known w => rfl

theorem runIn_evaluate_author (source : Source ω String) (c : Condition ι) (order : Option Order)
    (w : ω) :
    (evaluate source ⟨.author, c, order⟩).runIn w = (evaluateNames source c order).runIn w := by
  have hnames : GoTogether Names (evalCondition source .author c) (evalNames source c) :=
    goTogether_condition c
  have htogether := hnames [] w
  rw [evaluate, evaluateNames, Action.runIn_bind, Action.runIn_bind]
  rcases hrun : Action.runIn ((evalCondition source .author c).run []) w with
    ⟨f | ⟨selection, known⟩, w'⟩
  · rw [hrun] at htogether
    rw [htogether]
  · rw [hrun] at htogether
    obtain ⟨names, hrun', rfl, -⟩ := htogether
    rw [hrun']

/-- Where authors are listed, it makes no difference to take an author for the list of the one name,
and to join conditions as lists: a query comes to the same names in the same order or fails alike,
leaves the same world behind, and asks the source the same questions. -/
theorem evaluate_author_eq_evaluateNames (source : Source ω String) (c : Condition ι)
    (order : Option Order) (w : ω) :
    ∃ (r : Except Fault (List String)) (asked : List Call) (w' : ω),
      (evaluate source ⟨.author, c, order⟩).runIn w = (r, w') ∧
      (evaluateNames source c order).runIn w = (r, w') ∧
      (evaluate source.watched ⟨.author, c, order⟩).runIn ⟨w, []⟩ = (r, ⟨w', asked⟩) ∧
      (evaluateNames source.watched c order).runIn ⟨w, []⟩ = (r, ⟨w', asked⟩) := by
  rcases hwatched : (evaluate source.watched ⟨.author, c, order⟩).runIn ⟨w, []⟩ with ⟨r, v⟩
  have halone := watches_evaluate source ⟨.author, c, order⟩ ⟨w, []⟩
  rw [hwatched] at halone
  refine ⟨r, v.calls, v.world, halone.symm, ?_, rfl, ?_⟩
  · rw [← runIn_evaluate_author]
    exact halone.symm
  · rw [← runIn_evaluate_author]
    exact hwatched

end WikiGateway.Query
