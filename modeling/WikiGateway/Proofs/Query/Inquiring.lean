import WikiGateway.Proofs.Query.Selection
import WikiGateway.Proofs.Watched

/-!
Conditions evaluated in whatever way the questions are put. One way remembers the editors that were
asked for, another one forgets them, and a source can be watched while it is asked; evaluations that
differ in nothing else correspond as far as single questions do.
-/
namespace WikiGateway.Query

/-- How an evaluation asks for what it needs. -/
structure Inquiry (m : Type → Type) (ν : Type) where
  members : (category : String) → m (List ν)
  categories : (title : String) → m (List ν)
  editor : (title : String) → m ν
  isPage : (title : String) → m Bool
  /-- Goes on with what an attempt comes to, if it does not fail. -/
  attempt {α : Type} : Except Fault α → m α

namespace Inquiry

section Evaluation

variable {m : Type → Type} [Monad m] {ν ι : Type} [Named ν]

def editor? (asks : Inquiry m ν) (page : ν) : m (Option ν) := do
  let name ← asks.editor (← asks.attempt (Named.title page))
  if !Named.isSet name then return none
  else if Named.isAtomic name then return some name
  else asks.attempt (.error .wrongShape)

def leaf (asks : Inquiry m ν) (mode : Mode) (kind : LeafKind) (value : String) :
    m (Selection ν) :=
  match kind, mode with
  | .author, _ => return .writtenBy value
  | .category, .page => do
    return .items (← asks.attempt (Named.distinct (← asks.members (categoryTitle value))))
  | .category, .author => do
    let members ← asks.members (categoryTitle value)
    let names ← members.mapM asks.editor?
    return .items (Named.withoutRepeats (names.filterMap id))
  | .category, .category => do
    return .items (← asks.attempt (Named.distinct (← asks.categories (categoryTitle value))))
  | .title, .page => return .items [Named.ofText value]
  | .title, .author => return .items (← asks.editor? (Named.ofText value)).toList
  | .title, .category => do
    return .items (← asks.attempt (Named.distinct (← asks.categories value)))

def matchesAuthor (asks : Inquiry m ν) (mode : Mode) (author : String) (item : ν) : m Bool := do
  if Named.isSame item (Named.ofText author) then return true
  else if mode = .author then return false
  else
    let title ← asks.attempt (Named.title item)
    if ← asks.isPage title then
      return Named.isSame (← asks.editor title) (Named.ofText author)
    else return false

def both (asks : Inquiry m ν) (mode : Mode) : Selection ν → Selection ν → m (Selection ν)
  | .writtenBy a, .writtenBy b => return if a = b then .writtenBy a else .items []
  | .writtenBy a, .items xs | .items xs, .writtenBy a =>
    return .items (← keep (asks.matchesAuthor mode a) xs)
  | .items xs, .items ys => return .items (xs.filter (Named.isAmong ys))

def condition (asks : Inquiry m ν) (mode : Mode) : Condition ι → m (Selection ν)
  | .leaf kind value => asks.leaf mode kind value
  | .and l r => do
    let left ← asks.condition mode l
    let right ← asks.condition mode r
    asks.both mode left right
  | .or l r => do
    let left ← asks.condition mode l
    let right ← asks.condition mode r
    return either mode left right
  | .foreign _ l r => do
    let _ ← asks.condition mode l
    let _ ← asks.condition mode r
    asks.attempt (.error .wrongShape)

end Evaluation

section Ways

variable {ω ν ι : Type}

/-- Each question is put to the source, that for an editor too. -/
def forgetful (source : Source ω ν) : Inquiry (Action ω) ν where
  members := source.categoryMembers
  categories := source.categoriesOn
  editor := source.lastEditor
  isPage := source.pageExists
  attempt r := liftM r

/-- A source is asked for an editor only if it was not before. -/
def remembering (source : Source ω ν) : Inquiry (StateT (Editors ν) (Action ω)) ν where
  members category := source.categoryMembers category
  categories title := source.categoriesOn title
  editor := Query.editor source
  isPage title := source.pageExists title
  attempt r := liftM r

variable [Named ν]

/-- Conditions are evaluated with the editors remembered. -/
theorem condition_remembering (source : Source ω ν) (mode : Mode) (c : Condition ι) :
    (remembering source).condition mode c = evalCondition source mode c := by
  induction c with
  | leaf kind value => cases kind <;> cases mode <;> rfl
  | and l r ihl ihr =>
    rw [condition, evalCondition, ihl, ihr]
    refine congrArg _ (funext fun left => congrArg _ (funext fun right => ?_))
    cases left <;> cases right <;> rfl
  | or l r ihl ihr => rw [condition, evalCondition, ihl, ihr]
  | foreign kind l r ihl ihr =>
    rw [condition, evalCondition, ihl, ihr]
    rfl

end Ways

section Correspondence

variable {m m' : Type → Type} [Monad m] [Monad m'] {α β ν ι : Type}
  {asks : Inquiry m ν} {asks' : Inquiry m' ν} {R : {α : Type} → m α → m' α → Prop} {mode : Mode}

/-- Evaluations of two ways to ask are related step by step. -/
structure Corresponds (asks : Inquiry m ν) (asks' : Inquiry m' ν)
    (R : {α : Type} → m α → m' α → Prop) : Prop where
  pure {α : Type} (a : α) : R (pure a) (pure a)
  bind {α β : Type} {act : m α} {act' : m' α} {f : α → m β} {f' : α → m' β} :
    R act act' → (∀ a, R (f a) (f' a)) → R (act >>= f) (act' >>= f')
  attempt {α : Type} (r : Except Fault α) : R (asks.attempt r) (asks'.attempt r)
  members (category : String) : R (asks.members category) (asks'.members category)
  categories (title : String) : R (asks.categories title) (asks'.categories title)
  editor (title : String) : R (asks.editor title) (asks'.editor title)
  isPage (title : String) : R (asks.isPage title) (asks'.isPage title)

namespace Corresponds

theorem mapM [LawfulMonad m] [LawfulMonad m'] (h : Corresponds asks asks' R) {g : α → m β}
    {g' : α → m' β} (hg : ∀ a, R (g a) (g' a)) (as : List α) : R (as.mapM g) (as.mapM g') := by
  induction as with
  | nil => exact h.pure []
  | cons a as ih =>
    rw [List.mapM_cons, List.mapM_cons]
    exact h.bind (hg a) fun b => h.bind ih fun bs => h.pure (b :: bs)

theorem keep (h : Corresponds asks asks' R) {test : α → m Bool} {test' : α → m' Bool}
    (htest : ∀ a, R (test a) (test' a)) (as : List α) :
    R (Query.keep test as) (Query.keep test' as) := by
  induction as with
  | nil => exact h.pure []
  | cons a as ih => exact h.bind (htest a) fun passes => h.bind ih fun rest => h.pure _

variable [Named ν]

theorem editor? (h : Corresponds asks asks' R) (page : ν) :
    R (asks.editor? page) (asks'.editor? page) := by
  refine h.bind (h.attempt _) fun title => h.bind (h.editor title) fun name => ?_
  split
  · exact h.pure none
  · split
    · exact h.pure (some name)
    · exact h.attempt _

theorem matchesAuthor (h : Corresponds asks asks' R) (author : String) (item : ν) :
    R (asks.matchesAuthor mode author item) (asks'.matchesAuthor mode author item) := by
  rw [Inquiry.matchesAuthor, Inquiry.matchesAuthor]
  split
  · exact h.pure true
  · split
    · exact h.pure false
    · refine h.bind (h.attempt _) fun title => h.bind (h.isPage title) fun isPage => ?_
      split
      · exact h.bind (h.editor title) fun name => h.pure _
      · exact h.pure false

theorem both (h : Corresponds asks asks' R) (left right : Selection ν) :
    R (asks.both mode left right) (asks'.both mode left right) := by
  cases left with
  | items xs =>
    cases right with
    | items ys => exact h.pure _
    | writtenBy b => exact h.bind (h.keep (h.matchesAuthor b) xs) fun kept => h.pure _
  | writtenBy a =>
    cases right with
    | items ys => exact h.bind (h.keep (h.matchesAuthor a) ys) fun kept => h.pure _
    | writtenBy b => exact h.pure _

variable [LawfulMonad m] [LawfulMonad m']

theorem leaf (h : Corresponds asks asks' R) (kind : LeafKind) (value : String) :
    R (asks.leaf mode kind value) (asks'.leaf mode kind value) := by
  cases kind with
  | author => exact h.pure _
  | category =>
    cases mode with
    | page => exact h.bind (h.members _) fun xs => h.bind (h.attempt _) fun ys => h.pure _
    | author => exact h.bind (h.members _) fun xs => h.bind (h.mapM h.editor? xs) fun ys => h.pure _
    | category => exact h.bind (h.categories _) fun xs => h.bind (h.attempt _) fun ys => h.pure _
  | title =>
    cases mode with
    | page => exact h.pure _
    | author => exact h.bind (h.editor? _) fun name => h.pure _
    | category => exact h.bind (h.categories _) fun xs => h.bind (h.attempt _) fun ys => h.pure _

/-- Where single questions are answered alike, conditions are evaluated alike. -/
theorem condition (h : Corresponds asks asks' R) (c : Condition ι) :
    R (asks.condition mode c) (asks'.condition mode c) := by
  induction c with
  | leaf kind value => exact h.leaf kind value
  | and l r ihl ihr => exact h.bind ihl fun left => h.bind ihr fun right => h.both left right
  | or l r ihl ihr => exact h.bind ihl fun left => h.bind ihr fun right => h.pure _
  | foreign kind l r ihl ihr => exact h.bind ihl fun _ => h.bind ihr fun _ => h.attempt _

end Corresponds

end Correspondence

end Inquiry

open WikiGateway.Action

variable {ω ν ι α : Type} {source : Source ω ν}

/-- Evaluates a query and asks for each editor whenever it is needed. -/
def evaluateForgetfully [Named ν] (source : Source ω ν) (q : Query ι) : Action ω (List ν) := do
  let selection ← (Inquiry.forgetful source).condition q.mode q.condition
  arrange q.order (selection.listed q.mode)

theorem corresponds_forgetful_watched (source : Source ω ν) :
    (Inquiry.forgetful source.watched).Corresponds (Inquiry.forgetful source) Watches where
  pure := watches_pure
  bind := Watches.bind
  attempt := watches_lift
  members _ := watches_noting _ _
  categories _ := watches_noting _ _
  editor _ := watches_noting _ _
  isPage _ := watches_noting _ _

theorem watches_put {watched : Action (Watched ω) α} {act : Action ω α} (h : Watches watched act)
    (known : Editors ν) :
    Watches ((liftM watched : StateT (Editors ν) (Action (Watched ω)) α).run known)
      ((liftM act : StateT (Editors ν) (Action ω) α).run known) :=
  h.bind fun _ => watches_pure _

theorem corresponds_remembering_watched (source : Source ω ν) :
    (Inquiry.remembering source.watched).Corresponds (Inquiry.remembering source)
      fun watched act => ∀ known, Watches (watched.run known) (act.run known) where
  pure _ _ := watches_pure _
  bind h hf known := (h known).bind fun step => hf step.1 step.2
  attempt r := watches_put (watches_lift r)
  members _ := watches_put (watches_noting _ _)
  categories _ := watches_put (watches_noting _ _)
  editor title known := by
    change Watches ((editor source.watched title).run known) ((editor source title).run known)
    cases hlook : known.lookup title with
    | some name =>
      rw [run_editor_known hlook, run_editor_known hlook]
      exact watches_pure _
    | none =>
      rw [run_editor_new hlook, run_editor_new hlook, map_eq_pure_bind, map_eq_pure_bind]
      exact (watches_noting _ _).bind fun _ => watches_pure _
  isPage _ := watches_put (watches_noting _ _)

variable [Named ν]

theorem watches_evaluate (source : Source ω ν) (q : Query ι) :
    Watches (evaluate source.watched q) (evaluate source q) := by
  rw [evaluate, evaluate, ← Inquiry.condition_remembering, ← Inquiry.condition_remembering]
  refine ((corresponds_remembering_watched source).condition q.condition []).bind fun found => ?_
  exact watches_lift _

theorem watches_evaluateForgetfully (source : Source ω ν) (q : Query ι) :
    Watches (evaluateForgetfully source.watched q) (evaluateForgetfully source q) :=
  ((corresponds_forgetful_watched source).condition q.condition).bind fun _ => watches_lift _

end WikiGateway.Query
