import WikiGateway.Proofs.Action
import WikiGateway.Source.Table

/-! A source that is watched: what it is asked is noted, and it answers as it would alone. -/
namespace WikiGateway

/-- A world, and the questions that were asked in it. -/
structure Watched (ω : Type) where
  world : ω
  calls : List Call

/-- The question about the links of a page. -/
def Call.links (title : String) : Call := ⟨.linksOn, title, none⟩

@[simp]
theorem Call.argument_comp_links : Call.argument ∘ Call.links = id := rfl

namespace Action

variable {ω α β : Type}

/-- Notes a question, and asks it. -/
def noting (call : Call) (act : Action ω α) : Action (Watched ω) α := do
  modify fun v => { v with calls := v.calls ++ [call] }
  act.onPart Watched.world fun w v => { v with world := w }

theorem runIn_noting (call : Call) (act : Action ω α) (v : Watched ω) :
    (noting call act).runIn v =
      ((act.runIn v.world).1, ⟨(act.runIn v.world).2, v.calls ++ [call]⟩) := rfl

/-- An action does in a watched world what another one does in the world alone. -/
def Watches (watched : Action (Watched ω) α) (act : Action ω α) : Prop :=
  ∀ v, ((watched.runIn v).1, (watched.runIn v).2.world) = act.runIn v.world

theorem watches_pure (a : α) : Watches (pure a) (pure a : Action ω α) := fun _ => rfl

theorem watches_throw (f : Fault) : Watches (throw f) (throw f : Action ω α) := fun _ => rfl

theorem watches_lift (r : Except Fault α) : Watches (liftM r) (liftM r : Action ω α) := fun _ => rfl

theorem watches_noting (call : Call) (act : Action ω α) : Watches (noting call act) act :=
  fun _ => rfl

variable {watched : Action (Watched ω) α} {act : Action ω α}

theorem Watches.bind {f : α → Action (Watched ω) β} {g : α → Action ω β} (h : Watches watched act)
    (hf : ∀ a, Watches (f a) (g a)) : Watches (watched >>= f) (act >>= g) := by
  intro v
  rw [runIn_bind, runIn_bind, ← h v]
  rcases watched.runIn v with ⟨e | a, v'⟩
  · rfl
  · exact hf a v'

/-- Of a watched world, the world alone may be read. -/
theorem watches_get_bind {f : Watched ω → Action (Watched ω) β} {g : ω → Action ω β}
    (h : ∀ v, Watches (f v) (g v.world)) : Watches (get >>= f) (get >>= g) := fun v => h v v

end Action

/-- A source that notes what it is asked, in order, and answers as before. -/
def Source.watched {ω ν : Type} (source : Source ω ν) : Source (Watched ω) ν where
  search term limit := .noting ⟨.search, term, some limit⟩ (source.search term limit)
  pageText title := .noting ⟨.pageText, title, none⟩ (source.pageText title)
  linksOn title := .noting (.links title) (source.linksOn title)
  categoryMembers category :=
    .noting ⟨.categoryMembers, category, none⟩ (source.categoryMembers category)
  categoriesOn title := .noting ⟨.categoriesOn, title, none⟩ (source.categoriesOn title)
  lastEditor title := .noting ⟨.lastEditor, title, none⟩ (source.lastEditor title)
  pageExists title := .noting ⟨.pageExists, title, none⟩ (source.pageExists title)

end WikiGateway
