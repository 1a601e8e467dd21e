import WikiGateway.Proofs.Query.Inquiring
import WikiGateway.Proofs.Query.Meaning

/-!
Within a query a source is asked for the editor of a page once. If its answers do not change, this
makes no difference but to how often it is asked.
-/
namespace WikiGateway

/-- The question who last changed a page. -/
def Call.editor (title : String) : Call := ⟨.lastEditor, title, none⟩

namespace Query

open WikiGateway.Action

/-- Notes a call, unless it asks for an editor again. -/
def askOnce (asked : List Call) (call : Call) : List Call :=
  if call.question = .lastEditor ∧ call ∈ asked then asked else asked ++ [call]

/-- The calls without those that ask for an editor again. -/
def editorsOnce (calls : List Call) : List Call := calls.foldl askOnce []

theorem editorsOnce_concat (calls : List Call) (call : Call) :
    editorsOnce (calls ++ [call]) = askOnce (editorsOnce calls) call := List.foldl_append

theorem mem_askOnce {asked : List Call} {call other : Call} :
    other ∈ askOnce asked call ↔ other ∈ asked ∨ other = call := by
  rw [askOnce]
  split
  · rename_i hagain
    refine ⟨Or.inl, fun h => h.elim id ?_⟩
    rintro rfl
    exact hagain.2
  · rw [List.mem_append, List.mem_singleton]

/-- Nothing that was asked is left out altogether. -/
theorem mem_editorsOnce {calls : List Call} {call : Call} :
    call ∈ editorsOnce calls ↔ call ∈ calls := by
  induction calls using List.reverseRecOn with
  | nil => exact Iff.rfl
  | append_singleton calls last ih =>
    rw [editorsOnce_concat, mem_askOnce, ih, List.mem_append, List.mem_singleton]

theorem editorsOnce_asked {calls : List Call} {title : String} (h : Call.editor title ∈ calls) :
    editorsOnce (calls ++ [.editor title]) = editorsOnce calls := by
  rw [editorsOnce_concat, askOnce, if_pos ⟨rfl, mem_editorsOnce.mpr h⟩]

theorem editorsOnce_new {calls : List Call} {title : String} (h : Call.editor title ∉ calls) :
    editorsOnce (calls ++ [.editor title]) = editorsOnce calls ++ [.editor title] := by
  rw [editorsOnce_concat, askOnce, if_neg fun hagain => h (mem_editorsOnce.mp hagain.2)]

theorem editorsOnce_other {calls : List Call} {call : Call} (h : call.question ≠ .lastEditor) :
    editorsOnce (calls ++ [call]) = editorsOnce calls ++ [call] := by
  rw [editorsOnce_concat, askOnce, if_neg fun hagain => h hagain.1]

theorem count_editorsOnce_le (calls : List Call) (title : String) :
    (editorsOnce calls).count (.editor title) ≤ 1 := by
  induction calls using List.reverseRecOn with
  | nil => exact Nat.zero_le 1
  | append_singleton calls last ih =>
    by_cases hlast : last = .editor title
    · subst hlast
      by_cases hasked : Call.editor title ∈ calls
      · rwa [editorsOnce_asked hasked]
      · have hnone : (editorsOnce calls).count (.editor title) = 0 :=
          List.count_eq_zero_of_not_mem fun hmem => hasked (mem_editorsOnce.mp hmem)
        rw [editorsOnce_new hasked, List.count_append, hnone, Nat.zero_add, List.count_singleton_self]
    · have hsame : (askOnce (editorsOnce calls) last).count (.editor title) =
          (editorsOnce calls).count (.editor title) := by
        rw [askOnce]
        split
        · rfl
        · rw [List.count_append, List.count_singleton, if_neg (by simpa using hlast), Nat.add_zero]
      rw [editorsOnce_concat, hsame]
      exact ih

variable {ω ν ι α β : Type} {source : Source ω ν} {mode : Mode}

/-- What a source answers to the questions of conditions, or how it fails, depends on nothing but
what it is asked. -/
structure Steady (source : Source ω ν) : Prop where
  categoryMembers (category : String) (w w' : ω) :
    ((source.categoryMembers category).runIn w).1 = ((source.categoryMembers category).runIn w').1
  categoriesOn (title : String) (w w' : ω) :
    ((source.categoriesOn title).runIn w).1 = ((source.categoriesOn title).runIn w').1
  lastEditor (title : String) (w w' : ω) :
    ((source.lastEditor title).runIn w).1 = ((source.lastEditor title).runIn w').1
  pageExists (title : String) (w w' : ω) :
    ((source.pageExists title).runIn w).1 = ((source.pageExists title).runIn w').1

/-- An evaluation that knows some editors stands beside one that forgets them: it knows those that
were asked for, as the source has them, and has asked for each once. -/
structure Beside (source : Source ω ν) (known : Editors ν) (v v' : Watched ω) : Prop where
  calls : v.calls = editorsOnce v'.calls
  asked {title : String} : Call.editor title ∈ v'.calls → ∃ name, known.lookup title = some name
  told {title : String} {name : ν} : known.lookup title = some name →
    Call.editor title ∈ v'.calls ∧ ∀ w, ((source.lastEditor title).runIn w).1 = .ok name

theorem beside_nothing (w w' : ω) : Beside source [] ⟨w, []⟩ ⟨w', []⟩ where
  calls := rfl
  asked h := absurd h List.not_mem_nil
  told h := by cases h

/-- Begun beside each other, the one evaluation comes to what the other one comes to, and they end
beside each other; if they fail, they have asked the same apart from editors asked for again. -/
def Saves (source : Source ω ν) (act : StateT (Editors ν) (Action (Watched ω)) α)
    (afresh : Action (Watched ω) α) : Prop :=
  ∀ known v v', Beside source known v v' →
    match afresh.runIn v' with
    | (.ok a, u') => ∃ known' u, (act.run known).runIn v = (.ok (a, known'), u) ∧
        Beside source known' u u'
    | (.error f, u') => ∃ u, (act.run known).runIn v = (.error f, u) ∧
        u.calls = editorsOnce u'.calls

theorem saves_pure (a : α) : Saves source (pure a) (pure a) :=
  fun known v _ h => ⟨known, v, rfl, h⟩

theorem saves_attempt (r : Except Fault α) : Saves source (liftM r) (liftM r) := by
  intro known v v' h
  cases r with
  | error f => exact ⟨v, rfl, h.calls⟩
  | ok a => exact ⟨known, v, rfl, h⟩

theorem Saves.bind {act : StateT (Editors ν) (Action (Watched ω)) α} {afresh : Action (Watched ω) α}
    {f : α → StateT (Editors ν) (Action (Watched ω)) β} {g : α → Action (Watched ω) β}
    (h : Saves source act afresh) (hf : ∀ a, Saves source (f a) (g a)) :
    Saves source (act >>= f) (afresh >>= g) := by
  intro known v v' hv
  have hact := h known v v' hv
  rw [runIn_bind]
  simp only [StateT.run_bind, runIn_bind]
  rcases hafresh : afresh.runIn v' with ⟨e | a, u'⟩
  · rw [hafresh] at hact
    obtain ⟨u, hrun, hcalls⟩ := hact
    rw [hrun]
    exact ⟨u, rfl, hcalls⟩
  · rw [hafresh] at hact
    obtain ⟨known', u, hrun, hu⟩ := hact
    rw [hrun]
    exact hf a known' u u' hu

theorem Beside.other {known : Editors ν} {v v' : Watched ω} (h : Beside source known v v')
    {call : Call} (hcall : call.question ≠ .lastEditor) (w w' : ω) :
    Beside source known ⟨w, v.calls ++ [call]⟩ ⟨w', v'.calls ++ [call]⟩ where
  calls := by rw [editorsOnce_other hcall, h.calls]
  asked {title} hmem := by
    refine h.asked ((List.mem_append.mp hmem).resolve_right fun hlast => hcall ?_)
    rw [← List.mem_singleton.mp hlast]
    rfl
  told hknown := ⟨List.mem_append_left _ (h.told hknown).1, (h.told hknown).2⟩

/-- A question about something else than an editor is put by both. -/
theorem saves_other {call : Call} {act : Action ω α} (hcall : call.question ≠ .lastEditor)
    (hact : ∀ w w', (act.runIn w).1 = (act.runIn w').1) :
    Saves source (liftM (noting call act)) (noting call act) := by
  intro known v v' h
  have hbeside := h.other hcall (act.runIn v.world).2 (act.runIn v'.world).2
  rw [runIn_put, runIn_noting, runIn_noting, hact v.world v'.world]
  cases (act.runIn v'.world).1 with
  | error f => exact ⟨_, rfl, hbeside.calls⟩
  | ok a => exact ⟨known, _, rfl, hbeside⟩

theorem Beside.calls_asking {known : Editors ν} {v v' : Watched ω} (h : Beside source known v v')
    {title : String} (hnew : known.lookup title = none) :
    v.calls ++ [.editor title] = editorsOnce (v'.calls ++ [.editor title]) := by
  have hnone : Call.editor title ∉ v'.calls := fun hmem => by
    obtain ⟨name, hname⟩ := h.asked hmem
    rw [hnew] at hname
    cases hname
  rw [editorsOnce_new hnone, h.calls]

theorem Beside.askingAgain {known : Editors ν} {v v' : Watched ω} (h : Beside source known v v')
    {title : String} {name : ν} (hknown : known.lookup title = some name) (w' : ω) :
    Beside source known v ⟨w', v'.calls ++ [.editor title]⟩ where
  calls := by rw [editorsOnce_asked (h.told hknown).1, h.calls]
  asked {other} hmem := by
    refine h.asked ((List.mem_append.mp hmem).elim id fun hlast => ?_)
    rw [List.mem_singleton.mp hlast]
    exact (h.told hknown).1
  told hother := ⟨List.mem_append_left _ (h.told hother).1, (h.told hother).2⟩

theorem Beside.asking {known : Editors ν} {v v' : Watched ω} (h : Beside source known v v')
    {title : String} {name : ν} (hnew : known.lookup title = none)
    (hanswer : ∀ w, ((source.lastEditor title).runIn w).1 = .ok name) (w w' : ω) :
    Beside source ((title, name) :: known) ⟨w, v.calls ++ [.editor title]⟩
      ⟨w', v'.calls ++ [.editor title]⟩ where
  calls := h.calls_asking hnew
  asked {other} hmem := by
    rw [lookup_entry]
    by_cases hsame : other = title
    · exact ⟨name, if_pos hsame⟩
    · rw [if_neg hsame]
      refine h.asked ((List.mem_append.mp hmem).resolve_right fun hlast => hsame ?_)
      exact congrArg Call.argument (List.mem_singleton.mp hlast)
  told {other found} hknown := by
    rw [lookup_entry] at hknown
    split at hknown
    · rename_i hsame
      obtain rfl : other = title := hsame
      obtain rfl : name = found := Option.some.inj hknown
      exact ⟨List.mem_append_right _ (List.mem_singleton_self _), hanswer⟩
    · exact ⟨List.mem_append_left _ (h.told hknown).1, (h.told hknown).2⟩

/-- An editor that is known is not asked for again. -/
theorem saves_editor (h : Steady source) (title : String) :
    Saves source (editor source.watched title) (source.watched.lastEditor title) := by
  intro known v v' hv
  have hafresh : (source.watched.lastEditor title).runIn v' =
      (((source.lastEditor title).runIn v'.world).1,
        ⟨((source.lastEditor title).runIn v'.world).2, v'.calls ++ [.editor title]⟩) := rfl
  rw [hafresh]
  cases hlook : known.lookup title with
  | some name =>
    obtain ⟨hasked, htold⟩ := hv.told hlook
    rw [htold v'.world, run_editor_known hlook]
    exact ⟨known, v, rfl, hv.askingAgain hlook _⟩
  | none =>
    have hrun : Action.runIn ((editor source.watched title).run known) v =
        (((source.lastEditor title).runIn v'.world).1.map fun name =>
            (name, (title, name) :: known),
          ⟨((source.lastEditor title).runIn v.world).2, v.calls ++ [.editor title]⟩) := by
      rw [run_editor_new hlook, runIn_map, h.lastEditor title v'.world v.world]
      rfl
    rw [hrun]
    cases hanswer : ((source.lastEditor title).runIn v'.world).1 with
    | error f => exact ⟨_, rfl, hv.calls_asking hlook⟩
    | ok name =>
      refine ⟨_, _, rfl, hv.asking hlook (fun w => ?_) _ _⟩
      rw [h.lastEditor title w v'.world, hanswer]

/-- With or without the editors remembered, a source is asked the same, apart from editors that were
asked for before. -/
theorem corresponds_forgetful (h : Steady source) :
    (Inquiry.remembering source.watched).Corresponds (Inquiry.forgetful source.watched)
      (Saves source) where
  pure := saves_pure
  bind := Saves.bind
  attempt := saves_attempt
  members category := saves_other nofun (h.categoryMembers category)
  categories title := saves_other nofun (h.categoriesOn title)
  editor := saves_editor h
  isPage title := saves_other nofun (h.pageExists title)

variable [Named ν]

/-- To remember the editors that were asked for changes nothing but how often a source is asked. On
a source of which the answers and errors depend on nothing but what it is asked, a query comes to
the same as when each editor is asked for whenever it is needed; what the source is asked is what it
is asked then, without the editors that are asked for again, and so for none of them twice. -/
theorem evaluate_eq_evaluateForgetfully (h : Steady source) (q : Query ι) (w w' : ω) :
    ∃ (r : Except Fault (List ν)) (asked : List Call) (v v' : ω),
      (evaluate source q).runIn w = (r, v) ∧
      (evaluate source.watched q).runIn ⟨w, []⟩ = (r, ⟨v, editorsOnce asked⟩) ∧
      (evaluateForgetfully source q).runIn w' = (r, v') ∧
      (evaluateForgetfully source.watched q).runIn ⟨w', []⟩ = (r, ⟨v', asked⟩) ∧
      ∀ title, (editorsOnce asked).count (.editor title) ≤ 1 := by
  have hsaves : Saves source (evalCondition source.watched q.mode q.condition)
      ((Inquiry.forgetful source.watched).condition q.mode q.condition) := by
    rw [← Inquiry.condition_remembering]
    exact (corresponds_forgetful h).condition q.condition
  obtain ⟨r, v, asked, v', hremembering, hforgetful⟩ : ∃ r v asked v',
      (evaluate source.watched q).runIn ⟨w, []⟩ = (r, ⟨v, editorsOnce asked⟩) ∧
      (evaluateForgetfully source.watched q).runIn ⟨w', []⟩ = (r, ⟨v', asked⟩) := by
    have hrun := hsaves [] ⟨w, []⟩ ⟨w', []⟩ (beside_nothing w w')
    rw [evaluate, evaluateForgetfully, runIn_bind, runIn_bind]
    rcases hafresh : ((Inquiry.forgetful source.watched).condition q.mode q.condition).runIn
      ⟨w', []⟩ with ⟨f | selection, u'⟩
    · rw [hafresh] at hrun
      obtain ⟨u, hrun, hcalls⟩ := hrun
      rw [hrun]
      exact ⟨.error f, u.world, u'.calls, u'.world, by rw [← hcalls], rfl⟩
    · rw [hafresh] at hrun
      obtain ⟨known, u, hrun, hbeside⟩ := hrun
      rw [hrun]
      refine ⟨arrange q.order (selection.listed q.mode), u.world, u'.calls, u'.world, ?_, rfl⟩
      rw [← hbeside.calls]
      rfl
  have halone := watches_evaluate source q ⟨w, []⟩
  rw [hremembering] at halone
  have hafresh := watches_evaluateForgetfully source q ⟨w', []⟩
  rw [hforgetful] at hafresh
  exact ⟨r, asked, v, v', halone.symm, hremembering, hafresh.symm, hforgetful,
    count_editorsOnce_le asked⟩

end Query

namespace Table

variable {τ α : Type} [Instant τ]

theorem fst_runIn_ask (t : Table τ) (call : Call) (answer : α) (w w' : Session τ) :
    ((t.ask call answer).runIn w).1 = ((t.ask call answer).runIn w').1 := by
  rw [ask]
  cases t.troubleFor call.question call.argument <;> rfl

/-- Tables answer always the same, whatever trouble is laid out in them. -/
theorem steady (t : Table τ) : Query.Steady t.source where
  categoryMembers _ := t.fst_runIn_ask _ _
  categoriesOn _ := t.fst_runIn_ask _ _
  lastEditor _ := t.fst_runIn_ask _ _
  pageExists _ := t.fst_runIn_ask _ _

end Table

namespace Query

/-- The pages of cats, and one of which the editor cannot be told. -/
def catsAndRex : Table ℚ :=
  { catPages with troubles := [⟨.lastEditor, some "Rex", .badValue "no editor"⟩] }

/-- The editors of all of them, and of one cat once more. -/
def editorsOfAll : Query where
  mode := .author
  condition := .or (.leaf .category "Cats") (.or (.leaf .title "Felix") (.leaf .title "Rex"))
  order := none

theorem evaluate_eq_evaluateForgetfully_catsAndRex :
    let asked : List Call := [⟨.categoryMembers, "Category:Cats", none⟩, .editor "Tom",
      .editor "Felix", .editor "Tom", .editor "Felix", .editor "Rex"]
    Steady catsAndRex.source ∧
    editorsOnce asked = [⟨.categoryMembers, "Category:Cats", none⟩, .editor "Tom",
      .editor "Felix", .editor "Rex"] ∧
    ∃ v v' : Session ℚ,
      (evaluate catsAndRex.source editorsOfAll).runIn ⟨0, #[]⟩ =
        (.error (.badValue "no editor"), v) ∧
      (evaluate catsAndRex.source.watched editorsOfAll).runIn ⟨⟨0, #[]⟩, []⟩ =
        (.error (.badValue "no editor"), ⟨v, editorsOnce asked⟩) ∧
      (evaluateForgetfully catsAndRex.source editorsOfAll).runIn ⟨100, #[]⟩ =
        (.error (.badValue "no editor"), v') ∧
      (evaluateForgetfully catsAndRex.source.watched editorsOfAll).runIn ⟨⟨100, #[]⟩, []⟩ =
        (.error (.badValue "no editor"), ⟨v', asked⟩) ∧
      ∀ title, (editorsOnce asked).count (.editor title) ≤ 1 := by
  intro asked
  have hsteady := catsAndRex.steady
  obtain ⟨r, calls, v, v', halone, hwatched, hafresh, hafreshWatched, hcount⟩ :=
    evaluate_eq_evaluateForgetfully hsteady editorsOfAll ⟨0, #[]⟩ ⟨100, #[]⟩
  have hr : r = .error (.badValue "no editor") := (congrArg Prod.fst hafresh).symm.trans rfl
  have hcalls : calls = asked := (congrArg (·.2.calls) hafreshWatched).symm.trans rfl
  subst hr hcalls
  exact ⟨hsteady, by decide, v, v', halone, hwatched, hafresh, hafreshWatched, hcount⟩

end Query

end WikiGateway
