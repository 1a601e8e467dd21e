import WikiGateway.Failure

/-! What an action comes to in a given world. -/
namespace WikiGateway.Action

variable {ω α β : Type}

/-- The answer of an action begun in a world, or what stopped it, and the world after it. -/
def runIn (act : Action ω α) (w : ω) : Except Fault α × ω := act.run.run w

@[simp]
theorem runIn_pure (a : α) (w : ω) : (pure a : Action ω α).runIn w = (.ok a, w) := rfl

@[simp]
theorem runIn_throw (e : Fault) (w : ω) : (throw e : Action ω α).runIn w = (.error e, w) := rfl

@[simp]
theorem runIn_get (w : ω) : (get : Action ω ω).runIn w = (.ok w, w) := rfl

@[simp]
theorem runIn_getThe (w : ω) : (getThe ω : Action ω ω).runIn w = (.ok w, w) := rfl

@[simp]
theorem runIn_set (v w : ω) : (set v : Action ω PUnit).runIn w = (.ok ⟨⟩, v) := rfl

/-- A pure answer leaves the world alone. -/
@[simp]
theorem runIn_lift (r : Except Fault α) (w : ω) : (liftM r : Action ω α).runIn w = (r, w) := rfl

theorem runIn_bind (act : Action ω α) (f : α → Action ω β) (w : ω) :
    (act >>= f).runIn w =
      match act.runIn w with
      | (.ok a, w') => (f a).runIn w'
      | (.error e, w') => (.error e, w') := by
  simp only [runIn, ExceptT.run_bind, StateT.run_bind]
  rcases act.run.run w with ⟨_ | _, _⟩ <;> rfl

@[simp]
theorem runIn_map (g : α → β) (act : Action ω α) (w : ω) :
    (g <$> act).runIn w = ((act.runIn w).1.map g, (act.runIn w).2) := by
  rw [map_eq_pure_bind, runIn_bind]
  rcases act.runIn w with ⟨_ | _, _⟩ <;> rfl

/-- What handles a fault goes on in the world that the fault left behind. -/
theorem runIn_tryCatch (act : Action ω α) (handle : Fault → Action ω α) (w : ω) :
    (tryCatch act handle).runIn w =
      match act.runIn w with
      | (.ok a, w') => (.ok a, w')
      | (.error e, w') => (handle e).runIn w' := by
  have hrun : (tryCatch act handle : Action ω α).run = (ExceptT.tryCatch act handle).run := rfl
  unfold runIn
  rw [hrun]
  simp only [ExceptT.tryCatch, ExceptT.run, ExceptT.mk, StateT.run_bind]
  rcases StateT.run act w with ⟨_ | _, _⟩ <;> rfl

/-- Actions of which the answers do not depend on the world answer in a row as each does alone. -/
theorem runIn_mapM {g : α → Action ω β}
    (h : ∀ a w w', ((g a).runIn w).1 = ((g a).runIn w').1) (as : List α) (w : ω) :
    ((as.mapM g).runIn w).1 = as.mapM fun a => ((g a).runIn w).1 := by
  induction as generalizing w with
  | nil => rfl
  | cons a as ih =>
    rw [List.mapM_cons, List.mapM_cons, runIn_bind]
    rcases ha : (g a).runIn w with ⟨e | b, w'⟩
    · rfl
    · have hrest : (as.mapM fun a => ((g a).runIn w).1) = as.mapM fun a => ((g a).runIn w').1 := by
        simp only [h _ w w']
      simp only [runIn_bind, hrest, ← ih]
      rcases (as.mapM g).runIn w' with ⟨_ | _, _⟩ <;> rfl

theorem runIn_onPart {σ : Type} (part : σ → ω) (replace : ω → σ → σ) (act : Action ω α) (s : σ) :
    (act.onPart part replace).runIn s =
      ((act.runIn (part s)).1, replace (act.runIn (part s)).2 s) := rfl

/-- Begun where `P` holds, an action answers and leaves behind what `Q` says, or it is stopped where
`R` holds. -/
def Leads (P : ω → Prop) (act : Action ω α) (Q : α → ω → Prop) (R : ω → Prop) : Prop :=
  ∀ w, P w → match act.runIn w with
    | (.ok a, v) => Q a v
    | (.error _, v) => R v

variable {P R : ω → Prop} {Q : α → ω → Prop} {act : Action ω α}

theorem leads_pure {a : α} (h : ∀ w, P w → Q a w) : Leads P (pure a) Q R := h

theorem leads_throw {f : Fault} (h : ∀ w, P w → R w) : Leads P (throw f) Q R := h

theorem Leads.bind {f : α → Action ω β} {Q' : β → ω → Prop} (h : Leads P act Q R)
    (hf : ∀ a, Leads (Q a) (f a) Q' R) : Leads P (act >>= f) Q' R := by
  intro w hw
  have hact := h w hw
  rw [runIn_bind]
  rcases hrun : act.runIn w with ⟨e | a, v⟩
  · rw [hrun] at hact
    exact hact
  · rw [hrun] at hact
    exact hf a v hact

theorem Leads.tryCatch {handle : Fault → Action ω α} {R' : ω → Prop} (h : Leads P act Q R')
    (hhandle : ∀ f, Leads R' (handle f) Q R) : Leads P (tryCatch act handle) Q R := by
  intro w hw
  have hact := h w hw
  rw [runIn_tryCatch]
  rcases hrun : act.runIn w with ⟨f | a, v⟩
  · rw [hrun] at hact
    exact hhandle f v hact
  · rw [hrun] at hact
    exact hact

/-- Whatever an action comes to, it leaves a property of the world true. -/
def Keeps (P : ω → Prop) (act : Action ω α) : Prop := ∀ w, P w → P (act.runIn w).2

theorem keeps_pure (a : α) : Keeps P (pure a : Action ω α) := fun _ h => h

theorem keeps_throw (f : Fault) : Keeps P (throw f : Action ω α) := fun _ h => h

theorem keeps_get : Keeps P (get : Action ω ω) := fun _ h => h

theorem keeps_getThe : Keeps P (getThe ω : Action ω ω) := fun _ h => h

theorem keeps_lift (r : Except Fault α) : Keeps P (liftM r : Action ω α) := fun _ h => h

theorem Leads.keeps (h : Leads P act Q P) (hQ : ∀ a w, Q a w → P w) : Keeps P act := by
  intro w hw
  have hact := h w hw
  rcases hrun : act.runIn w with ⟨f | a, v⟩
  · rw [hrun] at hact
    exact hact
  · rw [hrun] at hact
    exact hQ a v hact

theorem Keeps.leads (h : Keeps P act) : Leads P act (fun _ => P) P := by
  intro w hw
  have hact := h w hw
  rcases hrun : act.runIn w with ⟨f | a, v⟩ <;>
  · rw [hrun] at hact
    exact hact

theorem Keeps.bind {f : α → Action ω β} (h : Keeps P act) (hf : ∀ a, Keeps P (f a)) :
    Keeps P (act >>= f) :=
  (h.leads.bind fun a => (hf a).leads).keeps fun _ _ hw => hw

theorem Keeps.tryCatch {handle : Fault → Action ω α} (h : Keeps P act)
    (hhandle : ∀ f, Keeps P (handle f)) : Keeps P (tryCatch act handle) :=
  (h.leads.tryCatch fun f => (hhandle f).leads).keeps fun _ _ hw => hw

theorem Keeps.map (h : Keeps P act) (g : α → β) : Keeps P (g <$> act) := by
  intro w hw
  rw [runIn_map]
  exact h w hw

/-- What is kept at each turn of a loop is kept by the loop. -/
theorem keeps_forIn {γ : Type} {as : List γ} {b : β} {f : γ → β → Action ω (ForInStep β)}
    (h : ∀ a ∈ as, ∀ b, Keeps P (f a b)) : Keeps P (forIn as b f) := by
  induction as generalizing b with
  | nil =>
    rw [List.forIn_nil]
    exact keeps_pure b
  | cons a as ih =>
    rw [List.forIn_cons]
    refine (h a List.mem_cons_self b).bind fun step => ?_
    cases step with
    | done b' => exact keeps_pure b'
    | yield b' => exact ih fun a' ha' => h a' (List.mem_cons_of_mem _ ha')

end WikiGateway.Action
