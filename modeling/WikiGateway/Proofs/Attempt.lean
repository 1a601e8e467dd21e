import Mathlib.Data.List.Forall2

/-! Attempts that succeed or fail, made one after the other. -/
namespace WikiGateway.Attempt

variable {ε α β : Type} {g : α → Except ε β} {as : List α} {r : Except ε α} {e : ε}

theorem bind_eq_ok {h : α → Except ε β} {b : β} :
    r >>= h = .ok b ↔ ∃ a, r = .ok a ∧ h a = .ok b := by
  cases r <;> simp [bind, Except.bind]

theorem bind_eq_error {h : α → Except ε β} :
    r >>= h = .error e ↔ r = .error e ∨ ∃ a, r = .ok a ∧ h a = .error e := by
  cases r <;> simp [bind, Except.bind]

theorem exists_bind_eq_ok {h : α → Except ε β} :
    (∃ b, r >>= h = .ok b) ↔ ∃ a, r = .ok a ∧ ∃ b, h a = .ok b := by
  cases r <;> simp [bind, Except.bind]

theorem exists_map_eq_ok (h : α → β) : (∃ b, h <$> r = .ok b) ↔ ∃ a, r = .ok a := by
  cases r <;> simp [Functor.map, Except.map]

theorem map_eq_ok {h : α → β} {b : β} : h <$> r = .ok b ↔ ∃ a, r = .ok a ∧ h a = b := by
  cases r <;> simp [Functor.map, Except.map]

theorem map_eq_error (h : α → β) : h <$> r = .error e ↔ r = .error e := by
  cases r <;> simp [Functor.map, Except.map]

theorem eq_ok_of_toOption {a : α} (h : r.toOption = some a) : r = .ok a := by
  cases r with
  | error e => cases h
  | ok b => rw [Option.some.inj h]

theorem unit_bind_eq_ok {r : Except ε Unit} {h : Unit → Except ε β} {b : β} :
    r >>= h = .ok b ↔ r = .ok () ∧ h () = .ok b := by
  cases r <;> simp [bind, Except.bind]

theorem ite_error_eq_ok {p : Prop} [Decidable p] {a : α} :
    (if p then .error e else r) = .ok a ↔ ¬ p ∧ r = .ok a := by
  by_cases hp : p <;> simp [hp]

theorem ite_throw_eq_ok {p : Prop} [Decidable p] {h : α → Except ε β} {r : Except ε β} {b : β} :
    (if p then throw e >>= h else r) = .ok b ↔ ¬ p ∧ r = .ok b := ite_error_eq_ok

theorem exists_mapM_eq_ok : (∃ bs, as.mapM g = .ok bs) ↔ ∀ a ∈ as, ∃ b, g a = .ok b := by
  induction as with
  | nil => simp [pure, Except.pure]
  | cons a as ih =>
    rw [List.forall_mem_cons, ← ih, List.mapM_cons]
    cases g a with
    | error e => simp [bind, Except.bind]
    | ok b => cases as.mapM g <;> simp [bind, Except.bind, pure, Except.pure]

/-- A row of attempts comes to what each of them comes to. -/
theorem mapM_eq_ok {bs : List β} :
    as.mapM g = .ok bs ↔ List.Forall₂ (fun a b => g a = .ok b) as bs := by
  induction as generalizing bs with
  | nil => simp [pure, Except.pure, eq_comm]
  | cons a as ih =>
    rw [List.mapM_cons, bind_eq_ok]
    constructor
    · rintro ⟨b, hb, hrest⟩
      obtain ⟨bs', hbs', hcons⟩ := bind_eq_ok.mp hrest
      cases hcons
      exact .cons hb (ih.mp hbs')
    · intro h
      cases h with
      | @cons _ b _ bs' hb hrest => exact ⟨b, hb, bind_eq_ok.mpr ⟨bs', ih.mpr hrest, rfl⟩⟩

/-- A row of attempts fails as the first of them that fails. -/
theorem mapM_eq_error : as.mapM g = .error e ↔ ∃ before a after, as = before ++ a :: after ∧
    (∀ b ∈ before, ∃ c, g b = .ok c) ∧ g a = .error e := by
  induction as with
  | nil => simp [pure, Except.pure]
  | cons a as ih =>
    rw [List.mapM_cons]
    constructor
    · intro h
      cases ha : g a with
      | error e' => exact ⟨[], a, as, rfl, by simp, by simpa [ha, bind, Except.bind] using h⟩
      | ok b =>
        have hrest : as.mapM g = .error e := by
          rw [ha] at h
          cases hr : as.mapM g <;> simp_all [bind, Except.bind, pure, Except.pure]
        obtain ⟨before, c, after, rfl, hbefore, hc⟩ := ih.mp hrest
        exact ⟨a :: before, c, after, rfl, List.forall_mem_cons.mpr ⟨⟨b, ha⟩, hbefore⟩, hc⟩
    · rintro ⟨_ | ⟨b, before⟩, c, after, happend, hbefore, hc⟩
      · obtain ⟨rfl, rfl⟩ := List.cons.inj happend
        simp [hc, bind, Except.bind]
      · obtain ⟨rfl, rfl⟩ := List.cons.inj happend
        obtain ⟨⟨x, hx⟩, hbefore⟩ := List.forall_mem_cons.mp hbefore
        have hrest : (before ++ c :: after).mapM g = .error e :=
          ih.mpr ⟨before, c, after, rfl, hbefore, hc⟩
        rw [List.append_eq, hx, hrest]
        rfl

/-- What each of the attempts comes to, told with what it was made on. -/
theorem mapM_pair_eq_ok {answers : List (α × β)} :
    (as.mapM fun a => (a, ·) <$> g a) = .ok answers ↔
      answers.map Prod.fst = as ∧ ∀ p ∈ answers, g p.1 = .ok p.2 := by
  induction as generalizing answers with
  | nil => cases answers <;> simp [pure, Except.pure]
  | cons a as ih =>
    rw [List.mapM_cons]
    constructor
    · intro h
      cases ha : g a with
      | error e =>
        rw [ha] at h
        cases h
      | ok b =>
        cases hr : as.mapM fun a => (a, ·) <$> g a with
        | error e =>
          rw [ha, hr] at h
          cases h
        | ok rest =>
          rw [ha, hr] at h
          obtain rfl : (a, b) :: rest = answers := Except.ok.inj h
          obtain ⟨hfst, hall⟩ := ih.mp hr
          exact ⟨by simp [hfst], List.forall_mem_cons.mpr ⟨ha, hall⟩⟩
    · rintro ⟨hfst, hall⟩
      cases answers with
      | nil => cases hfst
      | cons p answers =>
        obtain ⟨rfl, rfl⟩ := List.cons.inj hfst
        obtain ⟨hp, hrest⟩ := List.forall_mem_cons.mp hall
        rw [hp, ih.mpr ⟨rfl, hrest⟩]
        rfl

end WikiGateway.Attempt
