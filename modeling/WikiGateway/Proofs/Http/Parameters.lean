import WikiGateway.Http.Message
import WikiGateway.Proofs.Attempt

/-! How the parts of a request are read, and what comes of those that cannot be. -/
namespace WikiGateway

namespace Limits

variable {s field : String}

/-- A text is not blank and not too long. -/
def IsFilled (s : String) : Prop := (∃ c ∈ s.toList, isBlank c = false) ∧ s.length ≤ 500

/-- A text may be asked for. -/
def TextSuits (s : String) : Prop :=
  IsFilled s ∧ '\x00' ∉ s.toList ∧ '\n' ∉ s.toList ∧ '\r' ∉ s.toList

/-- A title may be asked for. -/
def TitleSuits (s : String) : Prop := TextSuits s ∧ '|' ∉ s.toList

theorem isBlankText_eq_false : isBlankText s = false ↔ ∃ c ∈ s.toList, isBlank c = false := by
  simp [isBlankText]

instance : DecidablePred IsFilled := fun _ =>
  decidable_of_iff _ (and_congr_left' isBlankText_eq_false)

instance : DecidablePred TextSuits := fun _ => inferInstanceAs (Decidable (_ ∧ _))

instance : DecidablePred TitleSuits := fun _ => inferInstanceAs (Decidable (_ ∧ _))

theorem any_isControl_eq_false : s.toList.any isControl = false ↔
    '\x00' ∉ s.toList ∧ '\n' ∉ s.toList ∧ '\r' ∉ s.toList := by
  simp only [List.any_eq_false, isControl, Bool.or_eq_true, beq_iff_eq, not_or]
  constructor
  · intro h
    exact ⟨fun hmem => (h _ hmem).1.1 rfl, fun hmem => (h _ hmem).1.2 rfl,
      fun hmem => (h _ hmem).2 rfl⟩
  · rintro ⟨hzero, hfeed, hreturn⟩ c hc
    exact ⟨⟨fun h => hzero (h ▸ hc), fun h => hfeed (h ▸ hc)⟩, fun h => hreturn (h ▸ hc)⟩

theorem checkText_eq_ok : checkText field (some s) = .ok () ↔ TextSuits s := by
  rw [TextSuits, IsFilled, ← isBlankText_eq_false, ← any_isControl_eq_false]
  simp [checkText, Attempt.ite_error_eq_ok, maxText, and_assoc]

theorem checkTitle_eq_ok : checkTitle field (some s) = .ok () ↔ TitleSuits s := by
  rw [checkTitle, Attempt.unit_bind_eq_ok, checkText_eq_ok, TitleSuits]
  by_cases hseparator : '|' ∈ s.toList
  · simp [titleSeparator, hseparator, throw, throwThe, MonadExceptOf.throw]
  · simp [titleSeparator, hseparator, pure, Except.pure]

theorem checkRange_eq_ok {most n : Int} :
    checkRange field most n = .ok () ↔ 0 ≤ n ∧ n ≤ most := by
  simp [checkRange]

end Limits

namespace Validated

variable {α β γ : Type}

theorem map_eq_valid {f : α → β} {x : Validated α} {b : β} :
    f <$> x = .valid b ↔ ∃ a, x = .valid a ∧ f a = b := by
  cases x <;> simp [Functor.map, apply]

theorem map₂_eq_valid {f : α → β → γ} {x : Validated α} {y : Validated β} {c : γ} :
    f <$> x <*> y = .valid c ↔ ∃ a b, x = .valid a ∧ y = .valid b ∧ f a b = c := by
  cases x <;> cases y <;> simp [Functor.map, Seq.seq, apply]

theorem under_eq_valid {name : String} {x : Validated α} {a : α} :
    x.under name = .valid a ↔ x = .valid a := by
  cases x <;> simp [under]

theorem ofExcept_eq_valid {path : List String} {r : Except Defect α} {a : α} :
    ofExcept path r = .valid a ↔ r = .ok a := by
  cases r <;> simp [ofExcept]

end Validated

namespace Json

theorem isFinite_member {members : List (String × Json)} {name : String} {v : Json}
    (h : memberFinite members = true) (hv : members.lookup name = some v) : v.isFinite = true := by
  induction members with
  | nil => cases hv
  | cons m members ih =>
    obtain ⟨hm, hrest⟩ := Bool.and_eq_true_iff.mp h
    rw [List.lookup_cons] at hv
    split at hv
    · cases hv
      exact hm
    · exact ih hrest hv

end Json

namespace Http

/-- A response that blames the request: its status is 400, or 422 where the form is wrong. -/
def Response.Refuses (response : Response) : Prop :=
  (∃ body, response = .answer 400 body) ∨ ∃ ps, response = .rejected ps

/-- A number that JSON lacks is in the body of a request. -/
def Request.HasOddNumber (r : Request) : Prop :=
  ∃ body, r.content = .ok (some body) ∧ body.isFinite = false

/-- A request is turned away. -/
def Request.TurnedAway (r : Request) (response : Response) : Prop :=
  response.Refuses ∨ r.HasOddNumber ∧ response = .stopped Response.unwritable

namespace Request

variable {r : Request} {name s : String} {n : Int} {default : Int}

/-- The whole number that a parameter holds, or the default if it is not there. -/
def number? (r : Request) (name : String) (default : Int) : Option Int :=
  (r.param? name).elim (some default) fun s => (Json.readWhole (.str s)).toOption

/-- The query in the body of a request. -/
def queryText? (r : Request) : Option String :=
  match (Encoding.decode? r.body).map Json.read with
  | some (.ok (.obj members)) =>
    match members.lookup "query" with
    | some (.str q) => some q
    | _ => none
  | _ => none

theorem text_eq_valid : r.text name = .valid s ↔ r.param? name = some s := by
  rw [text, Validated.under_eq_valid, Validated.ofExcept_eq_valid]
  cases r.param? name <;> simp

theorem whole_eq_valid : r.whole name default = .valid n ↔ r.number? name default = some n := by
  rw [whole, number?]
  cases r.param? name with
  | none => simp
  | some s =>
    simp only [Validated.under_eq_valid, Validated.ofExcept_eq_valid, Option.elim_some]
    cases Json.readWhole (.str s) <;> simp [Except.toOption]

theorem isFinite_valueAt (path : List String) {v : Json} (h : v.isFinite = true) :
    (valueAt path v).isFinite = true := by
  induction path generalizing v with
  | nil => exact h
  | cons name path ih =>
    rw [valueAt]
    split
    · rename_i member hmember
      refine ih ?_
      cases v with
      | obj members => exact Json.isFinite_member h hmember
      | _ => cases hmember
    · exact h

theorem reject_ne_ok {α : Type} {body : Json} {ps : List Problem} {a : α} :
    (reject body ps : Except Response α) ≠ .ok a := by
  rw [reject]
  split <;> rintro ⟨⟩

theorem content_eq_ok_some {body : Json} : r.content = .ok (some body) ↔
    (Encoding.decode? r.body).map Json.read = some (.ok body) := by
  rw [content]
  split
  · rename_i hempty
    have hnone : (Encoding.decode? []).map Json.read = some (.error .syntaxError) := rfl
    rw [List.isEmpty_iff.mp hempty, hnone]
    simp
  · split
    · rename_i v hread
      simp [hread]
    · rename_i hread
      simp [hread, reject_ne_ok]
    · rename_i e hread
      simp [hread]
    · rename_i hread
      simp [hread]

end Request

namespace QueryForm

theorem readQuery_eq_ok {v : Json} {q : String} :
    readQuery v = .ok q ↔ v = .str q ∧ Limits.IsFilled q := by
  cases v with
  | str s =>
    have hread : readQuery (.str s) = .ok q ↔ ¬ s.isEmpty = true ∧ ¬ Limits.maxText < s.length ∧
        ¬ isBlankText s = true ∧ s = q := by
      simp only [readQuery, Json.readText, Attempt.bind_eq_ok, Except.ok.injEq, exists_eq_left',
        Attempt.ite_throw_eq_ok]
      simp [pure, Except.pure]
    rw [hread, Json.str.injEq, Limits.IsFilled, ← Limits.isBlankText_eq_false]
    constructor
    · rintro ⟨-, hlong, hblank, rfl⟩
      exact ⟨rfl, by simpa using hblank, by simpa [Limits.maxText] using hlong⟩
    · rintro ⟨rfl, hblank, hlong⟩
      refine ⟨fun hempty => ?_, by simpa [Limits.maxText] using hlong, by simpa using hblank, rfl⟩
      simp [String.isEmpty_iff.mp hempty, isBlankText_empty] at hblank
  | _ => simp [readQuery, Json.readText, bind, Except.bind]

theorem read_eq_valid {members : Members} {form : QueryForm} : read members = .valid form ↔
    members.lookup "query" = some (.str form.query) ∧ Limits.IsFilled form.query := by
  rw [read, Validated.map_eq_valid]
  simp only [Json.required, Validated.ofExcept_eq_valid]
  cases members.lookup "query" with
  | none => simp
  | some v =>
    simp only [readQuery_eq_ok]
    constructor
    · rintro ⟨q, ⟨rfl, hq⟩, rfl⟩
      exact ⟨rfl, hq⟩
    · rintro ⟨hv, hq⟩
      exact ⟨form.query, ⟨Option.some.inj hv, hq⟩, rfl⟩

end QueryForm

namespace Request

variable {r : Request} {response : Response}

theorem queryText?_eq_some {q : String} : r.queryText? = some q ↔
    ∃ members, r.content = .ok (some (.obj members)) ∧ members.lookup "query" = some (.str q) := by
  simp only [content_eq_ok_some]
  rw [queryText?]
  split
  · rename_i members hread
    have hquery : (match members.lookup "query" with
        | some (.str q) => some q
        | _ => none) = some q ↔ members.lookup "query" = some (.str q) := by
      cases members.lookup "query" with
      | none => simp
      | some v => cases v <;> simp
    rw [hquery, hread]
    simp
  · rename_i hread
    constructor
    · rintro ⟨⟩
    · rintro ⟨members, hmembers, -⟩
      exact absurd hmembers (hread members)

theorem model_eq_ok {body : Option Json} {form : QueryForm} :
    model body QueryForm.read = .ok form ↔ ∃ members, body = some (.obj members) ∧
      members.lookup "query" = some (.str form.query) ∧ Limits.IsFilled form.query := by
  unfold model
  split
  · simp [reject_ne_ok]
  · rename_i members
    have hform : QueryForm.read members = .valid form ↔ _ := QueryForm.read_eq_valid
    cases hread : QueryForm.read members with
    | valid form' => simp_all
    | invalid ps => simp_all [reject_ne_ok]
  · rename_i body hbody
    refine iff_of_false reject_ne_ok ?_
    rintro ⟨members, hmembers, -⟩
    exact hbody members (Option.some.inj hmembers)

theorem reject_eq_error {α : Type} {body : Json} {ps : List Problem}
    (h : (reject body ps : Except Response α) = .error response) :
    response.Refuses ∨ body.isFinite = false ∧ response = .stopped Response.unwritable := by
  rw [reject] at h
  split at h
  · cases h
    exact Or.inl (Or.inr ⟨_, rfl⟩)
  · rename_i hodd
    cases h
    refine Or.inr ⟨Bool.eq_false_iff.mpr fun hfinite => hodd ?_, rfl⟩
    exact List.all_eq_true.mpr fun p _ => isFinite_valueAt p.path hfinite

theorem refuses_of_content (h : r.content = .error response) : response.Refuses := by
  rw [content] at h
  split at h
  · cases h
  · split at h
    · cases h
    · obtain hrefuses | ⟨hnull, -⟩ := reject_eq_error h
      · exact hrefuses
      · cases hnull
    · cases h
      exact Or.inl ⟨_, rfl⟩
    · cases h
      exact Or.inl ⟨_, rfl⟩

theorem model_eq_error {α : Type} {body : Option Json} {read : Members → Validated α}
    (hbody : r.content = .ok body) (h : model body read = .error response) :
    r.TurnedAway response := by
  unfold model at h
  split at h
  · obtain hrefuses | ⟨hnull, -⟩ := reject_eq_error h
    · exact Or.inl hrefuses
    · cases hnull
  · split at h
    · cases h
    · exact (reject_eq_error h).imp_right fun ⟨hodd, hstopped⟩ => ⟨⟨_, hbody, hodd⟩, hstopped⟩
  · exact (reject_eq_error h).imp_right fun ⟨hodd, hstopped⟩ => ⟨⟨_, hbody, hodd⟩, hstopped⟩

end Request

end Http

end WikiGateway
