import WikiGateway.Proofs.Query.Acceptance
import WikiGateway.Proofs.Query.Places
import WikiGateway.Proofs.Query.Regrouping

/-!
Symbols that make no difference to a query. Some words can be left out wherever they stand and put
in at certain places, and parentheses can stand around any part of a condition.
-/
namespace WikiGateway.Query

variable {ts us before mid after front back : List Symbol} {c : Condition Empty} {q q' : Query}
  {k : Keyword} {s : Symbol} {level inner : Level} {around : Surrounding} {σ τ υ : Place}

/-- Words that a query can do without. -/
def Keyword.isOptional : Keyword → Bool
  | .get | .is_ | .sorted => true
  | _ => false

def Symbol.isEssential : Symbol → Bool
  | .keyword k => !k.isOptional
  | _ => true

/-- Symbols without the words that a query can do without. -/
def essentials (ts : List Symbol) : List Symbol := ts.filter Symbol.isEssential

@[simp]
theorem essentials_nil : essentials [] = [] := rfl

@[simp]
theorem essentials_append : essentials (ts ++ us) = essentials ts ++ essentials us :=
  List.filter_append ts us

theorem essentials_cons (h : s.isEssential = true) : essentials (s :: ts) = s :: essentials ts :=
  List.filter_cons_of_pos h

theorem essentials_cons_of_isOptional (h : k.isOptional = true) :
    essentials (.keyword k :: ts) = essentials ts :=
  List.filter_cons_of_neg (by simp [Symbol.isEssential, h])

theorem isEssential_mode (mode : Mode) : (Symbol.keyword mode.keyword).isEssential = true := by
  cases mode <;> rfl

theorem isEssential_leafKind (kind : LeafKind) :
    (Symbol.keyword kind.keyword).isEssential = true := by
  cases kind <;> rfl

theorem isEssential_order (order : Order) : (Symbol.keyword order.keyword).isEssential = true := by
  cases order <;> rfl

theorem IsOptional.essentials_eq (h : IsOptional k ts) (hk : k.isOptional = true) :
    essentials ts = [] := by
  cases h with
  | absent => rfl
  | present => rw [essentials_cons_of_isOptional hk, essentials_nil]

theorem derives_essentials (h : Derives level ts c) : Derives level (essentials ts) c := by
  induction h with
  | conjunction _ ih => exact .conjunction ih
  | or _ _ ihc ihd =>
    rw [essentials_append, essentials_cons rfl]
    exact .or ihc ihd
  | primary _ ih => exact .primary ih
  | and _ _ ihc ihd =>
    rw [essentials_append, essentials_cons rfl]
    exact .and ihc ihd
  | parens _ ih =>
    rw [essentials_append, essentials_cons rfl]
    exact .parens ih
  | leaf his =>
    rw [essentials_append, essentials_cons (isEssential_leafKind _), his.essentials_eq rfl]
    exact .leaf .absent

theorem derivesOrder_essentials {order : Option Order} (h : DerivesOrder ts order) :
    DerivesOrder (essentials ts) order := by
  cases h with
  | unsorted => exact .unsorted
  | sorted hsorted =>
    rw [essentials_append, hsorted.essentials_eq rfl, essentials_cons (isEssential_order _)]
    exact .sorted .absent

/-- A query stays as it is where every word that it can do without is left out. -/
theorem derivesQuery_essentials (h : DerivesQuery ts q) : DerivesQuery (essentials ts) q := by
  cases h with
  | query hget hc horder =>
    rw [essentials_append, essentials_append, hget.essentials_eq rfl,
      essentials_cons (isEssential_mode _), essentials_cons rfl]
    exact .query .absent (derives_essentials hc) (derivesOrder_essentials horder)

/-- Queries that differ in such words only are the same. -/
theorem DerivesQuery.eq_of_essentials_eq (h : DerivesQuery ts q) (h' : DerivesQuery us q')
    (he : essentials ts = essentials us) : q = q' :=
  (derivesQuery_essentials h).unique (he ▸ derivesQuery_essentials h')

/-- Where a word may be put into a query: at its start before what it lists, between what a leaf
speaks of and its value, and before the order if it is not there yet. -/
inductive Admits : Keyword → List Symbol → List Symbol → Prop
  | get {mode : Mode} {us : List Symbol} : Admits .get [] (.keyword mode.keyword :: us)
  | is_ {ts us : List Symbol} {kind : LeafKind} {value : String} :
      Admits .is_ (ts ++ [.keyword kind.keyword]) (.string value :: us)
  | sorted {ts : List Symbol} {order : Order} : ts.getLast? ≠ some (.keyword .sorted) →
      Admits .sorted ts [.keyword order.keyword]

namespace Place

/-- The steps from place to place. -/
inductive Step : Place → Symbol → Place → Prop
  | get : Step start (.keyword .get) mode
  | start {m : Mode} : Step start (.keyword m.keyword) filter
  | mode {m : Mode} : Step mode (.keyword m.keyword) filter
  | where_ : Step filter (.keyword .where_) (operand 0)
  | lparen {depth : Nat} : Step (operand depth) .lparen (operand (depth + 1))
  | kind {depth : Nat} {kind : LeafKind} :
      Step (operand depth) (.keyword kind.keyword) (is_ depth)
  | is_ {depth : Nat} : Step (is_ depth) (.keyword .is_) (value depth)
  | string {depth : Nat} {v : String} : Step (is_ depth) (.string v) (join depth)
  | value {depth : Nat} {v : String} : Step (value depth) (.string v) (join depth)
  | and_ {depth : Nat} : Step (join depth) (.keyword .and_) (operand depth)
  | or_ {depth : Nat} : Step (join depth) (.keyword .or_) (operand depth)
  | rparen {depth : Nat} : Step (join (depth + 1)) .rparen (join depth)
  | sorted : Step (join 0) (.keyword .sorted) order
  | unsorted {o : Order} : Step (join 0) (.keyword o.keyword) done
  | order {o : Order} : Step order (.keyword o.keyword) done

/-- What was chosen from a table is one of its keywords. -/
theorem exists_chosen {α : Type} {table : List (Keyword × α)} {key : α → Keyword}
    (hkey : ∀ k a, table.lookup k = some a → k = key a)
    (h : ((chosen? table s).map fun _ => σ) = some τ) : ∃ a, s = .keyword (key a) ∧ σ = τ := by
  obtain ⟨a, ha, rfl⟩ := Option.map_eq_some_iff.mp h
  cases s with
  | keyword k => exact ⟨a, by rw [hkey k a ha], rfl⟩
  | _ => cases ha

theorem step_of_next (h : σ.next s = some τ) : Step σ s τ := by
  have hwhere (k : Keyword) (u : Unit) (hk : [(Keyword.where_, ())].lookup k = some u) :
      k = .where_ := by
    cases k <;> first | rfl | cases hk
  unfold next at h
  split at h
  -- A place names its symbols one by one or takes those of a table.
  all_goals first
    | cases h <;> constructor
    | obtain ⟨_, rfl, rfl⟩ := exists_chosen (fun _ _ => lookup_modes.mp) h; constructor
    | obtain ⟨_, rfl, rfl⟩ := exists_chosen (fun _ _ => lookup_leafKinds.mp) h; constructor
    | obtain ⟨_, rfl, rfl⟩ := exists_chosen (fun _ _ => lookup_orders.mp) h; constructor
    | obtain ⟨_, rfl, rfl⟩ := exists_chosen hwhere h; constructor

/-- A word that can be left out leads from its place only there. -/
theorem step_optional (hk : k.isOptional = true) (h : Step σ (.keyword k) τ) :
    (k = .get ∧ σ = start ∧ τ = mode) ∨
      (k = .is_ ∧ ∃ depth, σ = is_ depth ∧ τ = value depth) ∨
      (k = .sorted ∧ σ = join 0 ∧ τ = order) := by
  generalize hs : Symbol.keyword k = s at h
  cases h with
  | get => exact .inl ⟨by simpa using hs, rfl, rfl⟩
  | is_ => exact .inr (.inl ⟨by simpa using hs, _, rfl, rfl⟩)
  | sorted => exact .inr (.inr ⟨by simpa using hs, rfl, rfl⟩)
  | @start m | @mode m =>
    obtain rfl : k = m.keyword := by simpa using hs
    cases m <;> cases hk
  | @kind _ kind =>
    obtain rfl : k = kind.keyword := by simpa using hs
    cases kind <;> cases hk
  | @unsorted o | @order o =>
    obtain rfl : k = o.keyword := by simpa using hs
    cases o <;> cases hk
  | where_ | and_ | or_ =>
    obtain rfl := by simpa using hs
    cases hk
  | lparen | string | value | rparen => cases hs

/-- Symbols that finish a query from a place. -/
def Finishes (σ : Place) (ts : List Symbol) : Prop := ∃ τ, σ.run ts = some τ ∧ τ.ends = true

theorem finishes_append : σ.Finishes (ts ++ us) ↔ ∃ τ, σ.run ts = some τ ∧ τ.Finishes us := by
  simp only [Finishes, run_append, Option.bind_eq_some_iff]
  constructor
  · rintro ⟨υ, ⟨τ, hτ, hυ⟩, hends⟩
    exact ⟨τ, hτ, υ, hυ, hends⟩
  · rintro ⟨τ, hτ, υ, hυ, hends⟩
    exact ⟨υ, ⟨τ, hτ, hυ⟩, hends⟩

theorem finishes_cons : σ.Finishes (s :: ts) ↔ ∃ τ, σ.next s = some τ ∧ τ.Finishes ts := by
  have h : σ.run [s] = σ.next s := by simp
  rw [← List.singleton_append, finishes_append, h]

theorem Finishes.exists_step (h : σ.Finishes ts) (hσ : σ.ends = false) :
    ∃ s us τ, ts = s :: us ∧ Step σ s τ ∧ τ.Finishes us := by
  cases ts with
  | nil =>
    obtain ⟨_, ⟨rfl⟩, hends⟩ := h
    rw [hσ] at hends
    cases hends
  | cons s us =>
    obtain ⟨τ, hτ, hus⟩ := finishes_cons.mp h
    exact ⟨s, us, τ, rfl, step_of_next hτ, hus⟩

theorem Finishes.eq_nil (h : done.Finishes ts) : ts = [] := by
  cases ts with
  | nil => rfl
  | cons s us =>
    obtain ⟨τ, hτ, -⟩ := finishes_cons.mp h
    cases step_of_next hτ

/-- What comes after a word that can be left out can come in its place. -/
theorem Finishes.skip (hk : k.isOptional = true) (h : σ.Finishes (.keyword k :: us)) :
    σ.Finishes us := by
  obtain ⟨τ, hτ, hus⟩ := finishes_cons.mp h
  rcases step_optional hk (step_of_next hτ) with
    ⟨-, rfl, rfl⟩ | ⟨-, depth, rfl, rfl⟩ | ⟨-, rfl, rfl⟩
  · obtain ⟨_, more, υ, rfl, hstep, hmore⟩ := hus.exists_step rfl
    cases hstep with
    | @mode m => exact finishes_cons.mpr ⟨filter, by cases m <;> rfl, hmore⟩
  · obtain ⟨_, more, υ, rfl, hstep, hmore⟩ := hus.exists_step rfl
    cases hstep with
    | value => exact finishes_cons.mpr ⟨join depth, rfl, hmore⟩
  · obtain ⟨_, more, υ, rfl, hstep, hmore⟩ := hus.exists_step rfl
    cases hstep with
    | @order o => exact finishes_cons.mpr ⟨done, by cases o <;> rfl, hmore⟩

theorem exists_step_of_run (h : σ.run (ts ++ [s]) = some τ) : ∃ ρ, Step ρ s τ := by
  obtain ⟨ρ, -, hs⟩ := Option.bind_eq_some_iff.mp (run_append ▸ h)
  exact ⟨ρ, step_of_next (by simpa using hs)⟩

theorem eq_nil_of_run (h : start.run ts = some start) : ts = [] := by
  rcases List.eq_nil_or_concat' ts with rfl | ⟨before, s, rfl⟩
  · rfl
  · obtain ⟨σ, hs⟩ := exists_step_of_run h
    cases hs

/-- The last of the symbols that lead from the start to another place. -/
theorem exists_last (h : start.run ts = some τ) (hτ : τ ≠ start) :
    ∃ before s σ, ts = before ++ [s] ∧ Step σ s τ := by
  rcases List.eq_nil_or_concat' ts with rfl | ⟨before, s, rfl⟩
  · exact absurd (Option.some.inj h).symm hτ
  · obtain ⟨σ, hs⟩ := exists_step_of_run h
    exact ⟨before, s, σ, rfl, hs⟩

theorem step_order {o : Order} (h : Step σ (.keyword o.keyword) τ) :
    (σ = join 0 ∨ σ = order) ∧ τ = done := by
  generalize hs : Symbol.keyword o.keyword = s at h
  cases h with
  | unsorted => exact ⟨.inl rfl, rfl⟩
  | order => exact ⟨.inr rfl, rfl⟩
  | @start m | @mode m => cases o <;> cases m <;> cases hs
  | @kind _ kind => cases o <;> cases kind <;> cases hs
  | _ => cases o <;> cases hs

end Place

open Place

theorem DerivesQuery.finishes (h : DerivesQuery ts q) : start.Finishes ts := accepts_iff.mpr ⟨q, h⟩

/-- A word that a query can do without makes no difference where it stands. -/
theorem derivesQuery_of_optional (hk : k.isOptional = true)
    (h : DerivesQuery (ts ++ .keyword k :: us) q) : DerivesQuery (ts ++ us) q := by
  obtain ⟨σ, hσ, hrest⟩ := finishes_append.mp h.finishes
  have hfinishes : start.Finishes (ts ++ us) := finishes_append.mpr ⟨σ, hσ, hrest.skip hk⟩
  obtain ⟨q', hq'⟩ := accepts_iff.mp hfinishes
  rwa [h.eq_of_essentials_eq hq' (by simp [essentials_cons_of_isOptional hk])]

theorem Admits.isOptional (h : Admits k ts us) : k.isOptional = true := by cases h <;> rfl

theorem Admits.finishes (h : Admits k ts us) (hfinishes : start.Finishes (ts ++ us)) :
    start.Finishes (ts ++ .keyword k :: us) := by
  obtain ⟨σ, hσ, hus⟩ := finishes_append.mp hfinishes
  obtain ⟨s, us, rfl⟩ : ∃ s us', us = s :: us' := by cases h <;> exact ⟨_, _, rfl⟩
  obtain ⟨τ, hτ, hmore⟩ := finishes_cons.mp hus
  -- After the word the next symbol leads where it has led without it.
  suffices h : ∃ ρ, σ.next (.keyword k) = some ρ ∧ ρ.next s = some τ by
    obtain ⟨ρ, hρ, hs⟩ := h
    exact finishes_append.mpr ⟨σ, hσ, finishes_cons.mpr ⟨ρ, hρ, finishes_cons.mpr ⟨τ, hs, hmore⟩⟩⟩
  cases h with
  | @get m =>
    obtain rfl : start = σ := Option.some.inj hσ
    exact ⟨.mode, rfl, by cases m <;> exact hτ⟩
  | @is_ before _ kind value =>
    cases step_of_next hτ with
    | @string depth => exact ⟨.value depth, rfl, rfl⟩
    | value =>
      obtain ⟨ρ, hkind⟩ := exists_step_of_run hσ
      generalize hs : Symbol.keyword kind.keyword = s at hkind
      cases hkind
      cases kind <;> cases hs
  | @sorted _ o hlast =>
    obtain ⟨rfl | rfl, rfl⟩ := step_order (step_of_next hτ)
    · exact ⟨.order, rfl, by cases o <;> rfl⟩
    · obtain ⟨before, _, _, rfl, ⟨⟩⟩ := exists_last hσ (by simp)
      simp at hlast

theorem admits_of_finishes (hk : k.isOptional = true)
    (h : start.Finishes (ts ++ .keyword k :: us)) : Admits k ts us := by
  obtain ⟨σ, hσ, hrest⟩ := finishes_append.mp h
  obtain ⟨τ, hτ, hus⟩ := finishes_cons.mp hrest
  rcases step_optional hk (step_of_next hτ) with
    ⟨rfl, rfl, rfl⟩ | ⟨rfl, depth, rfl, rfl⟩ | ⟨rfl, rfl, rfl⟩
  · obtain ⟨_, more, υ, rfl, ⟨⟩, -⟩ := hus.exists_step rfl
    exact eq_nil_of_run hσ ▸ .get
  · obtain ⟨before, _, _, rfl, ⟨⟩⟩ := exists_last hσ (by simp)
    obtain ⟨_, more, υ, rfl, ⟨⟩, -⟩ := hus.exists_step rfl
    exact .is_
  · obtain ⟨_, more, υ, rfl, ⟨⟩, hmore⟩ := hus.exists_step rfl
    rw [hmore.eq_nil]
    refine .sorted fun hlast => ?_
    obtain ⟨before, rfl⟩ := List.getLast?_eq_some_iff.mp hlast
    obtain ⟨ρ, hsorted⟩ := exists_step_of_run hσ
    generalize hs : Symbol.keyword .sorted = s at hsorted
    cases hsorted with
    | string | value | rparen => cases hs

/-- A word that can be left out can be put into a query at its places and nowhere else, and there it
makes no difference. -/
theorem derivesQuery_optional_iff (hk : k.isOptional = true) (h : DerivesQuery (ts ++ us) q) :
    DerivesQuery (ts ++ .keyword k :: us) q' ↔ q' = q ∧ Admits k ts us := by
  have he : essentials (ts ++ .keyword k :: us) = essentials (ts ++ us) := by
    simp [essentials_cons_of_isOptional hk]
  constructor
  · intro h'
    exact ⟨h'.eq_of_essentials_eq h he, admits_of_finishes hk h'.finishes⟩
  · rintro ⟨rfl, hadmits⟩
    obtain ⟨q', h'⟩ := accepts_iff.mp (hadmits.finishes h.finishes)
    exact h'.eq_of_essentials_eq h he ▸ h'

theorem Derives.of_primary (h : Derives .primary ts c) : Derives level ts c := by
  cases level with
  | condition => exact .conjunction (.primary h)
  | conjunction => exact .primary h
  | primary => exact h

theorem Derives.to_condition (h : Derives level ts c) : Derives .condition ts c := by
  cases level with
  | condition => exact h
  | conjunction => exact .conjunction h
  | primary => exact h.of_primary

/-- In parentheses a condition can stand wherever it stands without them. -/
theorem Derives.enclosed (h : Derives level ts c) :
    Derives level (.lparen :: ts ++ [.rparen]) c :=
  .of_primary (.parens h.to_condition)

/-- The symbols before and after a part of a condition, which is the part that is left open in
`around`. It stands at the level `inner`. -/
inductive Frames : Level → Surrounding → List Symbol → Level → List Symbol → Prop
  | hole {level : Level} : Frames level .hole [] level []
  | conjunction {around : Surrounding} {front back : List Symbol} {inner : Level} :
      Frames .conjunction around front inner back → Frames .condition around front inner back
  | orLeft {around : Surrounding} {front back us : List Symbol} {inner : Level}
      {d : Condition Empty} :
      Frames .condition around front inner back → Derives .conjunction us d →
      Frames .condition (.orLeft around d) front inner (back ++ .keyword .or_ :: us)
  | orRight {around : Surrounding} {front back ts : List Symbol} {inner : Level}
      {c : Condition Empty} :
      Derives .condition ts c → Frames .conjunction around front inner back →
      Frames .condition (.orRight c around) (ts ++ .keyword .or_ :: front) inner back
  | primary {around : Surrounding} {front back : List Symbol} {inner : Level} :
      Frames .primary around front inner back → Frames .conjunction around front inner back
  | andLeft {around : Surrounding} {front back us : List Symbol} {inner : Level}
      {d : Condition Empty} :
      Frames .conjunction around front inner back → Derives .primary us d →
      Frames .conjunction (.andLeft around d) front inner (back ++ .keyword .and_ :: us)
  | andRight {around : Surrounding} {front back ts : List Symbol} {inner : Level}
      {c : Condition Empty} :
      Derives .conjunction ts c → Frames .primary around front inner back →
      Frames .conjunction (.andRight c around) (ts ++ .keyword .and_ :: front) inner back
  | parens {around : Surrounding} {front back : List Symbol} {inner : Level} :
      Frames .condition around front inner back →
      Frames .primary around (.lparen :: front) inner (back ++ [.rparen])

/-- A part can be exchanged for another of its level. -/
theorem Frames.derives (h : Frames level around front inner back) (hc : Derives inner ts c) :
    Derives level (front ++ ts ++ back) (around.fill c) := by
  induction h with
  | hole => simpa [Surrounding.fill] using hc
  | conjunction _ ih => exact .conjunction (ih hc)
  | orLeft _ hd ih => simpa [Surrounding.fill] using Derives.or (ih hc) hd
  | orRight hd _ ih => simpa [Surrounding.fill] using Derives.or hd (ih hc)
  | primary _ ih => exact .primary (ih hc)
  | andLeft _ hd ih => simpa [Surrounding.fill] using Derives.and (ih hc) hd
  | andRight hd _ ih => simpa [Surrounding.fill] using Derives.and hd (ih hc)
  | parens _ ih => simpa using Derives.parens (ih hc)

/-- Every part of a condition that is derived stands between some of its symbols. -/
theorem Derives.exists_frames (h : Derives level ts (around.fill c)) :
    ∃ front mid back inner, ts = front ++ mid ++ back ∧
      Frames level around front inner back ∧ Derives inner mid c := by
  -- A rule that leaves the tree as it is leaves the open place as well; a join moves it inwards.
  generalize hd : around.fill c = d at h
  induction h generalizing around with
  | @conjunction ts _ hts ih =>
    obtain ⟨front, mid, back, inner, rfl, hframes, hmid⟩ := ih hd
    exact ⟨front, mid, back, inner, rfl, .conjunction hframes, hmid⟩
  | @or ts us l r hl hr ihl ihr =>
    cases around with
    | hole =>
      obtain rfl : c = .or l r := hd
      exact ⟨[], _, [], .condition, by simp, .hole, .or hl hr⟩
    | orLeft around right =>
      obtain ⟨hfill, rfl⟩ := Condition.or.inj hd
      obtain ⟨front, mid, back, inner, rfl, hframes, hmid⟩ := ihl hfill
      exact ⟨front, mid, _, inner, by simp, .orLeft hframes hr, hmid⟩
    | orRight left around =>
      obtain ⟨rfl, hfill⟩ := Condition.or.inj hd
      obtain ⟨front, mid, back, inner, rfl, hframes, hmid⟩ := ihr hfill
      exact ⟨_, mid, back, inner, by simp, .orRight hl hframes, hmid⟩
    | andLeft | andRight => cases hd
  | @primary ts _ hts ih =>
    obtain ⟨front, mid, back, inner, rfl, hframes, hmid⟩ := ih hd
    exact ⟨front, mid, back, inner, rfl, .primary hframes, hmid⟩
  | @and ts us l r hl hr ihl ihr =>
    cases around with
    | hole =>
      obtain rfl : c = .and l r := hd
      exact ⟨[], _, [], .conjunction, by simp, .hole, .and hl hr⟩
    | andLeft around right =>
      obtain ⟨hfill, rfl⟩ := Condition.and.inj hd
      obtain ⟨front, mid, back, inner, rfl, hframes, hmid⟩ := ihl hfill
      exact ⟨front, mid, _, inner, by simp, .andLeft hframes hr, hmid⟩
    | andRight left around =>
      obtain ⟨rfl, hfill⟩ := Condition.and.inj hd
      obtain ⟨front, mid, back, inner, rfl, hframes, hmid⟩ := ihr hfill
      exact ⟨_, mid, back, inner, by simp, .andRight hl hframes, hmid⟩
    | orLeft | orRight => cases hd
  | @parens ts _ hts ih =>
    obtain ⟨front, mid, back, inner, rfl, hframes, hmid⟩ := ih hd
    exact ⟨_, mid, _, inner, by simp, .parens hframes, hmid⟩
  | @leaf is kind value his =>
    cases around with
    | hole =>
      obtain rfl := hd
      exact ⟨[], _, [], .primary, by simp, .hole, .leaf his⟩
    | _ => cases hd

/-- Symbols of a part of a query's condition, with those before and after them. -/
inductive IsPart : List Symbol → List Symbol → List Symbol → Prop
  | part {get front ts back us : List Symbol} {mode : Mode} {around : Surrounding} {inner : Level}
      {c : Condition Empty} {order : Option Order} :
      IsOptional .get get → Frames .condition around front inner back → Derives inner ts c →
      DerivesOrder us order →
      IsPart (get ++ .keyword mode.keyword :: .keyword .where_ :: front) ts (back ++ us)

/-- Every part of a query's condition stands somewhere among its symbols. -/
theorem DerivesQuery.exists_isPart (h : DerivesQuery ts q) (hc : q.condition = around.fill c) :
    ∃ before mid after, ts = before ++ mid ++ after ∧ IsPart before mid after ∧
      Derives .condition mid c := by
  cases h with
  | @query get _ us mode _ order hget hcond horder =>
    obtain rfl := hc
    obtain ⟨front, mid, back, inner, rfl, hframes, hmid⟩ := hcond.exists_frames
    have hpart := @IsPart.part _ _ _ _ _ mode _ _ _ _ hget hframes hmid horder
    exact ⟨_, mid, _, by simp, hpart, hmid.to_condition⟩

/-- Parentheses around a part of the condition make no difference. -/
theorem IsPart.derivesQuery_enclosed (h : IsPart before mid after)
    (hq : DerivesQuery (before ++ mid ++ after) q) :
    DerivesQuery (before ++ (.lparen :: mid ++ [.rparen]) ++ after) q := by
  cases h with
  | @part get front _ back us mode around inner c order hget hframes hmid horder =>
    have hplain : DerivesQuery _ ⟨mode, around.fill c, order⟩ :=
      .query hget (hframes.derives hmid) horder
    have henclosed : DerivesQuery _ ⟨mode, around.fill c, order⟩ :=
      .query hget (hframes.derives hmid.enclosed) horder
    obtain rfl : ⟨mode, around.fill c, order⟩ = q := hplain.unique (by simpa using hq)
    simpa using henclosed

end WikiGateway.Query
