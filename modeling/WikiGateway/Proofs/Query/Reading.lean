import Mathlib.Tactic.Simproc.ExistsAndEq
import WikiGateway.Proofs.Query.Grammar

/-! What each function of the parser reads, as a relation between lexemes, tree and rest. -/
namespace WikiGateway.Query.Parser

variable {α : Type} {n stop p : Nat} {ls rest tail : List Lexeme} {c d : Condition Empty}

/-- The first lexeme has the symbol `t`. -/
def Opens (t : Symbol) (ls : List Lexeme) : Prop := ls.head?.map Lexeme.symbol = some t

@[simp]
theorem opens_cons {t : Symbol} {l : Lexeme} : Opens t (l :: ls) ↔ l.symbol = t := by
  simp [Opens]

@[simp]
theorem not_opens_nil {t : Symbol} : ¬ Opens t [] := by simp [Opens]

theorem not_opens_iff {t : Symbol} : ¬ Opens t ls ↔ ∀ p tail, ls ≠ ⟨t, p⟩ :: tail := by
  rcases ls with _ | ⟨⟨s, p⟩, tail⟩
  · simp
  · simp only [opens_cons, ne_eq, List.cons.injEq, Lexeme.mk.injEq]
    exact ⟨fun h _ _ he => h he.1.1, fun h he => h p tail ⟨⟨he, rfl⟩, rfl⟩⟩

/-- An answer that is `a` and leaves `rest`. -/
def Gives (r : Except SyntaxError (α × Fewer n)) (a : α) (rest : List Lexeme) : Prop :=
  ∃ h, r = .ok (a, ⟨rest, h⟩)

theorem gives_ok {a b : α} {f : Fewer n} :
    Gives (.ok (a, f)) b rest ↔ b = a ∧ rest = f.val := by
  obtain ⟨ls, h⟩ := f
  constructor
  · rintro ⟨h', he⟩
    cases he
    exact ⟨rfl, rfl⟩
  · rintro ⟨rfl, rfl⟩
    exact ⟨h, rfl⟩

theorem not_gives_error {e : SyntaxError} {a : α} :
    ¬ Gives (.error e : Except SyntaxError (α × Fewer n)) a rest := by
  rintro ⟨_, he⟩
  cases he

theorem not_gives_refuse {what : List String} {a : α} :
    ¬ Gives (refuse stop what ls : Except SyntaxError (α × Fewer n)) a rest := by
  cases ls <;> exact not_gives_error

/-- What is made of an answer does not depend on the bound that goes with it. -/
theorem gives_map {β : Type} {m : Nat} (r : Except SyntaxError (α × Fewer m)) (g : α → β)
    (hm : ∀ rest : List Lexeme, rest.length < m → rest.length < n) {b : β} :
    Gives (do
      let (a, ⟨rest, h⟩) ← r
      return (g a, ⟨rest, hm rest h⟩) : Except SyntaxError (β × Fewer n)) b rest ↔
      ∃ a, b = g a ∧ Gives r a rest := by
  rcases r with e | ⟨a, mid, h⟩
  · refine iff_of_false not_gives_error ?_
    rintro ⟨_, -, hr⟩
    exact not_gives_error hr
  · refine (gives_ok (f := ⟨mid, hm mid h⟩)).trans ?_
    simp [gives_ok]

/-- One function reads on where another has stopped. -/
theorem gives_then {β : Type} {m : Nat} {k : List Lexeme → Nat}
    (r : Except SyntaxError (α × Fewer m))
    (f : (a : α) → (mid : List Lexeme) → Except SyntaxError (β × Fewer (k mid)))
    (hk : ∀ mid rest, mid.length < m → rest.length < k mid → rest.length < n) {b : β} :
    Gives (do
      let (a, ⟨mid, h⟩) ← r
      let (b, ⟨rest, h'⟩) ← f a mid
      return (b, ⟨rest, hk mid rest h h'⟩) : Except SyntaxError (β × Fewer n)) b rest ↔
      ∃ a mid, Gives r a mid ∧ Gives (f a mid) b rest := by
  rcases r with e | ⟨a, mid, h⟩
  · refine iff_of_false not_gives_error ?_
    rintro ⟨_, _, hr, -⟩
    exact not_gives_error hr
  · refine (gives_map (f a mid) id (hk mid · h)).trans ?_
    simp [gives_ok]

theorem gives_condition :
    Gives (condition stop ls) c rest ↔
      ∃ d mid, Gives (conjunction stop ls) d mid ∧ Gives (disjuncts stop d mid) c rest := by
  rw [condition]
  exact gives_then (conjunction stop ls) (fun d mid => disjuncts stop d mid) (by omega)

theorem gives_disjuncts_or :
    Gives (disjuncts stop c (⟨.keyword .or_, p⟩ :: tail)) d rest ↔
      ∃ e mid, Gives (conjunction stop tail) e mid ∧
        Gives (disjuncts stop (.or c e) mid) d rest := by
  rw [disjuncts]
  exact gives_then (conjunction stop tail) (fun e mid => disjuncts stop (.or c e) mid)
    (by simp only [List.length_cons]; omega)

theorem gives_disjuncts_other (h : ¬ Opens (.keyword .or_) ls) :
    Gives (disjuncts stop c ls) d rest ↔ d = c ∧ rest = ls := by
  rw [disjuncts]
  · exact gives_ok
  · exact not_opens_iff.mp h

theorem gives_conjunction :
    Gives (conjunction stop ls) c rest ↔
      ∃ d mid, Gives (primary stop ls) d mid ∧ Gives (conjuncts stop d mid) c rest := by
  rw [conjunction]
  exact gives_then (primary stop ls) (fun d mid => conjuncts stop d mid) (by omega)

theorem gives_conjuncts_and :
    Gives (conjuncts stop c (⟨.keyword .and_, p⟩ :: tail)) d rest ↔
      ∃ e mid, Gives (primary stop tail) e mid ∧
        Gives (conjuncts stop (.and c e) mid) d rest := by
  rw [conjuncts]
  exact gives_then (primary stop tail) (fun e mid => conjuncts stop (.and c e) mid)
    (by simp only [List.length_cons]; omega)

theorem gives_conjuncts_other (h : ¬ Opens (.keyword .and_) ls) :
    Gives (conjuncts stop c ls) d rest ↔ d = c ∧ rest = ls := by
  rw [conjuncts]
  · exact gives_ok
  · exact not_opens_iff.mp h

theorem gives_primary_parens :
    Gives (primary stop (⟨.lparen, p⟩ :: tail)) c rest ↔
      ∃ p', Gives (condition stop tail) c (⟨.rparen, p'⟩ :: rest) := by
  rw [primary]
  generalize condition stop tail = r
  rcases r with e | ⟨a, mid, h⟩
  · refine iff_of_false not_gives_error ?_
    rintro ⟨_, hr⟩
    exact not_gives_error hr
  · simp only [gives_ok]
    rcases mid with _ | ⟨⟨_ | _ | _ | _, q⟩, mid⟩
    case ok.cons.rparen =>
      refine Iff.trans (gives_ok (f := ⟨mid, _⟩)) ?_
      simp
    all_goals
      refine iff_of_false not_gives_error ?_
      simp

theorem gives_primary_leaf (h : ¬ Opens .lparen ls) :
    Gives (primary stop ls) c rest ↔ Gives (leaf stop ls) c rest := by
  rw [primary]
  exact not_opens_iff.mp h

theorem gives_choose {table : List (Keyword × α)} {a : α} :
    Gives (choose stop table ls) a rest ↔
      ∃ k p, ls = ⟨.keyword k, p⟩ :: rest ∧ table.lookup k = some a := by
  rcases ls with _ | ⟨⟨_ | _ | _ | k, p⟩, tail⟩
  case cons.keyword =>
    cases hk : table.lookup k with
    | none =>
      simp only [choose, choose?, hk, Option.map_none]
      refine iff_of_false not_gives_refuse ?_
      rintro ⟨k', p', he, hk'⟩
      obtain ⟨⟨rfl, rfl⟩, rfl⟩ := by simpa using he
      simp [hk] at hk'
    | some b =>
      simp only [choose, choose?, hk, Option.map_some]
      refine Iff.trans (gives_ok (f := ⟨tail, _⟩)) ?_
      constructor
      · rintro ⟨rfl, rfl⟩
        exact ⟨k, p, rfl, hk⟩
      · rintro ⟨k', p', he, hk'⟩
        obtain ⟨⟨rfl, rfl⟩, rfl⟩ := by simpa using he
        exact ⟨by simpa [hk] using hk'.symm, rfl⟩
  all_goals
    refine iff_of_false not_gives_error ?_
    simp

theorem gives_stringLit {v : String} :
    Gives (stringLit stop ls) v rest ↔ ∃ p, ls = ⟨.string v, p⟩ :: rest := by
  rcases ls with _ | ⟨⟨_ | _ | w | _, p⟩, tail⟩
  case cons.string =>
    refine Iff.trans (gives_ok (f := ⟨tail, _⟩)) ?_
    simp [eq_comm]
  all_goals
    refine iff_of_false not_gives_error ?_
    simp

theorem gives_leaf :
    Gives (leaf stop ls) c rest ↔ ∃ kind value mid, c = .leaf kind value ∧
      Gives (choose stop leafKinds ls) kind mid ∧
      Gives (stringLit stop (skip .is_ mid)) value rest := by
  rw [leaf]
  generalize choose stop leafKinds ls = r
  rcases r with e | ⟨kind, mid, h⟩
  · refine iff_of_false not_gives_error ?_
    rintro ⟨_, _, _, -, hr, -⟩
    exact not_gives_error hr
  · refine (gives_map (stringLit stop (skip .is_ mid)) (Condition.leaf kind)
      fun rest h' => by have := length_skip_le .is_ mid; omega).trans ?_
    simp [gives_ok]

theorem choose?_eq_some {table : List (Keyword × α)} {a : α} {f : Fewer ls.length} :
    choose? table ls = some (a, f) ↔ choose stop table ls = .ok (a, f) := by
  rw [choose]
  cases choose? table ls with
  | none => cases ls <;> simp [refuse]
  | some r => simp

/-- A query is read part by part, and nothing may be left. -/
theorem query_eq_ok {q : Query} :
    query stop ls = .ok q ↔ ∃ afterMode afterWhere afterCondition,
      Gives (choose stop modes (skip .get ls)) q.mode afterMode ∧
      Gives (choose stop [(Keyword.where_, ())] afterMode) () afterWhere ∧
      Gives (condition stop afterWhere) q.condition afterCondition ∧
      orderClause stop afterCondition = .ok (q.order, []) := by
  constructor
  · intro h
    simp only [query] at h
    rcases hmode : choose stop modes (skip .get ls) with e | ⟨mode, afterMode, hm⟩
    · simp [hmode, bind, Except.bind] at h
    simp only [hmode, bind, Except.bind] at h
    rcases hwhere : choose stop [(Keyword.where_, ())] afterMode with e | ⟨u, afterWhere, hw⟩
    · simp [hwhere] at h
    simp only [hwhere] at h
    rcases hcond : condition stop afterWhere with e | ⟨c, afterCondition, hc⟩
    · simp [hcond] at h
    simp only [hcond] at h
    rcases horder : orderClause stop afterCondition with e | ⟨order, _ | ⟨l, rest⟩⟩
    · simp [horder] at h
    · simp only [horder] at h
      cases h
      exact ⟨afterMode, afterWhere, afterCondition, ⟨hm, rfl⟩, ⟨hw, hwhere⟩, ⟨hc, hcond⟩, horder⟩
    · simp [horder, refuse] at h
  · rintro ⟨afterMode, afterWhere, afterCondition, ⟨_, hmode⟩, ⟨_, hwhere⟩, ⟨_, hcond⟩, horder⟩
    simp [query, hmode, hwhere, hcond, horder, bind, Except.bind, pure, Except.pure]

end WikiGateway.Query.Parser
