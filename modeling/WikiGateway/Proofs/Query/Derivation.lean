import WikiGateway.Proofs.Query.Reading

/-!
The parser reads exactly what the grammar derives. Soundness follows the recursion of the parser,
completeness the derivation: the symbols of a tree bring the parser to the loop of its level, with
the tree as what was read so far.
-/
namespace WikiGateway.Query

open WikiGateway.Query.Parser

variable {stop : Nat} {ls front rest : List Lexeme} {ts us : List Symbol} {c d : Condition Empty}
  {k : Keyword}

/-- The symbols of lexemes, without their places. -/
def symbols (ls : List Lexeme) : List Symbol := ls.map Lexeme.symbol

@[simp]
theorem symbols_nil : symbols [] = [] := rfl

@[simp]
theorem symbols_cons (l : Lexeme) (ls : List Lexeme) :
    symbols (l :: ls) = l.symbol :: symbols ls := rfl

@[simp]
theorem symbols_append (ls ms : List Lexeme) :
    symbols (ls ++ ms) = symbols ls ++ symbols ms := List.map_append

theorem exists_symbols_eq (ts : List Symbol) : ∃ ls, symbols ls = ts :=
  ⟨ts.map (⟨·, 0⟩), by simp [symbols, Function.comp_def]⟩

theorem lookup_leafKinds {kind : LeafKind} : leafKinds.lookup k = some kind ↔ k = kind.keyword := by
  cases k <;> cases kind <;> decide

theorem lookup_modes {mode : Mode} : modes.lookup k = some mode ↔ k = mode.keyword := by
  cases k <;> cases mode <;> decide

theorem lookup_orders {order : Order} : orders.lookup k = some order ↔ k = order.keyword := by
  cases k <;> cases order <;> decide

/-- What is skipped may be left out. -/
theorem exists_skip (k : Keyword) (ls : List Lexeme) :
    ∃ front, ls = front ++ skip k ls ∧ IsOptional k (symbols front) := by
  cases ls with
  | nil => exact ⟨[], rfl, .absent⟩
  | cons l ls =>
    by_cases h : l.symbol = .keyword k
    · refine ⟨[l], by simp [skip, h], ?_⟩
      rw [symbols_cons, h]
      exact .present
    · exact ⟨[], by simp [skip, h], .absent⟩

theorem skip_append (h : IsOptional k (symbols front)) (hrest : ¬ Opens (.keyword k) rest) :
    skip k (front ++ rest) = rest := by
  generalize hts : symbols front = ts at h
  cases h with
  | absent =>
    obtain rfl : front = [] := List.map_eq_nil_iff.mp hts
    cases rest with
    | nil => rfl
    | cons l rest => simpa [skip] using hrest
  | present =>
    obtain ⟨l, rfl, hl⟩ := List.map_eq_singleton_iff.mp hts
    simp [skip, hl]

/-- A leaf is read exactly where one stands. -/
theorem gives_leaf_iff :
    Gives (leaf stop ls) c rest ↔
      ∃ kind value p is q, c = .leaf kind value ∧ IsOptional .is_ (symbols is) ∧
        ls = ⟨.keyword kind.keyword, p⟩ :: is ++ ⟨.string value, q⟩ :: rest := by
  rw [gives_leaf]
  simp only [gives_choose, gives_stringLit, lookup_leafKinds]
  constructor
  · rintro ⟨kind, value, mid, rfl, ⟨_, p, rfl, rfl⟩, q, hq⟩
    obtain ⟨is, his, hopt⟩ := exists_skip .is_ mid
    refine ⟨kind, value, p, is, q, rfl, hopt, ?_⟩
    rw [← hq, List.cons_append, ← his]
  · rintro ⟨kind, value, p, is, q, rfl, hopt, rfl⟩
    refine ⟨kind, value, is ++ ⟨.string value, q⟩ :: rest, rfl, ⟨_, p, rfl, rfl⟩, q, ?_⟩
    exact skip_append hopt (by simp)

/-- What the loop over the alternatives has read is joined to what came before. -/
theorem derives_of_gives (stop : Nat) :
    (∀ ls c rest, Gives (Parser.condition stop ls) c rest →
      ∃ front, ls = front ++ rest ∧ Derives .condition (symbols front) c) ∧
    (∀ c ls d rest, Gives (disjuncts stop c ls) d rest →
      ∃ front, ls = front ++ rest ∧
        ∀ ts, Derives .condition ts c → Derives .condition (ts ++ symbols front) d) ∧
    (∀ ls c rest, Gives (conjunction stop ls) c rest →
      ∃ front, ls = front ++ rest ∧ Derives .conjunction (symbols front) c) ∧
    (∀ c ls d rest, Gives (conjuncts stop c ls) d rest →
      ∃ front, ls = front ++ rest ∧
        ∀ ts, Derives .conjunction ts c → Derives .conjunction (ts ++ symbols front) d) ∧
    (∀ ls c rest, Gives (primary stop ls) c rest →
      ∃ front, ls = front ++ rest ∧ Derives .primary (symbols front) c) := by
  apply Parser.condition.mutual_induct
  case case1 =>
    intro ls ihc ihd c rest h
    obtain ⟨d, mid, hd, hc⟩ := gives_condition.mp h
    obtain ⟨front, rfl, hfront⟩ := ihc d mid hd
    obtain ⟨more, rfl, hmore⟩ := ihd d mid hd.choose c rest hc
    exact ⟨front ++ more, by simp, symbols_append .. ▸ hmore _ (.conjunction hfront)⟩
  case case2 =>
    intro c p tail ihc ihd d rest h
    obtain ⟨e, mid, he, hd⟩ := gives_disjuncts_or.mp h
    obtain ⟨front, rfl, hfront⟩ := ihc e mid he
    obtain ⟨more, rfl, hmore⟩ := ihd e mid he.choose d rest hd
    refine ⟨⟨.keyword .or_, p⟩ :: front ++ more, by simp, ?_⟩
    intro ts hts
    simpa using hmore _ (.or hts hfront)
  case case3 =>
    intro c ls hls d rest h
    obtain ⟨rfl, rfl⟩ := (gives_disjuncts_other (not_opens_iff.mpr hls)).mp h
    exact ⟨[], rfl, fun ts hts => by simpa using hts⟩
  case case4 =>
    intro ls ihc ihd c rest h
    obtain ⟨d, mid, hd, hc⟩ := gives_conjunction.mp h
    obtain ⟨front, rfl, hfront⟩ := ihc d mid hd
    obtain ⟨more, rfl, hmore⟩ := ihd d mid hd.choose c rest hc
    exact ⟨front ++ more, by simp, symbols_append .. ▸ hmore _ (.primary hfront)⟩
  case case5 =>
    intro c p tail ihc ihd d rest h
    obtain ⟨e, mid, he, hd⟩ := gives_conjuncts_and.mp h
    obtain ⟨front, rfl, hfront⟩ := ihc e mid he
    obtain ⟨more, rfl, hmore⟩ := ihd e mid he.choose d rest hd
    refine ⟨⟨.keyword .and_, p⟩ :: front ++ more, by simp, ?_⟩
    intro ts hts
    simpa using hmore _ (.and hts hfront)
  case case6 =>
    intro c ls hls d rest h
    obtain ⟨rfl, rfl⟩ := (gives_conjuncts_other (not_opens_iff.mpr hls)).mp h
    exact ⟨[], rfl, fun ts hts => by simpa using hts⟩
  case case7 =>
    intro p tail ih c rest h
    obtain ⟨q, hc⟩ := gives_primary_parens.mp h
    obtain ⟨front, rfl, hfront⟩ := ih c _ hc
    refine ⟨⟨.lparen, p⟩ :: front ++ [⟨.rparen, q⟩], by simp, ?_⟩
    simpa using Derives.parens hfront
  case case8 =>
    intro ls hls c rest h
    rw [gives_primary_leaf (not_opens_iff.mpr hls), gives_leaf_iff] at h
    obtain ⟨kind, value, p, is, q, rfl, his, rfl⟩ := h
    refine ⟨⟨.keyword kind.keyword, p⟩ :: is ++ [⟨.string value, q⟩], by simp, ?_⟩
    simpa using @Derives.leaf _ kind value his

/-- What reading a tree's lexemes comes to, whatever follows them: the loop of the tree's level goes
on from the tree. -/
def LeadsOn (stop : Nat) : Level → List Lexeme → Condition Empty → Prop
  | .condition, front, c => ∀ rest d rest', ¬ Opens (.keyword .and_) rest →
      Gives (disjuncts stop c rest) d rest' → Gives (Parser.condition stop (front ++ rest)) d rest'
  | .conjunction, front, c => ∀ rest d rest',
      Gives (conjuncts stop c rest) d rest' → Gives (conjunction stop (front ++ rest)) d rest'
  | .primary, front, c => ∀ rest, Gives (primary stop (front ++ rest)) c rest

/-- A conjunction that no further factor follows is read whole. -/
theorem LeadsOn.gives_conjunction (h : LeadsOn stop .conjunction front c)
    (hrest : ¬ Opens (.keyword .and_) rest) :
    Gives (conjunction stop (front ++ rest)) c rest :=
  h rest c rest ((gives_conjuncts_other hrest).mpr ⟨rfl, rfl⟩)

/-- A condition that nothing follows that could go on with it is read whole. -/
theorem LeadsOn.gives_condition (h : LeadsOn stop .condition front c)
    (hand : ¬ Opens (.keyword .and_) rest) (hor : ¬ Opens (.keyword .or_) rest) :
    Gives (Parser.condition stop (front ++ rest)) c rest :=
  h rest c rest hand ((gives_disjuncts_other hor).mpr ⟨rfl, rfl⟩)

theorem leadsOn_of_derives {level : Level} (h : Derives level ts c) :
    ∀ front, symbols front = ts → LeadsOn stop level front c := by
  induction h with
  | conjunction _ ih =>
    intro front hfront rest d rest' hand hd
    exact Parser.gives_condition.mpr ⟨_, rest, (ih front hfront).gives_conjunction hand, hd⟩
  | or _ _ ihc ihd =>
    intro front hfront rest d rest' hand hd
    obtain ⟨left, more, rfl, hleft, hmore⟩ := List.map_eq_append_iff.mp hfront
    obtain ⟨⟨s, p⟩, right, rfl, rfl, hright⟩ := List.map_eq_cons_iff.mp hmore
    rw [List.append_assoc]
    refine ihc left hleft _ _ _ (by simp) ?_
    exact gives_disjuncts_or.mpr ⟨_, rest, (ihd right hright).gives_conjunction hand, hd⟩
  | primary _ ih =>
    intro front hfront rest d rest' hd
    exact Parser.gives_conjunction.mpr ⟨_, rest, ih front hfront rest, hd⟩
  | and _ _ ihc ihd =>
    intro front hfront rest d rest' hd
    obtain ⟨left, more, rfl, hleft, hmore⟩ := List.map_eq_append_iff.mp hfront
    obtain ⟨⟨s, p⟩, right, rfl, rfl, hright⟩ := List.map_eq_cons_iff.mp hmore
    rw [List.append_assoc]
    refine ihc left hleft _ _ _ ?_
    exact gives_conjuncts_and.mpr ⟨_, rest, ihd right hright rest, hd⟩
  | parens _ ih =>
    intro front hfront rest
    obtain ⟨⟨s, p⟩, more, rfl, rfl, hmore⟩ := List.map_eq_cons_iff.mp hfront
    obtain ⟨inner, last, rfl, hinner, hlast⟩ := List.map_eq_append_iff.mp hmore
    obtain ⟨⟨s, q⟩, rfl, rfl⟩ := List.map_eq_singleton_iff.mp hlast
    have hgives : Gives (Parser.condition stop (inner ++ ⟨.rparen, q⟩ :: rest)) _
        (⟨.rparen, q⟩ :: rest) := (ih inner hinner).gives_condition (by simp) (by simp)
    rw [List.append_cons] at hgives
    exact gives_primary_parens.mpr ⟨q, hgives⟩
  | @leaf is kind value his =>
    intro front hfront rest
    obtain ⟨⟨s, p⟩, more, rfl, rfl, hmore⟩ := List.map_eq_cons_iff.mp hfront
    obtain ⟨middle, last, rfl, rfl, hlast⟩ := List.map_eq_append_iff.mp hmore
    obtain ⟨⟨s, q⟩, rfl, rfl⟩ := List.map_eq_singleton_iff.mp hlast
    rw [gives_primary_leaf (by simp), gives_leaf_iff]
    exact ⟨kind, value, p, middle, q, rfl, his, by simp⟩

theorem gives_condition_iff (hand : ¬ Opens (.keyword .and_) rest)
    (hor : ¬ Opens (.keyword .or_) rest) :
    Gives (Parser.condition stop (front ++ rest)) c rest ↔
      Derives .condition (symbols front) c := by
  constructor
  · intro h
    obtain ⟨front', he, hderives⟩ := (derives_of_gives stop).1 _ _ _ h
    rwa [List.append_cancel_right he]
  · intro h
    exact (leadsOn_of_derives h front rfl).gives_condition hand hor

theorem gives_orders {o : Order} :
    Gives (choose stop orders ls) o [] ↔ symbols ls = [.keyword o.keyword] := by
  simp only [gives_choose, lookup_orders, symbols, List.map_eq_singleton_iff]
  constructor
  · rintro ⟨_, p, rfl, rfl⟩
    exact ⟨_, rfl, rfl⟩
  · rintro ⟨⟨s, p⟩, rfl, rfl⟩
    exact ⟨_, p, rfl, rfl⟩

theorem derivesOrder_of_orderClause {order : Option Order}
    (h : orderClause stop ls = .ok (order, [])) : DerivesOrder (symbols ls) order := by
  unfold orderClause at h
  split at h
  · rename_i p tail
    rcases hc : choose stop orders tail with e | ⟨o, rest, hr⟩
    · simp [hc, bind, Except.bind] at h
    · obtain ⟨rfl, rfl⟩ : some o = order ∧ rest = [] := by
        simpa [hc, bind, Except.bind, pure, Except.pure] using h
      have hsorted : symbols (⟨.keyword .sorted, p⟩ :: tail) =
          [.keyword .sorted] ++ [.keyword o.keyword] := by
        rw [symbols_cons, gives_orders.mp ⟨hr, hc⟩, List.singleton_append]
      exact hsorted ▸ .sorted .present
  · split at h
    · rename_i o rest hc
      obtain ⟨rfl, hrest⟩ : some o = order ∧ rest.val = [] := by simpa using h
      obtain ⟨rest, hr⟩ := rest
      obtain rfl : rest = [] := hrest
      have hchosen : choose stop orders ls = .ok (o, ⟨[], hr⟩) := choose?_eq_some.mp hc
      have hplain : symbols ls = [] ++ [.keyword o.keyword] := gives_orders.mp ⟨hr, hchosen⟩
      exact hplain ▸ .sorted .absent
    · obtain ⟨rfl, rfl⟩ : none = order ∧ ls = [] := by simpa using h
      exact .unsorted

theorem orderClause_of_derivesOrder {order : Option Order} (h : DerivesOrder (symbols ls) order) :
    orderClause stop ls = .ok (order, []) := by
  generalize hts : symbols ls = ts at h
  cases h with
  | unsorted =>
    obtain rfl : ls = [] := List.map_eq_nil_iff.mp hts
    rfl
  | @sorted us o hopt =>
    obtain ⟨front, last, rfl, hfront, hlast⟩ := List.map_eq_append_iff.mp hts
    obtain ⟨⟨s, p⟩, rfl, rfl⟩ := List.map_eq_singleton_iff.mp hlast
    cases hopt with
    | absent =>
      obtain rfl : front = [] := List.map_eq_nil_iff.mp hfront
      cases o <;> rfl
    | present =>
      obtain ⟨⟨s, q⟩, rfl, rfl⟩ := List.map_eq_singleton_iff.mp hfront
      cases o <;> rfl

theorem not_opens_of_derivesOrder {order : Option Order} (h : DerivesOrder (symbols ls) order)
    (hasc : ∀ o : Order, k ≠ o.keyword) (hsorted : k ≠ .sorted) : ¬ Opens (.keyword k) ls := by
  cases ls with
  | nil => simp
  | cons l ls =>
    rw [opens_cons]
    rw [symbols_cons] at h
    generalize hts : l.symbol :: symbols ls = ts at h
    cases h with
    | unsorted => cases hts
    | @sorted us o hopt =>
      cases hopt with
      | absent =>
        have hl : l.symbol = .keyword o.keyword := by simp_all
        simpa [hl] using (hasc o).symm
      | present =>
        have hl : l.symbol = .keyword .sorted := by simp_all
        simpa [hl] using hsorted.symm

/-- The parser reads exactly the queries that the grammar derives. -/
theorem query_eq_ok_iff {q : Query} :
    Parser.query stop ls = .ok q ↔ DerivesQuery (symbols ls) q := by
  rw [query_eq_ok]
  simp only [gives_choose, lookup_modes]
  constructor
  · rintro ⟨_, afterWhere, afterCondition, ⟨_, p, hmode, rfl⟩, ⟨k, p', rfl, hk⟩, hcond, horder⟩
    obtain rfl : k = .where_ := by cases k <;> first | rfl | cases hk
    obtain ⟨get, hget, hopt⟩ := exists_skip .get ls
    obtain ⟨front, rfl, hfront⟩ := (derives_of_gives stop).1 _ _ _ hcond
    have hquery := @DerivesQuery.query _ _ _ q.mode _ _ hopt hfront
      (derivesOrder_of_orderClause horder)
    rw [hget, hmode]
    simpa using hquery
  · intro h
    generalize hts : symbols ls = ts at h
    cases h with
    | @query get us vs mode c order hopt hcond horder =>
      obtain ⟨body, tail, rfl, hbody, rfl⟩ := List.map_eq_append_iff.mp hts
      obtain ⟨front, more, rfl, rfl, hmore⟩ := List.map_eq_append_iff.mp hbody
      obtain ⟨⟨s, p⟩, rest, rfl, rfl, hrest⟩ := List.map_eq_cons_iff.mp hmore
      obtain ⟨⟨s, p'⟩, middle, rfl, rfl, rfl⟩ := List.map_eq_cons_iff.mp hrest
      have hand := not_opens_of_derivesOrder (k := .and_) horder (by intro o; cases o <;> decide)
        (by decide)
      have hor := not_opens_of_derivesOrder (k := .or_) horder (by intro o; cases o <;> decide)
        (by decide)
      refine ⟨⟨.keyword .where_, p'⟩ :: middle ++ tail, middle ++ tail, tail, ⟨_, p, ?_, rfl⟩,
        ⟨_, p', rfl, rfl⟩, (gives_condition_iff hand hor).mpr hcond,
        orderClause_of_derivesOrder horder⟩
      rw [List.append_assoc]
      refine skip_append hopt ?_
      cases mode <;> simp [Mode.keyword]

end WikiGateway.Query
