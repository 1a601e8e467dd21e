import WikiGateway.Proofs.Query.Cursor
import WikiGateway.Proofs.Query.Refusal

/-!
Reading by an index comes to what the parser makes of the lexemes: the index always stands at one of
the tokens, as the last of them is never stepped over, and fuel does not run out, as each turn of a
loop and each parenthesis has taken a token of its own.
-/
namespace WikiGateway.Query

open WikiGateway.Action

/-- The token where lexemes start of which the last ends at `stop`. -/
def current (stop : Nat) : List Lexeme → Token
  | [] => ⟨none, stop⟩
  | l :: _ => ⟨some l.symbol, l.position⟩

theorem Symbol.kind_ne_eof (s : Symbol) : s.kind ≠ "eof" := by
  cases s <;> simp [kind]

namespace Cursor

/-- The tokens from `i` on are those of the lexemes and the end of the text. -/
def Stands (tokens : List Token) (stop i : Nat) (ls : List Lexeme) : Prop :=
  tokens.drop i = tokensOf ls ++ [⟨none, stop⟩]

/-- Begun where some lexemes are left, an action comes to an answer and to where the rest of them is
left, or to an error; the cursor goes a way in either case. -/
def Ends {α : Type} (tokens : List Token) (stop : Nat) (ls : List Lexeme) (act : Action Cursor α) :
    Except SyntaxError (α × List Lexeme) → Prop
  | .ok (a, rest) => ∀ i trail, Stands tokens stop i ls → ∃ j new,
      act.runIn ⟨i, trail⟩ = (.ok a, ⟨j, trail ++ new⟩) ∧ Way tokens i j new ∧
        Stands tokens stop j rest
  | .error e => ∀ i trail, Stands tokens stop i ls → ∃ j new,
      act.runIn ⟨i, trail⟩ = (.error (.failure e.failure), ⟨j, trail ++ new⟩) ∧ Way tokens i j new

/-- An action reads what a function of the parser reads. -/
abbrev Follows {α : Type} {n : Nat} (tokens : List Token) (stop : Nat) (ls : List Lexeme)
    (act : Action Cursor α) (r : Except SyntaxError (α × Parser.Fewer n)) : Prop :=
  Ends tokens stop ls act (r.map fun c => (c.1, c.2.val))

variable {α β γ δ : Type} {tokens : List Token} {stop i m n fuel : Nat} {ls mid rest : List Lexeme}
  {l : Lexeme} {act : Action Cursor α} {f : α → Action Cursor β} {a : α} {b : β} {e : SyntaxError}

theorem Stands.getElem? (h : Stands tokens stop i ls) : tokens[i]? = some (current stop ls) := by
  rw [← List.head?_drop, h]
  cases ls <;> rfl

theorem Stands.tail (h : Stands tokens stop i (l :: ls)) : Stands tokens stop (i + 1) ls := by
  rw [Stands, ← List.tail_drop, h]
  rfl

theorem Stands.length (h : Stands tokens stop i ls) : i + ls.length + 1 = tokens.length := by
  have hlength := congrArg List.length h
  simp only [List.length_drop, List.length_append, tokensOf, List.length_map,
    List.length_singleton] at hlength
  omega

theorem Stands.lt (h : Stands tokens stop i ls) : i < tokens.length := by
  have := h.length
  omega

theorem ends_pure (a : α) : Ends tokens stop ls (pure a) (.ok (a, ls)) :=
  fun i trail hi => ⟨i, [], by simp, .nil hi.lt, hi⟩

theorem ends_throw :
    Ends tokens stop ls (throw (.failure e.failure) : Action Cursor α) (.error e) :=
  fun i trail hi => ⟨i, [], by simp, .nil hi.lt⟩

/-- An action goes on where another has ended. -/
theorem Ends.andThen {r : Except SyntaxError (β × List Lexeme)}
    (h : Ends tokens stop ls act (.ok (a, mid))) (hf : Ends tokens stop mid (f a) r) :
    Ends tokens stop ls (act >>= f) r := by
  rcases r with e | ⟨b, rest⟩ <;> intro i trail hi <;>
    obtain ⟨j, new, hrun, hway, hj⟩ := h i trail hi
  · obtain ⟨k, more, hrun', hway'⟩ := hf j (trail ++ new) hj
    exact ⟨k, new ++ more, by simp [runIn_bind, hrun, hrun'], hway.append hway'⟩
  · obtain ⟨k, more, hrun', hway', hk⟩ := hf j (trail ++ new) hj
    exact ⟨k, new ++ more, by simp [runIn_bind, hrun, hrun'], hway.append hway', hk⟩

theorem Ends.fail (h : Ends tokens stop ls act (.error e)) :
    Ends tokens stop ls (act >>= f) (.error e) := by
  intro i trail hi
  obtain ⟨j, new, hrun, hway⟩ := h i trail hi
  exact ⟨j, new, by simp [runIn_bind, hrun], hway⟩

/-- What is read step by step as by a function of the parser ends as that function does. -/
theorem Ends.bind {r : Except SyntaxError δ} {φ : δ → α × List Lexeme}
    {g : δ → Except SyntaxError γ} {ψ : γ → β × List Lexeme}
    (h : Ends tokens stop ls act (r.map φ))
    (hf : ∀ d, Ends tokens stop (φ d).2 (f (φ d).1) ((g d).map ψ)) :
    Ends tokens stop ls (act >>= f) ((r >>= g).map ψ) := by
  cases r with
  | error e => exact h.fail
  | ok d => exact h.andThen (hf d)

/-- An answer is passed on with another bound on what is left. -/
theorem Follows.passOn {r : Except SyntaxError (α × Parser.Fewer m)}
    {g : α × Parser.Fewer m → Except SyntaxError (α × Parser.Fewer n)}
    (h : Follows tokens stop ls act r)
    (hg : ∀ a rest h, ∃ h', g (a, ⟨rest, h⟩) = .ok (a, ⟨rest, h'⟩)) :
    Follows tokens stop ls act (r >>= g) := by
  rcases r with e | ⟨a, rest, hrest⟩
  · exact h
  · obtain ⟨h', hg⟩ := hg a rest hrest
    have hbind : (.ok (a, ⟨rest, hrest⟩) : Except SyntaxError (α × Parser.Fewer m)) >>= g =
        .ok (a, ⟨rest, h'⟩) := hg
    rw [hbind]
    exact h

theorem ends_peek : Ends tokens stop ls (peek tokens) (.ok (current stop ls, ls)) :=
  fun i _ hi => ⟨i, [⟨.look, i⟩], runIn_peek hi.getElem?, .look hi.lt, hi⟩

theorem ends_advance :
    Ends tokens stop (l :: ls) (advance tokens) (.ok (current stop (l :: ls), ls)) := by
  intro i trail hi
  have hlt : i + 1 < tokens.length := hi.tail.lt
  exact ⟨i + 1, _, runIn_advance hi.getElem? (Symbol.kind_ne_eof l.symbol), .advance hlt, hi.tail⟩

theorem ends_advance_end : Ends tokens stop [] (advance tokens) (.ok (⟨none, stop⟩, [])) :=
  fun i _ hi => ⟨i, _, runIn_advance_end hi.getElem? rfl, .look hi.lt, hi⟩

section Keywords

variable {table : List (Keyword × α)} {k : Keyword}

theorem ends_accept_some (h : chosen? table l.symbol = some a) :
    Ends tokens stop (l :: ls) (accept tokens table) (.ok (some a, ls)) := by
  have hchosen : (current stop (l :: ls)).symbol.bind (chosen? table) = some a := h
  refine ends_peek.andThen ?_
  simp only [hchosen]
  exact ends_advance.andThen (ends_pure _)

theorem ends_accept_none (h : (current stop ls).symbol.bind (chosen? table) = none) :
    Ends tokens stop ls (accept tokens table) (.ok (none, ls)) := by
  refine ends_peek.andThen ?_
  simp only [h]
  exact ends_pure _

theorem chosen?_singleton (k : Keyword) (s : Symbol) :
    chosen? [(k, ())] s = if s = .keyword k then some () else none := by
  cases s with
  | keyword k' => by_cases h : k' = k <;> simp [chosen?, h]
  | lparen | rparen | string => rfl

/-- A keyword that may be left out is stepped over if it comes. -/
theorem exists_ends_accept (tokens : List Token) (stop : Nat) (k : Keyword) (ls : List Lexeme) :
    ∃ o, Ends tokens stop ls (accept tokens [(k, ())]) (.ok (o, Parser.skip k ls)) := by
  rcases ls with _ | ⟨l, ls⟩
  · exact ⟨none, ends_accept_none rfl⟩
  · by_cases hl : l.symbol = .keyword k
    · rw [Parser.skip, if_pos hl]
      exact ⟨some (), ends_accept_some (by rw [chosen?_singleton, if_pos hl])⟩
    · rw [Parser.skip, if_neg hl]
      have hnone : chosen? [(k, ())] l.symbol = none := by rw [chosen?_singleton, if_neg hl]
      exact ⟨none, ends_accept_none hnone⟩

theorem follows_expectKeyword :
    Follows tokens stop ls (expectKeyword tokens table) (Parser.choose stop table ls) := by
  have hother (h : (current stop ls).symbol.bind (chosen? table) = none) :
      Ends tokens stop ls (expectKeyword tokens table)
        (.error (unfit (table.map (·.1.word)) (current stop ls))) :=
    (ends_accept_none h).andThen (ends_peek.andThen ends_throw)
  rcases ls with _ | ⟨⟨_ | _ | _ | k, p⟩, tail⟩
  case cons.keyword =>
    simp only [Follows, Parser.choose, Parser.choose?]
    cases hk : table.lookup k with
    | some a =>
      have hchosen : chosen? table (.keyword k) = some a := hk
      exact (ends_accept_some hchosen).andThen (ends_pure a)
    | none => exact hother hk
  all_goals exact hother rfl

end Keywords

section Symbols

variable {s : Symbol} {ev : Event} {kind : String} {p : Nat}

theorem ends_expect (h : l.symbol.kind = kind) :
    Ends tokens stop (l :: ls) (expect tokens kind) (.ok (current stop (l :: ls), ls)) := by
  have hkind : (current stop (l :: ls)).kind = kind := h
  refine ends_peek.andThen ?_
  rw [if_pos hkind]
  exact ends_advance

theorem ends_expect_end : Ends tokens stop [] (expect tokens "eof") (.ok (⟨none, stop⟩, [])) := by
  have hkind : (current stop []).kind = "eof" := rfl
  refine ends_peek.andThen ?_
  rw [if_pos hkind]
  exact ends_advance_end

theorem ends_expect_other (h : (current stop ls).kind ≠ kind) :
    Ends tokens stop ls (expect tokens kind) (.error (unfit [kind] (current stop ls))) := by
  refine ends_peek.andThen ?_
  rw [if_neg h]
  exact ends_throw

/-- The value of a string is read as a token. -/
theorem Ends.stringLit {f : Token → Action Cursor β}
    {g : String × Parser.Fewer ls.length → Except SyntaxError γ} {ψ : γ → β × List Lexeme}
    (hf : ∀ v p rest h,
      Ends tokens stop rest (f ⟨some (.string v), p⟩) ((g (v, ⟨rest, h⟩)).map ψ)) :
    Ends tokens stop ls (expect tokens "string" >>= f)
      ((Parser.stringLit stop ls >>= g).map ψ) := by
  rcases ls with _ | ⟨⟨_ | _ | v | k, p⟩, tail⟩
  case cons.string => exact (ends_expect rfl).andThen (hf v p tail (by simp))
  all_goals exact (ends_expect_other (by simp [current, Token.kind, Symbol.kind])).fail

theorem ends_opens_true (hev : ev.opener? = some s) :
    Ends tokens stop (⟨s, p⟩ :: ls) (opens tokens s ev) (.ok (true, ls)) := by
  intro i trail hi
  have hlt : i + 1 < tokens.length := hi.tail.lt
  have ht : tokens[i]? = some ⟨some s, p⟩ := hi.getElem?
  have hkind : Token.kind ⟨some s, p⟩ ≠ "eof" := Symbol.kind_ne_eof s
  refine ⟨i + 1, _, ?_, .opened hev ht rfl hlt, hi.tail⟩
  have hadvance := runIn_advance (c := ⟨i, trail ++ [⟨.look, i⟩]⟩) ht hkind
  simp [opens, runIn_bind, runIn_peek (c := ⟨i, trail⟩) ht, hadvance, Except.map]

theorem ends_opens_false (h : ¬ Parser.Opens s ls) :
    Ends tokens stop ls (opens tokens s ev) (.ok (false, ls)) := by
  have hother : (current stop ls).symbol ≠ some s := by
    cases ls <;> simp_all [current]
  refine ends_peek.andThen ?_
  rw [if_neg hother]
  exact ends_pure false

end Symbols

/-- An operand takes a token, as the parser leaves fewer lexemes after one. -/
theorem Follows.spanning {r : Except SyntaxError (α × Parser.Fewer ls.length)}
    (h : Follows tokens stop ls act r) : Follows tokens stop ls (spanning act) r := by
  rcases r with e | ⟨a, rest, hrest⟩ <;> intro i trail hi
  · obtain ⟨j, new, hrun, hway⟩ := h i trail hi
    exact ⟨j, new, by simp [Cursor.spanning, runIn_bind, hrun], hway⟩
  · obtain ⟨j, new, hrun, hway, hj⟩ := h i trail hi
    have hlt : i < j := by
      have hbefore := hi.length
      have hafter : j + rest.length + 1 = tokens.length := Stands.length hj
      omega
    exact ⟨j, new ++ [⟨.operand i, j⟩],
      by simp [Cursor.spanning, runIn_bind, hrun, Except.map], hway.operand hlt, hj⟩

theorem follows_leaf : Follows tokens stop ls (leaf tokens) (Parser.leaf stop ls) := by
  refine follows_expectKeyword.bind ?_
  rintro ⟨kind, mid, h⟩
  obtain ⟨o, ho⟩ := exists_ends_accept tokens stop .is_ mid
  exact ho.andThen (Ends.stringLit fun v p rest h' => ends_pure _)

section Turns

variable {k : Keyword} {join : Condition Empty → Condition Empty → Condition Empty}
  {item : Action Cursor (Condition Empty)} {c : Condition Empty} {p : Nat}

theorem follows_turns_other (h : ¬ Parser.Opens (.keyword k) ls) (hn : ls.length < n)
    (hfuel : 0 < fuel) :
    Follows tokens stop ls (turns tokens k join item fuel c)
      (.ok (c, (⟨ls, hn⟩ : Parser.Fewer n))) := by
  obtain ⟨fuel, rfl⟩ := Nat.exists_eq_succ_of_ne_zero hfuel.ne'
  exact (ends_opens_false h).andThen (ends_pure c)

/-- A loop goes round again: its item is read after the keyword, and the loop goes on from there. -/
theorem follows_turns_again {r : Except SyntaxError (Condition Empty × Parser.Fewer m)}
    {g : Condition Empty × Parser.Fewer m → Except SyntaxError (Condition Empty × Parser.Fewer n)}
    (hitem : Follows tokens stop ls item r)
    (hturns : ∀ d rest h,
      Follows tokens stop rest (turns tokens k join item fuel (join c d)) (g (d, ⟨rest, h⟩))) :
    Follows tokens stop (⟨.keyword k, p⟩ :: ls) (turns tokens k join item (fuel + 1) c) (r >>= g) :=
  (ends_opens_true rfl).andThen (hitem.bind fun d => hturns d.1 d.2.1 d.2.2)

end Turns

/-- Given more fuel than three times the lexemes that are left, conditions are read as the parser
reads them. The loops have their turns counted apart from the depth of what is read in them. -/
theorem follows_condition (tokens : List Token) (stop : Nat) :
    (∀ ls fuel, 3 * ls.length + 2 < fuel →
      Follows tokens stop ls (condition tokens fuel) (Parser.condition stop ls)) ∧
    (∀ c ls fuel depth, ls.length < fuel → 3 * ls.length ≤ depth →
      Follows tokens stop ls (turns tokens .or_ .or (conjunction tokens depth) fuel c)
        (Parser.disjuncts stop c ls)) ∧
    (∀ ls fuel, 3 * ls.length + 1 < fuel →
      Follows tokens stop ls (conjunction tokens fuel) (Parser.conjunction stop ls)) ∧
    (∀ c ls fuel depth, ls.length < fuel → 3 * ls.length ≤ depth →
      Follows tokens stop ls (turns tokens .and_ .and (primary tokens depth) fuel c)
        (Parser.conjuncts stop c ls)) ∧
    (∀ ls fuel, 3 * ls.length < fuel →
      Follows tokens stop ls (primary tokens fuel) (Parser.primary stop ls)) := by
  -- The fuel is left open, as less of it is left where the recursion enters a function.
  apply Parser.condition.mutual_induct
  case case1 =>
    intro ls ihc ihd fuel hfuel
    obtain ⟨fuel, rfl⟩ := Nat.exists_eq_succ_of_ne_zero (Nat.ne_zero_of_lt hfuel)
    rw [Parser.condition]
    refine (ihc fuel (by omega)).bind ?_
    rintro ⟨c, mid, h⟩
    exact (ihd c mid h fuel fuel (by omega) (by omega)).passOn fun _ _ _ => ⟨_, rfl⟩
  case case2 =>
    intro c p tail ihc ihd fuel depth hfuel hdepth
    rw [List.length_cons] at hfuel hdepth
    obtain ⟨fuel, rfl⟩ := Nat.exists_eq_succ_of_ne_zero (Nat.ne_zero_of_lt hfuel)
    rw [Parser.disjuncts]
    refine follows_turns_again (ihc depth (by omega)) fun d mid h => ?_
    exact (ihd d mid h fuel depth (by omega) (by omega)).passOn fun _ _ _ => ⟨_, rfl⟩
  case case3 =>
    intro c ls hls fuel depth hfuel _
    rw [Parser.disjuncts]
    · exact follows_turns_other (Parser.not_opens_iff.mpr hls) _ (by omega)
    · exact hls
  case case4 =>
    intro ls ihc ihd fuel hfuel
    obtain ⟨fuel, rfl⟩ := Nat.exists_eq_succ_of_ne_zero (Nat.ne_zero_of_lt hfuel)
    rw [Parser.conjunction]
    refine (ihc fuel (by omega)).bind ?_
    rintro ⟨c, mid, h⟩
    exact (ihd c mid h fuel fuel (by omega) (by omega)).passOn fun _ _ _ => ⟨_, rfl⟩
  case case5 =>
    intro c p tail ihc ihd fuel depth hfuel hdepth
    rw [List.length_cons] at hfuel hdepth
    obtain ⟨fuel, rfl⟩ := Nat.exists_eq_succ_of_ne_zero (Nat.ne_zero_of_lt hfuel)
    rw [Parser.conjuncts]
    refine follows_turns_again (ihc depth (by omega)) fun d mid h => ?_
    exact (ihd d mid h fuel depth (by omega) (by omega)).passOn fun _ _ _ => ⟨_, rfl⟩
  case case6 =>
    intro c ls hls fuel depth hfuel _
    rw [Parser.conjuncts]
    · exact follows_turns_other (Parser.not_opens_iff.mpr hls) _ (by omega)
    · exact hls
  case case7 =>
    intro p tail ih fuel hfuel
    rw [List.length_cons] at hfuel
    obtain ⟨fuel, rfl⟩ := Nat.exists_eq_succ_of_ne_zero (Nat.ne_zero_of_lt hfuel)
    rw [Parser.primary]
    refine Follows.spanning ((ends_opens_true rfl).andThen ((ih fuel (by omega)).bind ?_))
    rintro ⟨c, rest, h⟩
    rcases rest with _ | ⟨⟨_ | _ | _ | _, q⟩, rest⟩
    case cons.rparen => exact (ends_expect rfl).andThen (ends_pure c)
    all_goals exact (ends_expect_other (by simp [current, Token.kind, Symbol.kind])).fail
  case case8 =>
    intro ls hls fuel hfuel
    obtain ⟨fuel, rfl⟩ := Nat.exists_eq_succ_of_ne_zero (Nat.ne_zero_of_lt hfuel)
    rw [Parser.primary]
    · have hopens := Parser.not_opens_iff.mpr hls
      exact Follows.spanning ((ends_opens_false hopens).andThen follows_leaf)
    · exact hls

theorem ends_orderClause :
    Ends tokens stop ls (orderClause tokens) ((Parser.orderClause stop ls).map id) := by
  rcases ls with _ | ⟨⟨_ | _ | _ | k, p⟩, tail⟩
  case cons.keyword =>
    cases k
    case sorted =>
      refine (ends_accept_some (l := ⟨.keyword .sorted, p⟩) (a := ()) rfl).andThen ?_
      exact follows_expectKeyword.bind fun d => ends_pure _
    case asc =>
      exact (ends_accept_none rfl).andThen
        (ends_accept_some (l := ⟨.keyword .asc, p⟩) (a := Order.ascending) rfl)
    case desc =>
      exact (ends_accept_none rfl).andThen
        (ends_accept_some (l := ⟨.keyword .desc, p⟩) (a := Order.descending) rfl)
    all_goals exact (ends_accept_none rfl).andThen (ends_accept_none rfl)
  all_goals exact (ends_accept_none rfl).andThen (ends_accept_none rfl)

theorem ends_query (hfuel : 3 * ls.length ≤ fuel) :
    Ends tokens stop ls (query tokens fuel) ((Parser.query stop ls).map (·, [])) := by
  obtain ⟨o, ho⟩ := exists_ends_accept tokens stop .get ls
  refine ho.andThen (follows_expectKeyword.bind ?_)
  rintro ⟨mode, afterMode, hmode⟩
  refine follows_expectKeyword.bind ?_
  rintro ⟨-, afterWhere, hwhere⟩
  have hskip := Parser.length_skip_le .get ls
  have hafter : afterWhere.length < afterMode.length := hwhere
  refine ((follows_condition tokens stop).1 afterWhere fuel (by omega)).bind ?_
  rintro ⟨c, afterCondition, -⟩
  refine ends_orderClause.bind ?_
  rintro ⟨order, rest⟩
  rcases rest with _ | ⟨l, rest⟩
  · exact ends_expect_end.andThen (ends_pure _)
  · have hkind : (current stop (l :: rest)).kind ≠ "eof" := Symbol.kind_ne_eof l.symbol
    exact (ends_expect_other hkind).fail

section MoreFuel

/-- An action does what another does, which has less fuel, unless that one runs out of it. -/
def Outlasts (act' act : Action Cursor α) : Prop :=
  ∀ c, (act.runIn c).1 = .error .unfinished ∨ act'.runIn c = act.runIn c

variable {act' : Action Cursor α} {f' : α → Action Cursor β} {fuel' : Nat}

theorem outlasts_self (act : Action Cursor α) : Outlasts act act := fun _ => .inr rfl

theorem outlasts_unfinished : Outlasts act' (throw .unfinished) := fun _ => .inl rfl

theorem Outlasts.bind (h : Outlasts act' act) (hf : ∀ a, Outlasts (f' a) (f a)) :
    Outlasts (act' >>= f') (act >>= f) := by
  intro c
  rw [runIn_bind, runIn_bind]
  rcases h c with hout | hsame
  · rcases hrun : act.runIn c with ⟨e | a, c'⟩ <;> rw [hrun] at hout
    · exact .inl (congrArg Except.error (Except.error.inj hout))
    · cases hout
  · rw [hsame]
    rcases act.runIn c with ⟨e | a, c'⟩
    · exact .inr rfl
    · exact hf a c'

theorem outlasts_turns {k : Keyword} {join : Condition Empty → Condition Empty → Condition Empty}
    {item item' : Action Cursor (Condition Empty)} (h : Outlasts item' item) (fuel : Nat)
    (c : Condition Empty) :
    Outlasts (turns tokens k join item' (fuel + 1) c) (turns tokens k join item fuel c) := by
  induction fuel generalizing c with
  | zero => exact outlasts_unfinished
  | succ fuel ih =>
    refine (outlasts_self _).bind fun again => ?_
    cases again with
    | true => exact h.bind fun d => ih (join c d)
    | false => exact outlasts_self _

theorem outlasts_condition (tokens : List Token) (fuel : Nat) :
    Outlasts (condition tokens (fuel + 1)) (condition tokens fuel) ∧
    Outlasts (conjunction tokens (fuel + 1)) (conjunction tokens fuel) ∧
    Outlasts (primary tokens (fuel + 1)) (primary tokens fuel) := by
  induction fuel with
  | zero => exact ⟨outlasts_unfinished, outlasts_unfinished, outlasts_unfinished⟩
  | succ fuel ih =>
    obtain ⟨hcondition, hconjunction, hprimary⟩ := ih
    refine ⟨hconjunction.bind fun c => outlasts_turns hconjunction fuel c,
      hprimary.bind fun c => outlasts_turns hprimary fuel c, ?_⟩
    refine (outlasts_self _).bind fun start => Outlasts.bind ?_ fun c => outlasts_self _
    refine (outlasts_self _).bind fun nested => ?_
    cases nested with
    | true => exact hcondition.bind fun c => outlasts_self _
    | false => exact outlasts_self _

theorem outlasts_query (tokens : List Token) (fuel : Nat) :
    Outlasts (query tokens (fuel + 1)) (query tokens fuel) :=
  (outlasts_self _).bind fun _ => (outlasts_self _).bind fun _ => (outlasts_self _).bind fun _ =>
    (outlasts_condition tokens fuel).1.bind fun _ => outlasts_self _

/-- Where fuel has been enough, more of it changes nothing. -/
theorem runIn_query_of_le {c : Cursor} (hfuel : fuel ≤ fuel')
    (h : ((query tokens fuel).runIn c).1 ≠ .error .unfinished) :
    (query tokens fuel').runIn c = (query tokens fuel).runIn c := by
  induction fuel', hfuel using Nat.le_induction with
  | base => rfl
  | succ fuel' _ ih =>
    rw [← ih] at h ⊢
    exact (outlasts_query tokens fuel' c).resolve_left h

end MoreFuel

/-- What reading by an index can end with: a query, or the failure of a text that is none. -/
def answer (r : Except SyntaxError Query) : Except Fault Query :=
  r.mapError fun e => .failure e.failure

theorem answer_ne_unfinished (r : Except SyntaxError Query) : answer r ≠ .error .unfinished := by
  cases r <;> simp [answer, Except.mapError]

theorem Ends.exists_runIn {act : Action Cursor Query} {r : Except SyntaxError Query}
    (h : Ends tokens stop ls act (r.map (·, []))) (hi : Stands tokens stop i ls) :
    ∃ j trail, act.runIn ⟨i, []⟩ = (answer r, ⟨j, trail⟩) ∧ Way tokens i j trail := by
  cases r with
  | error e => exact h i [] hi
  | ok q =>
    obtain ⟨j, trail, hrun, hway, -⟩ := h i [] hi
    exact ⟨j, trail, hrun, hway⟩

/-- Tokens are read by an index as the parser reads their lexemes, whatever fuel there is beyond
three times their number. -/
theorem exists_runIn_query (h : Stands tokens stop 0 ls) :
    ∃ j trail, Way tokens 0 j trail ∧ ∀ fuel, 3 * ls.length ≤ fuel →
      (query tokens fuel).runIn ⟨0, []⟩ = (answer (Parser.query stop ls), ⟨j, trail⟩) := by
  obtain ⟨j, trail, hrun, hway⟩ := (ends_query le_rfl).exists_runIn h
  refine ⟨j, trail, hway, fun fuel hfuel => ?_⟩
  rw [runIn_query_of_le hfuel, hrun]
  rw [hrun]
  exact answer_ne_unfinished _

/-- Of the tokens of a text just the last is its end. -/
theorem kind_eq_eof_iff {t : Token} (ht : (tokensOf ls ++ [⟨none, stop⟩])[i]? = some t) :
    t.kind = "eof" ↔ i = ls.length := by
  have hlength : (tokensOf ls).length = ls.length := List.length_map _
  rcases lt_trichotomy i ls.length with hlt | rfl | hgt
  · rw [List.getElem?_append_left (hlength ▸ hlt), tokensOf, List.getElem?_map] at ht
    obtain ⟨l, -, rfl⟩ := Option.map_eq_some_iff.mp ht
    exact iff_of_false (Symbol.kind_ne_eof l.symbol) hlt.ne
  · rw [List.getElem?_append_right hlength.le, hlength, Nat.sub_self] at ht
    obtain rfl := Option.some.inj ht
    exact iff_of_true rfl rfl
  · rw [List.getElem?_eq_none (by simpa [hlength] using hgt)] at ht
    cases ht

/-- The tokens of a text are read by an index to the answer that the parser gives, and none is
looked for beyond the last. The index never goes back and never over the end of the text, so it
takes no more steps than there are tokens before the end. Where a loop goes round again or a
condition begins in parentheses, it has just gone over the keyword or the parenthesis, further than
it was at anything before; and where an operand has been read, it has gone over some token of it. -/
theorem query_within_tokens {text : String} {tokens : List Token}
    (htokens : tokenize text = .ok tokens) :
    ∃ (eof : Nat) (r : Except SyntaxError Query) (j : Nat) (trail : List Mark),
      (eof + 1 = tokens.length ∧ ∀ i t, tokens[i]? = some t → (t.kind = "eof" ↔ i = eof)) ∧
      (isBlankText text = false → parse (some text) = r) ∧
      (∀ fuel, 3 * eof ≤ fuel →
        (query tokens fuel).runIn ⟨0, []⟩ = (answer r, ⟨j, trail⟩)) ∧
      (∀ m ∈ trail, m.index ≤ j) ∧ j ≤ eof ∧
      trail.Pairwise (fun a b => a.index ≤ b.index) ∧
      (∀ m ∈ trail, m.event = .step → m.index < eof) ∧
      (∀ m ∈ trail, ∀ s, m.event.opener? = some s →
        0 < m.index ∧ ∃ t, tokens[m.index - 1]? = some t ∧ t.symbol = some s) ∧
      trail.Pairwise (fun a b => b.event.opener?.isSome → a.index < b.index) ∧
      (∀ m ∈ trail, ∀ start, m.event = .operand start → start < m.index) ∧
      trail.countP (·.event = .step) = j := by
  obtain ⟨ls, hscan, htokens⟩ := tokenize_eq_ok_iff.mp htokens
  have hstands : Stands tokens text.toList.length 0 ls := htokens
  obtain ⟨j, trail, hway, hrun⟩ := exists_runIn_query hstands
  have hlength := hstands.length
  have hinside := hway.inside
  refine ⟨ls.length, Parser.query text.toList.length ls, j, trail, ⟨by omega, ?_⟩, ?_, hrun,
    fun m hm => (hway.within m hm).le_finish, by omega, hway.ordered.imp And.left, ?_,
    fun m hm => (hway.within m hm).opener, ?_, fun m hm => (hway.within m hm).operand_lt, ?_⟩
  · rw [htokens]
    exact fun i t => kind_eq_eof_iff
  · intro hblank
    simp [parse, hblank, hscan, bind, Except.bind]
  · intro m hm hstep
    have hlt := (hway.within m hm).step_lt hstep
    omega
  · exact hway.ordered.imp fun h hopener => h.2 (.inr hopener)
  · rw [← hway.steps, Nat.zero_add]

/-- A text of which the query has both loops go round and a condition in parentheses. -/
def nested : String := "page where (title 'x' or title 'y') and author 'z' desc"

def nestedTokens : List Token :=
  tokensOf [⟨.keyword .page, 0⟩, ⟨.keyword .where_, 5⟩, ⟨.lparen, 11⟩, ⟨.keyword .title, 12⟩,
    ⟨.string "x", 18⟩, ⟨.keyword .or_, 22⟩, ⟨.keyword .title, 25⟩, ⟨.string "y", 31⟩, ⟨.rparen, 34⟩,
    ⟨.keyword .and_, 36⟩, ⟨.keyword .author, 40⟩, ⟨.string "z", 47⟩, ⟨.keyword .desc, 51⟩] ++
    [⟨none, 55⟩]

theorem query_within_tokens_nested :
    tokenize nested = .ok nestedTokens ∧
      ∃ trail, (∀ fuel, 39 ≤ fuel → (query nestedTokens fuel).runIn ⟨0, []⟩ =
          (answer (parse (some nested)), ⟨13, trail⟩)) ∧
        trail.countP (·.event = .step) = 13 ∧
        ∀ m ∈ trail, m.event.opener?.isSome → 0 < m.index ∧ m.index ≤ 13 := by
  have htokens : tokenize nested = .ok nestedTokens := by decide +kernel
  have hend : ((query nestedTokens 39).runIn ⟨0, []⟩).2.index = 13 := by decide +kernel
  obtain ⟨eof, r, j, trail, ⟨heof, -⟩, hparse, hrun, hindex, -, -, -, hopener, -, -, hsteps⟩ :=
    query_within_tokens htokens
  obtain rfl : eof = 13 := Nat.succ.inj heof
  rw [hrun 39 le_rfl] at hend
  obtain rfl : j = 13 := hend
  rw [hparse (by decide +kernel)]
  refine ⟨htokens, trail, hrun, hsteps, fun m hm hsome => ⟨?_, hindex m hm⟩⟩
  obtain ⟨s, hs⟩ := Option.isSome_iff_exists.mp hsome
  exact (hopener m hm s hs).1

end Cursor

end WikiGateway.Query
