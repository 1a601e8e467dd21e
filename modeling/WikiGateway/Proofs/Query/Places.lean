import WikiGateway.Proofs.Query.Derivation

/-!
Queries followed symbol by symbol. A place says which symbols may come next, and whatever it is, a
query can be finished from it. The parser refuses a query at the first symbol that has no room where
it stands, or at the end of a query that is not finished.
-/
namespace WikiGateway.Query

open WikiGateway.Query.Parser

/-- What comes next in a query; in its condition, with how many parentheses are open. At `start`
and at `is_` a word may come that can be left out. -/
inductive Place
  | start | mode | filter
  | operand (depth : Nat) | is_ (depth : Nat) | value (depth : Nat) | join (depth : Nat)
  | order | done

/-- What a symbol stands for in a table of keywords. -/
def chosen? {α : Type} (table : List (Keyword × α)) : Symbol → Option α
  | .keyword k => table.lookup k
  | _ => none

namespace Place

/-- The place after a symbol, if the symbol may come. -/
def next : Place → Symbol → Option Place
  | start, .keyword .get => some mode
  | start, s | mode, s => (chosen? modes s).map fun _ => filter
  | filter, s => (chosen? [(Keyword.where_, ())] s).map fun _ => operand 0
  | operand depth, .lparen => some (operand (depth + 1))
  | operand depth, s => (chosen? leafKinds s).map fun _ => is_ depth
  | is_ depth, .keyword .is_ => some (value depth)
  | is_ depth, .string _ | value depth, .string _ => some (join depth)
  | join depth, .keyword .and_ | join depth, .keyword .or_ => some (operand depth)
  | join (depth + 1), .rparen => some (join depth)
  | join 0, .keyword .sorted => some order
  | join 0, s | order, s => (chosen? orders s).map fun _ => done
  | _, _ => none

/-- Whether a query may end here. -/
def ends : Place → Bool
  | join 0 | done => true
  | _ => false

/-- The place after some symbols, if each of them may come. -/
def run (σ : Place) (ts : List Symbol) : Option Place := ts.foldlM next σ

/-- Symbols that finish a query from here. -/
def completion : Place → List Symbol
  | start | mode => [.keyword .page, .keyword .where_, .keyword .title, .string ""]
  | filter => [.keyword .where_, .keyword .title, .string ""]
  | operand depth => .keyword .title :: .string "" :: List.replicate depth .rparen
  | is_ depth | value depth => .string "" :: List.replicate depth .rparen
  | join depth => List.replicate depth .rparen
  | order => [.keyword .asc]
  | done => []

/-- What is left has no room here. -/
def Halts (σ : Place) : List Lexeme → Prop
  | [] => σ.ends = false
  | l :: _ => σ.next l.symbol = none

end Place

/-- Symbols that make up a query. -/
def Accepts (ts : List Symbol) : Prop := ∃ τ, Place.start.run ts = some τ ∧ τ.ends = true

/-- An error of lexemes that start in some place: it stands where what is left first has no room. -/
def Refused (stop : Nat) (σ : Place) (ls : List Lexeme) (e : SyntaxError) : Prop :=
  ∃ front rest τ, ls = front ++ rest ∧ σ.run (symbols front) = some τ ∧ τ.Halts rest ∧
    e.position = (rest.head?.map Lexeme.position).getD stop

/-- Reading the lexemes `ls` up to `rest` leads from the place `σ` to `τ`, and `Q` holds of the
rest. -/
def Leads (σ : Place) (ls : List Lexeme) (τ : Place) (Q : List Lexeme → Prop)
    (rest : List Lexeme) : Prop :=
  ∃ front, ls = front ++ rest ∧ σ.run (symbols front) = some τ ∧ Q rest

/-- Nothing follows that is joined to what came before. -/
def Unjoined (ls : List Lexeme) : Prop := ¬ Opens (.keyword .and_) ls ∧ ¬ Opens (.keyword .or_) ls

/-- What becomes of lexemes that start in a place: an answer of which `P` holds, or a refusal. -/
def Outcome {γ : Type} (stop : Nat) (σ : Place) (ls : List Lexeme) (P : γ → Prop) :
    Except SyntaxError γ → Prop
  | .ok c => P c
  | .error e => Refused stop σ ls e

/-- A function of the parser reads some lexemes and comes to the place `τ`. -/
abbrev Reads {α : Type} {n : Nat} (stop : Nat) (σ : Place) (ls : List Lexeme) (τ : Place)
    (Q : List Lexeme → Prop) : Except SyntaxError (α × Fewer n) → Prop :=
  Outcome stop σ ls fun c => Leads σ ls τ Q c.2.val

/-- A query is read to its end. -/
abbrev Concludes (stop : Nat) (σ : Place) (ls : List Lexeme) : Except SyntaxError Query → Prop :=
  Outcome stop σ ls fun _ => ∃ τ, σ.run (symbols ls) = some τ ∧ τ.ends = true

variable {α β γ : Type} {m n stop depth : Nat} {σ τ υ : Place} {ls front rest : List Lexeme}
  {l : Lexeme} {ts us : List Symbol} {s : Symbol} {e : SyntaxError} {Q R : List Lexeme → Prop}

namespace Place

@[simp]
theorem run_nil : σ.run [] = some σ := rfl

@[simp]
theorem run_cons : σ.run (s :: ts) = (σ.next s).bind fun τ => τ.run ts := by
  rw [run, List.foldlM_cons]
  rfl

theorem run_append : σ.run (ts ++ us) = (σ.run ts).bind fun τ => τ.run us := by
  rw [run, List.foldlM_append]
  rfl

theorem run_replicate_rparen : (join depth).run (List.replicate depth .rparen) = some (join 0) := by
  induction depth with
  | zero => rfl
  | succ depth ih => simpa [List.replicate_succ, next] using ih

theorem run_append_of_halts (hrun : σ.run (symbols front) = some τ) (h : τ.Halts (l :: rest)) :
    σ.run (symbols (front ++ l :: rest)) = none := by
  have hnext : τ.next l.symbol = none := h
  simp [run_append, hrun, hnext]

/-- A query can be finished from everywhere. -/
theorem run_completion (σ : Place) : ∃ τ, σ.run σ.completion = some τ ∧ τ.ends = true := by
  cases σ with
  | start => exact ⟨join 0, rfl, rfl⟩
  | mode => exact ⟨join 0, rfl, rfl⟩
  | filter => exact ⟨join 0, rfl, rfl⟩
  | operand depth => exact ⟨join 0, run_replicate_rparen, rfl⟩
  | is_ depth => exact ⟨join 0, run_replicate_rparen, rfl⟩
  | value depth => exact ⟨join 0, run_replicate_rparen, rfl⟩
  | join depth => exact ⟨join 0, run_replicate_rparen, rfl⟩
  | order => exact ⟨done, rfl, rfl⟩
  | done => exact ⟨done, rfl, rfl⟩

example : (start.run [.keyword .page, .keyword .where_, .lparen]).map completion =
    some [.keyword .title, .string "", .rparen] := by rfl

end Place

theorem Refused.append (hrun : σ.run (symbols front) = some τ) (h : Refused stop τ ls e) :
    Refused stop σ (front ++ ls) e := by
  obtain ⟨more, rest, υ, rfl, hmore, hhalts, hposition⟩ := h
  have hboth : σ.run (symbols (front ++ more)) = some υ := by
    simp [Place.run_append, hrun, hmore]
  exact ⟨front ++ more, rest, υ, by simp, hboth, hhalts, hposition⟩

/-- Lexemes that are refused from the start make up no query. -/
theorem Refused.not_accepts (h : Refused stop .start ls e) : ¬ Accepts (symbols ls) := by
  obtain ⟨front, rest, τ, rfl, hrun, hhalts, -⟩ := h
  rintro ⟨υ, haccepts, hends⟩
  cases rest with
  | nil =>
    rw [List.append_nil, hrun] at haccepts
    obtain rfl : τ = υ := Option.some.inj haccepts
    rw [hhalts] at hends
    cases hends
  | cons l rest =>
    rw [Place.run_append_of_halts hrun hhalts] at haccepts
    cases haccepts

theorem outcome_refuse {P : γ → Prop} {what : List String} (h : σ.Halts ls) :
    Outcome stop σ ls P (refuse stop what ls) := by
  cases ls with
  | nil => exact ⟨[], [], σ, rfl, rfl, h, rfl⟩
  | cons l ls => exact ⟨[], l :: ls, σ, rfl, rfl, h, rfl⟩

theorem Outcome.append {P P' : γ → Prop} {r : Except SyntaxError γ} (h : Outcome stop τ ls P r)
    (hrun : σ.run (symbols front) = some τ) (hP : ∀ c, P c → P' c) :
    Outcome stop σ (front ++ ls) P' r := by
  cases r with
  | error e => exact Refused.append hrun h
  | ok c => exact hP c h

theorem Leads.append (hrun : σ.run (symbols front) = some τ) (h : Leads τ ls υ Q rest) :
    Leads σ (front ++ ls) υ Q rest := by
  obtain ⟨more, rfl, hmore, hrest⟩ := h
  exact ⟨front ++ more, by simp, by simp [Place.run_append, hrun, hmore], hrest⟩

theorem reads_ok {a : α} {h : rest.length < n} (hrest : Q rest) :
    Reads stop σ rest σ Q (.ok (a, ⟨rest, h⟩)) :=
  ⟨[], rfl, rfl, hrest⟩

section Reads

variable {r : Except SyntaxError (α × Fewer m)}

theorem Reads.cons (hl : σ.next l.symbol = some τ) (hr : Reads stop τ ls υ Q r) :
    Reads stop σ (l :: ls) υ Q r := by
  have hrun : σ.run (symbols [l]) = some τ := by simp [hl]
  exact Outcome.append hr hrun fun _ => Leads.append hrun

/-- One function reads on from the place to which another has come. -/
theorem Reads.bind {f : α × Fewer m → Except SyntaxError (β × Fewer n)} (hr : Reads stop σ ls τ Q r)
    (hf : ∀ a mid h, Q mid → Reads stop τ mid υ R (f (a, ⟨mid, h⟩))) :
    Reads stop σ ls υ R (r >>= f) := by
  rcases r with e | ⟨a, mid, h⟩
  · exact hr
  · obtain ⟨front, rfl, hrun, hmid⟩ := hr
    exact Outcome.append (hf a mid h hmid) hrun fun _ => Leads.append hrun

theorem Concludes.cons {r : Except SyntaxError Query} (hl : σ.next l.symbol = some τ)
    (h : Concludes stop τ ls r) : Concludes stop σ (l :: ls) r := by
  have hrun : σ.run (symbols [l]) = some τ := by simp [hl]
  refine Outcome.append h hrun fun q hq => ?_
  simpa [hl] using hq

/-- The end of a query is read from the place to which a function has come. -/
theorem Reads.concludes {f : α × Fewer m → Except SyntaxError Query} (hr : Reads stop σ ls τ Q r)
    (hf : ∀ a mid h, Q mid → Concludes stop τ mid (f (a, ⟨mid, h⟩))) :
    Concludes stop σ ls (r >>= f) := by
  rcases r with e | ⟨a, mid, h⟩
  · exact hr
  · obtain ⟨front, rfl, hrun, hmid⟩ := hr
    refine Outcome.append (hf a mid h hmid) hrun fun q hq => ?_
    simpa [Place.run_append, hrun] using hq

end Reads

theorem reads_choose {table : List (Keyword × α)} (hends : σ.ends = false)
    (hnext : ∀ l ∈ ls.head?, σ.next l.symbol = (chosen? table l.symbol).map fun _ => τ) :
    Reads stop σ ls τ (fun _ => True) (choose stop table ls) := by
  rcases ls with _ | ⟨⟨_ | _ | _ | k, p⟩, tail⟩
  case nil => exact outcome_refuse hends
  case cons.keyword =>
    have hk : σ.next (.keyword k) = (table.lookup k).map fun _ => τ := hnext _ rfl
    simp only [choose, choose?]
    cases hlookup : table.lookup k with
    | none =>
      rw [hlookup] at hk
      exact outcome_refuse hk
    | some a =>
      rw [hlookup] at hk
      exact Reads.cons hk ⟨[], rfl, rfl, trivial⟩
  all_goals exact outcome_refuse (hnext _ rfl)

theorem reads_stringLit (hends : σ.ends = false) (hstring : ∀ v, σ.next (.string v) = some τ)
    (hother : ∀ l ∈ ls.head?, (∀ v, l.symbol ≠ .string v) → σ.next l.symbol = none) :
    Reads stop σ ls τ (fun _ => True) (stringLit stop ls) := by
  rcases ls with _ | ⟨⟨_ | _ | v | _, p⟩, tail⟩
  case nil => exact outcome_refuse hends
  case cons.string => exact Reads.cons (hstring v) ⟨[], rfl, rfl, trivial⟩
  all_goals exact outcome_refuse (hother _ rfl (by simp))

/-- The value of a leaf comes, after a word that may be left out. -/
theorem reads_value :
    Reads stop (.is_ depth) ls (.join depth) (fun _ => True) (stringLit stop (skip .is_ ls)) := by
  cases ls with
  | nil => exact reads_stringLit rfl (fun _ => rfl) (by simp)
  | cons l ls =>
    by_cases hl : l.symbol = .keyword .is_
    · rw [skip, if_pos hl]
      refine Reads.cons (τ := .value depth) (by rw [hl]; rfl) ?_
      refine reads_stringLit rfl (fun _ => rfl) fun l _ hl => ?_
      cases hs : l.symbol <;> simp_all [Place.next]
    · rw [skip, if_neg hl]
      refine reads_stringLit rfl (fun _ => rfl) ?_
      rintro _ ⟨rfl⟩ hstring
      cases hs : l.symbol <;> simp_all [Place.next]

/-- What a query lists comes, after a word that may be left out. -/
theorem reads_mode :
    Reads stop .start ls .filter (fun _ => True) (choose stop modes (skip .get ls)) := by
  cases ls with
  | nil => exact reads_choose rfl (by simp)
  | cons l ls =>
    by_cases hl : l.symbol = .keyword .get
    · rw [skip, if_pos hl]
      exact Reads.cons (τ := .mode) (by rw [hl]; rfl) (reads_choose rfl fun _ _ => rfl)
    · rw [skip, if_neg hl]
      refine reads_choose rfl ?_
      rintro _ ⟨rfl⟩
      rw [Place.next]
      exact hl

theorem reads_leaf (h : ¬ Opens .lparen ls) :
    Reads stop (.operand depth) ls (.join depth) (fun _ => True) (leaf stop ls) := by
  have hkind : Reads stop (.operand depth) ls (.is_ depth) (fun _ => True)
      (choose stop leafKinds ls) := by
    refine reads_choose rfl fun l hl => ?_
    cases hs : l.symbol <;> simp_all [Opens, Place.next]
  rw [leaf]
  exact hkind.bind fun kind mid h _ => reads_value.bind fun value rest h' _ => reads_ok trivial

/-- A condition is read in its places, whatever parentheses are open around it. -/
theorem reads_condition (stop : Nat) :
    (∀ ls depth, Reads stop (.operand depth) ls (.join depth) Unjoined (Parser.condition stop ls)) ∧
    (∀ c ls depth, ¬ Opens (.keyword .and_) ls →
      Reads stop (.join depth) ls (.join depth) Unjoined (disjuncts stop c ls)) ∧
    (∀ ls depth, Reads stop (.operand depth) ls (.join depth)
      (fun rest => ¬ Opens (.keyword .and_) rest) (conjunction stop ls)) ∧
    (∀ c ls depth, Reads stop (.join depth) ls (.join depth)
      (fun rest => ¬ Opens (.keyword .and_) rest) (conjuncts stop c ls)) ∧
    (∀ ls depth, Reads stop (.operand depth) ls (.join depth) (fun _ => True)
      (primary stop ls)) := by
  -- The depth is left open, as it grows by one where the recursion passes a parenthesis.
  apply Parser.condition.mutual_induct
  case case1 =>
    intro ls ihc ihd depth
    rw [Parser.condition]
    exact (ihc depth).bind fun c mid h hmid =>
      (ihd c mid h depth hmid).bind fun c rest h hrest => reads_ok hrest
  case case2 =>
    intro c p tail ihc ihd depth _
    rw [disjuncts]
    refine Reads.cons (τ := .operand depth) rfl ?_
    exact (ihc depth).bind fun d mid h hmid =>
      (ihd d mid h depth hmid).bind fun c rest h hrest => reads_ok hrest
  case case3 =>
    intro c ls hls depth hand
    rw [disjuncts]
    · exact reads_ok ⟨hand, not_opens_iff.mpr hls⟩
    · exact hls
  case case4 =>
    intro ls ihc ihd depth
    rw [conjunction]
    exact (ihc depth).bind fun c mid h _ =>
      (ihd c mid h depth).bind fun c rest h hrest => reads_ok hrest
  case case5 =>
    intro c p tail ihc ihd depth
    rw [conjuncts]
    refine Reads.cons (τ := .operand depth) rfl ?_
    exact (ihc depth).bind fun d mid h _ =>
      (ihd d mid h depth).bind fun c rest h hrest => reads_ok hrest
  case case6 =>
    intro c ls hls depth
    rw [conjuncts]
    · exact reads_ok (not_opens_iff.mpr hls)
    · exact hls
  case case7 =>
    intro p tail ih depth
    rw [primary]
    refine Reads.cons (τ := .operand (depth + 1)) rfl ?_
    refine (ih (depth + 1)).bind fun c rest h hrest => ?_
    -- What may follow inside is what closes the parenthesis or joins an operand, and a condition
    -- that was read whole leaves none of the latter.
    rcases rest with _ | ⟨⟨_ | _ | _ | k, q⟩, rest⟩
    case nil => exact outcome_refuse rfl
    case cons.rparen => exact Reads.cons (τ := .join depth) rfl (reads_ok trivial)
    case cons.keyword =>
      refine outcome_refuse ?_
      cases k <;> first | rfl | simp [Unjoined] at hrest
    all_goals exact outcome_refuse rfl
  case case8 =>
    intro ls hls depth
    rw [primary]
    · exact reads_leaf (not_opens_iff.mpr hls)
    · exact hls

section Order

variable {f : Option Order × List Lexeme → Except SyntaxError Query}

/-- A query ends in a place where it may end and nothing that is left may come. -/
theorem concludes_end (hend : ∀ order, ∃ q, f (order, []) = .ok q)
    (hmore : ∀ order l rest, f (order, l :: rest) = refuse stop ["eof"] (l :: rest))
    (hends : σ.ends = true) (hnext : ∀ l ∈ ls.head?, σ.next l.symbol = none)
    (order : Option Order) : Concludes stop σ ls (f (order, ls)) := by
  cases ls with
  | nil =>
    obtain ⟨q, hq⟩ := hend order
    rw [hq]
    exact ⟨σ, rfl, hends⟩
  | cons l ls =>
    rw [hmore]
    exact outcome_refuse (hnext l rfl)

/-- After its condition a query ends, or its order comes and then it ends. -/
theorem concludes_orderClause (hls : Unjoined ls) (hend : ∀ order, ∃ q, f (order, []) = .ok q)
    (hmore : ∀ order l rest, f (order, l :: rest) = refuse stop ["eof"] (l :: rest)) :
    Concludes stop (.join 0) ls (orderClause stop ls >>= f) := by
  have hdone (order : Option Order) (rest : List Lexeme) :
      Concludes stop .done rest (f (order, rest)) :=
    concludes_end hend hmore rfl (fun _ _ => rfl) order
  rcases ls with _ | ⟨⟨_ | _ | v | k, p⟩, tail⟩
  case nil => exact concludes_end hend hmore rfl (by simp) none
  case cons.keyword =>
    cases k
    case and_ => simp [Unjoined] at hls
    case or_ => simp [Unjoined] at hls
    case sorted =>
      refine Concludes.cons (τ := .order) rfl ?_
      have hclause : orderClause stop (⟨.keyword .sorted, p⟩ :: tail) =
          choose stop orders tail >>= fun c => .ok (some c.1, c.2.val) := rfl
      rw [hclause, bind_assoc]
      have horder : Reads stop .order tail .done (fun _ => True) (choose stop orders tail) :=
        reads_choose rfl fun _ _ => rfl
      exact horder.concludes fun order rest _ _ => hdone (some order) rest
    case asc => exact Concludes.cons (τ := .done) rfl (hdone (some .ascending) tail)
    case desc => exact Concludes.cons (τ := .done) rfl (hdone (some .descending) tail)
    all_goals exact concludes_end hend hmore rfl (by rintro _ ⟨rfl⟩; rfl) none
  all_goals exact concludes_end hend hmore rfl (by rintro _ ⟨rfl⟩; rfl) none

end Order

/-- The parser reads a query that its places accept, or refuses it where it leaves them. -/
theorem concludes_query (stop : Nat) (ls : List Lexeme) :
    Concludes stop .start ls (Parser.query stop ls) := by
  rw [Parser.query]
  refine reads_mode.concludes fun mode afterMode _ _ => ?_
  refine (reads_choose rfl fun _ _ => rfl).concludes fun _ afterWhere _ _ => ?_
  refine ((reads_condition stop).1 afterWhere 0).concludes fun c rest _ hrest => ?_
  exact concludes_orderClause hrest (fun _ => ⟨_, rfl⟩) fun _ _ _ => rfl

/-- What places accept is what the grammar derives. -/
theorem accepts_iff : Accepts ts ↔ ∃ q, DerivesQuery ts q := by
  obtain ⟨ls, rfl⟩ := exists_symbols_eq ts
  have hconcludes := concludes_query 0 ls
  constructor
  · intro h
    cases hq : Parser.query 0 ls with
    | ok q => exact ⟨q, query_eq_ok_iff.mp hq⟩
    | error e =>
      rw [hq] at hconcludes
      exact absurd h (Refused.not_accepts hconcludes)
  · rintro ⟨q, h⟩
    rw [query_eq_ok_iff.mpr h] at hconcludes
    exact hconcludes

end WikiGateway.Query
