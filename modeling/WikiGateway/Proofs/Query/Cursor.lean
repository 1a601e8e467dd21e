import Mathlib.Order.Nat
import WikiGateway.Proofs.Action
import WikiGateway.Proofs.Query.Places
import WikiGateway.Query.Reading

/-!
Queries read from tokens by an index. Nothing here asks how many tokens there are: one that is
looked for beyond the last is a fault, and loops and parentheses go on for as long as there is fuel.
What happens is noted with the place where it happens, so that it can be told afterwards how the
index has moved.
-/
namespace WikiGateway.Query

open WikiGateway.Action

/-- What happens while tokens are read. -/
inductive Event
  /-- The token under the cursor is looked at. -/
  | look
  /-- The cursor goes one token on. -/
  | step
  /-- A loop goes round once more, for a keyword. -/
  | turn (k : Keyword)
  /-- A condition begins in parentheses. -/
  | nest
  /-- An operand that began at `start` has been read. -/
  | operand (start : Nat)
  deriving DecidableEq, Repr

/-- The symbol right after which something begins. -/
def Event.opener? : Event → Option Symbol
  | turn k => some (.keyword k)
  | nest => some .lparen
  | look | step | operand _ => none

/-- What happened, and where the cursor stood then. -/
structure Mark where
  event : Event
  index : Nat
  deriving DecidableEq, Repr

structure Cursor where
  index : Nat
  trail : List Mark
  deriving DecidableEq, Repr

namespace Cursor

def note (e : Event) : Action Cursor Unit := do
  let c ← get
  set { c with trail := c.trail ++ [Mark.mk e c.index] }

def step : Action Cursor Unit := do
  note .step
  let c ← get
  set { c with index := c.index + 1 }

/-- The error of a token in the place of what was expected. -/
def unfit (what : List String) (t : Token) : SyntaxError :=
  ⟨.expected what t.symbol, t.position⟩

section Reading

variable {α : Type} (tokens : List Token)

def peek : Action Cursor Token := do
  note .look
  let c ← get
  match tokens[c.index]? with
  | some t => return t
  | none => throw .missingItem

/-- Steps over a token; at the end of the text the cursor stays. -/
def advance : Action Cursor Token := do
  let t ← peek tokens
  if t.kind ≠ "eof" then step
  return t

/-- Steps over a keyword that stands for something in `table`, if one comes. -/
def accept (table : List (Keyword × α)) : Action Cursor (Option α) := do
  let t ← peek tokens
  match t.symbol.bind (chosen? table) with
  | some a =>
    let _ ← advance tokens
    return some a
  | none => return none

/-- As `accept`, where one of the keywords has to come. -/
def expectKeyword (table : List (Keyword × α)) : Action Cursor α := do
  match ← accept tokens table with
  | some a => return a
  | none =>
    let t ← peek tokens
    throw (.failure (unfit (table.map (·.1.word)) t).failure)

def expect (kind : String) : Action Cursor Token := do
  let t ← peek tokens
  if t.kind = kind then advance tokens
  else throw (.failure (unfit [kind] t).failure)

/-- Steps over a symbol, if it comes, and notes what begins after it. -/
def opens (s : Symbol) (e : Event) : Action Cursor Bool := do
  let t ← peek tokens
  if t.symbol = some s then
    let _ ← advance tokens
    note e
    return true
  else return false

/-- Notes where something has been read to its end. -/
def spanning (body : Action Cursor α) : Action Cursor α := do
  let c ← get
  let a ← body
  note (.operand c.index)
  return a

def leaf : Action Cursor (Condition Empty) := do
  let kind ← expectKeyword tokens Parser.leafKinds
  let _ ← accept tokens [(Keyword.is_, ())]
  let t ← expect tokens "string"
  return .leaf kind t.value

/-- Joins what is read to `c`, as long as the keyword comes. -/
def turns (k : Keyword) (join : Condition Empty → Condition Empty → Condition Empty)
    (item : Action Cursor (Condition Empty)) : Nat → Condition Empty →
      Action Cursor (Condition Empty)
  | 0, _ => throw .unfinished
  | fuel + 1, c => do
    if ← opens tokens (.keyword k) (.turn k) then
      let d ← item
      turns k join item fuel (join c d)
    else return c

mutual

def condition : Nat → Action Cursor (Condition Empty)
  | 0 => throw .unfinished
  | fuel + 1 => do
    let c ← conjunction fuel
    turns tokens .or_ .or (conjunction fuel) fuel c

def conjunction : Nat → Action Cursor (Condition Empty)
  | 0 => throw .unfinished
  | fuel + 1 => do
    let c ← primary fuel
    turns tokens .and_ .and (primary fuel) fuel c

def primary : Nat → Action Cursor (Condition Empty)
  | 0 => throw .unfinished
  | fuel + 1 => spanning do
    if ← opens tokens .lparen .nest then
      let c ← condition fuel
      let _ ← expect tokens "rparen"
      return c
    else leaf tokens

end

def orderClause : Action Cursor (Option Order) := do
  match ← accept tokens [(Keyword.sorted, ())] with
  | some _ =>
    let o ← expectKeyword tokens Parser.orders
    return some o
  | none => accept tokens Parser.orders

def query (fuel : Nat) : Action Cursor Query := do
  let _ ← accept tokens [(Keyword.get, ())]
  let mode ← expectKeyword tokens Parser.modes
  let _ ← expectKeyword tokens [(Keyword.where_, ())]
  let c ← condition tokens fuel
  let order ← orderClause tokens
  let _ ← expect tokens "eof"
  return ⟨mode, c, order⟩

variable {tokens} {t : Token} {c : Cursor}

@[simp]
theorem runIn_note (e : Event) (c : Cursor) :
    (note e).runIn c = (.ok ⟨⟩, { c with trail := c.trail ++ [⟨e, c.index⟩] }) := rfl

theorem runIn_peek (h : tokens[c.index]? = some t) :
    (peek tokens).runIn c = (.ok t, ⟨c.index, c.trail ++ [⟨.look, c.index⟩]⟩) := by
  simp [peek, runIn_bind, h]

theorem runIn_advance (h : tokens[c.index]? = some t) (ht : t.kind ≠ "eof") :
    (advance tokens).runIn c =
      (.ok t, ⟨c.index + 1, c.trail ++ [⟨.look, c.index⟩, ⟨.step, c.index⟩]⟩) := by
  simp [advance, step, runIn_bind, runIn_peek h, ht, Except.map]

theorem runIn_advance_end (h : tokens[c.index]? = some t) (ht : t.kind = "eof") :
    (advance tokens).runIn c = (.ok t, ⟨c.index, c.trail ++ [⟨.look, c.index⟩]⟩) := by
  simp [advance, runIn_bind, runIn_peek h, ht]

end Reading

end Cursor

/-- A mark in its place on the way of a cursor from `i` to `j`: a step goes over a token before `j`,
what begins after a symbol has it right before, and an operand has taken some token. -/
structure Mark.Within (tokens : List Token) (i j : Nat) (m : Mark) : Prop where
  start_le : i ≤ m.index
  le_finish : m.index ≤ j
  step_lt : m.event = .step → m.index < j
  opener : ∀ s, m.event.opener? = some s →
    i < m.index ∧ ∃ t, tokens[m.index - 1]? = some t ∧ t.symbol = some s
  operand_lt : ∀ start, m.event = .operand start → start < m.index

/-- A mark that comes after another is not further back. It is further on if the one before it is a
step, or if it is something that begins after a symbol. -/
def Mark.Before (a b : Mark) : Prop :=
  a.index ≤ b.index ∧ (a.event = .step ∨ b.event.opener?.isSome → a.index < b.index)

/-- The way of a cursor from `i` to `j`, where some token stands. -/
structure Way (tokens : List Token) (i j : Nat) (trail : List Mark) : Prop where
  inside : j < tokens.length
  steps : i + trail.countP (·.event = .step) = j
  within : ∀ m ∈ trail, m.Within tokens i j
  ordered : trail.Pairwise Mark.Before

variable {tokens : List Token} {i i' j k : Nat} {ms ns : List Mark} {m n : Mark} {e : Event}
  {s : Symbol} {t : Token} {trail : List Mark}

theorem Mark.Within.mono (h : m.Within tokens i j) (hi : i' ≤ i) (hj : j ≤ k) :
    m.Within tokens i' k where
  start_le := hi.trans h.start_le
  le_finish := h.le_finish.trans hj
  step_lt hstep := (h.step_lt hstep).trans_le hj
  opener s hs := (h.opener s hs).imp_left hi.trans_lt
  operand_lt := h.operand_lt

/-- The marks of one way come before those of the next. -/
theorem Mark.Within.before (hm : m.Within tokens i j) (hn : n.Within tokens j k) :
    m.Before n := by
  refine ⟨hm.le_finish.trans hn.start_le, ?_⟩
  rintro (hstep | hopener)
  · exact (hm.step_lt hstep).trans_le hn.start_le
  · obtain ⟨s, hs⟩ := Option.isSome_iff_exists.mp hopener
    exact hm.le_finish.trans_lt (hn.opener s hs).1

namespace Way

theorem le (h : Way tokens i j ms) : i ≤ j := by
  rw [← h.steps]
  exact Nat.le_add_right _ _

theorem nil (h : i < tokens.length) : Way tokens i i [] where
  inside := h
  steps := rfl
  within := by simp
  ordered := .nil

theorem append (h : Way tokens i j ms) (h' : Way tokens j k ns) : Way tokens i k (ms ++ ns) where
  inside := h'.inside
  steps := by rw [List.countP_append, ← Nat.add_assoc, h.steps, h'.steps]
  within m hm := by
    rcases List.mem_append.mp hm with hm | hm
    · exact (h.within m hm).mono le_rfl h'.le
    · exact (h'.within m hm).mono h.le le_rfl
  ordered := List.pairwise_append.mpr
    ⟨h.ordered, h'.ordered, fun a ha b hb => (h.within a ha).before (h'.within b hb)⟩

/-- Something more is noted at the end of a way. -/
theorem note (h : Way tokens i j ms) (he : Mark.Within tokens i j ⟨e, j⟩)
    (hlast : e.opener?.isSome → ∀ m ∈ ms, m.index < j) : Way tokens i j (ms ++ [⟨e, j⟩]) where
  inside := h.inside
  steps := by
    have hstep : e ≠ .step := fun hstep => lt_irrefl j (he.step_lt hstep)
    simpa [List.countP_append, hstep] using h.steps
  within m hm := by
    rcases List.mem_append.mp hm with hm | hm
    · exact h.within m hm
    · exact List.mem_singleton.mp hm ▸ he
  ordered := by
    refine List.pairwise_append.mpr ⟨h.ordered, List.pairwise_singleton _ _, fun a ha b hb => ?_⟩
    obtain rfl := List.mem_singleton.mp hb
    refine ⟨(h.within a ha).le_finish, ?_⟩
    rintro (hstep | hopener)
    · exact (h.within a ha).step_lt hstep
    · exact hlast hopener a ha

theorem look (h : i < tokens.length) : Way tokens i i [⟨.look, i⟩] :=
  (nil h).note ⟨le_rfl, le_rfl, by simp, by simp [Event.opener?], by simp⟩ (by simp)

theorem step (h : i + 1 < tokens.length) : Way tokens i (i + 1) [⟨.step, i⟩] where
  inside := h
  steps := rfl
  within m hm := by
    obtain rfl := List.mem_singleton.mp hm
    exact ⟨le_rfl, Nat.le_succ i, by simp, by simp [Event.opener?], by simp⟩
  ordered := List.pairwise_singleton _ _

/-- A token is stepped over. -/
theorem advance (h : i + 1 < tokens.length) :
    Way tokens i (i + 1) [⟨.look, i⟩, ⟨.step, i⟩] :=
  (look (Nat.lt_of_succ_lt h)).append (step h)

/-- A symbol is stepped over and something begins after it. -/
theorem opened (he : e.opener? = some s) (ht : tokens[i]? = some t) (hs : t.symbol = some s)
    (h : i + 1 < tokens.length) :
    Way tokens i (i + 1) [⟨.look, i⟩, ⟨.look, i⟩, ⟨.step, i⟩, ⟨e, i + 1⟩] := by
  have hpassed : Way tokens i (i + 1) [⟨.look, i⟩, ⟨.look, i⟩, ⟨.step, i⟩] :=
    (look (Nat.lt_of_succ_lt h)).append (advance h)
  refine hpassed.note ⟨Nat.le_succ i, le_rfl, ?_, ?_, ?_⟩ (by simp)
  · rintro rfl
    cases he
  · intro s' hs'
    obtain rfl : s = s' := Option.some.inj (he.symm.trans hs')
    exact ⟨Nat.lt_succ_self i, t, ht, hs⟩
  · rintro start rfl
    cases he

/-- What is noted of an operand that has taken a token. -/
theorem operand (h : Way tokens i j ms) (hlt : i < j) :
    Way tokens i j (ms ++ [⟨.operand i, j⟩]) :=
  h.note ⟨h.le, le_rfl, by simp, by simp [Event.opener?], by simpa using hlt⟩
    (by simp [Event.opener?])

end Way

end WikiGateway.Query
