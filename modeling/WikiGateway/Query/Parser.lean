import WikiGateway.Query.Token

/-!
The query grammar, read from left to right:

    query     := ["get"] mode "where" condition [["sorted"] order]
    condition := conjunction ("or" conjunction)*
    conjunction := primary ("and" primary)*
    primary   := "(" condition ")" | leaf
    leaf      := kind ["is"] STRING

Every function takes the lexemes that are left and the position of the end of the text, and gives
what it read with the lexemes after it.
-/
namespace WikiGateway.Query

namespace Parser

/-- Lexemes fewer than `n`. -/
abbrev Fewer (n : Nat) := { rest : List Lexeme // rest.length < n }

variable (stop : Nat)

/-- The complaint that `what` was expected where `ls` starts. -/
def refuse {α : Type} (what : List String) (ls : List Lexeme) : Except SyntaxError α :=
  match ls with
  | [] => .error ⟨.expected what none, stop⟩
  | l :: _ => .error ⟨.expected what (some l.symbol), l.position⟩

/-- Steps over a keyword if it comes next. -/
def skip (k : Keyword) : List Lexeme → List Lexeme
  | [] => []
  | l :: ls => if l.symbol = .keyword k then ls else l :: ls

theorem length_skip_le (k : Keyword) (ls : List Lexeme) : (skip k ls).length ≤ ls.length := by
  cases ls with
  | nil => simp [skip]
  | cons l ls => by_cases h : l.symbol = .keyword k <;> simp [skip, h]

/-- The keyword that comes next, if it stands for something in `table`. -/
def choose? {α : Type} (table : List (Keyword × α)) :
    (ls : List Lexeme) → Option (α × Fewer ls.length)
  | [] => none
  | ⟨.keyword k, _⟩ :: ls => (table.lookup k).map fun a => (a, ⟨ls, by simp⟩)
  | _ :: _ => none

/-- As `choose?`, where one of the keywords has to come. -/
def choose {α : Type} (table : List (Keyword × α)) (ls : List Lexeme) :
    Except SyntaxError (α × Fewer ls.length) :=
  match choose? table ls with
  | some r => .ok r
  | none => refuse stop (table.map (·.1.word)) ls

def leafKinds : List (Keyword × LeafKind) :=
  [(.category, .category), (.title, .title), (.author, .author)]

def modes : List (Keyword × Mode) := [(.page, .page), (.author, .author), (.category, .category)]

def orders : List (Keyword × Order) := [(.asc, .ascending), (.desc, .descending)]

def stringLit (ls : List Lexeme) : Except SyntaxError (String × Fewer ls.length) :=
  match ls with
  | ⟨.string v, _⟩ :: rest => .ok (v, ⟨rest, by simp⟩)
  | _ => refuse stop ["string"] ls

def leaf (ls : List Lexeme) : Except SyntaxError (Condition Empty × Fewer ls.length) := do
  let (kind, ⟨rest, h⟩) ← choose stop leafKinds ls
  let (value, ⟨rest', h'⟩) ← stringLit stop (skip .is_ rest)
  return (.leaf kind value, ⟨rest', by have := length_skip_le .is_ rest; omega⟩)

mutual

def condition (ls : List Lexeme) : Except SyntaxError (Condition Empty × Fewer ls.length) := do
  let (c, ⟨rest, h⟩) ← conjunction ls
  let (c', ⟨rest', h'⟩) ← disjuncts c rest
  return (c', ⟨rest', by omega⟩)
termination_by (ls.length, 3)

/-- The alternatives that follow `c`, joined to it one after the other. -/
def disjuncts (c : Condition Empty) (ls : List Lexeme) :
    Except SyntaxError (Condition Empty × Fewer (ls.length + 1)) :=
  match ls with
  | ⟨.keyword .or_, _⟩ :: tail => do
    let (d, ⟨rest, h⟩) ← conjunction tail
    let (c', ⟨rest', h'⟩) ← disjuncts (.or c d) rest
    return (c', ⟨rest', by rw [List.length_cons]; omega⟩)
  | ls => .ok (c, ⟨ls, by simp⟩)
termination_by (ls.length, 0)

def conjunction (ls : List Lexeme) : Except SyntaxError (Condition Empty × Fewer ls.length) := do
  let (c, ⟨rest, h⟩) ← primary ls
  let (c', ⟨rest', h'⟩) ← conjuncts c rest
  return (c', ⟨rest', by omega⟩)
termination_by (ls.length, 2)

/-- The factors that follow `c`, joined to it one after the other. -/
def conjuncts (c : Condition Empty) (ls : List Lexeme) :
    Except SyntaxError (Condition Empty × Fewer (ls.length + 1)) :=
  match ls with
  | ⟨.keyword .and_, _⟩ :: tail => do
    let (d, ⟨rest, h⟩) ← primary tail
    let (c', ⟨rest', h'⟩) ← conjuncts (.and c d) rest
    return (c', ⟨rest', by rw [List.length_cons]; omega⟩)
  | ls => .ok (c, ⟨ls, by simp⟩)
termination_by (ls.length, 0)

def primary (ls : List Lexeme) : Except SyntaxError (Condition Empty × Fewer ls.length) :=
  match ls with
  | ⟨.lparen, _⟩ :: tail => do
    let (c, ⟨rest, h⟩) ← condition tail
    match rest, h with
    | ⟨.rparen, _⟩ :: rest', h => return (c, ⟨rest', by simp at h ⊢; omega⟩)
    | rest, _ => refuse stop ["rparen"] rest
  | ls => leaf stop ls
termination_by (ls.length, 1)

end

/-- The order at the end of a query; the word before it is optional, but not without it. -/
def orderClause (ls : List Lexeme) : Except SyntaxError (Option Order × List Lexeme) :=
  match ls with
  | ⟨.keyword .sorted, _⟩ :: tail => do
    let (o, rest) ← choose stop orders tail
    return (some o, rest)
  | _ =>
    match choose? orders ls with
    | some (o, rest) => .ok (some o, rest)
    | none => .ok (none, ls)

/-- A whole query, with nothing after it. -/
def query (ls : List Lexeme) : Except SyntaxError Query := do
  let (mode, rest) ← choose stop modes (skip .get ls)
  let (_, rest) ← choose stop [(Keyword.where_, ())] rest.val
  let (c, rest) ← condition stop rest.val
  let (order, rest) ← orderClause stop rest.val
  match rest with
  | [] => return ⟨mode, c, order⟩
  | _ :: _ => refuse stop ["eof"] rest

end Parser

/-- Reads a query text; an absent or blank one is refused at its start. -/
def parse (text : Option String) : Except SyntaxError Query :=
  match text with
  | none => .error ⟨.empty, 0⟩
  | some text =>
    if isBlankText text then .error ⟨.empty, 0⟩
    else do
      let cs := text.toList
      Parser.query cs.length (← scan 0 cs)

end WikiGateway.Query
