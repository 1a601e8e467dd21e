import WikiGateway.Query.Syntax
import WikiGateway.Text.Blank
import WikiGateway.Text.Quoted

/-! Query texts cut into lexemes: parentheses, quoted strings and keywords, with blanks between. -/
namespace WikiGateway.Query

inductive Keyword
  | get | page | author | category | title | where_ | is_ | and_ | or_ | sorted | asc | desc
  deriving DecidableEq, Repr

namespace Keyword

def word : Keyword → String
  | get => "get" | page => "page" | author => "author" | category => "category"
  | title => "title" | where_ => "where" | is_ => "is" | and_ => "and" | or_ => "or"
  | sorted => "sorted" | asc => "asc" | desc => "desc"

def all : List Keyword :=
  [get, page, author, category, title, where_, is_, and_, or_, sorted, asc, desc]

theorem mem_all (k : Keyword) : k ∈ all := by cases k <;> decide

/-- The keyword that a word spells, in letters of either case. -/
def ofWord? (cs : List Char) : Option Keyword :=
  all.find? fun k => k.word.toList = cs.map Char.toLower

end Keyword

/-- The terminal symbols of the query grammar. -/
inductive Symbol
  | lparen | rparen | string (value : String) | keyword (k : Keyword)
  deriving DecidableEq, Repr

namespace Symbol

/-- The text that a symbol stands for in messages. -/
def value : Symbol → String
  | lparen => "("
  | rparen => ")"
  | string v => v
  | keyword k => k.word

def kind : Symbol → String
  | lparen => "lparen"
  | rparen => "rparen"
  | string _ => "string"
  | keyword _ => "keyword"

end Symbol

/-- A symbol and where it starts, in characters. -/
structure Lexeme where
  symbol : Symbol
  position : Nat
  deriving DecidableEq, Repr

/-- What is wrong with a query text. -/
inductive Complaint
  | empty
  | unterminatedString
  | unexpectedCharacter (c : Char)
  | unknownKeyword (word : String)
  /-- Something else was expected; `found` is none at the end of the text. -/
  | expected (what : List String) (found : Option Symbol)
  deriving DecidableEq, Repr

/-- The text of a complaint. An empty string in the query reads as its end. -/
def Complaint.message : Complaint → String
  | empty => "empty query"
  | unterminatedString => "unterminated string"
  | unexpectedCharacter c => "unexpected character " ++ quoted (String.singleton c)
  | unknownKeyword w => "unknown keyword " ++ quoted w
  | expected what found =>
    let text := (found.map Symbol.value).getD ""
    "expected " ++ " or ".intercalate what ++ ", found " ++
      quoted (if text.isEmpty then "end of query" else text)

structure SyntaxError where
  complaint : Complaint
  position : Nat
  deriving DecidableEq, Repr

def isWordChar (c : Char) : Bool := c.isAlpha || c == '_'

/-- The text up to the next `quote` and what follows that quote. -/
def splitAtQuote (quote : Char) : List Char → Option (List Char × List Char)
  | [] => none
  | c :: cs =>
    if c = quote then some ([], cs)
    else (splitAtQuote quote cs).map fun (inside, rest) => (c :: inside, rest)

theorem splitAtQuote_eq_some {quote : Char} {cs inside rest : List Char}
    (h : splitAtQuote quote cs = some (inside, rest)) :
    cs = inside ++ quote :: rest ∧ quote ∉ inside := by
  induction cs generalizing inside with
  | nil => simp [splitAtQuote] at h
  | cons c cs ih =>
    simp only [splitAtQuote] at h
    split at h
    · rename_i hc
      obtain ⟨rfl, rfl⟩ := by simpa using h
      simp [hc]
    · rename_i hc
      obtain ⟨p, hp, he⟩ := Option.map_eq_some_iff.1 h
      obtain ⟨i, r⟩ := p
      obtain ⟨rfl, rfl⟩ := by simpa using he
      obtain ⟨h1, h2⟩ := ih hp
      exact ⟨by simp [h1], by simp [Ne.symm hc, h2]⟩

theorem splitAtQuote_eq_none {quote : Char} {cs : List Char} :
    splitAtQuote quote cs = none ↔ quote ∉ cs := by
  induction cs with
  | nil => simp [splitAtQuote]
  | cons c cs ih => by_cases h : c = quote <;> simp [splitAtQuote, h, Ne.symm, ih]

theorem length_dropWhile_le (p : Char → Bool) (cs : List Char) :
    (cs.dropWhile p).length ≤ cs.length :=
  (List.dropWhile_sublist p).length_le

/-- The lexemes of a text whose first character stands at `position`. -/
def scan (position : Nat) (text : List Char) : Except SyntaxError (List Lexeme) :=
  match text with
  | [] => .ok []
  | c :: cs =>
    if isBlank c then scan (position + 1) cs
    else if c = '(' then return ⟨.lparen, position⟩ :: (← scan (position + 1) cs)
    else if c = ')' then return ⟨.rparen, position⟩ :: (← scan (position + 1) cs)
    else if c = '"' ∨ c = '\'' then
      match h : splitAtQuote c cs with
      | none => .error ⟨.unterminatedString, position⟩
      | some (inside, rest) =>
        return ⟨.string (String.ofList inside), position⟩ ::
          (← scan (position + inside.length + 2) rest)
    else if isWordChar c then
      let word := c :: cs.takeWhile isWordChar
      match Keyword.ofWord? word with
      | none => .error ⟨.unknownKeyword (String.ofList word), position⟩
      | some k =>
        return ⟨.keyword k, position⟩ :: (← scan (position + word.length) (cs.dropWhile isWordChar))
    else .error ⟨.unexpectedCharacter c, position⟩
termination_by text.length
decreasing_by
  · exact Nat.lt_succ_self _
  · exact Nat.lt_succ_self _
  · exact Nat.lt_succ_self _
  · have := (splitAtQuote_eq_some h).1
    simp only [this, List.length_append, List.length_cons]
    omega
  · exact Nat.lt_succ_of_le (length_dropWhile_le _ _)

@[simp]
theorem scan_nil (p : Nat) : scan p [] = .ok [] := by rw [scan]

theorem scan_cons_of_isBlank {c : Char} (h : isBlank c = true) (p : Nat) (cs : List Char) :
    scan p (c :: cs) = scan (p + 1) cs := by
  rw [scan, if_pos h]

/-- A place in a query text: a symbol or, last of all, the end of the text. -/
structure Token where
  symbol : Option Symbol
  position : Nat
  deriving DecidableEq, Repr

namespace Token

def kind (t : Token) : String := (t.symbol.map Symbol.kind).getD "eof"

def value (t : Token) : String := (t.symbol.map Symbol.value).getD ""

end Token

/-- The lexemes of a text, then its end. -/
def tokenize (text : String) : Except SyntaxError (List Token) :=
  let cs := text.toList
  return (← scan 0 cs).map (fun l => ⟨some l.symbol, l.position⟩) ++ [⟨none, cs.length⟩]

end WikiGateway.Query
