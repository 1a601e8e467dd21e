import WikiGateway.Failure
import WikiGateway.Query.Parser

/-!
Query texts read by one who can follow only so many open parentheses. Where more of them open,
reading breaks off, unless it has met an error before.
-/
namespace WikiGateway.Query

/-- The failure that a query text with an error amounts to. -/
def SyntaxError.failure (e : SyntaxError) : Failure :=
  .invalidQuery e.complaint.message (some e.position) []

/-- What keeps a text from being read. -/
inductive Unread
  | wrong (e : SyntaxError)
  | tooDeep
  deriving DecidableEq, Repr

namespace Unread

def fault : Unread → Fault
  | wrong e => .failure e.failure
  | tooDeep => .tooDeep

/-- Where the error stands, if there is one. -/
def position? : Unread → Option Nat
  | wrong e => some e.position
  | tooDeep => none

end Unread

/-- The most parentheses that may be open at once. -/
def mostOpen : Nat := 328

/-- Where the first parenthesis opens that finds no room. -/
def deepPlace? : (room : Nat) → List Lexeme → Option Nat
  | _, [] => none
  | 0, ⟨.lparen, position⟩ :: _ => some position
  | room + 1, ⟨.lparen, _⟩ :: ls => deepPlace? room ls
  | room, ⟨.rparen, _⟩ :: ls => deepPlace? (room + 1) ls
  | room, _ :: ls => deepPlace? room ls

/-- The lexemes of a text; of one that cannot be cut into them, none. -/
def lexemes (text : String) : List Lexeme := (scan 0 text.toList).toOption.getD []

/-- Reads a query text as `parse` does, as far as the parentheses can be followed. -/
def read (text : Option String) : Except Unread Query :=
  match parse text, deepPlace? mostOpen (lexemes (text.getD "")) with
  | .ok q, none => .ok q
  | .ok _, some _ => .error .tooDeep
  | .error e, none => .error (.wrong e)
  | .error e, some place => .error (if place < e.position then .tooDeep else .wrong e)

end WikiGateway.Query
