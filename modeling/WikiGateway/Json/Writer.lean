import WikiGateway.Json.Value
import WikiGateway.Decimal.Text
import WikiGateway.Text.Quoted

/-! JSON values written as text, and the shorter form in which messages show them. -/
namespace WikiGateway.Json

/-- A character of a string: the quote, the backslash and the controls below U+0020 are escaped. -/
def escape (c : Char) : List Char :=
  match c with
  | '"' => ['\\', '"'] | '\\' => ['\\', '\\'] | '\n' => ['\\', 'n'] | '\r' => ['\\', 'r']
  | '\t' => ['\\', 't'] | '\x08' => ['\\', 'b'] | '\x0c' => ['\\', 'f']
  | c => if c.val.toNat < 0x20 then '\\' :: 'u' :: hexDigits 4 c.val.toNat else [c]

def writeString (s : String) : String :=
  "\"" ++ String.ofList (s.toList.flatMap escape) ++ "\""

mutual

/-- The text of a value, with a blank after each comma and colon. -/
def write : Json → String
  | null => "null"
  | bool b => if b then "true" else "false"
  | int n => toString n
  | float x => Decimal.textWith "NaN" "Infinity" "-Infinity" x
  | str s => writeString s
  | arr items => "[" ++ ", ".intercalate (writeItems items) ++ "]"
  | obj members => "\x7b" ++ ", ".intercalate (writeMembers members) ++ "\x7d"

def writeItems : List Json → List String
  | [] => []
  | v :: vs => write v :: writeItems vs

def writeMembers : List (String × Json) → List String
  | [] => []
  | (k, v) :: ms => (writeString k ++ ": " ++ write v) :: writeMembers ms

end

mutual

/-- A value inside a message, texts in quotes. -/
def inMessage : Json → String
  | null => "None"
  | bool b => if b then "True" else "False"
  | int n => toString n
  | float x => Decimal.text x
  | str s => quoted s
  | arr items => "[" ++ ", ".intercalate (itemsInMessage items) ++ "]"
  | obj members => "\x7b" ++ ", ".intercalate (membersInMessage members) ++ "\x7d"

def itemsInMessage : List Json → List String
  | [] => []
  | v :: vs => inMessage v :: itemsInMessage vs

def membersInMessage : List (String × Json) → List String
  | [] => []
  | (k, v) :: ms => (quoted k ++ ": " ++ inMessage v) :: membersInMessage ms

end

/-- A value as a message, a text without quotes. -/
def message : Json → String
  | str s => s
  | v => inMessage v

end WikiGateway.Json
