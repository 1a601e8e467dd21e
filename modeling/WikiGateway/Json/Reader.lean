import WikiGateway.Json.Value
import WikiGateway.Decimal.Reading

/-!
JSON texts read into values. Besides the standard's values the words `NaN`, `Infinity` and
`-Infinity` are accepted; of a repeated member the last value counts, in the first one's place.
-/
namespace WikiGateway.Json

/-- Why a text was not read. -/
inductive ReadError
  | syntaxError
  /-- A whole number has more digits than are converted. -/
  | tooManyDigits
  /-- More arrays and objects are open at once than can be followed. -/
  | tooDeep
  deriving DecidableEq, Repr

/-- The most digits that a whole number may have. -/
def maxDigits : Nat := 4300

def isSpace (c : Char) : Bool := c == ' ' || c == '\t' || c == '\n' || c == '\r'

def skipSpace (cs : List Char) : List Char := cs.dropWhile isSpace

def hexValue? (c : Char) : Option Nat :=
  if c.isDigit then some (c.val.toNat - 48)
  else if 'a' ≤ c ∧ c ≤ 'f' then some (c.val.toNat - 87)
  else if 'A' ≤ c ∧ c ≤ 'F' then some (c.val.toNat - 55)
  else none

/-- Four hexadecimal digits. -/
def unit? : List Char → Option (Nat × List Char)
  | a :: b :: c :: d :: cs => do
    let a ← hexValue? a
    let b ← hexValue? b
    let c ← hexValue? c
    let d ← hexValue? d
    return (a * 4096 + b * 256 + c * 16 + d, cs)
  | _ => none

/-- The second half of a pair of units, if it comes next. -/
def lowUnit? : List Char → Option (Nat × List Char)
  | '\\' :: 'u' :: cs => (unit? cs).bind fun (low, cs) =>
    if 0xdc00 ≤ low ∧ low ≤ 0xdfff then some (low, cs) else none
  | _ => none

/-- The character that stands for a unit without its other half. -/
def replacement : Char := Char.ofNat 0xfffd

/-- The character of a unit, and of the one after it if the two are halves of one. -/
def escapedChar (unit : Nat) (cs : List Char) : Char × List Char :=
  if 0xd800 ≤ unit ∧ unit ≤ 0xdbff then
    match lowUnit? cs with
    | some (low, rest) => (Char.ofNat (0x10000 + (unit - 0xd800) * 1024 + (low - 0xdc00)), rest)
    | none => (replacement, cs)
  else if 0xdc00 ≤ unit ∧ unit ≤ 0xdfff then (replacement, cs)
  else (Char.ofNat unit, cs)

def simpleEscape? : Char → Option Char
  | '"' => some '"' | '\\' => some '\\' | '/' => some '/'
  | 'b' => some '\x08' | 'f' => some '\x0c' | 'n' => some '\n' | 'r' => some '\r'
  | 't' => some '\t' | _ => none

/-- The inside of a string, after its opening quote. -/
def readString : (fuel : Nat) → (read : List Char) → List Char →
    Except ReadError (String × List Char)
  | 0, _, _ => .error .syntaxError
  | fuel + 1, read, cs =>
    match cs with
    | [] => .error .syntaxError
    | '"' :: rest => .ok (String.ofList read.reverse, rest)
    | '\\' :: 'u' :: rest =>
      match unit? rest with
      | none => .error .syntaxError
      | some (unit, rest) =>
        let (c, rest) := escapedChar unit rest
        readString fuel (c :: read) rest
    | '\\' :: c :: rest =>
      match simpleEscape? c with
      | none => .error .syntaxError
      | some c => readString fuel (c :: read) rest
    | c :: rest =>
      if c.val.toNat < 0x20 ∨ c = '\\' then .error .syntaxError
      else readString fuel (c :: read) rest

/-- The digits after a point, if a point with digits comes next. -/
def fractionDigits (cs : List Char) : List Char :=
  match cs with
  | '.' :: after => after.takeWhile Char.isDigit
  | _ => []

/-- The exponent that comes next, with its mark and sign, if it is complete. -/
def exponentPart : List Char → List Char
  | mark :: cs =>
    if mark = 'e' ∨ mark = 'E' then
      let (sign, after) := match cs with
        | '-' :: after => (['-'], after)
        | '+' :: after => (['+'], after)
        | after => ([], after)
      let digits := after.takeWhile Char.isDigit
      if digits.isEmpty then [] else 'e' :: (sign ++ digits)
    else []
  | [] => []

/-- A number after its sign. -/
def readNumber (negative : Bool) (cs : List Char) : Except ReadError (Json × List Char) :=
  let whole :=
    match cs with
    | '0' :: _ => ['0']
    | _ => cs.takeWhile Char.isDigit
  let rest := cs.drop whole.length
  let fraction := fractionDigits rest
  let rest := if fraction.isEmpty then rest else rest.drop (fraction.length + 1)
  let exponent := exponentPart rest
  let rest := rest.drop exponent.length
  if whole.isEmpty then .error .syntaxError
  else if fraction.isEmpty ∧ exponent.isEmpty then
    if maxDigits < whole.length then .error .tooManyDigits
    else
      let n : Int := Decimal.digitsToNat whole
      .ok (int (if negative then -n else n), rest)
  else
    let e := (Decimal.exponent? exponent).getD 0
    let x := Decimal.toFloat (Decimal.digitsToNat (whole ++ fraction)) (e - fraction.length)
    .ok (float (if negative then -x else x), rest)

/-- What follows `word` in the text, if the text starts with it. -/
def after? (word : String) (cs : List Char) : Option (List Char) :=
  let w := word.toList
  if w.isPrefixOf cs then some (cs.drop w.length) else none

/-- The words that stand for values. -/
def words : List (String × Json) :=
  [("null", null), ("true", bool true), ("false", bool false), ("NaN", float (0.0 / 0.0)),
    ("Infinity", float (1.0 / 0.0)), ("-Infinity", float (-1.0 / 0.0))]

def readWord? (cs : List Char) : Option (Json × List Char) :=
  words.findSome? fun (word, value) => (after? word cs).map fun rest => (value, rest)

mutual

/-- A value; at most `room` arrays and objects may be open at once in it. -/
def readValue (room : Nat) : (fuel : Nat) → List Char → Except ReadError (Json × List Char)
  | 0, _ => .error .syntaxError
  | fuel + 1, cs =>
    match cs with
    | '"' :: rest => do
      let (s, rest) ← readString rest.length.succ [] rest
      return (str s, rest)
    | '[' :: rest =>
      if room = 0 then .error .tooDeep
      else
        match skipSpace rest with
        | ']' :: rest => .ok (arr [], rest)
        | rest => readItems (room - 1) fuel [] rest
    | '{' :: rest =>
      if room = 0 then .error .tooDeep
      else
        match skipSpace rest with
        | '}' :: rest => .ok (obj [], rest)
        | rest => readMembers (room - 1) fuel [] rest
    | cs =>
      match readWord? cs with
      | some r => .ok r
      | none =>
        match cs with
        | '-' :: rest => readNumber true rest
        | cs => readNumber false cs

/-- The items of an array, of which `read` were read, last first. -/
def readItems (room : Nat) : (fuel : Nat) → (read : List Json) → List Char →
    Except ReadError (Json × List Char)
  | 0, _, _ => .error .syntaxError
  | fuel + 1, read, cs => do
    let (v, rest) ← readValue room fuel cs
    match skipSpace rest with
    | ']' :: rest => return (arr (v :: read).reverse, rest)
    | ',' :: rest => readItems room fuel (v :: read) (skipSpace rest)
    | _ => .error .syntaxError

/-- The members of an object, of which `read` were read. -/
def readMembers (room : Nat) : (fuel : Nat) → (read : List (String × Json)) → List Char →
    Except ReadError (Json × List Char)
  | 0, _, _ => .error .syntaxError
  | fuel + 1, read, cs =>
    match cs with
    | '"' :: rest => do
      let (key, rest) ← readString rest.length.succ [] rest
      match skipSpace rest with
      | ':' :: rest => do
        let (v, rest) ← readValue room fuel (skipSpace rest)
        let read := putEntry key v read
        match skipSpace rest with
        | '}' :: rest => return (obj read, rest)
        | ',' :: rest => readMembers room fuel read (skipSpace rest)
        | _ => .error .syntaxError
      | _ => .error .syntaxError
    | _ => .error .syntaxError

end

/-- The most arrays and objects that may be open at once. -/
def mostNested : Nat := 980

/-- Reads a text that holds one value and blanks around it. -/
def read (text : String) (room : Nat := mostNested) : Except ReadError Json := do
  let cs := text.toList
  let (v, rest) ← readValue room (2 * cs.length + 2) (skipSpace cs)
  if (skipSpace rest).isEmpty then return v else .error .syntaxError

end WikiGateway.Json
