import WikiGateway.Decimal.Reading

/-!
Whole numbers as they are given in fields of text. A number is first read as it stands, and then
once more without what does not change it: blanks, a plus sign, zeros at its start or after its
sign, a point with zeros after it, and single underscores.
-/
namespace WikiGateway.Decimal

/-- What a text comes to that should be a whole number. -/
inductive WholeText
  | value (n : Int)
  | tooLong
  | unreadable
  deriving DecidableEq, Repr

/-- Reads digits that start with no zero, but for zero itself, and may have a minus sign. Too many
of them are refused whatever follows. -/
def readPlain (cs : List Char) : WholeText :=
  let (negative, digits) := match cs with
    | '-' :: digits => (true, digits)
    | digits => (false, digits)
  let run := digits.takeWhile Char.isDigit
  let rest := digits.drop run.length
  if run = ['0'] then (if rest.isEmpty then .value 0 else .unreadable)
  else if run.isEmpty || run.head? = some '0' then .unreadable
  else if mostDigits < run.length then .tooLong
  else if rest.isEmpty then
    .value (if negative then -(digitsToNat run : Int) else digitsToNat run)
  else .unreadable

/-- Takes out underscores, unless one stands at an end or next to another. -/
def dropUnderscores (cs : List Char) : List Char :=
  let doubled := (cs.zip cs.tail).any fun (a, b) => a == '_' && b == '_'
  if cs.head? = some '_' ∨ cs.getLast? = some '_' ∨ doubled then cs else cs.filter (· ≠ '_')

/-- Drops the zeros at the start and the underscores among them, but leaves the last of them before
a point or the end. -/
def dropZeros? (cs : List Char) : Option (List Char) :=
  match cs with
  | '0' :: _ =>
    let isFiller (c : Char) : Bool := c == '0' || c == '_'
    let fillers := cs.takeWhile isFiller
    match cs.drop fillers.length with
    | [] => some fillers.getLast?.toList
    | '.' :: rest => some (fillers.getLast?.toList ++ '.' :: rest)
    | c :: rest => if c.isDigit || c == '-' then some (c :: rest) else none
  | c :: _ => if c.isDigit then some cs else none
  | [] => none

/-- Drops a point with one zero or more, and nothing else, after it. -/
def dropFraction (cs : List Char) : List Char :=
  let whole := cs.takeWhile (· ≠ '.')
  let fraction := cs.drop (whole.length + 1)
  if fraction.isEmpty || fraction.any (· ≠ '0') then cs else whole

def readWhole (s : String) : WholeText :=
  match readPlain s.toList with
  | .unreadable =>
    let (sign, digits) := match trimPadding s.toList with
      | '-' :: cs => (['-'], cs)
      | '+' :: cs => ([], cs)
      | cs => ([], cs)
    let read (cs : List Char) := readPlain (sign ++ dropUnderscores (dropFraction cs))
    match (dropZeros? digits).map read with
    | some (.value n) => .value n
    | _ => .unreadable
  | answer => answer

end WikiGateway.Decimal
