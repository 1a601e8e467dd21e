import WikiGateway.Validation

/-!
Points in time as they are given in fields: by a calendar date with or without a time of day, or by
a number of seconds or of thousandths since the start of 1970.
-/
namespace WikiGateway.Moment

/-- A number of so many digits at the start, and what follows it. -/
def digits? (count : Nat) (cs : List Char) : Option (Nat × List Char) :=
  let run := cs.take count
  if run.length = count ∧ run.all Char.isDigit then
    some (Decimal.digitsToNat run, cs.drop count)
  else none

/-- A number of two digits that is at most `most`, and what follows it. -/
def pair? (most : Nat) (cs : List Char) : Option (Nat × List Char) := do
  let (n, rest) ← digits? 2 cs
  if n ≤ most then return (n, rest) else none

/-- What follows a character at the start. -/
def after? (c : Char) : List Char → Option (List Char)
  | d :: cs => if d = c then some cs else none
  | [] => none

def isLeap (year : Nat) : Bool := year % 4 == 0 && (year % 100 != 0 || year % 400 == 0)

def daysIn (year month : Nat) : Nat :=
  if month = 2 then (if isLeap year then 29 else 28)
  else if month = 4 ∨ month = 6 ∨ month = 9 ∨ month = 11 then 30
  else 31

/-- The year of a date, and what follows its year, month and day. -/
def date? (cs : List Char) : Option (Nat × List Char) := do
  let (year, cs) ← digits? 4 cs
  let (month, cs) ← pair? 12 (← after? '-' cs)
  let (day, cs) ← pair? (daysIn year month) (← after? '-' cs)
  if month = 0 ∨ day = 0 then none else return (year, cs)

/-- What follows the seconds of a time of day and a fraction of them, if they are given. -/
def afterSeconds? (cs : List Char) : Option (List Char) :=
  match cs with
  | ':' :: cs => do
    let (_, cs) ← pair? 59 cs
    match cs with
    | mark :: cs =>
      if mark = '.' ∨ mark = ',' then
        if cs.head?.any Char.isDigit then return cs.dropWhile Char.isDigit else none
      else return mark :: cs
    | [] => return []
  | cs => some cs

/-- Whether this is the zone of a time: none, `Z`, or an offset of less than a day. -/
def isZone : List Char → Bool
  | [] => true
  | ['Z'] => true
  | ['z'] => true
  | sign :: cs =>
    let offset? : Option (List Char) := do
      let (_, cs) ← pair? 23 cs
      let (_, cs) ← pair? 59 ((after? ':' cs).getD cs)
      return cs
    (sign == '+' || sign == '-' || sign == '\u2212') && offset? == some []

/-- Whether this is a time of day with its zone. -/
def isTime (cs : List Char) : Bool :=
  let rest? : Option (List Char) := do
    let (_, cs) ← pair? 23 cs
    let (_, cs) ← pair? 59 (← after? ':' cs)
    afterSeconds? cs
  rest?.any isZone

/-- Where a point in time lies. The calendar has the years from 1 to 9999; the year before them is
understood, but not in it. -/
inductive Place
  | inCalendar | inYearZero | outside
  deriving DecidableEq, Repr

def Place.ofYear (year : Nat) : Place := if year = 0 then .inYearZero else .inCalendar

/-- The place of a second, counted from the start of 1970. -/
def Place.ofSecond (second : Int) : Place :=
  if second < -62167219200 ∨ 253402300799 < second then .outside
  else if second < -62135596800 then .inYearZero
  else .inCalendar

/-- The last second for which a number is taken for one of seconds, on either side of 1970; beyond
it numbers are taken for thousandths. -/
def lastSecond : Nat := 20000000000

/-- The second of a whole number. -/
def secondOf (n : Int) : Int := if n.natAbs ≤ lastSecond then n else n.fdiv 1000

/-- The second in which a number with a fraction lies. -/
def secondOfFloat (x : Float) : Int :=
  floorInt (if Float.ofNat lastSecond < x.abs then x / 1000 else x)

/-- The place of a number with a fraction. -/
def placeOfFloat (x : Float) : Place :=
  if x.isFinite then .ofSecond (secondOfFloat x) else .outside

/-- The place of a number given as a text: digits, with a sign or without. Where a point is among
them there may be an exponent too. -/
def placeOfNumber (cs : List Char) : Place :=
  let (negative, magnitude) := Decimal.splitSign cs
  let whole := magnitude.takeWhile Char.isDigit
  match magnitude.drop whole.length with
  | [] =>
    let n : Int := Decimal.digitsToNat whole
    if whole.isEmpty then .outside else .ofSecond (secondOf (if negative then -n else n))
  | '.' :: _ => (Decimal.signed? cs).elim .outside placeOfFloat
  | _ => .outside

/-- The place of what a text gives. -/
def placeOfText (s : String) : Place :=
  match date? s.toList with
  | some (year, []) => .ofYear year
  | some (year, mark :: time) =>
    if "Tt _".toList.contains mark && isTime time then .ofYear year else .outside
  | none => placeOfNumber s.toList

/-- A point in time, as it was given. -/
def read : Json.Reader Json := fun v =>
  match v with
  | .str s =>
    match placeOfText s with
    | .inCalendar => .ok v
    | .inYearZero => .error .unreadableMoment
    | .outside => .error .noDate
  | .int n =>
    if Place.ofSecond (secondOf n) = .inCalendar then .ok v
    else .error (if (Decimal.ofInt? n).isSome then .unreadableMoment else .notMoment)
  | .float x => if placeOfFloat x = .inCalendar then .ok v else .error .unreadableMoment
  | _ => .error .notMoment

end WikiGateway.Moment
