import WikiGateway.Failure
import WikiGateway.Instant

/-!
What a wiki gives where it names pages, categories and authors, or gives the text of a page. These
are texts, unless the wiki breaks its word; then they are listed and kept as they are, but nothing
can be asked about them.
-/
namespace WikiGateway

/-- The order of texts: by code points. -/
def sortTexts (ts : List String) : List String := ts.mergeSort fun a b => decide (a ≤ b)

/-- Things that a wiki gives for names and texts. -/
class Named (ν : Type) where
  ofText : String → ν
  /-- The text that a thing is; one that is none is not known to the wiki. -/
  text? : ν → Option String
  toJson : ν → Json
  /-- Whether two things are the same one. -/
  isSame : ν → ν → Bool
  /-- Whether a thing can be told from others; one that has parts cannot. -/
  isAtomic : ν → Bool
  /-- Whether there is anything at all. -/
  isGiven : ν → Bool
  /-- Whether a thing counts as one: nothing, zero and what is empty do not. -/
  isSet : ν → Bool
  /-- Puts things in order, if they have one. -/
  sort? : List ν → Option (List ν)

instance : Named String where
  ofText := id
  text? := some
  toJson := .str
  isSame a b := a == b
  isAtomic _ := true
  isGiven _ := true
  isSet s := !s.isEmpty
  sort? ss := some (sortTexts ss)

namespace Named

variable {ν : Type} [Named ν]

/-- The text under which a thing is asked about. -/
def title (x : ν) : Except Fault String :=
  match text? x with
  | some s => .ok s
  | none => .error .wrongShape

/-- Things without repetition; of the same ones the first stays. -/
def withoutRepeats (xs : List ν) : List ν := xs.eraseDupsBy isSame

/-- Whether a thing is among others. -/
def isAmong (xs : List ν) (x : ν) : Bool := xs.any (isSame x)

/-- Things without repetition, if each can be told from the others. -/
def distinct (xs : List ν) : Except Fault (List ν) :=
  if xs.all isAtomic then .ok (withoutRepeats xs) else .error .wrongShape

/-- Things in order. -/
def sort (xs : List ν) : Except Fault (List ν) :=
  match sort? xs with
  | some xs => .ok xs
  | none => .error .wrongShape

@[simp]
theorem title_text (s : String) : title s = .ok s := rfl

@[simp]
theorem isSame_texts (a b : String) : isSame a b = (a == b) := rfl

@[simp]
theorem withoutRepeats_texts (ss : List String) : withoutRepeats ss = ss.eraseDups := rfl

@[simp]
theorem isAmong_texts (ss : List String) (s : String) : isAmong ss s = ss.contains s :=
  List.contains_eq_any_beq.symm

@[simp]
theorem distinct_texts (ss : List String) : distinct ss = .ok ss.eraseDups := by
  simp [distinct, isAtomic]

@[simp]
theorem sort_texts (ss : List String) : sort ss = .ok (sortTexts ss) := rfl

end Named

namespace Json

/-- The whole number that a value stands for, if it stands for one. -/
def wholeNumber? : Json → Option Int
  | bool b => some (if b then 1 else 0)
  | int n => some n
  | float x =>
    let n : Int := floorOf x.abs
    if x.isFinite ∧ Float.ofNat n.toNat == x.abs then some (if x < 0 then -n else n) else none
  | _ => none

/-- Whether two values without parts are the same; numbers are compared as such, and truth values
are the numbers zero and one. What is no number is the same as itself. -/
def isSame : Json → Json → Bool
  | null, null => true
  | str a, str b => a == b
  | float x, float y => x == y || x.isNaN && y.isNaN
  | a, b => (wholeNumber? a).isSome && wholeNumber? a == wholeNumber? b

def text? : Json → Option String
  | str s => some s
  | _ => none

def isNumber : Json → Bool
  | bool _ | int _ | float _ => true
  | _ => false

/-- Texts in order. Numbers have an order too, but as no answer may hold them they are left in the
one in which they came; a single thing is in order, and nothing else has one. -/
def sort? (vs : List Json) : Option (List Json) :=
  match vs.mapM text? with
  | some ts => some ((sortTexts ts).map str)
  | none => if vs.length ≤ 1 || vs.all isNumber then some vs else none

end Json

instance : Named Json where
  ofText := .str
  text? := Json.text?
  toJson := id
  isSame := Json.isSame
  isAtomic
    | .arr _ | .obj _ => false
    | _ => true
  isGiven
    | .null => false
    | _ => true
  isSet := Json.isSet
  sort? := Json.sort?

end WikiGateway
