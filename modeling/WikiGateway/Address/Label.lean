import WikiGateway.Address.Direction
import WikiGateway.Address.Joining
import WikiGateway.Address.NameChar
import WikiGateway.Address.Punycode
import WikiGateway.Address.Script
import WikiGateway.Text.Composition
import WikiGateway.Text.Quoted

/-!
Labels, of which the names of hosts are made. A label is given by its code points; in one that was
encoded there may be some that are no characters.
-/
namespace WikiGateway.Address.Label

/-- What is wrong with a code point. -/
inductive Wrong
  | inNoName
  /-- It may stand in names, but not at its place. -/
  | misplaced
  | misplacedJoiner
  deriving DecidableEq, Repr

/-- What keeps code points from being a label. -/
inductive Defect
  | empty
  | notComposed
  /-- Two hyphens stand where the mark of encoded labels has them. -/
  | markedAsEncoded
  | outerHyphen
  | leadingMark
  | point (wrong : Wrong) (n place : Nat) (label : List Nat)
  | unknownDirection (place : Nat) (label : List Nat)
  | leadingDirection (label : List Nat)
  | direction (rightToLeft : Bool) (place : Nat)
  | mixedNumbers
  | lastDirection
  /-- Nothing follows the mark of encoded labels. -/
  | nothingEncoded
  | encodedHyphen
  | badCode
  /-- The code is not the one in which its label is written. -/
  | otherCode
  | nameTooLong
  deriving DecidableEq, Repr

/-- The kinds of defects. -/
inductive Kind
  | general | character | context | direction
  deriving DecidableEq, Repr

/-- The name of a code point, at least four hexadecimal digits. -/
def pointName (n : Nat) : String :=
  let ds := Nat.toDigits 16 n
  "U+" ++ String.ofList (List.replicate (4 - ds.length) '0' ++ ds.map Char.toUpper)

namespace Defect

def kind : Defect → Kind
  | point .inNoName .. => .character
  | point .misplaced .. => .context
  | unknownDirection .. | leadingDirection .. | direction .. | mixedNumbers | lastDirection =>
    .direction
  | _ => .general

def pointMessage (wrong : Wrong) (n place : Nat) (label : List Nat) : String :=
  let position := " at position " ++ toString place
  let text := quotedPoints label
  match wrong with
  | .inNoName => "Codepoint " ++ pointName n ++ position ++ " of " ++ text ++ " not allowed"
  | .misplaced => "Codepoint " ++ pointName n ++ " not allowed" ++ position ++ " in " ++ text
  | .misplacedJoiner =>
    "Unknown codepoint adjacent to joiner " ++ pointName n ++ position ++ " in " ++ text

def message : Defect → String
  | empty => "Empty Label"
  | notComposed => "Label must be in Normalization Form C"
  | markedAsEncoded => "Label has disallowed hyphens in 3rd and 4th position"
  | outerHyphen => "Label must not start or end with a hyphen"
  | leadingMark => "Label begins with an illegal combining character"
  | point wrong n place label => pointMessage wrong n place label
  | unknownDirection place label =>
    "Unknown directionality in label " ++ quotedPoints label ++ " at position " ++ toString place
  | leadingDirection label =>
    "First codepoint in label " ++ quotedPoints label ++ " must be directionality L, R or AL"
  | direction rightToLeft place =>
    "Invalid direction for codepoint at position " ++ toString place ++ " in a " ++
      (if rightToLeft then "right-to-left" else "left-to-right") ++ " label"
  | mixedNumbers => "Can not mix numeral types in a right-to-left label"
  | lastDirection => "Label ends with illegal codepoint directionality"
  | nothingEncoded => "Malformed A-label, no Punycode eligible content found"
  | encodedHyphen => "A-label must not end with a hyphen"
  | badCode => "Invalid A-label"
  | otherCode => "A-label is not the canonical Punycode encoding of its U-label"
  | nameTooLong => "Domain too long"

end Defect

def hyphen : Nat := '-'.toNat

/-- The class of the marks that take the vowel from a consonant. -/
def viramaClass : Nat := 9

/-- The joiner of letters that are not joined, and that of letters that are. -/
def nonJoiner : Nat := 0x200c

def joiner : Nat := 0x200d

/-- Whether a joiner stands after a mark that takes the vowel away, or keeps letters apart that
would join each other. After what is unknown none stands. -/
def joinerFits (before : List Nat) (n : Nat) (rest : List Nat) : Bool :=
  !before.head?.any isUnknown &&
    (before.head?.any (combiningClass · = viramaClass) ||
      n = nonJoiner && Joining.meet before rest)

def middleDot : Nat := 0xb7

/-- The Greek sign of numbers, below the line. -/
def lowerNumeralSign : Nat := 0x375

def geresh : Nat := 0x5f3

def gershayim : Nat := 0x5f4

def katakanaDot : Nat := 0x30fb

def isArabicDigit (n : Nat) : Bool := 0x660 ≤ n && n ≤ 0x669

/-- The digits of Persian and Urdu. -/
def isEasternDigit (n : Nat) : Bool := 0x6f0 ≤ n && n ≤ 0x6f9

/-- Whether a code point that may stand at some places may stand at this one, between what is before
it, nearest first, and the rest. Nothing if it is none of those. -/
def fits? (label before : List Nat) (n : Nat) (rest : List Nat) : Option Bool :=
  if n = middleDot then some (before.head? == some 'l'.toNat && rest.head? == some 'l'.toNat)
  else if n = lowerNumeralSign then some (rest.head?.any (covers greekRanges))
  else if n = geresh ∨ n = gershayim then some (before.head?.any (covers hebrewRanges))
  else if n = katakanaDot then some (label.any (covers japaneseRanges))
  else if isArabicDigit n then some (!label.any isEasternDigit)
  else if isEasternDigit n then some (!label.any isArabicDigit)
  else none

/-- What is wrong with a code point between what is before it, nearest first, and the rest. -/
def wrong? (label before : List Nat) (n : Nat) (rest : List Nat) : Option Wrong :=
  if isNameChar n then none
  else if n = nonJoiner ∨ n = joiner then
    if joinerFits before n rest then none else some .misplacedJoiner
  else
    match fits? label before n rest with
    | some true => none
    | some false => some .misplaced
    | none => some .inNoName

/-- Checks the code points of a label after those that were checked already, nearest first. -/
def checkPoints (label before : List Nat) : List Nat → Except Defect Unit
  | [] => .ok ()
  | n :: rest =>
    match wrong? label before n rest with
    | some wrong => .error (.point wrong n (before.length + 1) label)
    | none => checkPoints label (n :: before) rest

/-- Checks directions from a place on. Numbers in a text from right to left are all of one kind,
which is that of the first of them. -/
def checkRun (rightToLeft : Bool) (place : Nat) (number : Option Direction) :
    List Direction → Except Defect Unit
  | [] => .ok ()
  | d :: ds =>
    if !d.fits rightToLeft then .error (.direction rightToLeft place)
    else if rightToLeft && d.isNumber then
      if number.any (· ≠ d) then .error .mixedNumbers
      else checkRun rightToLeft (place + 1) (some d) ds
    else checkRun rightToLeft (place + 1) number ds

/-- Checks the directions of a label. They are free where none leads to the left. -/
def checkDirections (label : List Nat) : Except Defect Unit := do
  if let some place := label.findIdx? isLater then throw (.unknownDirection (place + 1) label)
  let ds := label.map Direction.ofPoint
  if !ds.any Direction.runsRight then return
  let rightToLeft ← match ds.head? with
    | some .right | some .arabicLetter => pure true
    | some .left => pure false
    | _ => throw (.leadingDirection label)
  checkRun rightToLeft 1 none ds
  if !(ds.reverse.find? (· ≠ .nonspacing)).any (Direction.ends rightToLeft) then
    throw .lastDirection

/-- Checks a label that is not encoded. -/
def check (label : List Nat) : Except Defect Unit := do
  if label.isEmpty then throw .empty
  if !Composition.isComposed label then throw .notComposed
  if (label.drop 2).take 2 == [hyphen, hyphen] then throw .markedAsEncoded
  if label.head? == some hyphen || label.getLast? == some hyphen then throw .outerHyphen
  if label.head?.any isMark then throw .leadingMark
  checkPoints label [] label
  checkDirections label

/-- What encoded labels begin with. -/
def encodedMark : List Nat := "xn--".toList.map Char.toNat

/-- A label of ASCII as it is read. What is encoded has one code. -/
def decode (label : List Nat) : Except Defect (List Nat) := do
  if !encodedMark.isPrefixOf label then
    check label
    return label
  let code := label.drop encodedMark.length
  if code.isEmpty then throw .nothingEncoded
  if code.getLast? == some hyphen then throw .encodedHyphen
  match Punycode.decode? code with
  | none => throw .badCode
  | some text =>
    check text
    if Punycode.encode text != code then throw .otherCode
    return text

/-- The most code points in a label as it is sent. -/
def mostPoints : Nat := 63

/-- A label as it is sent, unless it is none or too long. -/
def encode? (label : List Nat) : Option (List Nat) := do
  let sent ←
    if label.all (· < Punycode.firstPoint) then (decode label).toOption.map fun _ => label
    else (check label).toOption.map fun _ => encodedMark ++ Punycode.encode label
  if sent.length ≤ mostPoints then return sent else none

end WikiGateway.Address.Label
