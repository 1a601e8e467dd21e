import WikiGateway.Failure
import WikiGateway.Text.Blank

/-! What requests may ask for. -/
namespace WikiGateway.Limits

/-- The most characters in a text. -/
def maxText : Nat := 500

def maxLimit : Int := 500

def maxHops : Int := 3

/-- Characters that no text may hold. -/
def isControl (c : Char) : Bool := c == '\x00' || c == '\n' || c == '\r'

/-- The character that separates titles, and so may not stand in one. -/
def titleSeparator : Char := '|'

/-- A text has to be there, not blank, not too long, and free of control characters. -/
def checkText (field : String) (value : Option String) : Except Fault Unit :=
  let text := value.getD ""
  if isBlankText text then .error (.badValue (field ++ " is required"))
  else if maxText < text.length then
    .error (.badValue (field ++ " must be at most " ++ toString maxText ++ " characters"))
  else if text.toList.any isControl then
    .error (.badValue (field ++ " contains a control character"))
  else .ok ()

/-- A title is a text without the separator of titles. -/
def checkTitle (field : String) (value : Option String) : Except Fault Unit := do
  checkText field value
  if (value.getD "").toList.contains titleSeparator then
    throw (.badValue (field ++ " must not contain '" ++ String.singleton titleSeparator ++ "'"))

def checkRange (field : String) (most n : Int) : Except Fault Unit :=
  if n < 0 ∨ most < n then
    .error (.badValue (field ++ " must be between 0 and " ++ toString most))
  else .ok ()

def checkLimit (limit : Int) : Except Fault Unit := checkRange "limit" maxLimit limit

def checkHops (hops : Int) : Except Fault Unit := checkRange "hops" maxHops hops

end WikiGateway.Limits
