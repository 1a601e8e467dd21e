import WikiGateway.Address.Label

/-! The names of hosts: labels with dots between them, and maybe one after them. -/
namespace WikiGateway.Address.Name

def isDot (c : Char) : Bool := c == '.' || c == '。' || c == '．' || c == '｡'

/-- The labels of a name, and whether a dot follows them. -/
def labels (name : String) : List (List Nat) × Bool :=
  let parts := (name.toList.splitOnP isDot).map (·.map Char.toNat)
  if parts.getLast? = some [] then (parts.dropLast, true) else (parts, false)

/-- The name of labels. -/
def ofLabels (labels : List (List Nat)) (isClosed : Bool) : String :=
  let parts := labels.map fun ns => String.ofList (ns.map Char.ofNat)
  ".".intercalate (if isClosed then parts ++ [""] else parts)

/-- The most characters in a name as it is sent, the dot at its end aside. -/
def mostChars : Nat := 253

/-- Whether a name has too many characters, a dot at its end or not. -/
def isTooLong (name : String) : Bool := mostChars + 1 < name.length

/-- A name as it is sent, unless one of its labels is none or it is too long. -/
def encode? (name : String) : Option String := do
  if isTooLong name then none
  let (parts, isClosed) := labels name
  let sent := ofLabels (← parts.mapM Label.encode?) isClosed
  if sent.length ≤ mostChars + (if isClosed then 1 else 0) then return sent else none

/-- A name of ASCII as it is read. -/
def decode (name : String) : Except Label.Defect String := do
  if isTooLong name then throw .nameTooLong
  let (parts, isClosed) := labels name
  return ofLabels (← parts.mapM Label.decode) isClosed

/-- A host of ASCII as it is read: its labels are looked at if the first of them is encoded. -/
def read (host : String) : Except Label.Defect String :=
  if Label.encodedMark.isPrefixOf (host.toList.map Char.toNat) then decode host else .ok host

end WikiGateway.Address.Name
