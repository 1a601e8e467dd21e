import WikiGateway.Address.Name
import WikiGateway.Decimal.Reading
import WikiGateway.Text.Percent

/-! Hosts in addresses: names, and numbers of version 4 and of version 6. -/
namespace WikiGateway.Address

/-- Whether a text is a number up to 255 in plain digits. -/
def isOctet (s : String) : Bool :=
  let cs := s.toList
  !cs.isEmpty && cs.all Char.isDigit && cs.length ≤ 3 && Decimal.digitsToNat cs ≤ 255 &&
    (cs.length = 1 || cs.head? != some '0')

def isVersion4 (host : String) : Bool :=
  let octets := host.splitOn "."
  octets.length = 4 && octets.all isOctet

/-- Whether a host looks like a number of version 4: four runs of digits with dots between them. -/
def isDotted (host : String) : Bool :=
  let runs := host.splitOn "."
  runs.length = 4 && runs.all fun run => !run.isEmpty && run.toList.all Char.isDigit

/-- Whether a text is one to four hexadecimal digits. -/
def isGroup (s : String) : Bool :=
  let cs := s.toList
  !cs.isEmpty && cs.length ≤ 4 && cs.all fun c => (Percent.hexValue? c).isSome

/-- The groups between the colons of a number of version 6, of which the last two may be written as
a number of version 4. -/
def groups? (number : String) : Option (List String) :=
  let parts := number.splitOn ":"
  match parts.getLast?.filter fun last => last.toList.contains '.' with
  | none => some parts
  | some last => if isVersion4 last then some (parts.dropLast ++ ["0", "0"]) else none

/-- Whether groups make up a number: eight of them, or fewer with one gap, at which two colons stand
next to each other. -/
def isNumber (groups : List String) : Bool :=
  let given := groups.filter (· ≠ "")
  match (groups.tail.dropLast).count "" with
  | 0 => groups.length = 8 && groups.all isGroup
  | 1 => given.length < 8 && given.all isGroup &&
      (groups.head? != some "" || groups.tail.head? == some "") &&
      (groups.getLast? != some "" || groups.dropLast.getLast? == some "")
  | _ => false

/-- A number of version 6 may be followed by a percent sign and the name of a zone. -/
def isVersion6 (host : String) : Bool :=
  match host.splitOn "%" with
  | [number] => (groups? number).any isNumber
  | [number, zone] => zone != "" && (groups? number).any isNumber
  | _ => false

/-- The characters that stand for themselves in hosts of ASCII. -/
def isHostChar (c : Char) : Bool :=
  c.isAlphanum || "-._~!$&'()*+,;=\"`\x7b\x7d%|\\".toList.contains c

/-- The number of version 6 in brackets. -/
def inBrackets? (host : String) : Option String :=
  if host.startsWith "[" && host.endsWith "]" then some (String.ofList host.toList.tail.dropLast)
  else none

/-- A host of ASCII as it is sent. -/
def writtenHost (host : String) : String :=
  String.ofList (Percent.encode isHostChar (inSmall host).toList)

/-- A host and a port as they are sent. -/
def hostAndPort (host : String) (port : Option Int) : String :=
  (if host.toList.contains ':' then "[" ++ host ++ "]" else host) ++
    (port.map fun n => ":" ++ toString n).getD ""

end WikiGateway.Address
