import WikiGateway.Failure

/-! The servers to which requests go, and how requests are told with their whole addresses. -/
namespace WikiGateway

/-- Where a server is. The port is left out where it is the usual one of the scheme. -/
structure Origin where
  scheme : String
  /-- The host as it is sent, without brackets. -/
  host : String
  port : Option Int
  deriving DecidableEq, Repr

namespace Origin

/-- The server of requests that name none. -/
def usual : Origin := ⟨"http", "testserver", none⟩

def ofAddress (a : Address) : Origin :=
  if a.isWhole then ⟨a.scheme, a.host, a.portNumber⟩ else usual

/-- The characters beside letters and digits that hosts have without an escape. -/
def isHostMark (c : Char) : Bool := "-._~!$&'()*+,;=".toList.contains c

/-- Whether a host has no characters but its own and escapes. -/
def isPlainName : List Char → Bool
  | [] => true
  | '%' :: a :: b :: cs => (Percent.byte? a b).isSome && isPlainName cs
  | c :: cs => (c.isAlphanum || isHostMark c) && isPlainName cs

/-- Whether a host with a colon has nothing but the characters of numbers. -/
def isPlainNumber (cs : List Char) : Bool :=
  cs.all fun c => c == ':' || c == '.' || (Percent.hexValue? c).isSome

def isPort (n : Int) : Bool := 0 ≤ n && n ≤ 65535

/-- Whether what a request says of its server is taken over when it is told. -/
def isPlain (o : Origin) : Bool :=
  let cs := o.host.toList
  (if cs.contains ':' then isPlainNumber cs else isPlainName cs) && o.port.all isPort

/-- The schemes of which a server knows the usual ports. -/
def knownSchemes : List String := ["http", "https", "ws", "wss"]

/-- The host and the port as a request says them. -/
def authority (o : Origin) : String := Address.hostAndPort o.host o.port

/-- The host as it is read, if it can be sent at all: the zone of a number may be beyond ASCII. -/
def shownHost (o : Origin) : Except Fault String := do
  if !o.authority.toList.all Fault.isAscii then throw (.notAscii o.authority)
  (Address.Name.read o.host).mapError Fault.badName

/-- The start of the addresses of requests when they are told. What a request says of its server is
taken over if it is plain. Else the host is as it is read, and a port is told in any case, though
there may be none. -/
def text (o : Origin) : Except Fault String :=
  if o.isPlain then .ok (o.scheme ++ "://" ++ o.authority)
  else if !knownSchemes.contains o.scheme then .error .missingMember
  else
    let shown := (o.shownHost.toOption).getD o.host
    .ok (o.scheme ++ "://" ++ shown ++ ":" ++ (o.port.map toString).getD "None")

/-- Checks whether one who keeps cookies can read where an answer comes from. The zone of a number
may have a bracket in it, which is taken for the end of the host: of the zone something has to stand
before it, and after it a port has to come. -/
def checkBrackets (o : Origin) : Except Fault Unit :=
  let cs := o.host.toList
  let inside := cs.takeWhile (· ≠ ']')
  if !cs.contains ']' then .ok ()
  else if (cs.drop (inside.length + 1)).head? ≠ some ':' then .error (.badValue "Invalid IPv6 URL")
  else if inside.getLast? = some '%' then
    .error (.badValue
      (quoted (String.ofList inside) ++ " does not appear to be an IPv4 or IPv6 address"))
  else .ok ()

/-- The characters that stand for themselves where it is said to where a request is sent on. -/
def isPlaceChar (c : Char) : Bool :=
  Percent.isFormChar c || ":/%#?=@[]!$&'()*+,;".toList.contains c

/-- Checks whether a request can be sent on to another path of its server. -/
def checkMove (o : Origin) (path : String) : Except Fault Unit := do
  let place := Percent.encode isPlaceChar ((← o.text) ++ path).toList
  o.checkBrackets
  let _ ← (Address.read (String.ofList place)).mapError Fault.badMove

end Origin

end WikiGateway
