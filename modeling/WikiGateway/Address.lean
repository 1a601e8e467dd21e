import WikiGateway.Address.Host
import WikiGateway.Text.Quoted

/-!
Addresses of requests: `scheme://user@host:port/path?query#fragment`, all parts optional. An address
that gives no scheme or no host is one at a server that is known otherwise.
-/
namespace WikiGateway

structure Address where
  scheme : String
  user : String
  /-- The host, without brackets; as it is sent, once the address was read. -/
  host : String
  port : Option String
  path : String
  query : Option String
  fragment : String
  deriving DecidableEq, Repr

namespace Address

/-- What keeps a text from being an address. -/
inductive Defect
  | tooLong
  | longPart (name : String)
  /-- A character that controls a device, and where it stands. -/
  | control (c : Char) (place : Nat)
  | badVersion4 (host : String)
  | badVersion6 (host : String)
  | badName (host : String)
  | badPort (port : String)
  /-- A path without a host has a start that would be read as something else. -/
  | badStart (start : String)
  deriving DecidableEq, Repr

def Defect.message : Defect → String
  | tooLong => "URL too long"
  | longPart name => "URL component '" ++ name ++ "' too long"
  | control c place => "Invalid non-printable ASCII character in URL, " ++
      quoted (String.singleton c) ++ " at position " ++ toString place ++ "."
  | badVersion4 host => "Invalid IPv4 address: " ++ quoted host
  | badVersion6 host => "Invalid IPv6 address: " ++ quoted host
  | badName host => "Invalid IDNA hostname: " ++ quoted host
  | badPort port => "Invalid port: " ++ quoted port
  | badStart start => "Relative URLs cannot have a path starting with '" ++ start ++ "'"

/-- The most characters in an address, and in each of its parts. -/
def mostChars : Nat := 65536

def isControl (c : Char) : Bool := c.toNat < 32 || c.toNat == 127

def isSchemeChar (c : Char) : Bool := c.isAlphanum || c == '+' || c == '-' || c == '.'

/-- A scheme and what follows its colon; both may be empty. -/
def splitScheme (cs : List Char) : List Char × List Char :=
  let scheme := cs.takeWhile isSchemeChar
  match cs.drop scheme.length with
  | ':' :: rest => if scheme.head?.all Char.isAlpha then (scheme, rest) else ([], cs)
  | _ => ([], cs)

/-- What stands between two slashes and the path, and the path. -/
def splitAuthority : List Char → List Char × List Char
  | '/' :: '/' :: rest => (rest.takeWhile (· ≠ '/'), rest.dropWhile (· ≠ '/'))
  | path => ([], path)

/-- What stands before the last `@`, and what after it. -/
def splitUser (cs : List Char) : List Char × List Char :=
  let after := (cs.reverse.takeWhile (· ≠ '@')).reverse
  (cs.take (cs.length - after.length - 1), after)

/-- A host and the port after it. A host in brackets may hold colons. -/
def splitPort (cs : List Char) : List Char × List Char :=
  let inside := (cs.reverse.dropWhile (· ≠ ']')).reverse
  let host := if cs.head? = some '[' ∧ !inside.isEmpty then inside else cs.takeWhile (· ≠ ':')
  match cs.drop host.length with
  | ':' :: port => (host, port)
  | port => (host, port)

/-- The parts of a text that is taken for an address. -/
def split (text : String) : Address :=
  let cs := text.toList.takeWhile (· ≠ '#')
  let front := cs.takeWhile (· ≠ '?')
  let (scheme, rest) := splitScheme front
  let (authority, path) := splitAuthority rest
  let (user, rest) := splitUser authority
  let (host, port) := splitPort rest
  { scheme := String.ofList (scheme.map Char.toLower)
    user := String.ofList user
    host := String.ofList host
    port := if port.isEmpty then none else some (String.ofList port)
    path := String.ofList path
    query := (cs.drop front.length).tail?.map String.ofList
    fragment := String.ofList (text.toList.drop (cs.length + 1)) }

/-- A host as it is sent. -/
def sentHost (host : String) : Except Defect String :=
  if isDotted host then
    if isVersion4 host then .ok host else .error (.badVersion4 host)
  else
    match inBrackets? host with
    | some number => if isVersion6 number then .ok number else .error (.badVersion6 host)
    | none =>
      if host.toList.all (·.toNat < 128) then .ok (writtenHost host)
      else
        match Name.encode? (inSmall host) with
        | some name => .ok name
        | none => .error (.badName host)

/-- Whether an address has nothing but a path and a query. -/
def isBare (a : Address) : Bool := a.scheme == "" && a.user == "" && a.host == "" && a.port == none

/-- Goes along a path: `.` stays in place, and `..` leads back, but not beyond the start. The names
on the way to here are given latest first. -/
def walk (way : List String) : List String → List String
  | [] => way.reverse
  | "." :: names => walk way names
  | ".." :: names =>
    match way with
    | [] | [""] => walk way names
    | _ :: way => walk way names
  | name :: names => walk (name :: way) names

def straighten (path : String) : String := "/".intercalate (walk [] (path.splitOn "/"))

/-- Reads an address. -/
def read (text : String) : Except Defect Address := do
  let cs := text.toList
  if mostChars < cs.length then throw .tooLong
  if let some c := cs.find? isControl then
    throw (.control c (cs.takeWhile (!isControl ·)).length)
  let a := split text
  let a := { a with host := ← sentHost a.host }
  if let some port := a.port then
    if (Decimal.whole? port).isNone then throw (.badPort port)
  if !a.isBare then return { a with path := straighten a.path }
  if a.path.startsWith "//" then throw (.badStart "//")
  if a.path.startsWith ":" then throw (.badStart ":")
  return a

/-- Whether an address says at which server it is. -/
def isWhole (a : Address) : Bool := a.scheme != "" && a.host != ""

/-- The ports that schemes have without saying so. -/
def usualPort? : String → Option Int
  | "http" | "ws" => some 80
  | "https" | "wss" => some 443
  | "ftp" => some 21
  | _ => none

/-- The port that is not the usual one. -/
def portNumber (a : Address) : Option Int :=
  (a.port.bind Decimal.whole?).filter fun n => some n != usualPort? a.scheme

/-- The path from the root of the server. -/
def pathFromRoot (a : Address) : String :=
  if a.isWhole then (if a.path == "" then "/" else a.path)
  else String.ofList ('/' :: a.path.toList.dropWhile (· == '/'))

/-- A text in which the printing characters of ASCII but for some stand for themselves. -/
def writtenBut (others text : String) : String :=
  let isPlain (c : Char) : Bool := 32 < c.toNat && c.toNat < 127 && !others.toList.contains c
  String.ofList (Percent.encode isPlain text.toList)

/-- A path as it is sent. -/
def writtenPath (path : String) : String := writtenBut "\"#<>?`\x7b\x7d" path

def writtenQuery (query : String) : String := writtenBut "\"#<>" query

/-- The query of parameters as it is sent. -/
def writtenParams (params : List (String × String)) : String :=
  "&".intercalate (params.map fun (name, value) =>
    Percent.encodeForm name ++ "=" ++ Percent.encodeForm value)

/-- What stands between two slashes and the path, as it is written. -/
def writtenAuthority (a : Address) : String :=
  let user := writtenBut "\"#<>?`\x7b\x7d/;=@[\\]^|" a.user
  (if user.isEmpty then "" else user ++ "@") ++ hostAndPort a.host a.portNumber

/-- Whether parts of an address, by name, are short enough to be put together. -/
def checkLengths (parts : List (String × String)) : Except Defect Unit :=
  match parts.find? fun part => mostChars < part.2.length with
  | some (name, _) => .error (.longPart name)
  | none => .ok ()

/-- Whether an address can be put together anew: with the path and the query alone if it is at a
server that is known otherwise, and then with a query that is given apart from it. -/
def checkParts (a : Address) (query : String) : Except Defect Unit := do
  let path := ("path", writtenPath a.pathFromRoot)
  checkLengths (if a.isWhole then
      [("authority", a.writtenAuthority), path, ("query", query),
        ("fragment", writtenBut "\"<>`" a.fragment)]
    else [path, ("query", writtenQuery (a.query.getD "")), ("query", query)])

/-- The parameters in a query as it is sent. -/
def readParams (query : String) : List (String × String) :=
  (query.splitOn "&").filterMap fun part =>
    let name := part.toList.takeWhile (· ≠ '=')
    if part.isEmpty then none
    else some (Percent.decodeForm name, Percent.decodeForm (part.toList.drop (name.length + 1)))

end Address

end WikiGateway
