import WikiGateway.Failure

/-! Parts of JSON values that need not have the shape expected of them. -/
namespace WikiGateway.Json

/-- A member of an object, or a default in place of one that is not there. -/
def memberOr (v : Json) (key : String) (default : Json) : Except Fault Json :=
  match v with
  | obj members => .ok ((members.lookup key).getD default)
  | _ => .error .notAnObject

/-- A member of an object that has to be there. -/
def memberAt (key : String) : Json → Except Fault Json
  | obj members =>
    match members.lookup key with
    | some v => .ok v
    | none => .error .missingMember
  | _ => .error .wrongShape

/-- The first item of a list, or the first character of a text. -/
def firstItem : Json → Except Fault Json
  | arr [] => .error .missingItem
  | arr (v :: _) => .ok v
  | str s =>
    match s.toList with
    | [] => .error .missingItem
    | c :: _ => .ok (.str (String.singleton c))
  | obj _ => .error .missingMember
  | _ => .error .wrongShape

/-- What a value consists of: items, names of members, or characters. -/
def parts : Json → Except Fault (List Json)
  | arr items => .ok items
  | obj members => .ok (members.map fun m => .str m.1)
  | str s => .ok (s.toList.map fun c => .str (String.singleton c))
  | _ => .error .wrongShape

def isText (text : String) : Json → Bool
  | str s => s == text
  | _ => false

/-- Whether `word` stands in a text. -/
def occursIn (word : List Char) : List Char → Bool
  | [] => word.isEmpty
  | c :: cs => word.isPrefixOf (c :: cs) || occursIn word cs

/-- Whether a text is a member's name, an item, or a part of a text. -/
def mentions (text : String) : Json → Except Fault Bool
  | obj members => .ok (members.lookup text).isSome
  | arr items => .ok (items.any (isText text))
  | str s => .ok (occursIn text.toList s.toList)
  | _ => .error .wrongShape

end WikiGateway.Json
