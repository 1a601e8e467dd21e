import WikiGateway.Query.Parser

/-!
The query grammar as rules of derivation. A rule says which symbols stand for a tree, and nothing
about how they are read:

    query     := ["get"] mode "where" condition [["sorted"] order]
    condition := conjunction | condition "or" conjunction
    conjunction := primary | conjunction "and" primary
    primary   := "(" condition ")" | kind ["is"] STRING
-/
namespace WikiGateway.Query

def Mode.keyword : Mode → Keyword
  | page => .page
  | author => .author
  | category => .category

def LeafKind.keyword : LeafKind → Keyword
  | category => .category
  | title => .title
  | author => .author

def Order.keyword : Order → Keyword
  | ascending => .asc
  | descending => .desc

/-- A keyword that may be left out. -/
inductive IsOptional (k : Keyword) : List Symbol → Prop
  | absent : IsOptional k []
  | present : IsOptional k [.keyword k]

/-- What a run of symbols can be read as; each level binds tighter than the one before. -/
inductive Level
  | condition | conjunction | primary

inductive Derives : Level → List Symbol → Condition Empty → Prop
  | conjunction {ts : List Symbol} {c : Condition Empty} :
      Derives .conjunction ts c → Derives .condition ts c
  | or {ts us : List Symbol} {c d : Condition Empty} :
      Derives .condition ts c → Derives .conjunction us d →
      Derives .condition (ts ++ .keyword .or_ :: us) (.or c d)
  | primary {ts : List Symbol} {c : Condition Empty} :
      Derives .primary ts c → Derives .conjunction ts c
  | and {ts us : List Symbol} {c d : Condition Empty} :
      Derives .conjunction ts c → Derives .primary us d →
      Derives .conjunction (ts ++ .keyword .and_ :: us) (.and c d)
  | parens {ts : List Symbol} {c : Condition Empty} :
      Derives .condition ts c → Derives .primary (.lparen :: ts ++ [.rparen]) c
  | leaf {is : List Symbol} {kind : LeafKind} {value : String} :
      IsOptional .is_ is →
      Derives .primary (.keyword kind.keyword :: is ++ [.string value]) (.leaf kind value)

inductive DerivesOrder : List Symbol → Option Order → Prop
  | unsorted : DerivesOrder [] none
  | sorted {ts : List Symbol} {order : Order} :
      IsOptional .sorted ts → DerivesOrder (ts ++ [.keyword order.keyword]) (some order)

inductive DerivesQuery : List Symbol → Query → Prop
  | query {get ts us : List Symbol} {mode : Mode} {c : Condition Empty} {order : Option Order} :
      IsOptional .get get → Derives .condition ts c → DerivesOrder us order →
      DerivesQuery (get ++ .keyword mode.keyword :: .keyword .where_ :: ts ++ us) ⟨mode, c, order⟩

end WikiGateway.Query
