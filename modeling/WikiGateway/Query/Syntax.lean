/-! Queries: what to list, under which condition, in which order. -/
namespace WikiGateway.Query

/-- What a query lists, and so how its conditions are read. -/
inductive Mode
  | page | author | category
  deriving DecidableEq, Repr

inductive Order
  | ascending | descending
  deriving DecidableEq, Repr

/-- What a leaf of a condition speaks of. -/
inductive LeafKind
  | category | title | author
  deriving DecidableEq, Repr

/-- Conditions over leaves. A join of a kind in `ι` is one that has no meaning; the parser builds
conditions with `ι = Empty`, where there is none. -/
inductive Condition (ι : Type)
  | leaf (kind : LeafKind) (value : String)
  | and (left right : Condition ι)
  | or (left right : Condition ι)
  | foreign (kind : ι) (left right : Condition ι)
  deriving DecidableEq, Repr

/-- How many joins lie around the innermost leaf. -/
def Condition.depth {ι : Type} : Condition ι → Nat
  | leaf .. => 0
  | and l r | or l r | foreign _ l r => max l.depth r.depth + 1

instance {ι : Type} : Inhabited (Condition ι) := ⟨.leaf .title ""⟩

end Query

/-- A query: a list of things of one mode that meet a condition, sorted if an order is given. -/
structure Query (ι : Type := Empty) where
  mode : Query.Mode
  condition : Query.Condition ι
  order : Option Query.Order
  deriving DecidableEq, Repr

end WikiGateway
