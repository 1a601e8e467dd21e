import WikiGateway.OrderedMap

/-! Terms ranked by how often they were used. -/
namespace WikiGateway

/-- Whether one counted term ranks before another: by higher count, then by code points. -/
def ranksBefore (a b : String × Int) : Bool :=
  decide (b.2 < a.2) || (a.2 == b.2 && decide (a.1 ≤ b.1))

/-- The first `limit` terms of the ranking. A term that was not used is not ranked. -/
def topTerms (counts : OrderedMap Int) (limit : Int) : List String :=
  ((counts.entries.filter fun e => decide (0 < e.2)).mergeSort ranksBefore).map Prod.fst
    |>.take limit.toNat

end WikiGateway
