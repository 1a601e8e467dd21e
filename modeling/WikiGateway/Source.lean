import WikiGateway.Named

/-! What the gateway asks of a wiki. -/
namespace WikiGateway

/-- A source of wiki content, which gives names and texts as `ν`. Each question may fail, and may
change the world in which it is asked. A page that is not there has an empty text, no links, no
categories and an empty editor name. -/
structure Source (ω ν : Type) where
  /-- Titles that answer a search term; the source may give more than the limit. -/
  search : (term : String) → (limit : Int) → Action ω (List ν)
  pageText : (title : String) → Action ω ν
  linksOn : (title : String) → Action ω (List ν)
  categoryMembers : (category : String) → Action ω (List ν)
  categoriesOn : (title : String) → Action ω (List ν)
  /-- Who last changed a page. -/
  lastEditor : (title : String) → Action ω ν
  pageExists : (title : String) → Action ω Bool

end WikiGateway
