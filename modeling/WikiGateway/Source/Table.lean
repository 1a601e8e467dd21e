import WikiGateway.Source
import WikiGateway.Instant

/-! A source that answers from tables. Each question is noted, takes a fixed time, and then may meet
a fault laid out for it. -/
namespace WikiGateway

/-- The questions that a source can be asked. -/
inductive Question
  | search | pageText | linksOn | categoryMembers | categoriesOn | lastEditor | pageExists
  deriving DecidableEq, Repr

namespace Question

def all : List Question :=
  [search, pageText, linksOn, categoryMembers, categoriesOn, lastEditor, pageExists]

/-- The name under which calls are noted. -/
def name : Question → String
  | search => "search"
  | pageText => "get_page_text"
  | linksOn => "links_on_page"
  | categoryMembers => "category_members"
  | categoriesOn => "categories_on_page"
  | lastEditor => "last_editor"
  | pageExists => "exists"

end Question

/-- A question put to a source, with its limit if it has one. -/
structure Call where
  question : Question
  argument : String
  limit : Option Int
  deriving DecidableEq, Repr

/-- A clock, and the calls made while it ran. -/
structure Session (τ : Type) where
  now : τ
  calls : Array Call

/-- A fault laid out for a question about one argument, or about any. -/
structure Trouble where
  question : Question
  argument : Option String
  fault : Fault

structure Table (τ : Type) where
  links : List (String × List String)
  categories : List (String × List String)
  pageCategories : List (String × List String)
  editors : List (String × String)
  texts : List (String × String)
  results : List (String × List String)
  troubles : List Trouble
  /-- How long each call takes. -/
  cost : τ

namespace Table

variable {τ : Type} [Instant τ]

/-- The fault for a question: the last one laid out for its very argument, else for any. -/
def troubleFor (t : Table τ) (q : Question) (arg : String) : Option Fault :=
  let met := t.troubles.reverse.filter fun x => decide (x.question = q)
  ((met.find? (·.argument = some arg)).or (met.find? (·.argument = none))).map (·.fault)

def ask {α : Type} (t : Table τ) (call : Call) (answer : α) : Action (Session τ) α := do
  modify fun s => { now := Instant.add s.now t.cost, calls := s.calls.push call }
  match t.troubleFor call.question call.argument with
  | some f => throw f
  | none => return answer

/-- Whether any of the tables about pages has the title. -/
def mentions (t : Table τ) (title : String) : Bool :=
  (t.texts.lookup title).isSome || (t.editors.lookup title).isSome ||
  (t.links.lookup title).isSome || (t.pageCategories.lookup title).isSome

def source (t : Table τ) : Source (Session τ) String where
  search term limit := t.ask ⟨.search, term, some limit⟩ ((t.results.lookup term).getD [])
  pageText title := t.ask ⟨.pageText, title, none⟩ ((t.texts.lookup title).getD "")
  linksOn title := t.ask ⟨.linksOn, title, none⟩ ((t.links.lookup title).getD [])
  categoryMembers c := t.ask ⟨.categoryMembers, c, none⟩ ((t.categories.lookup c).getD [])
  categoriesOn title := t.ask ⟨.categoriesOn, title, none⟩ ((t.pageCategories.lookup title).getD [])
  lastEditor title := t.ask ⟨.lastEditor, title, none⟩ ((t.editors.lookup title).getD "")
  pageExists title := t.ask ⟨.pageExists, title, none⟩ (t.mentions title)

/-- More pages than a search over the links of the tables can come upon. -/
def linkCount (t : Table τ) : Nat := t.links.foldl (fun n e => n + e.2.length) 2

end Table

end WikiGateway
