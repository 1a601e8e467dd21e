import WikiGateway.Query.Reading
import WikiGateway.Source

/-!
Queries answered from a source. A condition stands for a list of things without repetition, or for
whatever one author wrote, which cannot be listed.
-/
namespace WikiGateway.Query

variable {ω ν ι : Type}

/-- What a condition stands for. -/
inductive Selection (ν : Type)
  | items (list : List ν)
  | writtenBy (author : String)
  deriving DecidableEq, Repr

/-- The editors already asked for in this query. -/
abbrev Editors (ν : Type) := List (String × ν)

abbrev Evaluating (ω ν α : Type) := StateT (Editors ν) (ExceptT Fault (StateM ω)) α

def categoryMark : String := "Category:"

/-- The full title of a category. -/
def categoryTitle (name : String) : String :=
  if categoryMark.toList.isPrefixOf name.toList then name else categoryMark ++ name

/-- The last editor of a page; within a query a source is asked once for each title. -/
def editor (source : Source ω ν) (title : String) : Evaluating ω ν ν := do
  match (← get).lookup title with
  | some name => return name
  | none =>
    let name ← source.lastEditor title
    modify ((title, name) :: ·)
    return name

variable [Named ν]

/-- The last editor of what may be a page, if there is one. -/
def editor? (source : Source ω ν) (page : ν) : Evaluating ω ν (Option ν) := do
  let name ← editor source (← Named.title page)
  if !Named.isSet name then return none
  else if Named.isAtomic name then return some name
  else throw .wrongShape

def evalLeaf (source : Source ω ν) (mode : Mode) (kind : LeafKind) (value : String) :
    Evaluating ω ν (Selection ν) :=
  match kind, mode with
  | .author, _ => return .writtenBy value
  | .category, .page => do
    return .items (← Named.distinct (← source.categoryMembers (categoryTitle value)))
  | .category, .author => do
    let members ← source.categoryMembers (categoryTitle value)
    let names ← members.mapM (editor? source)
    return .items (Named.withoutRepeats (names.filterMap id))
  | .category, .category => do
    return .items (← Named.distinct (← source.categoriesOn (categoryTitle value)))
  | .title, .page => return .items [Named.ofText value]
  | .title, .author => return .items (← editor? source (Named.ofText value)).toList
  | .title, .category => do return .items (← Named.distinct (← source.categoriesOn value))

/-- Whether something was written by an author. An author's name itself passes, and in author mode
nothing else does. -/
def matchesAuthor (source : Source ω ν) (mode : Mode) (author : String) (item : ν) :
    Evaluating ω ν Bool := do
  if Named.isSame item (Named.ofText author) then return true
  else if mode = .author then return false
  else
    let title ← Named.title item
    if ← source.pageExists title then
      return Named.isSame (← editor source title) (Named.ofText author)
    else return false

/-- Those that pass a test, in order; each is tested once. -/
def keep {m : Type → Type} [Monad m] {α : Type} (test : α → m Bool) : List α → m (List α)
  | [] => return []
  | x :: xs => do
    let passes ← test x
    let rest ← keep test xs
    return if passes then x :: rest else rest

def both (source : Source ω ν) (mode : Mode) :
    Selection ν → Selection ν → Evaluating ω ν (Selection ν)
  | .writtenBy a, .writtenBy b => return if a = b then .writtenBy a else .items []
  | .writtenBy a, .items xs | .items xs, .writtenBy a =>
    return .items (← keep (matchesAuthor source mode a) xs)
  | .items xs, .items ys => return .items (xs.filter (Named.isAmong ys))

/-- What can be listed of a selection: of an author's work nothing, in author mode the author. -/
def Selection.listed (mode : Mode) : Selection ν → List ν
  | .items xs => xs
  | .writtenBy a => if mode = .author then [Named.ofText a] else []

def either (mode : Mode) (left right : Selection ν) : Selection ν :=
  .items (Named.withoutRepeats (left.listed mode ++ right.listed mode))

def evalCondition (source : Source ω ν) (mode : Mode) :
    Condition ι → Evaluating ω ν (Selection ν)
  | .leaf kind value => evalLeaf source mode kind value
  | .and l r => do
    let left ← evalCondition source mode l
    let right ← evalCondition source mode r
    both source mode left right
  | .or l r => do
    let left ← evalCondition source mode l
    let right ← evalCondition source mode r
    return either mode left right
  | .foreign _ l r => do
    let _ ← evalCondition source mode l
    let _ ← evalCondition source mode r
    throw .wrongShape

/-- Evaluates what comes before the first leaf that lies in more than `room` joins, and stops
there. -/
def evalBefore (source : Source ω ν) (mode : Mode) :
    (room : Nat) → Condition ι → Evaluating ω ν Unit
  | room + 1, .and l r | room + 1, .or l r | room + 1, .foreign _ l r => do
    if room < l.depth then evalBefore source mode room l
    else
      let _ ← evalCondition source mode l
      evalBefore source mode room r
  | _, _ => throw .tooDeep

/-- Puts an answer in the order that a query asks for. -/
def arrange : Option Order → List ν → Except Fault (List ν)
  | none, xs => .ok xs
  | some .ascending, xs => Named.sort xs
  | some .descending, xs => (Named.sort xs).map List.reverse

def evaluate (source : Source ω ν) (q : Query ι) : Action ω (List ν) := do
  let (selection, _) ← (evalCondition source q.mode q.condition).run []
  arrange q.order (selection.listed q.mode)

/-- The most joins around a leaf that can be followed. -/
def mostJoins : Nat := 980

/-- Answers a query text. One with an error has no answers, and one whose parentheses are too deep
cannot be read; neither asks the source anything. One whose joins are too deep is answered as far as
they can be followed. -/
def execute (source : Source ω ν) (text : Option String) : Action ω (List ν) :=
  match read text with
  | .ok q =>
    if q.condition.depth ≤ mostJoins then evaluate source q
    else do
      let _ ← (evalBefore source q.mode mostJoins q.condition).run []
      throw .tooDeep
  | .error (.wrong _) => return []
  | .error .tooDeep => throw .tooDeep

end WikiGateway.Query
