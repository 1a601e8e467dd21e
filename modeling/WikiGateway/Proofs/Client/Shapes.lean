import WikiGateway.Client.Content
import WikiGateway.Proofs.Attempt

/-!
What has to be where in the data of an answer, so that something is found in it. Where it is not,
the attempt fails, and never as a source of content is said to fail.
-/
namespace WikiGateway.Client

open Attempt

variable {α β : Type} {r : Except Fault α} {v u data page list : Json} {hits : List Json}
  {key name : String} {default : Json}

/-- An attempt that does not fail as a source of content fails. -/
def Astray (r : Except Fault α) : Prop := ∀ f, r = .error f → f.isA .contentSource = false

theorem astray_ok (a : α) : Astray (.ok a) := by
  intro f h
  cases h

theorem astray_error {f : Fault} (h : f.isA .contentSource = false) :
    Astray (.error f : Except Fault α) := by
  rintro _ ⟨⟩
  exact h

theorem Astray.bind {g : α → Except Fault β} (h : Astray r) (hg : ∀ a, Astray (g a)) :
    Astray (r >>= g) := by
  intro f hf
  rcases bind_eq_error.mp hf with hr | ⟨a, -, ha⟩
  · exact h f hr
  · exact hg a f ha

theorem Astray.mapM {g : α → Except Fault β} (h : ∀ a, Astray (g a)) (as : List α) :
    Astray (as.mapM g) := by
  intro f hf
  obtain ⟨before, a, after, -, -, ha⟩ := mapM_eq_error.mp hf
  exact h a f ha

theorem Astray.ite {r' : Except Fault α} {p : Prop} [Decidable p] (h : Astray r)
    (h' : Astray r') : Astray (if p then r else r') := by
  split
  · exact h
  · exact h'

theorem Astray.mapError {ε : Type} {r : Except ε α} {g : ε → Fault}
    (h : ∀ e, (g e).isA .contentSource = false) : Astray (r.mapError g) := by
  intro f hf
  cases r with
  | ok a => cases hf
  | error e =>
    cases hf
    exact h e

/-- What an object has under a name, or a default in its place. -/
inductive HasOr (key : String) (default : Json) : Json → Json → Prop
  | member {members : List (String × Json)} :
      HasOr key default (.obj members) ((members.lookup key).getD default)

def IsObject (v : Json) : Prop := ∃ members, v = .obj members

theorem HasOr.isObject (h : HasOr key default v u) : IsObject v := by
  cases h
  exact ⟨_, rfl⟩

/-- The first item of a list, or the first character of a text. -/
inductive First : Json → Json → Prop
  | item {v : Json} {vs : List Json} : First (.arr (v :: vs)) v
  | character {c : Char} {cs : List Char} :
      First (.str (String.ofList (c :: cs))) (.str (String.singleton c))

/-- An object that has a title. -/
inductive Titled : Json → Json → Prop
  | object {members : List (String × Json)} {title : Json} :
      members.lookup "title" = some title → Titled (.obj members) title

/-- A list of things with titles. What is empty counts as an empty list. -/
inductive ListsTitles : Json → List Json → Prop
  | items {items hits : List Json} : List.Forall₂ Titled items hits → ListsTitles (.arr items) hits
  | noMembers : ListsTitles (.obj []) []
  | noCharacters : ListsTitles (.str "") []

theorem memberOr_eq_ok : v.memberOr key default = .ok u ↔ HasOr key default v u := by
  constructor
  · intro h
    cases v with
    | obj members =>
      cases h
      exact .member
    | _ => cases h
  · rintro ⟨⟩
    rfl

theorem astray_memberOr (v : Json) (key : String) (default : Json) :
    Astray (v.memberOr key default) := by
  intro f h
  cases v <;> cases h <;> rfl

theorem firstItem_eq_ok : v.firstItem = .ok u ↔ First v u := by
  constructor
  · intro h
    cases v with
    | arr items =>
      cases items with
      | nil => cases h
      | cons item items =>
        cases h
        exact .item
    | str s =>
      cases hs : s.toList with
      | nil =>
        simp [Json.firstItem, hs] at h
      | cons c cs =>
        obtain rfl : Json.str (String.singleton c) = u := by simpa [Json.firstItem, hs] using h
        obtain rfl : s = String.ofList (c :: cs) := by rw [← hs, String.ofList_toList]
        exact .character
    | _ => cases h
  · rintro (_ | _)
    · rfl
    · rw [Json.firstItem, String.toList_ofList]

theorem astray_firstItem (v : Json) : Astray v.firstItem := by
  intro f h
  cases v with
  | arr items =>
    cases items with
    | nil =>
      cases h
      rfl
    | cons item items => cases h
  | str s =>
    rw [Json.firstItem] at h
    split at h
    · cases h
      rfl
    · cases h
  | _ =>
    cases h
    rfl

theorem memberAt_title_eq_ok : v.memberAt "title" = .ok u ↔ Titled v u := by
  constructor
  · intro h
    cases v with
    | obj members =>
      rw [Json.memberAt] at h
      split at h
      · rename_i title htitle
        cases h
        exact .object htitle
      · cases h
    | _ => cases h
  · rintro ⟨htitle⟩
    rw [Json.memberAt, htitle]

theorem astray_memberAt (key : String) (v : Json) : Astray (v.memberAt key) := by
  intro f h
  cases v with
  | obj members =>
    rw [Json.memberAt] at h
    split at h
    · cases h
    · cases h
      rfl
  | _ =>
    cases h
    rfl

theorem astray_parts (v : Json) : Astray v.parts := by
  intro f h
  cases v <;> cases h <;> rfl

theorem titles_eq_ok : titles list = .ok hits ↔ ListsTitles list hits := by
  rw [titles, bind_eq_ok]
  simp only [mapM_eq_ok, memberAt_title_eq_ok]
  constructor
  · rintro ⟨items, hparts, hitems⟩
    cases list with
    | arr items =>
      cases hparts
      exact .items hitems
    | obj members =>
      cases hparts
      cases members with
      | nil =>
        cases hitems
        exact .noMembers
      | cons m members =>
        -- The names of members are texts, and a text has no title.
        rcases hitems with _ | ⟨htitled, -⟩
        cases htitled
    | str s =>
      cases hparts
      cases hs : s.toList with
      | nil =>
        rw [hs] at hitems
        cases hitems
        rw [String.toList_eq_nil_iff.mp hs]
        exact .noCharacters
      | cons c cs =>
        rw [hs] at hitems
        rcases hitems with _ | ⟨htitled, -⟩
        cases htitled
    | _ => cases hparts
  · rintro (hitems | _ | _)
    · exact ⟨_, rfl, hitems⟩
    · exact ⟨[], rfl, .nil⟩
    · exact ⟨[], rfl, .nil⟩

theorem astray_titles (list : Json) : Astray (titles list) :=
  (astray_parts list).bind (Astray.mapM (astray_memberAt "title"))

/-- The titles in a list of the data. -/
inductive Lists (name : String) (data : Json) (hits : List Json) : Prop
  | found {query list : Json} :
      HasOr "query" (.obj []) data query → HasOr name (.arr []) query list →
      ListsTitles list hits → Lists name data hits

theorem Lists.isObject (h : Lists name data hits) : IsObject data := by
  obtain ⟨hquery, -, -⟩ := h
  exact hquery.isObject

theorem listed_eq_ok : listed name data = .ok hits ↔ Lists name data hits := by
  simp only [listed, bind_eq_ok, memberOr_eq_ok, titles_eq_ok]
  constructor
  · rintro ⟨query, hquery, list, hlist, hhits⟩
    exact .found hquery hlist hhits
  · rintro ⟨hquery, hlist, hhits⟩
    exact ⟨_, hquery, _, hlist, hhits⟩

theorem astray_listed (name : String) (data : Json) : Astray (listed name data) := by
  refine (astray_memberOr _ _ _).bind fun query => ?_
  exact (astray_memberOr _ _ _).bind astray_titles

/-- The first page in the data, or an empty object if no pages are there. -/
inductive FirstPage (data : Json) : Json → Prop
  | absent {query pages : Json} :
      HasOr "query" (.obj []) data query → HasOr "pages" .null query pages →
      pages.isSet = false → FirstPage data (.obj [])
  | present {query pages page : Json} :
      HasOr "query" (.obj []) data query → HasOr "pages" .null query pages →
      First pages page → FirstPage data page

theorem FirstPage.isObject (h : FirstPage data page) : IsObject data := by
  rcases h with ⟨hquery, -, -⟩ | ⟨hquery, -, -⟩
  · exact hquery.isObject
  · exact hquery.isObject

theorem First.isSet (h : First v u) : v.isSet = true := by
  cases h with
  | item => rfl
  | character => simp [Json.isSet]

theorem firstPage_eq_ok : firstPage data = .ok page ↔ FirstPage data page := by
  simp only [firstPage, bind_eq_ok, memberOr_eq_ok]
  constructor
  · rintro ⟨query, hquery, pages, hpages, hpage⟩
    split at hpage
    · exact .present hquery hpages (firstItem_eq_ok.mp hpage)
    · rename_i hset
      cases hpage
      exact .absent hquery hpages (eq_false_of_ne_true hset)
  · rintro (⟨hquery, hpages, hset⟩ | ⟨hquery, hpages, hpage⟩)
    · refine ⟨_, hquery, _, hpages, ?_⟩
      rw [hset]
      rfl
    · refine ⟨_, hquery, _, hpages, ?_⟩
      rw [if_pos hpage.isSet]
      exact firstItem_eq_ok.mpr hpage

theorem astray_firstPage (data : Json) : Astray (firstPage data) := by
  refine (astray_memberOr _ _ _).bind fun query => ?_
  refine (astray_memberOr _ _ _).bind fun pages => ?_
  split
  · exact astray_firstItem pages
  · exact astray_ok _

/-- The titles in a list of the first page. -/
inductive ListsOnPage (name : String) (data : Json) (hits : List Json) : Prop
  | found {page list : Json} :
      FirstPage data page → HasOr name (.arr []) page list → ListsTitles list hits →
      ListsOnPage name data hits

theorem ListsOnPage.isObject (h : ListsOnPage name data hits) : IsObject data := by
  obtain ⟨hpage, -, -⟩ := h
  exact hpage.isObject

theorem listedOnPage_eq_ok : listedOnPage name data = .ok hits ↔ ListsOnPage name data hits := by
  simp only [listedOnPage, bind_eq_ok, firstPage_eq_ok, memberOr_eq_ok, titles_eq_ok]
  constructor
  · rintro ⟨page, hpage, list, hlist, hhits⟩
    exact .found hpage hlist hhits
  · rintro ⟨hpage, hlist, hhits⟩
    exact ⟨_, hpage, _, hlist, hhits⟩

theorem astray_listedOnPage (name : String) (data : Json) : Astray (listedOnPage name data) := by
  refine (astray_firstPage data).bind fun page => ?_
  exact (astray_memberOr _ _ _).bind astray_titles

/-- Whether an object has something under a name that counts as true. -/
def isMarked (members : List (String × Json)) (name : String) : Bool :=
  ((members.lookup name).getD .null).isSet

/-- Whether a page is missing: something empty is, and an object that is marked so. -/
inductive Missing : Json → Bool → Prop
  | empty {page : Json} : page.isSet = false → Missing page true
  | object {m : String × Json} {members : List (String × Json)} :
      Missing (.obj (m :: members))
        (isMarked (m :: members) "missing" || isMarked (m :: members) "invalid")

theorem isMissing_of_empty (h : page.isSet = false) : isMissing page = .ok true := by
  rw [isMissing, h]
  rfl

theorem isMissing_object (m : String × Json) (members : List (String × Json)) :
    isMissing (.obj (m :: members)) =
      .ok (isMarked (m :: members) "missing" || isMarked (m :: members) "invalid") := by
  have hset : (Json.obj (m :: members)).isSet = true := rfl
  cases hmissing : isMarked (m :: members) "missing" with
  | true =>
    rw [isMarked] at hmissing
    simp [isMissing, hset, Json.memberOr, hmissing, bind, Except.bind, pure, Except.pure]
  | false =>
    have hmissing' := hmissing
    rw [isMarked] at hmissing'
    simp [isMissing, hset, Json.memberOr, hmissing', isMarked, bind, Except.bind, pure, Except.pure]

theorem isMissing_eq_ok {b : Bool} : isMissing page = .ok b ↔ Missing page b := by
  constructor
  · intro h
    cases hset : page.isSet with
    | false =>
      rw [isMissing_of_empty hset] at h
      cases h
      exact .empty hset
    | true =>
      cases page with
      | obj members =>
        cases members with
        | nil => cases hset
        | cons m members =>
          rw [isMissing_object] at h
          cases h
          exact .object
      | _ =>
        rw [isMissing, hset] at h
        cases h
  · rintro (hempty | _)
    · exact isMissing_of_empty hempty
    · exact isMissing_object _ _

theorem astray_isMissing (page : Json) : Astray (isMissing page) := by
  rw [isMissing]
  split
  · exact astray_ok true
  · refine (astray_memberOr _ _ _).bind fun missing => ?_
    split
    · exact astray_ok true
    · exact (astray_memberOr _ _ _).bind fun invalid => astray_ok _

/-- The newest revision of a page, if it has any. -/
inductive Revision (page : Json) : Option Json → Prop
  | none {revisions : Json} :
      HasOr "revisions" .null page revisions → revisions.isSet = false → Revision page none
  | newest {revisions r : Json} :
      HasOr "revisions" .null page revisions → First revisions r → Revision page (some r)

theorem firstRevision?_eq_ok {r : Option Json} :
    firstRevision? page = .ok r ↔ Revision page r := by
  simp only [firstRevision?, bind_eq_ok, memberOr_eq_ok]
  constructor
  · rintro ⟨revisions, hrevisions, h⟩
    split at h
    · obtain ⟨first, hfirst, hr⟩ := bind_eq_ok.mp h
      cases hr
      exact .newest hrevisions (firstItem_eq_ok.mp hfirst)
    · rename_i hset
      cases h
      exact .none hrevisions (eq_false_of_ne_true hset)
  · rintro (⟨hrevisions, hset⟩ | ⟨hrevisions, hfirst⟩)
    · refine ⟨_, hrevisions, ?_⟩
      rw [hset]
      rfl
    · refine ⟨_, hrevisions, ?_⟩
      rw [if_pos hfirst.isSet]
      exact bind_eq_ok.mpr ⟨_, firstItem_eq_ok.mpr hfirst, rfl⟩

theorem astray_firstRevision? (page : Json) : Astray (firstRevision? page) := by
  refine (astray_memberOr _ _ _).bind fun revisions => ?_
  split
  · exact (astray_firstItem revisions).bind fun r => astray_ok _
  · exact astray_ok _

/-- What is taken from the newest revision of a page; from a page that is missing or has none, an
empty text. -/
def fromNewest (take : Json → Except Fault Json) (page : Json) : Except Fault Json := do
  if ← isMissing page then return .str ""
  match ← firstRevision? page with
  | none => return .str ""
  | some r => take r

def contentOf (r : Json) : Except Fault Json := do
  let main ← (← r.memberOr "slots" (.obj [])).memberOr "main" (.obj [])
  main.memberOr "content" (.str "")

def userOf (r : Json) : Except Fault Json := r.memberOr "user" (.str "")

/-- The content of a revision, in its main slot. -/
inductive Content (r : Json) (text : Json) : Prop
  | found {slots main : Json} :
      HasOr "slots" (.obj []) r slots → HasOr "main" (.obj []) slots main →
      HasOr "content" (.str "") main text → Content r text

/-- Whoever made a revision. -/
def User (r user : Json) : Prop := HasOr "user" (.str "") r user

theorem contentOf_eq_ok : contentOf u = .ok v ↔ Content u v := by
  simp only [contentOf, bind_eq_ok, memberOr_eq_ok]
  constructor
  · rintro ⟨slots, hslots, main, hmain, htext⟩
    exact .found hslots hmain htext
  · rintro ⟨hslots, hmain, htext⟩
    exact ⟨_, hslots, _, hmain, htext⟩

theorem userOf_eq_ok : userOf u = .ok v ↔ User u v := memberOr_eq_ok

theorem astray_contentOf (r : Json) : Astray (contentOf r) := by
  refine (astray_memberOr _ _ _).bind fun slots => ?_
  exact (astray_memberOr _ _ _).bind fun main => astray_memberOr _ _ _

theorem astray_userOf (r : Json) : Astray (userOf r) := astray_memberOr _ _ _

/-- What is told of the newest revision of a page; of a page that is missing or has none, an empty
text. -/
inductive OfNewest (Told : Json → Json → Prop) (page : Json) : Json → Prop
  | missing : Missing page true → OfNewest Told page (.str "")
  | unrevised : Missing page false → Revision page none → OfNewest Told page (.str "")
  | revised {r v : Json} :
      Missing page false → Revision page (some r) → Told r v → OfNewest Told page v

theorem fromNewest_eq_ok {take : Json → Except Fault Json} {Told : Json → Json → Prop}
    (h : ∀ {r v}, take r = .ok v ↔ Told r v) :
    fromNewest take page = .ok v ↔ OfNewest Told page v := by
  simp only [fromNewest, bind_eq_ok, isMissing_eq_ok]
  constructor
  · rintro ⟨missing, hmissing, hv⟩
    cases missing with
    | true =>
      cases hv
      exact .missing hmissing
    | false =>
      obtain ⟨r, hr, hv⟩ := bind_eq_ok.mp hv
      cases r with
      | none =>
        cases hv
        exact .unrevised hmissing (firstRevision?_eq_ok.mp hr)
      | some r => exact .revised hmissing (firstRevision?_eq_ok.mp hr) (h.mp hv)
  · rintro (hmissing | ⟨hmissing, hr⟩ | ⟨hmissing, hr, hv⟩)
    · exact ⟨true, hmissing, rfl⟩
    · refine ⟨false, hmissing, ?_⟩
      exact bind_eq_ok.mpr ⟨none, firstRevision?_eq_ok.mpr hr, rfl⟩
    · refine ⟨false, hmissing, ?_⟩
      exact bind_eq_ok.mpr ⟨_, firstRevision?_eq_ok.mpr hr, h.mpr hv⟩

theorem astray_fromNewest {take : Json → Except Fault Json} (h : ∀ r, Astray (take r))
    (page : Json) : Astray (fromNewest take page) := by
  refine (astray_isMissing page).bind fun missing => ?_
  split
  · exact astray_ok _
  · refine (astray_firstRevision? page).bind fun r => ?_
    cases r with
    | none => exact astray_ok _
    | some r => exact h r

theorem textOf_eq_ok : textOf page = .ok v ↔ OfNewest Content page v :=
  fromNewest_eq_ok contentOf_eq_ok

theorem editorOf_eq_ok : editorOf page = .ok v ↔ OfNewest User page v :=
  fromNewest_eq_ok userOf_eq_ok

theorem astray_textOf (page : Json) : Astray (textOf page) :=
  astray_fromNewest astray_contentOf page

theorem astray_editorOf (page : Json) : Astray (editorOf page) :=
  astray_fromNewest astray_userOf page

end WikiGateway.Client
