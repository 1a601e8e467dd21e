import WikiGateway.Proofs.Client.Gathering

/-!
When a client keeps its word: a call answers with a value of its declared type, or fails as a source
of content fails. That depends on the exchanges alone, and there are answers after which it does
not.
-/
namespace WikiGateway.Client

open WikiGateway.Action Attempt

variable {α β : Type} {c : Client}

/-- What a client can be asked. -/
inductive Call
  | search (term : String) (limit : Int)
  | pageText (title : String)
  | linksOn (title : String)
  | categoryMembers (category : String)
  | categoriesOn (title : String)
  | lastEditor (title : String)
  | pageExists (title : String)
  deriving DecidableEq, Repr

/-- The answer to a call, as a value of JSON. -/
def ask (c : Client) : Call → Action Wire Json
  | .search term limit => .arr <$> c.search term limit
  | .pageText title => c.pageText title
  | .linksOn title => .arr <$> c.linksOn title
  | .categoryMembers category => .arr <$> c.categoryMembers category
  | .categoriesOn title => .arr <$> c.categoriesOn title
  | .lastEditor title => c.lastEditor title
  | .pageExists title => .bool <$> c.pageExists title

/-- Values that are all texts. -/
def AreTexts (vs : List Json) : Prop := ∃ texts : List String, vs = texts.map .str

def IsTexts (v : Json) : Prop := ∃ vs, v = .arr vs ∧ AreTexts vs

def IsText (v : Json) : Prop := ∃ text, v = .str text

def IsTruthValue (v : Json) : Prop := ∃ b, v = .bool b

namespace Call

/-- A call that sends no request. -/
def asksNothing : Call → Bool
  | search _ limit => decide (limit ≤ 0)
  | pageText title | linksOn title | categoryMembers title | categoriesOn title
  | lastEditor title | pageExists title => isNoTitle title

/-- The parameters of the requests for a call. -/
def parameters : Call → Parameters
  | search term limit => .ofList [("list", .str "search"), ("srsearch", .str term),
      ("srlimit", .int (min limit mostHits)), ("srprop", .str "")]
  | pageText title => .ofList [("prop", .str "revisions"), ("titles", .str title),
      ("rvprop", .str "content"), ("rvslots", .str "main")]
  | linksOn title => .ofList [("prop", .str "links"), ("titles", .str title),
      ("plnamespace", .int 0), ("pllimit", .str "max")]
  | categoryMembers category => .ofList [("list", .str "categorymembers"),
      ("cmtitle", .str category), ("cmlimit", .str "max")]
  | categoriesOn title => .ofList [("prop", .str "categories"), ("titles", .str title),
      ("cllimit", .str "max")]
  | lastEditor title => .ofList [("prop", .str "revisions"), ("titles", .str title),
      ("rvprop", .str "user"), ("rvlimit", .int 1)]
  | pageExists title => .ofList [("prop", .str "info"), ("titles", .str title)]

/-- The declared type of the answer to a call. -/
def Declares : Call → Json → Prop
  | search .. | linksOn _ | categoryMembers _ | categoriesOn _ => IsTexts
  | pageText _ | lastEditor _ => IsText
  | pageExists _ => IsTruthValue

end Call

/-- The next exchange of a script fails, or tells data with a first page of some shape. -/
inductive Finds (c : Client) (params : Parameters) (Shape : Json → Prop) (script : List Exchange) :
    Prop
  | fails : c.FailsNext params script → Finds c params Shape script
  | page {data page : Json} :
      c.TellsNext params script data → FirstPage data page → Shape page →
      Finds c params Shape script

/-- The exchanges of a script after which a call keeps its word. -/
def Sound (c : Client) (script : List Exchange) (call : Call) : Prop :=
  match call with
  | .search _ limit =>
    c.Gathers call.parameters (Lists "search") (some limit.toNat) AreTexts [] [] script
  | .linksOn _ => c.Gathers call.parameters (ListsOnPage "links") none AreTexts [] [] script
  | .categoryMembers _ =>
    c.Gathers call.parameters (Lists "categorymembers") none AreTexts [] [] script
  | .categoriesOn _ =>
    c.Gathers call.parameters (ListsOnPage "categories") none AreTexts [] [] script
  | .pageText _ =>
    c.Finds call.parameters (fun page => ∃ v, OfNewest Content page v ∧ IsText v) script
  | .lastEditor _ =>
    c.Finds call.parameters (fun page => ∃ v, OfNewest User page v ∧ IsText v) script
  | .pageExists _ => c.Finds call.parameters (fun page => ∃ b, Missing page b) script

/-- No call keeps its word after an answer that holds a list, a text or anything but an object. -/
theorem Sound.isObject {call : Call} {status : Int} {body : List UInt8} {script : List Exchange}
    {data : Json} (h : c.Sound (.answer status body :: script) call) (hstatus : status < 400)
    (hholds : Holds body data) : IsObject data := by
  have hpage {params : Parameters} {Shape : Json → Prop}
      (h : c.Finds params Shape (.answer status body :: script)) : IsObject data := by
    cases h with
    | fails hfails => exact hfails.2.isObject hstatus hholds
    | page htells hpage =>
      obtain rfl := hholds.unique htells.2.holds
      exact hpage.isObject
  cases call with
  | search | categoryMembers => exact Gathers.isObject Lists.isObject h hstatus hholds
  | linksOn | categoriesOn => exact Gathers.isObject ListsOnPage.isObject h hstatus hholds
  | pageText | lastEditor | pageExists => exact hpage h

theorem keepsTo_ok {P : α → Prop} {a : α} (h : P a) : KeepsTo P (.ok a) := .inl ⟨a, rfl, h⟩

theorem keepsTo_map {P : β → Prop} (g : α → β) (r : Except Fault α) :
    KeepsTo P (r.map g) ↔ KeepsTo (fun a => P (g a)) r := by
  cases r with
  | ok a => simp [KeepsTo, FailsAsSource, Except.map]
  | error f => simp [KeepsTo, FailsAsSource, Except.map]

/-- A call that sends no request is answered at once, as declared. -/
theorem keepsTo_of_asksNothing {call : Call} (h : call.asksNothing = true) (c : Client) (w : Wire) :
    KeepsTo call.Declares ((c.ask call).runIn w).1 := by
  cases call with
  | search term limit =>
    have hlimit : limit ≤ 0 := of_decide_eq_true h
    rw [ask, search, if_pos hlimit]
    exact keepsTo_ok ⟨[], rfl, [], rfl⟩
  | pageText title =>
    have hnone : isNoTitle title = true := h
    rw [ask, pageText, if_pos hnone]
    exact keepsTo_ok ⟨"", rfl⟩
  | linksOn title =>
    have hnone : isNoTitle title = true := h
    rw [ask, linksOn, if_pos hnone]
    exact keepsTo_ok ⟨[], rfl, [], rfl⟩
  | categoryMembers category =>
    have hnone : isNoTitle category = true := h
    rw [ask, categoryMembers, if_pos hnone]
    exact keepsTo_ok ⟨[], rfl, [], rfl⟩
  | categoriesOn title =>
    have hnone : isNoTitle title = true := h
    rw [ask, categoriesOn, if_pos hnone]
    exact keepsTo_ok ⟨[], rfl, [], rfl⟩
  | lastEditor title =>
    have hnone : isNoTitle title = true := h
    rw [ask, lastEditor, if_pos hnone]
    exact keepsTo_ok ⟨"", rfl⟩
  | pageExists title =>
    have hnone : isNoTitle title = true := h
    rw [ask, pageExists, if_pos hnone]
    exact keepsTo_ok ⟨false, rfl⟩

/-- A list that is gathered from as many answers as there are. -/
theorem keepsTo_collect_iff {find : Json → Except Fault (List Json)}
    {Hits : Json → List Json → Prop} (hfind : ∀ {data hits}, find data = .ok hits ↔ Hits data hits)
    (hastray : ∀ data, Astray (find data)) (c : Client) (params : Parameters) (limit : Option Nat)
    (w : Wire) :
    KeepsTo IsTexts ((Json.arr <$> c.collect params find limit).runIn w).1 ↔
      c.Gathers params Hits limit AreTexts [] [] w.script := by
  have hcollect : (c.collect params find limit).runIn w =
      (c.gather params find limit (w.script.length + 1) [] []).runIn w := rfl
  have htexts (hits : List Json) : IsTexts (.arr hits) ↔ AreTexts hits := by
    simp [IsTexts, AreTexts]
  rw [runIn_map, keepsTo_map, hcollect]
  simp only [htexts]
  exact keepsTo_gather_iff hfind hastray (Nat.lt_succ_self _)

/-- What is taken from the first page of one answer. -/
theorem keepsTo_page_iff {P : α → Prop} {take : Json → Except Fault α} {Taken : Json → α → Prop}
    (htake : ∀ {page a}, take page = .ok a ↔ Taken page a) (hastray : ∀ page, Astray (take page))
    (c : Client) (params : Parameters) (w : Wire) :
    KeepsTo P ((do take (← firstPage (← c.request params)) : Action Wire α).runIn w).1 ↔
      c.Finds params (fun page => ∃ a, Taken page a ∧ P a) w.script := by
  have hrest (data : Json) (w : Wire) :
      ((do take (← firstPage data) : Action Wire α).runIn w).1 = firstPage data >>= take := by
    rw [runIn_bind, runIn_lift]
    cases firstPage data <;> rfl
  rw [keepsTo_request]
  simp only [hrest]
  constructor
  · rintro ⟨hsends, hfails | ⟨data, htells, hkeeps⟩⟩
    · exact .fails ⟨hsends, hfails⟩
    · have hpure : Astray (firstPage data >>= take) := (astray_firstPage data).bind hastray
      obtain ⟨a, ha, hP⟩ := hpure.keepsTo_iff.mp hkeeps
      obtain ⟨page, hpage, ha⟩ := bind_eq_ok.mp ha
      exact .page ⟨hsends, htells⟩ (firstPage_eq_ok.mp hpage) ⟨a, htake.mp ha, hP⟩
  · rintro (⟨hsends, hfails⟩ | ⟨⟨hsends, htells⟩, hpage, a, ha, hP⟩)
    · exact ⟨hsends, .inl hfails⟩
    · refine ⟨hsends, .inr ⟨_, htells, .inl ⟨a, ?_, hP⟩⟩⟩
      exact bind_eq_ok.mpr ⟨_, firstPage_eq_ok.mpr hpage, htake.mpr ha⟩

/-- A call that sends requests keeps its word exactly along sound exchanges. -/
theorem keepsTo_iff_sound {call : Call} (h : call.asksNothing = false) (c : Client) (w : Wire) :
    KeepsTo call.Declares ((c.ask call).runIn w).1 ↔ c.Sound w.script call := by
  cases call with
  | search term limit =>
    have hlimit : ¬ limit ≤ 0 := of_decide_eq_false h
    rw [ask, search, if_neg hlimit]
    exact keepsTo_collect_iff listed_eq_ok (astray_listed "search") c _ _ w
  | linksOn title =>
    have htitle : isNoTitle title ≠ true := ne_true_of_eq_false h
    rw [ask, linksOn, if_neg htitle]
    exact keepsTo_collect_iff listedOnPage_eq_ok (astray_listedOnPage "links") c _ _ w
  | categoryMembers category =>
    have htitle : isNoTitle category ≠ true := ne_true_of_eq_false h
    rw [ask, categoryMembers, if_neg htitle]
    exact keepsTo_collect_iff listed_eq_ok (astray_listed "categorymembers") c _ _ w
  | categoriesOn title =>
    have htitle : isNoTitle title ≠ true := ne_true_of_eq_false h
    rw [ask, categoriesOn, if_neg htitle]
    exact keepsTo_collect_iff listedOnPage_eq_ok (astray_listedOnPage "categories") c _ _ w
  | pageText title =>
    have htitle : isNoTitle title ≠ true := ne_true_of_eq_false h
    rw [ask, pageText, if_neg htitle]
    exact keepsTo_page_iff textOf_eq_ok astray_textOf c _ w
  | lastEditor title =>
    have htitle : isNoTitle title ≠ true := ne_true_of_eq_false h
    rw [ask, lastEditor, if_neg htitle]
    exact keepsTo_page_iff editorOf_eq_ok astray_editorOf c _ w
  | pageExists title =>
    have htitle : isNoTitle title ≠ true := ne_true_of_eq_false h
    have hexists : c.pageExists title = (fun missing => !missing) <$>
        (do isMissing (← firstPage (← c.request (Call.pageExists title).parameters)) :
          Action Wire Bool) := by
      rw [pageExists, if_neg htitle, map_bind]
      refine bind_congr fun data => ?_
      rw [map_bind]
      refine bind_congr fun page => ?_
      rw [map_eq_pure_bind]
    -- Whatever is said of a page, its opposite is a truth value.
    have hshape : (fun page => ∃ b, Missing page b ∧ IsTruthValue (.bool !b)) =
        fun page => ∃ b, Missing page b := by
      funext page
      simp [IsTruthValue]
    rw [ask, hexists, runIn_map, runIn_map, keepsTo_map, keepsTo_map, Sound, ← hshape]
    exact keepsTo_page_iff isMissing_eq_ok astray_isMissing c _ w

/-- Whichever exchanges come, a call answers with a value of its declared type, or fails as a source
of content fails, exactly if it sends no request or the exchanges are sound for it. -/
theorem keepsTo_declares_iff (c : Client) (call : Call) (w : Wire) :
    KeepsTo call.Declares ((c.ask call).runIn w).1 ↔
      call.asksNothing = true ∨ c.Sound w.script call := by
  cases h : call.asksNothing with
  | true => simp [keepsTo_of_asksNothing h c w]
  | false => simp [keepsTo_iff_sound h c w]

/-- Whether a page exists, asked for where an empty list comes as the answer: what is raised is no
failure of a source of content. -/
theorem pageExists_emptyList :
    ¬ KeepsTo (Call.pageExists "A").Declares
      ((Client.ask ⟨"https://en.wikipedia.org/w/api.php", 1⟩ (.pageExists "A")).runIn
        (Wire.ofScript [.answer 200 [0x5b, 0x5d]])).1 := by
  have hasks : (Call.pageExists "A").asksNothing = false := by decide
  have hholds : Holds [0x5b, 0x5d] (.arr []) := ⟨"[]", by decide, by rfl⟩
  intro hkeeps
  rw [keepsTo_iff_sound hasks] at hkeeps
  obtain ⟨members, hmembers⟩ := hkeeps.isObject (by omega) hholds
  cases hmembers

end WikiGateway.Client
