import Mathlib
import WikiGateway.Proofs.Client.Errors
import WikiGateway.Proofs.Json.Values
import WikiGateway.Proofs.Ledger.Changes

/-!
How a client follows a list over several answers: what it asks for after each of them, where it
stops, and what it has gathered by then.
-/
namespace WikiGateway

namespace OrderedMap

variable {α : Type}

theorem find?_overlay_entries (d e : OrderedMap α) (k : String) :
    (d.overlay e.entries).find? k = (e.find? k).or (d.find? k) := by
  obtain ⟨es, hes⟩ := e
  simp only [find?]
  induction es generalizing d with
  | nil => rfl
  | cons a es ih =>
    obtain ⟨hnew, hes⟩ := List.nodup_cons.mp hes
    have hstep : (d.overlay (a :: es)).entries.lookup k =
        ((d.insert a.1 a.2).overlay es).entries.lookup k := rfl
    have hinsert : (d.insert a.1 a.2).entries.lookup k =
        if k = a.1 then some a.2 else d.entries.lookup k := find?_insert d a.1 k a.2
    rw [hstep, ih (d.insert a.1 a.2) hes, hinsert, lookup_entry]
    by_cases hk : k = a.1
    · rw [if_pos hk, if_pos hk, hk, lookup_eq_none hnew]
      rfl
    · rw [if_neg hk, if_neg hk]

/-- One entry more is written over a map after the others. -/
theorem overlay_insert (d e : OrderedMap α) (k : String) (v : α) :
    d.overlay (e.insert k v).entries = (d.overlay e.entries).insert k v := by
  by_cases hk : k ∈ e.keys
  · refine ext_find? ?_ fun x => ?_
    · have hkeys (m : OrderedMap α) : (d.overlay m.entries).keys = (d.keys ++ m.keys).eraseDups :=
        keys_overlay d m.entries
      have hmem : k ∈ (d.overlay e.entries).keys := by
        rw [hkeys, List.mem_eraseDups, List.mem_append]
        exact .inr hk
      rw [keys_insert, if_pos hmem, hkeys, hkeys, keys_insert, if_pos hk]
    · rw [find?_overlay_entries, find?_insert, find?_insert, find?_overlay_entries]
      by_cases hx : x = k
      · rw [if_pos hx, if_pos hx]
        rfl
      · rw [if_neg hx, if_neg hx]
  · have hentries : (e.insert k v).entries = e.entries ++ [(k, v)] := putEntry_new hk v
    rw [hentries, overlay, List.foldl_append]
    rfl

/-- Entries that are written over others are written after them. -/
theorem overlay_overlay (d e : OrderedMap α) (es : List (String × α)) :
    d.overlay (e.overlay es).entries = (d.overlay e.entries).overlay es := by
  induction es generalizing e with
  | nil => rfl
  | cons a es ih => exact (ih (e.insert a.1 a.2)).trans (by rw [overlay_insert]; rfl)

end OrderedMap

namespace Client

open WikiGateway.Action Attempt

/-- A well-formed answer, as a client sees it: the hits in it, and with which parameters to go on if
it is not the last one. -/
structure Reply where
  exchange : Exchange
  hits : List Json
  next : Option (List (String × Json))

/-- The hits in some answers, in order. -/
def hitsOf (replies : List Reply) : List Json := replies.flatMap Reply.hits

/-- The parameters with which to go on after some answers: those of the last one alone. -/
def continuationAfter (replies : List Reply) : List (String × Json) :=
  (replies.getLast?.bind Reply.next).getD []

namespace Call

/-- Whether a call gathers a list from all its answers. -/
def gathersList : Call → Bool
  | search .. | linksOn _ | categoryMembers _ | categoriesOn _ => true
  | pageText _ | lastEditor _ | pageExists _ => false

/-- How many hits a call wants at most. -/
def limit? : Call → Option Nat
  | search _ limit => some limit.toNat
  | _ => none

/-- The hits for a call in the data of an answer. -/
def Hits : Call → Json → List Json → Prop
  | search .. => Lists "search"
  | linksOn _ => ListsOnPage "links"
  | categoryMembers _ => Lists "categorymembers"
  | categoriesOn _ => ListsOnPage "categories"
  | pageText _ | lastEditor _ | pageExists _ => fun _ _ => False

/-- An answer to a call is well-formed and is seen as it is. -/
def Gets (call : Call) (r : Reply) : Prop :=
  ∃ data, Tells r.exchange data ∧ call.Hits data r.hits ∧
    data.member? "continue" = r.next.map .obj

/-- The first hits, as many as a call wants. -/
def cut (call : Call) (hits : List Json) : List Json :=
  match call.limit? with
  | none => hits
  | some limit => hits.take limit

theorem cut_eq_take (call : Call) (hits : List Json) :
    call.cut hits = hits.take (call.limit?.getD hits.length) := by
  rw [cut]
  cases call.limit? with
  | none => exact List.take_length.symm
  | some limit => rfl

theorem cut_of_not_enough {call : Call} {hits : List Json}
    (h : isEnough call.limit? hits = false) : call.cut hits = hits := by
  rw [cut]
  cases hlimit : call.limit? with
  | none => rfl
  | some limit =>
    rw [hlimit] at h
    have hless : ¬ limit ≤ hits.length := of_decide_eq_false h
    exact List.take_of_length_le (by omega)

/-- Whether a call has come to its end with the last of some answers: it was the last one, or enough
was gathered. -/
def IsOver (call : Call) (before : List Reply) (r : Reply) : Prop :=
  r.next = none ∨ isEnough call.limit? (hitsOf (before ++ [r])) = true

/-- The request after some answers: the fixed parameters, the call's own, and over them those of the
last answer. -/
def requestAfter (call : Call) (replies : List Reply) : Parameters :=
  (fixedParameters.overlay call.parameters.entries).overlay (continuationAfter replies)

/-- The requests that were sent when there are some answers, one for each. -/
def requests (call : Call) (replies : List Reply) : List (List (String × String)) :=
  (List.range replies.length).map fun n => (call.requestAfter (replies.take n)).pairs

/-- The parameters of the request after some answers, without the fixed ones. -/
def parametersAfter (call : Call) (replies : List Reply) : Parameters :=
  call.parameters.overlay (continuationAfter replies)

theorem sentFor_parametersAfter (call : Call) (replies : List Reply) :
    sentFor (call.parametersAfter replies) = call.requestAfter replies :=
  OrderedMap.overlay_overlay _ _ _

theorem requests_concat (call : Call) (before : List Reply) (r : Reply) :
    call.requests (before ++ [r]) = call.requests before ++ [(call.requestAfter before).pairs] := by
  rw [requests, requests, List.length_append, List.length_singleton, List.range_succ,
    List.map_append, List.map_singleton, List.take_left]
  congr 1
  refine List.map_congr_left fun n hn => ?_
  rw [List.take_append_of_le_length (List.mem_range.mp hn).le]

end Call

variable {c : Client} {call : Call} {before : List Reply} {r : Reply} {rest : List Exchange}
  {w : Wire}

/-- Answers to the requests of a call that did not end with any of them: each request could be sent,
and each answer is well-formed. -/
inductive GoesOn (c : Client) (call : Call) : List Reply → Prop
  | start : GoesOn c call []
  | further {before : List Reply} {r : Reply} :
      GoesOn c call before → call.Gets r → c.Sends (call.parametersAfter before) r.exchange →
      ¬ call.IsOver before r → GoesOn c call (before ++ [r])

/-- The wire when some answers have come of a call, and what is still to come. -/
def wireAfter (w : Wire) (call : Call) (replies : List Reply) (rest : List Exchange) : Wire :=
  ⟨rest, w.sent ++ (call.requests replies).toArray⟩

theorem wireAfter_concat (w : Wire) (call : Call) (before : List Reply) (r : Reply)
    (rest : List Exchange) :
    wireAfter w call (before ++ [r]) rest =
      afterRequest (wireAfter w call before (r.exchange :: rest))
        (call.parametersAfter before) := by
  rw [wireAfter, wireAfter, afterRequest, Call.sentFor_parametersAfter, Call.requests_concat]
  congr 1
  rw [← List.append_toArray, ← Array.append_assoc]
  rfl

/-- A request that can be sent and comes to a well-formed answer. -/
theorem runIn_request_of_gets {data : Json} (htells : Tells r.exchange data)
    (hsends : c.Sends (call.parametersAfter before) r.exchange) :
    (c.request (call.parametersAfter before)).runIn (wireAfter w call before (r.exchange :: rest)) =
      (.ok data, wireAfter w call (before ++ [r]) rest) := by
  obtain ⟨v, hrun, hv⟩ := runIn_request c (call.parametersAfter before)
    (wireAfter w call before (r.exchange :: rest))
  rw [hrun, hv hsends, wireAfter_concat]
  have hchecks : c.checks (call.parametersAfter before) r.exchange = .ok () := hsends
  have hhead : (wireAfter w call before (r.exchange :: rest)).script.headD Wire.silence =
    r.exchange := rfl
  rw [hhead, hchecks, readAnswer_of_tells htells]
  rfl

theorem continuationAfter_concat (before : List Reply) (r : Reply) :
    continuationAfter (before ++ [r]) = r.next.getD [] := by
  rw [continuationAfter, List.getLast?_concat]
  rfl

theorem hitsOf_concat (before : List Reply) (r : Reply) :
    hitsOf (before ++ [r]) = hitsOf before ++ r.hits := by
  rw [hitsOf, List.flatMap_append, List.flatMap_singleton]
  rfl

section Gather

variable {find : Json → Except Fault (List Json)}

theorem runIn_gather_of_tells {data : Json} (htells : Tells r.exchange data)
    (hsends : c.Sends (call.parametersAfter before) r.exchange) (fuel : Nat) (w : Wire) :
    (gather c call.parameters find call.limit? (fuel + 1) (continuationAfter before)
        (hitsOf before)).runIn (wireAfter w call before (r.exchange :: rest)) =
      (goOn c call.parameters find call.limit? fuel (hitsOf before) data).runIn
        (wireAfter w call (before ++ [r]) rest) := by
  rw [gather_succ, runIn_bind, ← Call.parametersAfter, runIn_request_of_gets htells hsends]

/-- With an answer after which a call does not go on, it has come to its hits. -/
theorem runIn_gather_of_isOver (hfind : ∀ {data hits}, call.Hits data hits → find data = .ok hits)
    (hgets : call.Gets r) (hsends : c.Sends (call.parametersAfter before) r.exchange)
    (hover : call.IsOver before r) (fuel : Nat) (w : Wire) :
    (gather c call.parameters find call.limit? (fuel + 1) (continuationAfter before)
        (hitsOf before)).runIn (wireAfter w call before (r.exchange :: rest)) =
      (.ok (call.cut (hitsOf (before ++ [r]))), wireAfter w call (before ++ [r]) rest) := by
  obtain ⟨data, htells, hhits, hnext⟩ := hgets
  rw [Call.IsOver, hitsOf_concat] at hover
  rw [runIn_gather_of_tells htells hsends, hitsOf_concat]
  cases henough : isEnough call.limit? (hitsOf before ++ r.hits) with
  | true =>
    rw [goOn_of_enough (hfind hhits) henough]
    exact congrArg₂ Prod.mk (congrArg Except.ok (Call.cut_eq_take _ _).symm) rfl
  | false =>
    rw [henough] at hover
    rw [hover.resolve_right Bool.false_ne_true] at hnext
    rw [goOn_of_complete (hfind hhits) henough hnext, Call.cut_of_not_enough henough]

theorem runIn_gather_of_not_isOver
    (hfind : ∀ {data hits}, call.Hits data hits → find data = .ok hits) (hgets : call.Gets r)
    (hsends : c.Sends (call.parametersAfter before) r.exchange) (hover : ¬ call.IsOver before r)
    (fuel : Nat) (w : Wire) :
    (gather c call.parameters find call.limit? (fuel + 1) (continuationAfter before)
        (hitsOf before)).runIn (wireAfter w call before (r.exchange :: rest)) =
      (gather c call.parameters find call.limit? fuel (continuationAfter (before ++ [r]))
        (hitsOf (before ++ [r]))).runIn (wireAfter w call (before ++ [r]) rest) := by
  obtain ⟨data, htells, hhits, hnext⟩ := hgets
  obtain ⟨hlast, henough⟩ := not_or.mp hover
  obtain ⟨next, hr⟩ := Option.ne_none_iff_exists'.mp hlast
  rw [hitsOf_concat, Bool.not_eq_true] at henough
  rw [hr] at hnext
  rw [runIn_gather_of_tells htells hsends, goOn_of_continued (hfind hhits) henough hnext,
    hitsOf_concat, continuationAfter_concat, hr]
  rfl

/-- A gathering that goes on comes to its next request with what the answers so far held. -/
theorem GoesOn.runIn_gather (hfind : ∀ {data hits}, call.Hits data hits → find data = .ok hits)
    (h : GoesOn c call before) (fuel : Nat) (rest : List Exchange) (w : Wire) :
    (gather c call.parameters find call.limit? (fuel + before.length) [] []).runIn
        (wireAfter w call [] (before.map Reply.exchange ++ rest)) =
      (gather c call.parameters find call.limit? fuel (continuationAfter before)
        (hitsOf before)).runIn (wireAfter w call before rest) := by
  induction h generalizing fuel rest with
  | start => rfl
  | @further before r hbefore hgets hsends hover ih =>
    have hfuel : fuel + (before ++ [r]).length = (fuel + 1) + before.length := by
      rw [List.length_append, List.length_singleton]
      omega
    have hscript : (before ++ [r]).map Reply.exchange ++ rest =
        before.map Reply.exchange ++ r.exchange :: rest := by
      rw [List.map_append, List.append_assoc]
      rfl
    rw [hfuel, hscript, ih (fuel + 1) (r.exchange :: rest),
      runIn_gather_of_not_isOver hfind hgets hsends hover]

end Gather

/-- A call that gathers a list and is not refused at once gathers it with its own parameters. -/
theorem ask_eq_collect (hlist : call.gathersList = true) (hasks : call.asksNothing = false)
    (c : Client) : ∃ find, (∀ {data hits}, call.Hits data hits → find data = .ok hits) ∧
      c.ask call = Json.arr <$> c.collect call.parameters find call.limit? := by
  cases call with
  | search term limit =>
    have hlimit : ¬ limit ≤ 0 := of_decide_eq_false hasks
    refine ⟨_, listed_eq_ok.mpr, ?_⟩
    rw [ask, search, if_neg hlimit]
    rfl
  | linksOn title =>
    have htitle : isNoTitle title ≠ true := ne_true_of_eq_false hasks
    refine ⟨_, listedOnPage_eq_ok.mpr, ?_⟩
    rw [ask, linksOn, if_neg htitle]
    rfl
  | categoryMembers category =>
    have htitle : isNoTitle category ≠ true := ne_true_of_eq_false hasks
    refine ⟨_, listed_eq_ok.mpr, ?_⟩
    rw [ask, categoryMembers, if_neg htitle]
    rfl
  | categoriesOn title =>
    have htitle : isNoTitle title ≠ true := ne_true_of_eq_false hasks
    refine ⟨_, listedOnPage_eq_ok.mpr, ?_⟩
    rw [ask, categoriesOn, if_neg htitle]
    rfl
  | pageText title => cases hlist
  | lastEditor title => cases hlist
  | pageExists title => cases hlist

/-- What a call comes to when it went on with some answers: with an answer more after which it does
not go on, all hits, or the first of them, and no other request; with a request that fails, that
failure. -/
theorem ask_of_goesOn (hlist : call.gathersList = true) (hasks : call.asksNothing = false)
    (hbefore : GoesOn c call before) (hscript : w.script = before.map Reply.exchange ++ rest) :
    (∀ r later, rest = r.exchange :: later → call.Gets r →
      c.Sends (call.parametersAfter before) r.exchange → call.IsOver before r →
      (c.ask call).runIn w = (.ok (.arr (call.cut (hitsOf (before ++ [r])))),
        ⟨later, w.sent ++ (call.requests (before ++ [r])).toArray⟩)) ∧
    ∀ f w', (c.request (call.parametersAfter before)).runIn
        ⟨rest, w.sent ++ (call.requests before).toArray⟩ = (.error f, w') →
      (c.ask call).runIn w = (.error f, w') := by
  obtain ⟨find, hfind, hask⟩ := ask_eq_collect hlist hasks c
  have hwire : w = wireAfter w call [] (before.map Reply.exchange ++ rest) := by
    rw [← hscript]
    rfl
  have hlength : w.script.length + 1 = (rest.length + 1) + before.length := by
    rw [hscript, List.length_append, List.length_map]
    omega
  have hcollect : (c.collect call.parameters find call.limit?).runIn w =
      (gather c call.parameters find call.limit? (rest.length + 1) (continuationAfter before)
        (hitsOf before)).runIn (wireAfter w call before rest) := by
    rw [← hbefore.runIn_gather hfind, ← hwire, ← hlength]
    rfl
  rw [hask]
  refine ⟨fun r later hrest hgets hsends hover => ?_, fun f w' hfails => ?_⟩
  · subst hrest
    rw [runIn_map, hcollect, List.length_cons, runIn_gather_of_isOver hfind hgets hsends hover]
    rfl
  · have hgather : (gather c call.parameters find call.limit? (rest.length + 1)
        (continuationAfter before) (hitsOf before)).runIn (wireAfter w call before rest) =
          (.error f, w') := by
      rw [gather_succ, runIn_bind, ← Call.parametersAfter, wireAfter, hfails]
    rw [runIn_map, hcollect, hgather]
    rfl

/-- However many well-formed answers there are, a call goes on with all of them, or comes to its end
with one of them. -/
theorem goesOn_or_isOver {replies : List Reply} (hgets : ∀ r ∈ replies, call.Gets r)
    (hsends : ∀ before r, before ++ [r] <+: replies →
      c.Sends (call.parametersAfter before) r.exchange) :
    GoesOn c call replies ∨
      ∃ before r, before ++ [r] <+: replies ∧ GoesOn c call before ∧ call.IsOver before r := by
  induction replies using List.reverseRecOn with
  | nil => exact .inl .start
  | append_singleton replies r ih =>
    have hshorter : replies <+: replies ++ [r] := List.prefix_append replies [r]
    rcases ih (fun r' hr' => hgets r' (List.mem_append_left _ hr'))
      (fun before r' hr' => hsends before r' (hr'.trans hshorter)) with hgoes | hover
    · by_cases hlast : call.IsOver replies r
      · exact .inr ⟨replies, r, List.prefix_rfl, hgoes, hlast⟩
      · have hr : r ∈ replies ++ [r] := List.mem_append_right _ (List.mem_singleton_self r)
        exact .inl (.further hgoes (hgets r hr) (hsends replies r List.prefix_rfl) hlast)
    · obtain ⟨before, r', hprefix, hrest⟩ := hover
      exact .inr ⟨before, r', hprefix.trans hshorter, hrest⟩

/-- The data of an answer to a search. -/
def searched (titles : List String) (offset : String) : Json :=
  .obj [("continue", .obj [("sroffset", .str offset)]),
    ("query", .obj [("search", .arr (titles.map fun title => .obj [("title", .str title)]))])]

theorem readable_searched (titles : List String) (offset : String) :
    Json.Readable Json.mostNested (searched titles offset) := by
  have hone (name : String) {room : Nat} {v : Json} (hv : Json.Readable room v) :
      Json.Readable (room + 1) (.obj [(name, v)]) :=
    Json.readable_obj (by simpa using hv) (List.nodup_singleton name)
  have hitems : Json.Readable 978
      (.arr (titles.map fun title => .obj [("title", .str title)])) := by
    refine Json.readable_arr fun v hv => ?_
    obtain ⟨title, -, rfl⟩ := List.mem_map.mp hv
    exact hone "title" (Json.readable_str title 976)
  refine @Json.readable_obj 979 _ (fun m hm => ?_) (by simp)
  rcases List.mem_pair.mp hm with rfl | rfl
  · exact hone "sroffset" (Json.readable_str offset 978)
  · exact hone "search" hitems

/-- An answer to a search, with where to go on. -/
def searchReply (titles : List String) (offset : String) : Reply where
  exchange := .answer 200 (searched titles offset).write.toUTF8.toList
  hits := titles.map .str
  next := some [("sroffset", .str offset)]

theorem gets_searchReply {titles : List String} {offset : String}
    (h : Encoding.decode? (searched titles offset).write.toUTF8.toList =
      some (searched titles offset).write) (term : String) (limit : Int) :
    (Call.search term limit).Gets (searchReply titles offset) := by
  have hholds : Holds (searched titles offset).write.toUTF8.toList (searched titles offset) :=
    ⟨_, h, (readable_searched titles offset).read⟩
  have htitles : ListsTitles (.arr (titles.map fun title => .obj [("title", .str title)]))
      (titles.map .str) := by
    refine .items (List.forall₂_map_left_iff.mpr (List.forall₂_map_right_iff.mpr ?_))
    exact List.forall₂_same.mpr fun title _ => .object rfl
  exact ⟨_, .answer (by decide) hholds rfl, .found .member .member htitles, rfl⟩

theorem sends_search (body : List UInt8) : (Client.mk "http://w/" 1).Sends
    ((Call.search "go" 2).parameters.overlay []) (.answer 200 body) := by
  unfold Sends
  cbv

set_option maxRecDepth 2000 in
theorem sends_search_on (body : List UInt8) : (Client.mk "http://w/" 1).Sends
    ((Call.search "go" 2).parameters.overlay [("sroffset", .str "1")]) (.answer 200 body) := by
  unfold Sends
  cbv

/-- A search for two hits that comes to one hit, and then to two more. -/
theorem ask_search_twoAnswers :
    ((Client.mk "http://w/" 1).ask (.search "go" 2)).runIn
        (Wire.ofScript [(searchReply ["Go"] "1").exchange,
          (searchReply ["Gopher", "Golem"] "3").exchange, .timeout]) =
      (.ok (.arr [.str "Go", .str "Gopher"]), ⟨[.timeout],
        #[[("action", "query"), ("format", "json"), ("formatversion", "2"), ("list", "search"),
            ("srsearch", "go"), ("srlimit", "2"), ("srprop", "")],
          [("action", "query"), ("format", "json"), ("formatversion", "2"), ("list", "search"),
            ("srsearch", "go"), ("srlimit", "2"), ("srprop", ""), ("sroffset", "1")]]⟩) := by
  have hfirst := @gets_searchReply ["Go"] "1" (by decide +kernel) "go" 2
  have hsecond := @gets_searchReply ["Gopher", "Golem"] "3" (by decide +kernel) "go" 2
  have hgoes : GoesOn (Client.mk "http://w/" 1) (.search "go" 2)
      ([] ++ [searchReply ["Go"] "1"]) :=
    .further .start hfirst (sends_search _) (by
      rintro (hlast | henough)
      · cases hlast
      · cases henough)
  have hover : (Call.search "go" 2).IsOver [searchReply ["Go"] "1"]
      (searchReply ["Gopher", "Golem"] "3") := .inr rfl
  exact (ask_of_goesOn rfl (by decide) hgoes rfl).1 _ _ rfl hsecond (sends_search_on _) hover

end Client

end WikiGateway
