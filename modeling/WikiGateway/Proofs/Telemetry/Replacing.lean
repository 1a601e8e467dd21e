import WikiGateway.Proofs.Ledger.History
import WikiGateway.Proofs.Telemetry.Loading

/-! A part of a ledger that is loaded is replaced as a whole, or it stays as it was; the other parts
stay in any case. -/
namespace WikiGateway.Telemetry

open WikiGateway.Action Attempt

variable {s : Store} {record : Record} {l l' r : Ledger Float} {payload : String} {v : Json}
  {x : Float} {times : List Float} {series : OrderedMap (List Float)}

/-- A list of numbers. -/
inductive Numerals : Json → List Float → Prop
  | arr {items : List Json} {times : List Float} :
      List.Forall₂ Numeral items times → Numerals (.arr items) times

/-- The series that a text holds, each a list of numbers under its name. Of those with the same name
the last one counts. -/
inductive HoldsSeries (payload : String) : OrderedMap (List Float) → Prop
  | obj {members : List (String × Json)} {entries : List (String × List Float)} :
      Json.read payload = .ok (.obj members) →
      List.Forall₂ (fun m e => m.1 = e.1 ∧ Numerals m.2 e.2) members entries →
      HoldsSeries payload (.ofList entries)

/-- The start time that a text holds. -/
inductive HoldsStart (payload : String) : Float → Prop
  | member {v time : Json} {x : Float} :
      Json.read payload = .ok v → v.member? Record.startTime.name = some time → Numeral time x →
      HoldsStart payload x

theorem decodeTimes_eq_ok (key : String) : decodeTimes key v = .ok times ↔ Numerals v times := by
  constructor
  · intro h
    cases v with
    | arr items =>
      have hitems : items.mapM toNumber = .ok times := h
      simp only [mapM_eq_ok, toNumber_eq_ok] at hitems
      exact .arr hitems
    | _ => cases h
  · rintro ⟨hitems⟩
    rw [decodeTimes, mapM_eq_ok]
    simpa only [toNumber_eq_ok] using hitems

theorem readMember_eq_ok (m : String × Json) (e : String × List Float) :
    (m.1, ·) <$> decodeTimes m.1 m.2 = .ok e ↔ m.1 = e.1 ∧ Numerals m.2 e.2 := by
  rw [map_eq_ok]
  simp only [decodeTimes_eq_ok]
  constructor
  · rintro ⟨times, htimes, rfl⟩
    exact ⟨rfl, htimes⟩
  · rintro ⟨hname, htimes⟩
    exact ⟨e.2, htimes, Prod.ext hname rfl⟩

theorem decodeSeries_eq_ok : decodeSeries payload = .ok series ↔ HoldsSeries payload series := by
  rw [decodeSeries_eq, bind_eq_ok]
  simp only [readPayload_eq_ok]
  constructor
  · rintro ⟨v, hread, hseries⟩
    cases v with
    | obj members =>
      obtain ⟨entries, hentries, rfl⟩ := map_eq_ok.mp hseries
      simp only [mapM_eq_ok, readMember_eq_ok] at hentries
      exact .obj hread hentries
    | _ => cases hseries
  · rintro ⟨hread, hentries⟩
    refine ⟨_, hread, map_eq_ok.mpr ⟨_, ?_, rfl⟩⟩
    simpa only [mapM_eq_ok, readMember_eq_ok] using hentries

theorem decodeStart_eq_ok : decodeStart payload = .ok x ↔ HoldsStart payload x := by
  rw [decodeStart_eq, bind_eq_ok]
  simp only [readPayload_eq_ok]
  constructor
  · rintro ⟨v, hread, hstart⟩
    cases htime : v.member? Record.startTime.name with
    | none => simp [startOf, htime] at hstart
    | some time =>
      rw [startOf, htime] at hstart
      exact .member hread htime (toNumber_eq_ok.mp hstart)
  · rintro ⟨hread, htime, hnumeral⟩
    refine ⟨_, hread, ?_⟩
    rw [startOf, htime]
    exact toNumber_eq_ok.mpr hnumeral

/-- A ledger has what a text holds as one of its parts: as its terms, as the calls of its methods,
of which those that the text lacks have none, or as its start. -/
inductive HasPart : Record → String → Ledger Float → Prop
  | terms {payload : String} {l : Ledger Float} :
      HoldsSeries payload l.terms → HasPart .terms payload l
  | invocations {payload : String} {l : Ledger Float} {series : OrderedMap (List Float)} :
      HoldsSeries payload series → l.Complete →
      (∀ method ∈ l.methods,
        l.invocations.find? method = some ((series.find? method).getD [])) →
      HasPart .invocations payload l
  | start {payload : String} {l : Ledger Float} :
      HoldsStart payload l.start → HasPart .startTime payload l

/-- Two ledgers have the same part. -/
def SamePart (l r : Ledger Float) : Record → Prop
  | .terms => l.terms = r.terms
  | .invocations => l.invocations = r.invocations
  | .startTime => l.start = r.start

/-- Two ledgers of the same methods differ in one part at most. -/
structure SameBut (record : Record) (l r : Ledger Float) : Prop where
  methods : l.methods = r.methods
  parts : ∀ part, part ≠ record → SamePart l r part

theorem SamePart.symm (h : SamePart l r record) : SamePart r l record := by
  cases record <;> exact Eq.symm h

theorem SamePart.trans (h : SamePart l r record) (h' : SamePart r l' record) :
    SamePart l l' record := by
  cases record <;> exact Eq.trans h h'

theorem samePart_self (l : Ledger Float) (record : Record) : SamePart l l record := by
  cases record <;> rfl

theorem sameBut_self (record : Record) (l : Ledger Float) : SameBut record l l :=
  ⟨rfl, fun part _ => samePart_self l part⟩

theorem HoldsSeries.unique {series' : OrderedMap (List Float)} (h : HoldsSeries payload series)
    (h' : HoldsSeries payload series') : series = series' :=
  Except.ok.inj ((decodeSeries_eq_ok.mpr h).symm.trans (decodeSeries_eq_ok.mpr h'))

theorem HoldsStart.unique {x' : Float} (h : HoldsStart payload x) (h' : HoldsStart payload x') :
    x = x' :=
  Except.ok.inj ((decodeStart_eq_ok.mpr h).symm.trans (decodeStart_eq_ok.mpr h'))

/-- A text and the methods say all of a part. -/
theorem HasPart.unique (h : HasPart record payload l) (h' : HasPart record payload r)
    (hmethods : l.methods = r.methods) : SamePart l r record := by
  cases h with
  | terms hterms =>
    obtain ⟨hterms'⟩ := h'
    exact hterms.unique hterms'
  | start hstart =>
    cases h' with
    | start hstart' => exact hstart.unique hstart'
  | invocations hseries hcomplete hcalls =>
    cases h' with
    | invocations hseries' hcomplete' hcalls' =>
      obtain rfl := hseries.unique hseries'
      have hkeys : l.invocations.keys = r.invocations.keys := by
        rw [hcomplete, hcomplete', hmethods]
      refine OrderedMap.ext_find? hkeys fun method => ?_
      by_cases hmethod : method ∈ l.methods
      · rw [hcalls method hmethod, hcalls' method (hmethods ▸ hmethod)]
      · have hmissing : method ∉ l.invocations.keys := mt hcomplete.mem_keys_iff.mp hmethod
        have hmissing' : method ∉ r.invocations.keys := hkeys ▸ hmissing
        exact (OrderedMap.lookup_eq_none hmissing).trans (OrderedMap.lookup_eq_none hmissing').symm

/-- A text that takes the place of a part leaves nothing of that, and the other parts alone. -/
theorem restore_eq_ok (h : restore l record payload = .ok l') :
    HasPart record payload l' ∧ SameBut record l l' := by
  cases record with
  | terms =>
    obtain ⟨series, hseries, hl⟩ := bind_eq_ok.mp h
    obtain rfl := Except.ok.inj hl
    refine ⟨.terms (decodeSeries_eq_ok.mp hseries), rfl, ?_⟩
    rintro (_ | _ | _) hpart
    · exact absurd rfl hpart
    · rfl
    · rfl
  | invocations =>
    obtain ⟨series, hseries, hl⟩ := bind_eq_ok.mp h
    obtain rfl := Except.ok.inj hl
    refine ⟨.invocations (decodeSeries_eq_ok.mp hseries) (Ledger.keys_seriesOf _ _) ?_, rfl, ?_⟩
    · intro method hmethod
      exact (Ledger.find?_seriesOf l.methods series method).trans (if_pos hmethod)
    · rintro (_ | _ | _) hpart
      · rfl
      · exact absurd rfl hpart
      · rfl
  | startTime =>
    obtain ⟨start, hstart, hl⟩ := bind_eq_ok.mp h
    obtain rfl := Except.ok.inj hl
    refine ⟨.start (decodeStart_eq_ok.mp hstart), rfl, ?_⟩
    rintro (_ | _ | _) hpart
    · rfl
    · rfl
    · exact absurd rfl hpart

/-- A record that is loaded is stored, and becomes its part of the ledger. -/
theorem load_succeeds (h : ((load s record).runIn l).1 = .ok true) :
    SameBut record l ((load s record).runIn l).2 ∧
      ∃ payload, Stored s record payload ∧ HasPart record payload ((load s record).runIn l).2 := by
  obtain ⟨payload, hstored, -⟩ := load_eq_true.mp h
  rw [load_of_stored hstored] at h ⊢
  cases hrestore : restore l record payload with
  | ok l' =>
    obtain ⟨hpart, hsame⟩ := restore_eq_ok hrestore
    exact ⟨hsame, payload, hstored, hpart⟩
  | error f =>
    rw [hrestore] at h
    cases hf : isCorruption f <;> simp [hf] at h

theorem load_fails (h : ((load s record).runIn l).1 ≠ .ok true) :
    ((load s record).runIn l).2 = l := by
  by_cases hstored : ∃ payload, Stored s record payload
  · obtain ⟨payload, hstored⟩ := hstored
    rw [load_of_stored hstored] at h ⊢
    cases hrestore : restore l record payload with
    | ok l' =>
      rw [hrestore] at h
      exact absurd rfl h
    | error f => rfl
  · rw [load_of_not_stored (not_exists.mp hstored)]

theorem load_stops {f : Fault} (h : ((load s record).runIn l).1 = .error f) :
    ((load s record).runIn l).2 = l := by
  refine load_fails fun htrue => ?_
  rw [h] at htrue
  cases htrue

theorem sameBut_load (s : Store) (record : Record) (l : Ledger Float) :
    SameBut record l ((load s record).runIn l).2 := by
  by_cases h : ((load s record).runIn l).1 = .ok true
  · exact (load_succeeds h).1
  · rw [load_fails h]
    exact sameBut_self record l

/-- Loading does the same to a part that is the same. -/
theorem SamePart.load (h : SamePart l r record) (hmethods : l.methods = r.methods) (s : Store) :
    SamePart ((load s record).runIn l).2 ((load s record).runIn r).2 record := by
  have hanswer : ((Telemetry.load s record).runIn l).1 = ((Telemetry.load s record).runIn r).1 :=
    load_answer_eq l r
  by_cases hl : ((Telemetry.load s record).runIn l).1 = .ok true
  · obtain ⟨hsame, payload, hstored, hpart⟩ := load_succeeds hl
    obtain ⟨hsame', payload', hstored', hpart'⟩ := load_succeeds (hanswer.symm.trans hl)
    obtain rfl : payload = payload' :=
      Option.some.inj (Except.ok.inj (hstored.symm.trans hstored'))
    exact hpart.unique hpart' (by rw [← hsame.methods, ← hsame'.methods, hmethods])
  · rwa [load_fails hl, load_fails fun hr => hl (hanswer.trans hr)]

variable {records before after : List Record}

/-- Loads records one after the other; tells of each whether that succeeded. -/
def loadEach (s : Store) (records : List Record) : Action (Ledger Float) (List (Record × Bool)) :=
  records.mapM fun record => return (record, ← load s record)

theorem loadEach_cons (s : Store) (record : Record) (records : List Record) :
    loadEach s (record :: records) = do
      let answer ← (do return (record, ← load s record))
      let answers ← loadEach s records
      return answer :: answers :=
  List.mapM_cons

theorem loadEach_cons_ok {b : Bool} (h : ((load s record).runIn l).1 = .ok b) :
    ((loadEach s (record :: records)).runIn l).2 =
      ((loadEach s records).runIn ((load s record).runIn l).2).2 := by
  rcases hload : (load s record).runIn l with ⟨answer, l'⟩
  rw [hload] at h
  obtain rfl : answer = .ok b := h
  rw [loadEach_cons]
  simp only [runIn_bind, hload, runIn_pure]
  rcases (loadEach s records).runIn l' with ⟨_ | _, _⟩ <;> rfl

/-- What stops the loading of a record changes nothing, and nothing is loaded after it. -/
theorem loadEach_cons_error {f : Fault} (h : ((load s record).runIn l).1 = .error f) :
    ((loadEach s (record :: records)).runIn l).2 = l := by
  have hkept := load_stops h
  rcases hload : (load s record).runIn l with ⟨answer, l'⟩
  rw [hload] at h hkept
  obtain rfl : answer = .error f := h
  obtain rfl : l' = l := hkept
  rw [loadEach_cons]
  simp only [runIn_bind, hload]

/-- Parts that are not loaded stay. -/
theorem loadEach_elsewhere (s : Store) (records : List Record) (l : Ledger Float) :
    ((loadEach s records).runIn l).2.methods = l.methods ∧
      ∀ part ∉ records, SamePart ((loadEach s records).runIn l).2 l part := by
  induction records generalizing l with
  | nil => exact ⟨rfl, fun part _ => samePart_self l part⟩
  | cons record records ih =>
    cases hload : ((load s record).runIn l).1 with
    | error f =>
      rw [loadEach_cons_error hload]
      exact ⟨rfl, fun part _ => samePart_self l part⟩
    | ok b =>
      have hsame := sameBut_load s record l
      obtain ⟨hmethods, hparts⟩ := ih ((load s record).runIn l).2
      rw [loadEach_cons_ok hload]
      refine ⟨hmethods.trans hsame.methods.symm, fun part hpart => ?_⟩
      obtain ⟨hne, hrest⟩ : part ≠ record ∧ part ∉ records := by
        simpa only [List.mem_cons, not_or] using hpart
      exact (hparts part hrest).trans (hsame.parts part hne).symm

/-- A record that is come to is loaded as it is alone. -/
theorem loadEach_reached (hnodup : (before ++ record :: after).Nodup)
    (hbefore : ∀ r ∈ before, ∃ b, ((load s r).runIn l).1 = .ok b) :
    SamePart ((loadEach s (before ++ record :: after)).runIn l).2 ((load s record).runIn l).2
      record := by
  induction before generalizing l with
  | nil =>
    rw [List.nil_append]
    cases hload : ((load s record).runIn l).1 with
    | error f =>
      rw [loadEach_cons_error hload, load_stops hload]
      exact samePart_self l record
    | ok b =>
      rw [loadEach_cons_ok hload]
      exact (loadEach_elsewhere s after _).2 record (List.nodup_cons.mp hnodup).1
  | cons r before ih =>
    obtain ⟨hnew, hrest⟩ := List.nodup_cons.mp hnodup
    obtain ⟨⟨b, hload⟩, hothers⟩ := List.forall_mem_cons.mp hbefore
    have hne : record ≠ r := by
      rintro rfl
      exact hnew (by simp)
    have hsame := sameBut_load s r l
    have hnext := ih (l := ((load s r).runIn l).2) hrest fun r' hr' => by
      rw [← load_answer_eq l]
      exact hothers r' hr'
    rw [List.cons_append, loadEach_cons_ok hload]
    exact hnext.trans ((hsame.parts record hne).symm.load hsame.methods.symm s)

/-- A record after one that stops the loading stays as it was. -/
theorem loadEach_stopped (hnodup : (before ++ record :: after).Nodup)
    (hbefore : ∃ r ∈ before, ∃ f, ((load s r).runIn l).1 = .error f) :
    SamePart ((loadEach s (before ++ record :: after)).runIn l).2 l record := by
  induction before generalizing l with
  | nil =>
    obtain ⟨r, hr, -⟩ := hbefore
    cases hr
  | cons r before ih =>
    obtain ⟨hnew, hrest⟩ := List.nodup_cons.mp hnodup
    rw [List.cons_append]
    cases hload : ((load s r).runIn l).1 with
    | error f =>
      rw [loadEach_cons_error hload]
      exact samePart_self l record
    | ok b =>
      obtain ⟨r', hr', f, hf⟩ := hbefore
      have hlater : r' ∈ before := by
        rcases List.mem_cons.mp hr' with rfl | hlater
        · exact absurd (hload.symm.trans hf) (by rintro ⟨⟩)
        · exact hlater
      have hne : record ≠ r := by
        rintro rfl
        exact hnew (by simp)
      have hnext := ih (l := ((load s r).runIn l).2) hrest
        ⟨r', hlater, f, (load_answer_eq _ l).trans hf⟩
      rw [loadEach_cons_ok hload]
      exact hnext.trans ((sameBut_load s r l).parts record hne).symm

/-- Loading a record changes no other part. If it succeeds, the part is what the text holds, and
else it is as it was. Where all of them are loaded, a part comes out as if it were loaded alone,
unless an earlier record stops the loading: then the part is as it was. -/
theorem load_replaces (s : Store) (l : Ledger Float) :
    (∀ record,
      let answer := ((load s record).runIn l).1
      let l' := ((load s record).runIn l).2
      SameBut record l l' ∧
      (answer = .ok true → ∃ payload, Stored s record payload ∧ HasPart record payload l') ∧
      (answer ≠ .ok true → l' = l)) ∧
    ∀ before record after, Record.all = before ++ record :: after →
      let l' := ((loadAll s).runIn l).2
      l'.methods = l.methods ∧
      ((∀ r ∈ before, ∃ b, ((load s r).runIn l).1 = .ok b) →
        SamePart l' ((load s record).runIn l).2 record) ∧
      ((∃ r ∈ before, ∃ f, ((load s r).runIn l).1 = .error f) → SamePart l' l record) := by
  refine ⟨fun record => ⟨sameBut_load s record l, fun htrue => (load_succeeds htrue).2, load_fails⟩,
    ?_⟩
  intro before record after hall l'
  have hnodup : (before ++ record :: after).Nodup := by
    rw [← hall]
    decide
  have hl' : l' = ((loadEach s (before ++ record :: after)).runIn l).2 := by
    rw [← hall]
    rfl
  rw [hl']
  exact ⟨(loadEach_elsewhere s _ l).1, loadEach_reached hnodup, loadEach_stopped hnodup⟩

end WikiGateway.Telemetry
