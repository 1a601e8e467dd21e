import WikiGateway.Proofs.Json.Values
import WikiGateway.Proofs.Ledger.Changes
import WikiGateway.Proofs.Telemetry.Loading

/-! A ledger that is saved to a store in which nothing fails, and loaded from it into another one:
that one becomes the first. -/
namespace WikiGateway.Telemetry

open WikiGateway.Action Json

variable {l r : Ledger Float} {record : Record} {s : Store} {x : Float}

theorem commit_healthy (records : OrderedMap String) (name payload : String) :
    (Store.healthy records).commit name payload =
      .ok (Store.healthy (records.insert name payload)) := by
  have hpass (stage : Store.Stage) : (Store.healthy records).pass stage = .ok () := rfl
  simp only [Store.commit, hpass]
  cases (Store.healthy records).records.contains name <;> rfl

theorem runIn_put (records : OrderedMap String) (name payload : String) :
    (Store.put name payload).runIn (Store.healthy records) =
      (.ok (), Store.healthy (records.insert name payload)) := by
  have hpass (records : OrderedMap String) (stage : Store.Stage) :
      (Store.healthy records).pass stage = .ok () := rfl
  simp only [Store.put, runIn_bind, runIn_get, hpass, runIn_lift, Store.write, commit_healthy,
    runIn_set]

theorem run_bind_eq {σ α β : Type} {act : StateM σ α} {f : α → StateM σ β} {s t : σ} {a : α}
    (h : act.run s = (a, t)) : (act >>= f).run s = (f a).run t := by
  rw [StateT.run_bind, h]
  rfl

/-- Saving puts the text of a part under its name. -/
theorem run_save (l : Ledger Float) (record : Record) (records : OrderedMap String) :
    (save l record).run (Store.healthy records) =
      (true, Store.healthy (records.insert record.name (encode l record).write)) := by
  have hput := runIn_put records record.name (encode l record).write
  rw [runIn] at hput
  rw [save, StateT.run_bind]
  simp only [bind, hput]
  rfl

/-- The records of a store in which parts of a ledger were saved. -/
def savedIn (l : Ledger Float) (parts : List Record) (records : OrderedMap String) :
    OrderedMap String :=
  parts.foldl (fun d record => d.insert record.name (encode l record).write) records

theorem run_saveEach (l : Ledger Float) (parts : List Record) (records : OrderedMap String) :
    (parts.mapM fun record => return (record, ← save l record)).run (Store.healthy records) =
      (parts.map (·, true), Store.healthy (savedIn l parts records)) := by
  induction parts generalizing records with
  | nil => rfl
  | cons record parts ih =>
    have hfirst := run_bind_eq (f := fun saved => pure (record, saved)) (run_save l record records)
    rw [List.mapM_cons, run_bind_eq hfirst, run_bind_eq (ih _)]
    rfl

theorem stored_savedIn (l : Ledger Float) (records : OrderedMap String) (record : Record) :
    Stored (Store.healthy (savedIn l Record.all records)) record (encode l record).write := by
  have hfind : (savedIn l Record.all records).find? record.name = some (encode l record).write := by
    cases record <;> simp [savedIn, Record.all, Record.name, OrderedMap.find?_insert]
  exact congrArg Except.ok hfind

/-- A text is read as what was written, if its numbers are. -/
theorem readable_encodeSeries {series : OrderedMap (List Float)} (room : Nat)
    (h : Ledger.TimesIn (fun x => Readable room (.float x)) series) :
    Readable (room + 1 + 1) (encodeSeries series) := by
  refine readable_obj ?_ ?_
  · intro m hm
    obtain ⟨⟨name, times⟩, hentry, rfl⟩ := List.mem_map.mp hm
    refine readable_arr fun v hv => ?_
    obtain ⟨t, ht, rfl⟩ := List.mem_map.mp hv
    exact h name times (OrderedMap.find?_eq_some_iff.mpr hentry) t ht
  · rw [List.map_map]
    exact series.nodup

theorem readable_encode {room : Nat} (h : l.Holds fun x => Readable room (.float x))
    (hstart : Readable (room + 1) (.float l.start)) (record : Record) :
    Readable (room + 1 + 1) (encode l record) := by
  cases record with
  | terms => exact readable_encodeSeries room h.terms
  | invocations => exact readable_encodeSeries room h.invocations
  | startTime =>
    refine readable_obj ?_ (List.nodup_singleton _)
    rintro m hm
    obtain rfl := List.mem_singleton.mp hm
    exact hstart

theorem decodeTimes_floats (name : String) (times : List Float) :
    decodeTimes name (.arr (times.map .float)) = .ok times := by
  change (times.map Json.float).mapM toNumber = .ok times
  induction times with
  | nil => rfl
  | cons t times ih =>
    rw [List.map_cons, List.mapM_cons, ih]
    rfl

theorem seriesOf_encodeSeries (series : OrderedMap (List Float)) :
    seriesOf (encodeSeries series) = .ok series := by
  have hmembers (entries : List (String × List Float)) :
      (entries.map fun e => (e.1, Json.arr (e.2.map .float))).mapM
        (fun m => (m.1, ·) <$> decodeTimes m.1 m.2) = (.ok entries : Except Fault _) := by
    induction entries with
    | nil => rfl
    | cons e entries ih =>
      rw [List.map_cons, List.mapM_cons, ih, decodeTimes_floats]
      rfl
  have hseries := hmembers series.entries
  rw [encodeSeries, seriesOf]
  refine (congrArg (Except.map OrderedMap.ofList) hseries).trans ?_
  exact congrArg Except.ok (OrderedMap.ofList_entries series)

/-- A ledger with a part of another one in place of its own. -/
def withPart (r l : Ledger Float) : Record → Ledger Float
  | .terms => r.restoreTerms l.terms
  | .invocations => r.restoreInvocations l.invocations
  | .startTime => r.restoreStart l.start

theorem restoreFrom_encode (r l : Ledger Float) (record : Record) :
    restoreFrom r record (encode l record) = .ok (withPart r l record) := by
  cases record with
  | terms => rw [restoreFrom, encode, seriesOf_encodeSeries]; rfl
  | invocations => rw [restoreFrom, encode, seriesOf_encodeSeries]; rfl
  | startTime => rfl

theorem load_encode (hstored : Stored s record (encode l record).write)
    (hread : Json.read (encode l record).write = .ok (encode l record)) (r : Ledger Float) :
    (load s record).runIn r = (.ok true, withPart r l record) := by
  have hpayload : readPayload (encode l record).write = .ok (encode l record) :=
    readPayload_eq_ok.mpr hread
  have hrestored : restore r record (encode l record).write = .ok (withPart r l record) := by
    rw [restore_eq, hpayload]
    exact restoreFrom_encode r l record
  rw [load_of_stored hstored, hrestored]

theorem loadAll_encode (hstored : ∀ record, Stored s record (encode l record).write)
    (hread : ∀ record, Json.read (encode l record).write = .ok (encode l record))
    (r : Ledger Float) : (loadAll s).runIn r =
      (.ok (Record.all.map (·, true)), Record.all.foldl (withPart · l) r) := by
  have hload (record : Record) (r : Ledger Float) :=
    load_encode (hstored record) (hread record) r
  simp only [loadAll, Record.all, List.mapM_cons, List.mapM_nil, runIn_bind, runIn_pure, hload]
  rfl

/-- A ledger with all parts of another one of the same methods is that one. -/
theorem foldl_withPart (hcomplete : l.Complete) (hmethods : r.methods = l.methods) :
    Record.all.foldl (withPart · l) r = l := by
  obtain ⟨start, methods, invocations, terms⟩ := r
  obtain rfl : methods = l.methods := hmethods
  simp only [Record.all, List.foldl_cons, List.foldl_nil, withPart, Ledger.restoreTerms,
    Ledger.restoreInvocations, Ledger.restoreStart, hcomplete.seriesOf_eq]

/-- A ledger, whatever was done to it, is saved to a store in which nothing fails, whatever that
held before, and loaded into one of the same methods, whatever that held before: that one becomes
the first. -/
theorem loadAll_saveAll {start : Float} {methods : List String}
    {changes : List (Ledger.Change Float)} (hstart : start.isFinite = true)
    (hchanges : ∀ change ∈ changes, ∀ t ∈ change.times, t.isFinite = true)
    (records : OrderedMap String) (hmethods : r.methods = methods) :
    let l := (Ledger.opened start methods).changedBy changes
    ∃ s, (saveAll l).run (Store.healthy records) = (Record.all.map (·, true), s) ∧
      (loadAll s).runIn r = (.ok (Record.all.map (·, true)), l) := by
  intro l
  have hnew := Ledger.complete_opened start methods
  obtain ⟨hsame, hcomplete⟩ := hnew.changedBy changes
  have hfinite : (Ledger.opened start methods).Holds fun t => t.isFinite = true :=
    Ledger.holds_opened (P := fun t : Float => t.isFinite = true) hstart methods
  have hnumber (room : Nat) : l.Holds fun t => Readable room (.float t) :=
    (hfinite.changedBy hchanges).imp fun t ht => readsAs_float ht room
  have hencoded (record : Record) : Json.read (encode l record).write = .ok (encode l record) := by
    have hreadable : Readable (978 + 1 + 1) (encode l record) :=
      readable_encode (hnumber 978) (hnumber 979).start record
    exact hreadable.read
  refine ⟨_, run_saveEach l Record.all records, ?_⟩
  rw [loadAll_encode (stored_savedIn l records) hencoded,
    foldl_withPart hcomplete (hmethods.trans hsame.symm)]

/-- A method that there is not is called, parts are replaced, and a term is used again. -/
def busyDay : List (Ledger.Change Float) :=
  [.invocation "search" 1000.5, .invocation "fly" 1001, .term "Zoë \"Z\"" 1000.5, .term "b" 1002.1,
    .invocations (OrderedMap.ofList [("page", [-0.5, 1e22]), ("fly", [3])]),
    .invocation "page" 1004, .term "Zoë \"Z\"" 1e-7, .start 999.75]

theorem loadAll_busyDay :
    let l := (Ledger.opened 1000 ["search", "page"]).changedBy busyDay
    let r := (Ledger.opened 5 ["search", "page"]).changedBy [.term "old" 6, .invocation "search" 7]
    let records := OrderedMap.ofList [("other", "[]"), ("start_time", "no object")]
    (1000 : Float).isFinite = true ∧
    (∀ change ∈ busyDay, ∀ t ∈ change.times, t.isFinite = true) ∧
    r.methods = ["search", "page"] ∧
    ∃ s, (saveAll l).run (Store.healthy records) = (Record.all.map (·, true), s) ∧
      (loadAll s).runIn r = (.ok (Record.all.map (·, true)), l) := by
  intro l r records
  have hstart : (1000 : Float).isFinite = true := by decide +kernel
  have hchanges : ∀ change ∈ busyDay, ∀ t ∈ change.times, t.isFinite = true := by decide +kernel
  exact ⟨hstart, hchanges, rfl, loadAll_saveAll hstart hchanges records rfl⟩

end WikiGateway.Telemetry
