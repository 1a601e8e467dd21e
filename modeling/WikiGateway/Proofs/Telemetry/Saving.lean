import WikiGateway.Proofs.Json.Words
import WikiGateway.Proofs.Telemetry.RoundTrip

/-!
A part of a ledger saved to a store in which any stages may fail. Saving always answers, and the
ledger is not touched. Up to the commit it is all or nothing; where only the closing fails, the part
is stored and the answer says that it is not.
-/
namespace WikiGateway.Store

open WikiGateway.Action

variable {s : Store} {name : String}

/-- The stages that a text goes through until it counts. None of them fails; to add a record is
needed only where there is none of that name. -/
structure Accepts (s : Store) (name : String) : Prop where
  opening : s.fails .opening = false
  querying : s.fails .querying = false
  adding : s.records.contains name = false → s.fails .adding = false
  committing : s.fails .committing = false

/-- A store in which a text was put under a name. -/
def holding (s : Store) (name payload : String) : Store :=
  { s with records := s.records.insert name payload }

theorem pass_eq_ok {stage : Stage} : s.pass stage = .ok () ↔ s.fails stage = false := by
  rw [pass]
  cases s.fails stage <;> simp

theorem pass_of_fails {stage : Stage} (h : s.fails stage = true) :
    s.pass stage = .error stage.fault := by
  rw [pass, h]
  rfl

theorem commit_of_accepts (h : s.Accepts name) (payload : String) :
    s.commit name payload = .ok (s.holding name payload) := by
  rw [commit, pass_eq_ok.mpr h.querying, pass_eq_ok.mpr h.committing]
  cases hnew : s.records.contains name with
  | true => rfl
  | false =>
    rw [pass_eq_ok.mpr (h.adding hnew)]
    rfl

theorem exists_commit_fault (hopening : s.fails .opening = false) (h : ¬ s.Accepts name)
    (payload : String) : ∃ f, s.commit name payload = .error f := by
  cases hquerying : s.fails .querying with
  | true =>
    refine ⟨Stage.fault .querying, ?_⟩
    rw [commit, pass_of_fails hquerying]
    rfl
  | false =>
    by_cases hadding : s.records.contains name = false ∧ s.fails .adding = true
    · refine ⟨Stage.fault .adding, ?_⟩
      rw [commit, pass_eq_ok.mpr hquerying, hadding.1, pass_of_fails hadding.2]
      rfl
    have hadded (hnew : s.records.contains name = false) : s.fails .adding = false :=
      eq_false_of_ne_true fun hfails => hadding ⟨hnew, hfails⟩
    cases hcommitting : s.fails .committing with
    | false => exact absurd ⟨hopening, hquerying, hadded, hcommitting⟩ h
    | true =>
      refine ⟨Stage.fault .committing, ?_⟩
      rw [commit, pass_eq_ok.mpr hquerying, pass_of_fails hcommitting]
      cases hnew : s.records.contains name with
      | true => rfl
      | false =>
        rw [pass_eq_ok.mpr (hadded hnew)]
        rfl

/-- What cannot be committed is not written, whether or not taking it back fails too. -/
theorem exists_write_fault (hopening : s.fails .opening = false) (h : ¬ s.Accepts name)
    (payload : String) : ∃ f, s.write name payload = .error f := by
  obtain ⟨f, hf⟩ := exists_commit_fault hopening h payload
  cases hrolling : s.fails .rollingBack with
  | true =>
    refine ⟨Stage.fault .rollingBack, ?_⟩
    rw [write, hf, pass_of_fails hrolling]
    rfl
  | false =>
    refine ⟨queryFailure (label "upsert" name) f, ?_⟩
    rw [write, hf, pass_eq_ok.mpr hrolling]
    rfl

theorem runIn_put_of_accepts (h : s.Accepts name) (payload : String) :
    (put name payload).runIn s = (s.pass .closing, s.holding name payload) := by
  rw [put]
  simp only [runIn_bind, runIn_get, runIn_lift, pass_eq_ok.mpr h.opening, write,
    commit_of_accepts h payload, runIn_set]
  rfl

/-- A store that does not accept a text is left as it was. -/
theorem runIn_put_of_not_accepts (h : ¬ s.Accepts name) (payload : String) :
    ∃ f, (put name payload).runIn s = (.error f, s) := by
  cases hopening : s.fails .opening with
  | true =>
    refine ⟨Stage.fault .opening, ?_⟩
    rw [put]
    simp only [runIn_bind, runIn_get, runIn_lift, pass_of_fails hopening]
  | false =>
    obtain ⟨f, hf⟩ := exists_write_fault hopening h payload
    rw [put]
    simp only [runIn_bind, runIn_get, runIn_lift, pass_eq_ok.mpr hopening, hf]
    cases hclosing : s.fails .closing with
    | true =>
      rw [pass_of_fails hclosing]
      exact ⟨Stage.fault .closing, rfl⟩
    | false =>
      rw [pass_eq_ok.mpr hclosing]
      exact ⟨f, rfl⟩

end WikiGateway.Store

namespace WikiGateway.Telemetry

variable {l : Ledger Float} {record : Record} {s : Store}

/-- A text that a part of a ledger is decoded from. -/
def IsRecordOf (l : Ledger Float) (payload : String) : Record → Prop
  | .terms => decodeSeries payload = .ok l.terms
  | .invocations => decodeSeries payload = .ok l.invocations
  | .startTime => decodeStart payload = .ok l.start

/-- What is written of a part of a ledger is decoded to it, whichever numbers are in it. -/
theorem isRecordOf_encode (l : Ledger Float) (record : Record) :
    IsRecordOf l (encode l record).write record := by
  have hreads (room : Nat) (t : Float) : Json.Readable room (.float t) :=
    Json.readsAs_number t room
  have hnumber (room : Nat) : l.Holds fun t => Json.Readable room (.float t) :=
    ⟨hreads room _, fun _ _ _ t _ => hreads room t, fun _ _ _ t _ => hreads room t⟩
  have hreadable : Json.Readable (978 + 1 + 1) (encode l record) :=
    readable_encode (hnumber 978) (hnumber 979).start record
  have hpayload : readPayload (encode l record).write = .ok (encode l record) :=
    readPayload_eq_ok.mpr hreadable.read
  cases record with
  | terms =>
    rw [IsRecordOf, decodeSeries_eq, hpayload]
    exact seriesOf_encodeSeries l.terms
  | invocations =>
    rw [IsRecordOf, decodeSeries_eq, hpayload]
    exact seriesOf_encodeSeries l.invocations
  | startTime =>
    rw [IsRecordOf, decodeStart_eq, hpayload]
    rfl

/-- A store holds a part of a ledger under its name. -/
def Holds (s : Store) (l : Ledger Float) (record : Record) : Prop :=
  ∃ payload, s.records.find? record.name = some payload ∧ IsRecordOf l payload record

theorem holds_holding (s : Store) (l : Ledger Float) (record : Record) :
    Holds (s.holding record.name (encode l record).write) l record := by
  refine ⟨(encode l record).write, ?_, isRecordOf_encode l record⟩
  simp [Store.holding, OrderedMap.find?_insert]

theorem run_save_of_accepts (h : s.Accepts record.name) :
    (save l record).run s =
      (!s.fails .closing, s.holding record.name (encode l record).write) := by
  have hput := Store.runIn_put_of_accepts h (encode l record).write
  rw [Action.runIn] at hput
  rw [save, StateT.run_bind]
  simp only [bind, hput]
  cases hclosing : s.fails .closing with
  | true =>
    rw [Store.pass_of_fails hclosing]
    rfl
  | false =>
    rw [Store.pass_eq_ok.mpr hclosing]
    rfl

theorem run_save_of_not_accepts (h : ¬ s.Accepts record.name) :
    (save l record).run s = (false, s) := by
  obtain ⟨f, hput⟩ := Store.runIn_put_of_not_accepts h (encode l record).write
  rw [Action.runIn] at hput
  rw [save, StateT.run_bind]
  simp only [bind, hput]
  rfl

/-- Whichever stages fail, saving a part of a ledger answers, and touches no other record. After a
yes the store holds the part, whatever numbers are in it. After a no the store is as it was, unless
it accepted the text and then did not close: there the part is stored all the same. -/
theorem save_outcomes (l : Ledger Float) (record : Record) (s : Store) :
    let answer := ((save l record).run s).1
    let after := ((save l record).run s).2
    (answer = true ↔ s.Accepts record.name ∧ s.fails .closing = false) ∧
    (answer = true → Holds after l record) ∧
    (answer = false → ¬ s.Accepts record.name → after = s) ∧
    (answer = false → s.Accepts record.name → s.fails .closing = true ∧ Holds after l record) ∧
    (∀ name, name ≠ record.name → after.records.find? name = s.records.find? name) ∧
    after.fails = s.fails := by
  intro answer after
  by_cases h : s.Accepts record.name
  · have hsave : (save l record).run s = (answer, after) := rfl
    rw [run_save_of_accepts h, Prod.mk.injEq] at hsave
    obtain ⟨hanswer, hafter⟩ := hsave
    have hholds : Holds after l record := hafter ▸ holds_holding s l record
    refine ⟨?_, fun _ => hholds, fun _ hnot => absurd h hnot, ?_, ?_, ?_⟩
    · rw [← hanswer]
      simp [h]
    · intro hno _
      rw [← hanswer] at hno
      exact ⟨by simpa using hno, hholds⟩
    · intro name hname
      rw [← hafter]
      simp [Store.holding, OrderedMap.find?_insert, hname]
    · rw [← hafter]
      rfl
  · have hsave : (save l record).run s = (answer, after) := rfl
    rw [run_save_of_not_accepts h, Prod.mk.injEq] at hsave
    obtain ⟨hanswer, hafter⟩ := hsave
    rw [← hanswer, ← hafter]
    exact ⟨by simp [h], by simp, fun _ _ => rfl, fun _ hyes => absurd hyes h, fun _ _ => rfl, rfl⟩

/-- A session that does not close after its commit: the answer is no, and the terms are stored. -/
theorem save_unclosed :
    let l := (Ledger.opened 1000).recordTerm "a" 1000
    let s := Store.failingAt (some .closing) (.healthy .empty)
    ((save l .terms).run s).1 = false ∧
    ((save l .terms).run s).2.records.find? "terms" ≠ s.records.find? "terms" := by
  intro l s
  have haccepts : s.Accepts Record.terms.name := ⟨rfl, rfl, fun _ => rfl, rfl⟩
  rw [run_save_of_accepts haccepts]
  refine ⟨rfl, ?_⟩
  obtain ⟨payload, hpayload, -⟩ := holds_holding s l .terms
  have hname : Record.terms.name = "terms" := rfl
  rw [hname] at hpayload
  rw [hname, hpayload]
  exact Option.some_ne_none payload

end WikiGateway.Telemetry
