import WikiGateway.Proofs.Action
import WikiGateway.Proofs.Telemetry.Decoding

/-! When loading a part of a ledger tells whether it succeeded, and when a stored text stops it. -/
namespace WikiGateway.Telemetry

open WikiGateway.Action Attempt

variable {s : Store} {record : Record} {l l' : Ledger Float} {f : Fault} {payload : String}

/-- The text of a record that a store gives out. -/
def Stored (s : Store) (record : Record) (payload : String) : Prop :=
  s.payload? record.name = .ok (some payload)

theorem load_of_not_stored (h : ∀ payload, ¬ Stored s record payload) :
    (load s record).runIn l = (.ok false, l) := by
  rw [load]
  cases hpayload : s.payload? record.name with
  | error e => rfl
  | ok p =>
    cases p with
    | none => rfl
    | some payload => exact (h payload hpayload).elim

theorem load_of_stored (h : Stored s record payload) :
    (load s record).runIn l =
      match restore l record payload with
      | .ok l' => (.ok true, l')
      | .error f => (if isCorruption f then .ok false else .error f, l) := by
  rw [load, h]
  simp only [runIn_bind, runIn_get]
  cases restore l record payload with
  | ok l' => rfl
  | error f => cases hf : isCorruption f <;> simp [hf]

/-- The text can be turned into what it is a record of. -/
def Decodes (record : Record) (payload : String) : Prop :=
  ∃ v, Json.read payload = .ok v ∧ IsDecodable record v

theorem exists_stored_iff {P : String → Prop} (h : Stored s record payload) :
    (∃ payload, Stored s record payload ∧ P payload) ↔ P payload := by
  constructor
  · rintro ⟨payload', h', hp⟩
    have hsame : (.ok (some payload) : Except Fault (Option String)) = .ok (some payload') :=
      h.symm.trans h'
    obtain rfl : payload = payload' := by simpa using hsame
    exact hp
  · exact fun hp => ⟨payload, h, hp⟩

theorem load_eq_true : ((load s record).runIn l).1 = .ok true ↔
    ∃ payload, Stored s record payload ∧ Decodes record payload := by
  by_cases h : ∃ payload, Stored s record payload
  · obtain ⟨payload, h⟩ := h
    rw [exists_stored_iff h, load_of_stored h, Decodes, ← exists_restore_eq_ok (l := l)]
    cases restore l record payload with
    | ok l' => simp
    | error f => cases hf : isCorruption f <;> simp [hf]
  · rw [load_of_not_stored (not_exists.mp h)]
    simp_all

theorem load_eq_error : ((load s record).runIn l).1 = .error f ↔
    ∃ payload, Stored s record payload ∧ Uncaught record payload f := by
  by_cases h : ∃ payload, Stored s record payload
  · obtain ⟨payload, h⟩ := h
    rw [exists_stored_iff h, load_of_stored h, ← escapes_restore (l := l)]
    cases restore l record payload with
    | ok l' => simp
    | error e =>
      cases he : isCorruption e with
      | true =>
        have hne : ¬ (e = f ∧ isCorruption f = false) := fun h => by simp [← h.1, he] at h
        simp [he, hne]
      | false =>
        have hsame : e = f ↔ e = f ∧ isCorruption f = false :=
          ⟨fun h => ⟨h, h ▸ he⟩, fun h => h.1⟩
        simpa [he] using hsame
  · rw [load_of_not_stored (not_exists.mp h)]
    simp_all

theorem load_eq_false : ((load s record).runIn l).1 = .ok false ↔
    ∀ payload, Stored s record payload →
      ¬ Decodes record payload ∧ ∀ f, ¬ Uncaught record payload f := by
  constructor
  · intro h payload hstored
    refine ⟨fun hdecodes => ?_, fun f huncaught => ?_⟩
    · rw [load_eq_true.mpr ⟨payload, hstored, hdecodes⟩] at h
      cases h
    · rw [load_eq_error.mpr ⟨payload, hstored, huncaught⟩] at h
      cases h
  · intro h
    cases hr : ((load s record).runIn l).1 with
    | error f =>
      obtain ⟨payload, hstored, huncaught⟩ := load_eq_error.mp hr
      exact ((h payload hstored).2 f huncaught).elim
    | ok b =>
      cases b with
      | false => rfl
      | true =>
        obtain ⟨payload, hstored, hdecodes⟩ := load_eq_true.mp hr
        exact ((h payload hstored).1 hdecodes).elim

/-- The answer is the same whatever the ledger holds. -/
theorem load_answer_eq (l l' : Ledger Float) :
    ((load s record).runIn l).1 = ((load s record).runIn l').1 := by
  cases h : ((load s record).runIn l').1 with
  | error f => exact load_eq_error.mpr (load_eq_error.mp h)
  | ok b =>
    cases b with
    | true => exact load_eq_true.mpr (load_eq_true.mp h)
    | false => exact load_eq_false.mpr (load_eq_false.mp h)

theorem loadAll_answer_eq : ((loadAll s).runIn l).1 =
    Record.all.mapM fun record => (record, ·) <$> ((load s record).runIn l).1 := by
  rw [loadAll, runIn_mapM]
  · simp only [bind_pure_comp, runIn_map]
    rfl
  · intro record w w'
    simp [load_answer_eq w w']

theorem loadAll_eq_error : ((loadAll s).runIn l).1 = .error f ↔
    ∃ before record after, Record.all = before ++ record :: after ∧
      (∀ r ∈ before, ∃ b, ((load s r).runIn l).1 = .ok b) ∧
      ((load s record).runIn l).1 = .error f := by
  rw [loadAll_answer_eq, mapM_eq_error]
  simp only [exists_map_eq_ok, map_eq_error]

/-- Loading a record succeeds exactly if its text can be decoded, and stops with a fault exactly if
its text is nested too deeply or has too large a number in it; otherwise it tells that it did not
succeed. Loading all of them tells of each what loading it alone does, unless that stops: then the
first fault is all there is. -/
theorem load_outcomes (s : Store) (l : Ledger Float) :
    (∀ record, ((load s record).runIn l).1 = .ok true ↔
      ∃ payload, Stored s record payload ∧ Decodes record payload) ∧
    (∀ record f, ((load s record).runIn l).1 = .error f ↔
      ∃ payload, Stored s record payload ∧ Uncaught record payload f) ∧
    (∀ record, ((load s record).runIn l).1 = .ok false ↔
      ∀ payload, Stored s record payload →
        ¬ Decodes record payload ∧ ∀ f, ¬ Uncaught record payload f) ∧
    (∀ answers, ((loadAll s).runIn l).1 = .ok answers ↔
      answers.map Prod.fst = Record.all ∧ ∀ a ∈ answers, ((load s a.1).runIn l).1 = .ok a.2) ∧
    (∀ f, ((loadAll s).runIn l).1 = .error f ↔
      ∃ before record after, Record.all = before ++ record :: after ∧
        (∀ r ∈ before, ∃ b, ((load s r).runIn l).1 = .ok b) ∧
        ((load s record).runIn l).1 = .error f) := by
  refine ⟨fun _ => load_eq_true, fun _ _ => load_eq_error, fun _ => load_eq_false, ?_, ?_⟩
  · intro answers
    rw [loadAll_answer_eq, mapM_pair_eq_ok]
  · intro f
    exact loadAll_eq_error

/-- The number in a value that has one member, a list with one number. -/
def onlyItem? : Except Json.ReadError Json → Option Int
  | .ok (.obj [("a", .arr [.int n])]) => some n
  | _ => none

theorem onlyItem?_eq_some {r : Except Json.ReadError Json} {n : Int} (h : onlyItem? r = some n) :
    r = .ok (.obj [("a", .arr [.int n])]) := by
  unfold onlyItem? at h
  split at h <;> simp_all

/-- A series of one time, a one with five hundred zeros. -/
def beyondSeries : List Char :=
  "\x7b\"a\": [1".toList ++ List.replicate 500 '0' ++ "]\x7d".toList

theorem onlyItem?_beyondSeries :
    onlyItem? (Json.read (String.ofList beyondSeries)) = some (Nat.pow 10 500) := by
  rw [Json.read, String.toList_ofList]
  decide +kernel

def beyondStore : Store := .healthy (.ofList [(Record.terms.name, String.ofList beyondSeries)])

theorem load_beyondStore :
    ((load beyondStore .terms).runIn (.opened 0)).1 = .error .tooLarge ∧
    ((loadAll beyondStore).runIn (.opened 0)).1 = .error .tooLarge := by
  have hread := onlyItem?_eq_some onlyItem?_beyondSeries
  have hover : Overflows .terms (.obj [("a", .arr [.int (Nat.pow 10 500)])]) :=
    @Overflows.series .terms [] [] "a" [] [] _ (by decide) (by simp) (by simp)
      (isBeyond_of_log2 (by decide +kernel))
  have hload : ((load beyondStore .terms).runIn (.opened 0)).1 = .error .tooLarge :=
    load_eq_error.mpr ⟨_, rfl, .tooLarge hread hover⟩
  exact ⟨hload, loadAll_eq_error.mpr ⟨[], .terms, [.invocations, .startTime], rfl, by simp, hload⟩⟩

end WikiGateway.Telemetry
