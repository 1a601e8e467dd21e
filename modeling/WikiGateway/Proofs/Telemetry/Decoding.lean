import WikiGateway.Proofs.Attempt
import WikiGateway.Telemetry.Saving

/-! Which stored texts can be turned into a part of a ledger, and which stop the attempt for another
reason than that they are corrupt. -/
namespace WikiGateway.Telemetry

open Attempt

variable {α β : Type} {g : α → Except Fault β} {as : List α} {r : Except Fault α} {f : Fault}
  {v : Json} {key payload : String} {record : Record}

/-- An attempt fails, and not for a corrupt text. -/
def Escapes (r : Except Fault α) (f : Fault) : Prop := r = .error f ∧ isCorruption f = false

@[simp]
theorem not_escapes_ok {a : α} : ¬ Escapes (.ok a) f := by simp [Escapes]

@[simp]
theorem escapes_error {e : Fault} :
    Escapes (.error e : Except Fault α) f ↔ e = f ∧ isCorruption f = false := by simp [Escapes]

theorem escapes_bind {h : α → Except Fault β} :
    Escapes (r >>= h) f ↔ Escapes r f ∨ ∃ a, r = .ok a ∧ Escapes (h a) f := by
  cases r <;> simp [bind, Except.bind]

theorem escapes_map (h : α → β) : Escapes (h <$> r) f ↔ Escapes r f := by
  cases r <;> simp [Functor.map, Except.map]

theorem escapes_mapM : Escapes (as.mapM g) f ↔ ∃ before a after, as = before ++ a :: after ∧
    (∀ b ∈ before, ∃ c, g b = .ok c) ∧ Escapes (g a) f := by
  rw [Escapes, mapM_eq_error]
  constructor
  · rintro ⟨⟨before, a, after, happend, hbefore, ha⟩, hf⟩
    exact ⟨before, a, after, happend, hbefore, ha, hf⟩
  · rintro ⟨before, a, after, happend, hbefore, ha, hf⟩
    exact ⟨⟨before, a, after, happend, hbefore, ha⟩, hf⟩

/-- The number that a value stands for. -/
inductive Numeral : Json → Float → Prop
  | float (x : Float) : Numeral (.float x) x
  | int {n : Int} {x : Float} : Decimal.ofInt? n = some x → Numeral (.int n) x
  | no : Numeral (.bool false) 0
  | yes : Numeral (.bool true) 1
  | str {s : String} {x : Float} : Decimal.float? s = some x → Numeral (.str s) x

/-- Numbers, truth values and texts that hold a number. -/
inductive IsNumeric : Json → Prop
  | float (x : Float) : IsNumeric (.float x)
  | int {n : Int} {x : Float} : Decimal.ofInt? n = some x → IsNumeric (.int n)
  | bool (b : Bool) : IsNumeric (.bool b)
  | str {s : String} {x : Float} : Decimal.float? s = some x → IsNumeric (.str s)

/-- A whole number beyond all floating-point numbers. -/
inductive IsBeyond : Json → Prop
  | int {n : Int} : Decimal.ofInt? n = none → IsBeyond (.int n)

theorem isInf_infinity : ((1.0 : Float) / 0.0).isInf = true := by decide +kernel

theorem isBeyond_of_log2 {n : Int} (h : 1400 ≤ n.natAbs.log2) : IsBeyond (.int n) := by
  have hpos : n.natAbs ≠ 0 := by
    intro hzero
    rw [hzero] at h
    exact absurd h (by decide)
  have hlarge : (400 : Int) < (n.natAbs.log2 : Int) * 30103 / 100000 + 0 := by omega
  refine .int ?_
  rw [Decimal.ofInt?, Decimal.toFloat, if_neg hpos]
  simp only [if_pos hlarge, isInf_infinity, if_true]

/-- A list of what can be read as numbers. -/
def IsSeries (v : Json) : Prop := ∃ items, v = .arr items ∧ ∀ item ∈ items, IsNumeric item

/-- A value that can be turned into a part of a ledger. -/
inductive IsDecodable : Record → Json → Prop
  | series {record : Record} {members : List (String × Json)} :
      record ≠ .startTime → (∀ m ∈ members, IsSeries m.2) → IsDecodable record (.obj members)
  | start {v time : Json} :
      v.member? Record.startTime.name = some time → IsNumeric time → IsDecodable .startTime v

/-- A value with a whole number beyond all floating-point numbers where a number is due, and nothing
before it that cannot be decoded. -/
inductive Overflows : Record → Json → Prop
  | series {record : Record} {before after : List (String × Json)} {key : String}
      {read rest : List Json} {item : Json} :
      record ≠ .startTime → (∀ m ∈ before, IsSeries m.2) → (∀ i ∈ read, IsNumeric i) →
      IsBeyond item →
      Overflows record (.obj (before ++ (key, .arr (read ++ item :: rest)) :: after))
  | start {v time : Json} :
      v.member? Record.startTime.name = some time → IsBeyond time → Overflows .startTime v

/-- A text that stops the loading of a record: it is nested too deeply, or a number in it is too
large. -/
inductive Uncaught : Record → String → Fault → Prop
  | tooDeep {record : Record} {payload : String} :
      Json.read payload = .error .tooDeep → Uncaught record payload .tooDeep
  | tooLarge {record : Record} {payload : String} {v : Json} :
      Json.read payload = .ok v → Overflows record v → Uncaught record payload .tooLarge

theorem toNumber_eq_ok {x : Float} : toNumber v = .ok x ↔ Numeral v x := by
  constructor
  · intro h
    cases v with
    | float y =>
      obtain rfl : y = x := Except.ok.inj h
      exact .float y
    | int n =>
      cases hn : Decimal.ofInt? n with
      | some y =>
        obtain rfl : y = x := by simpa [toNumber, hn] using h
        exact .int hn
      | none => simp [toNumber, hn] at h
    | bool b =>
      obtain rfl : (if b then 1 else 0) = x := Except.ok.inj h
      cases b with
      | false => exact .no
      | true => exact .yes
    | str s =>
      cases hs : Decimal.float? s with
      | some y =>
        obtain rfl : y = x := by simpa [toNumber, hs] using h
        exact .str hs
      | none => simp [toNumber, hs] at h
    | _ => cases h
  · rintro (_ | hn | _ | _ | hs)
    · rfl
    · rw [toNumber, hn]
    · rfl
    · rfl
    · rw [toNumber, hs]

theorem exists_toNumber_eq_ok : (∃ x, toNumber v = .ok x) ↔ IsNumeric v := by
  simp only [toNumber_eq_ok]
  constructor
  · rintro ⟨x, _ | hn | _ | _ | hs⟩
    · exact .float x
    · exact .int hn
    · exact .bool false
    · exact .bool true
    · exact .str hs
  · rintro (x | hn | b | hs)
    · exact ⟨x, .float x⟩
    · exact ⟨_, .int hn⟩
    · cases b with
      | false => exact ⟨0, .no⟩
      | true => exact ⟨1, .yes⟩
    · exact ⟨_, .str hs⟩

theorem escapes_toNumber : Escapes (toNumber v) f ↔ IsBeyond v ∧ f = .tooLarge := by
  constructor
  · rintro ⟨hr, hf⟩
    cases v with
    | int n =>
      cases hn : Decimal.ofInt? n with
      | some y => simp [toNumber, hn] at hr
      | none =>
        obtain rfl : Fault.tooLarge = f := by simpa [toNumber, hn] using hr
        exact ⟨.int hn, rfl⟩
    | str s =>
      cases hs : Decimal.float? s with
      | some y => simp [toNumber, hs] at hr
      | none =>
        obtain rfl := by simpa [toNumber, hs] using hr
        cases hf
    | float y => cases hr
    | bool b => cases hr
    | null | arr items | obj members =>
      obtain rfl : Fault.wrongShape = f := by simpa [toNumber] using hr
      cases hf
  · rintro ⟨⟨hn⟩, rfl⟩
    simp [toNumber, hn, isCorruption]

theorem exists_decodeTimes_eq_ok : (∃ times, decodeTimes key v = .ok times) ↔ IsSeries v := by
  cases v <;> simp [decodeTimes, IsSeries, exists_mapM_eq_ok, exists_toNumber_eq_ok]

theorem escapes_decodeTimes : Escapes (decodeTimes key v) f ↔
    (∃ read item rest, v = .arr (read ++ item :: rest) ∧ (∀ i ∈ read, IsNumeric i) ∧
      IsBeyond item) ∧ f = .tooLarge := by
  cases v with
  | arr items =>
    simp only [decodeTimes, escapes_mapM, exists_toNumber_eq_ok, escapes_toNumber]
    constructor
    · rintro ⟨read, item, rest, rfl, hread, hitem, hf⟩
      exact ⟨⟨read, item, rest, rfl, hread, hitem⟩, hf⟩
    · rintro ⟨⟨read, item, rest, happend, hread, hitem⟩, hf⟩
      exact ⟨read, item, rest, Json.arr.inj happend, hread, hitem, hf⟩
  | _ =>
    simp only [decodeTimes, escapes_error, reduceCtorEq, false_and, exists_false, iff_false]
    rintro ⟨rfl, hf⟩
    cases hf

/-- Series of times from a stored value. -/
def seriesOf : Json → Except Fault (OrderedMap (List Float))
  | .obj members =>
    OrderedMap.ofList <$> members.mapM fun m => (m.1, ·) <$> decodeTimes m.1 m.2
  | _ => .error (.badValue "payload must be an object")

/-- A start time from a stored value. -/
def startOf (v : Json) : Except Fault Float :=
  match v.member? Record.startTime.name with
  | some time => toNumber time
  | none => .error (.badValue "payload must contain start_time")

/-- A ledger with a stored value in place of one of its parts. -/
def restoreFrom (l : Ledger Float) (record : Record) (v : Json) : Except Fault (Ledger Float) :=
  match record with
  | .terms => l.restoreTerms <$> seriesOf v
  | .invocations => l.restoreInvocations <$> seriesOf v
  | .startTime => l.restoreStart <$> startOf v

theorem decodeSeries_eq (payload : String) :
    decodeSeries payload = readPayload payload >>= seriesOf := by
  rw [decodeSeries]
  refine bind_congr fun v => ?_
  cases v with
  | obj members => simp [seriesOf]
  | _ => rfl

theorem decodeStart_eq (payload : String) :
    decodeStart payload = readPayload payload >>= startOf := rfl

theorem restore_eq (l : Ledger Float) (record : Record) (payload : String) :
    restore l record payload = readPayload payload >>= restoreFrom l record := by
  cases record <;>
    simp only [restore, decodeSeries_eq, decodeStart_eq, bind_pure_comp, map_bind] <;> rfl

theorem readPayload_eq_ok : readPayload payload = .ok v ↔ Json.read payload = .ok v := by
  rw [readPayload]
  split <;> simp_all

theorem escapes_readPayload :
    Escapes (readPayload payload) f ↔ Json.read payload = .error .tooDeep ∧ f = .tooDeep := by
  rw [readPayload]
  split
  · simp_all
  · rename_i hdeep
    simp only [escapes_error, hdeep, true_and]
    exact ⟨fun h => h.1.symm, fun h => ⟨h.symm, h ▸ rfl⟩⟩
  · rename_i e hother he
    simp only [escapes_error, he, Except.error.injEq]
    constructor
    · rintro ⟨rfl, hf⟩
      cases hf
    · rintro ⟨rfl, -⟩
      exact (hother rfl).elim

theorem exists_seriesOf_eq_ok (hrecord : record ≠ .startTime) :
    (∃ series, seriesOf v = .ok series) ↔ IsDecodable record v := by
  constructor
  · rintro hseries
    cases v with
    | obj members =>
      simp only [seriesOf, exists_map_eq_ok, exists_mapM_eq_ok, exists_decodeTimes_eq_ok] at hseries
      exact .series hrecord hseries
    | _ => simp [seriesOf] at hseries
  · rintro (⟨-, hmembers⟩ | _)
    · simpa only [seriesOf, exists_map_eq_ok, exists_mapM_eq_ok, exists_decodeTimes_eq_ok]
    · exact (hrecord rfl).elim

theorem escapes_seriesOf (hrecord : record ≠ .startTime) :
    Escapes (seriesOf v) f ↔ Overflows record v ∧ f = .tooLarge := by
  constructor
  · intro hseries
    cases v with
    | obj members =>
      simp only [seriesOf, escapes_map, escapes_mapM, exists_map_eq_ok, exists_decodeTimes_eq_ok,
        escapes_decodeTimes] at hseries
      obtain ⟨before, ⟨key, v⟩, after, rfl, hbefore, ⟨read, item, rest, rfl, hread, hitem⟩, rfl⟩ :=
        hseries
      exact ⟨.series hrecord hbefore hread hitem, rfl⟩
    | _ =>
      obtain ⟨rfl, hf⟩ := escapes_error.mp hseries
      cases hf
  · rintro ⟨⟨-, hbefore, hread, hitem⟩ | _, rfl⟩
    · simp only [seriesOf, escapes_map, escapes_mapM, exists_map_eq_ok, exists_decodeTimes_eq_ok,
        escapes_decodeTimes]
      exact ⟨_, _, _, rfl, hbefore, ⟨_, _, _, rfl, hread, hitem⟩, trivial⟩
    · exact (hrecord rfl).elim

theorem exists_startOf_eq_ok :
    (∃ start, startOf v = .ok start) ↔ IsDecodable .startTime v := by
  constructor
  · intro hstart
    cases htime : v.member? Record.startTime.name with
    | none => simp [startOf, htime] at hstart
    | some time =>
      rw [startOf, htime] at hstart
      exact .start htime (exists_toNumber_eq_ok.mp hstart)
  · rintro (⟨hrecord, -⟩ | ⟨htime, hnumeric⟩)
    · exact (hrecord rfl).elim
    · rw [startOf, htime]
      exact exists_toNumber_eq_ok.mpr hnumeric

theorem escapes_startOf : Escapes (startOf v) f ↔ Overflows .startTime v ∧ f = .tooLarge := by
  constructor
  · intro hstart
    cases htime : v.member? Record.startTime.name with
    | none =>
      rw [startOf, htime] at hstart
      obtain ⟨rfl, hf⟩ := escapes_error.mp hstart
      cases hf
    | some time =>
      rw [startOf, htime] at hstart
      obtain ⟨hbeyond, rfl⟩ := escapes_toNumber.mp hstart
      exact ⟨.start htime hbeyond, rfl⟩
  · rintro ⟨⟨hrecord, -⟩ | ⟨htime, hbeyond⟩, rfl⟩
    · exact (hrecord rfl).elim
    · rw [startOf, htime]
      exact escapes_toNumber.mpr ⟨hbeyond, rfl⟩

theorem exists_restore_eq_ok {l : Ledger Float} : (∃ l', restore l record payload = .ok l') ↔
    ∃ v, Json.read payload = .ok v ∧ IsDecodable record v := by
  rw [restore_eq, exists_bind_eq_ok]
  simp only [readPayload_eq_ok]
  refine exists_congr fun v => and_congr_right fun _ => ?_
  cases record with
  | terms => exact (exists_map_eq_ok _).trans (exists_seriesOf_eq_ok nofun)
  | invocations => exact (exists_map_eq_ok _).trans (exists_seriesOf_eq_ok nofun)
  | startTime => exact (exists_map_eq_ok _).trans exists_startOf_eq_ok

theorem escapes_restoreFrom {l : Ledger Float} :
    Escapes (restoreFrom l record v) f ↔ Overflows record v ∧ f = .tooLarge := by
  cases record with
  | terms => exact (escapes_map _).trans (escapes_seriesOf nofun)
  | invocations => exact (escapes_map _).trans (escapes_seriesOf nofun)
  | startTime => exact (escapes_map _).trans escapes_startOf

theorem escapes_restore {l : Ledger Float} :
    Escapes (restore l record payload) f ↔ Uncaught record payload f := by
  rw [restore_eq, escapes_bind, escapes_readPayload]
  simp only [readPayload_eq_ok, escapes_restoreFrom]
  constructor
  · rintro (⟨hdeep, rfl⟩ | ⟨v, hv, hover, rfl⟩)
    · exact .tooDeep hdeep
    · exact .tooLarge hv hover
  · rintro (hdeep | ⟨hv, hover⟩)
    · exact Or.inl ⟨hdeep, rfl⟩
    · exact Or.inr ⟨_, hv, hover, rfl⟩

end WikiGateway.Telemetry
