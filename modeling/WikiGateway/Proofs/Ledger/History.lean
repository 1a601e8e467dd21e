import Mathlib.Data.List.DropRight
import WikiGateway.Proofs.Ledger.Changes

/-! A ledger holds exactly what its history says: each series is what it was last replaced with and
the times recorded since, and no record of one kind touches what is of another. -/
namespace WikiGateway.Ledger

variable {τ α : Type} {l : Ledger τ} {history : List (Change τ)} {change : Change τ}

namespace Change

/-- What a change replaces the calls with. -/
def invocations? : Change τ → Option (OrderedMap (List τ))
  | invocations series => some series
  | _ => none

/-- What a change replaces the terms with. -/
def terms? : Change τ → Option (OrderedMap (List τ))
  | terms series => some series
  | _ => none

def start? : Change τ → Option τ
  | start time => some time
  | _ => none

/-- The time of a call of the method. -/
def call? (method : String) : Change τ → Option τ
  | invocation m now => if m = method then some now else none
  | _ => none

/-- The time at which the term was used. -/
def use? (name : String) : Change τ → Option τ
  | term t now => if t = name then some now else none
  | _ => none

/-- The term that was used. -/
def used? : Change τ → Option String
  | term t _ => some t
  | _ => none

/-- The parts of a ledger that change. -/
inductive Part
  | invocations | terms | start

/-- The part that a change is about. -/
def part : Change τ → Part
  | invocation .. | invocations .. => .invocations
  | term .. | terms .. => .terms
  | start .. => .start

end Change

/-- What a part was last replaced with, if it ever was. -/
def latest (replaced : Change τ → Option α) (history : List (Change τ)) : Option α :=
  (history.filterMap replaced).getLast?

/-- The changes since a part was last replaced. -/
def since (replaced : Change τ → Option α) (history : List (Change τ)) : List (Change τ) :=
  history.rtakeWhile fun change => (replaced change).isNone

variable {β : Type} {replaced : Change τ → Option α}

/-- What holds of the empty history and what it starts with, and of a longer one and one item more,
holds of every history and the items noted since the last replacement. -/
theorem replayed (P : List (Change τ) → List β → Prop) {noted : Change τ → Option β}
    (first : α → List β) {usual : α} (hnil : P [] (first usual))
    (hsome : ∀ history change a, replaced change = some a → P (history ++ [change]) (first a))
    (hnone : ∀ history change items, replaced change = none → P history items →
      P (history ++ [change]) (items ++ (noted change).toList)) (history : List (Change τ)) :
    P history (first ((latest replaced history).getD usual) ++
      (since replaced history).filterMap noted) := by
  induction history using List.reverseRecOn with
  | nil => simpa [latest, since] using hnil
  | append_singleton history change ih =>
    cases h : replaced change with
    | some a => simpa [latest, since, h] using hsome history change a h
    | none =>
      have hnext := hnone history change _ h ih
      have hnoted : [change].filterMap noted = (noted change).toList := by
        cases hnote : noted change <;> simp [hnote]
      have hlatest : latest replaced (history ++ [change]) = latest replaced history := by
        simp [latest, h]
      have hsince : since replaced (history ++ [change]) = since replaced history ++ [change] := by
        simp [since, h]
      rwa [hlatest, hsince, List.filterMap_append, hnoted, ← List.append_assoc]

theorem changedBy_concat (l : Ledger τ) (history : List (Change τ)) (change : Change τ) :
    l.changedBy (history ++ [change]) = (l.changedBy history).changed change := by
  simp [changedBy]

theorem invocations_changed (h : change.part ≠ .invocations) :
    (l.changed change).invocations = l.invocations := by
  cases change with
  | invocation | invocations => exact absurd rfl h
  | term | terms | start => rfl

theorem terms_changed (h : change.part ≠ .terms) : (l.changed change).terms = l.terms := by
  cases change with
  | invocation method now =>
    simp only [changed, recordInvocation]
    cases l.invocations.find? method <;> rfl
  | term | terms => exact absurd rfl h
  | invocations | start => rfl

theorem start_changed (h : change.part ≠ .start) : (l.changed change).start = l.start := by
  cases change with
  | invocation method now =>
    simp only [changed, recordInvocation]
    cases l.invocations.find? method <;> rfl
  | start => exact absurd rfl h
  | term | terms | invocations => rfl

theorem Complete.mem_keys_iff (h : l.Complete) {method : String} :
    method ∈ l.invocations.keys ↔ method ∈ l.methods := by
  rw [h, List.mem_eraseDups]

/-- A method that the ledger does not have is refused. -/
theorem Complete.recordInvocation_unknown (h : l.Complete) {method : String}
    (hmethod : method ∉ l.methods) (now : τ) :
    l.recordInvocation method now = .error (.badValue ("Unknown method key: " ++ method)) := by
  cases hseries : l.invocations.find? method with
  | none => simp [Ledger.recordInvocation, hseries]
  | some series =>
    have hmem := OrderedMap.mem_keys_iff.mpr ⟨series, hseries⟩
    exact absurd (h.mem_keys_iff.mp hmem) hmethod

/-- The series of a method after a change. -/
theorem Complete.find?_changed (h : l.Complete) {method : String} (hmethod : method ∈ l.methods)
    (change : Change τ) : (l.changed change).invocations.find? method =
      some (match change.invocations? with
        | some series => (series.find? method).getD []
        | none => (l.invocations.find? method).getD [] ++ (change.call? method).toList) := by
  obtain ⟨series, hseries⟩ := OrderedMap.mem_keys_iff.mp (h.mem_keys_iff.mpr hmethod)
  cases change with
  | invocation called now =>
    simp only [Ledger.changed, Ledger.recordInvocation, Change.invocations?, Change.call?]
    by_cases hsame : called = method
    · subst hsame
      simp [hseries, OrderedMap.find?_insert]
    · cases l.invocations.find? called <;>
        simp [hseries, OrderedMap.find?_insert, hsame, Ne.symm hsame]
  | invocations given =>
    simp [Ledger.changed, restoreInvocations, find?_seriesOf, hmethod, Change.invocations?]
  | term | terms | start =>
    rw [invocations_changed (by rintro ⟨⟩)]
    simp [hseries, Change.invocations?, Change.call?]

/-- The series of a term after a change. -/
theorem find?_terms_changed (l : Ledger τ) (change : Change τ) (name : String) :
    ((l.changed change).terms.find? name).getD [] =
      match change.terms? with
      | some series => (series.find? name).getD []
      | none => (l.terms.find? name).getD [] ++ (change.use? name).toList := by
  cases change with
  | term term now =>
    simp only [changed, recordTerm, OrderedMap.find?_insert, Change.terms?, Change.use?]
    by_cases hsame : term = name
    · simp [hsame]
    · simp [hsame, Ne.symm hsame]
  | terms series => simp [changed, restoreTerms, Change.terms?]
  | invocation | invocations | start =>
    rw [terms_changed (by rintro ⟨⟩)]
    simp [Change.terms?, Change.use?]

theorem keys_terms_changed (l : Ledger τ) (change : Change τ) :
    (l.changed change).terms.keys =
      match change.terms? with
      | some series => series.keys
      | none => (l.terms.keys ++ change.used?.toList).eraseDups := by
  have hsame : l.terms.keys.eraseDups = l.terms.keys := eraseDups_eq_self l.terms.nodup_keys
  cases change with
  | term term now =>
    simp only [changed, recordTerm, OrderedMap.keys_insert, Change.terms?, Change.used?]
    by_cases hmem : term ∈ l.terms.keys
    · simp [hmem, eraseDups_append_cons, hsame]
    · have hnew : (l.terms.keys ++ [term]).Nodup := by
        rw [List.nodup_append]
        refine ⟨l.terms.nodup_keys, by simp, fun a ha b hb => ?_⟩
        obtain rfl := List.mem_singleton.mp hb
        rintro rfl
        exact hmem ha
      simp [hmem, eraseDups_eq_self hnew]
  | terms series => simp [changed, restoreTerms, Change.terms?]
  | invocation | invocations | start =>
    rw [terms_changed (by rintro ⟨⟩)]
    simp [Change.terms?, Change.used?, hsame]

theorem eraseDups_eraseDups_append (as bs : List String) :
    (as.eraseDups ++ bs).eraseDups = (as ++ bs).eraseDups := by
  rw [List.eraseDups_append, List.eraseDups_append, eraseDups_eq_self (nodup_eraseDups as)]
  congr 2
  refine List.filter_congr fun b _ => ?_
  simp [List.mem_eraseDups]

variable {methods : List String}

theorem find?_invocations_changedBy (start : τ) {method : String} (hmethod : method ∈ methods)
    (history : List (Change τ)) :
    ((opened start methods).changedBy history).invocations.find? method =
      some (((((latest Change.invocations? history).getD .empty).find? method).getD []) ++
        (since Change.invocations? history).filterMap (Change.call? method)) := by
  have hstep (before : List (Change τ)) (change : Change τ) :
      ((opened start methods).changedBy (before ++ [change])).invocations.find? method =
        some (match change.invocations? with
          | some series => (series.find? method).getD []
          | none =>
            (((opened start methods).changedBy before).invocations.find? method).getD [] ++
              (change.call? method).toList) := by
    obtain ⟨hmethods, hcomplete⟩ := (complete_opened start methods).changedBy before
    rw [changedBy_concat]
    exact hcomplete.find?_changed (hmethods ▸ hmethod) change
  refine replayed
    (fun before calls =>
      ((opened start methods).changedBy before).invocations.find? method = some calls)
    (fun series : OrderedMap (List τ) => (series.find? method).getD []) ?_ ?_ ?_ history
  · simp [changedBy, opened, find?_seriesOf, hmethod]
  · intro before change series hseries
    simp [hstep, hseries]
  · intro before change calls hnone hcalls
    simp [hstep, hnone, hcalls]

theorem find?_terms_changedBy (start : τ) (methods : List String) (history : List (Change τ))
    (name : String) : (((opened start methods).changedBy history).terms.find? name).getD [] =
      (((latest Change.terms? history).getD .empty).find? name).getD [] ++
        (since Change.terms? history).filterMap (Change.use? name) := by
  refine replayed
    (fun before uses =>
      (((opened start methods).changedBy before).terms.find? name).getD [] = uses)
    (fun series : OrderedMap (List τ) => (series.find? name).getD []) ?_ ?_ ?_ history
  · rfl
  · intro before change series hseries
    rw [changedBy_concat, find?_terms_changed, hseries]
  · intro before change uses hnone huses
    rw [changedBy_concat, find?_terms_changed, hnone, huses]

theorem keys_terms_changedBy (start : τ) (methods : List String) (history : List (Change τ)) :
    ((opened start methods).changedBy history).terms.keys =
      (((latest Change.terms? history).getD .empty).keys ++
        (since Change.terms? history).filterMap Change.used?).eraseDups := by
  refine replayed
    (fun before names =>
      ((opened start methods).changedBy before).terms.keys = names.eraseDups)
    OrderedMap.keys ?_ ?_ ?_ history
  · rfl
  · intro before change series hseries
    rw [changedBy_concat, keys_terms_changed, hseries, eraseDups_eq_self series.nodup_keys]
  · intro before change names hnone hnames
    rw [changedBy_concat, keys_terms_changed, hnone, hnames]
    exact eraseDups_eraseDups_append names _

theorem start_changedBy (start : τ) (methods : List String) (history : List (Change τ)) :
    ((opened start methods).changedBy history).start =
      (latest Change.start? history).getD start := by
  induction history using List.reverseRecOn with
  | nil => rfl
  | append_singleton history change ih =>
    rw [changedBy_concat]
    cases change with
    | start time => simp [changed, restoreStart, latest, Change.start?]
    | invocation | term | terms | invocations =>
      rw [start_changed (by rintro ⟨⟩), ih]
      simp [latest, Change.start?]

/-- The ledger of a history, from its opening on. There is a series for each method, and each holds
what it was last replaced with and the calls since; the terms are those that they were last replaced
with and those used since, each with its times; the start is the last one given. A call of an
unknown method is refused and changes nothing, and no change touches what it is not about. -/
theorem opened_changedBy (start : τ) (methods : List String) (history : List (Change τ)) :
    let l := (opened start methods).changedBy history
    let calls := (latest Change.invocations? history).getD .empty
    let terms := (latest Change.terms? history).getD .empty
    (l.invocations.keys = methods.eraseDups ∧
      ∀ method ∈ methods, l.invocations.find? method = some ((calls.find? method).getD [] ++
        (since Change.invocations? history).filterMap (Change.call? method))) ∧
    (l.terms.keys =
        (terms.keys ++ (since Change.terms? history).filterMap Change.used?).eraseDups ∧
      ∀ name ∈ l.terms.keys, l.terms.find? name = some ((terms.find? name).getD [] ++
        (since Change.terms? history).filterMap (Change.use? name))) ∧
    l.start = (latest Change.start? history).getD start ∧
    (∀ method now, method ∉ methods →
      l.recordInvocation method now = .error (.badValue ("Unknown method key: " ++ method)) ∧
      l.changed (.invocation method now) = l) ∧
    ∀ change : Change τ,
      (change.part ≠ .invocations → (l.changed change).invocations = l.invocations) ∧
      (change.part ≠ .terms → (l.changed change).terms = l.terms) ∧
      (change.part ≠ .start → (l.changed change).start = l.start) := by
  intro l calls terms
  obtain ⟨hmethods, hcomplete⟩ := (complete_opened start methods).changedBy history
  refine ⟨⟨?_, fun method hmethod => find?_invocations_changedBy start hmethod history⟩,
    ⟨keys_terms_changedBy start methods history, fun name hname => ?_⟩,
    start_changedBy start methods history, fun method now hmethod => ?_, fun change => ?_⟩
  · exact hcomplete.trans (congrArg List.eraseDups hmethods)
  · obtain ⟨times, htimes⟩ := OrderedMap.mem_keys_iff.mp hname
    have huses := find?_terms_changedBy start methods history name
    rw [htimes] at huses
    rw [htimes, ← huses, Option.getD_some]
  · have hmissing : method ∉ l.methods := by
      rw [hmethods]
      exact hmethod
    have hrefused := hcomplete.recordInvocation_unknown hmissing now
    exact ⟨hrefused, by rw [Ledger.changed, hrefused]⟩
  · exact ⟨invocations_changed, terms_changed, start_changed⟩

end WikiGateway.Ledger
