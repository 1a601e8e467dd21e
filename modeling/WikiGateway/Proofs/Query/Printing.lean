import WikiGateway.Query.Reading
import WikiGateway.Proofs.Query.Acceptance
import WikiGateway.Proofs.Query.Lexing

/-!
Queries printed with no more parentheses than their trees need. A query is read from some text
exactly if its values can be quoted, and then what is printed of it reads back to it.
-/
namespace WikiGateway.Query

variable {c : Condition Empty} {q : Query} {ts : List Symbol} {text v : String}

/-- A text that one of the quotes can stand around. -/
def Quotable (value : String) : Prop := '"' ∉ value.toList ∨ '\'' ∉ value.toList

namespace Condition

variable {ι : Type}

def isAnd : Condition ι → Bool
  | and .. => true
  | _ => false

def isOr : Condition ι → Bool
  | or .. => true
  | _ => false

/-- The values of the leaves, from left to right. -/
def values : Condition ι → List String
  | leaf _ value => [value]
  | and l r | or l r | foreign _ l r => l.values ++ r.values

end Condition

/-- Symbols, in parentheses if these are needed. -/
def enclosed (needed : Bool) (ts : List Symbol) : List Symbol :=
  if needed then .lparen :: ts ++ [.rparen] else ts

/-- The symbols that a condition is printed as. Parentheses stand only around an alternative in a
conjunction and around a right operand that is joined as the operands are. -/
def Condition.printed : Condition Empty → List Symbol
  | leaf kind value => [.keyword kind.keyword, .string value]
  | and l r =>
    enclosed l.isOr l.printed ++ .keyword .and_ :: enclosed (r.isOr || r.isAnd) r.printed
  | or l r => l.printed ++ .keyword .or_ :: enclosed r.isOr r.printed
  | foreign kind _ _ => kind.elim

def printedOrder : Option Order → List Symbol
  | none => []
  | some order => [.keyword .sorted, .keyword order.keyword]

/-- The symbols that a query is printed as. -/
def printed (q : Query) : List Symbol :=
  .keyword q.mode.keyword :: .keyword .where_ :: q.condition.printed ++ printedOrder q.order

/-- A symbol as it is printed. A string that no quote can stand around is spoilt. -/
def Symbol.spelling : Symbol → String
  | .string v =>
    let quote := quoteFor v.toList
    String.ofList (quote :: v.toList ++ [quote])
  | s => s.value

/-- The text that a query is printed as. -/
def asText (q : Query) : String := " ".intercalate (q.printed.map Symbol.spelling)

/-- A text made of spellings of symbols, with a blank between each two. -/
def IsTextOf (ts : List Symbol) (text : String) : Prop :=
  ∃ pieces, List.Forall₂ Spells ts pieces ∧ text.toList = [' '].intercalate pieces

/-- The level at which a condition is derived without parentheses. -/
def Condition.level : Condition Empty → Level
  | leaf .. => .primary
  | and .. => .conjunction
  | or .. => .condition
  | foreign kind _ _ => kind.elim

/-- How many parentheses are open at once, at most, in what is printed of a condition. -/
def Condition.nesting : Condition Empty → Nat
  | leaf .. => 0
  | and l r => max (l.isOr.toNat + l.nesting) ((r.isOr || r.isAnd).toNat + r.nesting)
  | or l r => max l.nesting (r.isOr.toNat + r.nesting)
  | foreign kind _ _ => kind.elim

theorem Derives.condition_of_level (h : Derives c.level ts c) : Derives .condition ts c := by
  cases c with
  | leaf => exact .conjunction (.primary h)
  | and => exact .conjunction h
  | or => exact h
  | foreign kind => exact kind.elim

theorem Derives.enclosed_conjunction (h : Derives c.level ts c) :
    Derives .conjunction (enclosed c.isOr ts) c := by
  cases c with
  | leaf => exact .primary h
  | and => exact h
  | or => exact .primary (.parens h)
  | foreign kind => exact kind.elim

theorem Derives.enclosed_primary (h : Derives c.level ts c) :
    Derives .primary (enclosed (c.isOr || c.isAnd) ts) c := by
  cases c with
  | leaf => exact h
  | and => exact .parens (.conjunction h)
  | or => exact .parens h
  | foreign kind => exact kind.elim

/-- What is printed of a condition derives it. -/
theorem derives_printed (c : Condition Empty) : Derives c.level c.printed c := by
  induction c with
  | leaf kind value => exact @Derives.leaf [] kind value .absent
  | and l r ihl ihr => exact .and ihl.enclosed_conjunction ihr.enclosed_primary
  | or l r ihl ihr => exact .or ihl.condition_of_level ihr.enclosed_conjunction
  | foreign kind => exact kind.elim

theorem derivesOrder_printed (order : Option Order) : DerivesOrder (printedOrder order) order := by
  cases order with
  | none => exact .unsorted
  | some order => exact .sorted .present

theorem derivesQuery_printed (q : Query) : DerivesQuery q.printed q :=
  .query .absent (derives_printed q.condition).condition_of_level (derivesOrder_printed q.order)

theorem IsOptional.not_mem_string {k : Keyword} (h : IsOptional k ts) : .string v ∉ ts := by
  cases h <;> simp

/-- The strings of a derived condition are its values. -/
theorem Derives.mem_string_iff {level : Level} (h : Derives level ts c) :
    .string v ∈ ts ↔ v ∈ c.values := by
  induction h with
  | conjunction _ ih => exact ih
  | primary _ ih => exact ih
  | or _ _ ihc ihd => simp [Condition.values, ihc, ihd]
  | and _ _ ihc ihd => simp [Condition.values, ihc, ihd]
  | parens _ ih => simp [ih]
  | leaf his => simp [Condition.values, his.not_mem_string]

theorem DerivesOrder.not_mem_string {order : Option Order} (h : DerivesOrder ts order) :
    .string v ∉ ts := by
  cases h with
  | unsorted => simp
  | sorted hopt => simp [hopt.not_mem_string]

theorem DerivesQuery.mem_string_iff (h : DerivesQuery ts q) :
    .string v ∈ ts ↔ v ∈ q.condition.values := by
  cases h with
  | query hget hcond horder =>
    simp [hget.not_mem_string, hcond.mem_string_iff, horder.not_mem_string]

/-- The values of a query that is read can be quoted. -/
theorem quotable_of_parse (h : parse (some text) = .ok q) (hv : v ∈ q.condition.values) :
    Quotable v := by
  obtain ⟨ls, hscan, hq⟩ := parse_eq_ok_iff.mp h
  exact (scan_eq_ok_iff.mp hscan).quotable (hq.mem_string_iff.mpr hv)

theorem IsTextOf.exists_cut (h : IsTextOf ts text) :
    ∃ ls, Cut 0 text.toList ls ∧ symbols ls = ts := by
  obtain ⟨pieces, hpieces, htext⟩ := h
  rw [htext]
  exact exists_cut_spaced hpieces 0

theorem parse_of_isTextOf (h : IsTextOf q.printed text) : parse (some text) = .ok q := by
  obtain ⟨ls, hcut, hsymbols⟩ := h.exists_cut
  exact parse_eq_ok_iff.mpr ⟨ls, scan_eq_ok_iff.mpr hcut, hsymbols ▸ derivesQuery_printed q⟩

theorem quoteFor_not_mem (h : Quotable v) : quoteFor v.toList ∉ v.toList := by
  unfold quoteFor
  rcases h with h | h
  · by_cases hsingle : '\'' ∈ v.toList <;> simp [h, hsingle]
  · simp [h]

theorem spells_spelling {s : Symbol} (h : ∀ v, s = .string v → Quotable v) :
    Spells s s.spelling.toList := by
  cases s with
  | lparen => exact .lparen
  | rparen => exact .rparen
  | keyword k => exact .keyword (by cases k <;> decide)
  | string v =>
    have hquote : quoteFor v.toList = '"' ∨ quoteFor v.toList = '\'' := by
      unfold quoteFor
      split
      · exact .inl rfl
      · exact .inr rfl
    have hspells := Spells.string hquote (quoteFor_not_mem (h v rfl))
    rw [String.ofList_toList] at hspells
    rw [Symbol.spelling, String.toList_ofList]
    exact hspells

/-- Symbols whose strings can be quoted are the symbols of the text that they spell. -/
theorem isTextOf_spelled (h : ∀ v, .string v ∈ ts → Quotable v) :
    IsTextOf ts (" ".intercalate (ts.map Symbol.spelling)) := by
  refine ⟨ts.map fun s => s.spelling.toList, ?_, ?_⟩
  · rw [List.forall₂_map_right_iff]
    refine List.forall₂_same.mpr fun s hs => spells_spelling ?_
    rintro v rfl
    exact h v hs
  · rw [String.toList_intercalate, List.map_map]
    rfl

theorem isTextOf_asText (h : ∀ v ∈ q.condition.values, Quotable v) :
    IsTextOf q.printed q.asText :=
  isTextOf_spelled fun v hv => h v ((derivesQuery_printed q).mem_string_iff.mp hv)

/-- Parentheses stand only where the tree needs them, and a quote gives way to a value. -/
example : asText ⟨.page, .and (.or (.leaf .title "a") (.leaf .author "it's")) (.leaf .category "b"),
      some .ascending⟩ =
    "page where ( title 'a' or author \"it's\" ) and category 'b' sorted asc" := by
  rfl

/-- A query is read from some text exactly if each of its values can be quoted. Exactly then what is
printed of it shows its symbols, and it is read from every text that does, in whichever quotes and
letters. -/
theorem parse_iff_quotable (q : Query) :
    ((∃ text, parse (some text) = .ok q) ↔ ∀ v ∈ q.condition.values, Quotable v) ∧
    (IsTextOf q.printed q.asText ↔ ∀ v ∈ q.condition.values, Quotable v) ∧
    (∀ text, IsTextOf q.printed text → parse (some text) = .ok q) := by
  refine ⟨?_, ?_, fun text => parse_of_isTextOf⟩
  · constructor
    · rintro ⟨text, h⟩ v hv
      exact quotable_of_parse h hv
    · intro h
      exact ⟨q.asText, parse_of_isTextOf (isTextOf_asText h)⟩
  · constructor
    · intro h v hv
      exact quotable_of_parse (parse_of_isTextOf h) hv
    · exact isTextOf_asText

/-- Symbols of which `n` parentheses are open at once, at most, and at the end none. -/
def Takes (n : Nat) (ts : List Symbol) : Prop :=
  ∀ room front rest, symbols front = ts →
    (n ≤ room → deepPlace? room (front ++ rest) = deepPlace? room rest) ∧
    (room < n → (deepPlace? room (front ++ rest)).isSome = true)

theorem takes_nil : Takes 0 [] := by
  intro room front rest hfront
  obtain rfl : front = [] := List.map_eq_nil_iff.mp hfront
  exact ⟨fun _ => rfl, fun h => absurd h (by omega)⟩

theorem Takes.cons {s : Symbol} {n : Nat} (hs : s ≠ .lparen ∧ s ≠ .rparen) (h : Takes n ts) :
    Takes n (s :: ts) := by
  intro room front rest hfront
  obtain ⟨⟨s, p⟩, more, rfl, rfl, hmore⟩ := List.map_eq_cons_iff.mp hfront
  have hstep : deepPlace? room (⟨s, p⟩ :: (more ++ rest)) = deepPlace? room (more ++ rest) := by
    cases s with
    | lparen => exact absurd rfl hs.1
    | rparen => exact absurd rfl hs.2
    | string v => cases room <;> rfl
    | keyword k => cases room <;> rfl
  rw [List.cons_append, hstep]
  exact h room more rest hmore

theorem Takes.append {m n : Nat} {us : List Symbol} (hts : Takes m ts) (hus : Takes n us) :
    Takes (max m n) (ts ++ us) := by
  intro room front rest hfront
  obtain ⟨left, right, rfl, hleft, hright⟩ := List.map_eq_append_iff.mp hfront
  obtain ⟨hfit, hspill⟩ := hts room left (right ++ rest) hleft
  obtain ⟨hfit', hspill'⟩ := hus room right rest hright
  rw [List.append_assoc]
  constructor
  · intro hroom
    rw [hfit (by omega), hfit' (by omega)]
  · intro hroom
    by_cases hm : room < m
    · exact hspill hm
    · rw [hfit (by omega)]
      exact hspill' (by omega)

theorem Takes.enclosed {n : Nat} (needed : Bool) (h : Takes n ts) :
    Takes (needed.toNat + n) (enclosed needed ts) := by
  cases needed with
  | false =>
    rw [Bool.toNat_false, Nat.zero_add]
    exact h
  | true =>
    intro room front rest hfront
    obtain ⟨⟨s, p⟩, more, rfl, rfl, hmore⟩ := List.map_eq_cons_iff.mp hfront
    obtain ⟨inner, last, rfl, hinner, hlast⟩ := List.map_eq_append_iff.mp hmore
    obtain ⟨⟨s, p'⟩, rfl, rfl⟩ := List.map_eq_singleton_iff.mp hlast
    rw [Bool.toNat_true, List.cons_append, List.append_assoc]
    cases room with
    | zero => exact ⟨fun h => absurd h (by omega), fun _ => rfl⟩
    | succ room =>
      obtain ⟨hfit, hspill⟩ := h room inner (⟨.rparen, p'⟩ :: rest) hinner
      have hstep : deepPlace? (room + 1) (⟨.lparen, p⟩ :: (inner ++ ([⟨.rparen, p'⟩] ++ rest))) =
          deepPlace? room (inner ++ ⟨.rparen, p'⟩ :: rest) := rfl
      have hclose : deepPlace? room (⟨.rparen, p'⟩ :: rest) = deepPlace? (room + 1) rest := by
        cases room <;> rfl
      rw [hstep]
      exact ⟨fun hroom => by rw [hfit (by omega), hclose], fun hroom => hspill (by omega)⟩

theorem takes_printed (c : Condition Empty) : Takes c.nesting c.printed := by
  induction c with
  | leaf kind value => exact (takes_nil.cons (by simp)).cons (by simp)
  | and l r ihl ihr => exact (ihl.enclosed _).append ((ihr.enclosed _).cons (by simp))
  | or l r ihl ihr => exact ihl.append ((ihr.enclosed _).cons (by simp))
  | foreign kind => exact kind.elim

theorem takes_printedOrder (order : Option Order) : Takes 0 (printedOrder order) := by
  cases order with
  | none => exact takes_nil
  | some order => exact (takes_nil.cons (by simp)).cons (by simp)

theorem takes_printed_query (q : Query) : Takes q.condition.nesting q.printed := by
  have happend := (takes_printed q.condition).append (takes_printedOrder q.order)
  rw [Nat.max_zero] at happend
  exact (happend.cons (by simp)).cons (by simp)

/-- One who can follow only so many open parentheses reads what is printed of a query exactly if
there are no more. -/
theorem read_eq_ok_iff_of_isTextOf (h : IsTextOf q.printed text) :
    read (some text) = .ok q ↔ q.condition.nesting ≤ mostOpen := by
  have hparse : parse (some text) = .ok q := parse_of_isTextOf h
  obtain ⟨ls, hcut, hsymbols⟩ := h.exists_cut
  have hlexemes : lexemes text = ls := by
    rw [lexemes, scan_eq_ok_iff.mpr hcut]
    rfl
  obtain ⟨hfit, hspill⟩ := takes_printed_query q mostOpen ls [] hsymbols
  rw [List.append_nil] at hfit hspill
  rw [read, hparse, Option.getD_some, hlexemes]
  by_cases hroom : q.condition.nesting ≤ mostOpen
  · rw [hfit hroom]
    exact iff_of_true rfl hroom
  · obtain ⟨place, hplace⟩ := Option.isSome_iff_exists.mp (hspill (by omega))
    rw [hplace]
    exact iff_of_false (by simp) hroom

end WikiGateway.Query
