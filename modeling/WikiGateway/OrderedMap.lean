/-! Finite maps with text keys that keep the order in which the keys first came. -/
namespace WikiGateway

/-- Writes an entry: in its old place if the key is there, otherwise at the end. -/
def putEntry {α : Type} (k : String) (v : α) : List (String × α) → List (String × α)
  | [] => [(k, v)]
  | e :: es => if e.1 = k then (k, v) :: es else e :: putEntry k v es

theorem map_fst_putEntry {α : Type} (k : String) (v : α) (es : List (String × α)) :
    (putEntry k v es).map Prod.fst =
      if k ∈ es.map Prod.fst then es.map Prod.fst else es.map Prod.fst ++ [k] := by
  induction es with
  | nil => simp [putEntry]
  | cons e es ih =>
    by_cases h : e.1 = k
    · simp [putEntry, h]
    · simp only [putEntry, h, if_false, List.map_cons, ih, List.mem_cons, Ne.symm h, false_or]
      split <;> simp

theorem lookup_entry {α : Type} (x : String) (e : String × α) (es : List (String × α)) :
    (e :: es).lookup x = if x = e.1 then some e.2 else es.lookup x := by
  obtain ⟨k, v⟩ := e
  by_cases h : x = k
  · simp [h]
  · have hb : (x == k) = false := by simpa using h
    simp [List.lookup_cons, h, hb]

theorem lookup_putEntry {α : Type} (k x : String) (v : α) (es : List (String × α)) :
    (putEntry k v es).lookup x = if x = k then some v else es.lookup x := by
  induction es with
  | nil => simp [putEntry, lookup_entry]
  | cons e es ih =>
    by_cases h : e.1 = k
    · simp only [putEntry, h, if_true, lookup_entry]
      split <;> rfl
    · simp only [putEntry, h, if_false, lookup_entry, ih]
      grind

/-- A new key comes last. -/
theorem putEntry_new {α : Type} {k : String} {es : List (String × α)} (h : k ∉ es.map Prod.fst)
    (v : α) : putEntry k v es = es ++ [(k, v)] := by
  induction es with
  | nil => rfl
  | cons e es ih =>
    obtain ⟨hne, hes⟩ : k ≠ e.1 ∧ k ∉ es.map Prod.fst := by simpa using h
    rw [putEntry, if_neg (Ne.symm hne), ih hes, List.cons_append]

theorem mem_map_fst_iff {α : Type} {x : String} {es : List (String × α)} :
    x ∈ es.map Prod.fst ↔ ∃ v, es.lookup x = some v := by
  induction es with
  | nil => simp
  | cons e es ih =>
    rw [lookup_entry]
    by_cases h : x = e.1
    · simp [h]
    · simpa [h] using ih

theorem lookup_eq_some_iff_mem {α : Type} {k : String} {v : α} {es : List (String × α)}
    (h : (es.map Prod.fst).Nodup) : es.lookup k = some v ↔ (k, v) ∈ es := by
  induction es with
  | nil => simp
  | cons e es ih =>
    obtain ⟨hnew, hes⟩ := List.nodup_cons.mp h
    rw [lookup_entry, List.mem_cons]
    by_cases hk : k = e.1
    · have hnone : (k, v) ∉ es := fun hmem => hnew (hk ▸ List.mem_map_of_mem hmem)
      grind
    · grind

/-- Entries with texts as keys; no key comes twice. -/
structure OrderedMap (α : Type) where
  entries : List (String × α)
  nodup : (entries.map Prod.fst).Nodup

namespace OrderedMap

variable {α β : Type}

def empty : OrderedMap α := ⟨[], List.nodup_nil⟩

instance : Inhabited (OrderedMap α) := ⟨empty⟩

def keys (d : OrderedMap α) : List String := d.entries.map Prod.fst

def size (d : OrderedMap α) : Nat := d.entries.length

def find? (d : OrderedMap α) (k : String) : Option α := d.entries.lookup k

def contains (d : OrderedMap α) (k : String) : Bool := (d.find? k).isSome

/-- A present key keeps its place, a new one goes to the end. -/
def insert (d : OrderedMap α) (k : String) (v : α) : OrderedMap α where
  entries := putEntry k v d.entries
  nodup := by
    rw [map_fst_putEntry]
    split
    · exact d.nodup
    · rename_i h
      refine List.nodup_append.2 ⟨d.nodup, by simp, ?_⟩
      intro a ha b hb hab
      exact h (by simp_all)

/-- Writes the entries over those of a map, one after the other. -/
def overlay (d : OrderedMap α) (es : List (String × α)) : OrderedMap α :=
  es.foldl (fun d e => d.insert e.1 e.2) d

/-- Later entries of a key replace the value of earlier ones. -/
def ofList (es : List (String × α)) : OrderedMap α := empty.overlay es

def erase (d : OrderedMap α) (k : String) : OrderedMap α where
  entries := d.entries.filter fun e => e.1 ≠ k
  nodup := (List.filter_sublist.map Prod.fst).nodup d.nodup

def filter (d : OrderedMap α) (p : String → α → Bool) : OrderedMap α where
  entries := d.entries.filter fun e => p e.1 e.2
  nodup := (List.filter_sublist.map Prod.fst).nodup d.nodup

/-- Drops the first `n` entries. -/
def drop (d : OrderedMap α) (n : Nat) : OrderedMap α where
  entries := d.entries.drop n
  nodup := ((List.drop_sublist _ _).map Prod.fst).nodup d.nodup

def map (d : OrderedMap α) (f : α → β) : OrderedMap β where
  entries := d.entries.map fun e => (e.1, f e.2)
  nodup := by
    rw [List.map_map]
    exact d.nodup

theorem ext {d e : OrderedMap α} (h : d.entries = e.entries) : d = e := by
  cases d; cases e; simp_all

theorem find?_empty (k : String) : (empty : OrderedMap α).find? k = none := rfl

theorem find?_insert (d : OrderedMap α) (k x : String) (v : α) :
    (d.insert k v).find? x = if x = k then some v else d.find? x :=
  lookup_putEntry k x v d.entries

theorem find?_eq_some_iff {d : OrderedMap α} {k : String} {v : α} :
    d.find? k = some v ↔ (k, v) ∈ d.entries :=
  lookup_eq_some_iff_mem d.nodup

theorem find?_reverse_entries (d : OrderedMap α) (k : String) :
    d.entries.reverse.find? (·.1 = k) = (d.find? k).map (k, ·) := by
  cases hfind : d.entries.reverse.find? (·.1 = k) with
  | none =>
    cases hv : d.find? k with
    | none => rfl
    | some v =>
      have hmem := List.mem_reverse.mpr (find?_eq_some_iff.mp hv)
      simpa using List.find?_eq_none.mp hfind _ hmem
  | some e =>
    obtain rfl : e.1 = k := by simpa using List.find?_some hfind
    have hmem := List.mem_reverse.mp (List.mem_of_find?_eq_some hfind)
    rw [find?_eq_some_iff.mpr hmem, Option.map_some]

theorem mem_keys_iff {d : OrderedMap α} {k : String} : k ∈ d.keys ↔ ∃ v, d.find? k = some v :=
  mem_map_fst_iff

theorem contains_eq_true_iff {d : OrderedMap α} {k : String} :
    d.contains k = true ↔ k ∈ d.keys := by
  rw [contains, Option.isSome_iff_exists, mem_keys_iff]

theorem keys_erase (d : OrderedMap α) (k : String) : (d.erase k).keys = d.keys.filter (· ≠ k) := by
  simp [keys, erase, List.filter_map, Function.comp_def]

theorem keys_insert (d : OrderedMap α) (k : String) (v : α) :
    (d.insert k v).keys = if k ∈ d.keys then d.keys else d.keys ++ [k] :=
  map_fst_putEntry k v d.entries

theorem keys_insert_new {d : OrderedMap α} {k : String} (h : k ∉ d.keys) (v : α) :
    (d.insert k v).keys = d.keys ++ [k] := by
  rw [keys_insert, if_neg h]

theorem keys_empty : (empty : OrderedMap α).keys = [] := rfl

theorem nodup_keys (d : OrderedMap α) : d.keys.Nodup := d.nodup

theorem find?_erase (d : OrderedMap α) (k x : String) :
    (d.erase k).find? x = if x = k then none else d.find? x := by
  refine Option.ext fun v => ?_
  rw [find?_eq_some_iff, erase, List.mem_filter, ← find?_eq_some_iff]
  by_cases h : x = k <;> simp [h]

/-- Where the order does not matter, an entry is written by taking the old one out. -/
theorem perm_entries_insert (d : OrderedMap α) (k : String) (v : α) :
    (d.insert k v).entries.Perm ((k, v) :: (d.erase k).entries) := by
  obtain ⟨es, hes⟩ := d
  simp only [insert, erase]
  induction es with
  | nil => exact .refl _
  | cons e es ih =>
    obtain ⟨hnew, hes⟩ := List.nodup_cons.mp hes
    by_cases h : e.1 = k
    · have hrest : es.filter (fun e => e.1 ≠ k) = es := by
        refine List.filter_eq_self.mpr fun e' he' => ?_
        have hne : e'.1 ≠ e.1 := fun heq => hnew (heq ▸ List.mem_map_of_mem he')
        simpa [← h] using hne
      rw [putEntry, if_pos h, List.filter_cons_of_neg (by simpa using h), hrest]
    · simp only [putEntry, h, if_false, List.filter_cons, ne_eq, not_false_eq_true, decide_true,
        if_true]
      exact ((ih hes).cons e).trans (.swap _ _ _)

theorem entries_foldl_erase (d : OrderedMap α) (ks : List String) :
    (ks.foldl erase d).entries = d.entries.filter fun e => e.1 ∉ ks := by
  induction ks generalizing d with
  | nil => exact (List.filter_eq_self.mpr (by simp)).symm
  | cons k ks ih =>
    rw [List.foldl_cons, ih, erase, List.filter_filter]
    refine List.filter_congr fun e _ => ?_
    by_cases h : e.1 = k <;> simp [h]

theorem find?_foldl_erase (d : OrderedMap α) (ks : List String) (x : String) :
    (ks.foldl erase d).find? x = if x ∈ ks then none else d.find? x := by
  induction ks generalizing d with
  | nil => simp
  | cons k ks ih =>
    rw [List.foldl_cons, ih, find?_erase]
    by_cases h : x = k <;> simp [h]

end OrderedMap

end WikiGateway
