import WikiGateway.Ledger.Basic
import WikiGateway.Proofs.Named

/-! What is done to a ledger, and what a ledger is after it: it always has a series for each of its
methods, and no times but those that it was given. -/
namespace WikiGateway

namespace OrderedMap

variable {α : Type}

theorem keys_overlay (d : OrderedMap α) (es : List (String × α)) :
    (d.overlay es).keys = (d.keys ++ es.map Prod.fst).eraseDups := by
  induction es generalizing d with
  | nil =>
    rw [List.map_nil, List.append_nil, eraseDups_eq_self d.nodup_keys]
    rfl
  | cons e es ih =>
    have hstep : (d.overlay (e :: es)).keys = ((d.insert e.1 e.2).overlay es).keys := rfl
    rw [hstep, ih, keys_insert, List.map_cons]
    by_cases hkey : e.1 ∈ d.keys
    · rw [if_pos hkey, eraseDups_append_cons hkey]
    · rw [if_neg hkey, List.append_assoc, List.singleton_append]

/-- Of a map that is written from a list the keys are those of the list, in the order in which they
first come. -/
theorem keys_ofList (es : List (String × α)) : (ofList es).keys = (es.map Prod.fst).eraseDups :=
  keys_overlay empty es

theorem find?_overlay_map (d : OrderedMap α) (ks : List String) (f : String → α) (x : String) :
    (d.overlay (ks.map fun k => (k, f k))).find? x = if x ∈ ks then some (f x) else d.find? x := by
  induction ks generalizing d with
  | nil => rfl
  | cons k ks ih =>
    have hstep : (d.overlay ((k :: ks).map fun k => (k, f k))).find? x =
        ((d.insert k (f k)).overlay (ks.map fun k => (k, f k))).find? x := rfl
    rw [hstep, ih, find?_insert]
    by_cases hx : x = k <;> by_cases hmem : x ∈ ks <;> simp [hx, hmem]

/-- Entries with new names come last, in their order. -/
theorem entries_overlay (d : OrderedMap α) {es : List (String × α)}
    (h : ((d.entries ++ es).map Prod.fst).Nodup) : (d.overlay es).entries = d.entries ++ es := by
  induction es generalizing d with
  | nil => exact (List.append_nil _).symm
  | cons e es ih =>
    have hnew : e.1 ∉ d.entries.map Prod.fst := by
      rw [List.map_append, List.nodup_append] at h
      intro hmem
      exact h.2.2 _ hmem _ List.mem_cons_self rfl
    have hinsert : (d.insert e.1 e.2).entries = d.entries ++ [e] := putEntry_new hnew e.2
    have hstep := ih (d.insert e.1 e.2) (by rw [hinsert, List.append_assoc]; exact h)
    rw [hinsert, List.append_assoc] at hstep
    exact hstep

theorem ofList_entries (d : OrderedMap α) : ofList d.entries = d :=
  ext (entries_overlay empty d.nodup)

theorem lookup_eq_none {k : String} {es : List (String × α)} (h : k ∉ es.map Prod.fst) :
    es.lookup k = none := by
  cases hlook : es.lookup k with
  | none => rfl
  | some v => exact absurd (mem_map_fst_iff.mpr ⟨v, hlook⟩) h

/-- Maps with the same keys in the same order and the same values are the same. -/
theorem ext_find? {d e : OrderedMap α} (hkeys : d.keys = e.keys)
    (hfind : ∀ k, d.find? k = e.find? k) : d = e := by
  obtain ⟨es, hes⟩ := d
  obtain ⟨fs, hfs⟩ := e
  refine ext ?_
  simp only [keys, find?] at hkeys hfind ⊢
  induction es generalizing fs with
  | nil => exact (List.map_eq_nil_iff.mp hkeys.symm).symm
  | cons e es ih =>
    cases fs with
    | nil => cases hkeys
    | cons f fs =>
      obtain ⟨hkey, hrest⟩ := List.cons.inj hkeys
      obtain ⟨hnew, hes⟩ := List.nodup_cons.mp hes
      obtain ⟨hnew', hfs⟩ := List.nodup_cons.mp hfs
      have hvalue := hfind e.1
      rw [lookup_entry, lookup_entry, if_pos rfl, if_pos hkey] at hvalue
      have htail (k : String) : es.lookup k = fs.lookup k := by
        have hk := hfind k
        rw [lookup_entry, lookup_entry, ← hkey] at hk
        by_cases hsame : k = e.1
        · rw [hsame, lookup_eq_none hnew, hkey, lookup_eq_none hnew']
        · rwa [if_neg hsame, if_neg hsame] at hk
      rw [ih hes fs hfs hrest htail, Prod.ext hkey (Option.some.inj hvalue)]

theorem find?_map {β : Type} (d : OrderedMap α) (f : α → β) (k : String) :
    (d.map f).find? k = (d.find? k).map f := by
  refine Option.ext fun v => ?_
  rw [find?_eq_some_iff, Option.map_eq_some_iff]
  simp only [map, List.mem_map, find?_eq_some_iff]
  constructor
  · rintro ⟨⟨k', a⟩, he, heq⟩
    obtain ⟨rfl, rfl⟩ := Prod.mk.inj heq
    exact ⟨a, he, rfl⟩
  · rintro ⟨a, he, rfl⟩
    exact ⟨(k, a), he, rfl⟩

theorem insert_of_find? {d : OrderedMap α} {k : String} {v : α} (h : d.find? k = some v) :
    d.insert k v = d := by
  have hmem : k ∈ d.keys := mem_keys_iff.mpr ⟨v, h⟩
  refine ext_find? (by rw [keys_insert, if_pos hmem]) fun x => ?_
  rw [find?_insert]
  split
  · rename_i hx
    rw [hx, h]
  · rfl

/-- What comes of all entries grows by as much as what comes of the one that is replaced. -/
theorem perm_flatMap_insert {β : Type} {d : OrderedMap α} {k : String} {v v' : α}
    (h : d.find? k = some v) {f : String × α → List β} {bs : List β}
    (hf : f (k, v') = f (k, v) ++ bs) :
    ((d.insert k v').entries.flatMap f).Perm (d.entries.flatMap f ++ bs) := by
  have hold := perm_entries_insert d k v
  have hnew := perm_entries_insert d k v'
  rw [insert_of_find? h] at hold
  have hrest : (bs ++ (d.erase k).entries.flatMap f).Perm ((d.erase k).entries.flatMap f ++ bs) :=
    List.perm_append_comm
  calc
    ((d.insert k v').entries.flatMap f).Perm (f (k, v') ++ (d.erase k).entries.flatMap f) :=
      hnew.flatMap_right f
    _ = f (k, v) ++ (bs ++ (d.erase k).entries.flatMap f) := by rw [hf, List.append_assoc]
    (f (k, v) ++ (bs ++ (d.erase k).entries.flatMap f)).Perm
        (f (k, v) ++ ((d.erase k).entries.flatMap f ++ bs)) := hrest.append_left (f (k, v))
    _ = (f (k, v) ++ (d.erase k).entries.flatMap f) ++ bs := (List.append_assoc ..).symm
    List.Perm _ (d.entries.flatMap f ++ bs) := (hold.flatMap_right f).symm.append_right bs

end OrderedMap

namespace Ledger

variable {τ : Type} {P : τ → Prop} {l : Ledger τ}

theorem keys_seriesOf (methods : List String) (given : OrderedMap (List τ)) :
    (seriesOf methods given).keys = methods.eraseDups := by
  rw [seriesOf, OrderedMap.keys_ofList, List.map_map]
  congr 1
  exact List.map_id methods

theorem find?_seriesOf (methods : List String) (given : OrderedMap (List τ)) (method : String) :
    (seriesOf methods given).find? method =
      if method ∈ methods then some ((given.find? method).getD []) else none :=
  OrderedMap.find?_overlay_map .empty methods (fun m => (given.find? m).getD []) method

/-- What is done to a ledger: a call or a term is recorded, or a part of it is replaced. -/
inductive Change (τ : Type)
  | invocation (method : String) (now : τ)
  | term (term : String) (now : τ)
  | terms (series : OrderedMap (List τ))
  | invocations (series : OrderedMap (List τ))
  | start (time : τ)

/-- The ledger after a change. One that is refused leaves it as it was. -/
def changed (l : Ledger τ) : Change τ → Ledger τ
  | .invocation method now =>
    match l.recordInvocation method now with
    | .ok l' => l'
    | .error _ => l
  | .term term now => l.recordTerm term now
  | .terms series => l.restoreTerms series
  | .invocations series => l.restoreInvocations series
  | .start time => l.restoreStart time

def changedBy (l : Ledger τ) (changes : List (Change τ)) : Ledger τ := changes.foldl changed l

/-- There is a series for each method, in the order of the methods, and no other. -/
def Complete (l : Ledger τ) : Prop := l.invocations.keys = l.methods.eraseDups

theorem complete_opened (now : τ) (methods : List String) : (opened now methods).Complete :=
  keys_seriesOf methods .empty

theorem Complete.changed (h : l.Complete) (change : Change τ) :
    (l.changed change).methods = l.methods ∧ (l.changed change).Complete := by
  cases change with
  | invocation method now =>
    rw [Ledger.changed, recordInvocation]
    cases hseries : l.invocations.find? method with
    | none => exact ⟨rfl, h⟩
    | some series =>
      have hkeys : (l.invocations.insert method (series ++ [now])).keys = l.invocations.keys := by
        rw [OrderedMap.keys_insert, if_pos (OrderedMap.mem_keys_iff.mpr ⟨series, hseries⟩)]
      exact ⟨rfl, hkeys.trans h⟩
  | term term now => exact ⟨rfl, h⟩
  | terms series => exact ⟨rfl, h⟩
  | invocations series => exact ⟨rfl, keys_seriesOf l.methods series⟩
  | start time => exact ⟨rfl, h⟩

theorem Complete.changedBy (h : l.Complete) (changes : List (Change τ)) :
    (l.changedBy changes).methods = l.methods ∧ (l.changedBy changes).Complete := by
  induction changes generalizing l with
  | nil => exact ⟨rfl, h⟩
  | cons change changes ih =>
    obtain ⟨hmethods, hcomplete⟩ := h.changed change
    obtain ⟨hrest, hafter⟩ := ih hcomplete
    exact ⟨hrest.trans hmethods, hafter⟩

/-- The series of a ledger's own methods are those that it has. -/
theorem Complete.seriesOf_eq (h : l.Complete) :
    seriesOf l.methods l.invocations = l.invocations := by
  refine OrderedMap.ext_find? ((keys_seriesOf _ _).trans h.symm) fun method => ?_
  rw [find?_seriesOf]
  have hmem : method ∈ l.methods ↔ method ∈ l.invocations.keys := by
    rw [h, List.mem_eraseDups]
  cases hseries : l.invocations.find? method with
  | none =>
    have hmissing : method ∉ l.methods := by
      rw [hmem, OrderedMap.mem_keys_iff, hseries]
      rintro ⟨_, ⟨⟩⟩
    rw [if_neg hmissing]
  | some series => rw [if_pos (hmem.mpr (OrderedMap.mem_keys_iff.mpr ⟨series, hseries⟩))]; rfl

/-- All times in a series, by name, are of one kind. -/
def TimesIn (P : τ → Prop) (series : OrderedMap (List τ)) : Prop :=
  ∀ name times, series.find? name = some times → ∀ t ∈ times, P t

/-- All times in a ledger are of one kind. -/
structure Holds (P : τ → Prop) (l : Ledger τ) : Prop where
  start : P l.start
  invocations : TimesIn P l.invocations
  terms : TimesIn P l.terms

theorem Holds.imp {Q : τ → Prop} (h : l.Holds P) (himp : ∀ t, P t → Q t) : l.Holds Q where
  start := himp _ h.start
  invocations name times hfound t ht := himp t (h.invocations name times hfound t ht)
  terms name times hfound t ht := himp t (h.terms name times hfound t ht)

/-- The times that a change gives to a ledger. -/
def Change.times : Change τ → List τ
  | invocation _ now | term _ now => [now]
  | terms series | invocations series => series.entries.flatMap Prod.snd
  | start time => [time]

theorem timesIn_of_flatMap {series : OrderedMap (List τ)}
    (h : ∀ t ∈ series.entries.flatMap Prod.snd, P t) : TimesIn P series := by
  intro name times hfound t ht
  exact h t (List.mem_flatMap.mpr ⟨_, OrderedMap.find?_eq_some_iff.mp hfound, ht⟩)

theorem TimesIn.insert {series : OrderedMap (List τ)} {name : String} {times : List τ}
    (h : TimesIn P series) (htimes : ∀ t ∈ times, P t) : TimesIn P (series.insert name times) := by
  intro other found hfound
  rw [OrderedMap.find?_insert] at hfound
  split at hfound
  · obtain rfl := Option.some.inj hfound
    exact htimes
  · exact h other found hfound

/-- Times that a series of one kind comes to with one more. -/
theorem TimesIn.append {series : OrderedMap (List τ)} (h : TimesIn P series) (name : String)
    {now : τ} (hnow : P now) : ∀ t ∈ (series.find? name).getD [] ++ [now], P t := by
  intro t ht
  rcases List.mem_append.mp ht with ht | ht
  · cases hfound : series.find? name with
    | none =>
      rw [hfound] at ht
      cases ht
    | some times =>
      rw [hfound] at ht
      exact h name times hfound t ht
  · obtain rfl := List.mem_singleton.mp ht
    exact hnow

theorem timesIn_empty : TimesIn P .empty := by
  intro name times hfound
  cases hfound

theorem TimesIn.seriesOf {series : OrderedMap (List τ)} (h : TimesIn P series)
    (methods : List String) : TimesIn P (seriesOf methods series) := by
  intro method times hfound
  rw [find?_seriesOf] at hfound
  split at hfound
  · obtain rfl := Option.some.inj hfound
    intro t ht
    cases hseries : series.find? method with
    | none =>
      rw [hseries] at ht
      cases ht
    | some times =>
      rw [hseries] at ht
      exact h method times hseries t ht
  · cases hfound

theorem holds_opened {now : τ} (h : P now) (methods : List String) : (opened now methods).Holds P :=
  ⟨h, timesIn_empty.seriesOf methods, timesIn_empty⟩

theorem Holds.changed (h : l.Holds P) {change : Change τ} (hchange : ∀ t ∈ change.times, P t) :
    (l.changed change).Holds P := by
  cases change with
  | invocation method now =>
    have hnow : P now := hchange now (List.mem_singleton_self now)
    rw [Ledger.changed, recordInvocation]
    cases hseries : l.invocations.find? method with
    | none => exact h
    | some series =>
      have happend := h.invocations.append method hnow
      rw [hseries] at happend
      exact { h with invocations := h.invocations.insert happend }
  | term term now =>
    have hnow : P now := hchange now (List.mem_singleton_self now)
    exact { h with terms := h.terms.insert (h.terms.append term hnow) }
  | terms series => exact { h with terms := timesIn_of_flatMap hchange }
  | invocations series =>
    exact { h with invocations := (timesIn_of_flatMap hchange).seriesOf l.methods }
  | start time => exact { h with start := hchange time (List.mem_singleton_self time) }

theorem Holds.changedBy (h : l.Holds P) {changes : List (Change τ)}
    (hchanges : ∀ change ∈ changes, ∀ t ∈ change.times, P t) : (l.changedBy changes).Holds P := by
  induction changes generalizing l with
  | nil => exact h
  | cons change changes ih =>
    have hfirst := h.changed (hchanges change List.mem_cons_self)
    exact ih hfirst fun c hc => hchanges c (List.mem_cons_of_mem _ hc)

end Ledger

end WikiGateway
