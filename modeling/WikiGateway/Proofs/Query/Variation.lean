import Mathlib
import WikiGateway.Proofs.Query.Lexing
import WikiGateway.Proofs.Query.Rephrasing
import WikiGateway.Query.Reading

/-!
Texts that ask the same. A query stays as it is while its text is varied step by step: by blanks, by
another spelling of a symbol, by a word that can be left out, by parentheses around a part of the
condition.
-/
namespace WikiGateway.Query

variable {front mid piece piece' back cs cs' : List Char} {ts ms us : List Symbol} {s : Symbol}
  {k : Keyword} {c : Char} {p : Nat} {ls : List Lexeme} {q : Query}

/-- The symbols that a text is cut into, wherever it stands. -/
inductive CutInto : List Char → List Symbol → Prop
  | nil : CutInto [] []
  | blank {c : Char} {cs : List Char} {ts : List Symbol} :
      isBlank c = true → CutInto cs ts → CutInto (c :: cs) ts
  | lexeme {s : Symbol} {piece rest : List Char} {ts : List Symbol} :
      Spells s piece → EndsBefore s rest → CutInto rest ts → CutInto (piece ++ rest) (s :: ts)

/-- A symbol that is spelled within a text, with the symbols around it. No word runs on from it or
into it. -/
structure Holds (front piece back : List Char) (ts : List Symbol) (s : Symbol) (us : List Symbol) :
    Prop where
  cut_front : CutInto front ts
  spells : Spells s piece
  cut_back : CutInto back us
  apart_front : Apart front piece
  apart_back : Apart piece back

/-- The steps in which a text is varied. Words are added wherever the grammar has room for them
(`derivesQuery_optional_iff`), and parentheses can be put around every part of the condition
(`exists_varies_enclosed`). -/
inductive Varies : List Char → List Char → Prop
  | blank {front back : List Char} {ts us : List Symbol} {c : Char} :
      CutInto front ts → CutInto back us → Apart front back → isBlank c = true →
      Varies (front ++ back) (front ++ c :: back)
  | respelled {front piece piece' back : List Char} {ts us : List Symbol} {s : Symbol} :
      Holds front piece back ts s us → Spells s piece' →
      Varies (front ++ piece ++ back) (front ++ piece' ++ back)
  | dropped {front piece back : List Char} {ts us : List Symbol} {k : Keyword} :
      Holds front piece back ts (.keyword k) us → k.isOptional = true →
      Varies (front ++ piece ++ back) (front ++ back)
  | added {front piece back : List Char} {ts us : List Symbol} {k : Keyword} :
      Holds front piece back ts (.keyword k) us → Admits k ts us →
      Varies (front ++ back) (front ++ piece ++ back)
  | enclosed {front part back : List Char} {ts ms us : List Symbol} :
      CutInto front ts → CutInto part ms → CutInto back us → Apart front (part ++ back) →
      Apart part back → IsPart ts ms us →
      Varies (front ++ part ++ back) (front ++ ('(' :: part ++ [')']) ++ back)

theorem Cut.cutInto (h : Cut p cs ls) : CutInto cs (symbols ls) := by
  induction h with
  | nil => exact .nil
  | blank hblank _ ih => exact .blank hblank ih
  | lexeme hspells hends _ ih => exact .lexeme hspells hends ih

theorem CutInto.exists_cut (h : CutInto cs ts) (p : Nat) : ∃ ls, Cut p cs ls ∧ symbols ls = ts := by
  induction h generalizing p with
  | nil => exact ⟨[], .nil, rfl⟩
  | blank hblank _ ih =>
    obtain ⟨ls, hcut, hsymbols⟩ := ih (p + 1)
    exact ⟨ls, .blank hblank hcut, hsymbols⟩
  | @lexeme s piece rest ts hspells hends _ ih =>
    obtain ⟨ls, hcut, rfl⟩ := ih (p + piece.length)
    exact ⟨⟨s, p⟩ :: ls, .lexeme hspells hends hcut, rfl⟩

theorem cutInto_iff_scan : CutInto cs ts ↔ (scan 0 cs).toOption.map symbols = some ts := by
  constructor
  · intro h
    obtain ⟨ls, hcut, rfl⟩ := h.exists_cut 0
    rw [scan_eq_ok_iff.mpr hcut]
    rfl
  · intro h
    obtain ⟨ls, hls, rfl⟩ := Option.map_eq_some_iff.mp h
    cases hscan : scan 0 cs with
    | error e =>
      rw [hscan] at hls
      cases hls
    | ok ms =>
      rw [hscan] at hls
      obtain rfl : ms = ls := Option.some.inj hls
      exact (scan_eq_ok_iff.mp hscan).cutInto

theorem CutInto.unique (h : CutInto cs ts) (h' : CutInto cs us) : ts = us :=
  Option.some.inj ((cutInto_iff_scan.mp h).symm.trans (cutInto_iff_scan.mp h'))

theorem Spells.cutInto (h : Spells s piece) : CutInto piece [s] := by
  have hcut : CutInto (piece ++ []) [s] := .lexeme h (by cases s <;> trivial) .nil
  rwa [List.append_nil] at hcut

/-- Texts that are cut one by one are cut together, if no word runs on between them. -/
theorem CutInto.append (hfront : CutInto front ts) (hback : CutInto back us)
    (hapart : Apart front back) : CutInto (front ++ back) (ts ++ us) := by
  -- What is cut off the first text leaves its end as it is, unless it was all of the text.
  induction hfront with
  | nil => exact hback
  | @blank c cs ts hblank _ ih =>
    refine .blank hblank (ih ?_)
    cases cs with
    | nil => exact apart_nil_left
    | cons d cs =>
      rw [← List.singleton_append] at hapart
      exact (apart_append_left (by simp)).mp hapart
  | @lexeme s piece rest ts hspells hends _ ih =>
    rw [List.append_assoc, List.cons_append]
    cases rest with
    | nil =>
      rw [List.append_nil] at hapart
      exact .lexeme hspells (hspells.endsBefore hapart) (ih apart_nil_left)
    | cons d rest =>
      have hrest : Apart (d :: rest) back := (apart_append_left (by simp)).mp hapart
      exact .lexeme hspells (by cases s <;> exact hends) (ih hrest)

/-- A text that is cut can be cut off between any two of its symbols. -/
theorem CutInto.exists_append (h : CutInto cs (ts ++ us)) :
    ∃ front back, cs = front ++ back ∧ CutInto front ts ∧ CutInto back us ∧ Apart front back := by
  generalize hvs : ts ++ us = vs at h
  induction h generalizing ts with
  | nil =>
    obtain ⟨rfl, rfl⟩ := List.append_eq_nil_iff.mp hvs
    exact ⟨[], [], rfl, .nil, .nil, apart_nil_left⟩
  | @blank c cs vs hblank _ ih =>
    obtain ⟨front, back, rfl, hfront, hback, hapart⟩ := ih hvs
    refine ⟨c :: front, back, rfl, .blank hblank hfront, hback, ?_⟩
    exact apart_append (apart_of_not_word (isWordChar_of_isBlank hblank)) hapart
  | @lexeme s piece rest vs hspells hends hrest ih =>
    cases ts with
    | nil =>
      obtain rfl : us = s :: vs := hvs
      exact ⟨[], piece ++ rest, rfl, .nil, .lexeme hspells hends hrest, apart_nil_left⟩
    | cons t ts =>
      obtain ⟨rfl, htail⟩ := List.cons.inj hvs
      obtain ⟨front, back, rfl, hfront, hback, hapart⟩ := ih htail
      refine ⟨piece ++ front, back, by simp, .lexeme hspells hends.of_append hfront, hback, ?_⟩
      exact apart_append (hspells.apart hends) hapart

namespace Holds

theorem cutInto (h : Holds front piece back ts s us) :
    CutInto (front ++ piece ++ back) (ts ++ s :: us) := by
  have hback : CutInto (piece ++ back) (s :: us) :=
    .lexeme h.spells (h.spells.endsBefore h.apart_back) h.cut_back
  rw [List.append_assoc]
  exact h.cut_front.append hback ((apart_append_right h.spells.ne_nil).mpr h.apart_front)

/-- A symbol may be spelled another way. -/
theorem respelled (h : Holds front piece back ts s us) (hspells : Spells s piece') :
    Holds front piece' back ts s us where
  cut_front := h.cut_front
  spells := hspells
  cut_back := h.cut_back
  apart_front := h.spells.apart_front hspells h.apart_front
  apart_back := hspells.apart (h.spells.endsBefore h.apart_back)

/-- No word runs on between the texts around a word that is left out. -/
theorem apart (h : Holds front piece back ts (.keyword k) us) : Apart front back :=
  apart_of_endsBefore (h.spells.endsBefore h.apart_back)

end Holds

/-- The query that the symbols of a text derive. -/
def Shows (cs : List Char) (q : Query) : Prop := ∃ ts, CutInto cs ts ∧ DerivesQuery ts q

theorem parse_iff_shows {text : String} : parse (some text) = .ok q ↔ Shows text.toList q := by
  rw [parse_eq_ok_iff]
  constructor
  · rintro ⟨ls, hscan, hq⟩
    exact ⟨symbols ls, (scan_eq_ok_iff.mp hscan).cutInto, hq⟩
  · rintro ⟨ts, hcut, hq⟩
    obtain ⟨ls, hls, rfl⟩ := hcut.exists_cut 0
    exact ⟨ls, scan_eq_ok_iff.mpr hls, hq⟩

theorem Shows.derivesQuery (h : Shows cs q) (hcut : CutInto cs ts) : DerivesQuery ts q := by
  obtain ⟨us, hus, hq⟩ := h
  exact hcut.unique hus ▸ hq

theorem CutInto.enclosed (hfront : CutInto front ts) (hmid : CutInto mid ms)
    (hback : CutInto back us) :
    CutInto (front ++ ('(' :: mid ++ [')']) ++ back)
      (ts ++ (.lparen :: ms ++ [.rparen]) ++ us) := by
  have hclose : CutInto (mid ++ [')']) (ms ++ [.rparen]) :=
    hmid.append Spells.rparen.cutInto (apart_cons_of_not_word (by decide))
  have hopen : CutInto ('(' :: mid ++ [')']) (.lparen :: ms ++ [.rparen]) :=
    Spells.lparen.cutInto.append hclose (apart_of_not_word (by decide))
  refine (hfront.append hopen (apart_cons_of_not_word (by decide))).append hback ?_
  rw [← List.append_assoc]
  exact (apart_append_left (by simp)).mpr (apart_of_not_word (by decide))

/-- A step of variation leaves the query as it is. -/
theorem Varies.shows (h : Varies cs cs') (hq : Shows cs q) : Shows cs' q := by
  cases h with
  | blank hfront hback hapart hblank =>
    refine ⟨_, hfront.append (.blank hblank hback) ?_, hq.derivesQuery (hfront.append hback hapart)⟩
    exact apart_cons_of_not_word (isWordChar_of_isBlank hblank)
  | respelled hholds hspells =>
    exact ⟨_, (hholds.respelled hspells).cutInto, hq.derivesQuery hholds.cutInto⟩
  | dropped hholds hk =>
    exact ⟨_, hholds.cut_front.append hholds.cut_back hholds.apart,
      derivesQuery_of_optional hk (hq.derivesQuery hholds.cutInto)⟩
  | added hholds hadmits =>
    have hplain := hq.derivesQuery (hholds.cut_front.append hholds.cut_back hholds.apart)
    exact ⟨_, hholds.cutInto,
      (derivesQuery_optional_iff hadmits.isOptional hplain).mpr ⟨rfl, hadmits⟩⟩
  | enclosed hfront hmid hback hapart hapart' hpart =>
    have hcut := hfront.append (hmid.append hback hapart') hapart
    rw [← List.append_assoc, ← List.append_assoc] at hcut
    exact ⟨_, hfront.enclosed hmid hback, hpart.derivesQuery_enclosed (hq.derivesQuery hcut)⟩

theorem shows_of_varies (h : Relation.ReflTransGen Varies cs cs') (hq : Shows cs q) :
    Shows cs' q := by
  induction h with
  | refl => exact hq
  | tail _ hstep ih => exact hstep.shows ih

/-- Every part of a condition stands somewhere in a text that is read, and there parentheses can be
put around it. -/
theorem exists_varies_enclosed {text : String} {around : Surrounding} {c : Condition Empty}
    (h : parse (some text) = .ok q) (hc : q.condition = around.fill c) :
    ∃ front part back ms, text.toList = front ++ part ++ back ∧ CutInto part ms ∧
      Derives .condition ms c ∧
      Varies text.toList (front ++ ('(' :: part ++ [')']) ++ back) := by
  obtain ⟨ts, hcut, hq⟩ := parse_iff_shows.mp h
  obtain ⟨before, ms, after, rfl, hpart, hms⟩ := hq.exists_isPart hc
  rw [List.append_assoc] at hcut
  obtain ⟨front, rest, htext, hfront, hrest, hapart⟩ := hcut.exists_append
  obtain ⟨part, back, rfl, hmid, hback, hapart'⟩ := hrest.exists_append
  rw [← List.append_assoc] at htext
  refine ⟨front, part, back, ms, htext, hmid, hms, ?_⟩
  rw [htext]
  exact .enclosed hfront hmid hback hapart hapart' hpart

theorem symbols_filter_isEssential (ls : List Lexeme) :
    symbols (ls.filter fun l => l.symbol.isEssential) = essentials (symbols ls) := by
  rw [essentials, symbols, symbols, List.filter_map]
  rfl

/-- However a text that is parsed is varied, it is parsed to the same query, and it is read to that
query unless too many parentheses are open. Lexemes still make up their query where every word that
can be left out is left out. -/
theorem parse_of_varies :
    (∀ text text' q, parse (some text) = .ok q →
      Relation.ReflTransGen Varies text.toList text'.toList →
      parse (some text') = .ok q ∧
        (read (some text') = .ok q ↔ deepPlace? mostOpen (lexemes text') = none)) ∧
    ∀ stop ls q, Parser.query stop ls = .ok q →
      Parser.query stop (ls.filter fun l => l.symbol.isEssential) = .ok q := by
  constructor
  · intro text text' q hparse hvaries
    have hparse' : parse (some text') = .ok q :=
      parse_iff_shows.mpr (shows_of_varies hvaries (parse_iff_shows.mp hparse))
    refine ⟨hparse', ?_⟩
    rw [read, hparse', Option.getD_some]
    cases deepPlace? mostOpen (lexemes text') <;> simp
  · intro stop ls q hq
    rw [query_eq_ok_iff, symbols_filter_isEssential]
    exact derivesQuery_essentials (query_eq_ok_iff.mp hq)

theorem cutInto_titleA : CutInto "page where title 'A' asc".toList
    [.keyword .page, .keyword .where_, .keyword .title, .string "A", .keyword .asc] :=
  cutInto_iff_scan.mpr (by decide +kernel)

/-- A blank comes first, then the word that can stand before it, then parentheses. -/
theorem varies_titleA :
    Relation.ReflTransGen Varies "page where title 'A' asc".toList
      "GET page where( title 'A') asc".toList := by
  have hget : Spells (.keyword .get) "GET".toList := .keyword (by decide)
  have hpart : IsPart [.keyword .get, .keyword .page, .keyword .where_]
      [.keyword .title, .string "A"] [.keyword .asc] :=
    @IsPart.part [.keyword .get] [] _ [] [.keyword .asc] .page .hole .primary _ _ .present
      (.conjunction (.primary .hole)) (@Derives.leaf [] .title "A" .absent)
      (@DerivesOrder.sorted [] .ascending .absent)
  have hblank : Varies "page where title 'A' asc".toList
      (' ' :: "page where title 'A' asc".toList) :=
    .blank .nil cutInto_titleA apart_nil_left (by decide)
  have hadded : Varies (' ' :: "page where title 'A' asc".toList)
      ("GET".toList ++ ' ' :: "page where title 'A' asc".toList) :=
    .added ⟨.nil, hget, .blank (by decide) cutInto_titleA, apart_nil_left,
      apart_cons_of_not_word (by decide)⟩ (@Admits.get .page _)
  have henclosed : Varies ("GET page where".toList ++ " title 'A'".toList ++ " asc".toList)
      ("GET page where".toList ++ ('(' :: " title 'A'".toList ++ [')']) ++ " asc".toList) :=
    .enclosed (cutInto_iff_scan.mpr (by decide +kernel)) (cutInto_iff_scan.mpr (by decide +kernel))
      (cutInto_iff_scan.mpr (by decide +kernel)) (apart_cons_of_not_word (by decide))
      (apart_cons_of_not_word (by decide)) hpart
  have hfront : "GET".toList ++ ' ' :: "page where title 'A' asc".toList =
      "GET page where".toList ++ " title 'A'".toList ++ " asc".toList := by decide +kernel
  have hback : "GET page where".toList ++ ('(' :: " title 'A'".toList ++ [')']) ++ " asc".toList =
      "GET page where( title 'A') asc".toList := by decide +kernel
  rw [← hfront, hback] at henclosed
  exact ((Relation.ReflTransGen.single hblank).tail hadded).tail henclosed

/-- The lexemes of a text with every word that can be left out. -/
def wordyTitleA : List Lexeme :=
  [⟨.keyword .get, 0⟩, ⟨.keyword .page, 4⟩, ⟨.keyword .where_, 9⟩, ⟨.keyword .title, 15⟩,
    ⟨.keyword .is_, 21⟩, ⟨.string "A", 24⟩, ⟨.keyword .sorted, 28⟩, ⟨.keyword .asc, 35⟩]

theorem parse_of_varies_titleA :
    parse (some "page where title 'A' asc") = .ok ⟨.page, .leaf .title "A", some .ascending⟩ ∧
      Relation.ReflTransGen Varies "page where title 'A' asc".toList
        "GET page where( title 'A') asc".toList ∧
      parse (some "GET page where( title 'A') asc") =
        .ok ⟨.page, .leaf .title "A", some .ascending⟩ ∧
      Parser.query 38 wordyTitleA = .ok ⟨.page, .leaf .title "A", some .ascending⟩ ∧
      Parser.query 38 (wordyTitleA.filter fun l => l.symbol.isEssential) =
        .ok ⟨.page, .leaf .title "A", some .ascending⟩ := by
  have hq : DerivesQuery
      [.keyword .page, .keyword .where_, .keyword .title, .string "A", .keyword .asc]
      ⟨.page, .leaf .title "A", some .ascending⟩ :=
    @DerivesQuery.query [] _ _ .page _ _ .absent (@Derives.leaf [] .title "A" .absent).to_condition
      (@DerivesOrder.sorted [] .ascending .absent)
  have hwordy : DerivesQuery (symbols wordyTitleA) ⟨.page, .leaf .title "A", some .ascending⟩ :=
    @DerivesQuery.query [.keyword .get] _ _ .page _ _ .present
      (@Derives.leaf [.keyword .is_] .title "A" .present).to_condition
      (@DerivesOrder.sorted [.keyword .sorted] .ascending .present)
  have hparse := parse_iff_shows.mpr ⟨_, cutInto_titleA, hq⟩
  have hquery : Parser.query 38 wordyTitleA = _ := query_eq_ok_iff.mpr hwordy
  exact ⟨hparse, varies_titleA, (parse_of_varies.1 _ _ _ hparse varies_titleA).1, hquery,
    parse_of_varies.2 _ _ _ hquery⟩

end WikiGateway.Query
