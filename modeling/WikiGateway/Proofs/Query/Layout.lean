import Mathlib
import WikiGateway.Proofs.Query.Acceptance
import WikiGateway.Proofs.Query.Lexing

/-!
Nothing of a text is lost where it is cut into tokens: it is their spellings and the blanks between
them, and each token has the position at which its spelling starts. A text that is refused is cut up
to the place where no token can start.
-/
namespace WikiGateway.Query

variable {s : Symbol} {c : Char} {cs front piece rest last : List Char} {p : Nat} {ls : List Lexeme}

/-- A lexeme as it is spelled, with the blanks before it. -/
structure Part where
  gap : List Char
  symbol : Symbol
  piece : List Char

namespace Part

def text (x : Part) : List Char := x.gap ++ x.piece

/-- The lexeme that a part holds where it comes after `front`. -/
def lexeme (x : Part) (front : List Char) : Lexeme := ⟨x.symbol, (front ++ x.gap).length⟩

/-- A part between two texts: blanks, then a spelling of its symbol. A word is whole. -/
structure Stands (x : Part) (front back : List Char) : Prop where
  blank : ∀ c ∈ x.gap, isBlank c = true
  spells : Spells x.symbol x.piece
  apart_front : Apart (front ++ x.gap) x.piece
  apart_back : Apart x.piece back

end Part

variable {parts : List Part}

/-- A text after `front` that is `parts`, one after the other, and blanks at its end. These parts
hold `ls`. -/
structure LaidOut (front cs : List Char) (ls : List Lexeme) (parts : List Part)
    (last : List Char) : Prop where
  text_eq : cs = parts.flatMap Part.text ++ last
  blank : ∀ c ∈ last, isBlank c = true
  length_eq : ls.length = parts.length
  stands : ∀ before x after, parts = before ++ x :: after →
    x.Stands (front ++ before.flatMap Part.text) (after.flatMap Part.text ++ last) ∧
      ls[before.length]? = some (x.lexeme (front ++ before.flatMap Part.text))

/-- Lexemes stand in the text that they are cut from, each before the next. -/
theorem Cut.positions (h : Cut p cs ls) :
    (∀ l ∈ ls, p ≤ l.position ∧ l.position < p + cs.length) ∧
      ls.Pairwise (fun l m => l.position < m.position) := by
  induction h with
  | nil => simp
  | @blank p c cs ls _ _ ih =>
    obtain ⟨hwithin, hrising⟩ := ih
    refine ⟨fun l hl => ?_, hrising⟩
    have := hwithin l hl
    simp only [List.length_cons]
    omega
  | @lexeme p s piece rest ls hspells _ _ ih =>
    obtain ⟨hwithin, hrising⟩ := ih
    have hpos : 0 < piece.length := List.length_pos_of_ne_nil hspells.ne_nil
    simp only [List.length_append, List.forall_mem_cons, List.pairwise_cons]
    refine ⟨⟨by omega, fun l hl => ?_⟩, fun l hl => ?_, hrising⟩
    · have := hwithin l hl
      omega
    · have := (hwithin l hl).1
      omega

/-- The tokens of a text stand one after the other. -/
theorem pairwise_position {tokens : List Token} {text : String} (h : tokenize text = .ok tokens) :
    tokens.Pairwise (fun s t => s.position < t.position) := by
  obtain ⟨ls, hscan, rfl⟩ := tokenize_eq_ok_iff.mp h
  obtain ⟨hwithin, hrising⟩ := (scan_eq_ok_iff.mp hscan).positions
  refine List.pairwise_append.mpr ⟨List.pairwise_map.mpr hrising, by simp, ?_⟩
  simpa using fun l hl => (hwithin l hl).2

/-- A blank before a text goes to the gap of its first part or, if it has none, to its end. -/
theorem LaidOut.blank_cons (hc : isBlank c = true) (h : LaidOut (front ++ [c]) cs ls parts last) :
    ∃ parts last, LaidOut front (c :: cs) ls parts last := by
  cases parts with
  | nil =>
    refine ⟨[], c :: last, ?_, ?_, h.length_eq, by simp⟩
    · simpa using h.text_eq
    · simpa [hc] using h.blank
  | cons x parts =>
    refine ⟨⟨c :: x.gap, x.symbol, x.piece⟩ :: parts, last, ?_, h.blank, h.length_eq, ?_⟩
    · simpa [Part.text] using h.text_eq
    · intro before y after hparts
      cases before with
      | nil =>
        obtain ⟨rfl, rfl⟩ := by simpa using hparts
        obtain ⟨hx, hlexeme⟩ := h.stands [] x parts rfl
        refine ⟨⟨by simpa [hc] using hx.blank, hx.spells, ?_, hx.apart_back⟩, ?_⟩
        · simpa using hx.apart_front
        · simpa [Part.lexeme] using hlexeme
      | cons z before =>
        obtain ⟨rfl, rfl⟩ := by simpa using hparts
        simpa [Part.text] using h.stands (x :: before) y after rfl

/-- A lexeme that follows `front` is a part with no gap. -/
theorem LaidOut.lexeme_cons (hspells : Spells s piece) (hends : EndsBefore s rest)
    (hapart : Apart front (piece ++ rest)) (h : LaidOut (front ++ piece) rest ls parts last) :
    LaidOut front (piece ++ rest) (⟨s, front.length⟩ :: ls) (⟨[], s, piece⟩ :: parts) last := by
  refine ⟨by simp [Part.text, ← h.text_eq], h.blank, by simp [h.length_eq], ?_⟩
  intro before y after hparts
  cases before with
  | nil =>
    obtain ⟨rfl, rfl⟩ := by simpa using hparts
    have hfront : Apart front piece := (apart_append_right hspells.ne_nil).mp hapart
    refine ⟨⟨by simp, hspells, by simpa using hfront, ?_⟩, by simp [Part.lexeme]⟩
    exact h.text_eq ▸ hspells.apart hends
  | cons z before =>
    obtain ⟨rfl, rfl⟩ := by simpa using hparts
    simpa [Part.text] using h.stands before y after rfl

/-- A text that is cut is laid out as the lexemes it is cut into. -/
theorem Cut.exists_laidOut (h : Cut p cs ls) (hp : front.length = p) (hapart : Apart front cs) :
    ∃ parts last, LaidOut front cs ls parts last := by
  induction h generalizing front with
  | nil => exact ⟨[], [], rfl, by simp, rfl, by simp⟩
  | @blank p c cs ls hblank _ ih =>
    have hc : Apart (front ++ [c]) cs :=
      (apart_append_left (by simp)).mpr (apart_of_not_word (isWordChar_of_isBlank hblank))
    obtain ⟨parts, last, hlaid⟩ := ih (by simp [hp]) hc
    exact hlaid.blank_cons hblank
  | @lexeme p s piece rest ls hspells hends _ ih =>
    have hpiece : Apart (front ++ piece) rest :=
      (apart_append_left hspells.ne_nil).mpr (hspells.apart hends)
    obtain ⟨parts, last, hlaid⟩ := ih (by simp [hp]) hpiece
    exact ⟨_, last, hp ▸ hlaid.lexeme_cons hspells hends hapart⟩

/-- Every text either is laid out as its tokens, which stand one after the other, the end of the
text last, or is refused where no token can start, and then what comes before that place is cut. -/
theorem tokenize_laidOut_or_breaks (text : String) :
    (∃ tokens ls parts last, tokenize text = .ok tokens ∧
      tokens = ls.map (fun l => ⟨some l.symbol, l.position⟩) ++ [⟨none, text.length⟩] ∧
      tokens.Pairwise (fun s t => s.position < t.position) ∧
      LaidOut [] text.toList ls parts last) ∨
    ∃ e front back, tokenize text = .error e ∧ text.toList = front ++ back ∧
      e.position = front.length ∧ (∃ tokens, tokenize (String.ofList front) = .ok tokens) ∧
      Apart front back ∧ Misfit e.complaint back := by
  obtain ⟨ls, hscan, hcut⟩ | ⟨e, hscan, hbreaks⟩ := scan_cut_or_breaks 0 text.toList
  · left
    have htokens := tokenize_eq_ok_iff.mpr ⟨ls, hscan, rfl⟩
    have hrising := pairwise_position htokens
    obtain ⟨parts, last, hlaid⟩ := hcut.exists_laidOut List.length_nil apart_nil_left
    exact ⟨_, ls, parts, last, htokens, by simp [String.length_toList], hrising, hlaid⟩
  · right
    obtain ⟨front, back, ls, htext, hposition, hcut, hapart, hmisfit⟩ := hbreaks
    refine ⟨e, front, back, ?_, htext, by simpa using hposition, ?_, hapart, hmisfit⟩
    · simp [tokenize, hscan, bind, Except.bind]
    · refine ⟨_, tokenize_eq_ok_iff.mpr ⟨ls, ?_, rfl⟩⟩
      rw [String.toList_ofList]
      exact scan_eq_ok_iff.mpr hcut

end WikiGateway.Query
