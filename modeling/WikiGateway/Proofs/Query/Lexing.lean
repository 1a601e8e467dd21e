import Mathlib
import WikiGateway.Proofs.Query.Derivation

/-!
Texts and their lexemes. A text is cut into lexemes exactly if it is their spellings, one after the
other, with blanks anywhere between them; where a keyword ends, no letter may follow. Any other text
breaks at the first place where no lexeme can start.
-/
namespace WikiGateway.Query

variable {s : Symbol} {k : Keyword} {c : Char} {cs front piece piece' back rest : List Char}
  {p : Nat} {ls : List Lexeme} {e : SyntaxError}

/-- The spellings of a symbol: a string stands in either quote, unless it holds that quote, and the
letters of a keyword are of either case. -/
inductive Spells : Symbol → List Char → Prop
  | lparen : Spells .lparen ['(']
  | rparen : Spells .rparen [')']
  | string {quote : Char} {value : List Char} :
      quote = '"' ∨ quote = '\'' → quote ∉ value →
      Spells (.string (String.ofList value)) (quote :: value ++ [quote])
  | keyword {k : Keyword} {cs : List Char} :
      cs.map Char.toLower = k.word.toList → Spells (.keyword k) cs

/-- Whether a symbol can end before a text. -/
def EndsBefore : Symbol → List Char → Prop
  | .keyword _, c :: _ => isWordChar c = false
  | _, _ => True

/-- The lexemes that a text at some position is cut into. -/
inductive Cut : Nat → List Char → List Lexeme → Prop
  | nil {p : Nat} : Cut p [] []
  | blank {p : Nat} {c : Char} {cs : List Char} {ls : List Lexeme} :
      isBlank c = true → Cut (p + 1) cs ls → Cut p (c :: cs) ls
  | lexeme {p : Nat} {s : Symbol} {piece rest : List Char} {ls : List Lexeme} :
      Spells s piece → EndsBefore s rest → Cut (p + piece.length) rest ls →
      Cut p (piece ++ rest) (⟨s, p⟩ :: ls)

/-- No word runs on from one text into the next. -/
def Apart (front back : List Char) : Prop :=
  ∀ c ∈ front.getLast?, ∀ d ∈ back.head?, isWordChar c = true → isWordChar d = false

/-- What is wrong with a text at whose start no lexeme stands. -/
inductive Misfit : Complaint → List Char → Prop
  | openString {quote : Char} {back : List Char} :
      quote = '"' ∨ quote = '\'' → quote ∉ back → Misfit .unterminatedString (quote :: back)
  | unknownWord {word back : List Char} :
      word ≠ [] → (∀ c ∈ word, isWordChar c = true) → Apart word back →
      (∀ k : Keyword, word.map Char.toLower ≠ k.word.toList) →
      Misfit (.unknownKeyword (String.ofList word)) (word ++ back)
  | stray {c : Char} {back : List Char} :
      isBlank c = false → c ∉ ['(', ')', '"', '\''] → isWordChar c = false →
      Misfit (.unexpectedCharacter c) (c :: back)

/-- An error of a text at some position: what comes before it can be cut, and where it stands no
lexeme can start. -/
def Breaks (p : Nat) (e : SyntaxError) (cs : List Char) : Prop :=
  ∃ front back ls, cs = front ++ back ∧ e.position = p + front.length ∧ Cut p front ls ∧
    Apart front back ∧ Misfit e.complaint back

theorem isWordChar_range (h : isWordChar c = true) : 65 ≤ c.val.toNat ∧ c.val.toNat ≤ 122 := by
  simp only [isWordChar, Char.isAlpha, Char.isUpper, Char.isLower, Bool.or_eq_true,
    Bool.and_eq_true, decide_eq_true_eq, beq_iff_eq, UInt32.le_iff_toNat_le, ge_iff_le] at h
  have hZ : 'Z'.val.toNat = 90 := rfl
  have ha : 'a'.val.toNat = 97 := rfl
  rcases h with (⟨hlow, hhigh⟩ | ⟨hlow, hhigh⟩) | rfl
  · exact ⟨hlow, by omega⟩
  · exact ⟨by omega, hhigh⟩
  · decide

/-- What starts a word starts nothing else. -/
theorem starts_only_word (h : isWordChar c = true) :
    isBlank c = false ∧ c ≠ '(' ∧ c ≠ ')' ∧ ¬ (c = '"' ∨ c = '\'') := by
  obtain ⟨hlow, hhigh⟩ := isWordChar_range h
  refine ⟨?_, ?_, ?_, ?_⟩
  · simp only [isBlank, Bool.or_eq_false_iff, Bool.and_eq_false_iff, decide_eq_false_iff_not,
      beq_eq_false_iff_ne]
    omega
  · rintro rfl
    revert hlow
    decide
  · rintro rfl
    revert hlow
    decide
  · rintro (rfl | rfl) <;> revert hlow <;> decide

theorem isWordChar_of_toLower (h : c.toLower.isLower = true) : isWordChar c = true := by
  rw [Char.toLower] at h
  split at h
  · rename_i hupper
    have hletter : c.isUpper = true := by simpa [Char.isUpper] using hupper
    simp [isWordChar, Char.isAlpha, hletter]
  · simp [isWordChar, Char.isAlpha, h]

/-- A word that spells a keyword is made of letters. -/
theorem isWordChar_of_mem_keyword (hcs : cs.map Char.toLower = k.word.toList) (h : c ∈ cs) :
    isWordChar c = true := by
  have hmem : c.toLower ∈ k.word.toList := hcs ▸ List.mem_map_of_mem h
  have hlower : k.word.toList.all Char.isLower = true := by cases k <;> decide
  exact isWordChar_of_toLower (List.all_eq_true.mp hlower _ hmem)

theorem ofWord?_eq_some : Keyword.ofWord? cs = some k ↔ cs.map Char.toLower = k.word.toList := by
  constructor
  · intro h
    simpa [eq_comm] using List.find?_some h
  · intro h
    have hinj (k' : Keyword) : k'.word.toList = k.word.toList → k' = k := by
      cases k <;> cases k' <;> decide
    cases hfound : Keyword.ofWord? cs with
    | none =>
      have hmissed := List.find?_eq_none.mp hfound k (Keyword.mem_all k)
      simp [h] at hmissed
    | some k' =>
      have hk' : k'.word.toList = cs.map Char.toLower := by simpa using List.find?_some hfound
      rw [hinj k' (hk'.trans h)]

theorem splitAtQuote_append {quote : Char} {value : List Char} (h : quote ∉ value) :
    splitAtQuote quote (value ++ quote :: rest) = some (value, rest) := by
  induction value with
  | nil => simp [splitAtQuote]
  | cons c value ih =>
    obtain ⟨hc, hvalue⟩ : quote ≠ c ∧ quote ∉ value := by simpa using h
    simp [splitAtQuote, Ne.symm hc, ih hvalue]

theorem scan_string {quote : Char} {value : List Char} (hquote : quote = '"' ∨ quote = '\'')
    (hvalue : quote ∉ value) :
    scan p (quote :: (value ++ quote :: rest)) =
      (scan (p + value.length + 2) rest).map (⟨.string (String.ofList value), p⟩ :: ·) := by
  have hother : isBlank quote = false ∧ quote ≠ '(' ∧ quote ≠ ')' := by
    rcases hquote with rfl | rfl <;> decide
  obtain ⟨hblank, hl, hr⟩ := hother
  rw [scan, if_neg (by simp [hblank]), if_neg hl, if_neg hr, if_pos hquote]
  split
  · rename_i hnone
    rw [splitAtQuote_append hvalue] at hnone
    cases hnone
  · rename_i hsome
    rw [splitAtQuote_append hvalue] at hsome
    cases hsome
    rfl

theorem scan_keyword (hc : isWordChar c = true)
    (hword : Keyword.ofWord? (c :: cs.takeWhile isWordChar) = some k) :
    scan p (c :: cs) = (scan (p + (c :: cs.takeWhile isWordChar).length)
      (cs.dropWhile isWordChar)).map (⟨.keyword k, p⟩ :: ·) := by
  obtain ⟨hblank, hl, hr, hquote⟩ := starts_only_word hc
  rw [scan, if_neg (by simp [hblank]), if_neg hl, if_neg hr, if_neg hquote, if_pos hc]
  simp only [hword]
  rfl

/-- A word that ends where it should is taken whole. -/
theorem takeWhile_append_of_endsBefore (hletters : ∀ x ∈ cs, isWordChar x = true)
    (hends : EndsBefore (.keyword k) rest) :
    (cs ++ rest).takeWhile isWordChar = cs ∧ (cs ++ rest).dropWhile isWordChar = rest := by
  rw [List.takeWhile_append_of_pos hletters, List.dropWhile_append_of_pos hletters]
  cases rest with
  | nil => exact ⟨List.append_nil cs, rfl⟩
  | cons c rest =>
    have hc : isWordChar c = false := hends
    simp [hc]

theorem endsBefore_dropWhile (k : Keyword) (cs : List Char) :
    EndsBefore (.keyword k) (cs.dropWhile isWordChar) := by
  cases hdrop : cs.dropWhile isWordChar with
  | nil => trivial
  | cons d ds =>
    have hd := List.head_dropWhile_not isWordChar (l := cs) (by simp [hdrop])
    simp only [hdrop] at hd
    exact hd

/-- A spelled symbol is read as such, and reading goes on after it. -/
theorem scan_spelled (h : Spells s piece) (hends : EndsBefore s rest) :
    scan p (piece ++ rest) = (scan (p + piece.length) rest).map (⟨s, p⟩ :: ·) := by
  cases h with
  | lparen =>
    rw [List.singleton_append, scan, if_neg (by decide), if_pos rfl]
    rfl
  | rparen =>
    rw [List.singleton_append, scan, if_neg (by decide), if_neg (by decide), if_pos rfl]
    rfl
  | @string quote value hquote hvalue =>
    have hlength : (quote :: value ++ [quote]).length = value.length + 2 := by simp
    have htext : quote :: value ++ [quote] ++ rest = quote :: (value ++ quote :: rest) := by simp
    rw [htext, hlength]
    exact scan_string hquote hvalue
  | @keyword k _ hword =>
    have hletters (c : Char) (hc : c ∈ piece) : isWordChar c = true :=
      isWordChar_of_mem_keyword hword hc
    cases piece with
    | nil => cases k <;> simp [Keyword.word] at hword
    | cons c cs =>
      obtain ⟨htake, hdrop⟩ := takeWhile_append_of_endsBefore
        (fun x hx => hletters x (List.mem_cons_of_mem c hx)) hends
      have hread : Keyword.ofWord? (c :: (cs ++ rest).takeWhile isWordChar) = some k := by
        rw [htake]
        exact ofWord?_eq_some.mpr hword
      rw [List.cons_append, scan_keyword (hletters c List.mem_cons_self) hread, htake, hdrop]

@[simp]
theorem apart_nil_left : Apart [] back := by simp [Apart]

@[simp]
theorem apart_nil_right : Apart front [] := by simp [Apart]

theorem apart_append_left (h : piece ≠ []) : Apart (front ++ piece) back ↔ Apart piece back := by
  simp [Apart, List.getLast?_append_of_ne_nil front h]

theorem apart_append_right (h : piece ≠ []) : Apart front (piece ++ back) ↔ Apart front piece := by
  simp [Apart, List.head?_append_of_ne_nil piece h]

theorem apart_of_not_word (h : isWordChar c = false) : Apart [c] back := by simp [Apart, h]

theorem apart_cons_of_not_word (h : isWordChar c = false) : Apart front (c :: back) := by
  rintro d - _ ⟨rfl⟩ -
  exact h

theorem apart_append (hpiece : Apart piece (front ++ back)) (hfront : Apart front back) :
    Apart (piece ++ front) back := by
  cases front with
  | nil => simpa using hpiece
  | cons c front => exact (apart_append_left (by simp)).mpr hfront

theorem apart_of_endsBefore (h : EndsBefore (.keyword k) back) : Apart front back := by
  cases back with
  | nil => exact apart_nil_right
  | cons d back => exact apart_cons_of_not_word h

theorem isWordChar_of_isBlank (h : isBlank c = true) : isWordChar c = false := by
  cases hc : isWordChar c with
  | false => rfl
  | true => simp [(starts_only_word hc).1] at h

theorem Spells.ne_nil (h : Spells s piece) : piece ≠ [] := by
  cases h with
  | lparen => simp
  | rparen => simp
  | string => simp
  | @keyword k _ hword =>
    rintro rfl
    cases k <;> simp [Keyword.word] at hword

/-- A lexeme that ends where it can runs on into nothing. -/
theorem Spells.apart (h : Spells s piece) (hends : EndsBefore s rest) : Apart piece rest := by
  cases h with
  | lparen => exact apart_of_not_word (by decide)
  | rparen => exact apart_of_not_word (by decide)
  | @string quote value hquote _ =>
    refine (apart_append_left (by simp)).mpr (apart_of_not_word ?_)
    rcases hquote with rfl | rfl <;> decide
  | keyword => exact apart_of_endsBefore hends

theorem Spells.isWordChar_of_mem (h : Spells (.keyword k) piece) (hc : c ∈ piece) :
    isWordChar c = true := by
  cases h with
  | keyword hword => exact isWordChar_of_mem_keyword hword hc

/-- A symbol ends before a text into which no word runs on from it. -/
theorem Spells.endsBefore (h : Spells s piece) (hapart : Apart piece back) : EndsBefore s back := by
  cases s with
  | keyword k =>
    cases back with
    | nil => trivial
    | cons d back =>
      have hlast := h.isWordChar_of_mem (List.getLast_mem h.ne_nil)
      exact hapart _ (List.getLast_mem_getLast? h.ne_nil) d rfl hlast
  | _ => trivial

/-- Where a symbol can start depends on no more than the symbol. -/
theorem Spells.apart_front (h : Spells s piece) (h' : Spells s piece')
    (hapart : Apart front piece) : Apart front piece' := by
  cases s with
  | keyword k =>
    obtain ⟨c, cs, rfl⟩ := List.exists_cons_of_ne_nil h.ne_nil
    intro d hd _ _ hword
    have hc := hapart d hd c rfl hword
    rw [h.isWordChar_of_mem List.mem_cons_self] at hc
    cases hc
  | lparen =>
    cases h'
    exact apart_cons_of_not_word (by decide)
  | rparen =>
    cases h'
    exact apart_cons_of_not_word (by decide)
  | string v =>
    cases h' with
    | string hquote =>
      refine apart_cons_of_not_word ?_
      rcases hquote with rfl | rfl <;> decide

theorem EndsBefore.of_append (h : EndsBefore s (front ++ back)) : EndsBefore s front := by
  cases front with
  | nil => cases s <;> trivial
  | cons c front => cases s <;> exact h

theorem Misfit.breaks {complaint : Complaint} (h : Misfit complaint cs) :
    Breaks p ⟨complaint, p⟩ cs :=
  ⟨[], cs, [], rfl, rfl, .nil, apart_nil_left, h⟩

theorem Breaks.blank_cons (hc : isBlank c = true) (h : Breaks (p + 1) e cs) :
    Breaks p e (c :: cs) := by
  obtain ⟨front, back, ls, rfl, hposition, hcut, hapart, hmisfit⟩ := h
  refine ⟨c :: front, back, ls, rfl, ?_, .blank hc hcut, ?_, hmisfit⟩
  · simp only [List.length_cons]
    omega
  · exact apart_append (apart_of_not_word (isWordChar_of_isBlank hc)) hapart

theorem Breaks.lexeme_append (hspells : Spells s piece) (hends : EndsBefore s rest)
    (h : Breaks (p + piece.length) e rest) : Breaks p e (piece ++ rest) := by
  obtain ⟨front, back, ls, rfl, hposition, hcut, hapart, hmisfit⟩ := h
  refine ⟨piece ++ front, back, _, by simp, ?_, .lexeme hspells hends.of_append hcut, ?_, hmisfit⟩
  · simp only [List.length_append]
    omega
  · exact apart_append (hspells.apart hends) hapart

/-- What comes next in a text: a blank, a lexeme that ends where it can, or what is refused. -/
theorem scan_cons_cases (p : Nat) (c : Char) (cs : List Char) :
    isBlank c = true ∨
      (∃ s piece rest, c :: cs = piece ++ rest ∧ Spells s piece ∧ EndsBefore s rest) ∨
      ∃ complaint, Misfit complaint (c :: cs) ∧ scan p (c :: cs) = .error ⟨complaint, p⟩ := by
  by_cases hblank : isBlank c = true
  · exact .inl hblank
  refine .inr ?_
  by_cases hl : c = '('
  · exact .inl ⟨.lparen, ['('], cs, by rw [hl]; rfl, .lparen, trivial⟩
  by_cases hr : c = ')'
  · exact .inl ⟨.rparen, [')'], cs, by rw [hr]; rfl, .rparen, trivial⟩
  by_cases hquote : c = '"' ∨ c = '\''
  · cases hsplit : splitAtQuote c cs with
    | none =>
      refine .inr ⟨_, .openString hquote (splitAtQuote_eq_none.mp hsplit), ?_⟩
      rw [scan, if_neg hblank, if_neg hl, if_neg hr, if_pos hquote]
      split
      · rfl
      · simp_all
    | some split =>
      obtain ⟨rfl, hinside⟩ := splitAtQuote_eq_some hsplit
      exact .inl ⟨_, c :: split.1 ++ [c], split.2, by simp, .string hquote hinside, trivial⟩
  by_cases hword : isWordChar c = true
  · have hcs : c :: cs = c :: cs.takeWhile isWordChar ++ cs.dropWhile isWordChar := by simp
    cases hk : Keyword.ofWord? (c :: cs.takeWhile isWordChar) with
    | none =>
      refine .inr ⟨.unknownKeyword (String.ofList (c :: cs.takeWhile isWordChar)), ?_, ?_⟩
      · rw [hcs]
        refine .unknownWord (by simp) ?_ (apart_of_endsBefore (endsBefore_dropWhile .get cs)) ?_
        · simpa [hword] using fun d hd => List.mem_takeWhile_imp hd
        · intro k hspelled
          rw [ofWord?_eq_some.mpr hspelled] at hk
          cases hk
      · rw [scan, if_neg hblank, if_neg hl, if_neg hr, if_neg hquote, if_pos hword]
        simp only [hk]
    | some k =>
      have hspells := Spells.keyword (ofWord?_eq_some.mp hk)
      exact .inl ⟨.keyword k, _, _, hcs, hspells, endsBefore_dropWhile k cs⟩
  · have hother : c ∉ ['(', ')', '"', '\''] := by simp_all
    have hmisfit : Misfit (.unexpectedCharacter c) (c :: cs) :=
      .stray (by simpa using hblank) hother (by simpa using hword)
    refine .inr ⟨_, hmisfit, ?_⟩
    rw [scan, if_neg hblank, if_neg hl, if_neg hr, if_neg hquote, if_neg hword]

/-- A text is cut as it is read, or it breaks where reading breaks off. -/
theorem scan_cut_or_breaks (p : Nat) (cs : List Char) :
    (∃ ls, scan p cs = .ok ls ∧ Cut p cs ls) ∨ ∃ e, scan p cs = .error e ∧ Breaks p e cs := by
  -- What is read next may be a whole lexeme, so the induction is on the length of the text.
  induction hn : cs.length using Nat.strong_induction_on generalizing p cs with
  | h n ih =>
    subst hn
    cases cs with
    | nil => exact .inl ⟨[], scan_nil p, .nil⟩
    | cons c cs =>
      rcases scan_cons_cases p c cs with
        hblank | ⟨s, piece, rest, hcs, hspells, hends⟩ | ⟨complaint, hmisfit, herror⟩
      · rw [scan_cons_of_isBlank hblank]
        rcases ih cs.length (by simp) (p + 1) cs rfl with ⟨ls, hls, hcut⟩ | ⟨e, he, hbreaks⟩
        · exact .inl ⟨ls, hls, .blank hblank hcut⟩
        · exact .inr ⟨e, he, hbreaks.blank_cons hblank⟩
      · have hshorter : rest.length < (c :: cs).length := by
          rw [hcs, List.length_append]
          have := List.length_pos_of_ne_nil hspells.ne_nil
          omega
        rw [hcs, scan_spelled hspells hends]
        rcases ih rest.length hshorter (p + piece.length) rest rfl with
          ⟨ls, hls, hcut⟩ | ⟨e, he, hbreaks⟩
        · exact .inl ⟨_, by rw [hls]; rfl, .lexeme hspells hends hcut⟩
        · exact .inr ⟨e, by rw [he]; rfl, hbreaks.lexeme_append hspells hends⟩
      · exact .inr ⟨_, herror, hmisfit.breaks⟩

theorem cut_of_scan (h : scan p cs = .ok ls) : Cut p cs ls := by
  obtain ⟨ls', hls, hcut⟩ | ⟨e, he, -⟩ := scan_cut_or_breaks p cs
  · rw [h] at hls
    exact Except.ok.inj hls ▸ hcut
  · rw [h] at he
    cases he

/-- A text is read exactly as it can be cut. -/
theorem scan_eq_ok_iff : scan p cs = .ok ls ↔ Cut p cs ls := by
  constructor
  · exact cut_of_scan
  · intro h
    induction h with
    | nil => exact scan_nil _
    | blank hblank _ ih => rw [scan_cons_of_isBlank hblank, ih]
    | lexeme hspells hends _ ih =>
      rw [scan_spelled hspells hends, ih]
      rfl

/-- A string of a text that is cut lacks one of the quotes. -/
theorem Cut.quotable {v : String} (h : Cut p cs ls) (hv : .string v ∈ symbols ls) :
    '"' ∉ v.toList ∨ '\'' ∉ v.toList := by
  induction h with
  | nil => simp at hv
  | blank _ _ ih => exact ih hv
  | @lexeme p s piece rest ls hspells hends _ ih =>
    rw [symbols_cons, List.mem_cons] at hv
    rcases hv with rfl | hv
    · cases hspells with
      | string hquote hvalue =>
        rw [String.toList_ofList]
        rcases hquote with rfl | rfl
        · exact .inl hvalue
        · exact .inr hvalue
    · exact ih hv

/-- Spellings with a blank between each two are cut into what they spell. -/
theorem exists_cut_spaced {ts : List Symbol} {pieces : List (List Char)}
    (h : List.Forall₂ Spells ts pieces) (p : Nat) :
    ∃ ls, Cut p ([' '].intercalate pieces) ls ∧ symbols ls = ts := by
  induction h generalizing p with
  | nil => exact ⟨[], .nil, rfl⟩
  | @cons s piece ts pieces hspells hrest ih =>
    cases hrest with
    | nil =>
      refine ⟨[⟨s, p⟩], ?_, rfl⟩
      have hcut : Cut p (piece ++ []) [⟨s, p⟩] := .lexeme hspells (by cases s <;> trivial) .nil
      simpa using hcut
    | @cons s' piece' ts' pieces' =>
      obtain ⟨ls, hls, hsymbols⟩ := ih (p + piece.length + 1)
      refine ⟨⟨s, p⟩ :: ls, ?_, by rw [symbols_cons, hsymbols]⟩
      rw [List.intercalate_cons_cons, List.append_assoc]
      exact .lexeme hspells (by cases s <;> trivial) (.blank (by decide) hls)

end WikiGateway.Query
