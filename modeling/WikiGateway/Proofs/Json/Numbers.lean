import Mathlib.Data.List.Basic
import WikiGateway.Json.Reader
import WikiGateway.Json.Writer

/-! A number is read the same wherever it stands: what comes after it in a list or an object belongs
to no number, and the text of a finite number starts like no other value. -/
namespace WikiGateway.Json

variable {room fuel : Nat} {cs rest : List Char} {c : Char} {x : Float}

/-- What comes after a value inside another one starts with a comma or a closing bracket. -/
def Delimited (rest : List Char) : Prop := ∀ c ∈ rest.head?, c = ',' ∨ c = ']' ∨ c = '\x7d'

theorem delimited_nil : Delimited [] := by simp [Delimited]

theorem takeWhile_append {p : Char → Bool} (hcomma : p ',' = false) (hbracket : p ']' = false)
    (hbrace : p '\x7d' = false) (h : Delimited rest) (cs : List Char) :
    (cs ++ rest).takeWhile p = cs.takeWhile p := by
  have hnone : rest.takeWhile p = [] := by
    cases rest with
    | nil => rfl
    | cons c rest =>
      rcases h c rfl with rfl | rfl | rfl
      · rw [List.takeWhile_cons, hcomma]; rfl
      · rw [List.takeWhile_cons, hbracket]; rfl
      · rw [List.takeWhile_cons, hbrace]; rfl
  induction cs with
  | nil => exact hnone
  | cons c cs ih =>
    rw [List.cons_append, List.takeWhile_cons, List.takeWhile_cons, ih]

theorem takeWhile_digits_append (h : Delimited rest) (cs : List Char) :
    (cs ++ rest).takeWhile Char.isDigit = cs.takeWhile Char.isDigit :=
  takeWhile_append (by decide) (by decide) (by decide) h cs

/-- The digits before the point: a zero, or all that there are. -/
def wholeDigits (cs : List Char) : List Char :=
  match cs with
  | '0' :: _ => ['0']
  | _ => cs.takeWhile Char.isDigit

theorem length_wholeDigits_le (cs : List Char) : (wholeDigits cs).length ≤ cs.length := by
  rw [wholeDigits.eq_def]
  split
  · simp
  · exact (List.takeWhile_prefix _).length_le

theorem wholeDigits_append (h : Delimited rest) (cs : List Char) :
    wholeDigits (cs ++ rest) = wholeDigits cs := by
  have hdigits := takeWhile_digits_append h cs
  rw [wholeDigits.eq_def, wholeDigits.eq_def cs]
  cases cs with
  | nil =>
    rw [List.nil_append] at hdigits ⊢
    split
    · rcases h '0' rfl with hc | hc | hc <;> cases hc
    · exact hdigits
  | cons c cs =>
    rw [List.cons_append] at hdigits ⊢
    by_cases hc : c = '0'
    · subst hc
      rfl
    · simp only [hdigits]
      split <;> simp_all

theorem length_fractionDigits_lt (h : (fractionDigits cs).isEmpty = false) :
    (fractionDigits cs).length + 1 ≤ cs.length := by
  rw [fractionDigits.eq_def] at h ⊢
  split at h
  · exact Nat.succ_le_succ (List.takeWhile_prefix _).length_le
  · cases h

theorem fractionDigits_append (h : Delimited rest) (cs : List Char) :
    fractionDigits (cs ++ rest) = fractionDigits cs := by
  rw [fractionDigits.eq_def, fractionDigits.eq_def cs]
  cases cs with
  | nil =>
    rw [List.nil_append]
    split
    · rcases h '.' rfl with hc | hc | hc <;> cases hc
    · rfl
  | cons c cs =>
    rw [List.cons_append]
    have hdigits := takeWhile_digits_append h cs
    split <;> simp_all

/-- The sign of an exponent, and what follows it. -/
def exponentSign : List Char → List Char × List Char
  | '-' :: after => (['-'], after)
  | '+' :: after => (['+'], after)
  | after => ([], after)

theorem exponentSign_append (h : Delimited rest) (cs : List Char) :
    exponentSign (cs ++ rest) = ((exponentSign cs).1, (exponentSign cs).2 ++ rest) := by
  cases cs with
  | nil =>
    rw [List.nil_append, exponentSign.eq_def]
    split
    · rcases h '-' rfl with hc | hc | hc <;> cases hc
    · rcases h '+' rfl with hc | hc | hc <;> cases hc
    · rfl
  | cons c cs =>
    rw [List.cons_append, exponentSign.eq_def, exponentSign.eq_def (c :: cs)]
    split <;> simp_all

theorem length_exponentSign (cs : List Char) :
    (exponentSign cs).1.length + (exponentSign cs).2.length = cs.length := by
  rw [exponentSign.eq_def]
  split
  · exact Nat.add_comm _ _
  · exact Nat.add_comm _ _
  · exact Nat.zero_add _

theorem exponentPart_cons (mark : Char) (cs : List Char) : exponentPart (mark :: cs) =
    if mark = 'e' ∨ mark = 'E' then
      if ((exponentSign cs).2.takeWhile Char.isDigit).isEmpty then []
      else 'e' :: ((exponentSign cs).1 ++ (exponentSign cs).2.takeWhile Char.isDigit)
    else [] := rfl

theorem length_exponentPart_le (cs : List Char) : (exponentPart cs).length ≤ cs.length := by
  cases cs with
  | nil => exact Nat.le_refl 0
  | cons mark cs =>
    have hdigits := (List.takeWhile_prefix (l := (exponentSign cs).2) Char.isDigit).length_le
    have hsign := length_exponentSign cs
    rw [exponentPart_cons]
    split
    · split
      · exact Nat.zero_le _
      · rw [List.length_cons, List.length_cons, List.length_append]
        omega
    · exact Nat.zero_le _

theorem exponentPart_append (h : Delimited rest) (cs : List Char) :
    exponentPart (cs ++ rest) = exponentPart cs := by
  cases cs with
  | nil =>
    cases rest with
    | nil => rfl
    | cons c rest =>
      have hmark : ¬ (c = 'e' ∨ c = 'E') := by
        rcases h c rfl with rfl | rfl | rfl <;> decide
      rw [List.nil_append, exponentPart_cons, if_neg hmark]
      rfl
  | cons mark cs =>
    rw [List.cons_append, exponentPart_cons, exponentPart_cons, exponentSign_append h,
      takeWhile_digits_append h]

/-- What follows the digits before the point, and the fraction. -/
def afterWhole (cs : List Char) : List Char := cs.drop (wholeDigits cs).length

def afterFraction (cs : List Char) : List Char :=
  if (fractionDigits cs).isEmpty then cs else cs.drop ((fractionDigits cs).length + 1)

def afterExponent (cs : List Char) : List Char := cs.drop (exponentPart cs).length

/-- The number of digits before and after a point, and of an exponent. -/
def numberOf (negative : Bool) (whole fraction exponent : List Char) : Except ReadError Json :=
  if whole.isEmpty then .error .syntaxError
  else if fraction.isEmpty ∧ exponent.isEmpty then
    if maxDigits < whole.length then .error .tooManyDigits
    else
      let n : Int := Decimal.digitsToNat whole
      .ok (int (if negative then -n else n))
  else
    let e := (Decimal.exponent? exponent).getD 0
    let x := Decimal.toFloat (Decimal.digitsToNat (whole ++ fraction)) (e - fraction.length)
    .ok (float (if negative then -x else x))

theorem readNumber_eq (negative : Bool) (cs : List Char) : readNumber negative cs =
    (numberOf negative (wholeDigits cs) (fractionDigits (afterWhole cs))
      (exponentPart (afterFraction (afterWhole cs)))).map
        (·, afterExponent (afterFraction (afterWhole cs))) := by
  have hread : readNumber negative cs =
      if (wholeDigits cs).isEmpty then .error .syntaxError
      else if (fractionDigits (afterWhole cs)).isEmpty ∧
          (exponentPart (afterFraction (afterWhole cs))).isEmpty then
        if maxDigits < (wholeDigits cs).length then .error .tooManyDigits
        else
          let n : Int := Decimal.digitsToNat (wholeDigits cs)
          .ok (int (if negative then -n else n), afterExponent (afterFraction (afterWhole cs)))
      else
        let e := (Decimal.exponent? (exponentPart (afterFraction (afterWhole cs)))).getD 0
        let x := Decimal.toFloat
          (Decimal.digitsToNat (wholeDigits cs ++ fractionDigits (afterWhole cs)))
          (e - (fractionDigits (afterWhole cs)).length)
        .ok (float (if negative then -x else x),
          afterExponent (afterFraction (afterWhole cs))) := rfl
  rw [hread, numberOf]
  split
  · rfl
  · split
    · split <;> rfl
    · rfl

theorem afterWhole_append (h : Delimited rest) (cs : List Char) :
    afterWhole (cs ++ rest) = afterWhole cs ++ rest := by
  rw [afterWhole, wholeDigits_append h, List.drop_append_of_le_length (length_wholeDigits_le cs)]
  rfl

theorem afterFraction_append (h : Delimited rest) (cs : List Char) :
    afterFraction (cs ++ rest) = afterFraction cs ++ rest := by
  rw [afterFraction, afterFraction, fractionDigits_append h]
  cases hempty : (fractionDigits cs).isEmpty with
  | true => rfl
  | false => exact List.drop_append_of_le_length (length_fractionDigits_lt hempty)

theorem afterExponent_append (h : Delimited rest) (cs : List Char) :
    afterExponent (cs ++ rest) = afterExponent cs ++ rest := by
  rw [afterExponent, exponentPart_append h,
    List.drop_append_of_le_length (length_exponentPart_le cs)]
  rfl

/-- What is read as a number is read as that number before anything that belongs to none. -/
theorem readNumber_append {negative : Bool} {v : Json} {left : List Char}
    (hread : readNumber negative cs = .ok (v, left)) (h : Delimited rest) :
    readNumber negative (cs ++ rest) = .ok (v, left ++ rest) := by
  rw [readNumber_eq] at hread ⊢
  rw [afterWhole_append h, afterFraction_append h, afterExponent_append h, wholeDigits_append h,
    fractionDigits_append h, exponentPart_append h]
  cases hnumber : numberOf negative (wholeDigits cs) (fractionDigits (afterWhole cs))
    (exponentPart (afterFraction (afterWhole cs))) with
  | error e =>
    rw [hnumber] at hread
    cases hread
  | ok w =>
    rw [hnumber] at hread
    cases hread
    rfl

theorem ne_of_isDigit {a : Char} (h : c.isDigit = true) (ha : a.isDigit = false) : c ≠ a := by
  rintro rfl
  rw [h] at ha
  cases ha

theorem words_start : ∀ word ∈ words.map Prod.fst, ∃ a b cs, word.toList = a :: b :: cs ∧
    a.isDigit = false ∧ b.isDigit = false := by
  simp [words]

theorem readWord?_eq_none (h : ∀ word ∈ words.map Prod.fst, word.toList.isPrefixOf cs = false) :
    readWord? cs = none := by
  rw [readWord?, List.findSome?_eq_none_iff]
  intro p hp
  have hword := h p.1 (List.mem_map_of_mem hp)
  simp only [after?, hword, Bool.false_eq_true, if_false, Option.map_none]

/-- No word starts like a number. -/
theorem readWord?_digit (h : c.isDigit = true) (cs : List Char) : readWord? (c :: cs) = none := by
  refine readWord?_eq_none fun word hword => ?_
  obtain ⟨a, b, tail, htext, ha, -⟩ := words_start word hword
  rw [htext, List.isPrefixOf_cons_cons, beq_eq_false_iff_ne.mpr (ne_of_isDigit h ha).symm,
    Bool.false_and]

theorem readWord?_minus (h : c.isDigit = true) (cs : List Char) :
    readWord? ('-' :: c :: cs) = none := by
  refine readWord?_eq_none fun word hword => ?_
  obtain ⟨a, b, tail, htext, -, hb⟩ := words_start word hword
  rw [htext, List.isPrefixOf_cons_cons, List.isPrefixOf_cons_cons,
    beq_eq_false_iff_ne.mpr (ne_of_isDigit h hb).symm, Bool.false_and, Bool.and_false]

theorem readValue_digit (h : c.isDigit = true) (cs : List Char) :
    readValue room (fuel + 1) (c :: cs) = readNumber false (c :: cs) := by
  have hquote := ne_of_isDigit h (a := '"') (by decide)
  have hbracket := ne_of_isDigit h (a := '[') (by decide)
  have hbrace := ne_of_isDigit h (a := '\x7b') (by decide)
  have hminus := ne_of_isDigit h (a := '-') (by decide)
  rw [readValue.eq_def]
  simp [readWord?_digit h cs, hquote, hbracket, hbrace, hminus]

theorem readValue_minus (h : c.isDigit = true) (cs : List Char) :
    readValue room (fuel + 1) ('-' :: c :: cs) = readNumber true (c :: cs) := by
  rw [readValue.eq_def]
  simp [readWord?_minus h cs]

/-- The text of a number is read as that number, to its end. -/
def ReadsBack (x : Float) : Prop :=
  readValue 0 1 (write (.float x)).toList = .ok (.float x, [])

theorem toList_append_of_cons {s : String} {c : Char} {cs : List Char} (h : s.toList = c :: cs)
    (t : String) : (s ++ t).toList = c :: (cs ++ t.toList) := by
  rw [String.toList_append, h, List.cons_append]

theorem exists_digit (n : Nat) : ∃ c cs, c.isDigit = true ∧ (toString n).toList = c :: cs := by
  have hdigits : (toString n).toList = Nat.toDigits 10 n := Nat.toList_repr
  cases hlist : Nat.toDigits 10 n with
  | nil => exact absurd hlist Nat.toDigits_ne_nil
  | cons c cs =>
    have hmem : c ∈ Nat.toDigits 10 n := hlist ▸ List.mem_cons_self
    exact ⟨c, cs, Nat.isDigit_of_mem_toDigits (by decide) (by decide) hmem, hdigits.trans hlist⟩

theorem exists_digit_text (d : Decimal.Scientific) :
    ∃ c cs, c.isDigit = true ∧ d.text.toList = c :: cs := by
  obtain ⟨c, cs, hdigit, hdigits⟩ := exists_digit d.digits
  unfold Decimal.Scientific.text
  dsimp only
  split
  · split
    · exact ⟨'0', _, by decide, toList_append_of_cons (toList_append_of_cons rfl _) _⟩
    · split
      · exact ⟨c, _, hdigit, toList_append_of_cons (toList_append_of_cons hdigits _) _⟩
      · rename_i hpoint hshort
        obtain ⟨n, hn⟩ := Nat.exists_eq_add_one_of_ne_zero
          (n := (((toString d.digits).length : Int) + d.exponent).toNat) (by omega)
        refine ⟨c, cs.take n ++ '.' :: cs.drop n, hdigit, ?_⟩
        rw [hn, hdigits, String.toList_ofList]
        rfl
  · split
    · rename_i a b tail heq
      rw [hdigits] at heq
      obtain ⟨rfl, rfl⟩ := List.cons.inj heq
      exact ⟨c, _, hdigit, toList_append_of_cons String.toList_ofList _⟩
    · exact ⟨c, _, hdigit, toList_append_of_cons (String.toList_ofList.trans hdigits) _⟩

theorem isNaN_isInf_of_isFinite (h : x.isFinite = true) : x.isNaN = false ∧ x.isInf = false := by
  change x.toModel.unpack.isNaN = false ∧ x.toModel.unpack.isInf = false
  have h' : x.toModel.unpack.isFinite = true := h
  cases hu : x.toModel.unpack with
  | infinity sign => rw [hu] at h'; cases h'
  | notANumber => rw [hu] at h'; cases h'
  | zero sign => exact ⟨rfl, rfl⟩
  | finite sign m e hm => exact ⟨rfl, rfl⟩

/-- The text of a finite number starts with a digit, after a minus sign if there is one. -/
theorem write_float (hfinite : x.isFinite = true) : ∃ c cs, c.isDigit = true ∧
    ((write (.float x)).toList = c :: cs ∨ (write (.float x)).toList = '-' :: c :: cs) := by
  obtain ⟨hnan, hinf⟩ := isNaN_isInf_of_isFinite hfinite
  have hmagnitude : ∃ c cs, c.isDigit = true ∧
      (if x == 0 then "0.0" else (Decimal.shortest x).text).toList = c :: cs := by
    split
    · exact ⟨'0', ['.', '0'], by decide, rfl⟩
    · exact exists_digit_text _
  obtain ⟨c, cs, hdigit, htext⟩ := hmagnitude
  refine ⟨c, cs, hdigit, ?_⟩
  rw [write, Decimal.textWith, hnan, hinf]
  cases hsign : Decimal.isNegative x with
  | true =>
    right
    simp [htext]
  | false =>
    left
    simp [htext]

end WikiGateway.Json
