import WikiGateway.Proofs.Decimal.Text
import WikiGateway.Proofs.Json.Numbers

/-! The text of every finite number is read as that number. -/
namespace WikiGateway.Json

open Decimal Float.Model.UnpackedFloat

variable {x : Float} {p : Spelling} {ds rest : List Char}

/-- What follows a run of digits starts with none. -/
def EndsDigits (rest : List Char) : Prop := ∀ c ∈ rest.head?, c.isDigit = false

theorem takeWhile_digits (h : AllDigits ds) (hrest : EndsDigits rest) :
    (ds ++ rest).takeWhile Char.isDigit = ds := by
  rw [List.takeWhile_append_of_pos h]
  cases rest with
  | nil => exact List.append_nil ds
  | cons c rest =>
    rw [List.takeWhile_cons, hrest c rfl]
    exact List.append_nil ds

theorem endsDigits_nil : EndsDigits [] := by
  rintro c ⟨⟩

theorem endsDigits_exponentText (p : Spelling) : EndsDigits p.exponentText := by
  rw [Spelling.exponentText]
  cases p.exponent with
  | none => exact endsDigits_nil
  | some e =>
    obtain ⟨ds, -, -, -, htext⟩ := toList_exponentText e
    rw [Option.elim_some, htext]
    rintro c ⟨rfl⟩
    rfl

theorem endsDigits_afterWhole (p : Spelling) : EndsDigits (p.fractionText ++ p.exponentText) := by
  rw [Spelling.fractionText]
  split
  · exact endsDigits_exponentText p
  · rintro c ⟨rfl⟩
    rfl

theorem wholeDigits_text (hp : p.IsProper) : wholeDigits p.text = p.whole := by
  rw [Spelling.text, wholeDigits.eq_def]
  rcases hp.whole with hzero | ⟨hdigits, c, ds, hcons, hc⟩
  · rw [hzero]
    rfl
  · split
    · rename_i heq
      rw [hcons] at heq
      exact absurd (List.cons.inj heq).1 hc
    · exact takeWhile_digits hdigits (endsDigits_afterWhole p)

theorem fractionDigits_text (hp : p.IsProper) :
    fractionDigits (p.fractionText ++ p.exponentText) = p.fraction := by
  rw [Spelling.fractionText]
  split
  · rename_i hempty
    rw [List.isEmpty_iff.mp hempty, List.nil_append, Spelling.exponentText]
    cases p.exponent with
    | none => rfl
    | some e =>
      obtain ⟨ds, -, -, -, htext⟩ := toList_exponentText e
      rw [Option.elim_some, htext]
      rfl
  · exact takeWhile_digits hp.fraction (endsDigits_exponentText p)

theorem exponentPart_text (p : Spelling) : exponentPart p.exponentText = p.exponentText := by
  rw [Spelling.exponentText]
  cases p.exponent with
  | none => rfl
  | some e =>
    obtain ⟨ds, hdigits, hne, -, htext⟩ := toList_exponentText e
    have hsign : exponentSign ((if e < 0 then '-' else '+') :: ds) =
        ([if e < 0 then '-' else '+'], ds) := by
      split <;> rfl
    have hall : ds.takeWhile Char.isDigit = ds := by
      simpa using takeWhile_digits hdigits endsDigits_nil
    rw [Option.elim_some, htext, exponentPart_cons, if_pos (.inl rfl), hsign]
    dsimp only
    rw [hall, if_neg (by simpa using hne)]
    rfl

theorem afterFraction_text (hp : p.IsProper) :
    afterFraction (p.fractionText ++ p.exponentText) = p.exponentText := by
  rw [afterFraction, fractionDigits_text hp, Spelling.fractionText]
  split
  · rfl
  · exact List.drop_left

theorem exponent?_text (p : Spelling) : (exponent? p.exponentText).getD 0 = p.exponent.getD 0 := by
  rw [Spelling.exponentText]
  cases p.exponent with
  | none => rfl
  | some e => rw [Option.elim_some, exponent?_exponentText]

/-- The parts of a number are read as all digits and the exponent that goes with them. -/
theorem readNumber_text (hp : p.IsProper) (negative : Bool) :
    let x := toFloat p.digits p.power
    readNumber negative p.text = .ok (.float (if negative then -x else x), []) := by
  intro x
  have hafter : afterWhole p.text = p.fractionText ++ p.exponentText := by
    rw [afterWhole, wholeDigits_text hp]
    exact List.drop_left
  have hwhole : p.whole.isEmpty = false := by
    rcases hp.whole with hzero | ⟨-, c, ds, hcons, -⟩
    · rw [hzero]; rfl
    · rw [hcons]; rfl
  have hpointed : ¬ (p.fraction.isEmpty = true ∧ p.exponentText.isEmpty = true) := by
    rintro ⟨hfraction, hexponent⟩
    rcases hp.pointed with hne | hsome
    · exact hne (List.isEmpty_iff.mp hfraction)
    · obtain ⟨e, he⟩ := Option.isSome_iff_exists.mp hsome
      obtain ⟨ds, -, -, -, htext⟩ := toList_exponentText e
      rw [Spelling.exponentText, he, Option.elim_some, htext] at hexponent
      cases hexponent
  rw [readNumber_eq, hafter, wholeDigits_text hp, fractionDigits_text hp, afterFraction_text hp,
    exponentPart_text, numberOf, if_neg (by simp [hwhole]), if_neg hpointed, exponent?_text,
    afterExponent, exponentPart_text, List.drop_length]
  rfl

theorem write_double {s : Sign} {m : ℕ} {e : ℤ} (hx : IsDouble x s m e) : write (.float x) =
    if isNegative x then "-" ++ (shortest x).text else (shortest x).text := by
  have hu := hx.unpack
  have hfinite : x.isFinite = true := by
    change x.toModel.unpack.isFinite = true
    rw [hu]
    rfl
  obtain ⟨hnan, hinf⟩ := isNaN_isInf_of_isFinite hfinite
  have hzero : (x == 0) = false := by
    have hnone : (0 : Float).toModel.unpack = .zero .positive := rfl
    change x.toModel.unpack.beq (0 : Float).toModel.unpack = false
    rw [hu, hnone]
    cases s <;> rfl
  rw [write, textWith, hnan, hinf, hzero]
  rfl

theorem readsBack_double {s : Sign} {m : ℕ} {e : ℤ} (hx : IsDouble x s m e) : ReadsBack x := by
  obtain ⟨hpos, -, -⟩ := shortest_rounds hx
  have hproper := isProper_spelling hpos
  obtain ⟨c, cs, hdigit, htext⟩ := exists_digit_text (shortest x)
  have hspelling : (shortest x).spelling.text = c :: cs := (toList_text hpos).symm.trans htext
  rw [ReadsBack, write_double hx]
  cases s with
  | positive =>
    have hsign : isNegative x = false :=
      eq_false_of_ne_true fun h => nomatch (isNegative_iff hx).mp h
    have hread := readNumber_text hproper false
    dsimp only at hread
    rw [hspelling, toFloat_shortest hx hx] at hread
    rw [hsign, if_neg Bool.false_ne_true, htext, readValue_digit hdigit, hread]
    rfl
  | negative =>
    have hsign : isNegative x = true := (isNegative_iff hx).mpr rfl
    have hneg : -(-x) = x := hx.neg.neg.unique hx
    have hread := readNumber_text hproper true
    dsimp only at hread
    rw [hspelling, toFloat_shortest hx hx.neg, if_pos rfl, hneg] at hread
    rw [hsign, if_pos rfl, String.toList_append, htext]
    exact (readValue_minus hdigit cs).trans hread

/-- The number that was read, if nothing else was. -/
def onlyFloat? : Except ReadError (Json × List Char) → Option Float
  | .ok (.float x, []) => some x
  | _ => none

theorem readsBack_of_onlyFloat?
    (h : onlyFloat? (readValue 0 1 (write (.float x)).toList) = some x) : ReadsBack x := by
  rw [ReadsBack]
  unfold onlyFloat? at h
  split at h
  · rename_i y heq
    rw [heq, Option.some.inj h]
  · cases h

/-- The text of a finite number is read as that number, to its end. -/
theorem readsBack (h : x.isFinite = true) : ReadsBack x := by
  rcases isDouble_or_zero h with ⟨s, m, e, hx⟩ | rfl | rfl
  · exact readsBack_double hx
  · exact readsBack_of_onlyFloat? (by decide +kernel)
  · exact readsBack_of_onlyFloat? (by decide +kernel)

end WikiGateway.Json
