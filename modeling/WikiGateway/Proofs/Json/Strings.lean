import Mathlib.Tactic.IntervalCases
import WikiGateway.Json.Reader
import WikiGateway.Json.Writer

/-! A string that was written is read as it was: each character by itself, escaped or not. -/
namespace WikiGateway.Json

variable {fuel : Nat} {read rest : List Char} {c : Char}

/-- A character that needs no escape stands for itself. -/
theorem readString_plain (hquote : c ≠ '"') (hslash : c ≠ '\\') (hcontrol : ¬ c.toNat < 0x20) :
    readString (fuel + 1) read (c :: rest) = readString fuel (c :: read) rest := by
  rw [readString.eq_def]
  simp [hslash, hcontrol]

theorem readString_marked {mark : Char} (hmark : simpleEscape? mark = some c) :
    readString (fuel + 1) read ('\\' :: mark :: rest) = readString fuel (c :: read) rest := by
  have hunit : mark ≠ 'u' := by
    rintro rfl
    cases hmark
  rw [readString.eq_def]
  simp [hmark]

theorem unit?_hexDigits {n : Nat} (h : n < 0x20) :
    unit? (hexDigits 4 n ++ rest) = some (n, rest) := by
  interval_cases n <;> rfl

/-- A control character is read from its four digits. -/
theorem readString_control (h : c.toNat < 0x20) :
    readString (fuel + 1) read ('\\' :: 'u' :: (hexDigits 4 c.toNat ++ rest)) =
      readString fuel (c :: read) rest := by
  have hchar : escapedChar c.toNat rest = (c, rest) := by
    rw [escapedChar, if_neg (by omega), if_neg (by omega), Char.ofNat_toNat]
  rw [readString.eq_def]
  simp only [unit?_hexDigits h, hchar]

/-- What a character is written as is read as that character. -/
theorem readString_escape :
    readString (fuel + 1) read (escape c ++ rest) = readString fuel (c :: read) rest := by
  rw [escape.eq_def]
  split
  · exact readString_marked rfl
  · exact readString_marked rfl
  · exact readString_marked rfl
  · exact readString_marked rfl
  · exact readString_marked rfl
  · exact readString_marked rfl
  · exact readString_marked rfl
  · rename_i hquote hslash _ _ _ _ _
    by_cases hcontrol : c.val.toNat < 0x20
    · rw [if_pos hcontrol]
      exact readString_control hcontrol
    · rw [if_neg hcontrol]
      exact readString_plain hquote hslash hcontrol

theorem readString_escapes (cs : List Char) (hfuel : cs.length < fuel) :
    readString fuel read (cs.flatMap escape ++ '"' :: rest) =
      .ok (String.ofList (read.reverse ++ cs), rest) := by
  induction cs generalizing fuel read with
  | nil =>
    obtain ⟨fuel, rfl⟩ := Nat.exists_eq_add_one_of_ne_zero (Nat.ne_of_gt hfuel)
    rw [List.append_nil]
    rfl
  | cons c cs ih =>
    obtain ⟨fuel, rfl⟩ := Nat.exists_eq_add_one_of_ne_zero (Nat.ne_zero_of_lt hfuel)
    rw [List.flatMap_cons, List.append_assoc, readString_escape,
      ih (Nat.lt_of_succ_lt_succ hfuel), List.reverse_cons, List.append_assoc]
    rfl

theorem length_le_length_escapes (cs : List Char) : cs.length ≤ (cs.flatMap escape).length := by
  induction cs with
  | nil => exact Nat.le_refl 0
  | cons c cs ih =>
    have hescape : 1 ≤ (escape c).length := by
      rw [escape.eq_def]
      split <;> simp
      split <;> simp
    rw [List.flatMap_cons, List.length_append, List.length_cons]
    omega

/-- A string that was written is read back, whatever follows it. -/
theorem readString_name (name : String) (rest : List Char) :
    readString (name.toList.flatMap escape ++ '"' :: rest).length.succ []
        (name.toList.flatMap escape ++ '"' :: rest) = .ok (name, rest) := by
  have hfuel : name.toList.length < (name.toList.flatMap escape ++ '"' :: rest).length.succ := by
    have hle := length_le_length_escapes name.toList
    rw [List.length_append]
    omega
  rw [readString_escapes name.toList hfuel, List.reverse_nil, List.nil_append, String.ofList_toList]

end WikiGateway.Json
