import Mathlib
import WikiGateway.Proofs.Json.Values

/-! Numbers that are not finite are written as words, and read from them as they were. -/
namespace WikiGateway.Json

open Float.Model

variable {x : Float} {v : Json}

theorem eq_of_unpack {y : Float} (h : x.toModel.unpack = y.toModel.unpack) : x = y := by
  obtain ⟨⟨bits, hvalid⟩⟩ := x
  obtain ⟨⟨bits', hvalid'⟩⟩ := y
  have hbits : bits.toBitVec = bits'.toBitVec :=
    (UnpackedFloat.unpack_inj_of_valid hvalid hvalid').mp h
  obtain rfl : bits = bits' := UInt64.toBitVec_inj.mp hbits
  rfl

/-- There are three numbers that are not finite. -/
theorem cases_of_not_finite (h : x.isFinite = false) :
    x = 0.0 / 0.0 ∨ x = 1.0 / 0.0 ∨ x = -1.0 / 0.0 := by
  have hfinite : x.toModel.unpack.isFinite = false := h
  cases hu : x.toModel.unpack with
  | notANumber =>
    left
    refine eq_of_unpack (hu.trans ?_)
    rfl
  | infinity s =>
    right
    cases s with
    | positive =>
      left
      refine eq_of_unpack (hu.trans ?_)
      rfl
    | negative =>
      right
      refine eq_of_unpack (hu.trans ?_)
      rfl
  | zero s =>
    rw [hu] at hfinite
    cases hfinite
  | finite s m e hm =>
    rw [hu] at hfinite
    cases hfinite

/-- A word is read as its value, whatever follows it. -/
theorem readsAs_word {word : String} {c : Char} {tail : List Char} (hcons : word.toList = c :: tail)
    (hspace : isSpace c = false) (hplain : c ∉ ['"', '[', '\x7b', ']', '\x7d'])
    (hword : ∀ rest, readWord? (c :: (tail ++ rest)) = some (v, rest)) (room : Nat) :
    ReadsAs room word.toList v := by
  simp only [List.mem_cons, List.not_mem_nil, or_false, not_or] at hplain
  obtain ⟨hquote, hlist, hobject, hlistEnd, hobjectEnd⟩ := hplain
  rw [hcons]
  refine ⟨⟨c, tail, rfl, hspace, hlistEnd, hobjectEnd⟩, fun fuel rest hfuel _ => ?_⟩
  obtain ⟨fuel, rfl⟩ := Nat.exists_eq_add_one_of_ne_zero (Nat.ne_zero_of_lt hfuel)
  rw [List.cons_append, readValue.eq_def]
  simp [hword rest, hquote, hlist, hobject]

/-- What was written of a number is read as that number, also of one that is not finite. -/
theorem readsAs_number (x : Float) (room : Nat) :
    ReadsAs room (write (.float x)).toList (.float x) := by
  cases hfinite : x.isFinite with
  | true => exact readsAs_float hfinite room
  | false =>
    rcases cases_of_not_finite hfinite with rfl | rfl | rfl
    · have hwrite : write (.float (0.0 / 0.0)) = "NaN" := by decide +kernel
      rw [hwrite]
      exact readsAs_word rfl (by decide) (by decide) (fun _ => rfl) room
    · have hwrite : write (.float (1.0 / 0.0)) = "Infinity" := by decide +kernel
      rw [hwrite]
      exact readsAs_word rfl (by decide) (by decide) (fun _ => rfl) room
    · have hwrite : write (.float (-1.0 / 0.0)) = "-Infinity" := by decide +kernel
      rw [hwrite]
      exact readsAs_word rfl (by decide) (by decide) (fun _ => rfl) room

end WikiGateway.Json
