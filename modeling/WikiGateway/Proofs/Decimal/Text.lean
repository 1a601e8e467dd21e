import WikiGateway.Proofs.Decimal.Shortest

/-! The text of a decimal: digits with a point among them, or an exponent after them. -/
namespace WikiGateway.Decimal

open Float.Model.UnpackedFloat

variable {n : ℕ} {k : ℤ} {c : Char} {cs : List Char} {a : Scientific}

theorem digitsToNat_eq (cs : List Char) : digitsToNat cs = Nat.ofDigitChars 10 cs 0 := rfl

theorem digitsToNat_toDigits (n : ℕ) : digitsToNat (Nat.toDigits 10 n) = n :=
  Nat.ofDigitChars_ten_toDigits

theorem digitsToNat_append (cs ds : List Char) :
    digitsToNat (cs ++ ds) = 10 ^ ds.length * digitsToNat cs + digitsToNat ds := by
  rw [digitsToNat_eq, Nat.ofDigitChars_append, Nat.ofDigitChars_eq_ofDigitChars_zero]
  rfl

theorem digitsToNat_zeros (n : ℕ) : digitsToNat (List.replicate n '0') = 0 := by
  rw [digitsToNat_eq, Nat.ofDigitChars_replicate_zero, mul_zero]

def AllDigits (cs : List Char) : Prop := ∀ c ∈ cs, c.isDigit = true

theorem allDigits_toDigits (n : ℕ) : AllDigits (Nat.toDigits 10 n) :=
  fun _ hc => Nat.isDigit_of_mem_toDigits (by norm_num) le_rfl hc

theorem allDigits_zeros (n : ℕ) : AllDigits (List.replicate n '0') := by
  intro c hc
  rw [List.eq_of_mem_replicate hc]
  rfl

theorem AllDigits.append {ds : List Char} (h : AllDigits cs) (h' : AllDigits ds) :
    AllDigits (cs ++ ds) :=
  fun c hc => (List.mem_append.mp hc).elim (h c) (h' c)

/-- No number but zero starts with a zero. -/
theorem toDigits_head (hn : 0 < n) : ∃ c cs, Nat.toDigits 10 n = c :: cs ∧ c ≠ '0' := by
  induction n using Nat.strong_induction_on with
  | _ n ih =>
    rw [Nat.toDigits_eq_if (by norm_num)]
    split
    · exact ⟨n.digitChar, [], rfl, Nat.digitChar_eq_zero.not.mpr hn.ne'⟩
    · obtain ⟨c, cs, htext, hc⟩ := ih (n / 10) (by omega) (by omega)
      rw [htext]
      exact ⟨c, cs ++ [(n % 10).digitChar], rfl, hc⟩

/-- Digits before a point: a zero, or digits that start with none. -/
def IsWhole (cs : List Char) : Prop :=
  cs = ['0'] ∨ AllDigits cs ∧ ∃ c ds, cs = c :: ds ∧ c ≠ '0'

/-- The parts of the text of a number. -/
structure Spelling where
  whole : List Char
  fraction : List Char
  exponent : Option ℤ

def Spelling.fractionText (p : Spelling) : List Char :=
  if p.fraction.isEmpty then [] else '.' :: p.fraction

def Spelling.exponentText (p : Spelling) : List Char :=
  p.exponent.elim [] fun e => (Decimal.exponentText e).toList

def Spelling.text (p : Spelling) : List Char := p.whole ++ (p.fractionText ++ p.exponentText)

/-- All digits as one number, and the exponent that goes with it. -/
def Spelling.digits (p : Spelling) : ℕ := digitsToNat (p.whole ++ p.fraction)

def Spelling.power (p : Spelling) : ℤ := p.exponent.getD 0 - p.fraction.length

/-- The parts make up the text of a number that is no whole one. -/
structure Spelling.IsProper (p : Spelling) : Prop where
  whole : IsWhole p.whole
  fraction : AllDigits p.fraction
  pointed : p.fraction ≠ [] ∨ p.exponent.isSome

theorem toList_toString (n : ℕ) : (toString n).toList = Nat.toDigits 10 n := Nat.toList_repr

theorem length_toString (n : ℕ) : (toString n).length = (Nat.toDigits 10 n).length := by
  rw [← toList_toString, String.length_toList]

theorem toList_zeros (n : ℕ) : (zeros n).toList = List.replicate n '0' := String.toList_ofList

/-- The point of a decimal, counted from its first digit. -/
def Scientific.point (a : Scientific) : ℤ := (Nat.toDigits 10 a.digits).length + a.exponent

theorem text_eq (a : Scientific) : a.text =
    if -4 < a.point ∧ a.point ≤ 16 then
      if a.point ≤ 0 then "0." ++ zeros (-a.point).toNat ++ toString a.digits
      else if ((Nat.toDigits 10 a.digits).length : ℤ) ≤ a.point then
        toString a.digits ++ zeros (a.point - (Nat.toDigits 10 a.digits).length).toNat ++ ".0"
      else String.ofList ((Nat.toDigits 10 a.digits).take a.point.toNat ++
        '.' :: (Nat.toDigits 10 a.digits).drop a.point.toNat)
    else
      (match Nat.toDigits 10 a.digits with
        | c :: c' :: cs => String.ofList (c :: '.' :: c' :: cs)
        | cs => String.ofList cs) ++ exponentText (a.point - 1) := by
  rw [Scientific.text]
  simp only [length_toString, toList_toString]
  rfl

/-- The parts of the text of a decimal. -/
def Scientific.spelling (a : Scientific) : Spelling :=
  let digits := Nat.toDigits 10 a.digits
  if -4 < a.point ∧ a.point ≤ 16 then
    if a.point ≤ 0 then ⟨['0'], List.replicate (-a.point).toNat '0' ++ digits, none⟩
    else if (digits.length : ℤ) ≤ a.point then
      ⟨digits ++ List.replicate (a.point - digits.length).toNat '0', ['0'], none⟩
    else ⟨digits.take a.point.toNat, digits.drop a.point.toNat, none⟩
  else ⟨digits.take 1, digits.drop 1, some (a.point - 1)⟩

theorem Spelling.text_of_ne_nil {p : Spelling} (h : p.fraction ≠ []) :
    p.text = p.whole ++ '.' :: (p.fraction ++ p.exponentText) := by
  rw [Spelling.text, Spelling.fractionText, if_neg (by simpa using h), List.cons_append]

theorem toList_text (ha : 0 < a.digits) : a.text.toList = a.spelling.text := by
  obtain ⟨c, cs, hdigits, -⟩ := toDigits_head ha
  rw [text_eq, Scientific.spelling]
  split
  · split
    · rw [Spelling.text_of_ne_nil (by simp [hdigits]), String.toList_append, String.toList_append,
        toList_zeros, toList_toString]
      simp [Spelling.exponentText]
    · split
      · rw [Spelling.text_of_ne_nil (by simp), String.toList_append, String.toList_append,
          toList_zeros, toList_toString]
        rfl
      · rename_i hpoint hshort
        rw [Spelling.text_of_ne_nil (by simp; omega), String.toList_ofList]
        simp [Spelling.exponentText]
  · rw [hdigits, String.toList_append]
    cases cs with
    | nil => rw [String.toList_ofList]; rfl
    | cons c' cs =>
      rw [Spelling.text_of_ne_nil (by simp), String.toList_ofList]
      rfl

theorem AllDigits.of_subset {ds : List Char} (h : AllDigits cs) (hsub : ds ⊆ cs) : AllDigits ds :=
  fun c hc => h c (hsub hc)

theorem isProper_spelling (ha : 0 < a.digits) : a.spelling.IsProper := by
  obtain ⟨c, cs, hdigits, hc⟩ := toDigits_head ha
  have hall := allDigits_toDigits a.digits
  have hwhole {n : ℕ} (hn : 0 < n) : IsWhole ((Nat.toDigits 10 a.digits).take n) := by
    obtain ⟨n, rfl⟩ := Nat.exists_eq_add_one_of_ne_zero hn.ne'
    refine .inr ⟨hall.of_subset (List.take_subset _ _), c, cs.take n, ?_, hc⟩
    rw [hdigits, List.take_succ_cons]
  rw [Scientific.spelling]
  split
  · split
    · exact ⟨.inl rfl, (allDigits_zeros _).append hall, .inl (by simp [hdigits])⟩
    · split
      · refine ⟨.inr ⟨hall.append (allDigits_zeros _), ?_⟩, allDigits_zeros 1, .inl (by simp)⟩
        dsimp only
        rw [hdigits]
        exact ⟨c, _, List.cons_append, hc⟩
      · rename_i hpoint hshort
        refine ⟨hwhole (by omega), hall.of_subset (List.drop_subset _ _), .inl ?_⟩
        simp
        omega
  · exact ⟨hwhole one_pos, hall.of_subset (List.drop_subset _ _), .inr rfl⟩

/-- The parts hold the digits and the exponent as they are, or with the zeros up to the point and
one more. -/
theorem digits_spelling (a : Scientific) :
    a.spelling.digits = a.digits ∧ a.spelling.power = a.exponent ∨
      ∃ n : ℕ, a.exponent = n ∧ a.point ≤ 16 ∧ a.spelling.digits = 10 ^ (n + 1) * a.digits ∧
        a.spelling.power = -1 := by
  have hpos : 0 < (Nat.toDigits 10 a.digits).length := Nat.length_toDigits_pos
  have hpoint : a.point = (Nat.toDigits 10 a.digits).length + a.exponent := rfl
  have hsplit (n : ℕ) : digitsToNat ((Nat.toDigits 10 a.digits).take n ++
      (Nat.toDigits 10 a.digits).drop n) = a.digits := by
    rw [List.take_append_drop, digitsToNat_toDigits]
  rw [Scientific.spelling]
  split
  · split
    · left
      refine ⟨?_, ?_⟩
      · have hzeros : ['0'] ++ (List.replicate (-a.point).toNat '0' ++ Nat.toDigits 10 a.digits) =
            List.replicate ((-a.point).toNat + 1) '0' ++ Nat.toDigits 10 a.digits := rfl
        rw [Spelling.digits, hzeros, digitsToNat_append, digitsToNat_zeros, mul_zero, zero_add,
          digitsToNat_toDigits]
      · rw [Spelling.power, Option.getD_none, List.length_append, List.length_replicate]
        omega
    · split
      · right
        refine ⟨a.exponent.toNat, by omega, by omega, ?_, rfl⟩
        have hcount : (a.point - (Nat.toDigits 10 a.digits).length).toNat = a.exponent.toNat := by
          omega
        have hzero : digitsToNat ['0'] = 0 := rfl
        rw [Spelling.digits, hcount, digitsToNat_append, digitsToNat_append, digitsToNat_zeros,
          digitsToNat_toDigits, List.length_replicate, hzero, pow_succ]
        change 10 ^ 1 * (10 ^ a.exponent.toNat * a.digits + 0) + 0 = _
        ring
      · left
        refine ⟨hsplit _, ?_⟩
        rw [Spelling.power, Option.getD_none, List.length_drop]
        omega
  · left
    refine ⟨hsplit 1, ?_⟩
    rw [Spelling.power, Option.getD_some, List.length_drop]
    omega

theorem value_spelling (a : Scientific) :
    (a.spelling.digits : ℚ) * 10 ^ a.spelling.power = a.value := by
  rw [Scientific.value]
  rcases digits_spelling a with ⟨hdigits, hpower⟩ | ⟨n, hexp, -, hdigits, hpower⟩
  · rw [hdigits, hpower]
  · rw [hdigits, hpower, hexp, zpow_natCast]
    push_cast
    ring

theorem digits_spelling_lt (hlt : a.digits < 10 ^ 18) :
    a.spelling.digits < 10 ^ 18 := by
  rcases digits_spelling a with ⟨hdigits, -⟩ | ⟨n, hexp, hpoint, hdigits, -⟩
  · rw [hdigits]
    exact hlt
  · have hlength : (Nat.toDigits 10 a.digits).length + n ≤ 16 := by
      rw [Scientific.point, hexp] at hpoint
      exact_mod_cast hpoint
    have hless : a.digits < 10 ^ (Nat.toDigits 10 a.digits).length :=
      (Nat.length_toDigits_le_iff (by norm_num) Nat.length_toDigits_pos).mp le_rfl
    calc a.spelling.digits = 10 ^ (n + 1) * a.digits := hdigits
      _ < 10 ^ (n + 1) * 10 ^ (Nat.toDigits 10 a.digits).length :=
          Nat.mul_lt_mul_of_pos_left hless (by positivity)
      _ = 10 ^ (n + 1 + (Nat.toDigits 10 a.digits).length) := (pow_add _ _ _).symm
      _ ≤ 10 ^ 18 := Nat.pow_le_pow_right (by norm_num) (by omega)

/-- The text of an exponent is a mark, a sign and digits. -/
theorem toList_exponentText (e : ℤ) : ∃ ds, AllDigits ds ∧ ds ≠ [] ∧ digitsToNat ds = e.natAbs ∧
    (exponentText e).toList = 'e' :: (if e < 0 then '-' else '+') :: ds := by
  have hmark : (if e < 0 then "e-" else "e+").toList = ['e', if e < 0 then '-' else '+'] := by
    split <;> rfl
  have hdigits := allDigits_toDigits e.natAbs
  rw [exponentText]
  simp only [length_toString]
  by_cases hshort : (Nat.toDigits 10 e.natAbs).length < 2
  · refine ⟨['0'] ++ Nat.toDigits 10 e.natAbs, (allDigits_zeros 1).append hdigits,
      List.cons_ne_nil _ _, ?_, ?_⟩
    · rw [digitsToNat_append, digitsToNat_toDigits]
      exact Nat.zero_add _
    · rw [if_pos hshort, String.toList_append, String.toList_append, hmark, toList_toString]
      rfl
  · refine ⟨Nat.toDigits 10 e.natAbs, hdigits, Nat.toDigits_ne_nil, digitsToNat_toDigits _, ?_⟩
    rw [if_neg hshort, String.toList_append, hmark, toList_toString]
    rfl

/-- The text of an exponent is read as that exponent. -/
theorem exponent?_exponentText (e : ℤ) : exponent? (exponentText e).toList = some e := by
  obtain ⟨ds, hall, hne, hvalue, htext⟩ := toList_exponentText e
  have hall' : ds.all Char.isDigit = true := List.all_eq_true.mpr hall
  have hsplit : splitSign ((if e < 0 then '-' else '+') :: ds) = (decide (e < 0), ds) := by
    split
    · rw [decide_eq_true ‹_›]; rfl
    · rw [decide_eq_false ‹_›]; rfl
  rw [htext, exponent?, hsplit]
  dsimp only
  rw [if_pos ⟨.inl rfl, hne, hall'⟩, hvalue]
  split
  · rename_i hneg
    have hneg' := of_decide_eq_true hneg
    rw [Int.ofNat_natAbs_of_nonpos hneg'.le, neg_neg]
  · rename_i hnonneg
    have hnonneg' := of_decide_eq_false (eq_false_of_ne_true hnonneg)
    rw [Int.natAbs_of_nonneg (not_lt.mp hnonneg')]

/-- The digits of a double are read as its magnitude. -/
theorem toFloat_shortest {x y : Float} {s : Sign} {m : ℕ} {e : ℤ} (hx : IsDouble x s m e)
    (hy : IsDouble y .positive m e) :
    toFloat (shortest x).spelling.digits (shortest x).spelling.power = y := by
  obtain ⟨hpos, hlt, hrounds⟩ := shortest_rounds hx
  have hpos' : 0 < (shortest x).spelling.digits := by
    rcases digits_spelling (shortest x) with ⟨hdigits, -⟩ | ⟨n, -, -, hdigits, -⟩
    · rw [hdigits]
      exact hpos
    · rw [hdigits]
      exact Nat.mul_pos (by positivity) hpos
  rw [← value_spelling] at hrounds
  exact toFloat_eq hpos' (digits_spelling_lt hlt) hy hrounds

end WikiGateway.Decimal
