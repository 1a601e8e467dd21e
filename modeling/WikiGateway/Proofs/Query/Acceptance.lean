import WikiGateway.Proofs.Query.Derivation

/-! A text is accepted exactly if it can be cut into symbols from which the grammar derives a query,
and then that query is what is read. -/
namespace WikiGateway.Query

variable {text : String} {q q' : Query} {ts : List Symbol}

theorem scan_blank {cs : List Char} (h : cs.all isBlank = true) (p : Nat) : scan p cs = .ok [] := by
  induction cs generalizing p with
  | nil => exact scan_nil p
  | cons c cs ih =>
    obtain ⟨hc, hcs⟩ : isBlank c = true ∧ cs.all isBlank = true := by simpa using h
    rw [scan_cons_of_isBlank hc, ih hcs]

theorem tokenize_eq_ok_iff {tokens : List Token} :
    tokenize text = .ok tokens ↔ ∃ ls, scan 0 text.toList = .ok ls ∧
      tokens = ls.map (fun l => ⟨some l.symbol, l.position⟩) ++ [⟨none, text.toList.length⟩] := by
  rw [tokenize]
  cases scan 0 text.toList with
  | error e => simp [bind, Except.bind]
  | ok ls => simp [bind, Except.bind, pure, Except.pure, eq_comm]

theorem parse_of_not_blank (h : isBlankText text = false) :
    parse (some text) = .ok q ↔
      ∃ ls, scan 0 text.toList = .ok ls ∧ DerivesQuery (symbols ls) q := by
  simp only [parse, h]
  cases scan 0 text.toList with
  | error e => simp [bind, Except.bind]
  | ok ls => simp [bind, Except.bind, query_eq_ok_iff]

theorem not_derivesQuery_nil : ¬ DerivesQuery [] q := by
  intro h
  generalize hts : ([] : List Symbol) = ts at h
  cases h
  simp at hts

/-- A text parses to a query exactly if its lexemes derive it. A blank text has none. -/
theorem parse_eq_ok_iff :
    parse (some text) = .ok q ↔
      ∃ ls, scan 0 text.toList = .ok ls ∧ DerivesQuery (symbols ls) q := by
  cases hblank : isBlankText text with
  | false => exact parse_of_not_blank hblank
  | true =>
    refine iff_of_false (by simp [parse, hblank]) ?_
    rintro ⟨ls, hscan, hq⟩
    rw [scan_blank hblank] at hscan
    cases hscan
    exact not_derivesQuery_nil hq

/-- Symbols from which a query is derived determine it, as they can be parsed. -/
theorem DerivesQuery.unique (h : DerivesQuery ts q) (h' : DerivesQuery ts q') : q = q' := by
  obtain ⟨ls, rfl⟩ := exists_symbols_eq ts
  have hq : Parser.query 0 ls = .ok q := query_eq_ok_iff.mpr h
  rw [query_eq_ok_iff.mpr h'] at hq
  exact (Except.ok.inj hq).symm

/-- Parsing gives `q` exactly if the text can be cut into tokens and those before its end derive
`q`; the same tokens derive no other query. -/
theorem parse_eq_ok_iff_derives :
    (∀ text q, parse (some text) = .ok q ↔
      ∃ tokens ts, tokenize text = .ok tokens ∧
        tokens.map Token.symbol = ts.map some ++ [none] ∧ DerivesQuery ts q) ∧
    (∀ ts q q', DerivesQuery ts q → DerivesQuery ts q' → q = q') := by
  refine ⟨?_, fun _ _ _ => DerivesQuery.unique⟩
  intro text q
  have hright : (∃ tokens ts, tokenize text = .ok tokens ∧
      tokens.map Token.symbol = ts.map some ++ [none] ∧ DerivesQuery ts q) ↔
      ∃ ls, scan 0 text.toList = .ok ls ∧ DerivesQuery (symbols ls) q := by
    constructor
    · rintro ⟨_, ts, htokens, hts, hq⟩
      obtain ⟨ls, hscan, rfl⟩ := tokenize_eq_ok_iff.mp htokens
      have hmap : (symbols ls).map some = ts.map some := by
        simpa [symbols, Function.comp_def] using hts
      obtain rfl : symbols ls = ts := (List.map_inj_right fun _ _ => Option.some.inj).mp hmap
      exact ⟨ls, hscan, hq⟩
    · rintro ⟨ls, hscan, hq⟩
      exact ⟨_, symbols ls, tokenize_eq_ok_iff.mpr ⟨ls, hscan, rfl⟩,
        by simp [symbols, Function.comp_def], hq⟩
  rw [hright]
  cases hblank : isBlankText text with
  | false => exact parse_of_not_blank hblank
  | true =>
    refine iff_of_false (by simp [parse, hblank]) ?_
    rintro ⟨ls, hscan, hq⟩
    rw [scan_blank hblank] at hscan
    cases hscan
    exact not_derivesQuery_nil hq

end WikiGateway.Query
