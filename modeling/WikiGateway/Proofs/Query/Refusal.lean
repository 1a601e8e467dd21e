import WikiGateway.Proofs.Query.Layout
import WikiGateway.Proofs.Query.Places
import WikiGateway.Proofs.Query.Printing

/-!
A text that is cut into tokens but is no query is refused at its first token that cannot stand
there: the tokens before it begin some query, and with it they begin none.
-/
namespace WikiGateway.Query

/-- Some query has a text whose tokens begin with these, wherever they stand in it. -/
def Begins (ts : List Token) : Prop :=
  ∃ text tokens q, parse (some text) = .ok q ∧ tokenize text = .ok tokens ∧
    ts.map Token.symbol <+: tokens.map Token.symbol

/-- As `Begins`, and something comes between these and the end of the text. -/
def BeginsProperly (ts : List Token) : Prop :=
  ∃ text tokens q, parse (some text) = .ok q ∧ tokenize text = .ok tokens ∧
    ts.map Token.symbol <+: tokens.dropLast.map Token.symbol ∧ ts.length < tokens.dropLast.length

variable {text v : String} {tokens : List Token} {ts us : List Symbol} {ls front : List Lexeme}
  {σ τ : Place} {q : Query} {e : SyntaxError}

theorem BeginsProperly.begins {ts : List Token} (h : BeginsProperly ts) : Begins ts := by
  obtain ⟨text, tokens, q, hparse, htokens, hbegins, -⟩ := h
  exact ⟨text, tokens, q, hparse, htokens, hbegins.trans ((List.dropLast_prefix tokens).map _)⟩

/-- The tokens of lexemes. -/
def tokensOf (ls : List Lexeme) : List Token := ls.map fun l => ⟨some l.symbol, l.position⟩

theorem map_symbol_tokensOf (ls : List Lexeme) :
    (tokensOf ls).map Token.symbol = (symbols ls).map some := by
  simp [tokensOf, symbols, Function.comp_def]

/-- A query that is read is accepted by the places. -/
theorem accepts_of_parse (hparse : parse (some text) = .ok q)
    (htokens : tokenize text = .ok tokens) :
    ∃ ts, Accepts ts ∧ tokens.map Token.symbol = ts.map some ++ [none] := by
  obtain ⟨ls, hscan, rfl⟩ := tokenize_eq_ok_iff.mp htokens
  obtain ⟨ls', hscan', hq⟩ := parse_eq_ok_iff.mp hparse
  obtain rfl : ls = ls' := by simpa [hscan] using hscan'
  exact ⟨symbols ls, accepts_iff.mpr ⟨q, hq⟩, by simp [symbols, Function.comp_def]⟩

/-- Symbols that places accept are those of a query text, if their strings can be quoted. -/
theorem exists_text_of_accepts (h : Accepts ts) (hquotable : ∀ v, .string v ∈ ts → Quotable v) :
    ∃ text tokens q, parse (some text) = .ok q ∧ tokenize text = .ok tokens ∧
      tokens.map Token.symbol = ts.map some ++ [none] := by
  obtain ⟨ls, hcut, rfl⟩ := (isTextOf_spelled hquotable).exists_cut
  obtain ⟨q, hq⟩ := accepts_iff.mp h
  have hscan := scan_eq_ok_iff.mpr hcut
  exact ⟨_, _, q, parse_eq_ok_iff.mpr ⟨ls, hscan, hq⟩, tokenize_eq_ok_iff.mpr ⟨ls, hscan, rfl⟩,
    by simp [symbols, Function.comp_def]⟩

theorem Place.quotable_of_mem_completion (h : .string v ∈ σ.completion) : Quotable v := by
  obtain rfl : v = "" := by cases σ <;> simp_all [Place.completion]
  exact .inl (by simp)

/-- Lexemes that the places follow can be gone on with to a query. -/
theorem exists_text_of_run (hrun : Place.start.run (symbols front) = some τ)
    (hquotable : ∀ v, .string v ∈ symbols front → Quotable v) :
    ∃ text tokens q, parse (some text) = .ok q ∧ tokenize text = .ok tokens ∧
      tokens.map Token.symbol = (symbols front ++ τ.completion).map some ++ [none] := by
  obtain ⟨υ, hυ, hends⟩ := τ.run_completion
  refine exists_text_of_accepts ⟨υ, by simp [Place.run_append, hrun, hυ], hends⟩ fun v hv => ?_
  rcases List.mem_append.mp hv with hv | hv
  · exact hquotable v hv
  · exact Place.quotable_of_mem_completion hv

theorem begins_of_run (hrun : Place.start.run (symbols front) = some τ)
    (hquotable : ∀ v, .string v ∈ symbols front → Quotable v) : Begins (tokensOf front) := by
  obtain ⟨text, tokens, q, hparse, htokens, hsymbols⟩ := exists_text_of_run hrun hquotable
  refine ⟨text, tokens, q, hparse, htokens, ?_⟩
  rw [map_symbol_tokensOf, hsymbols, List.map_append, List.append_assoc]
  exact List.prefix_append _ _

theorem beginsProperly_of_run (hrun : Place.start.run (symbols front) = some τ)
    (hends : τ.ends = false) (hquotable : ∀ v, .string v ∈ symbols front → Quotable v) :
    BeginsProperly (tokensOf front) := by
  obtain ⟨text, tokens, q, hparse, htokens, hsymbols⟩ := exists_text_of_run hrun hquotable
  have hcompletion : τ.completion ≠ [] := by
    intro hnil
    obtain ⟨υ, hυ, hυends⟩ := τ.run_completion
    rw [hnil] at hυ
    obtain rfl : τ = υ := Option.some.inj hυ
    simp [hends] at hυends
  have hbefore : tokens.dropLast.map Token.symbol = (symbols front ++ τ.completion).map some := by
    rw [List.map_dropLast, hsymbols, List.dropLast_concat]
  refine ⟨text, tokens, q, hparse, htokens, ?_, ?_⟩
  · rw [map_symbol_tokensOf, hbefore, List.map_append]
    exact List.prefix_append _ _
  · have hlength := congrArg List.length hbefore
    have hpos := List.length_pos_of_ne_nil hcompletion
    simp [symbols, tokensOf] at hlength ⊢
    omega

/-- The end of a text comes among no symbols. -/
theorem not_prefix_map_some : ¬ us.map some ++ [none] <+: ts.map some := by
  intro h
  have hnone : none ∈ ts.map some := h.subset (by simp)
  simp at hnone

/-- What a query begins with, the places follow. -/
theorem run_of_begins (h : Begins (tokensOf front)) :
    ∃ τ, Place.start.run (symbols front) = some τ := by
  obtain ⟨text, tokens, q, hparse, htokens, hbegins⟩ := h
  obtain ⟨ts, ⟨υ, hυ, -⟩, hsymbols⟩ := accepts_of_parse hparse htokens
  rw [hsymbols, map_symbol_tokensOf, List.prefix_concat_iff] at hbegins
  have hinside : (symbols front).map some <+: ts.map some :=
    hbegins.resolve_left fun hend =>
      not_prefix_map_some ⟨[], (List.append_nil _).trans hend.symm⟩
  obtain ⟨more, rfl⟩ := (List.prefix_map_iff_of_injective (Option.some_injective _)).mp hinside
  rw [Place.run_append, Option.bind_eq_some_iff] at hυ
  exact ⟨hυ.choose, hυ.choose_spec.1⟩

theorem symbols_eq_of_concat_none (h : (symbols ls).map some ++ [none] = ts.map some ++ [none]) :
    symbols ls = ts :=
  (List.map_inj_right fun _ _ => Option.some.inj).mp (List.append_cancel_right h)

theorem accepts_of_begins {n : Nat} (h : Begins (tokensOf ls ++ [⟨none, n⟩])) :
    Accepts (symbols ls) := by
  obtain ⟨text, tokens, q, hparse, htokens, hbegins⟩ := h
  obtain ⟨ts, haccepts, hsymbols⟩ := accepts_of_parse hparse htokens
  rw [hsymbols, List.map_append, map_symbol_tokensOf, List.prefix_concat_iff] at hbegins
  exact symbols_eq_of_concat_none (hbegins.resolve_right not_prefix_map_some) ▸ haccepts

theorem refused_of_parse_error (htokens : tokenize text = .ok tokens)
    (htext : isBlankText text = false) (hwrong : ∀ q, parse (some text) ≠ .ok q) :
    ∃ ls e, tokens = tokensOf ls ++ [⟨none, text.length⟩] ∧ Cut 0 text.toList ls ∧
      parse (some text) = .error e ∧ Refused text.length .start ls e := by
  obtain ⟨ls, hscan, rfl⟩ := tokenize_eq_ok_iff.mp htokens
  have hparse : parse (some text) = Parser.query text.toList.length ls := by
    simp [parse, htext, hscan, bind, Except.bind]
  have hconcludes := concludes_query text.toList.length ls
  rw [← hparse] at hconcludes
  cases hresult : parse (some text) with
  | ok q => exact absurd hresult (hwrong q)
  | error e =>
    rw [hresult, String.length_toList] at hconcludes
    have hcut := scan_eq_ok_iff.mp hscan
    exact ⟨ls, e, by simp [tokensOf, String.length_toList], hcut, rfl, hconcludes⟩

/-- What is read of a text with an error is that error, unless a parenthesis opens before it that
finds no room. -/
theorem read_of_parse_error (h : parse (some text) = .error e) :
    read (some text) = .error (.wrong e) ∨
      read (some text) = .error .tooDeep ∧
        ∃ place, deepPlace? mostOpen (lexemes text) = some place ∧ place < e.position := by
  rw [read, h, Option.getD_some]
  cases hdeep : deepPlace? mostOpen (lexemes text) with
  | none => exact .inl rfl
  | some place =>
    by_cases hplace : place < e.position
    · exact .inr ⟨by simp [hplace], place, rfl, hplace⟩
    · exact .inl (by simp [hplace])

/-- Lexemes are refused at the first token that begins no query with those before it. -/
theorem Refused.exists_token {n : Nat} (h : Refused n .start ls e)
    (htokens : tokens = tokensOf ls ++ [⟨none, n⟩])
    (hquotable : ∀ v, .string v ∈ symbols ls → Quotable v) :
    ∃ i t, tokens[i]? = some t ∧ e.position = t.position ∧ Begins (tokens.take i) ∧
      ¬ Begins (tokens.take (i + 1)) := by
  have hno := h.not_accepts
  obtain ⟨front, rest, τ, rfl, hrun, hhalts, hposition⟩ := h
  have hbegins : Begins (tokensOf front) :=
    begins_of_run hrun fun v hv => hquotable v (by simp [hv])
  have hlength : (tokensOf front).length = front.length := by simp [tokensOf]
  cases rest with
  | nil =>
    -- Everything is followed: what cannot stand there is the end of the text.
    rw [List.append_nil] at hno htokens
    refine ⟨front.length, ⟨none, n⟩, by simp [htokens, ← hlength], hposition, ?_, ?_⟩
    · rwa [htokens, ← hlength, List.take_left]
    · rw [htokens, List.take_of_length_le (by simp [hlength])]
      exact fun hb => hno (accepts_of_begins hb)
  | cons l rest =>
    have hsplit : tokens = tokensOf front ++ ⟨some l.symbol, l.position⟩ ::
        (tokensOf rest ++ [⟨none, n⟩]) := by
      simp [htokens, tokensOf]
    have ht : tokens[front.length]? = some ⟨some l.symbol, l.position⟩ := by
      simp [hsplit, ← hlength]
    refine ⟨front.length, _, ht, hposition, ?_, ?_⟩
    · rwa [hsplit, ← hlength, List.take_left]
    · have htake : tokens.take (front.length + 1) = tokensOf (front ++ [l]) := by
        rw [hsplit, ← hlength, List.take_append]
        simp [tokensOf]
      rw [htake]
      intro hb
      obtain ⟨υ, hυ⟩ := run_of_begins hb
      have hstop : Place.start.run (symbols (front ++ [l])) = none :=
        Place.run_append_of_halts hrun hhalts
      rw [hstop] at hυ
      cases hυ

/-- An error stands at the end of a text exactly if its tokens properly begin some query. -/
theorem Refused.position_eq_iff {n : Nat} (h : Refused n .start ls e)
    (hwithin : ∀ l ∈ ls, l.position < n) (hquotable : ∀ v, .string v ∈ symbols ls → Quotable v) :
    e.position = n ↔ BeginsProperly (tokensOf ls) := by
  obtain ⟨front, rest, τ, rfl, hrun, hhalts, hposition⟩ := h
  cases rest with
  | nil =>
    rw [List.append_nil] at hquotable ⊢
    exact iff_of_true hposition (beginsProperly_of_run hrun hhalts hquotable)
  | cons l rest =>
    have hposition : e.position = l.position := hposition
    have hl := hwithin l (by simp)
    refine iff_of_false (by omega) fun hb => ?_
    obtain ⟨υ, hυ⟩ := run_of_begins hb.begins
    rw [Place.run_append_of_halts hrun hhalts] at hυ
    cases hυ

/-- A text that is cut into tokens and is no query is refused at one of them: those before it begin
some query, and with it they begin none. That is the end of the text exactly if all before it
properly begin some query. -/
theorem parse_error_at_first_unfit (htext : isBlankText text = false)
    (htokens : tokenize text = .ok tokens) (hwrong : ∀ q, parse (some text) ≠ .ok q) :
    ∃ e, parse (some text) = .error e ∧
      (read (some text) = .error (.wrong e) ∨
        read (some text) = .error .tooDeep ∧
          ∃ place, deepPlace? mostOpen (lexemes text) = some place ∧ place < e.position) ∧
      (∃ i t, tokens[i]? = some t ∧ e.position = t.position ∧ Begins (tokens.take i) ∧
        ¬ Begins (tokens.take (i + 1))) ∧
      (e.position = text.length ↔ BeginsProperly tokens.dropLast) := by
  obtain ⟨ls, e, hls, hcut, hparse, hrefused⟩ := refused_of_parse_error htokens htext hwrong
  have hquotable (v : String) (hv : .string v ∈ symbols ls) : Quotable v := hcut.quotable hv
  have hwithin : ∀ l ∈ ls, l.position < text.length := by
    simpa [String.length_toList] using fun l hl => (hcut.positions.1 l hl).2
  refine ⟨e, hparse, read_of_parse_error hparse, hrefused.exists_token hls hquotable, ?_⟩
  rw [hls, List.dropLast_concat]
  exact hrefused.position_eq_iff hwithin hquotable

/-- A text that lacks an operand before a parenthesis closes. -/
def lacking : String := "page where (title 'x' and) asc"

def lackingLexemes : List Lexeme :=
  [⟨.keyword .page, 0⟩, ⟨.keyword .where_, 5⟩, ⟨.lparen, 11⟩, ⟨.keyword .title, 12⟩,
    ⟨.string "x", 18⟩, ⟨.keyword .and_, 22⟩, ⟨.rparen, 25⟩, ⟨.keyword .asc, 27⟩]

def lackingTokens : List Token := tokensOf lackingLexemes ++ [⟨none, 30⟩]

theorem parse_error_at_first_unfit_rparen :
    isBlankText lacking = false ∧ tokenize lacking = .ok lackingTokens ∧
      (∀ q, parse (some lacking) ≠ .ok q) ∧
      ∃ e, parse (some lacking) = .error e ∧
        (read (some lacking) = .error (.wrong e) ∨
          read (some lacking) = .error .tooDeep ∧
            ∃ place, deepPlace? mostOpen (lexemes lacking) = some place ∧ place < e.position) ∧
        (∃ i t, lackingTokens[i]? = some t ∧ e.position = t.position ∧
          Begins (lackingTokens.take i) ∧ ¬ Begins (lackingTokens.take (i + 1))) ∧
        (e.position = lacking.length ↔ BeginsProperly lackingTokens.dropLast) := by
  have hblank : isBlankText lacking = false := by decide +kernel
  have htokens : tokenize lacking = .ok lackingTokens := by decide +kernel
  have hwrong (q : Query) : parse (some lacking) ≠ .ok q := by
    intro hparse
    obtain ⟨ts, ⟨τ, hrun, -⟩, hsymbols⟩ := accepts_of_parse hparse htokens
    rw [lackingTokens, List.map_append, map_symbol_tokensOf] at hsymbols
    have hleft : Place.start.run (symbols lackingLexemes) = none := rfl
    rw [symbols_eq_of_concat_none hsymbols, hrun] at hleft
    cases hleft
  exact ⟨hblank, htokens, hwrong, parse_error_at_first_unfit hblank htokens hwrong⟩

end WikiGateway.Query
