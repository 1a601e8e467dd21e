import WikiGateway.Text.Printable

/-! Texts and characters quoted for messages. -/
namespace WikiGateway

/-- The last `width` digits of `n` in base sixteen. -/
def hexDigits : (width n : Nat) → List Char
  | 0, _ => []
  | width + 1, n => hexDigits width (n / 16) ++ [Nat.digitChar (n % 16)]

/-- A code point as two, four or eight hexadecimal digits. -/
def hexEscape (n : Nat) : List Char :=
  if n < 0x100 then '\\' :: 'x' :: hexDigits 2 n
  else if n < 0x10000 then '\\' :: 'u' :: hexDigits 4 n
  else '\\' :: 'U' :: hexDigits 8 n

/-- One character inside quotes `quote`: the quote, the backslash and what does not print are
escaped, by hexadecimal digits where no short form exists. -/
def escapeIn (quote c : Char) : List Char :=
  if c = quote ∨ c = '\\' then ['\\', c]
  else if c = '\n' then ['\\', 'n']
  else if c = '\r' then ['\\', 'r']
  else if c = '\t' then ['\\', 't']
  else if isPrintable c then [c]
  else hexEscape c.toNat

/-- The quote to put around a text: single, unless the text holds that one and not the other. -/
def quoteFor (s : List Char) : Char :=
  if '\'' ∈ s ∧ '"' ∉ s then '"' else '\''

def quoted (s : String) : String :=
  let cs := s.toList
  let q := quoteFor cs
  String.ofList (q :: cs.flatMap (escapeIn q) ++ [q])

/-- Code points quoted as the text that they make up. The halves of pairs, which no text has, are
escaped. -/
def quotedPoints (ns : List Nat) : String :=
  let q := quoteFor (ns.map Char.ofNat)
  let escape (n : Nat) : List Char :=
    if (Char.ofNat n).toNat = n then escapeIn q (Char.ofNat n) else hexEscape n
  String.ofList (q :: ns.flatMap escape ++ [q])

theorem length_hexDigits (width n : Nat) : (hexDigits width n).length = width := by
  induction width generalizing n with
  | zero => rfl
  | succ w ih => simp [hexDigits, ih]

end WikiGateway
