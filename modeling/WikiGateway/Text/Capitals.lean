/-! Capital letters, as far as words of ASCII are told by them. -/
namespace WikiGateway

/-- The capitals of a letter. Ligatures and the sharp s have two or three; a letter of which the
capitals are not of ASCII is left as it is. -/
def capitals : Char → List Char
  | 'ı' => ['I']
  | 'ſ' => ['S']
  | 'ß' => ['S', 'S']
  | 'ﬀ' => ['F', 'F']
  | 'ﬁ' => ['F', 'I']
  | 'ﬂ' => ['F', 'L']
  | 'ﬃ' => ['F', 'F', 'I']
  | 'ﬄ' => ['F', 'F', 'L']
  | 'ﬅ' => ['S', 'T']
  | 'ﬆ' => ['S', 'T']
  | c => [c.toUpper]

/-- A word in capitals. -/
def inCapitals (s : String) : String := String.ofList (s.toList.flatMap capitals)

end WikiGateway
