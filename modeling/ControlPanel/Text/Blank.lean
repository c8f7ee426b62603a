namespace ControlPanel.Text

/-- The code points with the Unicode property White_Space, as closed ranges in ascending order. -/
def whiteSpaceRanges : List (Nat × Nat) :=
  [(0x09, 0x0D), (0x20, 0x20), (0x85, 0x85), (0xA0, 0xA0), (0x1680, 0x1680), (0x2000, 0x200A),
   (0x2028, 0x2029), (0x202F, 0x202F), (0x205F, 0x205F), (0x3000, 0x3000)]

/-- Whether one of the closed ranges holds the number. -/
def inRanges (ranges : List (Nat × Nat)) (n : Nat) : Bool :=
  ranges.any fun r => r.1 ≤ n && n ≤ r.2

def isWhiteSpace (c : Char) : Bool :=
  inRanges whiteSpaceRanges c.toNat

/-- The characters without the white space at both ends. -/
def trimChars (cs : List Char) : List Char :=
  ((cs.dropWhile isWhiteSpace).reverse.dropWhile isWhiteSpace).reverse

/-- The text without the white space at both ends. -/
def trim (s : String) : String :=
  String.ofList (trimChars s.toList)

/-- A text of white space only, the empty one included. -/
def isBlank (s : String) : Bool :=
  s.toList.all isWhiteSpace

/-- Equality up to the case of ASCII letters. -/
def sameIgnoringCase (s t : String) : Bool :=
  s.toList.map Char.toLower == t.toList.map Char.toLower

end ControlPanel.Text
