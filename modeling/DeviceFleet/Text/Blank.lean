import DeviceFleet.Text.Range

/-!
White space, and texts without it at their ends. Trimming a trimmed text changes nothing.
-/

namespace DeviceFleet.Text

/-- The code points that count as white space, from tab to the ideographic space. -/
def blanks : List (Nat × Nat) := [
  (0x9, 0xD), (0x20, 0x20), (0x85, 0x85), (0xA0, 0xA0), (0x1680, 0x1680), (0x2000, 0x200A),
  (0x2028, 0x2029), (0x202F, 0x202F), (0x205F, 0x205F), (0x3000, 0x3000)]

def isWhite (c : Char) : Bool := inRanges blanks c.toNat

def trimStart (s : List Char) : List Char := s.dropWhile isWhite

def trimEnd (s : List Char) : List Char := (s.reverse.dropWhile isWhite).reverse

def trimChars (s : List Char) : List Char := trimEnd (trimStart s)

/-- A text with nothing left after trimming. -/
def isBlank (s : String) : Bool := (trimChars s.toList).isEmpty

end DeviceFleet.Text
