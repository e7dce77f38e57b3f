import TemporalMonitor.Text.Boundaries

/-!
White space, and texts that hold nothing else.
-/

namespace TemporalMonitor.Text

/-- The code points with the white space property. -/
def whiteSpace : Boundaries where
  points :=
    [0x9, 0xE, 0x20, 0x21, 0x85, 0x86, 0xA0, 0xA1, 0x1680, 0x1681, 0x2000, 0x200B, 0x2028, 0x202A,
     0x202F, 0x2030, 0x205F, 0x2060, 0x3000, 0x3001]

def isWhiteSpace (c : Char) : Bool :=
  whiteSpace.contains c.toNat

/-- A blank text names nothing: it is empty or holds white space only. -/
def isBlank (text : String) : Bool :=
  text.toList.all isWhiteSpace

/-- The text without the white space in front. -/
def skipWhiteSpace (text : List Char) : List Char :=
  text.dropWhile isWhiteSpace

end TemporalMonitor.Text
