import OrderDesk.Text.CodeRange

/-!
# Blank text

The characters with the Unicode property White_Space, and the texts that hold no other
character. Zero-width and other format characters are not white space.
-/

namespace OrderDesk.Text

/-- Boundaries of the property White_Space. -/
def whiteSpaceBoundaries : List Nat := [
    9, 14, 32, 33, 133, 134, 160, 161, 5760, 5761, 8192, 8203, 8232, 8234, 8239, 8240, 8287, 8288,
    12288, 12289]

/-- Whether a character is white space. -/
def isWhiteSpace (c : Char) : Bool := within whiteSpaceBoundaries c.toNat

/-- Whether a text holds nothing but white space. -/
def isBlank (text : String) : Bool := text.toList.all isWhiteSpace

end OrderDesk.Text
