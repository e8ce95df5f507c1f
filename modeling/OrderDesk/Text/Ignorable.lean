import OrderDesk.Text.CodeRange

/-!
# Ignorable characters

The characters with the Unicode property Default_Ignorable_Code_Point: joiners, fillers,
selectors and the like, which show nothing of their own. Some of them are letters or marks.
-/

namespace OrderDesk.Text

/-- Boundaries of the property Default_Ignorable_Code_Point. -/
def ignorableBoundaries : List Nat := [
    173, 174, 847, 848, 1564, 1565, 4447, 4449, 6068, 6070, 6155, 6160, 8203, 8208, 8234, 8239,
    8288, 8304, 12644, 12645, 65024, 65040, 65279, 65280, 65440, 65441, 65520, 65529, 113824,
    113828, 119155, 119163, 917504, 921600]

/-- Whether a character shows nothing of its own. -/
def isIgnorable (c : Char) : Bool := within ignorableBoundaries c.toNat

end OrderDesk.Text
