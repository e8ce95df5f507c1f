/-!
# Sets of code points by their boundaries

A character property is held as the ascending list of the code points at which membership
changes: outside below the first, inside from the first, outside again from the second. The
tables of the other modules of this folder have this form.
-/

namespace OrderDesk.Text

/-- Whether a code point lies in the set with the given boundaries: as many of them are at most
    the code point as make the membership switched on. -/
def within (boundaries : List Nat) (code : Nat) : Bool :=
  (boundaries.takeWhile (· ≤ code)).length % 2 == 1

end OrderDesk.Text
