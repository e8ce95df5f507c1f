import OrderDesk.Text.GraphemeExtend
import OrderDesk.Text.Ignorable
import OrderDesk.Text.Printable

/-!
# Quoted text

A text is quoted between double quotes so that a reader can tell what it holds: quotes,
backslashes and the common controls take a two-character escape, every other character that
cannot be seen on its own takes its code point in hexadecimal, and all else stands for itself.
-/

namespace OrderDesk.Text

/-- A code point as an escape, in hexadecimal without padding. -/
def codeEscape (c : Char) : List Char :=
  '\\' :: 'u' :: '\x7b' :: (Nat.toDigits 16 c.toNat ++ ['\x7d'])

/-- The voiced sound marks of half width. They extend the grapheme before them, but each is shown
    in a cell of its own. -/
def isHalfwidthMark (c : Char) : Bool := c.toNat = 0xFF9E || c.toNat = 0xFF9F

/-- Whether a character is shown on the character before it. -/
def isCombining (c : Char) : Bool := isGraphemeExtend c && !isHalfwidthMark c

/-- Whether a character can be seen on its own. -/
def isSeen (c : Char) : Bool := isPrintable c && !isIgnorable c && !isCombining c

/-- How one character is written between the quotes. -/
def quoteChar (c : Char) : List Char :=
  if c = '\x00' then ['\\', '0']
  else if c = '\t' then ['\\', 't']
  else if c = '\r' then ['\\', 'r']
  else if c = '\n' then ['\\', 'n']
  else if c = '\\' then ['\\', '\\']
  else if c = '\"' then ['\\', '\"']
  else if isSeen c then [c]
  else codeEscape c

/-- A text between double quotes. -/
def quote (text : String) : String :=
  String.ofList ('\"' :: (text.toList.flatMap quoteChar ++ ['\"']))

end OrderDesk.Text
