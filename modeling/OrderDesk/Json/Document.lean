/-!
# JSON documents

The documents that are sent and stored, with their one written form: no blanks, members in the
order in which the document lists them. Numbers are integers, as no document here holds others.

Writing goes through the list of tokens, so that it can be said where a reader has to accept
white space: before, between and after them.
-/

namespace OrderDesk

/-- A JSON document. -/
inductive Json where
  | null
  | bool (value : Bool)
  | number (value : Int)
  | text (value : String)
  | array (items : List Json)
  | object (members : List (String × Json))
  deriving Repr

namespace Json

/-- A nibble as a lower-case hexadecimal digit. -/
def hexDigit (n : Nat) : Char := Nat.digitChar n

/-- How one character is written inside a text: quotes and backslashes are escaped, and controls
    by their short escape if they have one. -/
def escapeChar (c : Char) : List Char :=
  if c = '\"' then ['\\', '\"']
  else if c = '\\' then ['\\', '\\']
  else if c = '\x08' then ['\\', 'b']
  else if c = '\x0c' then ['\\', 'f']
  else if c = '\n' then ['\\', 'n']
  else if c = '\r' then ['\\', 'r']
  else if c = '\t' then ['\\', 't']
  else if c.toNat < 0x20 then
    ['\\', 'u', '0', '0', hexDigit (c.toNat / 16), hexDigit (c.toNat % 16)]
  else [c]

/-- The written form of a text. -/
def quote (text : String) : String :=
  String.ofList ('\"' :: (text.toList.flatMap escapeChar ++ ['\"']))

mutual

/-- The tokens of a document's written form. -/
def tokens : Json → List String
  | null => ["null"]
  | bool true => ["true"]
  | bool false => ["false"]
  | number value => [toString value]
  | text value => [quote value]
  | array [] => ["[", "]"]
  | array (item :: rest) => "[" :: (item.tokens ++ itemTokens rest)
  | object [] => ["\x7b", "\x7d"]
  | object ((name, value) :: rest) =>
    "\x7b" :: quote name :: ":" :: (value.tokens ++ memberTokens rest)

/-- The tokens of the further items of an array, up to its end. -/
def itemTokens : List Json → List String
  | [] => ["]"]
  | item :: rest => "," :: (item.tokens ++ itemTokens rest)

/-- The tokens of the further members of an object, up to its end. -/
def memberTokens : List (String × Json) → List String
  | [] => ["\x7d"]
  | (name, value) :: rest => "," :: quote name :: ":" :: (value.tokens ++ memberTokens rest)

end

/-- The written form of a document. -/
def render (document : Json) : String := String.join document.tokens

/-- The member of an object under a name. -/
def member? : Json → String → Option Json
  | object members, name => (members.find? (·.1 = name)).map (·.2)
  | _, _ => none

end Json

end OrderDesk
