/-!
# Media types

The value of a content type header: a type, a subtype that may have a suffix behind a plus sign,
and parameters, which have to be well-formed but are not kept. Names are compared without regard
to case.
-/

namespace OrderDesk.Http

/-- A media type without its parameters, in lower case. -/
structure MediaType where
  type : String
  subtype : String
  suffix : Option String
  deriving DecidableEq, Repr

namespace MediaType

/-- Whether a character may stand in a name or an unquoted value. -/
def isToken (c : Char) : Bool := c.isAlphanum || "!#$%&'*+-.^_\x60|~".toList.contains c

/-- Whether a character may stand in a header. -/
def isVisible (c : Char) : Bool := c = '\t' || (0x20 ≤ c.toNat && c.toNat < 0x7F)

/-- Whether a character may stand in a quoted value. -/
def isQuotable (c : Char) : Bool := 0x1F < c.toNat && c.toNat != 0x7F

/-- What follows a quoted value, from inside of it; its first character does not end it. -/
def afterQuoted? : List Char → Option (List Char)
  | [] => none
  | c :: rest =>
    if isQuotable c then
      match rest.dropWhile fun c => isQuotable c && c != '\"' with
      | '\"' :: rest => some rest
      | _ => none
    else none

/-- What follows a parameter's value, up to and with the semicolon behind it. -/
def afterValue? : List Char → Option (List Char)
  | '\"' :: rest =>
    match afterQuoted? rest with
    | none => none
    | some rest =>
      match rest.dropWhile (· = ' ') with
      | [] => some []
      | ';' :: rest => some rest
      | _ => none
  | value =>
    match value.dropWhile isToken with
    | [] => some []
    | ';' :: rest => if value.head? = some ';' then none else some rest
    | _ => none

/-- What follows a parameter, up to and with the semicolon behind it. -/
def afterParameter? (text : List Char) : Option (List Char) :=
  match text.takeWhile isToken, text.dropWhile isToken with
  | _ :: _, '=' :: value => afterValue? value
  | _, _ => none

/-- Whether a list of parameters is well-formed. Each step takes at least one character, so as
    many steps as there are characters suffice. -/
def parametersOk : Nat → List Char → Bool
  | _, [] => true
  | 0, _ => false
  | steps + 1, c :: rest =>
    if c = ' ' then parametersOk steps rest
    else
      match afterParameter? (c :: rest) with
      | none => false
      | some rest => parametersOk steps rest

/-- The subtype before the last plus sign, and the suffix behind it. A plus sign in front is part
    of the subtype. -/
def splitSuffix (name : List Char) : List Char × Option (List Char) :=
  let reversed := name.reverse
  match reversed.dropWhile (· != '+') with
  | '+' :: before =>
    if before.isEmpty then (name, none)
    else (before.reverse, some (reversed.takeWhile (· != '+')).reverse)
  | _ => (name, none)

/-- Text in lower case. -/
def lower (text : List Char) : String := String.ofList (text.map Char.toLower)

/-- The media type of a header. -/
def parse (header : String) : Option MediaType :=
  let text := header.toList
  if !text.all isVisible then none
  else
    match text.takeWhile isToken, text.dropWhile isToken with
    | type :: types, '/' :: rest =>
      let name := rest.takeWhile isToken
      let parts := splitSuffix name
      let found : MediaType := ⟨lower (type :: types), lower parts.1, parts.2.map lower⟩
      match rest.dropWhile isToken with
      | [] => some found
      | ';' :: parameters =>
        if !name.isEmpty && parametersOk parameters.length parameters then some found else none
      | _ => none
    | _, _ => none

/-- Whether a media type stands for JSON. -/
def isJson (media : MediaType) : Bool :=
  media.type = "application" && (media.subtype = "json" || media.suffix = some "json")

end MediaType

end OrderDesk.Http
