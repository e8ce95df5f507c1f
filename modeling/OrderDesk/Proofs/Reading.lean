import OrderDesk.Json.Shape
import OrderDesk.Proofs.Spelling

/-!
# Shapes read what is spelled

A shape reads a document if it takes every spelling of it off the input and yields the document.
Each way of building shapes keeps this: what the parts read, the whole reads.
-/

namespace OrderDesk.Json

/-- The white space and the bytes of the first token. -/
theorem Spells.uncons {token : String} {tokens : List String} {bytes : List UInt8}
    (spells : Spells (token :: tokens) bytes) :
    ∃ space later, bytes = space ++ (Utf8.encode token ++ later) ∧
      (∀ byte ∈ space, isSpace byte = true) ∧ Spells tokens later := by
  cases spells with
  | cons blank rest => exact ⟨_, _, rfl, blank, rest⟩

/-- Behind the white space stands the first token. -/
theorem Spells.skipSpace_append {token : String} {tokens : List String} {bytes front : List UInt8}
    {byte : UInt8} (spells : Spells (token :: tokens) bytes)
    (written : Utf8.encode token = byte :: front) (solid : isSpace byte = false)
    (rest : List UInt8) :
    ∃ later, skipSpace (bytes ++ rest) = byte :: (front ++ (later ++ rest)) ∧
      Spells tokens later := by
  obtain ⟨space, later, rfl, blank, behind⟩ := spells.uncons
  refine ⟨later, ?_, behind⟩
  rw [List.append_assoc, skipSpace_blank blank, written]
  simp only [List.cons_append, List.append_assoc]
  exact skipSpace_cons solid

/-- The same for a mark, which is a single byte. -/
theorem Spells.skipSpace_mark {token : String} {tokens : List String} {bytes : List UInt8}
    {byte : UInt8} (spells : Spells (token :: tokens) bytes)
    (written : Utf8.encode token = [byte]) (solid : isSpace byte = false) (rest : List UInt8) :
    ∃ later, skipSpace (bytes ++ rest) = byte :: (later ++ rest) ∧ Spells tokens later :=
  spells.skipSpace_append written solid rest

/-- A number does not go on behind its digits where a mark follows. -/
theorem Spells.noNumeral {token : String} {tokens : List String} {bytes : List UInt8} {byte : UInt8}
    (spells : Spells (token :: tokens) bytes) (written : Utf8.encode token = [byte])
    (stops : isDigit byte = false ∧ byte ≠ 0x2E ∧ byte ≠ 0x65 ∧ byte ≠ 0x45) (rest : List UInt8) :
    NoNumeral (bytes ++ rest) := by
  obtain ⟨space, later, rfl, blank, -⟩ := spells.uncons
  rw [List.append_assoc]
  apply noNumeral_of_blank blank
  rw [written]
  intro first member
  cases member
  exact stops

theorem encode_comma : Utf8.encode "," = [0x2C] := rfl
theorem encode_colon : Utf8.encode ":" = [0x3A] := rfl
theorem encode_openArray : Utf8.encode "[" = [0x5B] := rfl
theorem encode_closeArray : Utf8.encode "]" = [0x5D] := rfl
theorem encode_openObject : Utf8.encode "\x7b" = [0x7B] := rfl
theorem encode_closeObject : Utf8.encode "\x7d" = [0x7D] := rfl

namespace Shape

/-- A shape takes every spelling of a document off the input. -/
def Reads (shape : Shape) (document : Json) : Prop :=
  ∀ bytes rest, Spells document.tokens bytes → NoNumeral rest →
    shape.read (bytes ++ rest) = .ok (document, rest)

/-! ## Leaves -/

theorem encode_repr (n : Nat) : Utf8.encode n.repr = (Nat.toDigits 10 n).map byteOf := by
  rw [encode_of_ascii, Nat.toList_repr]
  intro c member
  rw [Nat.toList_repr] at member
  have bounds := toNat_of_isDigit (Nat.isDigit_of_mem_toDigits (by decide) (by decide) member)
  omega

/-- The first digit of a number. -/
theorem exists_digit (n : Nat) : ∃ byte more, (Nat.toDigits 10 n).map byteOf = byte :: more ∧
    isDigit byte = true ∧ isSpace byte = false ∧ byte ≠ 0x2D := by
  cases written : Nat.toDigits 10 n with
  | nil => exact absurd written Nat.toDigits_ne_nil
  | cons c more =>
    have member : c ∈ Nat.toDigits 10 n := by simp [written]
    have digit := Nat.isDigit_of_mem_toDigits (by decide) (by decide) member
    have bounds := toNat_of_isDigit digit
    have value : (byteOf c).toNat = c.toNat := toNat_byteOf (by omega)
    have apart : ∀ byte : UInt8, byte.toNat < 48 → byteOf c ≠ byte := by
      rintro byte low rfl
      omega
    refine ⟨_, _, rfl, isDigit_byteOf digit, ?_, apart 0x2D (by decide)⟩
    simp [isSpace, apart 0x20 (by decide), apart 0x09 (by decide), apart 0x0A (by decide),
      apart 0x0D (by decide)]

theorem reads_integer {low high n : Int} (inside : low ≤ n ∧ n ≤ high)
    (fits : Int64.minValue.toInt ≤ n ∧ n < UInt64.size) : (integer low high).Reads (.number n) := by
  intro bytes rest spells stops
  rw [Json.tokens] at spells
  obtain ⟨space, later, rfl, blank, behind⟩ := spells.uncons
  cases behind
  rw [List.append_nil, List.append_assoc]
  simp only [integer, skipSpace_blank blank]
  cases n with
  | ofNat m =>
    have written : Utf8.encode (toString (Int.ofNat m)) = (Nat.toDigits 10 m).map byteOf :=
      encode_repr m
    have below : m < UInt64.size := Int.ofNat_lt.1 fits.2
    have whole :
        readNumber false ((Nat.toDigits 10 m).map byteOf ++ rest) = .ok (some (m : Int), rest) :=
      readNumber_digitsOf ⟨below, rfl⟩ stops
    obtain ⟨byte, more, digits, digit, solid, positive⟩ := exists_digit m
    rw [written]
    rw [digits, List.cons_append] at whole ⊢
    rw [skipSpace_cons solid]
    simp only [if_neg positive, digit, if_true, whole, inRange]
    exact if_pos inside
  | negSucc m =>
    have written : Utf8.encode (toString (Int.negSucc m)) =
        0x2D :: (Nat.toDigits 10 (m + 1)).map byteOf := by
      show Utf8.encode ("-" ++ (m + 1).repr) = _
      rw [encode_append, encode_repr]
      rfl
    have whole : readNumber true ((Nat.toDigits 10 (m + 1)).map byteOf ++ rest) =
        .ok (some (Int.negSucc m), rest) := by
      apply readNumber_digitsOf _ stops
      rw [if_pos rfl]
      omega
    rw [written, List.cons_append, skipSpace_cons (by decide)]
    simp only [if_true, whole, inRange]
    exact if_pos inside

theorem reads_choice {names : List String} {name : String} (listed : name ∈ names)
    (plain : Plain name) : (choice names).Reads (.text name) := by
  intro bytes rest spells stops
  rw [Json.tokens] at spells
  obtain ⟨later, skipped, behind⟩ := spells.skipSpace_append (encode_quote plain) (by decide) rest
  cases behind
  have found := readText_plain plain rest
  simp only [List.nil_append, List.append_assoc, List.singleton_append] at skipped
  simp only [choice, skipped, found, oneOf, List.contains_iff_mem.2 listed, if_true]

/-! ## Arrays -/

theorem encode_quote_eq_cons (text : String) : ∃ more, Utf8.encode (quote text) = 0x22 :: more := by
  rw [Utf8.encode, quote, String.toList_ofList, List.flatMap_cons]
  exact ⟨_, rfl⟩

/-- No document starts with white space or with the end of an array. -/
theorem exists_first (document : Json) : ∃ token tokens byte front,
    document.tokens = token :: tokens ∧ Utf8.encode token = byte :: front ∧
      isSpace byte = false ∧ byte ≠ 0x5D := by
  cases document with
  | null => exact ⟨"null", [], 0x6E, [0x75, 0x6C, 0x6C], by rw [Json.tokens], rfl, rfl, by decide⟩
  | bool value =>
    cases value with
    | true => exact ⟨"true", [], 0x74, [0x72, 0x75, 0x65], by rw [Json.tokens], rfl, rfl, by decide⟩
    | false =>
      exact ⟨"false", [], 0x66, [0x61, 0x6C, 0x73, 0x65], by rw [Json.tokens], rfl, rfl, by decide⟩
  | number n =>
    refine ⟨toString n, [], ?_⟩
    cases n with
    | ofNat m =>
      obtain ⟨byte, more, digits, digit, solid, -⟩ := exists_digit m
      refine ⟨byte, more, by rw [Json.tokens], (encode_repr m).trans digits, solid, ?_⟩
      rintro rfl
      cases digit
    | negSucc m =>
      refine ⟨0x2D, (Nat.toDigits 10 (m + 1)).map byteOf, by rw [Json.tokens], ?_, rfl, by decide⟩
      show Utf8.encode ("-" ++ (m + 1).repr) = _
      rw [encode_append, encode_repr]
      rfl
  | text value =>
    obtain ⟨more, written⟩ := encode_quote_eq_cons value
    exact ⟨quote value, [], 0x22, more, by rw [Json.tokens], written, rfl, by decide⟩
  | array items =>
    cases items with
    | nil => exact ⟨"[", ["]"], 0x5B, [], by rw [Json.tokens], rfl, rfl, by decide⟩
    | cons item rest =>
      exact ⟨"[", item.tokens ++ itemTokens rest, 0x5B, [], by rw [Json.tokens], rfl,
        rfl, by decide⟩
  | object members =>
    cases members with
    | nil => exact ⟨"\x7b", ["\x7d"], 0x7B, [], by rw [Json.tokens], rfl, rfl, by decide⟩
    | cons entry rest =>
      exact ⟨"\x7b", quote entry.1 :: ":" :: (entry.2.tokens ++ memberTokens rest), 0x7B, [],
        by rw [Json.tokens], rfl, rfl, by decide⟩

/-- What spells a document, behind its white space. -/
theorem skipSpace_document {document : Json} {bytes : List UInt8}
    (spells : Spells document.tokens bytes) (rest : List UInt8) :
    ∃ byte later, skipSpace (bytes ++ rest) = byte :: later ++ rest ∧ byte ≠ 0x5D ∧
      Spells document.tokens (byte :: later) := by
  obtain ⟨token, tokens, byte, front, listed, written, solid, goesOn⟩ := exists_first document
  rw [listed] at spells ⊢
  obtain ⟨later, skipped, behind⟩ := spells.skipSpace_append written solid rest
  refine ⟨byte, front ++ later, ?_, goesOn, ?_⟩
  · rw [skipped, List.cons_append, List.append_assoc]
  · have unspaced : ∀ byte ∈ ([] : List UInt8), isSpace byte = true := by simp
    have whole : Spells (token :: tokens) ([] ++ (Utf8.encode token ++ later)) :=
      .cons unspaced behind
    rwa [written] at whole

theorem noNumeral_items {items : List Json} {bytes : List UInt8}
    (spells : Spells (itemTokens items) bytes) (rest : List UInt8) : NoNumeral (bytes ++ rest) := by
  cases items with
  | nil =>
    rw [itemTokens] at spells
    exact spells.noNumeral encode_closeArray (by decide) rest
  | cons item items =>
    rw [itemTokens] at spells
    exact spells.noNumeral encode_comma (by decide) rest

theorem length_lt_items {items : List Json} {bytes : List UInt8}
    (spells : Spells (itemTokens items) bytes) : items.length < bytes.length := by
  induction items generalizing bytes with
  | nil =>
    rw [itemTokens] at spells
    obtain ⟨space, later, rfl, -, -⟩ := spells.uncons
    simp only [List.length_append, encode_closeArray, List.length_cons, List.length_nil]
    omega
  | cons item rest ih =>
    rw [itemTokens] at spells
    obtain ⟨space, later, rfl, -, behind⟩ := spells.uncons
    obtain ⟨front, back, rfl, -, tail⟩ := behind.split
    have shorter := ih tail
    simp only [List.length_append, encode_comma, List.length_cons, List.length_nil]
    omega

/-- One step of reading an array that has not ended. -/
theorem items_cons {shape : Shape} {steps : Nat} {first : Bool} {byte : UInt8}
    {input rest next after last : List UInt8} {item : Json} {tail : List Json}
    (here : skipSpace input = byte :: rest) (goesOn : byte ≠ 0x5D)
    (ahead : (if first then .ok (byte :: rest) else comma (byte :: rest)) = .ok next)
    (taken : shape.read next = .ok (item, after))
    (others : Shape.items shape steps false after = .ok (tail, last)) :
    Shape.items shape (steps + 1) first input = .ok (item :: tail, last) := by
  unfold Shape.items
  rw [here]
  split
  · rename_i equal
    cases equal
    exact absurd rfl goesOn
  · rw [ahead]
    simp only [taken, others]

theorem comma_cons (rest : List UInt8) : comma (0x2C :: rest) = .ok rest := rfl

theorem items_spelled {shape : Shape} {items : List Json} {steps : Nat} {bytes : List UInt8}
    (enough : items.length < steps) (reads : ∀ item ∈ items, shape.Reads item)
    (spells : Spells (itemTokens items) bytes) (rest : List UInt8) :
    Shape.items shape steps false (bytes ++ rest) = .ok (items, rest) := by
  induction items generalizing steps bytes with
  | nil =>
    obtain ⟨steps, rfl⟩ := Nat.exists_eq_succ_of_ne_zero (Nat.ne_of_gt enough)
    rw [itemTokens] at spells
    obtain ⟨later, skipped, behind⟩ := spells.skipSpace_mark encode_closeArray rfl rest
    cases behind
    simp only [Shape.items, skipped, List.nil_append]
  | cons item more ih =>
    obtain ⟨steps, rfl⟩ := Nat.exists_eq_succ_of_ne_zero (Nat.ne_of_gt (Nat.zero_lt_of_lt enough))
    rw [itemTokens] at spells
    obtain ⟨later, skipped, behind⟩ := spells.skipSpace_mark encode_comma rfl rest
    obtain ⟨front, back, rfl, first, others⟩ := behind.split
    have taken := reads item (by simp) front (back ++ rest) first (noNumeral_items others rest)
    have tail := ih (Nat.lt_of_succ_lt_succ enough) (fun other inside =>
      reads other (by simp [inside])) others
    rw [List.append_assoc] at skipped
    exact items_cons skipped (by decide) (comma_cons _) taken tail

theorem reads_list {shape : Shape} {items : List Json} (reads : ∀ item ∈ items, shape.Reads item) :
    (list shape).Reads (.array items) := by
  intro bytes rest spells stops
  cases items with
  | nil =>
    rw [Json.tokens] at spells
    obtain ⟨later, skipped, behind⟩ := spells.skipSpace_mark encode_openArray rfl rest
    obtain ⟨last, closed, done⟩ := behind.skipSpace_mark encode_closeArray rfl rest
    cases done
    simp only [list, skipped, List.nil_append, Shape.items, closed]
  | cons item more =>
    rw [Json.tokens] at spells
    obtain ⟨later, skipped, behind⟩ := spells.skipSpace_mark encode_openArray rfl rest
    obtain ⟨front, back, rfl, first, others⟩ := behind.split
    obtain ⟨byte, start, here, goesOn, again⟩ := skipSpace_document first (back ++ rest)
    have taken := reads item (by simp) (byte :: start) (back ++ rest) again
      (noNumeral_items others rest)
    have enough : more.length < (front ++ (back ++ rest)).length := by
      have shorter := length_lt_items others
      rw [List.length_append, List.length_append]
      omega
    have tail := items_spelled enough (fun other inside =>
      reads other (by simp [inside])) others rest
    rw [List.append_assoc] at skipped
    have whole := items_cons here goesOn (if_pos rfl) taken tail
    simp only [list, skipped, whole]

/-! ## Records -/

/-- A field of a record with the document that stands in it. -/
structure Entry where
  name : String
  shape : Shape
  value : Json

namespace Entry

def field (entry : Entry) : String × Shape := (entry.name, entry.shape)

def member (entry : Entry) : String × Json := (entry.name, entry.value)

/-- The document is one that its field reads, under a plain name. -/
structure Fits (entry : Entry) : Prop where
  plain : Plain entry.name
  reads : entry.shape.Reads entry.value

end Entry

theorem lookup_of_mem {β : Type} {pairs : List (String × β)} (distinct : (pairs.map (·.1)).Nodup)
    {name : String} {value : β} (member : (name, value) ∈ pairs) :
    pairs.lookup name = some value := by
  induction pairs with
  | nil => cases member
  | cons first rest ih =>
    obtain ⟨fresh, others⟩ := List.nodup_cons.1 distinct
    rcases List.mem_cons.1 member with rfl | inside
    · exact List.lookup_cons_self
    · have apart : (name == first.1) = false := by
        rw [beq_eq_false_iff_ne]
        rintro rfl
        exact fresh (List.mem_map.2 ⟨_, inside, rfl⟩)
      rw [List.lookup_cons, apart]
      exact ih others inside

theorem lookup_of_notMem {β : Type} {pairs : List (String × β)} {name : String}
    (absent : name ∉ pairs.map (·.1)) : pairs.lookup name = none := by
  rw [List.lookup_eq_none_iff]
  intro pair member
  rw [bne_iff_ne]
  rintro rfl
  exact absent (List.mem_map_of_mem member)

/-- Members that were read in any order are put into that of the fields. -/
theorem arrange_of_lookup {read : List (String × Json)} {entries : List Entry}
    (found : ∀ entry ∈ entries, read.lookup entry.name = some entry.value) :
    arrange read (entries.map Entry.field) = .ok (entries.map Entry.member) := by
  induction entries with
  | nil => rfl
  | cons entry rest ih =>
    have here := found entry (by simp)
    have tail := ih fun other inside => found other (by simp [inside])
    simp only [List.map_cons, Entry.field, Entry.member, arrange, here, Option.some_or] at tail ⊢
    rw [tail]

section Members

variable {closed : Bool} {fields : List (String × Shape)} {entry : Entry} {entries : List Entry}
  {read : List (String × Json)}

/-- One member behind its opening quote. -/
theorem member_spelled (closed : Bool) (fits : entry.Fits)
    (field : fields.lookup entry.name = some entry.shape) (fresh : read.lookup entry.name = none)
    {bytes : List UInt8} (spells : Spells (":" :: entry.value.tokens) bytes) {rest : List UInt8}
    (stops : NoNumeral rest) :
    Shape.member closed fields read (entry.name.toList.map byteOf ++ 0x22 :: (bytes ++ rest)) =
      .ok (entry.member :: read, rest) := by
  obtain ⟨later, skipped, behind⟩ := spells.skipSpace_mark encode_colon rfl rest
  have taken := fits.reads later rest behind stops
  simp only [Shape.member, readText_plain fits.plain, field, fresh, colon, skipped, taken,
    Option.isSome_none, Bool.false_eq_true, if_false, Entry.member]

/-- One step of reading an object that has not ended. -/
theorem members_cons {steps : Nat} {first : Bool} {byte : UInt8}
    {input rest next text after : List UInt8} {more : List (String × Json)}
    (here : skipSpace input = byte :: rest) (goesOn : byte ≠ 0x7D)
    (ahead : (if first then .ok (byte :: rest) else comma (byte :: rest)) = .ok next)
    (quoted : skipSpace next = 0x22 :: text)
    (taken : Shape.member closed fields read text = .ok (more, after)) :
    members closed fields (steps + 1) first read input =
      members closed fields steps false more after := by
  conv => lhs; unfold members
  rw [here]
  split
  · rename_i equal
    cases equal
    exact absurd rfl goesOn
  · rw [ahead]
    simp only [quoted, taken]

theorem noNumeral_members {bytes : List UInt8}
    (spells : Spells (memberTokens (entries.map Entry.member)) bytes) (rest : List UInt8) :
    NoNumeral (bytes ++ rest) := by
  cases entries with
  | nil =>
    rw [List.map_nil, memberTokens] at spells
    exact spells.noNumeral encode_closeObject (by decide) rest
  | cons entry entries =>
    rw [List.map_cons, Entry.member, memberTokens] at spells
    exact spells.noNumeral encode_comma (by decide) rest

theorem length_lt_members {bytes : List UInt8}
    (spells : Spells (memberTokens (entries.map Entry.member)) bytes) :
    entries.length < bytes.length := by
  induction entries generalizing bytes with
  | nil =>
    rw [List.map_nil, memberTokens] at spells
    obtain ⟨space, later, rfl, -, -⟩ := spells.uncons
    simp only [List.length_append, encode_closeObject, List.length_cons, List.length_nil]
    omega
  | cons entry rest ih =>
    rw [List.map_cons, Entry.member, memberTokens] at spells
    obtain ⟨space, later, rfl, -, named⟩ := spells.uncons
    obtain ⟨space', later', rfl, -, valued⟩ := named.uncons
    obtain ⟨front, back, rfl, -, tail⟩ := valued.split (a := ":" :: entry.value.tokens)
    have shorter := ih tail
    simp only [List.length_append, encode_comma, List.length_cons, List.length_nil]
    omega

/-- The members of an object that come after those already read. -/
theorem members_spelled (closed : Bool) {steps : Nat} {bytes : List UInt8}
    {all : List (String × Json)} (enough : entries.length < steps)
    (fits : ∀ entry ∈ entries, entry.Fits)
    (listed : ∀ entry ∈ entries, fields.lookup entry.name = some entry.shape)
    (distinct : (entries.map Entry.name ++ read.map (·.1)).Nodup)
    (arranged : arrange ((entries.map Entry.member).reverse ++ read) fields = .ok all)
    (spells : Spells (memberTokens (entries.map Entry.member)) bytes) (rest : List UInt8) :
    members closed fields steps false read (bytes ++ rest) = .ok (all, rest) := by
  -- What was read so far grows from the front, so it is as free as the bytes are.
  induction entries generalizing steps bytes read with
  | nil =>
    obtain ⟨steps, rfl⟩ := Nat.exists_eq_succ_of_ne_zero (Nat.ne_of_gt enough)
    rw [List.map_nil, memberTokens] at spells
    obtain ⟨later, skipped, behind⟩ := spells.skipSpace_mark encode_closeObject rfl rest
    cases behind
    simp only [List.map_nil, List.reverse_nil, List.nil_append] at arranged
    simp only [members, skipped, arranged, List.nil_append]
  | cons entry more ih =>
    obtain ⟨steps, rfl⟩ := Nat.exists_eq_succ_of_ne_zero (Nat.ne_of_gt (Nat.zero_lt_of_lt enough))
    have here := fits entry (by simp)
    rw [List.map_cons, Entry.member, memberTokens] at spells
    obtain ⟨later, skipped, named⟩ := spells.skipSpace_mark encode_comma rfl rest
    obtain ⟨valued, quoted, behind⟩ := named.skipSpace_append (encode_quote here.plain) rfl rest
    obtain ⟨front, back, rfl, first, others⟩ := behind.split (a := ":" :: entry.value.tokens)
    have fresh : read.lookup entry.name = none := by
      apply lookup_of_notMem
      intro known
      have apart := (List.nodup_append.1 distinct).2.2
      exact apart entry.name (by simp) entry.name known rfl
    have later : (more.map Entry.name ++ (entry.member :: read).map (·.1)).Nodup :=
      List.perm_middle.nodup_iff.2 distinct
    have taken := member_spelled closed here (listed entry (by simp)) fresh first
      (noNumeral_members others rest)
    have tail := ih (Nat.lt_of_succ_lt_succ enough) (fun other inside =>
      fits other (by simp [inside]))
      (fun other inside => listed other (by simp [inside])) later (by simpa using arranged) others
    simp only [List.append_assoc, List.singleton_append] at quoted
    rw [← tail]
    exact members_cons skipped (by decide) (comma_cons _) quoted taken

end Members

/-- A record reads its fields back, as long as their names are plain and none comes twice. -/
theorem reads_record {closed : Bool} {entries : List Entry} (fits : ∀ entry ∈ entries, entry.Fits)
    (distinct : (entries.map Entry.name).Nodup) :
    (record closed (entries.map Entry.field)).Reads (.object (entries.map Entry.member)) := by
  intro bytes rest spells stops
  have listed : ∀ entry ∈ entries,
      (entries.map Entry.field).lookup entry.name = some entry.shape := by
    intro entry inside
    refine lookup_of_mem ?_ (List.mem_map.2 ⟨entry, inside, rfl⟩)
    rwa [List.map_map]
  have arranged : arrange ((entries.map Entry.member).reverse ++ []) (entries.map Entry.field) =
      .ok (entries.map Entry.member) := by
    apply arrange_of_lookup
    intro entry inside
    rw [List.append_nil]
    refine lookup_of_mem ?_ (by simpa using ⟨entry, inside, rfl⟩)
    rw [List.map_reverse, List.map_map]
    exact (List.reverse_perm _).nodup_iff.2 distinct
  cases entries with
  | nil =>
    rw [List.map_nil, Json.tokens] at spells
    obtain ⟨later, skipped, behind⟩ := spells.skipSpace_mark encode_openObject rfl rest
    obtain ⟨last, ended, done⟩ := behind.skipSpace_mark encode_closeObject rfl rest
    cases done
    simp only [record, skipped, members, ended, List.map_nil, arrange, List.nil_append]
  | cons entry more =>
    have here := fits entry (by simp)
    rw [List.map_cons, Entry.member, Json.tokens] at spells
    obtain ⟨named, skipped, behind⟩ := spells.skipSpace_mark encode_openObject rfl rest
    obtain ⟨valued, quoted, later⟩ := behind.skipSpace_append (encode_quote here.plain) rfl rest
    obtain ⟨front, back, rfl, first, others⟩ := later.split (a := ":" :: entry.value.tokens)
    simp only [List.append_assoc, List.singleton_append] at quoted
    have enough : more.length < (named ++ rest).length := by
      have shorter := length_lt_members others
      have skips : (skipSpace (named ++ rest)).length ≤ (named ++ rest).length :=
        (List.dropWhile_suffix isSpace).length_le
      rw [quoted] at skips
      simp only [List.length_cons, List.length_append] at skips ⊢
      omega
    have fresh : ([] : List (String × Json)).lookup entry.name = none := rfl
    have unread : (more.map Entry.name ++ [entry.member].map (·.1)).Nodup := by
      apply List.perm_middle.nodup_iff.2
      rwa [List.map_nil, List.append_nil]
    have taken := member_spelled closed here (listed entry (by simp)) fresh first
      (noNumeral_members others rest)
    have tail := members_spelled closed enough (fun other inside => fits other (by simp [inside]))
      (fun other inside => listed other (by simp [inside])) unread
        (by simpa using arranged) others rest
    simp only [record, skipped]
    rw [members_cons quoted (by decide) (if_pos rfl) (skipSpace_cons rfl) taken, tail]
    rfl

end Shape

end OrderDesk.Json
