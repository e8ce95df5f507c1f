import OrderDesk.Json.Number
import OrderDesk.Proofs.Encoding

/-!
# How documents are spelled

A document is spelled by the bytes of its tokens, with white space before each of them or none.
Here stands that the leaves of the reader take a spelled number or name off the input and leave
the rest as it is.
-/

namespace OrderDesk.Json

/-- Bytes that write tokens, one after the other, with white space before each or none. -/
inductive Spells : List String → List UInt8 → Prop where
  | nil : Spells [] []
  | cons {token : String} {tokens : List String} {space bytes : List UInt8}
      (blank : ∀ byte ∈ space, isSpace byte = true) (rest : Spells tokens bytes) :
      Spells (token :: tokens) (space ++ (Utf8.encode token ++ bytes))

theorem encode_append (a b : String) : Utf8.encode (a ++ b) = Utf8.encode a ++ Utf8.encode b := by
  simp [Utf8.encode]

/-- The written form of a document spells its tokens, without any white space. -/
theorem spells_join (tokens : List String) : Spells tokens (Utf8.encode (String.join tokens)) := by
  induction tokens with
  | nil => exact .nil
  | cons token rest ih =>
    have unspaced : ∀ byte ∈ ([] : List UInt8), isSpace byte = true := by simp
    rw [String.join_cons, encode_append]
    exact .cons unspaced ih

theorem Spells.split {a b : List String} {bytes : List UInt8} (spells : Spells (a ++ b) bytes) :
    ∃ front back, bytes = front ++ back ∧ Spells a front ∧ Spells b back := by
  induction a generalizing bytes with
  | nil => exact ⟨[], bytes, rfl, .nil, spells⟩
  | cons token rest ih =>
    cases spells with
    | cons blank later =>
      obtain ⟨front, back, rfl, first, second⟩ := ih later
      exact ⟨_, back, by simp only [List.append_assoc], .cons blank first, second⟩

/-! ## White space -/

theorem skipSpace_blank {space rest : List UInt8} (blank : ∀ byte ∈ space, isSpace byte = true) :
    skipSpace (space ++ rest) = skipSpace rest := by
  unfold skipSpace
  rw [List.dropWhile_append_of_pos blank]

theorem skipSpace_cons {byte : UInt8} {rest : List UInt8} (solid : isSpace byte = false) :
    skipSpace (byte :: rest) = byte :: rest := by
  unfold skipSpace
  rw [List.dropWhile_cons_of_neg (by simp [solid])]

/-! ## Digits -/

/-- Input that does not go on with a part of a number. -/
def NoNumeral (input : List UInt8) : Prop :=
  ∀ byte ∈ input.head?, isDigit byte = false ∧ byte ≠ 0x2E ∧ byte ≠ 0x65 ∧ byte ≠ 0x45

theorem noNumeral_nil : NoNumeral [] := by
  intro byte member
  cases member

theorem noNumeral_of_blank {space rest : List UInt8} (blank : ∀ byte ∈ space, isSpace byte = true)
    (stops : NoNumeral rest) : NoNumeral (space ++ rest) := by
  cases space with
  | nil => exact stops
  | cons byte more =>
    intro first member
    have white := blank byte (by simp)
    cases member
    simp only [isSpace, Bool.or_eq_true, decide_eq_true_eq] at white
    rcases white with ((rfl | rfl) | rfl) | rfl <;> decide

theorem takeDigits_of_noNumeral {digits rest : List UInt8}
    (all : ∀ byte ∈ digits, isDigit byte = true) (stops : NoNumeral rest) :
    takeDigits (digits ++ rest) = (digits.map digitValue, rest) := by
  unfold takeDigits
  rw [List.takeWhile_append_of_pos all, List.dropWhile_append_of_pos all]
  cases rest with
  | nil => simp
  | cons byte more =>
    have other := (stops byte (by simp)).1
    simp [other]

/-! ## Characters of one byte -/

/-- The byte of a character below 128. -/
def byteOf (c : Char) : UInt8 := UInt8.ofNat c.toNat

theorem toNat_byteOf {c : Char} (ascii : c.toNat < 0x80) : (byteOf c).toNat = c.toNat := by
  rw [byteOf, UInt8.toNat_ofNat']
  exact Nat.mod_eq_of_lt (by omega)

theorem encode_of_ascii {text : String} (ascii : ∀ c ∈ text.toList, c.toNat < 0x80) :
    Utf8.encode text = text.toList.map byteOf := by
  unfold Utf8.encode
  generalize text.toList = chars at ascii ⊢
  induction chars with
  | nil => rfl
  | cons c rest ih =>
    have small : c.toNat ≤ 0x7F := Nat.le_of_lt_succ (ascii c (by simp))
    rw [List.flatMap_cons, List.map_cons, ih fun d member => ascii d (by simp [member])]
    simp [String.utf8EncodeChar, small, byteOf]

theorem toNat_of_isDigit {c : Char} (digit : c.isDigit = true) : 48 ≤ c.toNat ∧ c.toNat ≤ 57 := by
  simp only [Char.isDigit, Bool.and_eq_true, decide_eq_true_eq] at digit
  exact ⟨UInt32.le_iff_toNat_le.1 digit.1, UInt32.le_iff_toNat_le.1 digit.2⟩

theorem isDigit_byteOf {c : Char} (digit : c.isDigit = true) : isDigit (byteOf c) = true := by
  have bounds := toNat_of_isDigit digit
  have value : (byteOf c).toNat = c.toNat := toNat_byteOf (by omega)
  simp only [isDigit, Bool.and_eq_true, decide_eq_true_eq, UInt8.le_iff_toNat_le, value]
  exact bounds

theorem digitValue_byteOf {c : Char} (digit : c.isDigit = true) :
    digitValue (byteOf c) = c.toNat - 48 := by
  have bounds := toNat_of_isDigit digit
  rw [digitValue, toNat_byteOf (by omega)]

/-! ## Numbers -/

/-- The values of the decimal digits of a number. -/
def digitsOf (n : Nat) : List Nat := (Nat.toDigits 10 n).map fun c => c.toNat - 48

theorem ofDigits_digitsOf (n : Nat) : ofDigits (digitsOf n) = n := by
  have read : Nat.ofDigitChars 10 (Nat.toDigits 10 n) 0 = n := Nat.ofDigitChars_ten_toDigits
  rw [Nat.ofDigitChars_eq_foldl] at read
  rw [ofDigits, digitsOf, List.foldl_map]
  simp only [Nat.mul_comm _ 10]
  exact read

/-- The digits of a positive number do not start with zero. -/
theorem head_digitsOf {n : Nat} (pos : 0 < n) : ∀ digit ∈ (digitsOf n).head?, digit ≠ 0 := by
  unfold digitsOf
  induction n using Nat.strongRecOn with
  | ind n ih =>
    by_cases small : n < 10
    · rw [Nat.toDigits_of_lt_base small]
      intro digit member
      simp only [List.map_cons, List.head?_cons, Option.mem_some_iff,
        Nat.toNat_digitChar_sub_48_of_lt_ten small] at member
      omega
    · rw [Nat.toDigits_of_base_le (by decide) (Nat.le_of_not_lt small)]
      have leading := ih (n / 10) (by omega) (by omega)
      cases front : Nat.toDigits 10 (n / 10) with
      | nil => exact absurd front Nat.toDigits_ne_nil
      | cons c more =>
        rw [front] at leading
        exact leading

theorem takeDigits_digitsOf (n : Nat) {rest : List UInt8} (stops : NoNumeral rest) :
    takeDigits ((Nat.toDigits 10 n).map byteOf ++ rest) = (digitsOf n, rest) := by
  have digits : ∀ c ∈ Nat.toDigits 10 n, c.isDigit = true :=
    fun c member => Nat.isDigit_of_mem_toDigits (by decide) (by decide) member
  rw [takeDigits_of_noNumeral _ stops, List.map_map, digitsOf]
  · exact congrArg (·, rest) (List.map_congr_left fun c member =>
      digitValue_byteOf (digits c member))
  · intro byte member
    obtain ⟨c, inside, rfl⟩ := List.mem_map.1 member
    exact isDigit_byteOf (digits c inside)

theorem whole?_digitsOf (n : Nat) {rest : List UInt8} (stops : NoNumeral rest) :
    whole? ((Nat.toDigits 10 n).map byteOf ++ rest) = some (digitsOf n, rest) := by
  unfold whole?
  rw [takeDigits_digitsOf n stops]
  rcases Nat.eq_zero_or_pos n with rfl | pos
  · rfl
  · have leading := head_digitsOf pos
    cases written : digitsOf n with
    | nil => simp [digitsOf] at written
    | cons digit more =>
      rw [written] at leading
      have nonzero : digit ≠ 0 := leading digit rfl
      cases digit with
      | zero => exact absurd rfl nonzero
      | succ digit => rfl

theorem numeral?_digitsOf (negative : Bool) (n : Nat) {rest : List UInt8} (stops : NoNumeral rest) :
    numeral? negative ((Nat.toDigits 10 n).map byteOf ++ rest) =
      some (⟨negative, digitsOf n, [], none, false⟩, rest) := by
  unfold numeral?
  rw [whole?_digitsOf n stops]
  cases rest with
  | nil => rfl
  | cons byte more =>
    obtain ⟨-, point, small, large⟩ := stops byte rfl
    have pointless : fraction? (byte :: more) = some (none, byte :: more) := by
      unfold fraction?
      split
      · rename_i equal
        cases equal
        exact absurd rfl point
      · rfl
    simp [pointless, exponent?, small, large]

/-- A number that a 64-bit word holds is read back behind its sign. -/
theorem readNumber_digitsOf {negative : Bool} {n : Nat} {value : Int} {rest : List UInt8}
    (fits : if negative then 0 < n ∧ Int64.minValue.toInt ≤ -n ∧ value = -n
      else n < UInt64.size ∧ value = n)
    (stops : NoNumeral rest) :
    readNumber negative ((Nat.toDigits 10 n).map byteOf ++ rest) = .ok (some value, rest) := by
  unfold readNumber
  rw [numeral?_digitsOf negative n stops]
  simp only [Numeral.toInt?, ofDigits_digitsOf]
  cases negative with
  | false =>
    obtain ⟨below, rfl⟩ := fits
    simp only [Bool.false_eq_true, if_false, if_pos below]
  | true =>
    obtain ⟨pos, below, rfl⟩ := fits
    simp only [Bool.false_eq_true, if_false, if_true, if_pos (And.intro pos below)]

/-! ## Names -/

/-- A character that is written as it is: no control, quote or backslash, and none above 127. -/
def PlainChar (c : Char) : Prop := 0x20 ≤ c.toNat ∧ c.toNat < 0x80 ∧ c ≠ '\"' ∧ c ≠ '\\'

instance (c : Char) : Decidable (PlainChar c) :=
  inferInstanceAs (Decidable (0x20 ≤ c.toNat ∧ c.toNat < 0x80 ∧ c ≠ '\"' ∧ c ≠ '\\'))

/-- A text of such characters. -/
def Plain (text : String) : Prop := ∀ c ∈ text.toList, PlainChar c

instance (text : String) : Decidable (Plain text) := List.decidableBAll PlainChar text.toList

theorem escapeChar_of_plain {c : Char} (plain : PlainChar c) : escapeChar c = [c] := by
  obtain ⟨seen, -, quote, backslash⟩ := plain
  have control : ∀ d : Char, d.toNat < 0x20 → c ≠ d := by
    rintro d low rfl
    omega
  unfold escapeChar
  rw [if_neg quote, if_neg backslash, if_neg (control _ (by decide)),
    if_neg (control _ (by decide)), if_neg (control _ (by decide)), if_neg (control _ (by decide)),
    if_neg (control _ (by decide)),
    if_neg (by omega)]

/-- A plain text is spelled by its own bytes between quotes. -/
theorem encode_quote {text : String} (plain : Plain text) :
    Utf8.encode (quote text) = 0x22 :: (text.toList.map byteOf ++ [0x22]) := by
  have written : text.toList.flatMap escapeChar = text.toList := by
    rw [List.flatMap_def, List.map_congr_left fun c member => escapeChar_of_plain (plain c member),
      ← List.flatMap_def]
    exact List.flatMap_singleton' text.toList
  rw [quote, written, encode_of_ascii]
  · simp [byteOf]
  · intro c member
    simp only [String.toList_ofList, List.mem_cons, List.mem_append, List.not_mem_nil,
      or_false] at member
    rcases member with rfl | inside | rfl
    · decide
    · exact (plain c inside).2.1
    · decide

theorem textBytes?_plain {chars : List Char}
    (plain : ∀ c ∈ chars, PlainChar c) (rest : List UInt8) :
    textBytes? (chars.map byteOf ++ 0x22 :: rest) = some (chars.map byteOf, rest) := by
  induction chars with
  | nil => simp [textBytes?]
  | cons c more ih =>
    obtain ⟨seen, ascii, quote, backslash⟩ := plain c (by simp)
    have value := toNat_byteOf ascii
    have apart : ∀ d : Char, d.toNat < 0x80 → c ≠ d → byteOf c ≠ byteOf d := by
      intro d low other equal
      have same := congrArg UInt8.toNat equal
      rw [value, toNat_byteOf low] at same
      exact other (Char.toNat_inj.1 same)
    have noQuote : byteOf c ≠ 0x22 := apart '\"' (by decide) quote
    have noBackslash : byteOf c ≠ 0x5C := apart '\\' (by decide) backslash
    have visible : ¬ byteOf c < 0x20 := by
      rw [UInt8.lt_iff_toNat_lt, value]
      exact Nat.not_lt.2 seen
    rw [List.map_cons, List.cons_append, textBytes?]
    · rw [if_neg (by simp [visible, noBackslash]), ih fun d member => plain d (by simp [member])]
      rfl
    · exact noQuote
    · exact fun _ _ _ _ _ equal => absurd equal noBackslash
    · exact fun _ _ equal => absurd equal noBackslash

theorem decode_ascii {chars : List Char} (ascii : ∀ c ∈ chars, c.toNat < 0x80) :
    Utf8.decode (chars.map byteOf) = .ok chars := by
  have bytes : Utf8.encode (String.ofList chars) = chars.map byteOf := by
    rw [encode_of_ascii (by simpa using ascii), String.toList_ofList]
  rw [Utf8.decode_eq_ok_iff, ← bytes, Utf8.encode_ofList]

/-- A plain text is read back behind its opening quote. -/
theorem readText_plain {text : String} (plain : Plain text) (rest : List UInt8) :
    readText (text.toList.map byteOf ++ 0x22 :: rest) = .ok (text, rest) := by
  unfold readText
  rw [textBytes?_plain plain]
  simp only [decode_ascii fun c member => (plain c member).2.1, String.ofList_toList]

end OrderDesk.Json
