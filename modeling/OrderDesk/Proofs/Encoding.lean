import OrderDesk.Text.Utf8

/-!
# UTF-8 is read exactly where it is written

A character is laid out over one to four bytes: the bits of its number stand behind a mark in the
first byte and, six in each, in the bytes that continue it. Other values can be laid out in the same
way, and small ones over more bytes than they need. What is read is the layout of a character over
the bytes that it needs, and nothing else; where reading fails, no character is encoded.
-/

namespace OrderDesk.Utf8

/-- Where the offending sequence of a fault starts. -/
def Fault.index : Fault → Nat
  | .invalid _ index => index
  | .incomplete index => index

/-! ## Layouts -/

/-- Over how many bytes a value is laid out. -/
inductive Width where
  | one
  | two
  | three
  | four
  deriving DecidableEq, Repr

/-- The values that can be laid out over so many bytes are below this one. -/
def Width.limit : Width → Nat
  | one => 0x80
  | two => 0x800
  | three => 0x10000
  | four => 0x200000

/-- The values below this one can be laid out over fewer bytes. -/
def Width.least : Width → Nat
  | one => 0
  | two => 0x80
  | three => 0x800
  | four => 0x10000

/-- The byte that continues a layout with the lowest six bits of a value. -/
def tailByte (value : Nat) : UInt8 := UInt8.ofNat (value % 0x40 + 0x80)

/-- The layout of a value. -/
def layout : Width → Nat → List UInt8
  | .one, value => [UInt8.ofNat value]
  | .two, value => [UInt8.ofNat (value / 0x40 + 0xC0), tailByte value]
  | .three, value => [UInt8.ofNat (value / 0x1000 + 0xE0), tailByte (value / 0x40), tailByte value]
  | .four, value => [UInt8.ofNat (value / 0x40000 + 0xF0), tailByte (value / 0x1000),
      tailByte (value / 0x40), tailByte value]

/-- A value is the number of a character, and needs so many bytes. -/
structure Proper (width : Width) (value : Nat) : Prop where
  least : width.least ≤ value
  limit : value < width.limit
  valid : value.isValidChar

variable {width other : Width} {value total index seen : Nat} {byte : UInt8}
    {bytes rest : List UInt8}
  {places : List Span} {c : Char}

theorem Proper.unique (first : Proper width value) (second : Proper other value) :
    width = other := by
  obtain ⟨least, limit, -⟩ := first
  obtain ⟨otherLeast, otherLimit, -⟩ := second
  cases width <;> cases other <;> simp only [Width.least, Width.limit] at * <;> omega

/-- A character is encoded by its layout over the bytes that it needs. -/
theorem exists_encodeChar (c : Char) :
    ∃ width, Proper width c.toNat ∧ String.utf8EncodeChar c = layout width c.toNat := by
  have valid : c.toNat.isValidChar := c.valid
  have top : c.toNat < 0x110000 := by
    rcases valid with below | above
    · omega
    · exact above.2
  unfold String.utf8EncodeChar
  simp only [show c.val.toNat = c.toNat from rfl]
  by_cases one : c.toNat ≤ 0x7F
  · exact ⟨.one, ⟨Nat.zero_le _, Nat.lt_succ_of_le one, valid⟩, if_pos one⟩
  by_cases two : c.toNat ≤ 0x7FF
  · refine ⟨.two, ⟨Nat.lt_of_not_le one, Nat.lt_succ_of_le two, valid⟩, ?_⟩
    have lead : c.toNat / 64 % 32 = c.toNat / 64 := by omega
    rw [if_neg one, if_pos two, lead]
    rfl
  by_cases three : c.toNat ≤ 0xFFFF
  · refine ⟨.three, ⟨Nat.lt_of_not_le two, Nat.lt_succ_of_le three, valid⟩, ?_⟩
    have lead : c.toNat / 4096 % 16 = c.toNat / 4096 := by omega
    rw [if_neg one, if_neg two, if_pos three, lead]
    rfl
  · refine ⟨.four, ⟨Nat.lt_of_not_le three, Nat.lt_trans top (by decide), valid⟩, ?_⟩
    have lead : c.toNat / 262144 % 8 = c.toNat / 262144 := by omega
    rw [if_neg one, if_neg two, if_neg three, lead]
    rfl

theorem toNat_ofNat (valid : value.isValidChar) : (Char.ofNat value).toNat = value := by
  unfold Char.ofNat
  rw [dif_pos valid]
  rfl

theorem encodeChar_ofNat (proper : Proper width value) :
    String.utf8EncodeChar (Char.ofNat value) = layout width value := by
  obtain ⟨other, same, encoded⟩ := exists_encodeChar (Char.ofNat value)
  rw [toNat_ofNat proper.valid] at same encoded
  rw [encoded, same.unique proper]

/-! ## Sequences -/

/-- A byte that continues a sequence. -/
def Tail (byte : UInt8) : Prop := 0x80 ≤ byte.toNat ∧ byte.toNat < 0xC0

/-- What the first byte of a sequence says. The place behind it takes the bytes that continue a
    sequence, but none with which the value would need fewer bytes or be no character. -/
inductive Leads (byte : UInt8) : Nat → List Span → Prop where
  | one (small : byte.toNat < 0x80) : Leads byte byte.toNat []
  | two {value : Nat} (here : byte.toNat = value + 0xC0) (least : 2 ≤ value)
      (limit : value < 0x20) :
      Leads byte value [.tail]
  | three {value : Nat} {span : Span} (here : byte.toNat = value + 0xE0) (limit : value < 0x10)
      (admits : ∀ next, span.admits next = true ↔ Tail next ∧
        0x20 ≤ value * 64 + (next.toNat - 0x80) ∧
        (value * 64 + (next.toNat - 0x80) < 0x360 ∨ 0x380 ≤ value * 64 + (next.toNat - 0x80))) :
      Leads byte value [span, .tail]
  | four {value : Nat} {span : Span} (here : byte.toNat = value + 0xF0) (limit : value < 5)
      (admits : ∀ next, span.admits next = true ↔ Tail next ∧
        0x10 ≤ value * 64 + (next.toNat - 0x80) ∧ value * 64 + (next.toNat - 0x80) < 0x110) :
      Leads byte value [span, .tail, .tail]

theorem admits_iff {span : Span} :
    span.admits byte = true ↔ span.low.toNat ≤ byte.toNat ∧ byte.toNat ≤ span.high.toNat := by
  simp only [Span.admits, Bool.and_eq_true, decide_eq_true_eq, UInt8.le_iff_toNat_le]

theorem admits_tail : Span.tail.admits byte = true ↔ Tail byte := by
  rw [admits_iff, Tail]
  exact and_congr_right fun _ => (Nat.lt_succ_iff).symm

theorem admits_mk {low high : UInt8} :
    Span.admits ⟨low, high⟩ byte = true ↔ low.toNat ≤ byte.toNat ∧ byte.toNat ≤ high.toNat :=
  admits_iff

theorem leads_of_lead? (leads : lead? byte = some (value, places)) : Leads byte value places := by
  unfold lead? at leads
  simp only [UInt8.lt_iff_toNat_lt, ← UInt8.toNat_inj, UInt8.reduceToNat] at leads
  have said : ∀ {a : Nat} {b : List Span}, some (a, b) = some (value, places) →
      a = value ∧ b = places :=
    fun same => Prod.mk.inj (Option.some.inj same)
  -- One goal for each of the seven ranges of bytes that may come first, in their order.
  split at leads
  · obtain ⟨rfl, rfl⟩ := said leads
    exact .one ‹_›
  split at leads
  · cases leads
  split at leads
  · obtain ⟨rfl, rfl⟩ := said leads
    exact .two (by omega) (by omega) (by omega)
  split at leads
  · obtain ⟨rfl, rfl⟩ := said leads
    refine .three (by omega) (by omega) fun next => ?_
    simp only [admits_mk, Tail, UInt8.reduceToNat]
    omega
  split at leads
  · obtain ⟨rfl, rfl⟩ := said leads
    refine .three (by omega) (by omega) fun next => ?_
    simp only [admits_mk, Tail, UInt8.reduceToNat]
    omega
  split at leads
  · obtain ⟨rfl, rfl⟩ := said leads
    refine .three (by omega) (by omega) fun next => ?_
    simp only [admits_tail, Tail]
    omega
  split at leads
  · obtain ⟨rfl, rfl⟩ := said leads
    refine .four (by omega) (by omega) fun next => ?_
    simp only [admits_mk, Tail, UInt8.reduceToNat]
    omega
  split at leads
  · obtain ⟨rfl, rfl⟩ := said leads
    refine .four (by omega) (by omega) fun next => ?_
    simp only [admits_tail, Tail]
    omega
  split at leads
  · obtain ⟨rfl, rfl⟩ := said leads
    refine .four (by omega) (by omega) fun next => ?_
    simp only [admits_mk, Tail, UInt8.reduceToNat]
    omega
  · cases leads

theorem exists_lead? (starts : byte.toNat < 0x80 ∨ 0xC2 ≤ byte.toNat ∧ byte.toNat < 0xF5) :
    ∃ value places, lead? byte = some (value, places) := by
  unfold lead?
  simp only [UInt8.lt_iff_toNat_lt, ← UInt8.toNat_inj, UInt8.reduceToNat]
  split
  · exact ⟨_, _, rfl⟩
  rw [if_neg (by omega)]
  iterate 7
    split
    · exact ⟨_, _, rfl⟩
  omega

/-- Bytes that fill the places of a sequence one after the other, and the value that they
    complete. -/
inductive Fills : List Span → Nat → List UInt8 → Nat → Prop where
  | done {value : Nat} : Fills [] value [] value
  | next {span : Span} {places : List Span} {value total : Nat} {byte : UInt8} {bytes : List UInt8}
      (admits : span.admits byte = true)
      (more : Fills places (value * 64 + (byte.toNat - 0x80)) bytes total) :
      Fills (span :: places) value (byte :: bytes) total

/-- The bytes of one sequence, with the value that they hold. -/
inductive Forms : List UInt8 → Nat → Prop where
  | intro {byte : UInt8} {bytes : List UInt8} {value total : Nat} {places : List Span}
      (leads : lead? byte = some (value, places)) (fills : Fills places value bytes total) :
      Forms (byte :: bytes) total

theorem eq_ofNat {n : Nat} (same : byte.toNat = n) : byte = UInt8.ofNat n := by
  rw [← same, UInt8.ofNat_toNat]

theorem toNat_tailByte (value : Nat) : (tailByte value).toNat = value % 0x40 + 0x80 := by
  rw [tailByte, UInt8.toNat_ofNat']
  omega

theorem tail_tailByte (value : Nat) : Tail (tailByte value) := by
  rw [Tail, toNat_tailByte]
  omega

theorem eq_tailByte (tail : Tail byte) (bits : byte.toNat - 0x80 = value % 0x40) :
    byte = tailByte value := by
  obtain ⟨low, -⟩ := tail
  exact eq_ofNat (by omega)

/-- A sequence is the layout of a character over the bytes that it needs. -/
theorem Forms.exists_layout (forms : Forms bytes value) :
    ∃ width, Proper width value ∧ bytes = layout width value := by
  obtain ⟨leads, fills⟩ := forms
  cases leads_of_lead? leads with
  | one small =>
    cases fills
    exact ⟨.one, ⟨Nat.zero_le _, small, .inl (by omega)⟩, by rw [layout, UInt8.ofNat_toNat]⟩
  | two here least limit =>
    obtain _ | ⟨admits, _ | _⟩ := fills
    have tail := admits_tail.1 admits
    have bounds := tail
    unfold Tail at bounds
    refine ⟨.two, ⟨?_, ?_, .inl ?_⟩, ?_⟩
    · simp only [Width.least]; omega
    · simp only [Width.limit]; omega
    · omega
    · simp only [layout, List.cons.injEq, and_true]
      exact ⟨eq_ofNat (by omega), eq_tailByte tail (by omega)⟩
  | three here limit admits =>
    obtain _ | ⟨fits, _ | ⟨last, _ | _⟩⟩ := fills
    obtain ⟨tail, least, character⟩ := (admits _).1 fits
    have closing := admits_tail.1 last
    have bounds := And.intro tail closing
    unfold Tail at bounds
    refine ⟨.three, ⟨?_, ?_, ?_⟩, ?_⟩
    · simp only [Width.least]; omega
    · simp only [Width.limit]; omega
    · unfold Nat.isValidChar; omega
    · simp only [layout, List.cons.injEq, and_true]
      exact ⟨eq_ofNat (by omega), eq_tailByte tail (by omega), eq_tailByte closing (by omega)⟩
  | four here limit admits =>
    obtain _ | ⟨fits, _ | ⟨third, _ | ⟨last, _ | _⟩⟩⟩ := fills
    obtain ⟨tail, least, character⟩ := (admits _).1 fits
    have middle := admits_tail.1 third
    have closing := admits_tail.1 last
    have bounds := And.intro tail (And.intro middle closing)
    unfold Tail at bounds
    refine ⟨.four, ⟨?_, ?_, ?_⟩, ?_⟩
    · simp only [Width.least]; omega
    · simp only [Width.limit]; omega
    · unfold Nat.isValidChar; omega
    · simp only [layout, List.cons.injEq, and_true]
      exact ⟨eq_ofNat (by omega), eq_tailByte tail (by omega), eq_tailByte middle (by omega),
        eq_tailByte closing (by omega)⟩

theorem Fills.last (bits : value * 64 + total % 0x40 = total) :
    Fills [.tail] value [tailByte total] total := by
  refine .next (admits_tail.2 (tail_tailByte total)) ?_
  rw [toNat_tailByte, Nat.add_sub_cancel, bits]
  exact .done

/-- The layout of a character over the bytes that it needs is a sequence. -/
theorem Proper.forms (proper : Proper width value) : Forms (layout width value) value := by
  obtain ⟨least, limit, valid⟩ := proper
  unfold Nat.isValidChar at valid
  cases width with
  | one =>
    have first : (UInt8.ofNat value).toNat = value :=
      UInt8.toNat_ofNat_of_lt (Nat.lt_trans limit (by decide))
    have starts : (UInt8.ofNat value).toNat < 0x80 := by rwa [first]
    obtain ⟨bits, places, leads⟩ := exists_lead? (.inl starts)
    cases leads_of_lead? leads with
    | one small =>
      rw [first] at leads
      exact .intro leads .done
    | two here least => omega
    | three here => omega
    | four here => omega
  | two =>
    simp only [Width.least, Width.limit] at least limit
    have first : (UInt8.ofNat (value / 0x40 + 0xC0)).toNat = value / 0x40 + 0xC0 :=
      UInt8.toNat_ofNat_of_lt (by rw [UInt8.size]; omega)
    obtain ⟨bits, places, leads⟩ := exists_lead? (.inr (by rw [first]; omega))
    cases leads_of_lead? leads with
    | one small => omega
    | two here => exact .intro leads (.last (by omega))
    | three here => omega
    | four here => omega
  | three =>
    simp only [Width.least, Width.limit] at least limit
    have first : (UInt8.ofNat (value / 0x1000 + 0xE0)).toNat = value / 0x1000 + 0xE0 :=
      UInt8.toNat_ofNat_of_lt (by rw [UInt8.size]; omega)
    obtain ⟨bits, places, leads⟩ := exists_lead? (.inr (by rw [first]; omega))
    have second := toNat_tailByte (value / 0x40)
    cases leads_of_lead? leads with
    | one small => omega
    | two here least limit => omega
    | three here limit admits =>
      refine .intro leads (.next ((admits _).2 ⟨tail_tailByte _, by omega, by omega⟩) (.last ?_))
      omega
    | four here => omega
  | four =>
    simp only [Width.least, Width.limit] at least limit
    have first : (UInt8.ofNat (value / 0x40000 + 0xF0)).toNat = value / 0x40000 + 0xF0 :=
      UInt8.toNat_ofNat_of_lt (by rw [UInt8.size]; omega)
    obtain ⟨bits, places, leads⟩ := exists_lead? (.inr (by rw [first]; omega))
    have second := toNat_tailByte (value / 0x1000)
    have third := toNat_tailByte (value / 0x40)
    cases leads_of_lead? leads with
    | one small => omega
    | two here least limit => omega
    | three here limit => omega
    | four here limit admits =>
      refine .intro leads (.next ((admits _).2 ⟨tail_tailByte _, by omega, by omega⟩)
        (.next (admits_tail.2 (tail_tailByte _)) (.last ?_)))
      omega

theorem forms_encodeChar (c : Char) : Forms (String.utf8EncodeChar c) c.toNat := by
  obtain ⟨width, proper, encoded⟩ := exists_encodeChar c
  rw [encoded]
  exact proper.forms

theorem Forms.eq_encodeChar (forms : Forms bytes value) :
    bytes = String.utf8EncodeChar (Char.ofNat value) := by
  obtain ⟨width, proper, rfl⟩ := forms.exists_layout
  exact (encodeChar_ofNat proper).symm

/-! ## Reading -/

/-- Reading fails at the sequence that starts at an index. -/
def StopsAt (index : Nat) (result : Except Fault (List Char)) : Prop :=
  ∃ fault, result = .error fault ∧ fault.index = index

/-- Once its places are filled, a sequence is a character, and reading goes on behind it. -/
theorem Fills.decodeFrom {span : Span} (fills : Fills (span :: places) value bytes total)
    (index seen : Nat) (rest : List UInt8) :
    decodeFrom index (span :: places) seen value (bytes ++ rest) =
      (Utf8.decodeFrom (index + seen + bytes.length) [] 0 0 rest).map (Char.ofNat total :: ·) := by
  induction places generalizing span value bytes seen with
  | nil =>
    obtain _ | ⟨admits, _ | _⟩ := fills
    simp only [List.cons_append, List.nil_append, Utf8.decodeFrom, admits, if_true]
    rfl
  | cons following places ih =>
    obtain _ | ⟨admits, more⟩ := fills
    have later := ih more (seen + 1)
    simp only [List.cons_append, Utf8.decodeFrom, admits, if_true]
    rw [later, List.length_cons, Nat.add_assoc, Nat.add_assoc, Nat.add_comm 1, ← Nat.add_assoc]

/-- Bytes go on with some that fill the places of a sequence, or reading fails at it. -/
theorem fills_or_stops (places : List Span) (span : Span) (index seen value : Nat)
    (bytes : List UInt8) :
    (∃ front rest total, bytes = front ++ rest ∧ Fills (span :: places) value front total) ∨
      StopsAt index (decodeFrom index (span :: places) seen value bytes) := by
  induction places generalizing span seen value bytes with
  | nil =>
    cases bytes with
    | nil => exact .inr ⟨_, by rw [decodeFrom], rfl⟩
    | cons byte bytes =>
      by_cases admits : span.admits byte = true
      · exact .inl ⟨[byte], bytes, _, rfl, .next admits .done⟩
      · exact .inr ⟨_, by rw [decodeFrom, if_neg admits], rfl⟩
  | cons following places ih =>
    cases bytes with
    | nil => exact .inr ⟨_, by rw [decodeFrom], rfl⟩
    | cons byte bytes =>
      by_cases admits : span.admits byte = true
      · rcases ih following (seen + 1) (value * 64 + (byte.toNat - 0x80)) bytes with
          ⟨front, rest, total, rfl, more⟩ | stops
        · exact .inl ⟨byte :: front, rest, total, rfl, .next admits more⟩
        · refine .inr ?_
          rw [decodeFrom, if_pos admits]
          exact stops
      · exact .inr ⟨_, by rw [decodeFrom, if_neg admits], rfl⟩

/-- A sequence in front is read as its character. -/
theorem Forms.decodeFrom (forms : Forms bytes total) (index : Nat) (rest : List UInt8) :
    decodeFrom index [] 0 0 (bytes ++ rest) =
      (Utf8.decodeFrom (index + bytes.length) [] 0 0 rest).map (Char.ofNat total :: ·) := by
  obtain @⟨byte, bytes, value, _, places, leads, fills⟩ := forms
  cases places with
  | nil =>
    cases fills
    simp only [List.cons_append, List.nil_append, Utf8.decodeFrom, leads, List.length_singleton]
  | cons span places =>
    have later := fills.decodeFrom index 1 rest
    simp only [List.cons_append, Utf8.decodeFrom, leads]
    rw [later, List.length_cons, Nat.add_assoc, Nat.add_comm 1]

/-- Bytes start with a sequence, or reading them fails right there. -/
theorem forms_or_stops (index : Nat) (byte : UInt8) (bytes : List UInt8) :
    (∃ front rest total, byte :: bytes = front ++ rest ∧ Forms front total) ∨
      StopsAt index (decodeFrom index [] 0 0 (byte :: bytes)) := by
  rcases leads : lead? byte with _ | ⟨value, _ | ⟨span, places⟩⟩
  · exact .inr ⟨_, by rw [decodeFrom, leads], rfl⟩
  · exact .inl ⟨[byte], bytes, value, rfl, .intro leads .done⟩
  · rcases fills_or_stops places span index 1 value bytes with
      ⟨front, rest, total, rfl, fills⟩ | stops
    · exact .inl ⟨byte :: front, rest, total, rfl, .intro leads fills⟩
    · refine .inr ?_
      rw [decodeFrom, leads]
      exact stops

/-! ## Texts -/

/-- The bytes of characters, one after the other. -/
def spell (chars : List Char) : List UInt8 := chars.flatMap String.utf8EncodeChar

theorem encode_eq_spell (text : String) : encode text = spell text.toList := rfl

theorem encode_ofList (chars : List Char) : encode (String.ofList chars) = spell chars := by
  rw [encode_eq_spell, String.toList_ofList]

theorem spell_cons (c : Char) (chars : List Char) :
    spell (c :: chars) = String.utf8EncodeChar c ++ spell chars :=
  List.flatMap_cons

theorem length_encodeChar_pos (c : Char) : 0 < (String.utf8EncodeChar c).length := by
  rw [String.length_utf8EncodeChar]
  exact c.utf8Size_pos

/-- Encoded characters in front are read, and reading goes on behind them. -/
theorem decodeFrom_spell (index : Nat) (chars : List Char) (rest : List UInt8) :
    decodeFrom index [] 0 0 (spell chars ++ rest) =
      (decodeFrom (index + (spell chars).length) [] 0 0 rest).map (chars ++ ·) := by
  induction chars generalizing index with
  | nil =>
    show decodeFrom index [] 0 0 rest = (decodeFrom index [] 0 0 rest).map ([] ++ ·)
    cases decodeFrom index [] 0 0 rest <;> rfl
  | cons c chars ih =>
    have first := (forms_encodeChar c).decodeFrom index (spell chars ++ rest)
    rw [ih, Char.ofNat_toNat] at first
    rw [spell_cons, List.append_assoc, first, List.length_append,
      ← Nat.add_assoc]
    cases decodeFrom (index + (String.utf8EncodeChar c).length + (spell chars).length)
      [] 0 0 rest <;> rfl

/-- Bytes are encoded characters and then nothing more, or something at which reading stops. -/
theorem exists_spell (index : Nat) (bytes : List UInt8) :
    ∃ chars rest, bytes = spell chars ++ rest ∧ (rest = [] ∨
      StopsAt (index + (spell chars).length)
        (decodeFrom (index + (spell chars).length) [] 0 0 rest)) := by
  -- By the number of bytes: a character in front leaves fewer.
  induction size : bytes.length using Nat.strongRecOn generalizing index bytes with
  | ind length ih =>
    cases bytes with
    | nil => exact ⟨[], [], rfl, .inl rfl⟩
    | cons byte bytes =>
      rcases forms_or_stops index byte bytes with ⟨front, rest, total, same, forms⟩ | stops
      · rw [forms.eq_encodeChar] at same
        have less : rest.length < length := by
          rw [← size, same, List.length_append]
          exact Nat.lt_add_of_pos_left (length_encodeChar_pos _)
        obtain ⟨chars, more, rfl, ended⟩ :=
          ih rest.length less (index + (String.utf8EncodeChar (Char.ofNat total)).length) rest rfl
        refine ⟨Char.ofNat total :: chars, more, ?_, ?_⟩
        · rw [same, spell_cons, List.append_assoc]
        · rwa [spell_cons, List.length_append, ← Nat.add_assoc]
      · exact ⟨[], byte :: bytes, rfl, .inr stops⟩

/-- Exactly the bytes of a text are read. -/
theorem decode_eq_ok_iff {chars : List Char} : decode bytes = .ok chars ↔ bytes = spell chars := by
  have spelled : ∀ read : List Char, decode (spell read ++ []) = .ok read := by
    intro read
    rw [decode, decodeFrom_spell, decodeFrom, Except.map, List.append_nil]
  constructor
  · intro read
    obtain ⟨others, rest, rfl, rfl | ⟨fault, stopped, -⟩⟩ := exists_spell 0 bytes
    · cases read.symm.trans (spelled others)
      exact List.append_nil _
    · rw [decode, decodeFrom_spell, stopped] at read
      cases read
  · rintro rfl
    simpa using spelled chars

theorem decode_encode (text : String) : decode (encode text) = .ok text.toList :=
  decode_eq_ok_iff.2 rfl

/-- Texts have different bytes. -/
theorem encode_injective : Function.Injective encode := by
  intro a b same
  have read := decode_encode a
  rw [same, decode_encode b] at read
  exact String.toList_inj.1 (Except.ok.inj read.symm)

/-- What breaks off a text. -/
inductive Broken : List UInt8 → Prop where
  /-- A byte that continues a sequence where one has to start. -/
  | stray {byte : UInt8} (tail : Tail byte) (rest : List UInt8) : Broken (byte :: rest)
  /-- A value over more bytes than it needs. -/
  | overlong {width : Width} {value : Nat} (short : value < width.least) (rest : List UInt8) :
      Broken (layout width value ++ rest)
  | surrogate {value : Nat} (low : 0xD800 ≤ value) (high : value ≤ 0xDFFF) (rest : List UInt8) :
      Broken (layout .three value ++ rest)
  /-- A value above the last character. -/
  | above {value : Nat} (large : 0x10FFFF < value) (fits : value < 0x200000) (rest : List UInt8) :
      Broken (layout .four value ++ rest)
  /-- A sequence that breaks off: no byte follows that could continue it. -/
  | truncated (c : Char) {count : Nat} (begun : 0 < count)
      (less : count < (String.utf8EncodeChar c).length) {rest : List UInt8}
      (ends : ∀ byte ∈ rest.head?, ¬Tail byte) :
      Broken ((String.utf8EncodeChar c).take count ++ rest)

theorem ofNat_eq_iff {a b : Nat} : UInt8.ofNat a = UInt8.ofNat b ↔ a % 0x100 = b % 0x100 := by
  rw [← UInt8.toNat_inj, UInt8.toNat_ofNat', UInt8.toNat_ofNat']

/-- The first byte of a layout tells how long it is. -/
theorem width_eq {a b : Nat} (same : (layout width a).head? = (layout other b).head?)
    (fits : a < width.limit) (fitsOther : b < other.limit) : width = other := by
  refine Decidable.byContradiction fun apart => ?_
  cases width <;> cases other <;>
    simp only [layout, List.head?_cons, Option.some.injEq, ofNat_eq_iff, Width.limit,
      not_true] at same fits fitsOther apart <;>
    omega

theorem value_eq {a b : Nat} {more : List UInt8}
    (same : layout width a ++ rest = layout width b ++ more) (fits : a < width.limit)
    (fitsOther : b < width.limit) : a = b := by
  cases width <;>
    simp only [layout, tailByte, List.cons_append, List.cons.injEq, ofNat_eq_iff,
      Width.limit] at same fits fitsOther <;>
    omega

theorem head?_layout_append (width : Width) (value : Nat) (rest : List UInt8) :
    (layout width value ++ rest).head? = (layout width value).head? := by
  cases width <;> rfl

/-- The first byte of a layout continues no other. -/
theorem not_tail_of_head? (fits : value < width.limit)
    (first : (layout width value).head? = some byte) : ¬Tail byte := by
  unfold Tail
  cases width <;>
    simp only [layout, List.head?_cons, Option.some.injEq, Width.limit] at first fits <;>
    rw [← first, UInt8.toNat_ofNat'] <;>
    omega

/-- All the others do. -/
theorem exists_tails (width : Width) (value : Nat) :
    ∃ first tails, layout width value = first :: tails ∧ ∀ byte ∈ tails, Tail byte := by
  cases width <;> exact ⟨_, _, rfl, by simp [tail_tailByte]⟩

theorem exists_tail {count : Nat} (begun : 0 < count) (less : count < (layout width value).length) :
    ∃ byte, (layout width value)[count]? = some byte ∧ Tail byte := by
  obtain ⟨first, tails, same, tail⟩ := exists_tails width value
  obtain ⟨before, rfl⟩ := Nat.exists_eq_succ_of_ne_zero (Nat.ne_of_gt begun)
  rw [same, List.length_cons] at less
  have inside : before < tails.length := Nat.lt_of_succ_lt_succ less
  rw [same, List.getElem?_cons_succ, List.getElem?_eq_getElem inside]
  exact ⟨_, rfl, tail _ (List.getElem_mem inside)⟩

theorem length_layout (width : Width) (a b : Nat) :
    (layout width a).length = (layout width b).length := by
  cases width <;> rfl

/-- Bytes that do not begin with the layout of a character are not read. -/
theorem stops_of_no_layout (index : Nat) (present : bytes ≠ [])
    (none : ∀ width value more, Proper width value → bytes ≠ layout width value ++ more) :
    StopsAt index (decodeFrom index [] 0 0 bytes) := by
  obtain ⟨byte, rest, rfl⟩ := List.exists_cons_of_ne_nil present
  rcases forms_or_stops index byte rest with ⟨front, more, value, same, forms⟩ | stops
  · obtain ⟨width, proper, rfl⟩ := forms.exists_layout
    exact absurd same (none width value more proper)
  · exact stops

/-- A value that can be laid out, but not as a character over the bytes that it needs, is not
    read. -/
theorem stops_of_not_proper (index : Nat) (fits : value < width.limit) (odd : ¬Proper width value)
    (rest : List UInt8) : StopsAt index (decodeFrom index [] 0 0 (layout width value ++ rest)) := by
  refine stops_of_no_layout index ?_ ?_
  · cases width <;> exact List.cons_ne_nil _ _
  · intro other number more proper same
    have first := congrArg List.head? same
    rw [head?_layout_append, head?_layout_append] at first
    obtain rfl := width_eq first fits proper.limit
    obtain rfl := value_eq same fits proper.limit
    exact odd proper

theorem stops_of_tail (index : Nat) (tail : Tail byte) (rest : List UInt8) :
    StopsAt index (decodeFrom index [] 0 0 (byte :: rest)) := by
  refine stops_of_no_layout index (List.cons_ne_nil _ _) ?_
  intro width value more proper same
  have first := congrArg List.head? same
  rw [head?_layout_append] at first
  exact not_tail_of_head? proper.limit first.symm tail

theorem head?_take_append {count : Nat} (begun : 0 < count) (width : Width) (value : Nat)
    (rest : List UInt8) :
    ((layout width value).take count ++ rest).head? = (layout width value).head? := by
  obtain ⟨first, tails, same, -⟩ := exists_tails width value
  obtain ⟨before, rfl⟩ := Nat.exists_eq_succ_of_ne_zero (Nat.ne_of_gt begun)
  rw [same]
  rfl

theorem stops_of_truncated (index : Nat) (proper : Proper width value) {count : Nat}
    (begun : 0 < count) (less : count < (layout width value).length)
    (ends : ∀ byte ∈ rest.head?, ¬Tail byte) :
    StopsAt index (decodeFrom index [] 0 0 ((layout width value).take count ++ rest)) := by
  have taken : ((layout width value).take count).length = count :=
    List.length_take_of_le (Nat.le_of_lt less)
  refine stops_of_no_layout index ?_ ?_
  · intro nothing
    have empty := congrArg List.length (List.append_eq_nil_iff.1 nothing).1
    rw [taken] at empty
    exact absurd empty (Nat.ne_of_gt begun)
  · intro other number more properOther same
    have first := congrArg List.head? same
    rw [head?_layout_append, head?_take_append begun] at first
    obtain rfl := width_eq first proper.limit properOther.limit
    -- Where the sequence breaks off, the layout would go on.
    rw [length_layout width value number] at less
    obtain ⟨byte, there, tail⟩ := exists_tail begun less
    have next : ((layout width value).take count ++ rest)[count]? =
        (layout width number ++ more)[count]? := by rw [same]
    rw [List.getElem?_append_left less, there, List.getElem?_append_right (Nat.le_of_eq taken),
      taken, Nat.sub_self, ← List.head?_eq_getElem?] at next
    exact ends byte next tail

theorem Width.least_le_limit (width : Width) : width.least ≤ width.limit := by
  cases width <;> decide

theorem Broken.stops (broken : Broken bytes) (index : Nat) :
    StopsAt index (decodeFrom index [] 0 0 bytes) := by
  cases broken with
  | stray tail rest => exact stops_of_tail index tail rest
  | overlong short rest =>
    have fits := Nat.lt_of_lt_of_le short (Width.least_le_limit _)
    exact stops_of_not_proper index fits (fun proper => Nat.not_le.2 short proper.least) rest
  | surrogate low high rest =>
    refine stops_of_not_proper index (Nat.lt_of_le_of_lt high (by decide)) (fun proper => ?_) rest
    rcases proper.valid with below | above <;> omega
  | above large fits rest =>
    refine stops_of_not_proper index fits (fun proper => ?_) rest
    rcases proper.valid with below | above <;> omega
  | truncated c begun less ends =>
    obtain ⟨width, proper, encoded⟩ := exists_encodeChar c
    rw [encoded] at less ⊢
    exact stops_of_truncated index proper begun less ends

end OrderDesk.Utf8
