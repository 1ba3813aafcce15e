import JsonShape.Proofs.Traversal
import JsonShape.Text.Utf8

/-!
# Octets and texts

Reading octets and writing a text are inverse to each other: what is written is read
back, and what is read is written as the same octets.  So octets cannot be read exactly
if they are those of no text.
-/

set_option autoImplicit false

namespace JsonShape.Text

/-! ## The octets of a text -/

theorem toList_loop (octets : ByteArray) {index count : Nat} (read : List UInt8)
    (hcount : octets.size = index + count) :
    ByteArray.toList.loop octets index read =
      read.reverse ++ octets.data.toList.drop index := by
  induction count generalizing index read with
  | zero =>
      have hlength : octets.data.toList.length ≤ index := Nat.le_of_eq hcount
      rw [ByteArray.toList.loop, if_neg (by omega), List.drop_eq_nil_of_le hlength,
        List.append_nil]
  | succ count ih =>
      have hindex : index < octets.size := by omega
      have hlength : index < octets.data.toList.length := hindex
      rw [ByteArray.toList.loop, if_pos hindex, ih _ (by omega), List.drop_eq_getElem_cons hlength,
        List.reverse_cons, List.append_assoc, List.singleton_append]
      simp [ByteArray.get!, hindex]

/-- A text is written character by character. -/
theorem encodeUtf8_ofList (chars : List Char) :
    encodeUtf8 (String.ofList chars) = chars.flatMap String.utf8EncodeChar := by
  rw [encodeUtf8, String.toUTF8_eq_toByteArray, String.toByteArray_ofList, ByteArray.toList,
    toList_loop _ _ (Nat.zero_add _).symm, List.utf8Encode, List.toList_data_toByteArray,
    List.reverse_nil, List.nil_append, List.drop_zero]

/-! ## The octets of a character -/

/-- An octet behind the first one: the six lowest bits of what it ends. -/
def trail (bits : Nat) : UInt8 := UInt8.ofNat (bits % 64 + 0x80)

theorem toNat_trail (bits : Nat) : (trail bits).toNat = bits % 64 + 0x80 := by
  rw [trail, UInt8.toNat_ofNat']
  omega

theorem toNat_ofNat_of_lt {octet : Nat} (h : octet < 256) : (UInt8.ofNat octet).toNat = octet := by
  rw [UInt8.toNat_ofNat']
  exact Nat.mod_eq_of_lt h

/-- The first octet tells how many more there are. -/
theorem utf8EncodeChar_eq (char : Char) :
    String.utf8EncodeChar char =
      if char.toNat < 0x80 then [UInt8.ofNat char.toNat]
      else if char.toNat < 0x800 then
        [UInt8.ofNat (char.toNat / 64 + 0xC0), trail char.toNat]
      else if char.toNat < 0x10000 then
        [UInt8.ofNat (char.toNat / 64 / 64 + 0xE0), trail (char.toNat / 64), trail char.toNat]
      else
        [UInt8.ofNat (char.toNat / 64 / 64 / 64 + 0xF0), trail (char.toNat / 64 / 64),
          trail (char.toNat / 64), trail char.toNat] := by
  have hbound : char.toNat < 0x110000 := by
    rcases char.valid with hvalid | ⟨-, hvalid⟩
    · exact Nat.lt_trans hvalid (by decide)
    · exact hvalid
  rw [String.utf8EncodeChar]
  simp only [Char.toNat_val, trail, Nat.div_div_eq_div_mul, Nat.reduceMul]
  by_cases hone : char.toNat < 0x80
  · rw [if_pos hone, if_pos (by omega)]
  · rw [if_neg hone, if_neg (by omega)]
    by_cases htwo : char.toNat < 0x800
    · rw [if_pos htwo, if_pos (by omega), Nat.mod_eq_of_lt (by omega)]
    · rw [if_neg htwo, if_neg (by omega)]
      by_cases hthree : char.toNat < 0x10000
      · rw [if_pos hthree, if_pos (by omega), Nat.mod_eq_of_lt (by omega)]
      · rw [if_neg hthree, if_neg (by omega), Nat.mod_eq_of_lt (by omega)]

/-! ## The first octet of a character -/

/-- The characters of more than one octet that a first octet begins: its own bits, the
number of octets behind it and the range of the first of these. -/
inductive Begins (bits : Nat) : UInt8 → Nat → Nat → Nat → Prop
  | two (hbits : 2 ≤ bits ∧ bits < 32) : Begins bits (UInt8.ofNat (bits + 0xC0)) 1 0x80 0xBF
  | three (hbits : bits < 16) :
      Begins bits (UInt8.ofNat (bits + 0xE0)) 2 (if bits = 0 then 0xA0 else 0x80)
        (if bits = 13 then 0x9F else 0xBF)
  | four (hbits : bits < 5) :
      Begins bits (UInt8.ofNat (bits + 0xF0)) 3 (if bits = 0 then 0x90 else 0x80)
        (if bits = 4 then 0x8F else 0xBF)

theorem firstOctet_of_lt (position : Nat) {code : Nat} (h : code < 0x80) :
    firstOctet position (UInt8.ofNat code) = .ok (.inl (Char.ofNat code)) := by
  rw [firstOctet, toNat_ofNat_of_lt (by omega)]
  exact if_pos h

theorem Begins.firstOctet_eq {bits owed low high : Nat} {octet : UInt8}
    (h : Begins bits octet owed low high) (position : Nat) :
    firstOctet position octet = .ok (.inr ⟨position, octet, bits, owed, low, high⟩) := by
  cases h with
  | two hbits =>
      rw [firstOctet, toNat_ofNat_of_lt (by omega)]
      simp only []
      rw [if_neg (by omega), if_neg (by omega), if_pos (by omega), Nat.add_sub_cancel]
  | three hbits =>
      rw [firstOctet, toNat_ofNat_of_lt (by omega)]
      simp only []
      rw [if_neg (by omega), if_neg (by omega), if_neg (by omega), Nat.add_sub_cancel]
      grind
  | four hbits =>
      rw [firstOctet, toNat_ofNat_of_lt (by omega)]
      simp only []
      rw [if_neg (by omega), if_neg (by omega), if_neg (by omega), if_neg (by omega),
        if_neg (by omega), if_neg (by omega), Nat.add_sub_cancel]
      grind

theorem exists_begins {octet : UInt8}
    (h : 0xC2 ≤ octet.toNat ∧ octet.toNat < 0xF5) :
    ∃ bits owed low high, Begins bits octet owed low high := by
  have hsum {base : Nat} (hbase : base ≤ octet.toNat) :
      UInt8.ofNat (octet.toNat - base + base) = octet := by
    rw [Nat.sub_add_cancel hbase, UInt8.ofNat_toNat]
  by_cases htwo : octet.toNat < 0xE0
  · have hbegins := Begins.two (show 2 ≤ octet.toNat - 0xC0 ∧ octet.toNat - 0xC0 < 32 by omega)
    rw [hsum (by omega)] at hbegins
    exact ⟨_, _, _, _, hbegins⟩
  · by_cases hthree : octet.toNat < 0xF0
    · have hbegins := Begins.three (show octet.toNat - 0xE0 < 16 by omega)
      rw [hsum (by omega)] at hbegins
      exact ⟨_, _, _, _, hbegins⟩
    · have hbegins := Begins.four (show octet.toNat - 0xF0 < 5 by omega)
      rw [hsum (by omega)] at hbegins
      exact ⟨_, _, _, _, hbegins⟩

/-- A first octet is a character of its own or begins one. -/
theorem firstOctet_eq_ok {position : Nat} {octet : UInt8} {result : Char ⊕ PartialChar}
    (h : firstOctet position octet = .ok result) :
    (octet.toNat < 0x80 ∧ result = .inl (Char.ofNat octet.toNat)) ∨
      ∃ bits owed low high, Begins bits octet owed low high ∧
        result = .inr ⟨position, octet, bits, owed, low, high⟩ := by
  by_cases hone : octet.toNat < 0x80
  · have hfirst := firstOctet_of_lt position hone
    rw [UInt8.ofNat_toNat, h] at hfirst
    exact .inl ⟨hone, Except.ok.inj hfirst⟩
  · by_cases hrange : 0xC2 ≤ octet.toNat ∧ octet.toNat < 0xF5
    · obtain ⟨bits, owed, low, high, hbegins⟩ := exists_begins hrange
      rw [hbegins.firstOctet_eq] at h
      exact .inr ⟨bits, owed, low, high, hbegins, (Except.ok.inj h).symm⟩
    · rw [firstOctet] at h
      simp only [] at h
      rw [if_neg hone] at h
      by_cases hlow : octet.toNat < 0xC2
      · rw [if_pos hlow] at h
        cases h
      · rw [if_neg hlow, if_neg (by omega), if_neg (by omega), if_neg (by omega),
          if_neg (by omega), if_neg (by omega), if_neg (by omega), if_neg (by omega)] at h
        cases h

/-! ## What is read is written -/

def IsTrail (octet : UInt8) : Prop := 0x80 ≤ octet.toNat ∧ octet.toNat ≤ 0xBF

/-- A value with the bits of one more octet. -/
def joinOctet (value : Nat) (octet : UInt8) : Nat := value * 64 + (octet.toNat - 0x80)

theorem joinOctet_def (value : Nat) (octet : UInt8) :
    joinOctet value octet = value * 64 + (octet.toNat - 0x80) := rfl

theorem trail_joinOctet (value : Nat) {octet : UInt8} (h : IsTrail octet) :
    trail (joinOctet value octet) = octet := by
  obtain ⟨hlow, hhigh⟩ := h
  apply UInt8.toNat_inj.mp
  have hjoin := joinOctet_def value octet
  rw [toNat_trail]
  omega

theorem joinOctet_div (value : Nat) {octet : UInt8} (h : IsTrail octet) :
    joinOctet value octet / 64 = value := by
  obtain ⟨hlow, hhigh⟩ := h
  have hjoin := joinOctet_def value octet
  omega

theorem toNat_ofNat_of_isValidChar {code : Nat} (h : code.isValidChar) :
    (Char.ofNat code).toNat = code := by
  rw [Char.ofNat, dif_pos h]
  rfl

/-- The octets that were read of a character: with all that may come behind them they are
the octets of the character. -/
structure ReadOf (read : List UInt8) (value owed low high : Nat) : Prop where
  owed_pos : 0 < owed
  low_le : 0x80 ≤ low
  high_le : high ≤ 0xBF
  encode : ∀ octet rest, low ≤ octet.toNat ∧ octet.toNat ≤ high →
    (∀ other ∈ rest, IsTrail other) → owed = rest.length + 1 →
      read ++ octet :: rest =
        String.utf8EncodeChar (Char.ofNat ((octet :: rest).foldl joinOctet value))

theorem Begins.readOf {bits owed low high : Nat} {octet : UInt8}
    (h : Begins bits octet owed low high) : ReadOf [octet] bits owed low high := by
  cases h with
  | two hbits =>
      refine ⟨by decide, by decide, by decide, fun next rest hnext hrest howed => ?_⟩
      obtain rfl : rest = [] := List.length_eq_zero_iff.mp (by omega)
      have hcode : joinOctet bits next = bits * 64 + (next.toNat - 0x80) := rfl
      rw [List.foldl_cons, List.foldl_nil, utf8EncodeChar_eq,
        toNat_ofNat_of_isValidChar (.inl (by omega)), if_neg (by omega), if_pos (by omega),
        trail_joinOctet _ hnext, joinOctet_div _ hnext]
      rfl
  | three hbits =>
      refine ⟨by decide, by split <;> decide, by split <;> decide,
        fun next rest hnext hrest howed => ?_⟩
      obtain ⟨second, rfl⟩ : ∃ second, rest = [second] := List.length_eq_one_iff.mp (by omega)
      have hfirst : IsTrail next := by rw [IsTrail]; grind
      have hsecond : IsTrail second := hrest second List.mem_cons_self
      obtain ⟨hlow, hhigh⟩ :
          (bits = 0 → 0xA0 ≤ next.toNat) ∧ (bits = 13 → next.toNat ≤ 0x9F) := by grind
      have hcode : joinOctet (joinOctet bits next) second =
          (bits * 64 + (next.toNat - 0x80)) * 64 + (second.toNat - 0x80) := rfl
      have hrange := hfirst
      have hother := hsecond
      rw [IsTrail] at hrange hother
      have hvalid : (joinOctet (joinOctet bits next) second).isValidChar := by
        rw [Nat.isValidChar]
        omega
      rw [List.foldl_cons, List.foldl_cons, List.foldl_nil, utf8EncodeChar_eq,
        toNat_ofNat_of_isValidChar hvalid, if_neg (by omega), if_neg (by omega),
        if_pos (by omega), trail_joinOctet _ hsecond, joinOctet_div _ hsecond,
        trail_joinOctet _ hfirst, joinOctet_div _ hfirst]
      rfl
  | four hbits =>
      refine ⟨by decide, by split <;> decide, by split <;> decide,
        fun next rest hnext hrest howed => ?_⟩
      obtain ⟨second, third, rfl⟩ : ∃ second third, rest = [second, third] :=
        List.length_eq_two.mp (by omega)
      have hfirst : IsTrail next := by rw [IsTrail]; grind
      have hsecond : IsTrail second := hrest second List.mem_cons_self
      have hthird : IsTrail third := hrest third (List.mem_cons_of_mem _ List.mem_cons_self)
      obtain ⟨hlow, hhigh⟩ :
          (bits = 0 → 0x90 ≤ next.toNat) ∧ (bits = 4 → next.toNat ≤ 0x8F) := by grind
      have hcode : joinOctet (joinOctet (joinOctet bits next) second) third =
          ((bits * 64 + (next.toNat - 0x80)) * 64 + (second.toNat - 0x80)) * 64 +
            (third.toNat - 0x80) := rfl
      have hrange := hfirst
      have hother := hsecond
      have hlast := hthird
      rw [IsTrail] at hrange hother hlast
      have hvalid : (joinOctet (joinOctet (joinOctet bits next) second) third).isValidChar := by
        rw [Nat.isValidChar]
        omega
      rw [List.foldl_cons, List.foldl_cons, List.foldl_cons, List.foldl_nil, utf8EncodeChar_eq,
        toNat_ofNat_of_isValidChar hvalid, if_neg (by omega), if_neg (by omega),
        if_neg (by omega), trail_joinOctet _ hthird, joinOctet_div _ hthird,
        trail_joinOctet _ hsecond, joinOctet_div _ hsecond, trail_joinOctet _ hfirst,
        joinOctet_div _ hfirst]
      rfl

theorem ReadOf.next {read : List UInt8} {value owed low high : Nat} {octet : UInt8}
    (h : ReadOf read value owed low high) (hlow : low ≤ octet.toNat) (hhigh : octet.toNat ≤ high) :
    (owed = 1 ∧ read ++ [octet] = String.utf8EncodeChar (Char.ofNat (joinOctet value octet))) ∨
      owed ≠ 1 ∧ ReadOf (read ++ [octet]) (joinOctet value octet) (owed - 1) 0x80 0xBF := by
  have hpos := h.owed_pos
  by_cases howed : owed = 1
  · exact .inl ⟨howed, h.encode octet [] ⟨hlow, hhigh⟩ (by simp) howed⟩
  · refine .inr ⟨howed, by omega, Nat.le_refl _, Nat.le_refl _, ?_⟩
    intro next rest hnext hrest hlength
    have htrail : IsTrail octet := ⟨Nat.le_trans h.low_le hlow, Nat.le_trans hhigh h.high_le⟩
    have hencode := h.encode octet (next :: rest) ⟨hlow, hhigh⟩
      (List.forall_mem_cons.mpr ⟨hnext, hrest⟩) (by rw [List.length_cons]; omega)
    rw [List.foldl_cons] at hencode
    rw [List.append_assoc, List.singleton_append]
    exact hencode

theorem utf8EncodeChar_of_lt {octet : UInt8} (h : octet.toNat < 0x80) :
    String.utf8EncodeChar (Char.ofNat octet.toNat) = [octet] := by
  rw [utf8EncodeChar_eq, toNat_ofNat_of_isValidChar (.inl (by omega)), if_pos h,
    UInt8.ofNat_toNat]

/-- What is read, between two characters or inside one, is written as the same octets. -/
theorem encode_of_decodeFrom (octets : List UInt8) (position : Nat) (chars text : List Char) :
    (decodeFrom position none chars octets = .ok text → ∃ others,
      text = chars.reverse ++ others ∧ octets = others.flatMap String.utf8EncodeChar) ∧
    ∀ char read, ReadOf read char.value char.owed char.low char.high →
      decodeFrom position (some char) chars octets = .ok text → ∃ others,
        text = chars.reverse ++ others ∧ read ++ octets = others.flatMap String.utf8EncodeChar := by
  induction octets generalizing position chars with
  | nil =>
      constructor
      · intro h
        rw [decodeFrom, Except.ok.injEq] at h
        exact ⟨[], by rw [List.append_nil, h], rfl⟩
      · intro char read _ h
        cases h
  | cons octet rest ih =>
      constructor
      · intro h
        rw [decodeFrom] at h
        cases hfirst : firstOctet position octet with
        | error error => simp [hfirst] at h
        | ok result =>
            simp only [hfirst] at h
            rcases firstOctet_eq_ok hfirst with ⟨hoctet, rfl⟩ | ⟨_, _, _, _, hbegins, rfl⟩
            · obtain ⟨others, rfl, rfl⟩ := (ih _ _).1 h
              refine ⟨Char.ofNat octet.toNat :: others, by simp, ?_⟩
              rw [List.flatMap_cons, utf8EncodeChar_of_lt hoctet, List.singleton_append]
            · exact (ih _ _).2 _ [octet] hbegins.readOf h
      · intro char read hread h
        rw [decodeFrom] at h
        by_cases hoctet : char.low ≤ octet.toNat ∧ octet.toNat ≤ char.high
        · rw [if_pos hoctet, ← joinOctet_def] at h
          rcases hread.next hoctet.1 hoctet.2 with ⟨howed, hencode⟩ | ⟨howed, hnext⟩
          · rw [if_pos howed] at h
            obtain ⟨others, rfl, rfl⟩ := (ih _ _).1 h
            refine ⟨Char.ofNat (joinOctet char.value octet) :: others, by simp, ?_⟩
            rw [List.flatMap_cons, ← hencode, List.append_assoc, List.singleton_append]
          · rw [if_neg howed] at h
            obtain ⟨others, htext, hoctets⟩ := (ih _ _).2
              ⟨char.start, char.lead, joinOctet char.value octet, char.owed - 1, 0x80, 0xBF⟩ _
              hnext h
            exact ⟨others, htext, by rw [← hoctets, List.append_assoc, List.singleton_append]⟩
        · rw [if_neg hoctet] at h
          cases h

/-! ## What is written is read -/

theorem joinOctet_trail (code : Nat) : joinOctet (code / 64) (trail code) = code := by
  rw [joinOctet_def, toNat_trail]
  omega

section Steps

variable {position start code bits owed low high : Nat} {octet lead : UInt8} {chars : List Char}
  {rest : List UInt8}

theorem Begins.decodeFrom_eq (h : Begins bits octet owed low high) :
    decodeFrom position none chars (octet :: rest) =
      decodeFrom (position + 1) (some ⟨position, octet, bits, owed, low, high⟩) chars rest := by
  rw [decodeFrom, h.firstOctet_eq]

theorem decodeFrom_trail (hrange : low ≤ code % 64 + 0x80 ∧ code % 64 + 0x80 ≤ high)
    (howed : owed ≠ 1) :
    decodeFrom position (some ⟨start, lead, code / 64, owed, low, high⟩) chars
        (trail code :: rest) =
      decodeFrom (position + 1) (some ⟨start, lead, code, owed - 1, 0x80, 0xBF⟩) chars rest := by
  rw [← toNat_trail] at hrange
  rw [decodeFrom, if_pos hrange, ← joinOctet_def, joinOctet_trail, if_neg howed]

theorem decodeFrom_last_trail (hrange : low ≤ code % 64 + 0x80 ∧ code % 64 + 0x80 ≤ high) :
    decodeFrom position (some ⟨start, lead, code / 64, 1, low, high⟩) chars
        (trail code :: rest) =
      decodeFrom (position + 1) none (Char.ofNat code :: chars) rest := by
  rw [← toNat_trail] at hrange
  rw [decodeFrom, if_pos hrange, ← joinOctet_def, joinOctet_trail, if_pos rfl]

theorem trail_range (code : Nat) : 0x80 ≤ code % 64 + 0x80 ∧ code % 64 + 0x80 ≤ 0xBF := by
  omega

/-- The octets of a character are read as this character. -/
theorem decodeFrom_utf8EncodeChar (position : Nat) (chars : List Char) (char : Char)
    (rest : List UInt8) :
    ∃ next, decodeFrom position none chars (String.utf8EncodeChar char ++ rest) =
      decodeFrom next none (char :: chars) rest := by
  have hvalid : char.toNat < 0xD800 ∨ 0xDFFF < char.toNat ∧ char.toNat < 0x110000 := char.valid
  have hchar : Char.ofNat char.toNat = char := Char.ofNat_toNat char
  rw [utf8EncodeChar_eq]
  by_cases hone : char.toNat < 0x80
  · refine ⟨position + 1, ?_⟩
    rw [if_pos hone, List.singleton_append, decodeFrom, firstOctet_of_lt _ hone, hchar]
  · rw [if_neg hone]
    by_cases htwo : char.toNat < 0x800
    · refine ⟨position + 1 + 1, ?_⟩
      rw [if_pos htwo, List.cons_append, List.singleton_append, (Begins.two _).decodeFrom_eq,
        decodeFrom_last_trail (trail_range _), hchar]
      omega
    · rw [if_neg htwo]
      by_cases hthree : char.toNat < 0x10000
      · refine ⟨position + 1 + 1 + 1, ?_⟩
        rw [if_pos hthree, List.cons_append, List.cons_append, List.singleton_append,
          (Begins.three _).decodeFrom_eq, decodeFrom_trail _ (by decide),
          decodeFrom_last_trail (trail_range _), hchar]
        · split <;> split <;> omega
        · omega
      · refine ⟨position + 1 + 1 + 1 + 1, ?_⟩
        rw [if_neg hthree, List.cons_append, List.cons_append, List.cons_append,
          List.singleton_append, (Begins.four _).decodeFrom_eq, decodeFrom_trail _ (by decide),
          decodeFrom_trail (trail_range _) (by decide), decodeFrom_last_trail (trail_range _),
          hchar]
        · split <;> split <;> omega
        · omega

end Steps

theorem decodeFrom_encode (position : Nat) (chars others : List Char) :
    decodeFrom position none chars (others.flatMap String.utf8EncodeChar) =
      .ok (chars.reverse ++ others) := by
  induction others generalizing position chars with
  | nil => rw [List.flatMap_nil, decodeFrom, List.append_nil]
  | cons char others ih =>
      obtain ⟨next, hnext⟩ := decodeFrom_utf8EncodeChar position chars char
        (others.flatMap String.utf8EncodeChar)
      rw [List.flatMap_cons, hnext, ih, List.reverse_cons, List.append_assoc,
        List.singleton_append]

/-- Octets are read as a text exactly if the text is written as these octets. -/
theorem decodeUtf8_eq_ok_iff {octets : List UInt8} {text : List Char} :
    decodeUtf8 octets = .ok text ↔ encodeUtf8 (String.ofList text) = octets := by
  rw [decodeUtf8, encodeUtf8_ofList]
  constructor
  · intro h
    obtain ⟨others, rfl, rfl⟩ := (encode_of_decodeFrom octets 0 [] text).1 h
    rfl
  · rintro rfl
    exact decodeFrom_encode 0 [] text

theorem decodeUtf8_encodeUtf8 (text : String) : decodeUtf8 (encodeUtf8 text) = .ok text.toList := by
  rw [decodeUtf8_eq_ok_iff, String.ofList_toList]

end JsonShape.Text
