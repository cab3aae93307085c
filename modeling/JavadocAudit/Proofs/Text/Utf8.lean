import JavadocAudit.Text.Utf8

/-!
# Bytes that are UTF-8

Reading the encoding of a text gives the characters of the text and no faults, so `decodeUtf8` gives
back the characters that bytes are the encoding of, and so does `decodeUtf8Leniently`. On all other
bytes `decodeUtf8` fails. A byte below 128 stands for itself and is part of no other character.
-/

namespace JavadocAudit.Text

/-- The bytes of the character with a number. -/
theorem utf8EncodeChar_ofNat {n : Nat} (valid : n.isValidChar) :
    String.utf8EncodeChar (Char.ofNat n) =
      if n ≤ 127 then [.ofNat n]
      else if n ≤ 2047 then [.ofNat (n / 64 % 32 + 192), .ofNat (n % 64 + 128)]
      else if n ≤ 65535 then
        [.ofNat (n / 4096 % 16 + 224), .ofNat (n / 64 % 64 + 128), .ofNat (n % 64 + 128)]
      else
        [.ofNat (n / 262144 % 8 + 240), .ofNat (n / 4096 % 64 + 128), .ofNat (n / 64 % 64 + 128),
          .ofNat (n % 64 + 128)] := by
  have code : (Char.ofNat n).val.toNat = n := by
    rw [Char.ofNat, dif_pos valid]
    rfl
  simp only [String.utf8EncodeChar, code]

section Sequence

variable {a b c d : UInt8}

theorem isContinuation_iff : isContinuation b = true ↔ 128 ≤ b.toNat ∧ b.toNat < 192 := by
  simp [isContinuation, UInt8.le_iff_toNat_le]
  omega

theorem isSecond_iff : isSecond a b = true ↔
    128 ≤ b.toNat ∧ b.toNat < 192 ∧ (a.toNat = 0xE0 → 0xA0 ≤ b.toNat) ∧
      (a.toNat = 0xED → b.toNat < 0xA0) ∧ (a.toNat = 0xF0 → 0x90 ≤ b.toNat) ∧
      (a.toNat = 0xF4 → b.toNat < 0x90) := by
  have bound : isSecond a b = true ↔ (128 ≤ b.toNat ∧ b.toNat < 192) ∧
      (if a.toNat = 0xE0 then 0xA0 ≤ b.toNat else if a.toNat = 0xED then b.toNat < 0xA0
       else if a.toNat = 0xF0 then 0x90 ≤ b.toNat else if a.toNat = 0xF4 then b.toNat < 0x90
       else True) := by
    rw [isSecond, Bool.and_eq_true, isContinuation_iff]
    simp only [← UInt8.toNat_inj, UInt8.le_iff_toNat_le, UInt8.lt_iff_toNat_lt]
    grind
  rw [bound]
  grind

theorem utf8EncodeChar_one (ha : a.toNat < 128) :
    String.utf8EncodeChar (Char.ofNat a.toNat) = [a] := by
  have valid : a.toNat.isValidChar := by simp only [Nat.isValidChar]; omega
  rw [utf8EncodeChar_ofNat valid, if_pos (by omega), UInt8.ofNat_toNat]

theorem utf8EncodeChar_two (ha : 0xC2 ≤ a.toNat) (ha' : a.toNat < 0xE0)
    (hb : isSecond a b = true) :
    String.utf8EncodeChar (Char.ofNat (a.toNat % 32 * 64 + payload b)) = [a, b] := by
  obtain ⟨hb, hb', -⟩ := isSecond_iff.mp hb
  unfold payload
  have valid : (a.toNat % 32 * 64 + b.toNat % 64).isValidChar := by
    simp only [Nat.isValidChar]; omega
  rw [utf8EncodeChar_ofNat valid, if_neg (by omega), if_pos (by omega)]
  simp only [List.cons.injEq, and_true, ← UInt8.toNat_inj, UInt8.toNat_ofNat']
  omega

theorem utf8EncodeChar_three (ha : 0xE0 ≤ a.toNat) (ha' : a.toNat < 0xF0)
    (hb : isSecond a b = true) (hc : isContinuation c = true) :
    String.utf8EncodeChar (Char.ofNat ((a.toNat % 16 * 64 + payload b) * 64 + payload c)) =
      [a, b, c] := by
  obtain ⟨hb, hb', low, surrogate, -⟩ := isSecond_iff.mp hb
  obtain ⟨hc, hc'⟩ := isContinuation_iff.mp hc
  unfold payload
  have valid : ((a.toNat % 16 * 64 + b.toNat % 64) * 64 + c.toNat % 64).isValidChar := by
    simp only [Nat.isValidChar]; omega
  rw [utf8EncodeChar_ofNat valid, if_neg (by omega), if_neg (by omega), if_pos (by omega)]
  simp only [List.cons.injEq, and_true, ← UInt8.toNat_inj, UInt8.toNat_ofNat']
  omega

theorem utf8EncodeChar_four (ha : 0xF0 ≤ a.toNat) (ha' : a.toNat ≤ 0xF4)
    (hb : isSecond a b = true) (hc : isContinuation c = true) (hd : isContinuation d = true) :
    String.utf8EncodeChar
        (Char.ofNat (((a.toNat % 8 * 64 + payload b) * 64 + payload c) * 64 + payload d)) =
      [a, b, c, d] := by
  obtain ⟨hb, hb', -, -, low, high⟩ := isSecond_iff.mp hb
  obtain ⟨hc, hc'⟩ := isContinuation_iff.mp hc
  obtain ⟨hd, hd'⟩ := isContinuation_iff.mp hd
  unfold payload
  have valid : (((a.toNat % 8 * 64 + b.toNat % 64) * 64 + c.toNat % 64) * 64 +
      d.toNat % 64).isValidChar := by
    simp only [Nat.isValidChar]; omega
  rw [utf8EncodeChar_ofNat valid, if_neg (by omega), if_neg (by omega), if_neg (by omega)]
  simp only [List.cons.injEq, and_true, ← UInt8.toNat_inj, UInt8.toNat_ofNat']
  omega

end Sequence

@[simp] theorem encodeUtf8_nil : encodeUtf8 [] = [] := rfl

theorem encodeUtf8_cons (c : Char) (text : List Char) :
    encodeUtf8 (c :: text) = String.utf8EncodeChar c ++ encodeUtf8 text := List.flatMap_cons

theorem encodeUtf8_append (front back : List Char) :
    encodeUtf8 (front ++ back) = encodeUtf8 front ++ encodeUtf8 back := List.flatMap_append

theorem allOrFault_eq_ok_iff {read : List (Except Utf8Fault Char)} {text : List Char} :
    allOrFault read = .ok text ↔ read = text.map .ok := by
  induction read generalizing text with
  | nil => cases text <;> simp [allOrFault]
  | cons first rest ih =>
      cases first with
      | error fault => cases text <;> simp [allOrFault]
      | ok c =>
          cases text with
          | nil => cases h : allOrFault rest <;> simp [allOrFault, h, Except.map]
          | cons d others =>
              rw [allOrFault, List.map_cons, List.cons.injEq, ← ih]
              cases allOrFault rest <;> simp [Except.map]

/-- Bytes that can be read without faults are the encoding of what is read. -/
theorem eq_encodeUtf8_of_read {offset : Nat} {bytes : List UInt8} {text : List Char}
    (h : readUtf8 offset bytes = text.map .ok) : bytes = encodeUtf8 text := by
  fun_induction readUtf8 offset bytes generalizing text with
  | case1 =>
      obtain rfl := List.map_eq_nil_iff.mp h.symm
      rfl
  | case2 offset a rest ha ih =>
      obtain ⟨c, others, rfl, first, later⟩ := List.map_eq_cons_iff.mp h.symm
      cases first
      rw [encodeUtf8_cons, utf8EncodeChar_one (UInt8.lt_iff_toNat_lt.mp ha), ← ih later.symm]
      rfl
  | case6 offset a _ ha b rest hb ha' ih =>
      obtain ⟨c, others, rfl, first, later⟩ := List.map_eq_cons_iff.mp h.symm
      cases first
      simp only [Bool.or_eq_true, decide_eq_true_eq, not_or, UInt8.lt_iff_toNat_lt] at ha ha'
      rw [encodeUtf8_cons, utf8EncodeChar_two (Nat.le_of_not_lt ha.1) ha' (by simpa using hb),
        ← ih later.symm]
      rfl
  | case9 offset a _ ha b hb ha' c rest hc ha'' ih =>
      obtain ⟨c, others, rfl, first, later⟩ := List.map_eq_cons_iff.mp h.symm
      cases first
      simp only [UInt8.lt_iff_toNat_lt] at ha' ha''
      rw [encodeUtf8_cons, utf8EncodeChar_three (Nat.le_of_not_lt ha') ha'' (by simpa using hb)
        (by simpa using hc), ← ih later.symm]
      rfl
  | case12 offset a _ ha b hb _ c hc ha' d rest hd ih =>
      obtain ⟨c, others, rfl, first, later⟩ := List.map_eq_cons_iff.mp h.symm
      cases first
      simp only [Bool.or_eq_true, decide_eq_true_eq, not_or, UInt8.lt_iff_toNat_lt] at ha ha'
      rw [encodeUtf8_cons, utf8EncodeChar_four (Nat.le_of_not_lt ha') (Nat.le_of_not_lt ha.2)
        (by simpa using hb) (by simpa using hc) (by simpa using hd), ← ih later.symm]
      rfl
  | case3 | case4 | case5 | case7 | case8 | case10 | case11 =>
      obtain ⟨c, others, rfl, first, -⟩ := List.map_eq_cons_iff.mp h.symm
      cases first

section Encoding

variable {a b c d : UInt8} {rest : List UInt8} (offset : Nat)

theorem readUtf8_one (ha : a.toNat < 128) :
    readUtf8 offset (a :: rest) = .ok (Char.ofNat a.toNat) :: readUtf8 (offset + 1) rest := by
  have ascii : a < 0x80 := UInt8.lt_iff_toNat_lt.mpr ha
  rw [readUtf8.eq_def]
  simp only [ascii, ↓reduceIte]

theorem readUtf8_two (ha : 0xC2 ≤ a.toNat) (ha' : a.toNat < 0xE0) (hb : isSecond a b = true) :
    readUtf8 offset (a :: b :: rest) =
      .ok (Char.ofNat (a.toNat % 32 * 64 + payload b)) :: readUtf8 (offset + 2) rest := by
  rw [readUtf8.eq_def]
  simp only [hb, UInt8.lt_iff_toNat_lt, UInt8.reduceToNat, Bool.or_eq_true, decide_eq_true_eq,
    Bool.not_true, Bool.false_eq_true, ↓reduceIte, ha']
  rw [if_neg (by omega), if_neg (by omega)]

theorem readUtf8_three (ha : 0xE0 ≤ a.toNat) (ha' : a.toNat < 0xF0)
    (hb : isSecond a b = true) (hc : isContinuation c = true) :
    readUtf8 offset (a :: b :: c :: rest) =
      .ok (Char.ofNat ((a.toNat % 16 * 64 + payload b) * 64 + payload c))
        :: readUtf8 (offset + 3) rest := by
  rw [readUtf8.eq_def]
  simp only [hb, hc, UInt8.lt_iff_toNat_lt, UInt8.reduceToNat, Bool.or_eq_true, decide_eq_true_eq,
    Bool.not_true, Bool.false_eq_true, ↓reduceIte, ha']
  rw [if_neg (by omega), if_neg (by omega), if_neg (by omega)]

theorem readUtf8_four (ha : 0xF0 ≤ a.toNat) (ha' : a.toNat ≤ 0xF4)
    (hb : isSecond a b = true) (hc : isContinuation c = true) (hd : isContinuation d = true) :
    readUtf8 offset (a :: b :: c :: d :: rest) =
      .ok (Char.ofNat (((a.toNat % 8 * 64 + payload b) * 64 + payload c) * 64 + payload d))
        :: readUtf8 (offset + 4) rest := by
  rw [readUtf8.eq_def]
  simp only [hb, hc, hd, UInt8.lt_iff_toNat_lt, UInt8.reduceToNat, Bool.or_eq_true,
    decide_eq_true_eq, Bool.not_true, Bool.false_eq_true, ↓reduceIte]
  rw [if_neg (by omega), if_neg (by omega), if_neg (by omega), if_neg (by omega)]

end Encoding

section Character

variable {n : Nat} (offset : Nat) (rest : List UInt8)

theorem toNat_byte {m : Nat} (h : m < 256) : (UInt8.ofNat m).toNat = m := by
  rw [UInt8.toNat_ofNat']
  omega

theorem isContinuation_byte (m : Nat) : isContinuation (.ofNat (m % 64 + 128)) = true := by
  rw [isContinuation_iff, toNat_byte (by omega)]
  omega

theorem payload_byte (m : Nat) : payload (.ofNat (m % 64 + 128)) = m % 64 := by
  rw [payload, toNat_byte (by omega)]
  omega

theorem readUtf8_ofNat_two (low : 127 < n) (high : n ≤ 2047) :
    readUtf8 offset (.ofNat (n / 64 % 32 + 192) :: .ofNat (n % 64 + 128) :: rest) =
      .ok (Char.ofNat n) :: readUtf8 (offset + 2) rest := by
  have first : (UInt8.ofNat (n / 64 % 32 + 192)).toNat = n / 64 % 32 + 192 :=
    toNat_byte (by omega)
  have second : isSecond (.ofNat (n / 64 % 32 + 192)) (.ofNat (n % 64 + 128)) = true := by
    rw [isSecond_iff, first, toNat_byte (by omega)]
    omega
  have code : (n / 64 % 32 + 192) % 32 * 64 + n % 64 = n := by omega
  rw [readUtf8_two offset (by omega) (by omega) second, payload_byte, first, code]

theorem readUtf8_ofNat_three (valid : n.isValidChar) (low : 2047 < n) (high : n ≤ 65535) :
    readUtf8 offset
        (.ofNat (n / 4096 % 16 + 224) :: .ofNat (n / 64 % 64 + 128) :: .ofNat (n % 64 + 128) ::
          rest) =
      .ok (Char.ofNat n) :: readUtf8 (offset + 3) rest := by
  have first : (UInt8.ofNat (n / 4096 % 16 + 224)).toNat = n / 4096 % 16 + 224 :=
    toNat_byte (by omega)
  have second : isSecond (.ofNat (n / 4096 % 16 + 224)) (.ofNat (n / 64 % 64 + 128)) = true := by
    have noSurrogate : n < 0xD800 ∨ 0xDFFF < n ∧ n < 0x110000 := valid
    rw [isSecond_iff, first, toNat_byte (by omega)]
    omega
  have code : ((n / 4096 % 16 + 224) % 16 * 64 + n / 64 % 64) * 64 + n % 64 = n := by omega
  rw [readUtf8_three offset (by omega) (by omega) second (isContinuation_byte _),
    payload_byte, payload_byte, first, code]

theorem readUtf8_ofNat_four (valid : n.isValidChar) (low : 65535 < n) :
    readUtf8 offset
        (.ofNat (n / 262144 % 8 + 240) :: .ofNat (n / 4096 % 64 + 128) ::
          .ofNat (n / 64 % 64 + 128) :: .ofNat (n % 64 + 128) :: rest) =
      .ok (Char.ofNat n) :: readUtf8 (offset + 4) rest := by
  have high : n < 0xD800 ∨ 0xDFFF < n ∧ n < 0x110000 := valid
  have first : (UInt8.ofNat (n / 262144 % 8 + 240)).toNat = n / 262144 % 8 + 240 :=
    toNat_byte (by omega)
  have second : isSecond (.ofNat (n / 262144 % 8 + 240)) (.ofNat (n / 4096 % 64 + 128)) = true := by
    rw [isSecond_iff, first, toNat_byte (by omega)]
    omega
  have code :
      (((n / 262144 % 8 + 240) % 8 * 64 + n / 4096 % 64) * 64 + n / 64 % 64) * 64 + n % 64 = n := by
    omega
  rw [readUtf8_four offset (by omega) (by omega) second (isContinuation_byte _)
    (isContinuation_byte _), payload_byte, payload_byte, payload_byte, first, code]

/-- The encoding of a character is read as that character. -/
theorem exists_readUtf8_encode (c : Char) :
    ∃ later, readUtf8 offset (String.utf8EncodeChar c ++ rest) = .ok c :: readUtf8 later rest := by
  obtain ⟨n, valid, rfl⟩ : ∃ n, n.isValidChar ∧ Char.ofNat n = c :=
    ⟨c.toNat, c.valid, Char.ofNat_toNat c⟩
  rw [utf8EncodeChar_ofNat valid]
  split
  next one =>
    have first : (UInt8.ofNat n).toNat = n := toNat_byte (by omega)
    have read : readUtf8 offset (.ofNat n :: rest) = _ := readUtf8_one offset (by omega)
    rw [first] at read
    exact ⟨_, read⟩
  next moreThanOne =>
    split
    next two => exact ⟨_, readUtf8_ofNat_two offset rest (by omega) two⟩
    next moreThanTwo =>
      split
      next three => exact ⟨_, readUtf8_ofNat_three offset rest valid (by omega) three⟩
      next four => exact ⟨_, readUtf8_ofNat_four offset rest valid (by omega)⟩

end Character

theorem readUtf8_encodeUtf8 (offset : Nat) (text : List Char) :
    readUtf8 offset (encodeUtf8 text) = text.map .ok := by
  induction text generalizing offset with
  | nil => rfl
  | cons c others ih =>
      obtain ⟨later, read⟩ := exists_readUtf8_encode offset (encodeUtf8 others) c
      rw [encodeUtf8_cons, read, ih later, List.map_cons]

theorem decodeUtf8_eq_ok_iff {bytes : List UInt8} {text : List Char} :
    decodeUtf8 bytes = .ok text ↔ bytes = encodeUtf8 text := by
  rw [decodeUtf8, allOrFault_eq_ok_iff]
  constructor
  · exact eq_encodeUtf8_of_read
  · rintro rfl
    exact readUtf8_encodeUtf8 0 text

@[simp] theorem decodeUtf8Leniently_encodeUtf8 (text : List Char) :
    decodeUtf8Leniently (encodeUtf8 text) = text := by
  rw [decodeUtf8Leniently, readUtf8_encodeUtf8, List.map_map]
  exact List.map_id text

/-- A byte below 128 is part of no character but the one with this number. -/
theorem ascii_mem_utf8EncodeChar {c : Char} {b : UInt8} (h : b ∈ String.utf8EncodeChar c)
    (ascii : b.toNat < 128) : c = Char.ofNat b.toNat := by
  obtain ⟨n, valid, rfl⟩ : ∃ n, n.isValidChar ∧ Char.ofNat n = c :=
    ⟨c.toNat, c.valid, Char.ofNat_toNat c⟩
  rw [utf8EncodeChar_ofNat valid] at h
  split at h
  next one =>
    obtain rfl := List.mem_singleton.mp h
    rw [toNat_byte (by omega)]
  next =>
    -- All bytes of a longer sequence are large.
    have large : ∃ m, 128 ≤ m ∧ m < 256 ∧ b = .ofNat m := by
      split at h
      next =>
        simp only [List.mem_cons, List.not_mem_nil, or_false] at h
        rcases h with eq | eq <;> exact ⟨_, by omega, by omega, eq⟩
      next =>
        split at h
        all_goals simp only [List.mem_cons, List.not_mem_nil, or_false] at h
        · rcases h with eq | eq | eq <;> exact ⟨_, by omega, by omega, eq⟩
        · rcases h with eq | eq | eq | eq <;> exact ⟨_, by omega, by omega, eq⟩
    obtain ⟨m, low, high, rfl⟩ := large
    rw [toNat_byte high] at ascii
    omega

end JavadocAudit.Text
