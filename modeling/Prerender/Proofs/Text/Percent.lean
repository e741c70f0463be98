import Prerender.Text.Percent

/-!
# Percent encoding and its inverse

* `decodeUtf8_flatMap_utf8EncodeChar`: reading UTF-8 with replacement gives back every text from
  its own bytes.
* `percentDecode_percentEncode`: decoding undoes encoding, on every text.
* `not_mem_percentEncode_slash`: an encoded text stays within one component of a URL path.
* `percentDecode_eq_nil_iff`: decoding loses no text altogether, however malformed its escapes are.

The round trip of UTF-8 has one lemma for each length of a sequence. The second byte decides
whether a sequence of three or four bytes is well formed, so its bounds are settled first
(`utf8Tail?_of_three`, `utf8Tail?_of_four`).
-/

namespace Prerender.Text

/-! ### Bytes of a character -/

theorem toNat_ofNat_of_lt {n : Nat} (byte : n < 0x100) : (UInt8.ofNat n).toNat = n := by
  rw [UInt8.toNat_ofNat']
  omega

theorem ofNat_lt_ascii_iff {n : Nat} (byte : n < 0x100) : UInt8.ofNat n < 0x80 ↔ n < 0x80 := by
  rw [UInt8.lt_iff_toNat_lt, toNat_ofNat_of_lt byte]
  rfl

theorem isContinuation_ofNat (bits : Nat) :
    isContinuation (UInt8.ofNat (bits % 0x40 + 0x80)) = true := by
  have byte : (UInt8.ofNat (bits % 0x40 + 0x80)).toNat = bits % 0x40 + 0x80 :=
    toNat_ofNat_of_lt (by omega)
  simp only [isContinuation, UInt8.le_iff_toNat_le, byte, UInt8.reduceToNat, Bool.and_eq_true,
    decide_eq_true_eq]
  omega

theorem continuationBits_ofNat (bits : Nat) :
    continuationBits (UInt8.ofNat (bits % 0x40 + 0x80)) = bits % 0x40 := by
  rw [continuationBits, toNat_ofNat_of_lt (by omega)]
  omega

theorem utf8Tail?_of_two {v : Nat} (least : 0x80 ≤ v) (most : v ≤ 0x7FF) :
    utf8Tail? (UInt8.ofNat (v / 64 % 0x20 + 0xC0)) = some ⟨0x80, 0xBF, 0⟩ := by
  have first : (UInt8.ofNat (v / 64 % 0x20 + 0xC0)).toNat = v / 64 % 0x20 + 0xC0 :=
    toNat_ofNat_of_lt (by omega)
  simp only [utf8Tail?, UInt8.lt_iff_toNat_lt, first, UInt8.reduceToNat]
  rw [if_neg (by omega), if_pos (by omega)]

/-- The first byte of a three byte sequence admits its second one. It rules out what two bytes
could spell, and surrogates. -/
theorem utf8Tail?_of_three {v : Nat} (least : 0x800 ≤ v) (most : v ≤ 0xFFFF)
    (scalar : v < 0xD800 ∨ 0xDFFF < v) :
    ∃ low high, utf8Tail? (UInt8.ofNat (v / 4096 % 0x10 + 0xE0)) = some ⟨low, high, 1⟩
      ∧ low ≤ UInt8.ofNat (v / 64 % 0x40 + 0x80) ∧ UInt8.ofNat (v / 64 % 0x40 + 0x80) ≤ high := by
  have first : (UInt8.ofNat (v / 4096 % 0x10 + 0xE0)).toNat = v / 4096 % 0x10 + 0xE0 :=
    toNat_ofNat_of_lt (by omega)
  have second : (UInt8.ofNat (v / 64 % 0x40 + 0x80)).toNat = v / 64 % 0x40 + 0x80 :=
    toNat_ofNat_of_lt (by omega)
  simp only [utf8Tail?, UInt8.le_iff_toNat_le, UInt8.lt_iff_toNat_lt, ← UInt8.toNat_inj, first,
    second, UInt8.reduceToNat]
  by_cases overlong : v / 4096 = 0
  · refine ⟨0xA0, 0xBF, ?_, ?_⟩
    · rw [if_neg (by omega), if_neg (by omega), if_pos (by omega)]
    · simp only [UInt8.reduceToNat]
      omega
  · by_cases surrogate : v / 4096 = 13
    · refine ⟨0x80, 0x9F, ?_, ?_⟩
      · rw [if_neg (by omega), if_neg (by omega), if_neg (by omega), if_pos (by omega)]
      · simp only [UInt8.reduceToNat]
        omega
    · refine ⟨0x80, 0xBF, ?_, ?_⟩
      · rw [if_neg (by omega), if_neg (by omega), if_neg (by omega), if_neg (by omega),
          if_pos (by omega)]
      · simp only [UInt8.reduceToNat]
        omega

/-- The first byte of a four byte sequence admits its second one. It rules out what three bytes
could spell, and code points above the last one. -/
theorem utf8Tail?_of_four {v : Nat} (least : 0x10000 ≤ v) (most : v ≤ 0x10FFFF) :
    ∃ low high, utf8Tail? (UInt8.ofNat (v / 262144 % 0x08 + 0xF0)) = some ⟨low, high, 2⟩
      ∧ low ≤ UInt8.ofNat (v / 4096 % 0x40 + 0x80)
      ∧ UInt8.ofNat (v / 4096 % 0x40 + 0x80) ≤ high := by
  have first : (UInt8.ofNat (v / 262144 % 0x08 + 0xF0)).toNat = v / 262144 % 0x08 + 0xF0 :=
    toNat_ofNat_of_lt (by omega)
  have second : (UInt8.ofNat (v / 4096 % 0x40 + 0x80)).toNat = v / 4096 % 0x40 + 0x80 :=
    toNat_ofNat_of_lt (by omega)
  simp only [utf8Tail?, UInt8.le_iff_toNat_le, UInt8.lt_iff_toNat_lt, ← UInt8.toNat_inj, first,
    second, UInt8.reduceToNat]
  by_cases overlong : v / 262144 = 0
  · refine ⟨0x90, 0xBF, ?_, ?_⟩
    · rw [if_neg (by omega), if_neg (by omega), if_neg (by omega), if_neg (by omega),
        if_neg (by omega), if_pos (by omega)]
    · simp only [UInt8.reduceToNat]
      omega
  · by_cases last : v / 262144 = 4
    · refine ⟨0x80, 0x8F, ?_, ?_⟩
      · rw [if_neg (by omega), if_neg (by omega), if_neg (by omega), if_neg (by omega),
          if_neg (by omega), if_neg (by omega), if_neg (by omega), if_pos (by omega)]
      · simp only [UInt8.reduceToNat]
        omega
    · refine ⟨0x80, 0xBF, ?_, ?_⟩
      · rw [if_neg (by omega), if_neg (by omega), if_neg (by omega), if_neg (by omega),
          if_neg (by omega), if_neg (by omega), if_pos (by omega)]
      · simp only [UInt8.reduceToNat]
        omega

/-! ### UTF-8 -/

theorem decodeUtf8_one {v : Nat} (most : v ≤ 0x7F) (rest : List UInt8) :
    decodeUtf8 (UInt8.ofNat v :: rest) = Char.ofNat v :: decodeUtf8 rest := by
  have ascii : UInt8.ofNat v < 0x80 := (ofNat_lt_ascii_iff (by omega)).mpr (by omega)
  rw [decodeUtf8, if_pos ascii, toNat_ofNat_of_lt (by omega)]

theorem decodeUtf8_two {v : Nat} (least : 0x80 ≤ v) (most : v ≤ 0x7FF) (rest : List UInt8) :
    decodeUtf8 (UInt8.ofNat (v / 64 % 0x20 + 0xC0) :: UInt8.ofNat (v % 0x40 + 0x80) :: rest)
      = Char.ofNat v :: decodeUtf8 rest := by
  have start := utf8Tail?_of_two least most
  have second := isContinuation_ofNat v
  simp only [isContinuation, Bool.and_eq_true, decide_eq_true_eq] at second
  rw [decodeUtf8, if_neg (by rw [ofNat_lt_ascii_iff (by omega)]; omega)]
  simp only [start, second, and_self, if_true, continuationBits_ofNat]
  rw [toNat_ofNat_of_lt (by omega)]
  congr 2
  omega

theorem decodeUtf8_three {v : Nat} (least : 0x800 ≤ v) (most : v ≤ 0xFFFF)
    (scalar : v < 0xD800 ∨ 0xDFFF < v) (rest : List UInt8) :
    decodeUtf8 (UInt8.ofNat (v / 4096 % 0x10 + 0xE0) :: UInt8.ofNat (v / 64 % 0x40 + 0x80)
        :: UInt8.ofNat (v % 0x40 + 0x80) :: rest)
      = Char.ofNat v :: decodeUtf8 rest := by
  obtain ⟨low, high, start, second⟩ := utf8Tail?_of_three least most scalar
  rw [decodeUtf8, if_neg (by rw [ofNat_lt_ascii_iff (by omega)]; omega)]
  simp only [start, second, and_self, if_true, isContinuation_ofNat, continuationBits_ofNat]
  rw [toNat_ofNat_of_lt (by omega)]
  congr 2
  omega

theorem decodeUtf8_four {v : Nat} (least : 0x10000 ≤ v) (most : v ≤ 0x10FFFF)
    (rest : List UInt8) :
    decodeUtf8 (UInt8.ofNat (v / 262144 % 0x08 + 0xF0) :: UInt8.ofNat (v / 4096 % 0x40 + 0x80)
        :: UInt8.ofNat (v / 64 % 0x40 + 0x80) :: UInt8.ofNat (v % 0x40 + 0x80) :: rest)
      = Char.ofNat v :: decodeUtf8 rest := by
  obtain ⟨low, high, start, second⟩ := utf8Tail?_of_four least most
  rw [decodeUtf8, if_neg (by rw [ofNat_lt_ascii_iff (by omega)]; omega)]
  simp only [start, second, and_self, if_true, isContinuation_ofNat, continuationBits_ofNat]
  rw [toNat_ofNat_of_lt (by omega)]
  congr 2
  omega

/-- The bytes of a character are read as that character, whatever stands behind them. -/
theorem decodeUtf8_utf8EncodeChar_append (c : Char) (rest : List UInt8) :
    decodeUtf8 (String.utf8EncodeChar c ++ rest) = c :: decodeUtf8 rest := by
  have scalar : c.toNat < 0xD800 ∨ 0xDFFF < c.toNat ∧ c.toNat < 0x110000 := c.valid
  suffices read : decodeUtf8 (String.utf8EncodeChar c ++ rest)
      = Char.ofNat c.toNat :: decodeUtf8 rest by
    rw [read, Char.ofNat_toNat]
  unfold String.utf8EncodeChar
  simp only [show c.val.toNat = c.toNat from rfl]
  generalize c.toNat = v at scalar
  split
  · next one => exact decodeUtf8_one one rest
  · split
    · next one two => exact decodeUtf8_two (by omega) two rest
    · split
      · next two three => exact decodeUtf8_three (by omega) three (by omega) rest
      · exact decodeUtf8_four (by omega) (by omega) rest

theorem decodeUtf8_flatMap_utf8EncodeChar (text : List Char) :
    decodeUtf8 (text.flatMap String.utf8EncodeChar) = text := by
  induction text with
  | nil => rfl
  | cons c rest ih => rw [List.flatMap_cons, decodeUtf8_utf8EncodeChar_append, ih]

/-! ### Pieces of an encoded text -/

theorem hexValue?_upperHex {n : Nat} (digit : n < 16) : hexValue? (upperHex n) = some n := by
  have all : ∀ n : Fin 16, hexValue? (upperHex n) = some n.val := by decide
  exact all ⟨n, digit⟩

theorem percentPieces_escapedByte_append (byte : UInt8) (rest : List Char) :
    percentPieces (escapedByte byte ++ rest) = .byte byte :: percentPieces rest := by
  have bound : byte.toNat < 256 := byte.toNat_lt
  have whole : 16 * (byte.toNat / 16) + byte.toNat % 16 = byte.toNat := Nat.div_add_mod _ _
  simp only [escapedByte, List.cons_append, List.nil_append, percentPieces]
  rw [hexValue?_upperHex (by omega), hexValue?_upperHex (by omega)]
  simp only [whole, UInt8.ofNat_toNat]

theorem percentPieces_cons_of_ne {c : Char} (plain : c ≠ '%') (rest : List Char) :
    percentPieces (c :: rest) = .char c :: percentPieces rest := by
  rw [percentPieces]
  intro _ _ _ same
  exact absurd same plain

theorem percentPieces_flatMap_escapedByte_append (bytes : List UInt8) (rest : List Char) :
    percentPieces (bytes.flatMap escapedByte ++ rest)
      = bytes.map .byte ++ percentPieces rest := by
  induction bytes with
  | nil => rfl
  | cons byte bytes ih =>
    rw [List.flatMap_cons, List.append_assoc, percentPieces_escapedByte_append, ih,
      List.map_cons, List.cons_append]

theorem joinPieces_map_byte_append (pending bytes : List UInt8) (rest : List PercentPiece) :
    joinPieces pending (bytes.map .byte ++ rest) = joinPieces (bytes.reverse ++ pending) rest := by
  induction bytes generalizing pending with
  | nil => rfl
  | cons byte bytes ih =>
    rw [List.map_cons, List.cons_append, joinPieces, ih]
    simp

/-- The bytes read so far spell `run`. A character that stands for itself ends the run. -/
theorem joinPieces_percentEncode (run text : List Char) :
    joinPieces (run.flatMap String.utf8EncodeChar).reverse (percentPieces (percentEncode text))
      = run ++ text := by
  induction text generalizing run with
  | nil =>
    rw [percentEncode, List.flatMap_nil, percentPieces, joinPieces, List.reverse_reverse,
      decodeUtf8_flatMap_utf8EncodeChar, List.append_nil]
  | cons c rest ih =>
    rw [percentEncode, List.flatMap_cons, ← percentEncode]
    by_cases plain : isUnreserved c = true
    · have noPercent : c ≠ '%' := by
        rintro rfl
        exact absurd plain (by decide)
      have behind := ih []
      simp only [List.flatMap_nil, List.reverse_nil, List.nil_append] at behind
      rw [if_pos plain, List.singleton_append, percentPieces_cons_of_ne noPercent, joinPieces,
        List.reverse_reverse, decodeUtf8_flatMap_utf8EncodeChar, behind]
    · have longer : (String.utf8EncodeChar c).reverse
            ++ (run.flatMap String.utf8EncodeChar).reverse
          = ((run ++ [c]).flatMap String.utf8EncodeChar).reverse := by simp
      rw [if_neg plain, percentPieces_flatMap_escapedByte_append, joinPieces_map_byte_append,
        longer, ih, List.append_assoc, List.singleton_append]

/-- Decoding undoes encoding, on every text. -/
theorem percentDecode_percentEncode (text : List Char) :
    percentDecode (percentEncode text) = text :=
  joinPieces_percentEncode [] text

/-! ### Characters of an encoded text -/

theorem upperHex_ne_slash {n : Nat} (digit : n < 16) : upperHex n ≠ '/' := by
  have all : ∀ n : Fin 16, upperHex n ≠ '/' := by decide
  exact all ⟨n, digit⟩

theorem not_mem_escapedByte_slash (byte : UInt8) : '/' ∉ escapedByte byte := by
  have bound : byte.toNat < 256 := byte.toNat_lt
  have high := upperHex_ne_slash (n := byte.toNat / 16) (by omega)
  have low := upperHex_ne_slash (n := byte.toNat % 16) (by omega)
  simp only [escapedByte, List.mem_cons, List.not_mem_nil, or_false, not_or]
  exact ⟨by decide, high.symm, low.symm⟩

/-- An encoded text stays within one component of a URL path. -/
theorem not_mem_percentEncode_slash (text : List Char) : '/' ∉ percentEncode text := by
  intro member
  obtain ⟨c, _, inside⟩ := List.mem_flatMap.mp member
  split at inside
  · next plain =>
    rw [List.mem_singleton] at inside
    subst inside
    exact absurd plain (by decide)
  · obtain ⟨byte, _, inEscape⟩ := List.mem_flatMap.mp inside
    exact not_mem_escapedByte_slash byte inEscape

/-! ### Texts that are not empty -/

/-- Whatever stands at the start of some bytes, it is read as a character. -/
theorem decodeUtf8_cons_ne_nil (first : UInt8) (rest : List UInt8) :
    decodeUtf8 (first :: rest) ≠ [] := by
  rw [decodeUtf8]
  repeat' split
  all_goals exact List.cons_ne_nil _ _

theorem decodeUtf8_eq_nil_iff {bytes : List UInt8} : decodeUtf8 bytes = [] ↔ bytes = [] := by
  cases bytes with
  | nil => exact iff_of_true rfl rfl
  | cons first rest =>
    exact iff_of_false (decodeUtf8_cons_ne_nil first rest) (List.cons_ne_nil first rest)

theorem joinPieces_eq_nil_iff {pending : List UInt8} {pieces : List PercentPiece} :
    joinPieces pending pieces = [] ↔ pending = [] ∧ pieces = [] := by
  induction pieces generalizing pending with
  | nil => rw [joinPieces, decodeUtf8_eq_nil_iff, List.reverse_eq_nil_iff, and_iff_left rfl]
  | cons piece rest ih =>
    cases piece with
    | byte byte => simp [joinPieces, ih]
    | char c => simp [joinPieces]

theorem percentPieces_cons_ne_nil (c : Char) (rest : List Char) :
    percentPieces (c :: rest) ≠ [] := by
  rw [percentPieces.eq_def]
  repeat' split
  · next nil => cases nil
  all_goals exact List.cons_ne_nil _ _

/-- Only the empty text is decoded to the empty text. -/
theorem percentDecode_eq_nil_iff {text : List Char} : percentDecode text = [] ↔ text = [] := by
  rw [percentDecode, joinPieces_eq_nil_iff, and_iff_right rfl]
  cases text with
  | nil => exact iff_of_true rfl rfl
  | cons c rest =>
    exact iff_of_false (percentPieces_cons_ne_nil c rest) (List.cons_ne_nil c rest)

end Prerender.Text
