import Mathlib.Tactic.SplitIfs
import Switchboard.Text.Utf8

/-!
# Text and its encoding

A stream is text exactly if it is the encoding of some text, and then of that one only.

**One character.** For each size an encoded character has, its first bytes open a character of that
size and the others carry six bits each. So the character that these bytes are read as is encoded by
them (`encodeChar_one` to `encodeChar_four`), and the cut takes them as one segment
(`segments_one` to `segments_four`).

**Whole streams.** From left to right: the segments of a stream that has no broken ones are the
characters that encode to it, and the segments of an encoding are its characters.

**Pieces.** Segments lie end to end, and no encoded character begins inside another segment, since
what follows the first byte of a segment are continuation bytes (`exists_segment`).

Main result: `decode?_eq_some`.
-/

namespace Switchboard.Utf8

/-! ## Bytes as numbers -/

variable {a b c d : UInt8} {rest : Bytes}

theorem toNat_char_ofNat {n : Nat} (h : n.isValidChar) : (Char.ofNat n).val.toNat = n := by
  rw [Char.ofNat, dif_pos h]
  rfl

theorem isAscii_iff : a < 0x80 ↔ a.toNat < 128 := Iff.rfl

theorem isContinuation_iff : isContinuation b = true ↔ 128 ≤ b.toNat ∧ b.toNat ≤ 191 := by
  simp [isContinuation, UInt8.le_iff_toNat_le]

theorem opensThree_iff : opensThree a b = true ↔
    (a.toNat = 224 ∧ 160 ≤ b.toNat ∧ b.toNat ≤ 191) ∨
    (225 ≤ a.toNat ∧ a.toNat ≤ 236 ∧ 128 ≤ b.toNat ∧ b.toNat ≤ 191) ∨
    (a.toNat = 237 ∧ 128 ≤ b.toNat ∧ b.toNat ≤ 159) ∨
    (238 ≤ a.toNat ∧ a.toNat ≤ 239 ∧ 128 ≤ b.toNat ∧ b.toNat ≤ 191) := by
  simp [opensThree, isContinuation, UInt8.le_iff_toNat_le, ← UInt8.toNat_inj, and_assoc, or_assoc]

theorem opensFour_iff : opensFour a b = true ↔
    (a.toNat = 240 ∧ 144 ≤ b.toNat ∧ b.toNat ≤ 191) ∨
    (241 ≤ a.toNat ∧ a.toNat ≤ 243 ∧ 128 ≤ b.toNat ∧ b.toNat ≤ 191) ∨
    (a.toNat = 244 ∧ 128 ≤ b.toNat ∧ b.toNat ≤ 143) := by
  simp [opensFour, isContinuation, UInt8.le_iff_toNat_le, ← UInt8.toNat_inj, and_assoc, or_assoc]

theorem isContinuation_of_opensThree (h : opensThree a b = true) :
    isContinuation b = true := by
  rw [opensThree_iff] at h
  rw [isContinuation_iff]
  omega

theorem isContinuation_of_opensFour (h : opensFour a b = true) :
    isContinuation b = true := by
  rw [opensFour_iff] at h
  rw [isContinuation_iff]
  omega

theorem opensTwo_iff : (0xc2 ≤ a && a ≤ 0xdf) = true ↔ 194 ≤ a.toNat ∧ a.toNat ≤ 223 := by
  simp [UInt8.le_iff_toNat_le]

/-- A byte is what its number is. -/
theorem ofNat_eq {n : Nat} (a : UInt8) (h : n = a.toNat) : UInt8.ofNat n = a :=
  h ▸ UInt8.ofNat_toNat

/-! ## One character -/

theorem encodeChar_one (h : a < 0x80) : String.utf8EncodeChar (Char.ofNat a.toNat) = [a] := by
  rw [isAscii_iff] at h
  have hvalid : a.toNat.isValidChar := .inl (by omega)
  simp only [String.utf8EncodeChar, toNat_char_ofNat hvalid]
  rw [if_pos (by omega), UInt8.ofNat_toNat]

theorem encodeChar_two (ha : (0xc2 ≤ a && a ≤ 0xdf) = true) (hb : isContinuation b = true) :
    String.utf8EncodeChar (Char.ofNat (a.toNat % 32 * 64 + payload b)) = [a, b] := by
  rw [opensTwo_iff] at ha
  rw [isContinuation_iff] at hb
  unfold payload
  have hvalid : (a.toNat % 32 * 64 + b.toNat % 64).isValidChar := .inl (by omega)
  simp only [String.utf8EncodeChar, toNat_char_ofNat hvalid]
  rw [if_neg (by omega), if_pos (by omega), ofNat_eq a (by omega), ofNat_eq b (by omega)]

theorem encodeChar_three (hab : opensThree a b = true) (hc : isContinuation c = true) :
    String.utf8EncodeChar (Char.ofNat (a.toNat % 16 * 4096 + payload b * 64 + payload c)) =
      [a, b, c] := by
  rw [opensThree_iff] at hab
  rw [isContinuation_iff] at hc
  unfold payload
  have hvalid : (a.toNat % 16 * 4096 + b.toNat % 64 * 64 + c.toNat % 64).isValidChar := by
    unfold Nat.isValidChar
    omega
  simp only [String.utf8EncodeChar, toNat_char_ofNat hvalid]
  rw [if_neg (by omega), if_neg (by omega), if_pos (by omega), ofNat_eq a (by omega),
    ofNat_eq b (by omega), ofNat_eq c (by omega)]

theorem encodeChar_four (hab : opensFour a b = true) (hc : isContinuation c = true)
    (hd : isContinuation d = true) :
    String.utf8EncodeChar (Char.ofNat (a.toNat % 8 * 262144 + payload b * 4096 + payload c * 64 +
      payload d)) = [a, b, c, d] := by
  rw [opensFour_iff] at hab
  rw [isContinuation_iff] at hc hd
  unfold payload
  have hvalid : (a.toNat % 8 * 262144 + b.toNat % 64 * 4096 + c.toNat % 64 * 64 +
      d.toNat % 64).isValidChar := by
    unfold Nat.isValidChar
    omega
  simp only [String.utf8EncodeChar, toNat_char_ofNat hvalid]
  rw [if_neg (by omega), if_neg (by omega), if_neg (by omega), ofNat_eq a (by omega),
    ofNat_eq b (by omega), ofNat_eq c (by omega), ofNat_eq d (by omega)]

/-- An encoded character has one byte that is no continuation byte, the first. -/
theorem encodeChar_cons (c : Char) : ∃ a more, String.utf8EncodeChar c = a :: more ∧
    isContinuation a = false ∧ ∀ b ∈ more, isContinuation b = true := by
  have hvalid : c.val.toNat.isValidChar := c.valid
  have hbyte : ∀ {n : Nat}, n < 256 → (UInt8.ofNat n).toNat = n := UInt8.toNat_ofNat_of_lt'
  have hlater : ∀ n : Nat, isContinuation (UInt8.ofNat (n % 64 + 128)) = true := by
    intro n
    rw [isContinuation_iff, hbyte (by omega)]
    omega
  unfold Nat.isValidChar at hvalid
  simp only [String.utf8EncodeChar, Bool.eq_false_iff, ne_eq]
  split_ifs
  all_goals
    refine ⟨_, _, rfl, ?_, ?_⟩
    · rw [isContinuation_iff, hbyte (by omega)]
      omega
    · simp only [List.forall_mem_cons, hlater, List.not_mem_nil, false_implies, implies_true,
        and_self]

theorem segments_one (ha : a < 0x80) :
    segments (a :: rest) = .char (Char.ofNat a.toNat) 1 :: segments rest := by
  rw [segments.eq_def]
  exact if_pos ha

theorem segments_two (ha : (0xc2 ≤ a && a ≤ 0xdf) = true) (hb : isContinuation b = true) :
    segments (a :: b :: rest) =
      .char (Char.ofNat (a.toNat % 32 * 64 + payload b)) 2 :: segments rest := by
  have hlarge : ¬ a < 0x80 := by
    rw [opensTwo_iff] at ha
    rw [isAscii_iff]
    omega
  rw [segments.eq_def]
  simp only [if_neg hlarge, if_pos ha, if_pos hb]

theorem segments_three (hab : opensThree a b = true) (hc : isContinuation c = true) :
    segments (a :: b :: c :: rest) =
      .char (Char.ofNat (a.toNat % 16 * 4096 + payload b * 64 + payload c)) 3 :: segments rest := by
  have hlarge : ¬ a < 0x80 ∧ ¬ (0xc2 ≤ a && a ≤ 0xdf) = true := by
    rw [opensThree_iff] at hab
    rw [opensTwo_iff, isAscii_iff]
    omega
  rw [segments.eq_def]
  simp only [if_neg hlarge.1, if_neg hlarge.2, if_pos hab, if_pos hc]

theorem segments_four (hab : opensFour a b = true) (hc : isContinuation c = true)
    (hd : isContinuation d = true) :
    segments (a :: b :: c :: d :: rest) =
      .char (Char.ofNat (a.toNat % 8 * 262144 + payload b * 4096 + payload c * 64 + payload d)) 4 ::
        segments rest := by
  have hlarge : ¬ a < 0x80 ∧ ¬ (0xc2 ≤ a && a ≤ 0xdf) = true ∧ ¬ opensThree a b = true := by
    rw [opensFour_iff] at hab
    rw [opensTwo_iff, opensThree_iff, isAscii_iff]
    omega
  rw [segments.eq_def]
  simp only [if_neg hlarge.1, if_neg hlarge.2.1, if_neg hlarge.2.2, if_pos hab, if_pos hc,
    if_pos hd]

/-- An encoded character is a segment. -/
theorem segments_encodeChar (char : Char) (rest : Bytes) :
    ∃ size, segments (String.utf8EncodeChar char ++ rest) = .char char size :: segments rest := by
  have hvalid : char.val.toNat.isValidChar := char.valid
  have hchar : ∀ {n : Nat}, n = char.val.toNat → Char.ofNat n = char := fun h =>
    h ▸ Char.ofNat_toNat char
  have hbyte : ∀ {n : Nat}, n < 256 → (UInt8.ofNat n).toNat = n := UInt8.toNat_ofNat_of_lt'
  unfold Nat.isValidChar at hvalid
  simp only [String.utf8EncodeChar]
  -- One case for each number of bytes a character takes.
  split_ifs with hone htwo hthree
  · refine ⟨1, ?_⟩
    rw [List.cons_append, List.nil_append, segments_one, hchar]
    · rw [hbyte (by omega)]
    · rw [isAscii_iff, hbyte (by omega)]
      omega
  · refine ⟨2, ?_⟩
    rw [List.cons_append, List.cons_append, List.nil_append, segments_two, hchar]
    · rw [payload, hbyte (by omega), hbyte (by omega)]
      omega
    · rw [opensTwo_iff, hbyte (by omega)]
      omega
    · rw [isContinuation_iff, hbyte (by omega)]
      omega
  · refine ⟨3, ?_⟩
    rw [List.cons_append, List.cons_append, List.cons_append, List.nil_append, segments_three,
      hchar]
    · rw [payload, payload, hbyte (by omega), hbyte (by omega), hbyte (by omega)]
      omega
    · rw [opensThree_iff, hbyte (by omega), hbyte (by omega)]
      omega
    · rw [isContinuation_iff, hbyte (by omega)]
      omega
  · refine ⟨4, ?_⟩
    rw [List.cons_append, List.cons_append, List.cons_append, List.cons_append, List.nil_append,
      segments_four, hchar]
    · rw [payload, payload, payload, hbyte (by omega), hbyte (by omega), hbyte (by omega),
        hbyte (by omega)]
      omega
    · rw [opensFour_iff, hbyte (by omega), hbyte (by omega)]
      omega
    · rw [isContinuation_iff, hbyte (by omega)]
      omega
    · rw [isContinuation_iff, hbyte (by omega)]
      omega

/-! ## Whole streams -/

theorem whole?_cons_char {char : Char} {size : Nat} {more : List Segment} {chars : List Char} :
    whole? (.char char size :: more) = some chars ↔
      ∃ others, whole? more = some others ∧ char :: others = chars := by
  rw [whole?, Option.map_eq_some_iff]

/-- A stream without broken segments is the encoding of its characters. -/
theorem eq_encode_of_whole? {data : Bytes} {chars : List Char}
    (h : whole? (segments data) = some chars) : data = chars.flatMap String.utf8EncodeChar := by
  -- One case per well-formed sequence; in every other the text is not whole.
  fun_induction segments data generalizing chars with
  | case1 =>
    cases h
    rfl
  | case2 a rest ha ih =>
    obtain ⟨others, hothers, rfl⟩ := whole?_cons_char.1 h
    rw [List.flatMap_cons, encodeChar_one ha, ← ih hothers]
    rfl
  | case4 a _ ha b rest hb ih =>
    obtain ⟨others, hothers, rfl⟩ := whole?_cons_char.1 h
    rw [List.flatMap_cons, encodeChar_two ha hb, ← ih hothers]
    rfl
  | case8 a _ _ b hab c rest hc ih =>
    obtain ⟨others, hothers, rfl⟩ := whole?_cons_char.1 h
    rw [List.flatMap_cons, encodeChar_three hab hc, ← ih hothers]
    rfl
  | case12 a _ _ b _ hab c hc d rest hd ih =>
    obtain ⟨others, hothers, rfl⟩ := whole?_cons_char.1 h
    rw [List.flatMap_cons, encodeChar_four hab hc hd, ← ih hothers]
    rfl
  | _ => cases h

theorem whole?_segments_encode (chars : List Char) :
    whole? (segments (chars.flatMap String.utf8EncodeChar)) = some chars := by
  induction chars with
  | nil => rfl
  | cons char chars ih =>
    obtain ⟨size, hsegments⟩ := segments_encodeChar char (chars.flatMap String.utf8EncodeChar)
    rw [List.flatMap_cons, hsegments, whole?_cons_char]
    exact ⟨chars, ih, rfl⟩

/-- **Decoding undoes encoding, and nothing else is text.** -/
theorem decode?_eq_some {data : Bytes} {text : String} :
    decode? data = some text ↔ data = encode text := by
  rw [decode?, Option.map_eq_some_iff, encode]
  constructor
  · rintro ⟨chars, h, rfl⟩
    rw [String.toList_ofList]
    exact eq_encode_of_whole? h
  · rintro rfl
    exact ⟨text.toList, whole?_segments_encode text.toList, String.ofList_toList⟩

/-! ## The pieces of a stream -/

/-- The bytes of a segment: those that encode its character, or a byte and some continuation bytes
behind it. -/
inductive Segment.Covers : Segment → Bytes → Prop
  | char (c : Char) : Covers (.char c c.utf8Size) (String.utf8EncodeChar c)
  | broken (a : UInt8) {more : Bytes} (hmore : ∀ b ∈ more, isContinuation b = true) :
      Covers (.broken (more.length + 1)) (a :: more)

theorem Segment.Covers.of_encodeChar {c : Char} {piece : Bytes}
    (h : String.utf8EncodeChar c = piece) : Covers (.char c piece.length) piece := by
  rw [← h, String.length_utf8EncodeChar]
  exact .char c

theorem Segment.Covers.exists_cons {segment : Segment} {piece : Bytes} (h : segment.Covers piece) :
    ∃ a more, piece = a :: more ∧ ∀ b ∈ more, isContinuation b = true := by
  cases h with
  | char c =>
    obtain ⟨a, more, hc, -, hmore⟩ := encodeChar_cons c
    exact ⟨a, more, hc, hmore⟩
  | broken a hmore => exact ⟨a, _, rfl, hmore⟩

/-- The first segment of a stream covers its first bytes, and the others are those of the rest. -/
theorem exists_segment {data : Bytes} (h : data ≠ []) : ∃ segment piece rest,
    segments data = segment :: segments rest ∧ data = piece ++ rest ∧ segment.Covers piece := by
  fun_cases segments data with
  | case1 => exact absurd rfl h
  | case2 a rest ha => exact ⟨_, [a], rest, rfl, rfl, .of_encodeChar (encodeChar_one ha)⟩
  | case4 a _ ha b rest hb =>
    exact ⟨_, [a, b], rest, rfl, rfl, .of_encodeChar (encodeChar_two ha hb)⟩
  | case8 a _ _ b hab c rest hc =>
    exact ⟨_, [a, b, c], rest, rfl, rfl, .of_encodeChar (encodeChar_three hab hc)⟩
  | case12 a _ _ b _ hab c hc d rest hd =>
    exact ⟨_, [a, b, c, d], rest, rfl, rfl, .of_encodeChar (encodeChar_four hab hc hd)⟩
  | case3 a | case5 a | case6 a | case15 a =>
    exact ⟨_, [a], _, rfl, rfl, .broken a (List.forall_mem_nil _)⟩
  | case7 a _ _ b hab | case9 a _ _ b hab =>
    have hb : ∀ x ∈ [b], isContinuation x = true := by simpa using isContinuation_of_opensThree hab
    exact ⟨_, [a, b], _, rfl, rfl, .broken a hb⟩
  | case10 a _ _ b _ hab | case14 a _ _ b _ hab =>
    have hb : ∀ x ∈ [b], isContinuation x = true := by simpa using isContinuation_of_opensFour hab
    exact ⟨_, [a, b], _, rfl, rfl, .broken a hb⟩
  | case11 a _ _ b _ hab c hc | case13 a _ _ b _ hab c hc =>
    have hbc : ∀ x ∈ [b, c], isContinuation x = true := by
      simpa using ⟨isContinuation_of_opensFour hab, hc⟩
    exact ⟨_, [a, b, c], _, rfl, rfl, .broken a hbc⟩

end Switchboard.Utf8
