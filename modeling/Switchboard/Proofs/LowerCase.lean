import Switchboard.Proofs.Grammar

/-!
# Letters in upper and lower case

Names are compared without regard to the case of their ASCII letters. The library lowers the text of
a name; a client that writes the name differently changes bytes.

**Bytes and characters.** Only the encodings of ASCII characters have bytes below `0x80`, and a
letter is one such byte. So lowering the bytes of a text encodes the lowered text, and bytes that
are no text do not become text (`decode?_map_lowerByte`).

**Messages.** Lowering the bytes of its server names changes nothing of what a message offers.

Main result: `offer_lower`.
-/

namespace Switchboard

/-! ## Characters -/

theorem toNat_toLower (c : Char) :
    c.toLower.toNat = if 65 ≤ c.toNat ∧ c.toNat ≤ 90 then c.toNat + 32 else c.toNat := by
  unfold Char.toLower
  split
  · rename_i h
    have hletter : 65 ≤ c.toNat ∧ c.toNat ≤ 90 := h
    rw [if_pos hletter]
    show (c.val + 32).toNat = c.toNat + 32
    rw [UInt32.toNat_add]
    show (c.toNat + 32) % 2 ^ 32 = c.toNat + 32
    omega
  · rename_i h
    exact (if_neg h).symm

theorem toLower_of_le {c : Char} (h : 128 ≤ c.toNat) : c.toLower = c := by
  apply Char.toNat_inj.1
  rw [toNat_toLower, if_neg (by omega)]

theorem toLower_toLower (c : Char) : c.toLower.toLower = c.toLower := by
  apply Char.toNat_inj.1
  rw [toNat_toLower, if_neg]
  rw [toNat_toLower]
  split_ifs <;> omega

theorem lowerCase_lowerCase (text : String) :
    Tls.lowerCase (Tls.lowerCase text) = Tls.lowerCase text := by
  have hchars : Char.toLower ∘ Char.toLower = Char.toLower := funext toLower_toLower
  rw [Tls.lowerCase, Tls.lowerCase, String.toList_ofList, List.map_map, hchars]

namespace Utf8

/-! ## Bytes -/

/-- A byte in lower case, if it is a letter of ASCII. -/
def lowerByte (b : UInt8) : UInt8 :=
  if 65 ≤ b.toNat ∧ b.toNat ≤ 90 then UInt8.ofNat (b.toNat + 32) else b

theorem lowerByte_of_le {b : UInt8} (h : 128 ≤ b.toNat) : lowerByte b = b :=
  if_neg (by omega)

theorem toNat_lowerByte_lt {b : UInt8} : (lowerByte b).toNat < 128 ↔ b.toNat < 128 := by
  unfold lowerByte
  by_cases h : 65 ≤ b.toNat ∧ b.toNat ≤ 90
  · rw [if_pos h, UInt8.toNat_ofNat_of_lt' (show b.toNat + 32 < 256 by omega)]
    omega
  · rw [if_neg h]

/-- An ASCII character is encoded by the byte of its number. -/
theorem encodeChar_of_lt {c : Char} (h : c.toNat < 128) :
    String.utf8EncodeChar c = [UInt8.ofNat c.toNat] :=
  if_pos (Nat.le_of_lt_succ h)

/-- All bytes of any other character are large. -/
theorem le_of_mem_encodeChar {c : Char} (h : 128 ≤ c.toNat) {b : UInt8}
    (hb : b ∈ String.utf8EncodeChar c) : 128 ≤ b.toNat := by
  have hvalid : c.val.toNat.isValidChar := c.valid
  have hlarge : 128 ≤ c.val.toNat := h
  have hbyte : ∀ {n : Nat}, n < 256 → (UInt8.ofNat n).toNat = n := UInt8.toNat_ofNat_of_lt'
  unfold Nat.isValidChar at hvalid
  simp only [String.utf8EncodeChar] at hb
  split_ifs at hb <;> simp only [List.mem_cons, List.not_mem_nil, or_false] at hb
  · omega
  · rcases hb with rfl | rfl <;> rw [hbyte (by omega)] <;> omega
  · rcases hb with rfl | rfl | rfl <;> rw [hbyte (by omega)] <;> omega
  · rcases hb with rfl | rfl | rfl | rfl <;> rw [hbyte (by omega)] <;> omega

theorem map_lowerByte_encodeChar (c : Char) :
    (String.utf8EncodeChar c).map lowerByte = String.utf8EncodeChar c.toLower := by
  by_cases hascii : c.toNat < 128
  · have hbyte : (UInt8.ofNat c.toNat).toNat = c.toNat :=
      UInt8.toNat_ofNat_of_lt' (Nat.lt_trans hascii (by decide))
    have hlower : c.toLower.toNat < 128 := by
      rw [toNat_toLower]
      split_ifs <;> omega
    rw [encodeChar_of_lt hascii, encodeChar_of_lt hlower, List.map_singleton, lowerByte, hbyte,
      toNat_toLower]
    split_ifs <;> rfl
  · have hlarge : 128 ≤ c.toNat := Nat.not_lt.1 hascii
    rw [toLower_of_le hlarge]
    exact (List.map_congr_left fun b hb => lowerByte_of_le (le_of_mem_encodeChar hlarge hb)).trans
      (List.map_id _)

/-- Bytes that spell a character once they are lowered spell one before. -/
theorem eq_encodeChar_of_map_lowerByte {piece : Bytes} {c : Char}
    (h : piece.map lowerByte = String.utf8EncodeChar c) :
    ∃ c', piece = String.utf8EncodeChar c' := by
  by_cases hascii : c.toNat < 128
  · rw [encodeChar_of_lt hascii] at h
    obtain ⟨b, rfl, hb⟩ := List.map_eq_singleton_iff.1 h
    have hsmall : b.toNat < 128 := by
      rw [← toNat_lowerByte_lt, hb, UInt8.toNat_ofNat_of_lt' (Nat.lt_trans hascii (by decide))]
      exact hascii
    exact ⟨Char.ofNat b.toNat, (encodeChar_one (isAscii_iff.2 hsmall)).symm⟩
  · have hlarge : ∀ b ∈ piece, lowerByte b = b := by
      intro b hb
      have hmem : lowerByte b ∈ String.utf8EncodeChar c := h ▸ List.mem_map_of_mem hb
      have hle := le_of_mem_encodeChar (Nat.not_lt.1 hascii) hmem
      refine lowerByte_of_le (Nat.not_lt.1 fun hlt => ?_)
      exact Nat.not_lt.2 hle (toNat_lowerByte_lt.2 hlt)
    exact ⟨c, ((List.map_congr_left hlarge).trans (List.map_id _)).symm.trans h⟩

theorem map_lowerByte_encode (text : String) :
    (encode text).map lowerByte = encode (Tls.lowerCase text) := by
  rw [encode, encode, Tls.lowerCase, String.toList_ofList, List.map_flatMap, List.flatMap_map]
  simp only [map_lowerByte_encodeChar]

theorem eq_flatMap_of_map_lowerByte {data : Bytes} {chars : List Char}
    (h : data.map lowerByte = chars.flatMap String.utf8EncodeChar) :
    ∃ text, data = encode text := by
  induction chars generalizing data with
  | nil => exact ⟨"", List.map_eq_nil_iff.1 h⟩
  | cons c chars ih =>
    rw [List.flatMap_cons] at h
    obtain ⟨piece, rest, rfl, hpiece, hrest⟩ := List.map_eq_append_iff.1 h
    obtain ⟨c', rfl⟩ := eq_encodeChar_of_map_lowerByte hpiece
    obtain ⟨text, rfl⟩ := ih hrest
    exact ⟨String.ofList (c' :: text.toList), by rw [encode, encode, String.toList_ofList]; rfl⟩

/-- **Lowering the bytes lowers the text.** -/
theorem decode?_map_lowerByte (data : Bytes) :
    decode? (data.map lowerByte) = (decode? data).map Tls.lowerCase := by
  ext lowered
  rw [decode?_eq_some, Option.map_eq_some_iff]
  constructor
  · intro h
    obtain ⟨text, rfl⟩ := eq_flatMap_of_map_lowerByte h
    rw [map_lowerByte_encode] at h
    refine ⟨text, decode?_eq_some.2 rfl, Option.some_inj.1 ?_⟩
    exact (decode?_eq_some.2 rfl).symm.trans (decode?_eq_some.2 h)
  · rintro ⟨text, htext, rfl⟩
    rw [decode?_eq_some.1 htext, map_lowerByte_encode]

end Utf8

namespace Tls

/-! ## Messages -/

def ServerName.lower (name : ServerName) : ServerName :=
  { name with name := name.name.map Utf8.lowerByte }

def Extension.lower : Extension → Extension
  | .serverNames names tail => .serverNames (names.map ServerName.lower) tail
  | .protocols names tail => .protocols names tail
  | .other extensionType content => .other extensionType content

namespace ClientHello

/-- The message with all its server names in lower case. -/
def lower (hello : ClientHello) : ClientHello :=
  { hello with extensions := hello.extensions.map (·.map Extension.lower) }

theorem getD_extensions_lower (hello : ClientHello) :
    hello.lower.extensions.getD [] = (hello.extensions.getD []).map Extension.lower := by
  unfold lower
  cases hello.extensions <;> rfl

theorem serverNames_lower (hello : ClientHello) :
    hello.lower.serverNames = hello.serverNames.map ServerName.lower := by
  rw [serverNames, serverNames, getD_extensions_lower, List.flatMap_map, List.map_flatMap]
  congr 1
  funext extension
  cases extension <;> rfl

theorem protocolLists_lower (hello : ClientHello) :
    hello.lower.protocolLists = hello.protocolLists := by
  rw [protocolLists, protocolLists, getD_extensions_lower, List.filterMap_map]
  congr 1
  funext extension
  cases extension <;> rfl

theorem hostName?_lower (name : ServerName) :
    hostName? name.lower = (hostName? name).map lowerCase := by
  unfold hostName? ServerName.lower
  by_cases h : name.nameType = hostNameType
  · rw [if_pos h, if_pos h]
    exact Utf8.decode?_map_lowerByte name.name
  · rw [if_neg h, if_neg h]
    rfl

theorem hostNames_lower (hello : ClientHello) :
    hello.lower.hostNames = hello.hostNames.map lowerCase := by
  rw [hostNames_eq, hostNames_eq, serverNames_lower, List.filterMap_map, List.map_filterMap]
  congr 1
  funext name
  exact hostName?_lower name

/-- **The case of the server names makes no difference to the offer.** -/
theorem offer_lower (hello : ClientHello) : hello.lower.offer = hello.offer := by
  have htexts : lowerCase ∘ lowerCase = lowerCase := funext lowerCase_lowerCase
  rw [offer, offer, hostNames_lower, applicationProtocols_eq, applicationProtocols_eq,
    protocolLists_lower, List.head?_map, Option.map_map, htexts]

end ClientHello

end Tls

end Switchboard
