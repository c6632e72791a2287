import Mathlib.Data.List.Basic
import Switchboard.Detector.Basic

/-!
# Verdicts that more bytes cannot change

A detector is *final* if it takes back no verdict but to wait: what it says of a stream it says of
every longer one. The detectors that look at fixed places, or behind a length that the stream
announces, are final once these places are there.

**Opening bytes.** Five of these kinds accept only streams that begin with bytes of their own, so no
stream is accepted by two of them.

Main results: `final_of_mem_distinct` and `kind_eq_of_accept`.
-/

namespace Switchboard

/-! ## Signatures -/

namespace Signature

open Verdict

variable {data : Bytes}

/-- A word is looked for at the beginning, so only as many bytes as it has matter. -/
theorem isPrefixOf_append {word : Bytes} (h : word.length ≤ data.length) (more : Bytes) :
    word.isPrefixOf (data ++ more) = word.isPrefixOf data := by
  rw [Bool.eq_iff_iff, List.isPrefixOf_iff_prefix, List.isPrefixOf_iff_prefix]
  constructor
  · exact fun hp => List.prefix_of_prefix_length_le hp (List.prefix_append data more) h
  · exact fun hp => hp.trans (List.prefix_append data more)

theorem opensWith_append {word : Bytes} (h : opensWith word data ≠ wait) (more : Bytes) :
    opensWith word (data ++ more) = opensWith word data := by
  unfold opensWith at h ⊢
  have hlen : word.length ≤ data.length := by
    by_contra hlt
    exact h (if_pos (Nat.not_le.1 hlt))
  have hlen' : word.length ≤ (data ++ more).length := by
    rw [List.length_append]
    omega
  rw [if_neg (Nat.not_lt.2 hlen), if_neg (Nat.not_lt.2 hlen'), isPrefixOf_append hlen]

theorem opensWith_accept {word : Bytes} (h : opensWith word data = accept) : word <+: data := by
  unfold opensWith at h
  split_ifs at h with hlen
  exact List.isPrefixOf_iff_prefix.1 (ofBool_eq_accept.1 h)

theorem adbConnects_append (h : 29 ≤ data.length) (more : Bytes) :
    adbConnects (data ++ more) = adbConnects data := by
  have hhead : (data ++ more).take 4 = data.take 4 :=
    List.take_append_of_le_length (by omega)
  have htag : ((data ++ more).drop 24).take 5 = (data.drop 24).take 5 := by
    rw [List.drop_append_of_le_length (by omega),
      List.take_append_of_le_length (by rw [List.length_drop]; omega)]
  rw [adbConnects, hhead, htag, adbConnects]

theorem adb_append (h : adb data ≠ wait) (more : Bytes) : adb (data ++ more) = adb data := by
  have hempty : adbEmptyMessage.length = 24 := rfl
  unfold adb adbPacket at h ⊢
  rw [hempty] at h ⊢
  have hlen : 30 ≤ data.length := by
    by_contra hlt
    exact h (if_pos (Nat.not_le.1 hlt))
  rw [if_neg (Nat.not_lt.2 hlen)] at h ⊢
  rw [if_neg (by rw [List.length_append]; omega), adbConnects_append (by omega)]
  by_cases hconnects : adbConnects data = true
  · rw [if_pos hconnects, if_pos hconnects]
  · rw [if_neg hconnects] at h ⊢
    have hlong : 54 ≤ data.length := by
      by_contra hlt
      exact h (if_pos (by omega))
    -- Both packets are there: the empty message, and the connection message behind it.
    have htake : (data ++ more).take 24 = data.take 24 :=
      List.take_append_of_le_length (by omega)
    have hdrop : adbConnects ((data ++ more).drop 24) = adbConnects (data.drop 24) := by
      rw [List.drop_append_of_le_length (by omega),
        adbConnects_append (by rw [List.length_drop]; omega)]
    have hlong' : 54 ≤ (data ++ more).length := by
      rw [List.length_append]
      omega
    rw [if_neg hconnects, htake, hdrop, if_neg (Nat.not_lt.2 hlong), if_neg (Nat.not_lt.2 hlong')]

theorem socks5_append (h : socks5 data ≠ wait) (more : Bytes) :
    socks5 (data ++ more) = socks5 data := by
  match data with
  | [] | [_] => exact (h rfl).elim
  | version :: count :: rest =>
    simp only [List.cons_append, socks5] at h ⊢
    split_ifs with hversion hcount hlong hshort hshort
    · rfl
    · rfl
    · rfl
    · rw [List.length_append] at hlong
      omega
    · exact (h (by rw [if_neg hversion, if_neg hcount, if_pos hshort])).elim
    · rw [List.take_append_of_le_length (Nat.not_lt.1 hshort)]

theorem head_of_begins {b : UInt8} {word : Bytes} (h : b :: word <+: data) :
    data.head? = some b := by
  obtain ⟨rest, rfl⟩ := h
  rfl

theorem head_of_adb (h : adb data = accept) : data.head? = some 0x43 ∨ data.head? = some 0 := by
  have hconnects : ∀ {stream : Bytes}, adbConnects stream = true → stream.head? = some 0x43 := by
    intro stream hs
    rw [adbConnects, Bool.and_eq_true, beq_iff_eq] at hs
    exact head_of_begins (hs.1 ▸ List.take_prefix 4 stream)
  unfold adb at h
  split_ifs at h with hlen hfirst hlong hempty
  · exact .inl (hconnects hfirst)
  · have htake : data.take adbEmptyMessage.length = adbEmptyMessage := not_not.1 hempty
    exact .inr (head_of_begins (htake ▸ List.take_prefix adbEmptyMessage.length data))

theorem head_of_socks5 (h : socks5 data = accept) : data.head? = some 5 := by
  match data with
  | [] | [_] => cases h
  | version :: count :: rest =>
    simp only [socks5] at h
    split_ifs at h with hversion
    rw [not_not.1 hversion]
    rfl

end Signature

/-! ## TLS -/

/-- An inspection that has seen enough is not changed by more bytes. -/
theorem Tls.Criteria.inspect_append {criteria : Criteria} {data : Bytes}
    (h : (criteria.inspect data).verdict ≠ .wait) (more : Bytes) :
    criteria.inspect (data ++ more) = criteria.inspect data := by
  match data with
  | [] | [_] | [_, _] | [_, _, _] | [_, _, _, _] => exact (h rfl).elim
  | contentType :: major :: minor :: high :: low :: rest =>
    simp only [List.cons_append, inspect] at h ⊢
    split_ifs with htype hmajor hlength hempty hlong hshort hshort
    · rfl
    · rfl
    · rfl
    · rfl
    · rfl
    · rw [List.length_append] at hlong
      omega
    · refine (h ?_).elim
      rw [if_neg htype, if_neg hmajor, if_neg hlength, if_neg hempty, if_pos hshort]
      rfl
    · rw [List.take_append_of_le_length (Nat.not_lt.1 hshort)]

/-- What is taken for TLS begins as a handshake record does. -/
theorem Tls.Criteria.head_of_inspect {criteria : Criteria} {data : Bytes}
    (h : (criteria.inspect data).verdict = .accept) : data.head? = some handshakeType := by
  match data with
  | [] | [_] | [_, _] | [_, _, _] | [_, _, _, _] => cases h
  | contentType :: major :: minor :: high :: low :: rest =>
    simp only [inspect] at h
    by_cases htype : contentType = handshakeType
    · rw [htype]
      rfl
    · rw [if_pos htype] at h
      cases h

/-! ## Detectors -/

/-- A verdict of the detector, other than to wait, is its verdict on every longer stream. -/
def Detector.Final (detector : Detector) : Prop :=
  ∀ data more, detector.verdict data ≠ .wait →
    detector.verdict (data ++ more) = detector.verdict data

namespace Kind

/-- The kinds that are final and accept no stream in common. -/
def distinct : List Kind := [ssh, tinc, tls, adb, socks5]

/-- The bytes that the accepted streams of these kinds begin with. -/
def openings : List (UInt8 × Kind) :=
  [(0x53, ssh), (0x30, tinc), (Tls.handshakeType, tls), (0x43, adb), (0, adb), (5, socks5)]

end Kind

namespace Detector

variable {detector other : Detector} {data : Bytes}

/-- **The distinct kinds are final.** -/
theorem final_of_mem_distinct (h : detector.kind ∈ Kind.distinct) : detector.Final := by
  intro data more hwait
  cases detector with
  | ssh => exact Signature.opensWith_append hwait more
  | tinc => exact Signature.opensWith_append hwait more
  | tls criteria => exact congrArg Tls.Inspection.verdict (Tls.Criteria.inspect_append hwait more)
  | adb => exact Signature.adb_append hwait more
  | socks5 => exact Signature.socks5_append hwait more
  | openVpn | xmpp | http | pattern _ | always => simp [kind, Kind.distinct] at h

/-- An accepted stream of a distinct kind shows the kind by its first byte. -/
theorem opening_of_accept (hkind : detector.kind ∈ Kind.distinct)
    (h : detector.verdict data = .accept) :
    (data.head?.bind fun b => Kind.openings.lookup b) = some detector.kind := by
  cases detector with
  | ssh => rw [Signature.head_of_begins (Signature.opensWith_accept h)]; rfl
  | tinc => rw [Signature.head_of_begins (Signature.opensWith_accept h)]; rfl
  | tls criteria => rw [Tls.Criteria.head_of_inspect h]; rfl
  | adb => rcases Signature.head_of_adb h with hhead | hhead <;> rw [hhead] <;> rfl
  | socks5 => rw [Signature.head_of_socks5 h]; rfl
  | openVpn | xmpp | http | pattern _ | always => simp [kind, Kind.distinct] at hkind

/-- **The distinct kinds accept no stream in common.** -/
theorem kind_eq_of_accept (hkind : detector.kind ∈ Kind.distinct)
    (hother : other.kind ∈ Kind.distinct) (h : detector.verdict data = .accept)
    (h' : other.verdict data = .accept) : detector.kind = other.kind :=
  Option.some.inj ((opening_of_accept hkind h).symm.trans (opening_of_accept hother h'))

end Detector

end Switchboard
