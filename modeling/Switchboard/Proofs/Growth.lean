import Mathlib.Data.List.Infix
import Switchboard.Proofs.Stability

/-!
# What a verdict says of longer streams

A detector judges the bytes seen so far, all of them each time. What it says of the beginning of a
stream carries over to more of it in one of three ways, according to where it looks.

**At places that the stream fixes** (`Kind.lasting`). Once these places are there the verdict is
final.

**Anywhere** (`Kind.scanning`). A token that has been found stays found, and a request method at the
beginning stays there. A stream that is long enough to be rejected is never waited for again, but
the token may still come and the rejection be taken back.

**At the length of it all** (OpenVPN). The stream has to end where its first packet ends, so one
more byte turns acceptance into rejection.

Main result: `verdict_append`.
-/

namespace Switchboard

/-! ## Tokens -/

theorem Bytes.includes_iff {data token : Bytes} :
    data.includes token = true ↔ token <:+: data := by
  induction data with
  | nil => rw [includes_nil, List.isEmpty_iff, List.infix_nil]
  | cons b rest ih =>
    rw [includes_cons, Bool.or_eq_true, ih, List.isPrefixOf_iff_prefix, List.infix_cons_iff]

theorem Bytes.includes_append {data token : Bytes} (h : data.includes token = true) (more : Bytes) :
    (data ++ more).includes token = true := by
  rw [includes_iff] at h ⊢
  exact h.trans (List.prefix_append data more).isInfix

namespace Signature

open Verdict

variable {data : Bytes}

theorem xmpp_append_accept (h : xmpp data = accept) (more : Bytes) :
    xmpp (data ++ more) = accept := by
  have hnamed : data.includes jabber = true := by
    unfold xmpp at h
    split_ifs at h with hnamed
    exact hnamed
  rw [xmpp, if_pos (Bytes.includes_append hnamed more)]

theorem xmpp_append_ne_wait (h : xmpp data = reject) (more : Bytes) :
    xmpp (data ++ more) ≠ wait := by
  have hlong : ¬ data.length < xmppPreamble := by
    unfold xmpp at h
    split_ifs at h with _ hlong
    exact hlong
  have hlonger : ¬ (data ++ more).length < xmppPreamble := by
    rw [List.length_append]
    omega
  unfold xmpp
  rw [if_neg hlonger]
  split_ifs <;> nofun

/-- The method that decides goes on to decide, since those before it are rejected for good. -/
theorem firstMethod_append {methods : List Bytes} (h : firstMethod data methods ≠ wait)
    (more : Bytes) : firstMethod (data ++ more) methods = firstMethod data methods := by
  induction methods with
  | nil => rfl
  | cons method others ih =>
    rw [firstMethod] at h
    rw [firstMethod, firstMethod]
    cases hmethod : opensWith method data with
    | accept => rw [opensWith_append (by simp [hmethod]), hmethod]
    | reject =>
      simp only [hmethod] at h
      rw [opensWith_append (by simp [hmethod]), hmethod]
      exact ih h
    | wait =>
      simp only [hmethod] at h
      exact (h rfl).elim

theorem http_append_accept (h : http data = accept) (more : Bytes) :
    http (data ++ more) = accept := by
  unfold http at h ⊢
  by_cases hversion : data.includes httpVersion = true
  · rw [if_pos (Bytes.includes_append hversion more)]
  · rw [if_neg hversion] at h
    rw [firstMethod_append (by simp [h]), h, ite_self]

theorem http_append_ne_wait (h : http data = reject) (more : Bytes) :
    http (data ++ more) ≠ wait := by
  unfold http at h ⊢
  by_cases hversion : data.includes httpVersion = true
  · rw [if_pos hversion] at h
    cases h
  · rw [if_neg hversion] at h
    rw [firstMethod_append (by simp [h]), h]
    split_ifs <;> nofun

/-- A packet that is as long as it announces is too long with any more bytes. -/
theorem openVpn_append (h : openVpn data = accept) {more : Bytes} (hmore : more ≠ []) :
    openVpn (data ++ more) = reject := by
  match data with
  | [] | [_] => cases h
  | high :: low :: packet =>
    have hlength : Bytes.bigEndian [high, low] = packet.length :=
      of_decide_eq_true (ofBool_eq_accept.1 h)
    have hlonger : Bytes.bigEndian [high, low] ≠ (packet ++ more).length := by
      have hpos := List.length_pos_iff.2 hmore
      rw [hlength, List.length_append]
      omega
    exact ofBool_eq_reject.2 (decide_eq_false hlonger)

end Signature

/-! ## Detectors -/

/-- The kinds that look for a token anywhere in the stream. -/
def Kind.scanning : List Kind := [http, xmpp]

namespace Detector

/-- **What a verdict on some bytes says of the verdict on more.** Detectors that look at places
which the stream fixes are final. Those that look anywhere keep what they accept, and do not go back
to waiting after a rejection. An OpenVPN packet is spoilt by more bytes. -/
theorem verdict_append (detector : Detector) (data more : Bytes) :
    (detector.kind ∈ Kind.lasting → detector.verdict data ≠ .wait →
      detector.verdict (data ++ more) = detector.verdict data) ∧
    (detector.kind ∈ Kind.scanning →
      (detector.verdict data = .accept → detector.verdict (data ++ more) = .accept) ∧
      (detector.verdict data = .reject → detector.verdict (data ++ more) ≠ .wait)) ∧
    (detector.kind = .openVpn → detector.verdict data = .accept → more ≠ [] →
      detector.verdict (data ++ more) = .reject) := by
  refine ⟨fun hkind => final_of_mem_lasting hkind data more, fun hkind => ?_, fun hkind => ?_⟩
  -- The two detectors that look for a word anywhere.
  · cases detector with
    | http =>
      exact ⟨fun h => Signature.http_append_accept h more,
        fun h => Signature.http_append_ne_wait h more⟩
    | xmpp =>
      exact ⟨fun h => Signature.xmpp_append_accept h more,
        fun h => Signature.xmpp_append_ne_wait h more⟩
    | ssh | openVpn | tinc | tls _ | adb | socks5 | pattern _ | always =>
      simp [kind, Kind.scanning] at hkind
  · cases detector with
    | openVpn => exact fun h hmore => Signature.openVpn_append h hmore
    | ssh | tinc | xmpp | http | tls _ | adb | socks5 | pattern _ | always => cases hkind

/-- A rejection by a detector that looks anywhere may be taken back. -/
example : let banner : Bytes := Bytes.ofWord ['S', 'S', 'H', '-', '2', '.', '0', '-']
    http.verdict banner = .reject ∧ http.verdict (banner ++ Signature.httpVersion) = .accept := by
  decide

end Detector

end Switchboard
