import Switchboard.Proofs.Bounds
import Switchboard.Proofs.Growth

/-!
# Detectors that look anywhere

HTTP and XMPP are known by a token anywhere in the stream; HTTP also by a request method at its
beginning. What the two detectors say is said here without the search and without the order in which
the methods are tried.

**Methods.** The first method tried is one of the longest. A stream shorter than it waits at once,
whatever it begins with, and a longer one leaves no method open, so nothing depends on the order of
the others (`firstMethod_of_short`, `firstMethod_eq_accept_iff`).

**Verdicts** (`Scans`). The token and the opening words decide what is accepted, and the length what
is waited for. Since the token may come at any time, a stream that is waited for can always go on to
be accepted.

Main result: `scanning_exact`.
-/

namespace Switchboard.Signature

open Verdict

variable {data token : Bytes} {methods words : List Bytes} {least : Nat}

/-! ## Methods -/

theorem opensWith_eq_accept_iff {word : Bytes} : opensWith word data = accept ↔ word <+: data := by
  refine ⟨opensWith_accept, fun h => ?_⟩
  rw [opensWith, if_neg (Nat.not_lt.2 h.length_le), ofBool_eq_accept]
  exact List.isPrefixOf_iff_prefix.2 h

/-- No method is looked at before the stream is as long as the first one. -/
theorem firstMethod_of_short {method : Bytes} (h : data.length < method.length)
    (others : List Bytes) : firstMethod data (method :: others) = wait := by
  have hwaits : opensWith method data = wait := if_pos h
  rw [firstMethod, hwaits]

/-- A stream that is as long as every method is accepted for any one that it opens with. -/
theorem firstMethod_eq_accept_iff (h : ∀ method ∈ methods, method.length ≤ data.length) :
    firstMethod data methods = accept ↔ ∃ method ∈ methods, method <+: data := by
  induction methods with
  | nil => simp [firstMethod]
  | cons method others ih =>
    have hdecides : opensWith method data ≠ wait := opensWith_ne_wait (h method List.mem_cons_self)
    have hothers := ih fun other hmem => h other (List.mem_cons_of_mem _ hmem)
    rw [List.exists_mem_cons_iff, ← hothers, ← opensWith_eq_accept_iff, firstMethod]
    cases hmethod : opensWith method data with
    | accept => simp
    | reject => simp
    | wait => exact absurd hmethod hdecides

/-! ## Verdicts -/

/-- A detector that accepts a stream for a token anywhere in it, or, once the stream has so many
bytes, for one of some words at its beginning. -/
structure Scans (verdict : Bytes → Verdict) (token : Bytes) (least : Nat) (words : List Bytes) :
    Prop where
  accepts : ∀ data, verdict data = accept ↔
    token <:+: data ∨ least ≤ data.length ∧ ∃ word ∈ words, word <+: data
  waits : ∀ data, verdict data = wait ↔ data.length < least ∧ ¬ token <:+: data
  rejects : ∀ data, verdict data = reject ↔
    least ≤ data.length ∧ ¬ token <:+: data ∧ ∀ word ∈ words, ¬ word <+: data
  /-- What is waited for can still come. -/
  extends_waiting : ∀ data, verdict data = wait → ∃ more, verdict (data ++ more) = accept

/-- What is neither accepted nor waited for is rejected, and the token can follow any stream. -/
theorem Scans.of_accepts_waits {verdict : Bytes → Verdict}
    (accepts : ∀ data, verdict data = accept ↔
      token <:+: data ∨ least ≤ data.length ∧ ∃ word ∈ words, word <+: data)
    (waits : ∀ data, verdict data = wait ↔ data.length < least ∧ ¬ token <:+: data) :
    Scans verdict token least words where
  accepts := accepts
  waits := waits
  rejects := by
    intro data
    -- With three verdicts, rejecting is neither accepting nor waiting.
    have hothers : verdict data = reject ↔ verdict data ≠ accept ∧ verdict data ≠ wait := by
      cases verdict data <;> simp
    rw [hothers, Ne, Ne, accepts, waits, not_or]
    constructor
    · rintro ⟨⟨htoken, hwords⟩, hlong⟩
      have hlength : least ≤ data.length := Nat.not_lt.1 fun hshort => hlong ⟨hshort, htoken⟩
      exact ⟨hlength, htoken, fun word hmem hopens => hwords ⟨hlength, word, hmem, hopens⟩⟩
    · rintro ⟨hlength, htoken, hwords⟩
      refine ⟨⟨htoken, ?_⟩, fun hwait => absurd hwait.1 (Nat.not_lt.2 hlength)⟩
      rintro ⟨-, word, hmem, hopens⟩
      exact hwords word hmem hopens
  extends_waiting := by
    intro data _
    exact ⟨token, (accepts _).2 (.inl (List.suffix_append data token).isInfix)⟩

theorem scans_xmpp : Scans xmpp jabber xmppPreamble [] := by
  refine .of_accepts_waits (fun data => ?_) fun data => ?_
  · rw [xmpp, ← Bytes.includes_iff]
    split_ifs with hnamed <;> simp [hnamed]
  · rw [xmpp, ← Bytes.includes_iff]
    by_cases hnamed : data.includes jabber = true <;> simp [hnamed]

theorem firstMethod_http_of_short (h : data.length < longestMethod) :
    firstMethod data httpMethods = wait :=
  firstMethod_of_short h _

theorem firstMethod_http_eq_accept_iff (h : longestMethod ≤ data.length) :
    firstMethod data httpMethods = accept ↔ ∃ method ∈ httpMethods, method <+: data :=
  firstMethod_eq_accept_iff fun method hmem => Nat.le_trans (length_le_longestMethod method hmem) h

theorem scans_http : Scans http httpVersion longestMethod httpMethods := by
  refine .of_accepts_waits (fun data => ?_) fun data => ?_
  · by_cases hversion : data.includes httpVersion = true
    · rw [http, if_pos hversion]
      exact iff_of_true rfl (.inl (Bytes.includes_iff.1 hversion))
    · rw [http, if_neg hversion, ← Bytes.includes_iff, or_iff_right hversion]
      by_cases hlength : longestMethod ≤ data.length
      · rw [firstMethod_http_eq_accept_iff hlength, and_iff_right hlength]
      · rw [firstMethod_http_of_short (Nat.not_le.1 hlength)]
        exact iff_of_false nofun fun hopens => hlength hopens.1
  · by_cases hversion : data.includes httpVersion = true
    · rw [http, if_pos hversion]
      exact iff_of_false nofun fun hwait => hwait.2 (Bytes.includes_iff.1 hversion)
    · rw [http, if_neg hversion, ← Bytes.includes_iff, and_iff_left hversion]
      constructor
      · intro hwait
        by_contra hlength
        refine http_ne_wait (Nat.not_lt.1 hlength) ?_
        rwa [http, if_neg hversion]
      · exact firstMethod_http_of_short

/-- **What the detectors that look anywhere say of a stream.** HTTP is known by its version token,
or by a method once there are seven bytes, and XMPP by the name of its namespace. -/
theorem scanning_exact :
    Scans http (Bytes.ofWord "HTTP".toList) 7
      (["OPTIONS", "GET", "HEAD", "POST", "PUT", "DELETE", "TRACE", "CONNECT"].map fun word =>
        Bytes.ofWord word.toList) ∧
    Scans xmpp (Bytes.ofWord "jabber".toList) 50 [] :=
  ⟨scans_http, scans_xmpp⟩

/-- A whole method is waited for like any other five bytes. -/
example : let request := Bytes.ofWord ['G', 'E', 'T', ' ', '/']
    http request = wait ∧ http (request ++ [0x0d, 0x0a]) = accept := by
  decide

end Switchboard.Signature
