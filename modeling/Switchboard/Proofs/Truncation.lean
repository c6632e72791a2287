import Switchboard.Proofs.RecordCuts

/-!
# Messages that go on in later records

A ClientHello may be longer than the record it begins in. What is at hand then counts as its body,
so a message that is cut short may still be read.

**Nothing half.** Where the cut leaves the extensions whole, the message reads as it does without
the cut (`IsMessage.append`); bytes behind them mean nothing. Where it leaves no extensions at all,
the message offers nothing. Any other cut goes through some part that announces a length, and the
message is refused.

**Records.** Criteria that are satisfied by the beginning of a message have found something to be
satisfied by, so they are satisfied by the message.

Main result: `offer?_cut`.
-/

namespace Switchboard.Tls

/-! ## Longer messages -/

/-- Behind the extensions there may be more. -/
theorem IsBody.append {hello : ClientHello} {data : Bytes} (h : IsBody hello data)
    (hextensions : hello.extensions ≠ none) (more : Bytes) : IsBody hello (data ++ more) := by
  obtain ⟨session, suites, methods, rest, rfl, hpreamble, hsession, hsuites, hmethods, hrest⟩ := h
  refine ⟨session, suites, methods, rest ++ more, ?_, hpreamble, hsession, hsuites, hmethods, ?_⟩
  · simp only [List.append_assoc]
  · generalize hello.extensions = extensions at hextensions hrest
    cases hrest with
    | absent => exact (hextensions rfl).elim
    | present hblock hsequence =>
      rw [List.append_assoc]
      exact .present hblock hsequence

theorem take_min_prefix (announced : Nat) (rest more : Bytes) :
    rest.take (min announced rest.length) <+:
      (rest ++ more).take (min announced (rest ++ more).length) := by
  have hle : min announced rest.length ≤ min announced (rest ++ more).length := by
    rw [List.length_append]
    omega
  have htake : (rest ++ more).take (min announced rest.length) =
      rest.take (min announced rest.length) :=
    List.take_append_of_le_length (Nat.min_le_right announced rest.length)
  rw [← htake]
  exact List.take_prefix_take_left hle

/-- **A message whose extensions are whole reads the same whatever follows.** -/
theorem IsMessage.append {hello : ClientHello} {data : Bytes} (h : IsMessage hello data)
    (hextensions : hello.extensions ≠ none) (more : Bytes) : IsMessage hello (data ++ more) := by
  obtain ⟨announced, length, rest, rfl, hlength, hbody⟩ := h
  obtain ⟨behind, hbehind⟩ := take_min_prefix announced rest more
  refine ⟨announced, length, rest ++ more, ?_, hlength, ?_⟩
  · rw [List.cons_append, List.append_assoc]
  · rw [← hbehind]
    exact hbody.append hextensions behind

/-! ## Offers -/

/-- There is nothing to be routed by. -/
def Offer.nothing : Offer := ⟨none, []⟩

theorem ClientHello.offer_of_no_extensions {hello : ClientHello} (h : hello.extensions = none) :
    hello.offer = .nothing := by
  rw [offer, hostNames, applicationProtocols, h]
  rfl

/-- What a message offers, if it is anything, it offers however it goes on. -/
theorem offer?_append {data : Bytes} {offer : Offer} (h : offer? data = some offer)
    (hoffer : offer ≠ .nothing) (more : Bytes) : offer? (data ++ more) = some offer := by
  obtain ⟨hello, hparse, rfl⟩ := Option.map_eq_some_iff.1 h
  have hextensions : hello.extensions ≠ none := fun hnone =>
    hoffer (hello.offer_of_no_extensions hnone)
  have hmessage := (ClientHello.parse?_eq_some.1 hparse).append hextensions more
  exact Option.map_eq_some_iff.2 ⟨hello, ClientHello.parse?_eq_some.2 hmessage, rfl⟩

/-- The beginning of a message is refused, or offers nothing, or offers what the message does. -/
theorem offer?_of_prefix {data part : Bytes} (h : part <+: data) :
    offer? part = none ∨ offer? part = some .nothing ∨ offer? part = offer? data := by
  obtain ⟨more, rfl⟩ := h
  cases hpart : offer? part with
  | none => exact .inl rfl
  | some offer =>
    by_cases hoffer : offer = .nothing
    · exact .inr (.inl (congrArg some hoffer))
    · exact .inr (.inr (offer?_append hpart hoffer more).symm)

/-! ## Records -/

namespace Criteria

variable {criteria : Criteria} {content : Bytes} {major minor : UInt8}

theorem accepts_nothing (h : ¬ criteria.isEmpty = true) : ¬ criteria.accepts .nothing = true := by
  intro haccepts
  rw [accepts, Bool.and_eq_true] at haccepts
  refine h (Bool.and_eq_true_iff.2 ⟨?_, ?_⟩)
  · simpa [acceptsHost, Offer.nothing] using haccepts.1
  · simpa [acceptsProtocol, Offer.nothing] using haccepts.2

theorem Satisfied.append (h : criteria.Satisfied content) (hasked : ¬ criteria.isEmpty = true)
    (more : Bytes) : criteria.Satisfied (content ++ more) := by
  obtain ⟨offer, hoffer, haccepts⟩ := h
  have hsome : offer ≠ .nothing := by
    rintro rfl
    exact accepts_nothing hasked haccepts
  exact ⟨offer, offer?_append hoffer hsome more, haccepts⟩

theorem major_of_accept {tail : Bytes}
    (h : (criteria.inspect (handshakeRecord major minor content ++ tail)).verdict = .accept) :
    3 ≤ major := by
  by_contra hmajor
  have hold : criteria.inspect (handshakeRecord major minor content ++ tail) =
      .oldVersion major minor := by
    show criteria.inspect (handshakeType :: major :: minor :: _ :: _ :: _) = _
    simp only [inspect]
    rw [if_neg (not_not.2 rfl), if_pos (UInt8.not_le.1 hmajor)]
  rw [hold] at h
  cases h

/-- A record with the beginning of a message is accepted only if one with all of it is. -/
theorem accept_of_prefix {part : Bytes} (hasked : ¬ criteria.isEmpty = true)
    (hpart : part <+: content)
    (hpos : part ≠ []) (hmax : content.length ≤ maxRecord) {tail : Bytes}
    (h : (criteria.inspect (handshakeRecord major minor part ++ tail)).verdict = .accept)
    (tail' : Bytes) :
    (criteria.inspect (handshakeRecord major minor content ++ tail')).verdict = .accept := by
  have hmajor : 3 ≤ major := major_of_accept h
  have hpos' : content ≠ [] := fun hnil => hpos (List.prefix_nil.1 (hnil ▸ hpart))
  rw [inspect_handshakeRecord criteria hasked hmajor hpos (Nat.le_trans hpart.length_le hmax),
    verdict_inspectRecord] at h
  rw [inspect_handshakeRecord criteria hasked hmajor hpos' hmax, verdict_inspectRecord]
  obtain ⟨more, rfl⟩ := hpart
  exact h.append hasked more

end Criteria

/-- **A cut message shows nothing half.** If some bytes offer a server name or a protocol, they and
whatever follows them offer just that. So a beginning of a message is refused, offers nothing, or
offers what the message does, and if a record with the beginning satisfies criteria, one with the
whole message does. -/
theorem offer?_cut (data : Bytes) :
    (∀ offer, offer? data = some offer → offer.serverName ≠ none ∨ offer.protocols ≠ [] →
      ∀ more, offer? (data ++ more) = some offer) ∧
    (∀ part, part <+: data →
      offer? part = none ∨ offer? part = some ⟨none, []⟩ ∨ offer? part = offer? data) ∧
    ∀ (criteria : Criteria) (part : Bytes) (major minor : UInt8) (tail tail' : Bytes),
      ¬ criteria.isEmpty = true → part <+: data → part ≠ [] → data.length ≤ 18432 →
      (criteria.inspect (handshakeRecord major minor part ++ tail)).verdict = .accept →
      (criteria.inspect (handshakeRecord major minor data ++ tail')).verdict = .accept := by
  refine ⟨fun offer h hsome => offer?_append h ?_, fun part => offer?_of_prefix, ?_⟩
  · rintro rfl
    exact hsome.elim (fun hname => hname rfl) fun hprotocols => hprotocols rfl
  · intro criteria part major minor tail tail' hasked hpart hpos hmax haccept
    exact Criteria.accept_of_prefix hasked hpart hpos hmax haccept tail'

/-- The message of `mailHello` with four more bytes behind its extensions. -/
def paddedMail : Bytes :=
  1 :: encodeVector 3 (mailHello.body ++ [0, 0, 0, 0])

/-- A record that ends with the extensions is accepted for what they offer, and so is one with the
whole message. -/
theorem offer?_cut_paddedMail :
    let part := paddedMail.take (paddedMail.length - 4)
    let wanted := Criteria.ofTexts ["*.example.org"] ["h2"]
    (wanted.inspect (handshakeRecord 3 1 part ++ [22, 3, 1])).verdict = .accept ∧
      (wanted.inspect (handshakeRecord 3 1 paddedMail ++ [])).verdict = .accept := by
  intro part wanted
  have hpart : (wanted.inspect (handshakeRecord 3 1 part ++ [22, 3, 1])).verdict = .accept := by
    decide +kernel
  obtain ⟨-, -, hrecord⟩ := offer?_cut paddedMail
  refine ⟨hpart, hrecord wanted part 3 1 _ [] ?_ (List.take_prefix _ _) ?_ ?_ hpart⟩
  · simp [wanted, Criteria.isEmpty_ofTexts]
  · decide
  · decide

end Switchboard.Tls
