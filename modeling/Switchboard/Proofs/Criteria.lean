import Switchboard.Proofs.Encoding

/-!
# Routing by server name and application protocol

**The patterns** (`StandsFor`). A pattern stands for a name if they are the same up to the case of
letters, or if it is `*.` and a domain that the name lies below. The library lowers both sides and
compares; a character that is lowered never becomes a `*` or a point, so nothing else is compared.

**The criteria** (`IsWanted`). A message is wanted if its first host name is one that a pattern
stands for and if one of its protocols is asked for. A list that is empty asks for nothing.

**The record.** Once the record of a ClientHello is complete, what follows it is not looked at, and
before that nothing is said. The names' letters may be in any case, on both sides.

Main result: `inspect_record`.
-/

namespace Switchboard.Tls

/-! ## Patterns -/

/-- A pattern stands for a name. -/
def StandsFor (pattern name : String) : Prop :=
  lowerCase name = lowerCase pattern ∨
    ∃ label domain, label ≠ "" ∧ pattern = "*." ++ domain ∧
      lowerCase name = lowerCase (label ++ "." ++ domain)

theorem toList_lowerCase (text : String) : (lowerCase text).toList = text.toList.map Char.toLower :=
  String.toList_ofList

theorem lowerCase_eq_iff {a b : String} :
    lowerCase a = lowerCase b ↔ a.toList.map Char.toLower = b.toList.map Char.toLower := by
  rw [← String.toList_inj, toList_lowerCase, toList_lowerCase]

namespace HostPattern

theorem toLower_eq_iff {c mark : Char} (hmark : mark.toNat < 65) : c.toLower = mark ↔ c = mark := by
  rw [← Char.toNat_inj, ← Char.toNat_inj, toNat_toLower]
  split_ifs <;> omega

theorem ofText_star (domain : String) :
    ofText ("*." ++ domain) = below ('.' :: domain.toList.map Char.toLower) := by
  unfold ofText
  rw [toList_lowerCase, String.toList_append]
  rfl

theorem ofText_of_not_star {text : String} (h : ∀ domain, text ≠ "*." ++ domain) :
    ofText text = exact (lowerCase text) := by
  unfold ofText
  rw [toList_lowerCase]
  split
  · rename_i lowered hlowered
    obtain ⟨star, more, htext, hstar, hmore⟩ := List.map_eq_cons_iff.1 hlowered
    obtain ⟨point, domain, rfl, hpoint, -⟩ := List.map_eq_cons_iff.1 hmore
    rw [toLower_eq_iff (by decide)] at hstar hpoint
    refine (h (String.ofList domain) ?_).elim
    rw [← String.toList_inj, htext, hstar, hpoint, String.toList_append]
    exact congrArg ('*' :: '.' :: ·) String.toList_ofList.symm
  · rfl

theorem admits_below {suffix : List Char} {name : String} :
    (below suffix).admits name = true ↔ ∃ label, label ≠ [] ∧ name.toList = label ++ suffix := by
  unfold admits
  rw [Bool.and_eq_true, decide_eq_true_iff, List.isSuffixOf_iff_suffix]
  constructor
  · rintro ⟨hlength, label, hname⟩
    refine ⟨label, ?_, hname.symm⟩
    rintro rfl
    rw [← hname] at hlength
    exact Nat.lt_irrefl _ hlength
  · rintro ⟨label, hlabel, hname⟩
    have hpos := List.length_pos_iff.2 hlabel
    refine ⟨?_, label, hname.symm⟩
    rw [hname, List.length_append]
    omega

/-- Below a domain are the names that end in it and have more before it. -/
theorem standsFor_star {domain name : String} : StandsFor ("*." ++ domain) name ↔
    ∃ label, label ≠ [] ∧
      name.toList.map Char.toLower = label ++ '.' :: domain.toList.map Char.toLower := by
  constructor
  · rintro (hsame | ⟨label, domain', hlabel, hdomain, hbelow⟩)
    -- The name spelled like the pattern itself: the star is then the label.
    · refine ⟨['*'], List.cons_ne_nil _ _, ?_⟩
      rw [lowerCase_eq_iff, String.toList_append] at hsame
      exact hsame
    · rw [← String.toList_inj, String.toList_append, String.toList_append] at hdomain
      rw [lowerCase_eq_iff, String.toList_append, String.toList_append,
        ← List.append_cancel_left hdomain, List.map_append, List.map_append, List.append_assoc]
        at hbelow
      refine ⟨label.toList.map Char.toLower, ?_, hbelow⟩
      intro hnil
      exact hlabel (String.toList_eq_nil_iff.1 (List.map_eq_nil_iff.1 hnil))
  · rintro ⟨label, hlabel, hname⟩
    obtain ⟨front, back, hsplit, rfl, hback⟩ := List.map_eq_append_iff.1 hname
    refine .inr ⟨String.ofList front, domain, ?_, rfl, ?_⟩
    · intro hempty
      have hfront : front = [] := by
        rw [← String.toList_ofList (l := front), hempty]
        rfl
      exact hlabel (List.map_eq_nil_iff.2 hfront)
    · rw [lowerCase_eq_iff, hname, String.toList_append, String.toList_append, String.toList_ofList,
        List.map_append, List.map_append, List.append_assoc]
      rfl

theorem ofText_lowerCase (text : String) : ofText (lowerCase text) = ofText text := by
  rw [ofText, lowerCase_lowerCase]
  rfl

/-- **A pattern admits the names it stands for.** -/
theorem admits_ofText {pattern name : String} :
    (ofText pattern).admits (lowerCase name) = true ↔ StandsFor pattern name := by
  by_cases hstar : ∃ domain, pattern = "*." ++ domain
  · obtain ⟨domain, rfl⟩ := hstar
    rw [ofText_star, admits_below, toList_lowerCase, standsFor_star]
  · have hnot : ∀ domain, pattern ≠ "*." ++ domain := not_exists.1 hstar
    rw [ofText_of_not_star hnot, admits, beq_iff_eq, eq_comm]
    refine ⟨.inl, ?_⟩
    rintro (hsame | ⟨_, domain, _, hpattern, _⟩)
    · exact hsame
    · exact (hnot domain hpattern).elim

end HostPattern

/-! ## Criteria -/

/-- A handshake record of some version. -/
def handshakeRecord (major minor : UInt8) (content : Bytes) : Bytes :=
  handshakeType :: major :: minor :: encodeVector 2 content

/-- A message has a name and a protocol that are asked for. -/
structure ClientHello.IsWanted (hello : ClientHello) (hosts protocols : List String) : Prop where
  host : hosts = [] ∨ ∃ name, IsFirstHost hello.serverNames name ∧
    ∃ pattern ∈ hosts, StandsFor pattern name
  protocol : protocols = [] ∨ ∃ wanted ∈ protocols,
    Utf8.encode wanted ∈ hello.protocolLists.flatten

namespace Criteria

variable {hosts protocols : List String} {hello : ClientHello} {major minor : UInt8}

theorem isEmpty_ofTexts :
    (ofTexts hosts protocols).isEmpty = true ↔ hosts = [] ∧ protocols = [] := by
  rw [isEmpty, ofTexts, Bool.and_eq_true, List.isEmpty_iff, List.isEmpty_iff, List.map_eq_nil_iff,
    List.map_eq_nil_iff]

theorem acceptsHost_iff : (ofTexts hosts protocols).acceptsHost hello.offer = true ↔
    hosts = [] ∨ ∃ name, IsFirstHost hello.serverNames name ∧
      ∃ pattern ∈ hosts, StandsFor pattern name := by
  rw [acceptsHost, Bool.or_eq_true, ofTexts, List.isEmpty_iff, List.map_eq_nil_iff]
  refine or_congr_right ?_
  simp only [← ClientHello.head?_hostNames_eq_some, ClientHello.offer]
  cases hello.hostNames.head? with
  | none => simp
  | some name => simp [HostPattern.admits_ofText]

theorem acceptsProtocol_iff : (ofTexts hosts protocols).acceptsProtocol hello.offer = true ↔
    protocols = [] ∨ ∃ wanted ∈ protocols, Utf8.encode wanted ∈ hello.protocolLists.flatten := by
  rw [acceptsProtocol, Bool.or_eq_true, ofTexts, List.isEmpty_iff, List.map_eq_nil_iff,
    ClientHello.offer, ClientHello.applicationProtocols_eq, List.any_eq_true]
  refine or_congr_right ?_
  constructor
  · rintro ⟨offered, hoffered, hcontains⟩
    obtain ⟨wanted, hwanted, rfl⟩ := List.mem_map.1 (List.contains_iff_mem.1 hcontains)
    exact ⟨wanted, hwanted, hoffered⟩
  · rintro ⟨wanted, hwanted, hoffered⟩
    exact ⟨_, hoffered, List.contains_iff_mem.2 (List.mem_map_of_mem hwanted)⟩

theorem accepts_iff :
    (ofTexts hosts protocols).accepts hello.offer = true ↔ hello.IsWanted hosts protocols := by
  rw [accepts, Bool.and_eq_true, acceptsHost_iff, acceptsProtocol_iff]
  exact ⟨fun h => ⟨h.1, h.2⟩, fun h => ⟨h.host, h.protocol⟩⟩

/-! ## The record -/

/-- What is shown by the header of a record and some bytes behind it. -/
theorem inspect_header (criteria : Criteria) {announced : Nat} (hasked : ¬ criteria.isEmpty = true)
    (hmajor : 3 ≤ major) (hpos : announced ≠ 0) (hmax : announced ≤ maxRecord) (rest : Bytes) :
    criteria.inspect (handshakeType :: major :: minor :: (encodeNumber 2 announced ++ rest)) =
      if rest.length < announced then .shortRecord
      else criteria.inspectRecord (rest.take announced) := by
  have hlength : Bytes.bigEndian (encodeNumber 2 announced) = announced :=
    bigEndian_encodeNumber (Nat.lt_of_le_of_lt hmax (by decide))
  have hdigits : encodeNumber 2 announced =
      [UInt8.ofNat (announced / 256), UInt8.ofNat announced] := rfl
  rw [hdigits] at hlength ⊢
  have hold : ¬ major < 3 := UInt8.not_lt.2 hmajor
  have hbad : ¬ (announced = 0 ∨ maxRecord < announced) := not_or.2 ⟨hpos, Nat.not_lt.2 hmax⟩
  simp only [List.cons_append, List.nil_append, inspect, hlength]
  rw [if_neg (not_not.2 rfl), if_neg hold, if_neg hbad, if_neg hasked]

/-- What is shown by a whole record, whatever follows it. -/
theorem inspect_handshakeRecord (criteria : Criteria) {content : Bytes}
    (hasked : ¬ criteria.isEmpty = true) (hmajor : 3 ≤ major) (hpos : content ≠ [])
    (hmax : content.length ≤ maxRecord) (tail : Bytes) :
    criteria.inspect (handshakeRecord major minor content ++ tail) =
      criteria.inspectRecord content := by
  have hsplit : handshakeRecord major minor content ++ tail = handshakeType :: major :: minor ::
      (encodeNumber 2 content.length ++ (content ++ tail)) := by
    rw [← List.append_assoc]
    rfl
  have hlong : ¬ (content ++ tail).length < content.length := by
    rw [List.length_append]
    omega
  rw [hsplit, inspect_header criteria hasked hmajor (mt List.length_eq_zero_iff.1 hpos) hmax,
    if_neg hlong, List.take_left]

theorem inspectRecord_encode (criteria : Criteria) (hfits : hello.Fits) :
    criteria.inspectRecord hello.encode =
      if criteria.accepts hello.offer then .accepted hello.offer else .rejected hello.offer := by
  rw [inspectRecord, offer?, ClientHello.parse?_encode hfits]
  rfl

/-- What is shown by a record that holds a whole ClientHello, whatever follows it. -/
theorem inspect_complete (criteria : Criteria) (hasked : ¬ criteria.isEmpty = true)
    (hmajor : 3 ≤ major) (hfits : hello.Fits) (tail : Bytes) :
    criteria.inspect (hello.record major minor ++ tail) =
      if criteria.accepts hello.offer then .accepted hello.offer else .rejected hello.offer := by
  have hrecord : hello.record major minor = handshakeRecord major minor hello.encode := rfl
  have hpos : hello.encode ≠ [] := List.cons_ne_nil _ _
  rw [hrecord, inspect_handshakeRecord criteria hasked hmajor hpos hfits.encode,
    inspectRecord_encode criteria hfits]

/-- A record that is not complete shows nothing. -/
theorem inspect_incomplete (criteria : Criteria) (hasked : ¬ criteria.isEmpty = true)
    (hmajor : 3 ≤ major) (hfits : hello.Fits) {n : Nat}
    (hn : n < (hello.record major minor).length) :
    (criteria.inspect ((hello.record major minor).take n)).verdict = .wait := by
  match n, hn with
  | 0, _ | 1, _ | 2, _ | 3, _ | 4, _ => rfl
  | n + 5, hn =>
    have hshort : n < hello.encode.length := by
      simp only [ClientHello.record, List.length_cons, length_encodeVector] at hn
      omega
    have htake : (hello.record major minor).take (n + 5) = handshakeType :: major :: minor ::
        (encodeNumber 2 hello.encode.length ++ hello.encode.take n) := rfl
    rw [htake, inspect_header criteria hasked hmajor (Nat.ne_zero_of_lt hshort) hfits.encode,
      List.length_take_of_le (Nat.le_of_lt hshort), if_pos hshort]
    rfl

theorem ofTexts_congr {hosts' : List String} (h : hosts'.map lowerCase = hosts.map lowerCase) :
    ofTexts hosts' protocols = ofTexts hosts protocols := by
  have hlower : HostPattern.ofText = HostPattern.ofText ∘ lowerCase := by
    funext text
    rw [Function.comp_apply, HostPattern.ofText_lowerCase]
  rw [ofTexts, ofTexts, hlower, ← List.map_map, ← List.map_map, h]

end Criteria

/-- How the record of a ClientHello is routed by the texts of the settings. -/
structure RoutesRecord (hosts protocols : List String) (hello : ClientHello) (major minor : UInt8) :
    Prop where
  accept : ∀ tail, ((Criteria.ofTexts hosts protocols).inspect
    (hello.record major minor ++ tail)).verdict = .accept ↔ hello.IsWanted hosts protocols
  reject : ∀ tail, ((Criteria.ofTexts hosts protocols).inspect
    (hello.record major minor ++ tail)).verdict = .reject ↔ ¬ hello.IsWanted hosts protocols
  /-- A record that is not complete may go on in any way. -/
  wait : ∀ n < (hello.record major minor).length, ((Criteria.ofTexts hosts protocols).inspect
    ((hello.record major minor).take n)).verdict = .wait
  /-- Nobody needs to mind the case of letters. -/
  anyCase : ∀ (hosts' : List String) (hello' : ClientHello),
    hosts'.map lowerCase = hosts.map lowerCase → hello'.lower = hello.lower → ∀ tail,
    (Criteria.ofTexts hosts' protocols).inspect (hello'.record major minor ++ tail) =
      (Criteria.ofTexts hosts protocols).inspect (hello.record major minor ++ tail)

/-- **A record is routed by the names and the protocols of its ClientHello.** -/
theorem inspect_record {hosts protocols : List String} {hello : ClientHello} {major minor : UInt8}
    (hasked : hosts ≠ [] ∨ protocols ≠ []) (hfits : hello.Fits) (hmajor : 3 ≤ major) :
    RoutesRecord hosts protocols hello major minor := by
  have hsome : ¬ (Criteria.ofTexts hosts protocols).isEmpty = true := by
    rw [Criteria.isEmpty_ofTexts]
    exact not_and_or.2 hasked
  constructor
  case accept =>
    intro tail
    rw [Criteria.inspect_complete _ hsome hmajor hfits tail, ← Criteria.accepts_iff]
    split_ifs with haccepts <;> simp [Inspection.verdict, haccepts]
  case reject =>
    intro tail
    rw [Criteria.inspect_complete _ hsome hmajor hfits tail, ← Criteria.accepts_iff]
    split_ifs with haccepts <;> simp [Inspection.verdict, haccepts]
  case wait =>
    intro n hn
    exact Criteria.inspect_incomplete _ hsome hmajor hfits hn
  case anyCase =>
    intro hosts' hello' hhosts hhello tail
    -- Fitting and the offer are both read off the lower-cased hello, which the two share.
    have hfits' : hello'.Fits := by
      rw [← ClientHello.fits_lower, hhello, ClientHello.fits_lower]
      exact hfits
    have hoffer : hello'.offer = hello.offer := by
      rw [← hello'.offer_lower, hhello, hello.offer_lower]
    rw [Criteria.ofTexts_congr hhosts, Criteria.inspect_complete _ hsome hmajor hfits' tail,
      Criteria.inspect_complete _ hsome hmajor hfits tail, hoffer]

/-- A client that asks for `Mail.Example.org` and offers `h2`. -/
def mailHello : ClientHello where
  preamble := List.replicate 34 3
  sessionId := []
  cipherSuites := [0x13, 0x01]
  compressionMethods := [0]
  extensions := some [.serverNames [⟨0, Utf8.encode "Mail.Example.org"⟩] [],
    .protocols [Utf8.encode "h2"] []]

/-- The record of this client is accepted for a name below `example.ORG`. -/
theorem accepts_mailHello :
    ((Criteria.ofTexts ["*.example.ORG"] ["h2"]).inspect
      (mailHello.record 3 1 ++ [0x14, 0x03])).verdict = .accept := by
  have hroutes : RoutesRecord ["*.example.ORG"] ["h2"] mailHello 3 1 :=
    inspect_record (.inl (List.cons_ne_nil _ _)) (by decide) (by decide)
  have hfirst : IsFirstHost mailHello.serverNames "Mail.Example.org" :=
    ⟨[], _, [], rfl, ⟨rfl, rfl⟩, nofun⟩
  have hstands : StandsFor "*.example.ORG" "Mail.Example.org" :=
    .inr ⟨"Mail", "example.ORG", by decide, by decide, by decide⟩
  refine (hroutes.accept [0x14, 0x03]).2 ⟨.inr ?_, .inr ?_⟩
  · exact ⟨_, hfirst, _, List.mem_singleton_self _, hstands⟩
  · exact ⟨_, List.mem_singleton_self _, List.mem_singleton_self _⟩

end Switchboard.Tls
