import Switchboard.Proofs.Reading
import Switchboard.Proofs.Utf8
import Switchboard.Tls.ClientHello

/-!
# The grammar of a ClientHello

**The grammar** (`IsMessage` and the relations it is made of). Which bytes spell a server name, an
extension, a whole message. Some parts must use up their bytes, others may be followed by bytes that
mean nothing; the grammar says which. Each reader of the message gets its own line of the grammar.

**Offers.** The message that is read carries all its server names. The host name offered is the
first of them that is text, whatever stands before it.

Main results: `parse?_eq_some` and `offer?_exact`.
-/

namespace Switchboard.Tls

/-! ## The grammar -/

/-- A type in one byte, and behind a length in two bytes the name. -/
def IsServerName (name : ServerName) (data : Bytes) : Prop :=
  ∃ typeByte vector, data = typeByte ++ vector ∧
    IsNumber 1 name.nameType typeByte ∧ IsVector 2 name.name vector

/-- What stands in an extension of a type. Behind a list there may be more. -/
inductive IsContent : Nat → Extension → Bytes → Prop
  | serverNames {names : List ServerName} {list vector tail : Bytes} :
      IsVector 2 list vector → IsSequence IsServerName names list →
      IsContent 0 (.serverNames names tail) (vector ++ tail)
  | protocols {names : List Bytes} {list vector tail : Bytes} :
      IsVector 2 list vector → IsSequence (IsVector 1) names list →
      IsContent 16 (.protocols names tail) (vector ++ tail)
  | other {extensionType : Nat} {content : Bytes} :
      extensionType ≠ 0 → extensionType ≠ 16 →
      IsContent extensionType (.other extensionType content) content

/-- A type in two bytes, and behind a length in two bytes the content. -/
def IsExtension (extension : Extension) (data : Bytes) : Prop :=
  ∃ extensionType typeBytes content vector, data = typeBytes ++ vector ∧
    IsNumber 2 extensionType typeBytes ∧ IsVector 2 content vector ∧
    IsContent extensionType extension content

/-- What stands behind the compression methods: nothing at all, or the extensions, and behind these
anything. -/
inductive IsExtensions : Option (List Extension) → Bytes → Prop
  | absent : IsExtensions none []
  | present {extensions : List Extension} {block vector tail : Bytes} :
      IsVector 2 block vector → IsSequence IsExtension extensions block →
      IsExtensions (some extensions) (vector ++ tail)

/-- The version and the random bytes, three lists behind their lengths, and the extensions. -/
def IsBody (hello : ClientHello) (data : Bytes) : Prop :=
  ∃ session suites methods rest,
    data = hello.preamble ++ (session ++ (suites ++ (methods ++ rest))) ∧
    hello.preamble.length = 34 ∧ IsVector 1 hello.sessionId session ∧
    IsVector 2 hello.cipherSuites suites ∧ IsVector 1 hello.compressionMethods methods ∧
    IsExtensions hello.extensions rest

/-- The type of the message, a length in three bytes, and the body: as many of the following bytes
as the length says, or all of them if they are fewer. -/
def IsMessage (hello : ClientHello) (data : Bytes) : Prop :=
  ∃ announced length rest, data = 1 :: (length ++ rest) ∧ IsNumber 3 announced length ∧
    IsBody hello (rest.take (min announced rest.length))

/-! ## The parts of the message -/

namespace Reader

variable {α : Type} {item : Reader α} {IsItem : α → Bytes → Prop}

theorem reads_serverName : Reads serverName (Front IsServerName) := by
  refine ((reads_number 1).bind fun nameType => (reads_vector 2).bind fun name =>
    reads_pure (⟨nameType, name⟩ : ServerName)).congr fun data name rest => ?_
  constructor
  · rintro ⟨_, _, ⟨typeByte, rfl, htype⟩, _, _, ⟨vector, rfl, hname⟩, rfl, rfl⟩
    exact ⟨_, (List.append_assoc _ _ _).symm, typeByte, vector, rfl, htype, hname⟩
  · rintro ⟨_, rfl, typeByte, vector, rfl, htype, hname⟩
    exact ⟨_, _, ⟨typeByte, List.append_assoc _ _ _, htype⟩, _, rest, ⟨vector, rfl, hname⟩, rfl,
      rfl⟩

theorem not_isServerName_nil (name : ServerName) : ¬ IsServerName name [] := by
  rintro ⟨typeByte, vector, hnil, htype, -⟩
  exact htype.append_ne_nil Nat.one_pos vector hnil.symm

/-- A list behind its length, and what stands behind the list. -/
theorem reads_listed (hitem : Reads item (Front IsItem)) (hne : ∀ x, ¬ IsItem x [])
    (wrap : List α → Bytes → Extension) :
    Reads (do
        let xs ← inside (← vector 2) (items item)
        return wrap xs (← remainder))
      (Whole fun extension data => ∃ xs list vector tail, extension = wrap xs tail ∧
        IsVector 2 list vector ∧ IsSequence IsItem xs list ∧ data = vector ++ tail) := by
  refine ((reads_vector 2).bind fun list => (reads_inside list (items item)).bind fun xs =>
    reads_remainder.bind fun tail => reads_pure (wrap xs tail)).congr fun data extension rest => ?_
  constructor
  · rintro ⟨list, _, ⟨vector, rfl, hlist⟩, xs, _, ⟨hxs, rfl⟩, tail, _, ⟨rfl, rfl⟩, rfl, rfl⟩
    exact ⟨rfl, xs, list, vector, tail, rfl, hlist, (result?_items hitem hne).1 hxs, rfl⟩
  · rintro ⟨rfl, xs, list, vector, tail, rfl, hlist, hxs, rfl⟩
    exact ⟨list, tail, ⟨vector, rfl, hlist⟩, xs, tail, ⟨(result?_items hitem hne).2 hxs, rfl⟩,
      tail, [], ⟨rfl, rfl⟩, rfl, rfl⟩

theorem reads_extensionContent (extensionType : Nat) :
    Reads (extensionContent extensionType) (Whole (IsContent extensionType)) := by
  unfold extensionContent
  by_cases hnames : extensionType = serverNameType
  · subst hnames
    rw [if_pos rfl]
    -- The two types with a list inside are read alike; any other content is taken as it stands.
    refine (reads_listed reads_serverName not_isServerName_nil .serverNames).congr
      fun data extension rest => and_congr_right fun _ => ?_
    constructor
    · rintro ⟨xs, list, vector, tail, rfl, hlist, hxs, rfl⟩
      exact .serverNames hlist hxs
    · intro h
      cases h with
      | serverNames hlist hxs => exact ⟨_, _, _, _, rfl, hlist, hxs, rfl⟩
      | other hne _ => exact (hne rfl).elim
  · rw [if_neg hnames]
    by_cases hprotocols : extensionType = protocolsType
    · subst hprotocols
      rw [if_pos rfl]
      refine (reads_listed (reads_vector 1) (not_isVector_nil Nat.one_pos) .protocols).congr
        fun data extension rest => and_congr_right fun _ => ?_
      constructor
      · rintro ⟨xs, list, vector, tail, rfl, hlist, hxs, rfl⟩
        exact .protocols hlist hxs
      · intro h
        cases h with
        | protocols hlist hxs => exact ⟨_, _, _, _, rfl, hlist, hxs, rfl⟩
        | other _ hne => exact (hne rfl).elim
    · rw [if_neg hprotocols]
      refine (reads_remainder.bind fun content =>
        reads_pure (Extension.other extensionType content)).congr fun data extension rest => ?_
      constructor
      · rintro ⟨_, _, ⟨rfl, rfl⟩, rfl, rfl⟩
        exact ⟨rfl, .other hnames hprotocols⟩
      · rintro ⟨rfl, h⟩
        cases h with
        | serverNames _ _ => exact (hnames rfl).elim
        | protocols _ _ => exact (hprotocols rfl).elim
        | other _ _ => exact ⟨data, [], ⟨rfl, rfl⟩, rfl, rfl⟩

theorem reads_extension : Reads extension (Front IsExtension) := by
  refine ((reads_number 2).bind fun extensionType => (reads_vector 2).bind fun content =>
    reads_inside content (extensionContent extensionType)).congr fun data extension rest => ?_
  have hcontent : ∀ extensionType content, (extensionContent extensionType).result? content =
      some extension ↔ IsContent extensionType extension content := by
    intro extensionType content
    rw [(reads_extensionContent extensionType).result?_eq_some]
    exact ⟨fun ⟨_, _, h⟩ => h, fun h => ⟨[], rfl, h⟩⟩
  constructor
  · rintro ⟨extensionType, _, ⟨typeBytes, rfl, htype⟩, content, _, ⟨vector, rfl, hvector⟩, h, rfl⟩
    exact ⟨_, (List.append_assoc _ _ _).symm, extensionType, typeBytes, content, vector, rfl, htype,
      hvector, (hcontent _ _).1 h⟩
  · rintro ⟨_, rfl, extensionType, typeBytes, content, vector, rfl, htype, hvector, h⟩
    exact ⟨extensionType, _, ⟨typeBytes, List.append_assoc _ _ _, htype⟩, content, rest,
      ⟨vector, rfl, hvector⟩, (hcontent _ _).2 h, rfl⟩

theorem not_isExtension_nil (extension : Extension) : ¬ IsExtension extension [] := by
  rintro ⟨_, typeBytes, _, vector, hnil, htype, -⟩
  exact htype.append_ne_nil Nat.two_pos vector hnil.symm

theorem result?_body {data : Bytes} {hello : ClientHello} :
    body.result? data = some hello ↔ IsBody hello data := by
  have hbody : Reads body _ := (reads_take 34).bind fun preamble =>
    (reads_vector 1).bind fun session => (reads_vector 2).bind fun suites =>
    (reads_vector 1).bind fun methods =>
      Reads.ifAtEnd (⟨preamble, session, suites, methods, none⟩ : ClientHello)
        ((reads_vector 2).bind fun block => (reads_inside block (items extension)).bind fun xs =>
          reads_pure (⟨preamble, session, suites, methods, some xs⟩ : ClientHello))
  have hitems : ∀ {block xs}, (items extension).result? block = some xs ↔
      IsSequence IsExtension xs block := result?_items reads_extension not_isExtension_nil
  rw [hbody.result?_eq_some]
  constructor
  · rintro ⟨rest, _, _, ⟨preamble, rfl, rfl, hpreamble⟩, _, _, ⟨session, rfl, hsession⟩, _, _,
      ⟨suites, rfl, hsuites⟩, _, rest', ⟨methods, rfl, hmethods⟩,
      ⟨rfl, rfl, rfl⟩ | ⟨-, block, tail, ⟨vector, rfl, hblock⟩, xs, _, ⟨hxs, rfl⟩, rfl, rfl⟩⟩
    · exact ⟨session, suites, methods, [], rfl, hpreamble, hsession, hsuites, hmethods, .absent⟩
    · exact ⟨session, suites, methods, _, rfl, hpreamble, hsession, hsuites, hmethods,
        .present hblock (hitems.1 hxs)⟩
  · rintro ⟨session, suites, methods, rest, rfl, hpreamble, hsession, hsuites, hmethods, hrest⟩
    obtain ⟨preamble, sessionId, cipherSuites, compressionMethods, extensions⟩ := hello
    cases hrest with
    | absent =>
      exact ⟨[], preamble, _, ⟨preamble, rfl, rfl, hpreamble⟩, sessionId, _,
        ⟨session, rfl, hsession⟩, cipherSuites, _, ⟨suites, rfl, hsuites⟩, compressionMethods, [],
        ⟨methods, rfl, hmethods⟩, .inl ⟨rfl, rfl, rfl⟩⟩
    | @present xs block vector tail hblock hxs =>
      -- A vector is never empty, so a body with extensions is not taken for one without.
      have hne : vector ++ tail ≠ [] := fun hnil =>
        not_isVector_nil Nat.two_pos block ((List.append_eq_nil_iff.1 hnil).1 ▸ hblock)
      exact ⟨tail, preamble, _, ⟨preamble, rfl, rfl, hpreamble⟩, sessionId, _,
        ⟨session, rfl, hsession⟩, cipherSuites, _, ⟨suites, rfl, hsuites⟩, compressionMethods, _,
        ⟨methods, rfl, hmethods⟩,
        .inr ⟨hne, block, tail, ⟨vector, rfl, hblock⟩, xs, tail, ⟨hitems.2 hxs, rfl⟩, rfl, rfl⟩⟩

/-- The next bytes, as many as are announced or as there are. -/
theorem reads_available (announced : Nat) :
    Reads (do
        let available := (← get).rest.length
        inside (← take (min announced available)) body)
      fun data hello rest => IsBody hello (data.take (min announced data.length)) ∧
        rest = data.drop (min announced data.length) := by
  intro c hello rest
  refine (((reads_take (min announced c.rest.length)).bind fun part => reads_inside part body)
    c hello rest).trans ?_
  constructor
  · rintro ⟨_, _, ⟨part, hrest, rfl, hlength⟩, hbody, rfl⟩
    rw [hrest] at hlength ⊢
    rw [← hlength, List.take_left, List.drop_left]
    exact ⟨result?_body.1 hbody, rfl⟩
  · rintro ⟨hbody, rfl⟩
    have hlength := List.length_take_of_le (Nat.min_le_right announced c.rest.length)
    exact ⟨_, _, ⟨_, (List.take_append_drop _ _).symm, rfl, hlength⟩, result?_body.2 hbody, rfl⟩

theorem result?_message {data : Bytes} {hello : ClientHello} :
    message.result? data = some hello ↔ IsMessage hello data := by
  have hmessage : Reads message _ := (reads_number 1).bind fun n =>
    ((reads_number 3).bind reads_available).unless (n ≠ 1)
  rw [hmessage.result?_eq_some]
  constructor
  · rintro ⟨rest, n, _, ⟨digits, rfl, hlength, rfl⟩, hn, announced, rest',
      ⟨length, rfl, hannounced⟩, hbody, -⟩
    obtain ⟨b, rfl⟩ := List.length_eq_one_iff.1 hlength
    have hb : b = 1 := UInt8.toNat_inj.1 ((Nat.zero_add _).symm.trans (not_not.1 hn))
    exact ⟨announced, length, rest', hb ▸ rfl, hannounced, hbody⟩
  · rintro ⟨announced, length, rest, rfl, hannounced, hbody⟩
    exact ⟨_, 1, _, ⟨[1], rfl, rfl, rfl⟩, not_not.2 rfl, announced, rest, ⟨length, rfl, hannounced⟩,
      hbody, rfl⟩

end Reader

/-- **A ClientHello is accepted exactly by its grammar.** -/
theorem ClientHello.parse?_eq_some {data : Bytes} {hello : ClientHello} :
    ClientHello.parse? data = some hello ↔ IsMessage hello data :=
  Reader.result?_message

/-! ## What a message offers -/

/-- The name is a host name, and its bytes are text. -/
def IsHost (name : ServerName) (text : String) : Prop :=
  name.nameType = 0 ∧ name.name = Utf8.encode text

/-- The first of the names that is a host name and text. -/
def IsFirstHost (names : List ServerName) (text : String) : Prop :=
  ∃ before name after, names = before ++ name :: after ∧ IsHost name text ∧
    ∀ earlier ∈ before, ∀ other, ¬ IsHost earlier other

namespace ClientHello

/-- The server names of all the extensions that hold some, in order. -/
def serverNames (hello : ClientHello) : List ServerName :=
  (hello.extensions.getD []).flatMap fun
    | .serverNames names _ => names
    | .protocols _ _ | .other _ _ => []

/-- The lists of application protocols of all the extensions that hold some, in order. -/
def protocolLists (hello : ClientHello) : List (List Bytes) :=
  (hello.extensions.getD []).filterMap fun
    | .protocols names _ => some names
    | .serverNames _ _ | .other _ _ => none

/-- What a message offers: the first host name that is text, if there is one, in lower case, and all
the application protocols in order. -/
structure IsOffer (hello : ClientHello) (offer : Offer) : Prop where
  host : (∃ text, IsFirstHost hello.serverNames text ∧ offer.serverName = some (lowerCase text)) ∨
    (∀ name ∈ hello.serverNames, ∀ text, ¬ IsHost name text) ∧ offer.serverName = none
  protocols : offer.protocols = hello.protocolLists.flatten

/-- A name as a host name, if it is one and text. -/
def hostName? (name : ServerName) : Option String :=
  if name.nameType = hostNameType then Utf8.decode? name.name else none

theorem hostName?_eq_some {name : ServerName} {text : String} :
    hostName? name = some text ↔ IsHost name text := by
  unfold hostName? IsHost
  by_cases h : name.nameType = hostNameType
  · rw [if_pos h, Utf8.decode?_eq_some]
    exact (and_iff_right h).symm
  · rw [if_neg h]
    exact ⟨nofun, fun hhost => (h hhost.1).elim⟩

theorem hostName?_eq_none {name : ServerName} :
    hostName? name = none ↔ ∀ text, ¬ IsHost name text := by
  simp only [Option.eq_none_iff_forall_ne_some, ne_eq, hostName?_eq_some]

/-- The host names that are text are found among all server names. -/
theorem hostNames_eq (hello : ClientHello) :
    hello.hostNames = hello.serverNames.filterMap hostName? := by
  rw [hostNames, serverNames, List.filterMap_flatMap]
  congr 1
  funext extension
  cases extension <;> rfl

theorem head?_hostNames_eq_some {hello : ClientHello} {text : String} :
    hello.hostNames.head? = some text ↔ IsFirstHost hello.serverNames text := by
  rw [hostNames_eq, List.head?_filterMap, List.findSome?_eq_some_iff]
  simp only [hostName?_eq_some, hostName?_eq_none]
  rfl

theorem head?_hostNames_eq_none {hello : ClientHello} :
    hello.hostNames.head? = none ↔ ∀ name ∈ hello.serverNames, ∀ text, ¬ IsHost name text := by
  rw [hostNames_eq, List.head?_filterMap, List.findSome?_eq_none_iff]
  simp only [hostName?_eq_none]

theorem applicationProtocols_eq (hello : ClientHello) :
    hello.applicationProtocols = hello.protocolLists.flatten := by
  rw [applicationProtocols, protocolLists]
  induction hello.extensions.getD [] with
  | nil => rfl
  | cons extension extensions ih =>
    cases extension with
    | protocols names tail => exact congrArg (names ++ ·) ih
    | serverNames names tail => exact ih
    | other extensionType content => exact ih

theorem isOffer_offer (hello : ClientHello) : hello.IsOffer hello.offer where
  host := by
    unfold offer
    cases h : hello.hostNames.head? with
    | none => exact .inr ⟨head?_hostNames_eq_none.1 h, rfl⟩
    | some text => exact .inl ⟨text, head?_hostNames_eq_some.1 h, rfl⟩
  protocols := hello.applicationProtocols_eq

/-- A message makes one offer only. -/
theorem IsOffer.eq_offer {hello : ClientHello} {offer : Offer} (h : hello.IsOffer offer) :
    offer = hello.offer := by
  obtain ⟨serverName, protocols⟩ := offer
  have hprotocols : protocols = hello.applicationProtocols :=
    h.protocols.trans hello.applicationProtocols_eq.symm
  have hname : serverName = hello.hostNames.head?.map lowerCase := by
    rcases h.host with ⟨text, hfirst, hname⟩ | ⟨hnone, hname⟩
    · rw [head?_hostNames_eq_some.2 hfirst]
      exact hname
    · rw [head?_hostNames_eq_none.2 hnone]
      exact hname
  rw [ClientHello.offer, hprotocols, hname]

end ClientHello

/-- **What is offered is what the grammar says.** A handshake message offers something exactly if it
is a ClientHello, and then what that message offers. -/
theorem offer?_exact (data : Bytes) (offer : Offer) :
    offer? data = some offer ↔ ∃ hello, IsMessage hello data ∧ hello.IsOffer offer := by
  rw [offer?, Option.map_eq_some_iff]
  constructor
  · rintro ⟨hello, hparse, rfl⟩
    exact ⟨hello, ClientHello.parse?_eq_some.1 hparse, hello.isOffer_offer⟩
  · rintro ⟨hello, hmessage, hoffer⟩
    exact ⟨hello, ClientHello.parse?_eq_some.2 hmessage, hoffer.eq_offer.symm⟩

end Switchboard.Tls
