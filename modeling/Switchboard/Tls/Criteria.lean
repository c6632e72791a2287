import Switchboard.Log
import Switchboard.Text.Quoted
import Switchboard.Tls.ClientHello
import Switchboard.Detector.Kind

/-!
# TLS criteria

A TLS entry may be narrowed to server names and to application protocols. Without such criteria the
header of the first record decides; with them the record must be complete, and its ClientHello is
compared with the criteria.

* `Criteria.accepts` — does an offer satisfy the criteria?
* `Criteria.inspect` — what the beginning of a stream shows.
* `Inspection.verdict` — what follows for routing, and `Inspection.records` what is logged of it.
-/

namespace Switchboard.Tls

/-- A server name to compare with, in lower case. -/
inductive HostPattern
  | exact (host : String)
  /-- Names that end in `suffix`, which starts with a point, and have more before it. -/
  | below (suffix : List Char)
  deriving DecidableEq, Repr

namespace HostPattern

/-- `*.example.org` stands for the names below a domain, any other text for itself. -/
def ofText (text : String) : HostPattern :=
  match (lowerCase text).toList with
  | '*' :: '.' :: domain => below ('.' :: domain)
  | name => exact (String.ofList name)

def admits (name : String) : HostPattern → Bool
  | exact host => host == name
  | below suffix => suffix.length < name.toList.length && suffix.isSuffixOf name.toList

end HostPattern

/-- Server names and application protocols; an empty list asks for nothing. -/
structure Criteria where
  hosts : List HostPattern
  protocols : List Bytes
  deriving DecidableEq, Repr

/-- What the beginning of a stream shows to someone looking for TLS. -/
inductive Inspection
  /-- The header of the first record is not complete. -/
  | shortHeader
  | notHandshake (contentType : UInt8)
  | oldVersion (major minor : UInt8)
  | badLength (announced : Nat)
  /-- A record header, and no criteria to compare more with. -/
  | header
  | shortRecord
  | malformed (announced : Nat)
  | rejected (offer : Offer)
  | accepted (offer : Offer)
  deriving DecidableEq, Repr

/-- Content type, version and length. -/
def recordHeader : Nat := 5

/-- The content type of handshake records. -/
def handshakeType : UInt8 := 22

/-- The largest record: 2^14 bytes of content and what compression may add. -/
def maxRecord : Nat := 16384 + 2048

namespace Criteria

def ofTexts (hosts protocols : List String) : Criteria :=
  ⟨hosts.map HostPattern.ofText, protocols.map Utf8.encode⟩

def isEmpty (criteria : Criteria) : Bool :=
  criteria.hosts.isEmpty && criteria.protocols.isEmpty

def acceptsHost (criteria : Criteria) (offer : Offer) : Bool :=
  criteria.hosts.isEmpty ||
    match offer.serverName with
    | none => false
    | some name => criteria.hosts.any (·.admits name)

/-- One of the offered protocols is asked for. -/
def acceptsProtocol (criteria : Criteria) (offer : Offer) : Bool :=
  criteria.protocols.isEmpty || offer.protocols.any fun p => criteria.protocols.contains p

def accepts (criteria : Criteria) (offer : Offer) : Bool :=
  criteria.acceptsHost offer && criteria.acceptsProtocol offer

def inspectRecord (criteria : Criteria) (record : Bytes) : Inspection :=
  match offer? record with
  | none => .malformed record.length
  | some offer => if criteria.accepts offer then .accepted offer else .rejected offer

def inspect (criteria : Criteria) : Bytes → Inspection
  | contentType :: major :: minor :: high :: low :: rest =>
    let announced := Bytes.bigEndian [high, low]
    if contentType ≠ handshakeType then .notHandshake contentType
    else if major < 3 then .oldVersion major minor
    else if announced = 0 ∨ maxRecord < announced then .badLength announced
    else if criteria.isEmpty then .header
    else if rest.length < announced then .shortRecord
    else criteria.inspectRecord (rest.take announced)
  | _ => .shortHeader

end Criteria

namespace Inspection

def verdict : Inspection → Verdict
  | shortHeader | shortRecord => .wait
  | header | accepted _ => .accept
  | notHandshake _ | oldVersion _ _ | badLength _ | malformed _ | rejected _ => .reject

/-- A complete record settles the question. -/
theorem verdict_inspectRecord_ne_wait (criteria : Criteria) (record : Bytes) :
    (criteria.inspectRecord record).verdict ≠ .wait := by
  unfold Criteria.inspectRecord
  cases offer? record with
  | none => nofun
  | some offer => cases h : criteria.accepts offer <;> simp [h, verdict]

/-- The record about an offer that has been compared with criteria. -/
def offerRecord (offer : Offer) (outcome : String) : Record :=
  ⟨.debug, "ClientHello sni=" ++ Text.optional (offer.serverName.map Text.quoted) ++ " alpn=" ++
    Text.bracketed (offer.protocols.map fun p => Text.quoted (Utf8.decodeLossy p)) ++ ": " ++
    outcome⟩

def records : Inspection → List Record
  | shortHeader | shortRecord | header => []
  | notHandshake contentType =>
    [⟨.trace,
      "Not a TLS handshake record: first byte is 0x" ++ String.ofList (hexPair contentType)⟩]
  | oldVersion major minor =>
    [⟨.trace, "Unsupported record version " ++ toString major.toNat ++ "." ++
      toString minor.toNat⟩]
  | badLength announced => [⟨.trace, "Invalid TLS record length: " ++ toString announced⟩]
  | malformed announced =>
    [⟨.debug, "Malformed ClientHello in " ++ toString announced ++ " byte record"⟩]
  | rejected offer => [offerRecord offer "rejected"]
  | accepted offer => [offerRecord offer "accepted"]

end Inspection

end Switchboard.Tls
