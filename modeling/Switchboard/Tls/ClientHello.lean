import Switchboard.Text.Utf8
import Switchboard.Tls.Cursor

/-!
# The ClientHello message

The first message of a TLS handshake, as far as it concerns routing: the lists that come before the
extensions, the extensions, and of these the server names and the application protocols. Lengths
are announced by the sender, so the message is read with cursors that cannot leave their part.

* `ClientHello.parse?` — the message; none if a length points outside its part.
* `ClientHello.offer` — what the message offers to route by.
-/

namespace Switchboard.Tls

/-- A server name with its type; only host names, type 0, are understood. -/
structure ServerName where
  nameType : Nat
  name : Bytes
  deriving DecidableEq, Repr

/-- The content of an extension, as far as it is understood. Bytes behind a list are carried along
and mean nothing. -/
inductive Extension
  | serverNames (names : List ServerName) (tail : Bytes)
  | protocols (names : List Bytes) (tail : Bytes)
  | other (extensionType : Nat) (content : Bytes)
  deriving DecidableEq, Repr

/-- A ClientHello message. Clients of old may leave the extensions out. -/
structure ClientHello where
  /-- The version and the random bytes. -/
  preamble : Bytes
  sessionId : Bytes
  cipherSuites : Bytes
  compressionMethods : Bytes
  extensions : Option (List Extension)
  deriving DecidableEq, Repr

/-- What a client offers to be routed by. -/
structure Offer where
  /-- The host name, in lower case. -/
  serverName : Option String
  /-- Application protocols, in the client's order of preference. -/
  protocols : List Bytes
  deriving DecidableEq, Repr

def serverNameType : Nat := 0

def protocolsType : Nat := 16

def hostNameType : Nat := 0

namespace Reader

def serverName : Reader ServerName := do
  let nameType ← number 1
  return ⟨nameType, ← vector 2⟩

/-- The content of an extension of a given type. -/
def extensionContent (extensionType : Nat) : Reader Extension := do
  if extensionType = serverNameType then
    let names ← inside (← vector 2) (items serverName)
    return .serverNames names (← remainder)
  else if extensionType = protocolsType then
    let names ← inside (← vector 2) (items (vector 1))
    return .protocols names (← remainder)
  else
    return .other extensionType (← remainder)

def extension : Reader Extension := do
  let extensionType ← number 2
  inside (← vector 2) (extensionContent extensionType)

/-- The body of the message. Bytes behind the extensions are ignored. -/
def body : Reader ClientHello := do
  let preamble ← take (2 + 32)
  let sessionId ← vector 1
  let cipherSuites ← vector 2
  let compressionMethods ← vector 1
  if ← atEnd then
    return ⟨preamble, sessionId, cipherSuites, compressionMethods, none⟩
  else
    let extensions ← inside (← vector 2) (items extension)
    return ⟨preamble, sessionId, cipherSuites, compressionMethods, some extensions⟩

/-- A handshake message that is a ClientHello. A message may go on in records that are not at hand;
what is at hand then counts as its body. -/
def message : Reader ClientHello := do
  if (← number 1) ≠ 1 then failure
  let announced ← number 3
  let available := (← get).rest.length
  inside (← take (min announced available)) body

end Reader

/-- The characters of ASCII in lower case, all others as they are. -/
def lowerCase (text : String) : String :=
  String.ofList (text.toList.map Char.toLower)

namespace ClientHello

/-- The ClientHello that a handshake message is; none if it is another message, or if a length
points outside its part. -/
def parse? (handshake : Bytes) : Option ClientHello :=
  Reader.message.result? handshake

def hostNames (hello : ClientHello) : List String :=
  (hello.extensions.getD []).flatMap fun
    | .serverNames names _ =>
      names.filterMap fun n => if n.nameType = hostNameType then Utf8.decode? n.name else none
    | _ => []

def applicationProtocols (hello : ClientHello) : List Bytes :=
  (hello.extensions.getD []).flatMap fun
    | .protocols names _ => names
    | _ => []

/-- The first host name and the application protocols. -/
def offer (hello : ClientHello) : Offer :=
  ⟨hello.hostNames.head?.map lowerCase, hello.applicationProtocols⟩

end ClientHello

/-- What a handshake message offers to route by; none if it is no ClientHello. -/
def offer? (handshake : Bytes) : Option Offer :=
  (ClientHello.parse? handshake).map ClientHello.offer

end Switchboard.Tls
