import Switchboard.Bytes
import Switchboard.Detector.Kind

/-!
# Protocol signatures

The protocols that show themselves by fixed bytes at fixed places, by a length field, or by a token
somewhere in their first message. Each signature is a function of the bytes seen so far and waits
where they do not settle the question.
-/

namespace Switchboard.Signature

open Verdict

/-- The stream begins with a word; shorter streams wait. -/
def opensWith (word data : Bytes) : Verdict :=
  if data.length < word.length then wait else ofBool (word.isPrefixOf data)

/-- The first bytes of every SSH banner. -/
def sshBanner : Bytes := Bytes.ofWord ['S', 'S', 'H', '-']

def ssh (data : Bytes) : Verdict := opensWith sshBanner data

/-- The first bytes of a tinc connection: the identification request and a blank. -/
def tincRequest : Bytes := Bytes.ofWord ['0', ' ']

def tinc (data : Bytes) : Verdict := opensWith tincRequest data

/-- OpenVPN over TCP: two bytes of length, which count the rest of the packet. The operation code
and the key id differ between key methods, so only the length is compared. -/
def openVpn : Bytes → Verdict
  | high :: low :: packet => ofBool (Bytes.bigEndian [high, low] = packet.length)
  | _ => wait

/-! ## Tokens anywhere in the stream -/

def jabber : Bytes := Bytes.ofWord ['j', 'a', 'b', 'b', 'e', 'r']

/-- Clients may be wordy before they name the `jabber` namespace, but not wordier than this. -/
def xmppPreamble : Nat := 50

/-- XMPP names its namespace somewhere in the stream header. -/
def xmpp (data : Bytes) : Verdict :=
  if data.includes jabber then accept
  else if data.length < xmppPreamble then wait
  else reject

def httpVersion : Bytes := Bytes.ofWord ['H', 'T', 'T', 'P']

def httpMethods : List Bytes :=
  [['O', 'P', 'T', 'I', 'O', 'N', 'S'], ['G', 'E', 'T'], ['H', 'E', 'A', 'D'],
    ['P', 'O', 'S', 'T'], ['P', 'U', 'T'], ['D', 'E', 'L', 'E', 'T', 'E'],
    ['T', 'R', 'A', 'C', 'E'], ['C', 'O', 'N', 'N', 'E', 'C', 'T']].map Bytes.ofWord

/-- The first method that does not reject decides. -/
def firstMethod (data : Bytes) : List Bytes → Verdict
  | [] => reject
  | method :: others =>
    match opensWith method data with
    | reject => firstMethod data others
    | verdict => verdict

/-- HTTP carries a version token, or opens with a method where a simple request carries none. -/
def http (data : Bytes) : Verdict :=
  if data.includes httpVersion then accept else firstMethod data httpMethods

/-! ## Android Debug Bridge -/

/-- A message header, the tag `host:` and one more byte. -/
def adbPacket : Nat := 30

/-- The message without a command or payload that some hosts send first. -/
def adbEmptyMessage : Bytes :=
  List.replicate 20 0x00 ++ List.replicate 4 0xff

/-- A connection message: the command at the head and the system type behind the header. -/
def adbConnects (data : Bytes) : Bool :=
  data.take 4 == Bytes.ofWord ['C', 'N', 'X', 'N'] &&
    (data.drop 24).take 5 == Bytes.ofWord ['h', 'o', 's', 't', ':']

/-- The bridge opens with a connection message, at once or behind one empty message. -/
def adb (data : Bytes) : Verdict :=
  if data.length < adbPacket then wait
  else if adbConnects data then accept
  else if data.length < adbPacket + adbEmptyMessage.length then wait
  else if data.take adbEmptyMessage.length ≠ adbEmptyMessage then reject
  else ofBool (adbConnects (data.drop adbEmptyMessage.length))

/-! ## SOCKS5 -/

/-- The most authentication methods that a greeting may offer. -/
def socksMethodCount : Nat := 10

/-- The highest authentication method that is assigned. -/
def socksMethodId : UInt8 := 9

/-- A SOCKS5 greeting: the version, the number of methods and the methods. -/
def socks5 : Bytes → Verdict
  | version :: count :: rest =>
    if version ≠ 5 then reject
    else if count.toNat < 1 ∨ socksMethodCount < count.toNat then reject
    else if rest.length < count.toNat then wait
    else ofBool ((rest.take count.toNat).all (· ≤ socksMethodId))
  | _ => wait

end Switchboard.Signature
