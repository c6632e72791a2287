import Switchboard.Network
import Switchboard.Proofs.Addresses
import Switchboard.Proofs.Texts

/-!
# Routes in one line, and the addresses they give

A route given as `NAME=HOST:PORT` is taken apart at the first equals sign and at the last colon, and
the brackets around the host are dropped (`Route.ofSpec_of_parts`). None of these characters can be
mistaken for a part of an address: a name has no equals sign, a port no colon and an address no
bracket. So a backend written as an address and a port is that endpoint, with brackets around an
IPv6 address or without, and no network is asked for it.

Main result: `Route.endpoints_of_spelled`.
-/

namespace Switchboard

namespace Text

/-- What is dropped at the ends goes, if nothing of it occurs in between. -/
theorem strip_append {drop : Char → Bool} {before text after : List Char}
    (hbefore : ∀ c ∈ before, drop c = true) (htext : ∀ c ∈ text, drop c = false)
    (hafter : ∀ c ∈ after, drop c = true) : strip drop (before ++ text ++ after) = text := by
  have hfirst : Stops drop text := fun c hc => htext c (List.mem_of_mem_head? hc)
  have hlast : Stops drop text.reverse := fun c hc =>
    htext c (List.mem_reverse.1 (List.mem_of_mem_head? hc))
  exact Strips.strip_eq ⟨⟨before, after, rfl, hbefore, hafter⟩, hfirst, hlast⟩

theorem strip_eq_self {drop : Char → Bool} {text : List Char} (h : ∀ c ∈ text, drop c = false) :
    strip drop text = text := by
  have hends := strip_append (List.forall_mem_nil _) h (List.forall_mem_nil _)
  rwa [List.nil_append, List.append_nil] at hends

/-- The decimal form of a number is read back. -/
theorem natural?_decimalText {limit n : Nat} (h : n ≤ limit) :
    natural? limit (decimalText n) = some n :=
  natural?_eq_some_iff.2 ⟨isNumeral_toDigits n, h⟩

end Text

namespace Route

theorem port?_decimalText (port : UInt16) : port? (decimalText port.toNat) = some port := by
  have hle : port.toNat ≤ maxPort := Nat.le_of_lt_succ port.toNat_lt
  rw [port?, Text.natural?_decimalText hle, Option.map_some, UInt16.ofNat_toNat]

/-- A text with a name, a host and a port gives the route that has them. -/
theorem ofSpec_of_parts {name host portText : List Char} {port : UInt16} (hname : name ≠ [])
    (hsign : '=' ∉ name) (hhost : host ≠ []) (hcolon : ':' ∉ portText)
    (hport : port? portText = some port) :
    ofSpec (String.ofList (name ++ '=' :: (host ++ ':' :: portText))) =
      .ok { named (String.ofList name) with
        host := some (String.ofList (Text.strip isBracket host))
        port := some port } := by
  have hnonempty : (name.isEmpty || host.isEmpty) = false := by simp [hname, hhost]
  simp only [ofSpec, String.toList_ofList, Text.splitFirst_append hsign,
    Text.splitLast_append host hcolon, hport, hnonempty, Bool.false_eq_true, if_false]

end Route

/-! ## Endpoints as backends -/

/-- The texts of an endpoint: the standard form, and the address and the port with a colon in
between, whatever colons the address has. -/
inductive Endpoint.Spelled (endpoint : Endpoint) : List Char → Prop
  | standard : endpoint.Spelled endpoint.text
  | bare : endpoint.Spelled (endpoint.address.text ++ ':' :: decimalText endpoint.port.toNat)

theorem isBracket_of_mem {address : Address} : ∀ c ∈ address.text, isBracket c = false := by
  intro c hc
  have hwritten := Address.isWritten_of_mem hc
  by_contra hbracket
  simp only [isBracket, Bool.not_eq_false, Bool.or_eq_true, beq_iff_eq] at hbracket
  rcases hbracket with rfl | rfl
  · exact absurd hwritten (by decide)
  · exact absurd hwritten (by decide)

theorem Address.text_ne_nil (address : Address) : address.text ≠ [] := by
  intro hnil
  have hparse := address.parse?_text
  rw [hnil] at hparse
  cases hparse

theorem strip_brackets (address : Address) :
    Text.strip isBracket ('[' :: address.text ++ [']']) = address.text := by
  have hopen : ∀ c ∈ ['['], isBracket c = true := List.forall_mem_singleton.2 rfl
  have hclose : ∀ c ∈ [']'], isBracket c = true := List.forall_mem_singleton.2 rfl
  exact Text.strip_append hopen isBracket_of_mem hclose

/-- What stands before the port of such a text is the address, with brackets or without. -/
theorem Endpoint.Spelled.exists_host {endpoint : Endpoint} {text : List Char}
    (h : endpoint.Spelled text) :
    ∃ host, text = host ++ ':' :: decimalText endpoint.port.toNat ∧ host ≠ [] ∧
      Text.strip isBracket host = endpoint.address.text := by
  have hbare : Text.strip isBracket endpoint.address.text = endpoint.address.text :=
    Text.strip_eq_self isBracket_of_mem
  cases h with
  | bare => exact ⟨_, rfl, endpoint.address.text_ne_nil, hbare⟩
  | standard =>
    obtain ⟨address, port⟩ := endpoint
    cases address with
    | v4 ip => exact ⟨_, rfl, Address.text_ne_nil (.v4 ip), hbare⟩
    | v6 ip =>
      refine ⟨'[' :: ip.text ++ [']'], ?_, by simp, strip_brackets (.v6 ip)⟩
      simp [Endpoint.text]

namespace Route

/-- The route that an endpoint's text gives has the address for its host, without brackets. -/
theorem ofSpec_of_spelled {name : String} {endpoint : Endpoint} {text : List Char}
    (hname : name ≠ "") (hsign : '=' ∉ name.toList) (h : endpoint.Spelled text) :
    ofSpec (name ++ "=" ++ String.ofList text) =
      .ok { named name with
        host := some (String.ofList endpoint.address.text)
        port := some endpoint.port } := by
  obtain ⟨host, rfl, hhost, hstrip⟩ := h.exists_host
  have hcolon : ':' ∉ decimalText endpoint.port.toNat := by
    intro hmem
    exact absurd (isDecimalDigit_of_mem _ hmem) (by decide)
  have hne : name.toList ≠ [] := by simpa using hname
  have hspec : name ++ "=" ++ String.ofList (host ++ ':' :: decimalText endpoint.port.toNat) =
      String.ofList (name.toList ++ '=' :: (host ++ ':' :: decimalText endpoint.port.toNat)) := by
    rw [← String.toList_inj]
    simp
  rw [hspec, ofSpec_of_parts hne hsign hhost hcolon (port?_decimalText endpoint.port), hstrip,
    String.ofList_toList]

/-- **A backend written as an address is that address.** The route of such a text is read without an
error, and the endpoints of its backend are that endpoint alone, on every network. -/
theorem endpoints_of_spelled {name : String} {endpoint : Endpoint} {text : List Char}
    (hname : name ≠ "") (hsign : '=' ∉ name.toList) (h : endpoint.Spelled text) :
    ∃ route backend, ofSpec (name ++ "=" ++ String.ofList text) = .ok route ∧
      route.name = name ∧ route.host = some backend.host ∧ route.port = some backend.port ∧
      ∀ net : Network, net.endpoints backend = .ok [endpoint] := by
  refine ⟨_, ⟨String.ofList endpoint.address.text, endpoint.port⟩,
    ofSpec_of_spelled hname hsign h, rfl, rfl, rfl, fun net => ?_⟩
  apply Network.endpoints_of_address
  rw [Backend.endpoint?, Backend.bareHost, String.toList_ofList,
    Text.strip_eq_self isBracket_of_mem, Address.parse?_text]
  rfl

/-- An IPv6 address without brackets: only its last colon is the port's. -/
theorem endpoints_of_spelled_loopback :
    ∃ route backend, ofSpec "ssh=::1:22" = .ok route ∧ route.name = "ssh" ∧
      route.host = some backend.host ∧ route.port = some backend.port ∧
      ∀ net : Network, net.endpoints backend =
        .ok [⟨.v6 ⟨[0, 0, 0, 0, 0, 0, 0, 1], rfl⟩, 22⟩] := by
  have hbare : Endpoint.Spelled ⟨.v6 ⟨[0, 0, 0, 0, 0, 0, 0, 1], rfl⟩, 22⟩ "::1:22".toList := .bare
  have hspec : "ssh=::1:22" = "ssh" ++ "=" ++ String.ofList "::1:22".toList := by decide
  rw [hspec]
  exact endpoints_of_spelled (by decide) (by decide) hbare

end Route

end Switchboard
