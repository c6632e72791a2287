import Switchboard.Proofs.Specs
import Switchboard.Proofs.Texts

/-!
# The parts of a route in one line

Which texts of the form `NAME=HOST:PORT` are read, and as what. A name has no equals sign and a port
no colon, so a text has such parts in one way at most (`Parts.Spells.unique`), though the host may
have any number of either. A text that has them gives the route that they describe
(`Parts.Describes`), and every other text is refused.

The host is what stands between the name and the port without the brackets at its ends, so one that
does not end in brackets of its own is the same with a pair of brackets around it. Nothing is left
of a host that consists of brackets (`exists_host_of_ofSpec`).

Main result: `Route.ofSpec_exact`.
-/

namespace Switchboard.Route

open Text

/-! ## Parts -/

/-- The texts of which a route in one line consists. -/
structure Parts where
  name : List Char
  host : List Char
  port : List Char

namespace Parts

variable {parts other : Parts} {text : List Char} {route : Route}

/-- A text consists of these parts, and none of them is missing. -/
structure Spells (parts : Parts) (text : List Char) : Prop where
  eq_parts : text = parts.name ++ '=' :: (parts.host ++ ':' :: parts.port)
  name_ne_nil : parts.name ≠ []
  sign_notMem : '=' ∉ parts.name
  host_ne_nil : parts.host ≠ []
  colon_notMem : ':' ∉ parts.port
  port : ∃ n ≤ maxPort, IsNumeral parts.port n

/-- A route has the name, the host and the port of these parts, and nothing else of its own. -/
structure Describes (parts : Parts) (route : Route) : Prop where
  name : route.name.toList = parts.name
  host : ∃ host, route.host = some host ∧ Strips isBracket parts.host host.toList
  port : ∃ port, route.port = some port ∧ IsNumeral parts.port port.toNat
  rest : route = { named route.name with host := route.host, port := route.port }

theorem Spells.splitFirst_eq (h : parts.Spells text) :
    splitFirst '=' text = some (parts.name, parts.host ++ ':' :: parts.port) :=
  splitFirst_eq_some_iff.2 ⟨h.eq_parts, h.sign_notMem⟩

theorem Spells.splitLast_eq (h : parts.Spells text) :
    splitLast ':' (parts.host ++ ':' :: parts.port) = some (parts.host, parts.port) :=
  splitLast_eq_some_iff.2 ⟨rfl, h.colon_notMem⟩

theorem Spells.unique (h : parts.Spells text) (hother : other.Spells text) : parts = other := by
  have hfirst := h.splitFirst_eq.symm.trans hother.splitFirst_eq
  simp only [Option.some.injEq, Prod.mk.injEq] at hfirst
  obtain ⟨hname, htarget⟩ := hfirst
  have hlast := h.splitLast_eq
  rw [htarget, hother.splitLast_eq] at hlast
  simp only [Option.some.injEq, Prod.mk.injEq] at hlast
  obtain ⟨hhost, hport⟩ := hlast
  cases parts
  cases other
  simp_all

end Parts

/-! ## Reading -/

theorem port?_eq_some_iff {text : List Char} {port : UInt16} :
    port? text = some port ↔ IsNumeral text port.toNat := by
  rw [port?, Option.map_eq_some_iff]
  constructor
  · rintro ⟨n, hn, rfl⟩
    obtain ⟨hnumeral, hle⟩ := natural?_eq_some_iff.1 hn
    rwa [UInt16.toNat_ofNat_of_lt' (Nat.lt_succ_of_le hle)]
  · intro h
    exact ⟨port.toNat, natural?_eq_some_iff.2 ⟨h, Nat.le_of_lt_succ port.toNat_lt⟩,
      UInt16.ofNat_toNat⟩

def backed (name host : String) (port : UInt16) : Route :=
  { named name with host := some host, port := some port }

def ofParts (parts : Parts) (port : UInt16) : Route :=
  backed (String.ofList parts.name) (String.ofList (strip isBracket parts.host)) port

theorem Parts.describes_iff {parts : Parts} {route : Route} :
    parts.Describes route ↔
      ∃ port, IsNumeral parts.port port.toNat ∧ route = ofParts parts port := by
  constructor
  · rintro ⟨hname, ⟨host, hhost, hstrips⟩, ⟨port, hport, hnumeral⟩, hrest⟩
    refine ⟨port, hnumeral, ?_⟩
    rw [hrest, hhost, hport, ofParts, backed, ← hname, hstrips.strip_eq, String.ofList_toList,
      String.ofList_toList]
  · rintro ⟨port, hnumeral, rfl⟩
    refine ⟨String.toList_ofList, ⟨_, rfl, ?_⟩, ⟨port, rfl, hnumeral⟩, rfl⟩
    rw [String.toList_ofList]
    exact strips_strip isBracket parts.host

theorem Parts.Spells.ofSpec_eq {parts : Parts} {spec : String} {port : UInt16}
    (h : parts.Spells spec.toList) (hport : IsNumeral parts.port port.toNat) :
    ofSpec spec = .ok (ofParts parts port) := by
  rw [← String.ofList_toList (s := spec), h.eq_parts]
  exact ofSpec_of_parts h.name_ne_nil h.sign_notMem h.host_ne_nil h.colon_notMem
    (port?_eq_some_iff.2 hport)

theorem exists_spells_of_ofSpec {spec : String} {route : Route} (h : ofSpec spec = .ok route) :
    ∃ parts : Parts, parts.Spells spec.toList ∧
      ∃ port, IsNumeral parts.port port.toNat ∧ route = ofParts parts port := by
  -- The reader's own branches, of which only one gives a route.
  rw [ofSpec] at h
  cases hfirst : splitFirst '=' spec.toList with
  | none => simp [hfirst] at h
  | some cut =>
    obtain ⟨name, target⟩ := cut
    simp only [hfirst] at h
    cases hlast : splitLast ':' target with
    | none => simp [hlast] at h
    | some cut =>
      obtain ⟨host, portText⟩ := cut
      simp only [hlast] at h
      cases hport : port? portText with
      | none => simp [hport] at h
      | some port =>
        simp only [hport] at h
        by_cases hempty : (name.isEmpty || host.isEmpty) = true
        · simp [hempty] at h
        · rw [if_neg hempty] at h
          obtain ⟨heq, hsign⟩ := splitFirst_eq_some_iff.1 hfirst
          obtain ⟨rfl, hcolon⟩ := splitLast_eq_some_iff.1 hlast
          have hnumeral := port?_eq_some_iff.1 hport
          have hle : port.toNat ≤ maxPort := Nat.le_of_lt_succ port.toNat_lt
          simp only [Bool.or_eq_true, List.isEmpty_iff, not_or] at hempty
          exact ⟨⟨name, host, portText⟩,
            ⟨heq, hempty.1, hsign, hempty.2, hcolon, _, hle, hnumeral⟩,
            port, hnumeral, (Except.ok.inj h).symm⟩

theorem ofSpec_eq_ok_iff {spec : String} {route : Route} :
    ofSpec spec = .ok route ↔
      ∃ parts : Parts, parts.Spells spec.toList ∧ parts.Describes route := by
  simp only [Parts.describes_iff]
  constructor
  · exact exists_spells_of_ofSpec
  · rintro ⟨parts, hparts, port, hport, rfl⟩
    exact hparts.ofSpec_eq hport

theorem exists_ofSpec_iff {spec : String} :
    (∃ route, ofSpec spec = .ok route) ↔ ∃ parts : Parts, parts.Spells spec.toList := by
  constructor
  · rintro ⟨route, h⟩
    obtain ⟨parts, hparts, -⟩ := exists_spells_of_ofSpec h
    exact ⟨parts, hparts⟩
  · rintro ⟨parts, hparts⟩
    obtain ⟨n, hle, hnumeral⟩ := hparts.port
    have hn : (UInt16.ofNat n).toNat = n := UInt16.toNat_ofNat_of_lt' (Nat.lt_succ_of_le hle)
    exact ⟨_, hparts.ofSpec_eq (hn.symm ▸ hnumeral)⟩

/-! ## Writing -/

def line (name host : String) (port : UInt16) : String :=
  name ++ "=" ++ host ++ ":" ++ toString port.toNat

/-- A host that may be set in brackets: there is none at its ends. -/
structure IsBare (host : String) : Prop where
  ne_empty : host ≠ ""
  first : Stops isBracket host.toList
  last : Stops isBracket host.toList.reverse

/-- A line is read as what it was written from, whatever brackets it has around the host. -/
theorem ofSpec_line {name host opening closing : String} (port : UInt16) (hname : name ≠ "")
    (hsign : '=' ∉ name.toList) (hhost : IsBare host)
    (hopening : ∀ c ∈ opening.toList, isBracket c = true)
    (hclosing : ∀ c ∈ closing.toList, isBracket c = true) :
    ofSpec (line name (opening ++ host ++ closing) port) = .ok (backed name host port) := by
  have hstrips : Strips isBracket (opening.toList ++ host.toList ++ closing.toList) host.toList :=
    ⟨⟨_, _, rfl, hopening, hclosing⟩, hhost.first, hhost.last⟩
  have htext : (line name (opening ++ host ++ closing) port).toList = name.toList ++
      '=' :: ((opening ++ host ++ closing).toList ++ ':' :: Nat.toDigits 10 port.toNat) := by
    simp [line]
  have hne : (opening ++ host ++ closing).toList ≠ [] := by simp [hhost.ne_empty]
  have hcolon : ':' ∉ Nat.toDigits 10 port.toNat := by
    intro hmem
    exact absurd (Nat.isDigit_of_mem_toDigits (by decide) (by decide) hmem) (by decide)
  have hspec := ofSpec_of_parts (by simpa using hname) hsign hne hcolon
    (port?_eq_some_iff.2 (isNumeral_toDigits port.toNat))
  rw [← htext, String.ofList_toList, String.toList_append, String.toList_append,
    hstrips.strip_eq, String.ofList_toList, String.ofList_toList] at hspec
  exact hspec

theorem ofSpec_plainLine {name host : String} (port : UInt16) (hname : name ≠ "")
    (hsign : '=' ∉ name.toList) (hhost : IsBare host) :
    ofSpec (line name host port) = .ok (backed name host port) := by
  have hnone : ∀ c ∈ "".toList, isBracket c = true := by simp
  have hline := ofSpec_line port hname hsign hhost hnone hnone
  rwa [String.empty_append, String.append_empty] at hline

/-- **A text is read exactly if it has a name, a host and a port**, which it has in one way at most,
and gives the route that they describe. So a line gives back what it was written from, with brackets
around the host or without. -/
theorem ofSpec_exact :
    (∀ spec : String, (∃ route, ofSpec spec = .ok route) ↔
      ∃ parts : Parts, parts.Spells spec.toList) ∧
    (∀ (spec : String) (parts other : Parts), parts.Spells spec.toList →
      other.Spells spec.toList → parts = other) ∧
    (∀ (spec : String) (route : Route), ofSpec spec = .ok route ↔
      ∃ parts : Parts, parts.Spells spec.toList ∧ parts.Describes route) ∧
    ∀ (name host : String) (port : UInt16), name ≠ "" → '=' ∉ name.toList → IsBare host →
      ofSpec (line name host port) = .ok (backed name host port) ∧
      ofSpec (line name ("[" ++ host ++ "]") port) = .ok (backed name host port) := by
  refine ⟨fun _ => exists_ofSpec_iff, fun _ _ _ => Parts.Spells.unique, fun _ _ => ofSpec_eq_ok_iff,
    ?_⟩
  intro name host port hname hsign hhost
  have hopening : ∀ c ∈ "[".toList, isBracket c = true := by simp [isBracket]
  have hclosing : ∀ c ∈ "]".toList, isBracket c = true := by simp [isBracket]
  exact ⟨ofSpec_plainLine port hname hsign hhost,
    ofSpec_line port hname hsign hhost hopening hclosing⟩

/-- A host with colons, and one with an equals sign and brackets that do not match. -/
theorem ofSpec_exact_colons :
    ofSpec "ssh=::1:22" = .ok (backed "ssh" "::1" 22) ∧
    ofSpec "ssh=[::1]:22" = .ok (backed "ssh" "::1" 22) ∧
    ofSpec "ssh=]a=b[:+022" = .ok (backed "ssh" "a=b" 22) := by
  have hbare : IsBare "::1" := ⟨by decide, by simp [Stops, isBracket], by simp [Stops, isBracket]⟩
  have hlines := ofSpec_exact.2.2.2 "ssh" "::1" 22 (by decide) (by decide) hbare
  have hport : IsNumeral ['+', '0', '2', '2'] 22 :=
    ⟨['0', '2', '2'], .inr rfl, by decide, by simp, by decide⟩
  have hhost : Strips isBracket [']', 'a', '=', 'b', '['] "a=b".toList :=
    ⟨⟨[']'], ['['], by decide, by simp [isBracket], by simp [isBracket]⟩,
      by simp [Stops, isBracket], by simp [Stops, isBracket]⟩
  refine ⟨hlines.1, hlines.2, (ofSpec_exact.2.2.1 _ _).2 ?_⟩
  refine ⟨⟨['s', 's', 'h'], [']', 'a', '=', 'b', '['], ['+', '0', '2', '2']⟩, ?_, ?_⟩
  · exact ⟨by decide, by decide, by decide, by decide, by decide, 22, by decide, hport⟩
  · exact ⟨by decide, ⟨_, rfl, hhost⟩, ⟨_, rfl, hport⟩, rfl⟩

/-! ## Hosts of brackets

A text without a host is refused, but one with nothing but brackets for a host is not: they are
dropped after the host was looked at. -/

variable {spec : String} {route : Route}

/-- Something else than brackets stands for the host. -/
def HasHost (spec : String) : Prop :=
  ∃ parts : Parts, parts.Spells spec.toList ∧ ∃ c ∈ parts.host, isBracket c = false

theorem name_ne_empty_of_ofSpec (h : ofSpec spec = .ok route) : route.name ≠ "" := by
  obtain ⟨parts, hparts, hroute⟩ := ofSpec_eq_ok_iff.1 h
  intro hname
  apply hparts.name_ne_nil
  rw [← hroute.name, hname]
  rfl

/-- The host of a route is blank exactly if nothing but brackets stands for it. -/
theorem exists_host_of_ofSpec (h : ofSpec spec = .ok route) :
    ∃ host, route.host = some host ∧ (host ≠ "" ↔ HasHost spec) := by
  obtain ⟨parts, hparts, hroute⟩ := ofSpec_eq_ok_iff.1 h
  obtain ⟨host, hhost, hstrips⟩ := hroute.host
  refine ⟨host, hhost, ?_⟩
  rw [ne_eq, ← String.toList_eq_nil_iff, ← ne_eq, hstrips.ne_nil_iff]
  constructor
  · exact fun hhas => ⟨parts, hparts, hhas⟩
  · rintro ⟨other, hother, hhas⟩
    rwa [hparts.unique hother]

theorem host_ne_blank_iff (h : ofSpec spec = .ok route) : route.host ≠ some "" ↔ HasHost spec := by
  obtain ⟨host, hhost, hiff⟩ := exists_host_of_ofSpec h
  rw [← hiff, hhost, ne_eq, Option.some.injEq]

end Switchboard.Route
