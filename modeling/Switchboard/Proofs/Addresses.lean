import Mathlib.Data.List.Basic
import Mathlib.Data.List.TakeWhile
import Switchboard.Net.Address

/-!
# Addresses and their texts

The text of an address is read back as that address. The three forms of an IPv6 address are read by
one reader, which stops where the groups of digits do and tries an IPv4 address before each of them.

**Numerals.** The digits of a number spell it, in each base, and a reader of digits takes all of
them and nothing more (`Text.positional?_toDigits`).

**Groups.** What follows the groups of a text is its end or the two colons that leave zeros out
(`Ipv6.Closes`); the reader stops there, however many groups it may still read
(`Ipv6.readGroups_joined`).

**Zeros.** The run that is left out is one of zeros, so reading fills it in
(`Ipv6.longestRun_spec`).

Main result: `Address.parse?_text`.
-/

namespace Switchboard

/-! ## Numerals -/

namespace Text

section Digits

variable {digitValue : Char → Option Nat} {base : Nat}

theorem positional?_append (digits : List Char) (c : Char) :
    positional? digitValue base (digits ++ [c]) =
      (positional? digitValue base digits).bind fun n => (digitValue c).map (base * n + ·) := by
  simp [positional?, List.foldlM_append]

/-- The digits of a number spell that number. -/
theorem positional?_toDigits (hbase : 1 < base)
    (hdigit : ∀ d < base, digitValue d.digitChar = some d) (n : Nat) :
    positional? digitValue base (Nat.toDigits base n) = some n := by
  induction n using Nat.strongRecOn with
  | ind n ih =>
    by_cases hn : n < base
    · rw [Nat.toDigits_of_lt_base hn]
      simp [positional?, hdigit n hn]
    · have hle : base ≤ n := Nat.le_of_not_lt hn
      have hlt : n / base < n := Nat.div_lt_self (by omega) hbase
      rw [Nat.toDigits_of_base_le hbase hle, positional?_append, ih _ hlt,
        hdigit _ (Nat.mod_lt _ (by omega))]
      simp [Nat.div_add_mod]

theorem mem_toDigits {c : Char} (hbase : 1 < base) {n : Nat} (h : c ∈ Nat.toDigits base n) :
    ∃ d < base, c = d.digitChar := by
  induction n using Nat.strongRecOn with
  | ind n ih =>
    by_cases hn : n < base
    · rw [Nat.toDigits_of_lt_base hn] at h
      exact ⟨n, hn, List.mem_singleton.1 h⟩
    · have hle : base ≤ n := Nat.le_of_not_lt hn
      rw [Nat.toDigits_of_base_le hbase hle, List.mem_append] at h
      rcases h with h | h
      · exact ih _ (Nat.div_lt_self (by omega) hbase) h
      · exact ⟨n % base, Nat.mod_lt _ (by omega), List.mem_singleton.1 h⟩

/-- Only zero begins with the digit zero. -/
theorem head?_toDigits (hbase : 1 < base) {n : Nat} (h : (Nat.toDigits base n).head? = some '0') :
    n = 0 := by
  induction n using Nat.strongRecOn with
  | ind n ih =>
    by_cases hn : n < base
    · rw [Nat.toDigits_of_lt_base hn] at h
      simpa using h
    · have hle : base ≤ n := Nat.le_of_not_lt hn
      rw [Nat.toDigits_of_base_le hbase hle, List.head?_append_of_ne_nil _ Nat.toDigits_ne_nil] at h
      have hzero := ih _ (Nat.div_lt_self (by omega) hbase) h
      have hpos : 0 < n / base := Nat.div_pos hle (by omega)
      omega

end Digits

theorem digit?_digitChar : ∀ d < 10, digit? d.digitChar = some d := by decide

theorem hexDigit?_digitChar : ∀ d < 16, hexDigit? d.digitChar = some d := by decide

/-- What follows does not begin with such a character. -/
def Stops (p : Char → Bool) (rest : List Char) : Prop := ∀ c ∈ rest.head?, p c = false

theorem stops_nil (p : Char → Bool) : Stops p [] := by
  simp [Stops]

theorem Stops.takeWhile {p : Char → Bool} {rest : List Char} (h : Stops p rest) :
    rest.takeWhile p = [] := by
  cases rest with
  | nil => rfl
  | cons c rest => simp [h c rfl]

theorem Stops.dropWhile {p : Char → Bool} {rest : List Char} (h : Stops p rest) :
    rest.dropWhile p = rest := by
  cases rest with
  | nil => rfl
  | cons c rest => simp [h c rfl]

theorem Stops.takeWhile_append {p : Char → Bool} {taken rest : List Char} (h : Stops p rest)
    (htaken : ∀ c ∈ taken, p c = true) : (taken ++ rest).takeWhile p = taken := by
  rw [List.takeWhile_append_of_pos htaken, h.takeWhile, List.append_nil]

theorem Stops.dropWhile_append {p : Char → Bool} {taken rest : List Char} (h : Stops p rest)
    (htaken : ∀ c ∈ taken, p c = true) : (taken ++ rest).dropWhile p = rest := by
  rw [List.dropWhile_append_of_pos htaken, h.dropWhile]

end Text

theorem digits?_decimalText (n : Nat) : Text.digits? (decimalText n) = some n := by
  have h := Text.positional?_toDigits (by decide) Text.digit?_digitChar n
  rw [decimalText]
  cases hd : Nat.toDigits 10 n with
  | nil => exact absurd hd Nat.toDigits_ne_nil
  | cons c rest => rw [Text.digits?, ← hd, h]

theorem isDecimalDigit_of_mem {n : Nat} : ∀ c ∈ decimalText n, isDecimalDigit c = true := by
  intro c hc
  obtain ⟨d, hd, rfl⟩ := Text.mem_toDigits (by decide) hc
  rw [isDecimalDigit, Text.digit?_digitChar d hd]
  rfl

theorem isHexDigit_of_mem {n : Nat} : ∀ c ∈ Nat.toDigits 16 n, isHexDigit c = true := by
  intro c hc
  obtain ⟨d, hd, rfl⟩ := Text.mem_toDigits (by decide) hc
  rw [isHexDigit, Text.hexDigit?_digitChar d hd]
  rfl

/-! ## IPv4 -/

namespace Ipv4

theorem octet?_text (n : UInt8) {rest : List Char} (h : Text.Stops isDecimalDigit rest) :
    octet? (decimalText n.toNat ++ rest) = some (n, rest) := by
  have hlt : n.toNat < 256 := n.toNat_lt
  have hlength : (decimalText n.toNat).length ≤ 3 :=
    (Nat.length_toDigits_le_iff (by decide) (by decide)).2 (by omega)
  have hzeros : ¬ ((decimalText n.toNat).head? = some '0' ∧ 1 < (decimalText n.toNat).length) := by
    intro ⟨hhead, hlong⟩
    rw [decimalText, Text.head?_toDigits (by decide) hhead, Nat.toDigits_zero] at hlong
    simp at hlong
  rw [octet?, h.takeWhile_append isDecimalDigit_of_mem, h.dropWhile_append isDecimalDigit_of_mem]
  simp only [hlength, hzeros, not_false_eq_true, and_self, if_true, digits?_decimalText]
  rw [Option.filter_some, if_pos (by simpa [UInt8.size] using hlt)]
  simp

theorem stops_point (rest : List Char) : Text.Stops isDecimalDigit ('.' :: rest) := by
  intro c hc
  cases hc
  rfl

theorem read?_text (ip : Ipv4) {rest : List Char} (h : Text.Stops isDecimalDigit rest) :
    read? (ip.text ++ rest) = some (ip, rest) := by
  simp only [read?, text, List.append_assoc, List.cons_append, octet?_text _ (stops_point _),
    octet?_text _ h, pointOctet?, bind, Option.bind_some, pure]

/-- There is no IPv4 address where the digits at the head are not followed by a point. -/
theorem read?_eq_none {text : List Char} (h : (text.dropWhile isDecimalDigit).head? ≠ some '.') :
    read? text = none := by
  rw [read?, octet?]
  split
  · split
    · generalize text.dropWhile isDecimalDigit = rest at h
      have hnone : pointOctet? rest = none := by
        cases rest with
        | nil => rfl
        | cons c rest =>
          rw [pointOctet?]
          rintro text ⟨⟩
          exact h rfl
      simp only [bind, Option.bind_some, hnone, Option.bind_none]
    · rfl
  · rfl

/-- The two groups that hold an address hold that address only. -/
theorem groups_ofGroups (high low : UInt16) : (ofGroups high low).groups = [high, low] := by
  have hhigh : high.toNat < 65536 := high.toNat_lt
  have hlow : low.toNat < 65536 := low.toNat_lt
  simp only [ofGroups, groups, List.cons.injEq, and_true]
  refine ⟨UInt16.toNat.inj ?_, UInt16.toNat.inj ?_⟩
  · simp; omega
  · simp; omega

end Ipv4

/-! ## IPv6 -/

namespace Ipv6

theorem group?_text (g : UInt16) {rest : List Char} (h : Text.Stops isHexDigit rest) :
    group? (Nat.toDigits 16 g.toNat ++ rest) = some (g, rest) := by
  have hlt : g.toNat < 65536 := g.toNat_lt
  have hlength : (Nat.toDigits 16 g.toNat).length ≤ 4 :=
    (Nat.length_toDigits_le_iff (by decide) (by decide)).2 (by omega)
  rw [group?, h.takeWhile_append isHexDigit_of_mem, h.dropWhile_append isHexDigit_of_mem,
    Text.positional?_toDigits (by decide) Text.hexDigit?_digitChar]
  simp [Nat.not_lt.2 hlength, Nat.toDigits_ne_nil]

/-- Nothing, or a colon and what is behind it. -/
def AtColon (text : List Char) : Prop := ∀ c ∈ text.head?, c = ':'

theorem AtColon.stops {text : List Char} (h : AtColon text) {p : Char → Bool} (hp : p ':' = false) :
    Text.Stops p text := by
  intro c hc
  rw [h c hc, hp]

theorem AtColon.group? {text : List Char} (h : AtColon text) : group? text = none := by
  have htake : text.takeWhile isHexDigit = [] := (h.stops rfl).takeWhile
  simp [Ipv6.group?, htake]

/-- An IPv4 address begins with digits and a point; a group is followed by a colon. -/
theorem AtColon.read? {text : List Char} (h : AtColon text) {digits : List Char}
    (hdigits : '.' ∉ digits) : Ipv4.read? (digits ++ text) = none := by
  apply Ipv4.read?_eq_none
  rw [List.dropWhile_append]
  by_cases hdrop : digits.dropWhile isDecimalDigit = []
  · rw [hdrop, List.isEmpty_nil, if_pos rfl, (h.stops rfl).dropWhile]
    intro hpoint
    exact absurd (h '.' hpoint) (by decide)
  · rw [if_neg (by simpa using hdrop), List.head?_append_of_ne_nil _ hdrop]
    intro hpoint
    exact hdigits ((List.dropWhile_suffix _).subset (List.mem_of_mem_head? hpoint))

/-- What can follow the groups of a text: nothing, or the two colons that leave zeros out. -/
inductive Closes : List Char → Prop
  | nil : Closes []
  | colons (rest : List Char) : Closes (':' :: ':' :: rest)

theorem Closes.atColon {rest : List Char} (h : Closes rest) : AtColon rest := by
  cases h <;> simp [AtColon]

/-- The reader of groups stops there. -/
theorem Closes.readGroups {rest : List Char} (h : Closes rest) (limit : Nat) (first : Bool) :
    readGroups limit first rest = ([], false, rest) := by
  cases limit with
  | zero => rfl
  | succ limit =>
    rw [Ipv6.readGroups]
    cases hpast : pastColon? first rest with
    | none => rfl
    | some here =>
      have hhere : AtColon here := by
        cases first <;> cases h <;> cases hpast <;> simp [AtColon]
      have hnone : Ipv4.read? here = none := hhere.read? List.not_mem_nil
      simp only [hnone, ite_self, hhere.group?]

/-- Groups, each behind its colon. -/
def behind (groups : List UInt16) : List Char :=
  groups.flatMap fun g => ':' :: Nat.toDigits 16 g.toNat

theorem joined_cons (g : UInt16) (groups : List UInt16) :
    joined (g :: groups) = Nat.toDigits 16 g.toNat ++ behind groups := by
  induction groups generalizing g with
  | nil => simp [joined, behind]
  | cons g' groups ih => simp [joined, behind, ih g']

theorem atColon_behind (groups : List UInt16) {rest : List Char} (h : AtColon rest) :
    AtColon (behind groups ++ rest) := by
  cases groups with
  | nil => simpa [behind] using h
  | cons g groups => simp [AtColon, behind]

theorem point_notMem_group (g : UInt16) : '.' ∉ Nat.toDigits 16 g.toNat := by
  intro hmem
  exact absurd (isHexDigit_of_mem _ hmem) (by decide)

/-- One group is read, whatever is behind its colon. -/
theorem readGroups_group {limit : Nat} {first : Bool} {text rest : List Char} {g : UInt16}
    (hpast : pastColon? first text = some (Nat.toDigits 16 g.toNat ++ rest)) (h : AtColon rest) :
    readGroups (limit + 1) first text =
      (g :: (readGroups limit false rest).1, (readGroups limit false rest).2) := by
  have hnone := h.read? (point_notMem_group g)
  rw [readGroups, hpast]
  simp only [hnone, ite_self, group?_text g (h.stops rfl)]

theorem readGroups_behind {groups : List UInt16} {limit : Nat} {rest : List Char}
    (hlimit : groups.length ≤ limit) (h : Closes rest) :
    readGroups limit false (behind groups ++ rest) = (groups, false, rest) := by
  induction groups generalizing limit with
  | nil => exact h.readGroups limit false
  | cons g groups ih =>
    cases limit with
    | zero => simp at hlimit
    | succ limit =>
      have hpast : pastColon? false (behind (g :: groups) ++ rest) =
          some (Nat.toDigits 16 g.toNat ++ (behind groups ++ rest)) := by
        simp [pastColon?, behind]
      rw [readGroups_group hpast (atColon_behind groups h.atColon),
        ih (by simpa using hlimit)]

/-- Groups between colons are read up to what closes them. -/
theorem readGroups_joined {groups : List UInt16} {limit : Nat} {rest : List Char}
    (hlimit : groups.length ≤ limit) (h : Closes rest) :
    readGroups limit true (joined groups ++ rest) = (groups, false, rest) := by
  cases groups with
  | nil => exact h.readGroups limit true
  | cons g groups =>
    cases limit with
    | zero => simp at hlimit
    | succ limit =>
      have hpast : pastColon? true (joined (g :: groups) ++ rest) =
          some (Nat.toDigits 16 g.toNat ++ (behind groups ++ rest)) := by
        simp [pastColon?, joined_cons]
      rw [readGroups_group hpast (atColon_behind groups h.atColon),
        readGroups_behind (by simpa using hlimit) h]

/-- An IPv4 address may stand for the last two groups. -/
theorem readGroups_mixed (ip : Ipv4) {limit : Nat} (hlimit : 0 < limit) :
    readGroups (limit + 1) false (':' :: ip.text) = (ip.groups, true, []) := by
  have hread := ip.read?_text (Text.stops_nil isDecimalDigit)
  rw [List.append_nil] at hread
  rw [readGroups]
  simp only [pastColon?, Bool.false_eq_true, if_false, hlimit, if_true, hread]

/-! ### The zeros that are left out -/

theorem takeWhile_eq_replicate (groups : List UInt16) :
    groups.takeWhile (· = 0) = List.replicate (zeroRun groups) 0 := by
  rw [zeroRun, List.eq_replicate_iff]
  refine ⟨rfl, fun g hg => ?_⟩
  simpa using List.mem_takeWhile_imp hg

/-- The longest run is a run of zeros, and begins where it is said to. -/
theorem longestRun_spec (groups : List UInt16) (start : Nat) :
    ∃ before after,
      groups = before ++ List.replicate (longestRun start groups).2 0 ++ after ∧
        (longestRun start groups).1 = start + before.length := by
  induction groups generalizing start with
  | nil => exact ⟨[], [], rfl, rfl⟩
  | cons g groups ih =>
    rw [longestRun]
    split
    · refine ⟨[], (g :: groups).dropWhile (· = 0), ?_, rfl⟩
      rw [List.nil_append, ← takeWhile_eq_replicate, List.takeWhile_append_dropWhile]
    · obtain ⟨before, after, hgroups, hstart⟩ := ih (start + 1)
      refine ⟨g :: before, after, ?_, ?_⟩
      · simpa using hgroups
      · rw [hstart, List.length_cons]
        omega

/-! ### The three forms -/

/-- The texts of groups. -/
inductive Form : List UInt16 → List Char → Prop
  | mapped (high low : UInt16) :
      Form [0, 0, 0, 0, 0, 0xffff, high, low]
        ([':', ':', 'f', 'f', 'f', 'f', ':'] ++ (Ipv4.ofGroups high low).text)
  | whole (groups : List UInt16) : Form groups (joined groups)
  | shortened {before after : List UInt16} {zeros : Nat} : 0 < zeros →
      Form (before ++ List.replicate zeros 0 ++ after) (joined before ++ [':', ':'] ++ joined after)

theorem form_text (ip : Ipv6) : Form ip.groups ip.text := by
  obtain ⟨groups, hlength⟩ := ip
  rw [text]
  split
  · rename_i high low hgroups
    subst hgroups
    exact .mapped high low
  · obtain ⟨before, after, hgroups, hstart⟩ := longestRun_spec groups 0
    cases hrun : longestRun 0 groups with
    | mk start zeros =>
      simp only [hrun, Nat.zero_add] at hgroups hstart
      by_cases hshort : zeros < 2
      · simp only [hshort, if_true]
        exact .whole groups
      · -- The run cut out of the middle leaves the groups before and after it.
        have htake : groups.take start = before := by
          rw [hgroups, hstart, List.append_assoc, List.take_left]
        have hdrop : groups.drop (start + zeros) = after := by
          rw [hgroups, hstart, List.drop_left' (by simp)]
        simp only [hshort, if_false, htake, hdrop]
        rw [hgroups]
        exact .shortened (by omega)

theorem read?_of_eight {text : List Char} {groups : List UInt16} {mixed : Bool} {rest : List Char}
    (h : readGroups 8 true text = (groups, mixed, rest)) (hlength : groups.length = 8) :
    read? text = some (⟨groups, hlength⟩, rest) := by
  rw [read?, h]
  simp [hlength, ofGroups?]

/-- Two colons fill in the zeros between the groups before them and those after them. -/
theorem read?_of_colons {text inner rest : List Char} {before after : List UInt16} {mixed : Bool}
    {zeros : Nat} (hlength : (before ++ List.replicate zeros 0 ++ after).length = 8)
    (hzeros : 0 < zeros)
    (hbefore : readGroups 8 true text = (before, false, ':' :: ':' :: inner))
    (hafter : readGroups (7 - before.length) true inner = (after, mixed, rest)) :
    read? text = some (⟨before ++ List.replicate zeros 0 ++ after, hlength⟩, rest) := by
  have hsum : before.length + (zeros + after.length) = 8 := by simpa using hlength
  have hfill : 8 - before.length - after.length = zeros := by omega
  rw [read?, hbefore]
  simp only [hafter, hfill, ofGroups?, hlength, dif_pos, Option.map_some, Bool.false_eq_true,
    if_false]
  rw [if_neg (by omega)]

/-- An IPv4 address that is mapped into IPv6. -/
theorem read?_mapped (high low : UInt16) :
    read? ([':', ':', 'f', 'f', 'f', 'f', ':'] ++ (Ipv4.ofGroups high low).text) =
      some (⟨[0, 0, 0, 0, 0, 0xffff, high, low], rfl⟩, []) := by
  let inner := ['f', 'f', 'f', 'f', ':'] ++ (Ipv4.ofGroups high low).text
  have hbefore : readGroups 8 true (':' :: ':' :: inner) = ([], false, ':' :: ':' :: inner) :=
    (Closes.colons inner).readGroups 8 true
  have hpast : pastColon? true inner =
      some (Nat.toDigits 16 (0xffff : UInt16).toNat ++ ':' :: (Ipv4.ofGroups high low).text) := rfl
  have hafter : readGroups 7 true inner = ([0xffff, high, low], true, []) := by
    rw [readGroups_group hpast (by simp [AtColon]), readGroups_mixed _ (by decide),
      Ipv4.groups_ofGroups]
  have hlength : ([] ++ List.replicate 5 0 ++ [0xffff, high, low] : List UInt16).length = 8 := rfl
  exact read?_of_colons hlength (by decide) hbefore hafter

/-- Groups of which a run of zeros is left out. -/
theorem read?_shortened {before after : List UInt16} {zeros : Nat}
    (hlength : (before ++ List.replicate zeros 0 ++ after).length = 8) (hzeros : 0 < zeros) :
    read? (joined before ++ [':', ':'] ++ joined after) =
      some (⟨before ++ List.replicate zeros 0 ++ after, hlength⟩, []) := by
  have hsum : before.length + (zeros + after.length) = 8 := by simpa using hlength
  have hbefore := readGroups_joined (by omega : before.length ≤ 8) (.colons (joined after))
  have hafter := readGroups_joined (by omega : after.length ≤ 7 - before.length) .nil
  rw [List.append_nil] at hafter
  rw [List.append_assoc]
  exact read?_of_colons hlength hzeros hbefore hafter

theorem read?_text (ip : Ipv6) : read? ip.text = some (ip, []) := by
  have hform := ip.form_text
  obtain ⟨groups, hlength⟩ := ip
  generalize text _ = text at hform
  cases hform with
  | mapped high low => exact read?_mapped high low
  | whole =>
    have hall := readGroups_joined (Nat.le_of_eq hlength) .nil
    rw [List.append_nil] at hall
    exact read?_of_eight hall hlength
  | shortened hzeros => exact read?_shortened hlength hzeros

theorem read?_joined (groups : List UInt16) {rest : List Char} (h : AtColon rest) :
    Ipv4.read? (joined groups ++ rest) = none := by
  cases groups with
  | nil => exact h.read? List.not_mem_nil
  | cons g groups =>
    rw [joined_cons, List.append_assoc]
    exact (atColon_behind groups h).read? (point_notMem_group g)

/-- No text of an IPv6 address is taken for one of an IPv4 address. -/
theorem v4_read?_text (ip : Ipv6) : Ipv4.read? ip.text = none := by
  have hform := ip.form_text
  generalize ip.groups = groups, ip.text = text at hform
  cases hform with
  | mapped high low =>
    have hcolon : ∀ rest, AtColon (':' :: rest) := by simp [AtColon]
    exact (hcolon _).read? List.not_mem_nil
  | whole =>
    have hnone := read?_joined groups Closes.nil.atColon
    rwa [List.append_nil] at hnone
  | shortened =>
    rw [List.append_assoc]
    exact read?_joined _ (by simp [AtColon])

end Ipv6

/-! ## Whole texts -/

namespace Address

theorem parse?_text (address : Address) : parse? address.text = some address := by
  cases address with
  | v4 ip =>
    have hread := ip.read?_text (Text.stops_nil isDecimalDigit)
    rw [List.append_nil] at hread
    rw [parse?, text, hread]
  | v6 ip =>
    rw [parse?, text, ip.v4_read?_text, ip.read?_text]

/-! ### Their characters -/

/-- The characters that an address is written with. -/
def isWritten (c : Char) : Bool := isHexDigit c || c == '.' || c == ':'

theorem isWritten_of_mem_decimalText {n : Nat} {c : Char} (h : c ∈ decimalText n) :
    isWritten c = true := by
  obtain ⟨d, hd, rfl⟩ := Text.mem_toDigits (by decide) h
  simp [isWritten, isHexDigit, Text.hexDigit?_digitChar d (by omega)]

theorem isWritten_of_mem_v4 {ip : Ipv4} {c : Char} (h : c ∈ ip.text) : isWritten c = true := by
  simp only [Ipv4.text, List.mem_append, List.mem_cons, or_assoc] at h
  rcases h with h | rfl | h | rfl | h | rfl | h
  all_goals first | rfl | exact isWritten_of_mem_decimalText h

theorem isWritten_of_mem_joined {groups : List UInt16} {c : Char} (h : c ∈ Ipv6.joined groups) :
    isWritten c = true := by
  have hgroup {g : UInt16} (hc : c ∈ Nat.toDigits 16 g.toNat) : isWritten c = true := by
    simp [isWritten, isHexDigit_of_mem c hc]
  cases groups with
  | nil => simp [Ipv6.joined] at h
  | cons g groups =>
    simp only [Ipv6.joined_cons, Ipv6.behind, List.mem_append, List.mem_flatMap, List.mem_cons] at h
    rcases h with h | ⟨g', -, rfl | h⟩
    · exact hgroup h
    · rfl
    · exact hgroup h

theorem isWritten_of_mem_v6 {ip : Ipv6} {c : Char} (h : c ∈ ip.text) : isWritten c = true := by
  have hform := ip.form_text
  generalize ip.groups = groups, ip.text = text at hform h
  cases hform with
  | mapped high low =>
    rcases List.mem_append.1 h with hc | hc
    · simp only [List.mem_cons, List.not_mem_nil, or_false] at hc
      rcases hc with rfl | rfl | rfl | rfl | rfl | rfl | rfl <;> rfl
    · exact isWritten_of_mem_v4 hc
  | whole => exact isWritten_of_mem_joined h
  | shortened =>
    rw [List.mem_append, List.mem_append] at h
    rcases h with (h | h) | h
    · exact isWritten_of_mem_joined h
    · simp only [List.mem_cons, List.not_mem_nil, or_false] at h
      rcases h with rfl | rfl <;> rfl
    · exact isWritten_of_mem_joined h

theorem isWritten_of_mem {address : Address} {c : Char} (h : c ∈ address.text) :
    isWritten c = true := by
  cases address with
  | v4 ip => exact isWritten_of_mem_v4 h
  | v6 ip => exact isWritten_of_mem_v6 h

end Address

end Switchboard
