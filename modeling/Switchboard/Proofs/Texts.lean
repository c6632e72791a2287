import Mathlib.Data.List.Basic
import Switchboard.Proofs.Addresses
import Switchboard.Text.Characters
import Switchboard.Text.Split

/-!
# What texts are taken apart into

Settings are read from texts by cutting them at separators, by dropping characters at their ends and
by reading numerals. For each of these there is one result, and it is known by what it is, not by
how it is found.

**Separators.** A text is cut at its first separator if none stands before the cut, at its last one
if none stands behind it, and at each if none is left in the pieces (`splitFirst_eq_some_iff`,
`splitLast_eq_some_iff`, `pieces_intercalate`).

**Ends** (`Strips`). What is left when both ends are cleared of some characters is what has other
characters, or nothing, at its ends, with only such characters around it (`strip_eq_iff`).

**Numerals** (`IsNumeral`). An optional plus sign and digits, of any number
(`natural?_eq_some_iff`).

**Lists** (`Holds`). Pieces of a list are blank or hold one item with blanks around it; what they
hold is what is left of them without the blanks (`Holds.contents_eq`).
-/

namespace Switchboard.Text

/-! ## Separators -/

section Separators

variable {sep : Char} {text before after : List Char}

theorem splitFirst_eq_some_iff :
    splitFirst sep text = some (before, after) ↔ text = before ++ sep :: after ∧ sep ∉ before := by
  constructor
  · exact splitFirst_eq_some
  · rintro ⟨rfl, h⟩
    exact splitFirst_append h after

theorem splitLast_eq_some (h : splitLast sep text = some (before, after)) :
    text = before ++ sep :: after ∧ sep ∉ after := by
  induction text generalizing before with
  | nil => simp [splitLast] at h
  | cons c rest ih =>
    rw [splitLast] at h
    cases hrest : splitLast sep rest with
    | some parts =>
      simp only [hrest, Option.some.injEq, Prod.mk.injEq] at h
      obtain ⟨rfl, rfl⟩ := h
      obtain ⟨hcut, hafter⟩ := ih hrest
      exact ⟨by simp [hcut], hafter⟩
    | none =>
      simp only [hrest] at h
      by_cases hc : c = sep
      · simp only [hc, if_true, Option.some.injEq, Prod.mk.injEq] at h
        obtain ⟨rfl, rfl⟩ := h
        exact ⟨by simp [hc], splitLast_eq_none_iff.1 hrest⟩
      · simp [hc] at h

theorem splitLast_eq_some_iff :
    splitLast sep text = some (before, after) ↔ text = before ++ sep :: after ∧ sep ∉ after := by
  constructor
  · exact splitLast_eq_some
  · rintro ⟨rfl, h⟩
    exact splitLast_append before h

theorem pieces_ne_nil (sep : Char) (text : List Char) : pieces sep text ≠ [] := by
  cases text with
  | nil => simp [pieces]
  | cons c rest =>
    rw [pieces]
    split
    · simp
    · cases pieces sep rest <;> simp

theorem pieces_append (h : sep ∉ before) (after : List Char) :
    pieces sep (before ++ sep :: after) = before :: pieces sep after := by
  induction before with
  | nil => simp [pieces]
  | cons c rest ih =>
    simp only [List.mem_cons, not_or] at h
    simp [pieces, Ne.symm h.1, ih h.2]

theorem pieces_of_notMem (h : sep ∉ text) : pieces sep text = [text] := by
  induction text with
  | nil => rfl
  | cons c rest ih =>
    simp only [List.mem_cons, not_or] at h
    simp [pieces, Ne.symm h.1, ih h.2]

theorem pieces_intercalate {parts : List (List Char)} (hne : parts ≠ [])
    (h : ∀ part ∈ parts, sep ∉ part) : pieces sep ([sep].intercalate parts) = parts := by
  induction parts with
  | nil => exact absurd rfl hne
  | cons part parts ih =>
    have hpart : sep ∉ part := h part List.mem_cons_self
    cases parts with
    | nil => rw [List.intercalate_singleton, pieces_of_notMem hpart]
    | cons next more =>
      have hrest := ih (by simp) fun other hother => h other (List.mem_cons_of_mem _ hother)
      rw [List.intercalate_cons_cons, List.append_assoc, List.singleton_append,
        pieces_append hpart, hrest]

theorem intercalate_pieces (sep : Char) (text : List Char) :
    [sep].intercalate (pieces sep text) = text := by
  induction text with
  | nil => rfl
  | cons c rest ih =>
    rw [pieces]
    cases hrest : pieces sep rest with
    | nil => exact absurd hrest (pieces_ne_nil sep rest)
    | cons piece more =>
      rw [hrest] at ih
      by_cases hc : c = sep
      · simp [hc, List.intercalate_cons_cons, ih]
      · simp [hc, ih]

theorem notMem_of_mem_pieces : ∀ piece ∈ pieces sep text, sep ∉ piece := by
  induction text with
  | nil => simp [pieces]
  | cons c rest ih =>
    rw [pieces]
    cases hrest : pieces sep rest with
    | nil => exact absurd hrest (pieces_ne_nil sep rest)
    | cons piece more =>
      rw [hrest] at ih
      by_cases hc : c = sep
      · simpa [hc] using ih
      · simpa [hc, Ne.symm hc] using ih

end Separators

/-! ## Ends -/

section Ends

variable {drop : Char → Bool} {text inner : List Char}

/-- Characters to drop stand around the inner text, and none of them at its ends. -/
structure Strips (drop : Char → Bool) (text inner : List Char) : Prop where
  around : ∃ before after, text = before ++ inner ++ after ∧ (∀ c ∈ before, drop c = true) ∧
    ∀ c ∈ after, drop c = true
  first : Stops drop inner
  last : Stops drop inner.reverse

theorem Strips.strip_eq (h : Strips drop text inner) : strip drop text = inner := by
  obtain ⟨⟨before, after, rfl, hbefore, hafter⟩, hfirst, hlast⟩ := h
  by_cases hempty : inner = []
  · have hall : ∀ c ∈ before ++ inner ++ after, drop c = true := by
      intro c hc
      simp only [hempty, List.append_nil, List.mem_append] at hc
      exact hc.elim (hbefore c) (hafter c)
    rw [strip, List.dropWhile_eq_nil_iff.2 hall, hempty]
    rfl
  · have hstops : Stops drop (inner ++ after) := by
      intro c hc
      rw [List.head?_append_of_ne_nil _ hempty] at hc
      exact hfirst c hc
    rw [strip, List.append_assoc, hstops.dropWhile_append hbefore, List.reverse_append,
      hlast.dropWhile_append (by simpa using hafter), List.reverse_reverse]

theorem stops_dropWhile (drop : Char → Bool) (text : List Char) :
    Stops drop (text.dropWhile drop) := by
  intro c hc
  have hnot := List.head?_dropWhile_not drop text
  rw [hc] at hnot
  exact hnot

/-- What begins like a text in which one may not go on does so too. -/
theorem Stops.of_append {rest : List Char} (h : Stops drop (inner ++ rest)) : Stops drop inner := by
  intro c hc
  exact h c (by rw [List.head?_append, hc]; rfl)

theorem strips_strip (drop : Char → Bool) (text : List Char) :
    Strips drop text (strip drop text) := by
  have hfront := List.takeWhile_append_dropWhile (p := drop) (l := text)
  have hback := List.takeWhile_append_dropWhile (p := drop) (l := (text.dropWhile drop).reverse)
  have hrest : text.dropWhile drop =
      strip drop text ++ ((text.dropWhile drop).reverse.takeWhile drop).reverse := by
    rw [strip, ← List.reverse_append, hback, List.reverse_reverse]
  refine ⟨⟨text.takeWhile drop, ((text.dropWhile drop).reverse.takeWhile drop).reverse, ?_, ?_, ?_⟩,
    ?_, ?_⟩
  · rw [List.append_assoc, ← hrest, hfront]
  · exact fun c hc => List.mem_takeWhile_imp hc
  · exact fun c hc => List.mem_takeWhile_imp (List.mem_reverse.1 hc)
  · exact Stops.of_append (hrest ▸ stops_dropWhile drop text)
  · rw [strip, List.reverse_reverse]
    exact stops_dropWhile drop _

theorem strip_eq_iff : strip drop text = inner ↔ Strips drop text inner := by
  constructor
  · rintro rfl
    exact strips_strip drop text
  · exact Strips.strip_eq

/-- Something is left exactly if not all is dropped. -/
theorem Strips.ne_nil_iff (h : Strips drop text inner) :
    inner ≠ [] ↔ ∃ c ∈ text, drop c = false := by
  obtain ⟨⟨before, after, rfl, hbefore, hafter⟩, hfirst, -⟩ := h
  constructor
  · intro hne
    obtain ⟨c, rest, rfl⟩ := List.exists_cons_of_ne_nil hne
    exact ⟨c, by simp, hfirst c rfl⟩
  · rintro ⟨c, hc, hkept⟩ rfl
    rw [List.append_nil, List.mem_append] at hc
    rcases hc with hc | hc
    · simp [hbefore c hc] at hkept
    · simp [hafter c hc] at hkept

end Ends

/-! ## Numerals -/

/-- Decimal digits, perhaps behind a plus sign, and the number they spell. -/
def IsNumeral (text : List Char) (n : Nat) : Prop :=
  ∃ digits, (text = digits ∨ text = '+' :: digits) ∧ digits ≠ [] ∧
    (∀ c ∈ digits, c.isDigit = true) ∧ Nat.ofDigitChars 10 digits 0 = n

theorem digit?_eq (c : Char) :
    digit? c = if c.isDigit then some (c.toNat - '0'.toNat) else none := by
  simp only [digit?, Char.isDigit, Bool.and_eq_true, decide_eq_true_eq]
  rfl

theorem foldlM_digit?_eq_some_iff {digits : List Char} {start n : Nat} :
    digits.foldlM (fun n c => (digit? c).map (10 * n + ·)) start = some n ↔
      (∀ c ∈ digits, c.isDigit = true) ∧ Nat.ofDigitChars 10 digits start = n := by
  induction digits generalizing start with
  | nil => simp [Nat.ofDigitChars]
  | cons c rest ih =>
    rw [List.foldlM_cons, digit?_eq, List.forall_mem_cons, Nat.ofDigitChars_cons]
    by_cases hc : c.isDigit = true
    · simp [hc, ih]
    · simp [hc]

theorem digits?_eq_some_iff {digits : List Char} {n : Nat} :
    digits? digits = some n ↔ digits ≠ [] ∧ (∀ c ∈ digits, c.isDigit = true) ∧
      Nat.ofDigitChars 10 digits 0 = n := by
  cases digits with
  | nil => simp [digits?]
  | cons c rest =>
    rw [digits?, positional?, foldlM_digit?_eq_some_iff]
    simp

theorem natural?_plus (limit : Nat) (rest : List Char) :
    natural? limit ('+' :: rest) = (digits? rest).filter (· ≤ limit) := rfl

theorem natural?_of_no_plus {text : List Char} (h : text.head? ≠ some '+') (limit : Nat) :
    natural? limit text = (digits? text).filter (· ≤ limit) := by
  rw [natural?]
  rintro rest rfl
  exact h rfl

theorem natural?_eq_some_iff {limit n : Nat} {text : List Char} :
    natural? limit text = some n ↔ IsNumeral text n ∧ n ≤ limit := by
  have hfilter : ∀ digits, (digits? digits).filter (· ≤ limit) = some n ↔
      (digits ≠ [] ∧ (∀ c ∈ digits, c.isDigit = true) ∧ Nat.ofDigitChars 10 digits 0 = n) ∧
        n ≤ limit := by
    intro digits
    rw [Option.filter_eq_some_iff, decide_eq_true_eq, digits?_eq_some_iff]
  constructor
  · intro h
    -- A leading plus sign is dropped once, so it is set apart from the digits.
    by_cases hplus : text.head? = some '+'
    · obtain ⟨rest, rfl⟩ := List.head?_eq_some_iff.1 hplus
      rw [natural?_plus, hfilter] at h
      exact ⟨⟨rest, .inr rfl, h.1⟩, h.2⟩
    · rw [natural?_of_no_plus hplus, hfilter] at h
      exact ⟨⟨text, .inl rfl, h.1⟩, h.2⟩
  · rintro ⟨⟨digits, rfl | rfl, hdigits⟩, hle⟩
    · have hplus : text.head? ≠ some '+' := by
        intro hhead
        exact absurd (hdigits.2.1 '+' (List.mem_of_mem_head? hhead)) (by decide)
      rw [natural?_of_no_plus hplus, hfilter]
      exact ⟨hdigits, hle⟩
    · rw [natural?_plus, hfilter]
      exact ⟨hdigits, hle⟩

theorem isNumeral_toDigits (n : Nat) : IsNumeral (Nat.toDigits 10 n) n := by
  refine ⟨_, .inl rfl, Nat.toDigits_ne_nil, fun c hc => ?_, ?_⟩
  · exact Nat.isDigit_of_mem_toDigits (by decide) (by decide) hc
  · exact Nat.ofDigitChars_toDigits (by decide) (by decide)

/-! ## Lists -/

/-- A text that can stand in a list: not blank, with no blanks at its ends and no comma. -/
structure IsItem (item : List Char) : Prop where
  ne_nil : item ≠ []
  first : Stops isBlank item
  last : Stops isBlank item.reverse
  comma_notMem : ',' ∉ item

/-- Pieces hold items, in order and with blanks around them; the other pieces are blank. -/
inductive Holds : List (List Char) → List (List Char) → Prop
  | nil : Holds [] []
  | blank {piece : List Char} {pieces items : List (List Char)} :
      (∀ c ∈ piece, isBlank c = true) → Holds pieces items → Holds (piece :: pieces) items
  | item {before item after : List Char} {pieces items : List (List Char)} :
      (∀ c ∈ before, isBlank c = true) → (∀ c ∈ after, isBlank c = true) → Holds pieces items →
      Holds ((before ++ item ++ after) :: pieces) (item :: items)

variable {text : List Char} {pieces items : List (List Char)}

theorem comma_notMem_of_blank (h : ∀ c ∈ text, isBlank c = true) : ',' ∉ text := by
  intro hmem
  exact absurd (h ',' hmem) (by decide)

theorem trim_eq_nil_iff : trim text = [] ↔ ∀ c ∈ text, isBlank c = true := by
  constructor
  · intro h
    obtain ⟨⟨before, after, rfl, hbefore, hafter⟩, -, -⟩ := strip_eq_iff.1 h
    intro c hc
    simp only [List.append_nil, List.mem_append] at hc
    exact hc.elim (hbefore c) (hafter c)
  · intro h
    exact strip_eq_iff.2 ⟨⟨text, [], by simp, h, by simp⟩, stops_nil _, stops_nil _⟩

theorem isItem_trim (hblank : trim text ≠ []) (hcomma : ',' ∉ text) : IsItem (trim text) := by
  obtain ⟨⟨before, after, htext, -, -⟩, hfirst, hlast⟩ := strips_strip isBlank text
  refine ⟨hblank, hfirst, hlast, fun hmem => hcomma ?_⟩
  rw [htext]
  simp only [List.mem_append]
  exact .inl (.inr hmem)

/-- What is left of pieces that are not blank. -/
def contents (pieces : List (List Char)) : List (List Char) :=
  (pieces.map trim).filter (!·.isEmpty)

theorem contents_blank {piece : List Char} (h : trim piece = []) (pieces : List (List Char)) :
    contents (piece :: pieces) = contents pieces := by
  rw [contents, List.map_cons, h]
  rfl

theorem contents_item {piece item : List Char} (h : trim piece = item) (hne : item ≠ [])
    (pieces : List (List Char)) : contents (piece :: pieces) = item :: contents pieces := by
  rw [contents, List.map_cons, h, List.filter_cons_of_pos (by simpa using hne)]
  rfl

theorem holds_contents (pieces : List (List Char)) : Holds pieces (contents pieces) := by
  induction pieces with
  | nil => exact .nil
  | cons piece pieces ih =>
    by_cases hblank : trim piece = []
    · rw [contents_blank hblank]
      exact .blank (trim_eq_nil_iff.1 hblank) ih
    · obtain ⟨⟨before, after, hpiece, hbefore, hafter⟩, -, -⟩ := strips_strip isBlank piece
      have hholds : Holds ((before ++ trim piece ++ after) :: pieces)
          (trim piece :: contents pieces) := .item hbefore hafter ih
      rw [contents_item rfl hblank]
      rwa [trim, ← hpiece] at hholds

theorem Holds.contents_eq (h : Holds pieces items) (hitems : ∀ item ∈ items, IsItem item) :
    contents pieces = items := by
  induction h with
  | nil => rfl
  | blank hblank _ ih => rw [contents_blank (trim_eq_nil_iff.2 hblank), ih hitems]
  | item hbefore hafter _ ih =>
    obtain ⟨hitem, hitems⟩ := List.forall_mem_cons.1 hitems
    have htrim := Strips.strip_eq ⟨⟨_, _, rfl, hbefore, hafter⟩, hitem.first, hitem.last⟩
    rw [contents_item htrim hitem.ne_nil, ih hitems]

theorem Holds.comma_notMem (h : Holds pieces items) (hitems : ∀ item ∈ items, IsItem item) :
    ∀ piece ∈ pieces, ',' ∉ piece := by
  induction h with
  | nil => exact List.forall_mem_nil _
  | blank hblank _ ih =>
    exact List.forall_mem_cons.2 ⟨comma_notMem_of_blank hblank, ih hitems⟩
  | item hbefore hafter _ ih =>
    obtain ⟨hitem, hitems⟩ := List.forall_mem_cons.1 hitems
    refine List.forall_mem_cons.2 ⟨?_, ih hitems⟩
    simp only [List.mem_append, not_or]
    exact ⟨⟨comma_notMem_of_blank hbefore, hitem.comma_notMem⟩, comma_notMem_of_blank hafter⟩

end Switchboard.Text
