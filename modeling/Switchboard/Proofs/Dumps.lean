import Mathlib.Data.List.Forall2
import Switchboard.Hexdump
import Switchboard.Proofs.Texts
import Switchboard.Proofs.Utf8

/-!
# Dumps can be read back

A dump is written to the log, so nothing a client sends may show there as anything but a plain
character, and nothing of it may be lost.

**Rows.** The stream is cut after every sixteenth byte, so the row at a place is known by its
offset (`getElem?_rows`).

**Lines** (`Parts`). A line is put together from its offset, sixteen cells of three characters and a
character for each byte. Each part is said in full in `Parts.Shows`.

**Reading** (`read?`). A reader that looks at the cells only, and knows nothing of how many bytes
were dumped, finds the stream again.

Main result: `render_lossless`.
-/

namespace Switchboard.Hexdump

/-! ## Rows -/

section Rows

variable {data : Bytes}

theorem rows_of_ne_nil (h : data ≠ []) :
    rows data = data.take columns :: rows (data.drop columns) := by
  cases data with
  | nil => exact absurd rfl h
  | cons b rest =>
    rw [rows]
    rfl

theorem length_rows (data : Bytes) : (rows data).length = (data.length + 15) / 16 := by
  fun_induction rows data with
  | case1 => rfl
  | case2 b rest ih =>
    rw [List.length_cons, ih, List.length_drop, List.length_cons]
    omega

theorem flatten_rows (data : Bytes) : (rows data).flatten = data := by
  fun_induction rows data with
  | case1 => rfl
  | case2 b rest ih => rw [List.flatten_cons, ih, List.cons_append, List.take_append_drop]

theorem getElem?_rows {k : Nat} (h : k < (rows data).length) :
    (rows data)[k]? = some ((data.drop (columns * k)).take columns) := by
  induction k generalizing data with
  | zero =>
    have hne : data ≠ [] := by
      rintro rfl
      simp [rows] at h
    rw [rows_of_ne_nil hne]
    rfl
  | succ k ih =>
    have hne : data ≠ [] := by
      rintro rfl
      simp [rows] at h
    rw [rows_of_ne_nil hne] at h ⊢
    rw [List.getElem?_cons_succ, ih (Nat.lt_of_succ_lt_succ h), List.drop_drop, Nat.mul_succ,
      Nat.add_comm]

theorem length_le_of_mem_rows {row : Bytes} (h : row ∈ rows data) : row.length ≤ columns := by
  obtain ⟨k, hk⟩ := List.mem_iff_getElem?.1 h
  obtain ⟨hlt, -⟩ := List.getElem?_eq_some_iff.1 hk
  rw [getElem?_rows hlt, Option.some_inj] at hk
  rw [← hk]
  exact List.length_take_le _ _

end Rows

/-! ## Lines -/

/-- The parts of a line. -/
structure Parts where
  offset : List Char
  cells : List (List Char)
  gutter : List Char

/-- A line without its end. -/
def Parts.text (parts : Parts) : List Char :=
  ['0', 'x'] ++ parts.offset ++ [':', ' '] ++ parts.cells.flatten ++ parts.gutter

/-- A printable character of ASCII. -/
def IsPrintable (code : Nat) : Prop := 0x20 ≤ code ∧ code ≤ 0x7e

instance (code : Nat) : Decidable (IsPrintable code) := inferInstanceAs (Decidable (_ ∧ _))

/-- A cell has the two digits of a byte and a blank, and only blanks where there is no byte. -/
def IsCell : Option UInt8 → List Char → Prop
  | some b, cell => cell = [(b.toNat / 16).digitChar, (b.toNat % 16).digitChar, ' ']
  | none, cell => cell = [' ', ' ', ' ']

/-- A byte in the gutter is itself if it is printable, and a point if not. -/
structure IsGutter (b : UInt8) (c : Char) : Prop where
  printable : IsPrintable b.toNat → c.toNat = b.toNat
  other : ¬ IsPrintable b.toNat → c = '.'

/-- The line at a place of the dump of a stream. -/
structure Parts.Shows (parts : Parts) (data : Bytes) (place : Nat) : Prop where
  offset : parts.offset = (Nat.toDigits 16 (16 * place)).leftpad 6 '0'
  length_cells : parts.cells.length = 16
  cells : ∀ (i : Nat) (cell : List Char), parts.cells[i]? = some cell →
    IsCell data[16 * place + i]? cell
  gutter : List.Forall₂ IsGutter ((data.drop (16 * place)).take 16) parts.gutter

/-- The parts of the line at a place. -/
def partsOf (place : Nat) (row : Bytes) : Parts where
  offset := paddedHex 6 (columns * place)
  cells := row.map cell ++ List.replicate (columns - row.length) [' ', ' ', ' ']
  gutter := row.map gutter

theorem line_eq (place : Nat) (row : Bytes) :
    line (columns * place) row = (partsOf place row).text ++ ['\n'] := by
  have hblank (n : Nat) :
      (List.replicate n [' ', ' ', ' ']).flatten = List.replicate (3 * n) ' ' := by
    rw [Nat.mul_comm]
    exact List.flatten_replicate_replicate (m := 3)
  simp only [line, Parts.text, partsOf, List.flatten_append, hblank, List.flatMap,
    List.append_assoc]

/-- The lines of the dump of a stream. -/
def linesOf (data : Bytes) : List Parts :=
  (rows data).zipIdx.map fun (row, place) => partsOf place row

theorem linesFrom_eq (first : Nat) (rows : List Bytes) :
    linesFrom first rows =
      (rows.zipIdx first).flatMap fun (row, place) => (partsOf place row).text ++ ['\n'] := by
  induction rows generalizing first with
  | nil => rfl
  | cons row rows ih => rw [linesFrom, ih, line_eq, List.zipIdx_cons, List.flatMap_cons]

theorem toList_render (data : Bytes) :
    (render data).toList = (linesOf data).flatMap fun parts => parts.text ++ ['\n'] := by
  rw [render, String.toList_ofList, linesFrom_eq, linesOf, List.flatMap_map]

theorem length_linesOf (data : Bytes) : (linesOf data).length = (data.length + 15) / 16 := by
  rw [linesOf, List.length_map, List.length_zipIdx, length_rows]

theorem getElem?_linesOf {data : Bytes} {place : Nat} {parts : Parts}
    (h : (linesOf data)[place]? = some parts) :
    parts = partsOf place ((data.drop (columns * place)).take columns) := by
  have hlt : place < (rows data).length := by
    rw [length_rows, ← length_linesOf]
    exact (List.getElem?_eq_some_iff.1 h).1
  rw [linesOf, List.getElem?_map, List.getElem?_zipIdx, getElem?_rows hlt] at h
  simpa using h.symm

/-! ### What the parts show -/

theorem hexDigit_eq : ∀ d < 16, hexDigit d = d.digitChar := by decide

theorem hexPair_eq (b : UInt8) :
    hexPair b = [(b.toNat / 16).digitChar, (b.toNat % 16).digitChar] := by
  have hb : b.toNat < 256 := b.toNat_lt
  rw [hexPair, hexDigit_eq _ (by omega), hexDigit_eq _ (by omega)]

theorem isCell_cell (b : UInt8) : IsCell (some b) (cell b) := by
  rw [cell, hexPair_eq]
  rfl

theorem isGutter_gutter (b : UInt8) : IsGutter b (gutter b) := by
  have hb : b.toNat < 256 := b.toNat_lt
  have hprintable : 0x20 ≤ b ∧ b ≤ 0x7e ↔ IsPrintable b.toNat := by
    rw [UInt8.le_iff_toNat_le, UInt8.le_iff_toNat_le]
    rfl
  unfold gutter
  constructor
  · intro h
    rw [if_pos (hprintable.2 h)]
    exact Utf8.toNat_char_ofNat (.inl (by omega))
  · intro h
    rw [if_neg (mt hprintable.1 h)]

theorem isCell_of_getElem? {row : Bytes} {place i : Nat} {shown : List Char}
    (hrow : row.length ≤ columns) (h : (partsOf place row).cells[i]? = some shown) :
    i < columns ∧ IsCell row[i]? shown := by
  rw [partsOf, List.getElem?_append, List.length_map] at h
  split_ifs at h with hi
  · rw [List.getElem?_map, List.getElem?_eq_getElem hi, Option.map_some, Option.some_inj] at h
    rw [List.getElem?_eq_getElem hi, ← h]
    exact ⟨Nat.lt_of_lt_of_le hi hrow, isCell_cell _⟩
  · rw [List.getElem?_replicate] at h
    split_ifs at h with hblank
    rw [Option.some_inj] at h
    rw [List.getElem?_eq_none (Nat.not_lt.1 hi), ← h]
    exact ⟨by omega, rfl⟩

theorem shows_partsOf (data : Bytes) (place : Nat) :
    (partsOf place ((data.drop (columns * place)).take columns)).Shows data place where
  offset := rfl
  length_cells := by
    have hrow : ((data.drop (columns * place)).take columns).length ≤ columns :=
      List.length_take_le _ _
    rw [partsOf, List.length_append, List.length_map, List.length_replicate]
    exact Nat.add_sub_cancel' hrow
  cells := by
    intro i shown h
    obtain ⟨hi, hcell⟩ := isCell_of_getElem? (List.length_take_le _ _) h
    rwa [List.getElem?_take_of_lt hi, List.getElem?_drop] at hcell
  gutter := by
    rw [partsOf, List.forall₂_map_right_iff]
    exact List.forall₂_same.2 fun b _ => isGutter_gutter b

/-! ### Plain characters -/

theorem isPrintable_digitChar : ∀ d < 16, IsPrintable d.digitChar.toNat := by decide

theorem isPrintable_of_mem_paddedHex {width n : Nat} {c : Char} (h : c ∈ paddedHex width n) :
    IsPrintable c.toNat := by
  rcases List.mem_append.1 h with hzero | hdigit
  · rw [List.eq_of_mem_replicate hzero]
    decide
  · obtain ⟨d, hd, rfl⟩ := Text.mem_toDigits (by decide) hdigit
    exact isPrintable_digitChar d hd

theorem isPrintable_of_mem_cell {b : UInt8} {c : Char} (h : c ∈ cell b) : IsPrintable c.toNat := by
  have hb : b.toNat < 256 := b.toNat_lt
  rw [cell, hexPair_eq] at h
  simp only [List.cons_append, List.nil_append, List.mem_cons, List.not_mem_nil, or_false] at h
  rcases h with rfl | rfl | rfl
  · exact isPrintable_digitChar _ (by omega)
  · exact isPrintable_digitChar _ (by omega)
  · decide

theorem IsGutter.isPrintable {b : UInt8} {c : Char} (h : IsGutter b c) : IsPrintable c.toNat := by
  by_cases hb : IsPrintable b.toNat
  · rw [h.printable hb]
    exact hb
  · rw [h.other hb]
    decide

/-- Whatever the bytes are, a line has plain characters only. -/
theorem isPrintable_of_mem_text {place : Nat} {row : Bytes} {c : Char}
    (h : c ∈ (partsOf place row).text) : IsPrintable c.toNat := by
  simp only [Parts.text, partsOf, List.mem_append, List.mem_flatten, List.mem_map] at h
  rcases h with (((hmark | hoffset) | hcolon) | ⟨shown, hshown, hc⟩) | ⟨b, -, rfl⟩
  · simp only [List.mem_cons, List.not_mem_nil, or_false] at hmark
    rcases hmark with rfl | rfl <;> decide
  · exact isPrintable_of_mem_paddedHex hoffset
  · simp only [List.mem_cons, List.not_mem_nil, or_false] at hcolon
    rcases hcolon with rfl | rfl <;> decide
  · rcases hshown with ⟨b, -, rfl⟩ | hblank
    · exact isPrintable_of_mem_cell hc
    · rw [List.eq_of_mem_replicate hblank] at hc
      simp only [List.mem_cons, List.not_mem_nil, or_false, or_self] at hc
      rw [hc]
      decide
  · exact (isGutter_gutter b).isPrintable

/-! ## Reading -/

/-- The byte that two hexadecimal digits spell. -/
def byte? (high low : Char) : Option UInt8 :=
  (Text.positional? Text.hexDigit? 16 [high, low]).map UInt8.ofNat

/-- The bytes in so many cells; none in those that are blank. -/
def cells? : Nat → List Char → Option Bytes
  | 0, _ => some []
  | n + 1, high :: low :: ' ' :: rest =>
    if high = ' ' ∧ low = ' ' then cells? n rest
    else (byte? high low).bind fun b => (cells? n rest).map (b :: ·)
  | _ + 1, _ => none

/-- The bytes of a line. Its cells stand behind the first colon and a blank. -/
def row? (line : List Char) : Option Bytes :=
  match Text.splitFirst ':' line with
  | some (_, ' ' :: rest) => cells? columns rest
  | _ => none

/-- The bytes of a dump, read from the cells of its lines. -/
def read? (dump : String) : Option Bytes :=
  ((Text.pieces '\n' dump.toList).dropLast.mapM row?).map List.flatten

theorem byte?_digits (b : UInt8) :
    byte? (b.toNat / 16).digitChar (b.toNat % 16).digitChar = some b := by
  have hb : b.toNat < 256 := b.toNat_lt
  have hvalue : 16 * (b.toNat / 16) + b.toNat % 16 = b.toNat := Nat.div_add_mod _ _
  have hhigh := Text.hexDigit?_digitChar (b.toNat / 16) (by omega)
  have hlow := Text.hexDigit?_digitChar (b.toNat % 16) (by omega)
  simp [byte?, Text.positional?, hhigh, hlow, hvalue]

theorem digitChar_ne_blank : ∀ d < 16, d.digitChar ≠ ' ' := by decide

theorem cells?_cell (b : UInt8) (n : Nat) (rest : List Char) :
    cells? (n + 1) (cell b ++ rest) = (cells? n rest).map (b :: ·) := by
  have hb : b.toNat < 256 := b.toNat_lt
  have hdigit : ¬ ((b.toNat / 16).digitChar = ' ' ∧ (b.toNat % 16).digitChar = ' ') :=
    fun h => digitChar_ne_blank _ (by omega) h.1
  rw [cell, hexPair_eq]
  show cells? (n + 1) (_ :: _ :: ' ' :: rest) = _
  rw [cells?, if_neg hdigit, byte?_digits, Option.bind_some]

theorem cells?_blank (n : Nat) (rest : List Char) :
    cells? n ((List.replicate n [' ', ' ', ' ']).flatten ++ rest) = some [] := by
  induction n with
  | zero => rfl
  | succ n ih =>
    rw [List.replicate_succ, List.flatten_cons]
    show cells? (n + 1) (' ' :: ' ' :: ' ' :: _) = _
    rw [cells?, if_pos ⟨rfl, rfl⟩]
    exact ih

/-- The cells of a row give its bytes, whatever stands behind them. -/
theorem cells?_row (row : Bytes) (n : Nat) (rest : List Char) :
    cells? (row.length + n)
      ((row.map cell ++ List.replicate n [' ', ' ', ' ']).flatten ++ rest) = some row := by
  induction row with
  | nil =>
    rw [List.length_nil, Nat.zero_add]
    exact cells?_blank n rest
  | cons b row ih =>
    rw [List.length_cons, Nat.add_right_comm, List.map_cons, List.cons_append, List.flatten_cons,
      List.append_assoc, cells?_cell, ih]
    rfl

theorem colon_ne_digitChar : ∀ d < 16, ':' ≠ d.digitChar := by decide

theorem colon_notMem_paddedHex (width n : Nat) : ':' ∉ paddedHex width n := by
  intro h
  rcases List.mem_append.1 h with hzero | hdigit
  · exact absurd (List.eq_of_mem_replicate hzero) (by decide)
  · obtain ⟨d, hd, hcolon⟩ := Text.mem_toDigits (by decide) hdigit
    exact colon_ne_digitChar d hd hcolon

theorem row?_text {row : Bytes} (h : row.length ≤ columns) (place : Nat) :
    row? (partsOf place row).text = some row := by
  have hcolon : ':' ∉ '0' :: 'x' :: paddedHex 6 (columns * place) := by
    simp [colon_notMem_paddedHex]
  have hcells := cells?_row row (columns - row.length) (row.map gutter)
  rw [Nat.add_sub_cancel' h] at hcells
  have htext : (partsOf place row).text = ('0' :: 'x' :: paddedHex 6 (columns * place)) ++ ':' ::
      ' ' :: ((partsOf place row).cells.flatten ++ row.map gutter) := by
    simp [Parts.text, partsOf]
  rw [row?, htext, Text.splitFirst_append hcolon]
  exact hcells

/-- Lines that hold no separator and end in one. -/
theorem pieces_flatMap {sep : Char} {texts : List (List Char)} (h : ∀ text ∈ texts, sep ∉ text) :
    Text.pieces sep (texts.flatMap (· ++ [sep])) = texts ++ [[]] := by
  induction texts with
  | nil => rfl
  | cons text texts ih =>
    rw [List.flatMap_cons, List.append_assoc, List.singleton_append,
      Text.pieces_append (h text List.mem_cons_self),
      ih fun other hmem => h other (List.mem_cons_of_mem _ hmem), List.cons_append]

theorem mapM_row? {rows : List Bytes} (h : ∀ row ∈ rows, row.length ≤ columns) (first : Nat) :
    ((rows.zipIdx first).map fun (row, place) => (partsOf place row).text).mapM row? =
      some rows := by
  induction rows generalizing first with
  | nil => rfl
  | cons row rows ih =>
    have hrest := ih (fun other hmem => h other (List.mem_cons_of_mem _ hmem)) (first + 1)
    rw [List.zipIdx_cons, List.map_cons, List.mapM_cons, row?_text (h row List.mem_cons_self),
      hrest]
    rfl

theorem newline_notMem_text (place : Nat) (row : Bytes) : '\n' ∉ (partsOf place row).text :=
  fun h => absurd (isPrintable_of_mem_text h) (by decide)

theorem exists_of_mem_linesOf {data : Bytes} {parts : Parts} (h : parts ∈ linesOf data) :
    ∃ place row, parts = partsOf place row := by
  obtain ⟨⟨row, place⟩, -, rfl⟩ := List.mem_map.1 h
  exact ⟨place, row, rfl⟩

theorem read?_render (data : Bytes) : read? (render data) = some data := by
  have hnewline : ∀ text ∈ (linesOf data).map Parts.text, '\n' ∉ text := by
    intro text htext
    obtain ⟨parts, hparts, rfl⟩ := List.mem_map.1 htext
    obtain ⟨place, row, rfl⟩ := exists_of_mem_linesOf hparts
    exact newline_notMem_text place row
  have hpieces : Text.pieces '\n' (render data).toList = (linesOf data).map Parts.text ++ [[]] := by
    rw [toList_render, ← pieces_flatMap hnewline, List.flatMap_map]
  have hrows : ((linesOf data).map Parts.text).mapM row? = some (rows data) := by
    rw [linesOf, List.map_map]
    exact mapM_row? (fun row => length_le_of_mem_rows) 0
  rw [read?, hpieces, List.dropLast_concat, hrows, Option.map_some, flatten_rows]

/-! ## The dump -/

/-- A dump shows a stream, all of it and nothing else. -/
structure IsDump (data : Bytes) (dump : String) : Prop where
  /-- There is a line for every sixteen bytes begun, and it ends where the next one begins. -/
  lines : ∃ lines : List Parts,
    dump.toList = lines.flatMap (fun parts => parts.text ++ ['\n']) ∧
    (∀ parts ∈ lines, '\n' ∉ parts.text) ∧
    lines.length = (data.length + 15) / 16 ∧
    ∀ (place : Nat) (parts : Parts), lines[place]? = some parts → parts.Shows data place
  plain : ∀ c ∈ dump.toList, c = '\n' ∨ IsPrintable c.toNat
  read : read? dump = some data

theorem isDump_render (data : Bytes) : IsDump data (render data) where
  lines := by
    refine ⟨linesOf data, toList_render data, ?_, length_linesOf data, ?_⟩
    · intro parts hparts
      obtain ⟨place, row, rfl⟩ := exists_of_mem_linesOf hparts
      exact newline_notMem_text place row
    · intro place parts h
      rw [getElem?_linesOf h]
      exact shows_partsOf data place
  plain := by
    intro c hc
    rw [toList_render] at hc
    obtain ⟨parts, hparts, hc⟩ := List.mem_flatMap.1 hc
    obtain ⟨place, row, rfl⟩ := exists_of_mem_linesOf hparts
    rcases List.mem_append.1 hc with htext | hend
    · exact .inr (isPrintable_of_mem_text htext)
    · exact .inl (List.mem_singleton.1 hend)
  read := read?_render data

/-- **A dump is lossless and plain.** No two streams have the same dump. -/
theorem render_lossless :
    (∀ data : Bytes, IsDump data (render data)) ∧ Function.Injective render := by
  refine ⟨isDump_render, fun data other h => ?_⟩
  have hread : some data = some other := by rw [← read?_render data, h, read?_render other]
  exact Option.some_inj.1 hread

/-- A control character shows as a point, and the last line is padded. -/
example : render [0x47, 0x0a, 0xff] =
    "0x000000: 47 0a ff                                        G..\n" := by
  cbv

end Switchboard.Hexdump
