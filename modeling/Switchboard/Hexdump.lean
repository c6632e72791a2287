import Switchboard.Bytes

/-!
# Hexadecimal dumps

Sixteen bytes a line: the offset, the bytes in hexadecimal, and the bytes as ASCII characters, with
a point for each byte that is not a printable one. A short last line is padded, so that the
characters of all lines begin in the same column.
-/

namespace Switchboard.Hexdump

/-- Bytes on a full line. -/
def columns : Nat := 16

def rows : Bytes → List Bytes
  | [] => []
  | b :: rest => (b :: rest.take 15) :: rows (rest.drop 15)
termination_by data => data.length
decreasing_by simp only [List.length_drop, List.length_cons]; omega

/-- Hexadecimal digits of a number, zeros before them up to a width. -/
def paddedHex (width n : Nat) : List Char :=
  let digits := Nat.toDigits 16 n
  List.replicate (width - digits.length) '0' ++ digits

/-- A byte as the dump shows it beside its hexadecimal form. -/
def gutter (b : UInt8) : Char :=
  if 0x20 ≤ b ∧ b ≤ 0x7e then Char.ofNat b.toNat else '.'

/-- A byte's three-character cell. -/
def cell (b : UInt8) : List Char := hexPair b ++ [' ']

/-- One line, with its line end. -/
def line (offset : Nat) (row : Bytes) : List Char :=
  ['0', 'x'] ++ paddedHex 6 offset ++ [':', ' '] ++ row.flatMap cell ++
    List.replicate (3 * (columns - row.length)) ' ' ++ row.map gutter ++ ['\n']

/-- The lines of a dump whose first line has the given number. -/
def linesFrom (first : Nat) : List Bytes → List Char
  | [] => []
  | row :: more => line (columns * first) row ++ linesFrom (first + 1) more

def render (data : Bytes) : String :=
  String.ofList (linesFrom 0 (rows data))

end Switchboard.Hexdump
