import Switchboard.Pattern.CaseTable
import Switchboard.Pattern.WordTable

/-!
# Patterns

A pattern describes a piece of a stream: characters or single bytes of a set, places where something
holds of the stream's surroundings, and these in sequence, as alternatives and repeated. Whether a
repetition prefers few or many rounds changes which piece is found and not whether one is found, so
it is not part of a pattern.
-/

namespace Switchboard.Pattern

/-- What a pattern is made over: characters in their UTF-8 form, or bytes. It also decides how far
words, digits and case reach: over all of Unicode, or over ASCII. -/
inductive Alphabet
  | characters
  | bytes
  deriving DecidableEq, Repr

def Alphabet.caseVariants : Alphabet → Nat → List Nat
  | .characters => Pattern.caseVariants
  | .bytes => asciiCaseVariants

/-- A set of characters, or of bytes. -/
inductive CharSet
  | ranges (members : Text.Ranges)
  | union (a b : CharSet)
  | meet (a b : CharSet)
  | minus (a b : CharSet)
  /-- What is in one of the two and not in the other. -/
  | differ (a b : CharSet)
  | complement (a : CharSet)
  /-- What differs from a member at most in case. -/
  | anyCase (alphabet : Alphabet) (a : CharSet)
  deriving DecidableEq, Repr

namespace CharSet

def holds : CharSet → Nat → Bool
  | ranges members, n => members.holds n
  | union a b, n => a.holds n || b.holds n
  | meet a b, n => a.holds n && b.holds n
  | minus a b, n => a.holds n && !b.holds n
  | differ a b, n => a.holds n != b.holds n
  | complement a, n => !a.holds n
  | anyCase alphabet a, n => a.holds n || (alphabet.caseVariants n).any a.holds

def none : CharSet := ranges []

def single (n : Nat) : CharSet := ranges [(n, n)]

def unions (sets : List CharSet) : CharSet := sets.foldr union none

def rangeCount : CharSet → Nat
  | ranges members => members.length
  | union a b | meet a b | minus a b | differ a b => a.rangeCount + b.rangeCount
  | complement a => a.rangeCount + 1
  | anyCase _ a => 2 * a.rangeCount

/-- The set has no member beyond ASCII, as far as its ranges show. -/
def isAscii : CharSet → Bool
  | ranges members => members.all fun (_, last) => last < 0x80
  | union a b | differ a b => a.isAscii && b.isAscii
  | meet a b => a.isAscii || b.isAscii
  | minus a _ => a.isAscii
  | complement _ => false
  | anyCase _ a => a.isAscii

end CharSet

/-- Where a place lies with respect to words. -/
inductive WordEdge
  | boundary
  | interior
  | start
  | finish
  /-- No word reaches up to the place. -/
  | startHalf
  /-- No word goes on from the place. -/
  | finishHalf
  deriving DecidableEq, Repr

inductive Assertion
  | textStart
  | textEnd
  /-- A line begins; with `crlf` a carriage return ends a line too. -/
  | lineStart (crlf : Bool)
  | lineEnd (crlf : Bool)
  | word (edge : WordEdge) (alphabet : Alphabet)
  deriving DecidableEq, Repr

inductive Expr
  | empty
  /-- One character, or one byte, of a set. -/
  | one (alphabet : Alphabet) (set : CharSet)
  | look (assertion : Assertion)
  | seq (first second : Expr)
  | alt (left right : Expr)
  /-- At least `least` rounds, and at most `most` if that is given. -/
  | repeated (body : Expr) (least : Nat) (most : Option Nat)
  deriving DecidableEq, Repr

namespace Expr

def seqs : List Expr → Expr
  | [] => empty
  | [e] => e
  | e :: rest => seq e (seqs rest)

def alts : List Expr → Expr
  | [] => empty
  | [e] => e
  | e :: rest => alt e (alts rest)

def setWeight (alphabet : Alphabet) (set : CharSet) : Nat :=
  if alphabet = .characters && !set.isAscii then 32 * (set.rangeCount + 10)
  else if set.rangeCount ≤ 1 then 32
  else 64 + 8 * set.rangeCount

/-- About how many bytes the automaton of a pattern takes. Counted repetitions multiply it, so a
short pattern may ask for a large one. -/
def weight : Expr → Nat
  | empty => 32
  | one alphabet set => setWeight alphabet set
  | look _ => 32
  | seq a b => a.weight + b.weight
  | alt a b => a.weight + b.weight + 40
  | repeated body least none => max least 1 * body.weight + 40
  | repeated body least (some most) =>
    least * body.weight + (most - least) * (body.weight + 40) + 32

end Expr

end Switchboard.Pattern
