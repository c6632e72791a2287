import Mathlib.Data.Nat.Bitwise
import Mathlib.Logic.Function.Iterate
import Switchboard.Pattern.Reader
import Switchboard.Proofs.Utf8

/-!
# Finding patterns, correctly

Which pieces of a stream a pattern describes is said part by part, without sets of places
(`Expr.Spans`): a character is its encoding, a repetition is any admissible number of rounds. The
search finds a pattern exactly if it describes some piece.

**Characters.** An encoded character that stands anywhere in a stream is a segment of it, since its
first byte is no continuation byte (`charsOf_eq_some`).

**Sets of places.** Laid over a stream, a pattern moves places along a relation (`Scan.Leads`), all
of a set at once (`Scan.carries`).

**Repetitions.** No part of a pattern leads backwards or beyond the end, so of any number of rounds
at most as many as there are bytes make progress, and the others can be left out (`Times.shorten`).
A search that stops after so many rounds has therefore missed nothing.

Main results: `Expr.foundIn_iff`, and `Engine.standard_compile` for patterns that are texts.
-/

namespace Switchboard.Pattern

/-! ## Characters -/

theorem length_starts {segment : Utf8.Segment} {piece : Bytes} (h : segment.Covers piece) :
    (starts segment).length = piece.length := by
  cases h with
  | char c =>
    have hpos := c.utf8Size_pos
    simp only [starts, List.length_cons, List.length_replicate, String.length_utf8EncodeChar]
    omega
  | broken a hmore => simp [starts]

theorem starts_zero {segment : Utf8.Segment} {piece : Bytes} (h : segment.Covers piece) {c : Char}
    {n : Nat} : ((starts segment)[0]?).join = some (c, n) ↔ segment = .char c n := by
  cases h <;> simp [starts]

theorem starts_succ (segment : Utf8.Segment) (i : Nat) :
    ((starts segment)[i + 1]?).join = none := by
  cases segment <;> simp only [starts, List.getElem?_cons_succ, List.getElem?_replicate] <;>
    split_ifs <;> rfl

theorem not_prefix_of_isContinuation {b : UInt8} (hb : Utf8.isContinuation b = true) (c : Char)
    (rest : Bytes) : ¬ String.utf8EncodeChar c <+: b :: rest := by
  obtain ⟨a, more, hc, ha, -⟩ := Utf8.encodeChar_cons c
  rw [hc, List.cons_prefix_cons]
  rintro ⟨rfl, -⟩
  rw [hb] at ha
  cases ha

/-- At the head of a stream there is the character of its first segment, if it has one. -/
theorem segment_eq_char_iff {data : Bytes} {segment : Utf8.Segment} {piece rest : Bytes} {c : Char}
    {n : Nat} (hsegments : Utf8.segments data = segment :: Utf8.segments rest)
    (hsplit : data = piece ++ rest) (hcovers : segment.Covers piece) :
    segment = .char c n ↔ n = c.utf8Size ∧ String.utf8EncodeChar c <+: data := by
  constructor
  · rintro rfl
    cases hcovers
    exact ⟨rfl, hsplit ▸ List.prefix_append _ _⟩
  · rintro ⟨rfl, more, rfl⟩
    obtain ⟨size, hsize⟩ := Utf8.segments_encodeChar c more
    obtain rfl := (List.cons.inj (hsegments.symm.trans hsize)).1
    cases hcovers
    rfl

/-- A character begins at a place exactly if its encoding stands there. -/
theorem charsOf_eq_some {data : Bytes} {i n : Nat} {c : Char} :
    ((charsOf data)[i]?).join = some (c, n) ↔
      n = c.utf8Size ∧ String.utf8EncodeChar c <+: data.drop i := by
  -- By induction on the stream, a segment at a time.
  induction hlength : data.length using Nat.strong_induction_on generalizing data i with
  | _ length ih =>
  by_cases hdata : data = []
  · subst hdata
    obtain ⟨a, more, hc, -⟩ := Utf8.encodeChar_cons c
    simp [charsOf, Utf8.segments, hc]
  · obtain ⟨segment, piece, rest, hsegments, hsplit, hcovers⟩ := Utf8.exists_segment hdata
    obtain ⟨a, more, hpiece, hmore⟩ := hcovers.exists_cons
    have hchars : charsOf data = starts segment ++ charsOf rest := by
      rw [charsOf, hsegments, List.flatMap_cons, charsOf]
    rw [hchars]
    by_cases hi : i < piece.length
    · rw [List.getElem?_append_left (by rwa [length_starts hcovers])]
      cases i with
      | zero =>
        rw [starts_zero hcovers, List.drop_zero]
        exact segment_eq_char_iff hsegments hsplit hcovers
      | succ i =>
        -- Inside a segment there are only continuation bytes.
        have hlt : i < more.length := by
          rw [hpiece, List.length_cons] at hi
          exact Nat.lt_of_succ_lt_succ hi
        have hdrop : data.drop (i + 1) = more[i] :: (more.drop (i + 1) ++ rest) := by
          rw [hsplit, hpiece, List.cons_append, List.drop_succ_cons,
            List.drop_append_of_le_length (Nat.le_of_lt hlt), List.drop_eq_getElem_cons hlt]
          rfl
        have hnot := not_prefix_of_isContinuation (hmore _ (List.getElem_mem hlt)) c
          (more.drop (i + 1) ++ rest)
        rw [starts_succ, hdrop]
        exact iff_of_false (Option.some_ne_none _).symm (mt And.right hnot)
    · have hle := Nat.not_lt.1 hi
      have hshort : rest.length < length := by
        rw [← hlength, hsplit, hpiece, List.length_append, List.length_cons]
        omega
      have hdrop : data.drop i = rest.drop (i - piece.length) := by
        rw [hsplit, List.drop_append, List.drop_of_length_le hle, List.nil_append]
      rw [List.getElem?_append_right (by rwa [length_starts hcovers]), length_starts hcovers, hdrop]
      exact ih _ hshort rfl

/-! ## Sets of places -/

theorem testBit_placesFrom (test : Nat → Bool) (count first i : Nat) :
    (placesFrom test count first).testBit i = (decide (i < count) && test (first + i)) := by
  induction count generalizing first i with
  | zero => simp [placesFrom]
  | succ count ih =>
    rw [placesFrom]
    cases i with
    | zero =>
      rw [Nat.testBit_zero]
      cases test first <;> simp
    | succ i =>
      have hhalf : ((if test first then 1 else 0) + 2 * placesFrom test count (first + 1)) / 2 =
          placesFrom test count (first + 1) := by
        split_ifs <;> omega
      rw [Nat.testBit_succ, hhalf, ih, Nat.add_right_comm, Nat.add_assoc]
      simp

theorem Subject.testBit_places (s : Subject) (test : Nat → Bool) (i : Nat) :
    (s.places test).testBit i = (decide (i ≤ s.size) && test i) := by
  rw [places, testBit_placesFrom, Nat.zero_add]
  simp only [Nat.lt_succ_iff]

/-- A step on sets of places moves each place of a set along a relation. -/
def Carries (step : Nat → Nat) (R : Nat → Nat → Prop) : Prop :=
  ∀ places j, (step places).testBit j = true ↔ ∃ i, places.testBit i = true ∧ R i j

/-- So many steps of a relation in a row. -/
def Times (R : Nat → Nat → Prop) : Nat → Nat → Nat → Prop
  | 0, i, j => i = j
  | n + 1, i, j => ∃ k, R i k ∧ Times R n k j

variable {step other : Nat → Nat} {R S : Nat → Nat → Prop}

namespace Carries

theorem id : Carries id Eq := by
  intro places j
  simp

theorem comp (h : Carries step R) (h' : Carries other S) :
    Carries (other ∘ step) fun i j => ∃ k, R i k ∧ S k j := by
  intro places j
  rw [Function.comp_apply, h']
  constructor
  · rintro ⟨k, hk, hS⟩
    obtain ⟨i, hi, hR⟩ := (h places k).1 hk
    exact ⟨i, hi, k, hR, hS⟩
  · rintro ⟨i, hi, k, hR, hS⟩
    exact ⟨k, (h places k).2 ⟨i, hi, hR⟩, hS⟩

theorem or (h : Carries step R) (h' : Carries other S) :
    Carries (fun places => step places ||| other places) fun i j => R i j ∨ S i j := by
  intro places j
  simp only [Nat.testBit_or, Bool.or_eq_true, h places j, h' places j, and_or_left, exists_or]

theorem iterate (h : Carries step R) (n : Nat) : Carries step^[n] (Times R n) := by
  induction n with
  | zero => exact .id
  | succ n ih =>
    rw [Function.iterate_succ]
    exact h.comp ih

end Carries

/-- Stopping at a set that a round leaves as it is changes nothing. -/
theorem rounds_eq (step : Nat → Nat) (n places : Nat) : rounds step n places = step^[n] places := by
  induction n generalizing places with
  | zero => rfl
  | succ n ih =>
    rw [rounds, Function.iterate_succ_apply]
    by_cases hnext : step places = places
    · rw [hnext, Function.iterate_fixed hnext]
      exact if_pos rfl
    · exact (if_neg hnext).trans (ih _)

theorem reached_eq (step : Nat → Nat) (n places : Nat) :
    reached step n places = (fun places => places ||| step places)^[n] places := by
  rw [← rounds_eq]
  induction n generalizing places with
  | zero => rfl
  | succ n ih => simp only [reached, rounds, ih]

theorem Times.of_or {n i j : Nat} (h : Times (fun i j => i = j ∨ R i j) n i j) :
    ∃ m ≤ n, Times R m i j := by
  induction n generalizing i with
  | zero => exact ⟨0, Nat.le_refl 0, h⟩
  | succ n ih =>
    obtain ⟨k, rfl | hR, hrest⟩ := h
    · obtain ⟨m, hm, htimes⟩ := ih hrest
      exact ⟨m, Nat.le_succ_of_le hm, htimes⟩
    · obtain ⟨m, hm, htimes⟩ := ih hrest
      exact ⟨m + 1, Nat.succ_le_succ hm, k, hR, htimes⟩

theorem Times.or {m n i j : Nat} (hm : m ≤ n) (h : Times R m i j) :
    Times (fun i j => i = j ∨ R i j) n i j := by
  induction n generalizing m i with
  | zero =>
    obtain rfl := Nat.le_zero.1 hm
    exact h
  | succ n ih =>
    cases m with
    | zero => exact ⟨i, .inl rfl, ih (Nat.zero_le n) h⟩
    | succ m =>
      obtain ⟨k, hR, hrest⟩ := h
      exact ⟨k, .inr hR, ih (Nat.le_of_succ_le_succ hm) hrest⟩

theorem carries_rounds (h : Carries step R) (n : Nat) : Carries (rounds step n) (Times R n) := by
  intro places j
  rw [rounds_eq]
  exact h.iterate n places j

theorem carries_reached (h : Carries step R) (n : Nat) :
    Carries (reached step n) fun i j => ∃ m ≤ n, Times R m i j := by
  intro places j
  rw [reached_eq]
  refine ((Carries.id.or h).iterate n places j).trans ?_
  exact exists_congr fun i => and_congr_right fun _ =>
    ⟨Times.of_or, fun ⟨_, hm, htimes⟩ => htimes.or hm⟩

/-! ## Scans -/

/-- How a scan moves one place. -/
def Scan.Leads : Scan → Nat → Nat → Prop
  | stay set, i, j => i = j ∧ set.testBit j = true
  | move steps, i, j => ∃ size set, (size, set) ∈ steps ∧ set.testBit i = true ∧ j = i + size
  | seq a b, i, j => ∃ k, a.Leads i k ∧ b.Leads k j
  | alt a b, i, j => a.Leads i j ∨ b.Leads i j
  | repeated body least bound, i, j =>
    ∃ k, Times body.Leads least i k ∧ ∃ n ≤ bound, Times body.Leads n k j

theorem testBit_foldl_move (steps : List (Nat × Nat)) (places found j : Nat) :
    (steps.foldl (fun found (size, set) => found ||| ((places &&& set) <<< size)) found).testBit j =
        true ↔
      found.testBit j = true ∨
        ∃ i, places.testBit i = true ∧ (Scan.move steps).Leads i j := by
  induction steps generalizing found with
  | nil => simp [Scan.Leads]
  | cons step steps ih =>
    obtain ⟨size, set⟩ := step
    rw [List.foldl_cons, ih]
    have hfirst : ((places &&& set) <<< size).testBit j = true ↔
        ∃ i, places.testBit i = true ∧ set.testBit i = true ∧ j = i + size := by
      rw [Nat.testBit_shiftLeft, Nat.testBit_and, Bool.and_eq_true, Bool.and_eq_true,
        decide_eq_true_eq]
      constructor
      · rintro ⟨hle, hplace, hset⟩
        exact ⟨j - size, hplace, hset, (Nat.sub_add_cancel hle).symm⟩
      · rintro ⟨i, hplace, hset, rfl⟩
        rw [Nat.add_sub_cancel]
        exact ⟨Nat.le_add_left size i, hplace, hset⟩
    rw [Nat.testBit_or, Bool.or_eq_true, hfirst, or_assoc]
    refine or_congr_right ⟨?_, ?_⟩
    · rintro (⟨i, hplace, hset, rfl⟩ | ⟨i, hplace, size', set', hmem, hset, rfl⟩)
      · exact ⟨i, hplace, size, set, List.mem_cons_self, hset, rfl⟩
      · exact ⟨i, hplace, size', set', List.mem_cons_of_mem _ hmem, hset, rfl⟩
    · rintro ⟨i, hplace, size', set', hmem, hset, rfl⟩
      rcases List.mem_cons.1 hmem with heq | hmem
      · cases heq
        exact .inl ⟨i, hplace, hset, rfl⟩
      · exact .inr ⟨i, hplace, size', set', hmem, hset, rfl⟩

theorem Scan.carries (scan : Scan) : Carries scan.advance scan.Leads := by
  induction scan with
  | stay set =>
    intro places j
    simp [advance, Leads]
  | move steps =>
    intro places j
    rw [advance, testBit_foldl_move, Nat.zero_testBit]
    simp
  | seq a b iha ihb => exact iha.comp ihb
  | alt a b iha ihb => exact iha.or ihb
  | repeated body least bound ih =>
    exact (carries_rounds ih least).comp (carries_reached ih bound)

/-! ## Patterns -/

/-- A relation that leads neither backwards nor beyond a limit. -/
def Onward (limit : Nat) (R : Nat → Nat → Prop) : Prop :=
  ∀ i j, R i j → i ≤ limit → i ≤ j ∧ j ≤ limit

theorem Times.onward {limit : Nat} (hR : Onward limit R) (n : Nat) : Onward limit (Times R n) := by
  induction n with
  | zero =>
    rintro i _ rfl hi
    exact ⟨Nat.le_refl i, hi⟩
  | succ n ih =>
    rintro i j ⟨k, hik, hkj⟩ hi
    obtain ⟨hle, hk⟩ := hR i k hik hi
    obtain ⟨hle', hj⟩ := ih k j hkj hk
    exact ⟨Nat.le_trans hle hle', hj⟩

/-- Rounds that stay where they are can be left out. -/
theorem Times.shorten {limit n i j : Nat} (hR : Onward limit R) (hi : i ≤ limit)
    (h : Times R n i j) : ∃ m, i + m ≤ j ∧ Times R m i j := by
  induction n generalizing i with
  | zero => exact ⟨0, Nat.le_of_eq h, h⟩
  | succ n ih =>
    obtain ⟨k, hik, hkj⟩ := h
    obtain ⟨hle, hk⟩ := hR i k hik hi
    obtain ⟨m, hm, hrest⟩ := ih hk hkj
    rcases Nat.eq_or_lt_of_le hle with rfl | hlt
    · exact ⟨m, hm, hrest⟩
    · exact ⟨m + 1, by omega, k, hik, hrest⟩

theorem times_add {m n i j : Nat} :
    Times R (m + n) i j ↔ ∃ k, Times R m i k ∧ Times R n k j := by
  induction m generalizing i with
  | zero => simp [Times]
  | succ m ih =>
    rw [Nat.add_right_comm]
    simp only [Times, ih]
    constructor
    · rintro ⟨k, hik, l, hkl, hlj⟩
      exact ⟨l, ⟨k, hik, hkl⟩, hlj⟩
    · rintro ⟨l, ⟨k, hik, hkl⟩, hlj⟩
      exact ⟨k, hik, l, hkl, hlj⟩

theorem times_congr {limit n i j : Nat} (hRS : ∀ i j, i ≤ limit → (R i j ↔ S i j))
    (hS : Onward limit S) (hi : i ≤ limit) : Times R n i j ↔ Times S n i j := by
  induction n generalizing i with
  | zero => rfl
  | succ n ih =>
    constructor
    · rintro ⟨k, hik, hkj⟩
      have hS' := (hRS i k hi).1 hik
      exact ⟨k, hS', (ih (hS i k hS' hi).2).1 hkj⟩
    · rintro ⟨k, hik, hkj⟩
      exact ⟨k, (hRS i k hi).2 hik, (ih (hS i k hik hi).2).2 hkj⟩

namespace Expr

/-- The pattern describes the piece of a stream between two places. -/
def Spans (data : Bytes) : Expr → Nat → Nat → Prop
  | empty, i, j => i = j
  | one .bytes set, i, j => j = i + 1 ∧ ∃ b, data[i]? = some b ∧ set.holds b.toNat = true
  | one .characters set, i, j => ∃ c : Char, j = i + c.utf8Size ∧
    String.utf8EncodeChar c <+: data.drop i ∧ set.holds c.toNat = true
  | look assertion, i, j => i = j ∧ (Subject.ofBytes data).meets j assertion = true
  | seq a b, i, j => ∃ k, a.Spans data i k ∧ b.Spans data k j
  | alt a b, i, j => a.Spans data i j ∨ b.Spans data i j
  | repeated body least most, i, j => ∃ n, least ≤ n ∧ (∀ m, most = some m → n ≤ max least m) ∧
    Times (body.Spans data) n i j

theorem onward_spans (data : Bytes) (e : Expr) : Onward data.length (e.Spans data) := by
  induction e with
  | empty =>
    rintro i _ rfl hi
    exact ⟨Nat.le_refl i, hi⟩
  | look assertion =>
    rintro i _ ⟨rfl, -⟩ hi
    exact ⟨Nat.le_refl i, hi⟩
  | one alphabet set =>
    cases alphabet with
    | bytes =>
      rintro i _ ⟨rfl, b, hb, -⟩ -
      obtain ⟨hlt, -⟩ := List.getElem?_eq_some_iff.1 hb
      exact ⟨Nat.le_succ i, hlt⟩
    | characters =>
      rintro i _ ⟨c, rfl, hprefix, -⟩ hi
      have hlength := hprefix.length_le
      rw [String.length_utf8EncodeChar, List.length_drop] at hlength
      omega
  | seq a b iha ihb =>
    rintro i j ⟨k, hik, hkj⟩ hi
    obtain ⟨hle, hk⟩ := iha i k hik hi
    obtain ⟨hle', hj⟩ := ihb k j hkj hk
    exact ⟨Nat.le_trans hle hle', hj⟩
  | alt a b iha ihb =>
    rintro i j (h | h) hi
    · exact iha i j h hi
    · exact ihb i j h hi
  | repeated body least most ih =>
    rintro i j ⟨n, -, -, htimes⟩ hi
    exact Times.onward ih n i j htimes hi

theorem leads_scan_byte {data : Bytes} {set : CharSet} {i j : Nat} :
    ((one .bytes set).scan (.ofBytes data)).Leads i j ↔ (one .bytes set).Spans data i j := by
  constructor
  · rintro ⟨size, places, hmem, hset, rfl⟩
    cases List.mem_singleton.1 hmem
    rw [Subject.testBit_places, Bool.and_eq_true, Option.any_eq_true] at hset
    obtain ⟨-, b, hb, hholds⟩ := hset
    exact ⟨rfl, b, List.getElem?_toArray.symm.trans hb, hholds⟩
  · rintro ⟨rfl, b, hb, hholds⟩
    obtain ⟨hlt, -⟩ := List.getElem?_eq_some_iff.1 hb
    refine ⟨1, _, List.mem_singleton_self _, ?_, rfl⟩
    rw [Subject.testBit_places, Bool.and_eq_true, Option.any_eq_true, decide_eq_true_eq]
    exact ⟨Nat.le_of_lt hlt, b, List.getElem?_toArray.trans hb, hholds⟩

theorem leads_scan_character {data : Bytes} {set : CharSet} {i j : Nat} :
    ((one .characters set).scan (.ofBytes data)).Leads i j ↔
      (one .characters set).Spans data i j := by
  have hchars : ∀ {c n}, ((Subject.ofBytes data).chars[i]?).join = some (c, n) ↔
      n = c.utf8Size ∧ String.utf8EncodeChar c <+: data.drop i := by
    intro c n
    rw [← charsOf_eq_some, Subject.ofBytes, List.getElem?_toArray]
  constructor
  · rintro ⟨size, places, hmem, hset, rfl⟩
    obtain ⟨size, -, heq⟩ := List.mem_map.1 hmem
    cases heq
    rw [Subject.testBit_places, Bool.and_eq_true, Option.any_eq_true] at hset
    obtain ⟨-, ⟨c, n⟩, hc, htest⟩ := hset
    obtain ⟨rfl, hprefix⟩ := hchars.1 hc
    rw [Bool.and_eq_true, beq_iff_eq] at htest
    exact ⟨c, by rw [htest.1], hprefix, htest.2⟩
  · rintro ⟨c, rfl, hprefix, hholds⟩
    have hsize : c.utf8Size ∈ [1, 2, 3, 4] := by
      rcases c.utf8Size_eq with h | h | h | h <;> simp [h]
    have hle : i ≤ data.length := by
      have hlength := hprefix.length_le
      have hpos := c.utf8Size_pos
      rw [String.length_utf8EncodeChar, List.length_drop] at hlength
      omega
    refine ⟨c.utf8Size, _, List.mem_map.2 ⟨_, hsize, rfl⟩, ?_, rfl⟩
    rw [Subject.testBit_places, Bool.and_eq_true, Option.any_eq_true, decide_eq_true_eq]
    exact ⟨hle, ⟨c, c.utf8Size⟩, hchars.2 ⟨rfl, hprefix⟩, by simp [hholds]⟩

theorem leads_scan_repeated {data : Bytes} {body : Expr} {least : Nat} {most : Option Nat}
    {i j : Nat} (hi : i ≤ data.length)
    (hbody : ∀ i j, i ≤ data.length →
      ((body.scan (.ofBytes data)).Leads i j ↔ body.Spans data i j)) :
    ((repeated body least most).scan (.ofBytes data)).Leads i j ↔
      (repeated body least most).Spans data i j := by
  have honward := onward_spans data body
  have htimes : ∀ n, Times (body.scan (.ofBytes data)).Leads n i j ↔
      Times (body.Spans data) n i j := fun n => times_congr hbody honward hi
  cases most with
  | none =>
    constructor
    · rintro ⟨k, hik, n, -, hkj⟩
      exact ⟨least + n, Nat.le_add_right least n, nofun, (htimes _).1 (times_add.2 ⟨k, hik, hkj⟩)⟩
    · rintro ⟨n, hleast, -, hij⟩
      obtain ⟨more, rfl⟩ := Nat.exists_eq_add_of_le hleast
      obtain ⟨k, hik, hkj⟩ := times_add.1 hij
      obtain ⟨-, hk⟩ := Times.onward honward least i k hik hi
      obtain ⟨-, hj⟩ := Times.onward honward more k j hkj hk
      obtain ⟨few, hfew, hkj⟩ := hkj.shorten honward hk
      obtain ⟨k, hik, hkj⟩ := times_add.1 ((htimes _).2 (times_add.2 ⟨k, hik, hkj⟩))
      refine ⟨k, hik, few, ?_, hkj⟩
      show few ≤ data.length + 1
      omega
  | some most =>
    constructor
    · rintro ⟨k, hik, n, hn, hkj⟩
      refine ⟨least + n, Nat.le_add_right least n, ?_, (htimes _).1 (times_add.2 ⟨k, hik, hkj⟩)⟩
      rintro _ ⟨⟩
      omega
    · rintro ⟨n, hleast, hmost, hij⟩
      obtain ⟨more, rfl⟩ := Nat.exists_eq_add_of_le hleast
      obtain ⟨k, hik, hkj⟩ := times_add.1 ((htimes _).2 hij)
      have hmost := hmost most rfl
      exact ⟨k, hik, more, by omega, hkj⟩

/-- Laid over a stream, a pattern leads from where a piece begins to where it ends. -/
theorem leads_scan {data : Bytes} {e : Expr} {i j : Nat} (hi : i ≤ data.length) :
    (e.scan (.ofBytes data)).Leads i j ↔ e.Spans data i j := by
  induction e generalizing i j with
  | empty =>
    refine and_iff_left_of_imp ?_
    rintro rfl
    rw [Subject.testBit_places, Bool.and_eq_true, decide_eq_true_eq]
    exact ⟨hi, rfl⟩
  | look assertion =>
    refine and_congr_right ?_
    rintro rfl
    rw [Subject.testBit_places, Bool.and_eq_true, decide_eq_true_eq]
    exact and_iff_right hi
  | one alphabet set =>
    cases alphabet with
    | bytes => exact leads_scan_byte
    | characters => exact leads_scan_character
  | seq a b iha ihb =>
    constructor
    · rintro ⟨k, hik, hkj⟩
      have ha := (iha hi).1 hik
      exact ⟨k, ha, (ihb (onward_spans data a i k ha hi).2).1 hkj⟩
    · rintro ⟨k, ha, hb⟩
      exact ⟨k, (iha hi).2 ha, (ihb (onward_spans data a i k ha hi).2).2 hb⟩
  | alt a b iha ihb => exact or_congr (iha hi) (ihb hi)
  | repeated body least most ih => exact leads_scan_repeated hi fun _ _ => ih

/-- **The search finds a pattern exactly if it describes some piece of the stream.** -/
theorem foundIn_iff {e : Expr} {data : Bytes} :
    e.foundIn (.ofBytes data) = true ↔ ∃ i j, i ≤ data.length ∧ e.Spans data i j := by
  have hplaces : ∀ i, ((Subject.ofBytes data).places fun _ => true).testBit i = true ↔
      i ≤ data.length := by
    intro i
    rw [Subject.testBit_places, Bool.and_true, decide_eq_true_eq]
    rfl
  rw [foundIn, bne_iff_ne]
  constructor
  · intro hfound
    obtain ⟨j, hj⟩ := Nat.exists_testBit_of_ne_zero hfound
    obtain ⟨i, hi, hleads⟩ := (Scan.carries _ _ j).1 hj
    exact ⟨i, j, (hplaces i).1 hi, (leads_scan ((hplaces i).1 hi)).1 hleads⟩
  · rintro ⟨i, j, hi, hspans⟩ hzero
    have hj := (Scan.carries _ _ j).2 ⟨i, (hplaces i).2 hi, (leads_scan hi).2 hspans⟩
    rw [hzero, Nat.zero_testBit] at hj
    cases hj

end Expr

/-- What the standard engine makes of a text is the search for the pattern that the text writes. -/
theorem Engine.standard_compile {text : String} {search : Search}
    (h : Engine.standard.compile? text = some search) :
    ∃ e, read? text = some e ∧
      ∀ data, search data = true ↔ ∃ i j, i ≤ data.length ∧ e.Spans data i j := by
  obtain ⟨e, he, rfl⟩ := Option.map_eq_some_iff.1 h
  exact ⟨e, he, fun _ => Expr.foundIn_iff⟩

end Switchboard.Pattern
