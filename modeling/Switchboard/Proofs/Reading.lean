import Mathlib.Data.List.Basic
import Switchboard.Tls.Cursor

/-!
# What a reader finds

**Shapes.** Which bytes spell a number, a part behind its length, a sequence of items. These
relations know of no cursor.

**Readers.** What a read finds, and what it leaves unread, depends on the bytes ahead of the cursor
only (`Reads`). Most readers take something from the front (`Front`), those that go up to the end of
their part take all there is (`Whole`), and both kinds compose. A part that is read with a cursor of
its own is read from its beginning, and the bytes ahead stay (`reads_inside`).
-/

namespace Switchboard.Tls

/-! ## Numbers, vectors and sequences -/

/-- A number in so many bytes, the most significant byte first. -/
def IsNumber (width n : Nat) (data : Bytes) : Prop :=
  data.length = width ∧ Bytes.bigEndian data = n

/-- A length in so many bytes, and behind it as many bytes as it says. -/
def IsVector (width : Nat) (content data : Bytes) : Prop :=
  ∃ length, IsNumber width content.length length ∧ data = length ++ content

/-- Items one behind the other, and nothing else. -/
inductive IsSequence {α : Type} (IsItem : α → Bytes → Prop) : List α → Bytes → Prop
  | nil : IsSequence IsItem [] []
  | cons {x : α} {xs : List α} {item rest : Bytes} :
      IsItem x item → IsSequence IsItem xs rest → IsSequence IsItem (x :: xs) (item ++ rest)

/-- What begins with a number in some bytes is not empty. -/
theorem IsNumber.append_ne_nil {width n : Nat} {digits : Bytes} (h : IsNumber width n digits)
    (hwidth : 0 < width) (rest : Bytes) : digits ++ rest ≠ [] := by
  intro hnil
  have hlength := h.1
  rw [(List.append_eq_nil_iff.1 hnil).1, List.length_nil] at hlength
  omega

theorem not_isVector_nil {width : Nat} (hwidth : 0 < width) (content : Bytes) :
    ¬ IsVector width content [] := by
  rintro ⟨length, hlength, hnil⟩
  exact hlength.append_ne_nil hwidth content hnil.symm

/-! ## What a reader finds -/

namespace Reader

variable {α β : Type}

/-- A read finds something at a cursor, and leaves some bytes unread. -/
def Finds (read : Reader α) (c : Cursor) (x : α) (rest : Bytes) : Prop :=
  ∃ c', read.run c = (some x, c') ∧ c'.rest = rest

/-- What a read finds, and what it leaves, is told by the bytes ahead of the cursor. -/
def Reads (read : Reader α) (Spells : Bytes → α → Bytes → Prop) : Prop :=
  ∀ c x rest, Finds read c x rest ↔ Spells c.rest x rest

/-- Something stands at the front of the bytes. -/
def Front (Spells : α → Bytes → Prop) (data : Bytes) (x : α) (rest : Bytes) : Prop :=
  ∃ piece, data = piece ++ rest ∧ Spells x piece

/-- Something takes up all of the bytes. -/
def Whole (Spells : α → Bytes → Prop) (data : Bytes) (x : α) (rest : Bytes) : Prop :=
  rest = [] ∧ Spells x data

theorem run_bind (read : Reader α) (next : α → Reader β) (c : Cursor) :
    (read >>= next).run c =
      ((read.run c).1.elim (pure none) fun x => (next x).run) (read.run c).2 := by
  rw [OptionT.run_bind]
  rfl

theorem finds_bind {read : Reader α} {next : α → Reader β} {c : Cursor} {y : β} {rest : Bytes} :
    Finds (read >>= next) c y rest ↔
      ∃ x c', read.run c = (some x, c') ∧ Finds (next x) c' y rest := by
  unfold Finds
  rw [run_bind]
  rcases hrun : read.run c with ⟨_ | x, c₁⟩
  · constructor
    · rintro ⟨_, h, -⟩
      cases h
    · rintro ⟨_, _, h, -⟩
      cases h
  · constructor
    · exact fun h => ⟨x, c₁, rfl, h⟩
    · rintro ⟨_, _, h, hnext⟩
      cases h
      exact hnext

theorem result?_eq_some {read : Reader α} {data : Bytes} {x : α} :
    read.result? data = some x ↔ ∃ rest, Finds read (.start data) x rest := by
  unfold result? Finds
  rcases read.run (.start data) with ⟨found, c'⟩
  constructor
  · intro h
    cases h
    exact ⟨c'.rest, c', rfl, rfl⟩
  · rintro ⟨_, _, h, -⟩
    cases h
    rfl

theorem Reads.result?_eq_some {read : Reader α} {Spells : Bytes → α → Bytes → Prop}
    (h : Reads read Spells) {data : Bytes} {x : α} :
    read.result? data = some x ↔ ∃ rest, Spells data x rest := by
  rw [Reader.result?_eq_some]
  exact exists_congr fun rest => h (.start data) x rest

theorem Reads.congr {read : Reader α} {Spells Spells' : Bytes → α → Bytes → Prop}
    (h : Reads read Spells) (hiff : ∀ data x rest, Spells data x rest ↔ Spells' data x rest) :
    Reads read Spells' :=
  fun c x rest => (h c x rest).trans (hiff c.rest x rest)

/-- Reads one after the other. -/
theorem Reads.bind {read : Reader α} {next : α → Reader β} {Spells : Bytes → α → Bytes → Prop}
    {Next : α → Bytes → β → Bytes → Prop} (hread : Reads read Spells)
    (hnext : ∀ x, Reads (next x) (Next x)) :
    Reads (read >>= next) fun data y rest => ∃ x mid, Spells data x mid ∧ Next x mid y rest := by
  intro c y rest
  rw [finds_bind]
  constructor
  · rintro ⟨x, c', hrun, hfinds⟩
    exact ⟨x, c'.rest, (hread c x c'.rest).1 ⟨c', hrun, rfl⟩, (hnext x c' y rest).1 hfinds⟩
  · rintro ⟨x, mid, hspells, hrest⟩
    obtain ⟨c', hrun, rfl⟩ := (hread c x mid).2 hspells
    exact ⟨x, c', hrun, (hnext x c' y rest).2 hrest⟩

theorem reads_pure (x : α) : Reads (pure x) fun data y rest => y = x ∧ rest = data := by
  intro c y rest
  constructor
  · rintro ⟨_, h, rfl⟩
    cases h
    exact ⟨rfl, rfl⟩
  · rintro ⟨rfl, rfl⟩
    exact ⟨c, rfl, rfl⟩

theorem reads_failure : Reads (failure : Reader α) fun _ _ _ => False := by
  intro c y rest
  refine ⟨?_, False.elim⟩
  rintro ⟨_, h, -⟩
  cases h

/-- The bytes ahead, cut where a read stops. -/
theorem rest_eq_append (c : Cursor) (n : Nat) :
    c.rest = c.rest.take n ++ Cursor.rest { c with position := c.position + n } := by
  rw [Cursor.rest, Cursor.rest, ← List.drop_drop, List.take_append_drop]

theorem reads_take (n : Nat) : Reads (take n) (Front fun x piece => piece = x ∧ x.length = n) := by
  intro c x rest
  have hrun : (take n).run c = c.take n := rfl
  unfold Finds
  rw [hrun]
  constructor
  · rintro ⟨c', h, rfl⟩
    by_cases hn : n ≤ c.rest.length
    · rw [Cursor.take_of_le hn] at h
      cases h
      exact ⟨c.rest.take n, rest_eq_append c n, rfl, List.length_take_of_le hn⟩
    · rw [Cursor.take_of_lt (Nat.not_le.1 hn)] at h
      cases h
  · rintro ⟨piece, hrest, rfl, rfl⟩
    -- Two texts of one length that open the same rest are equal.
    have hn : piece.length ≤ c.rest.length := by
      rw [hrest, List.length_append]
      omega
    have htake : c.rest.take piece.length = piece := by
      rw [hrest, List.take_left]
    refine ⟨_, (Cursor.take_of_le hn).trans (by rw [htake]), ?_⟩
    have hcut := rest_eq_append c piece.length
    rw [htake, hrest] at hcut
    exact (List.append_cancel_left hcut).symm

theorem reads_atEnd : Reads atEnd fun data b rest => b = data.isEmpty ∧ rest = data := by
  intro c b rest
  have hend : c.atEnd = c.rest.isEmpty := by
    rw [Bool.eq_iff_iff, Cursor.atEnd, decide_eq_true_iff, List.isEmpty_iff, Cursor.rest,
      List.drop_eq_nil_iff]
  show Finds (pure c.atEnd) c b rest ↔ b = c.rest.isEmpty ∧ rest = c.rest
  rw [← hend]
  exact reads_pure c.atEnd c b rest

/-- At the end of a part there is something else to find than before it. -/
theorem Reads.ifAtEnd {read : Reader α} {Spells : Bytes → α → Bytes → Prop} (x : α)
    (h : Reads read Spells) :
    Reads (do if ← atEnd then return x else read) fun data y rest =>
      data = [] ∧ y = x ∧ rest = [] ∨ data ≠ [] ∧ Spells data y rest := by
  have hnext : ∀ b : Bool, Reads (if b then pure x else read) fun data y rest =>
      if b then y = x ∧ rest = data else Spells data y rest := by
    intro b
    cases b with
    | true => exact reads_pure x
    | false => exact h
  refine (reads_atEnd.bind hnext).congr fun data y rest => ?_
  cases data with
  | nil => simp
  | cons b data => simp

/-- A read that some condition forbids. -/
theorem Reads.unless {read : Reader α} {Spells : Bytes → α → Bytes → Prop} (h : Reads read Spells)
    (p : Prop) [Decidable p] :
    Reads (do
        if p then failure
        read)
      fun data x rest => ¬ p ∧ Spells data x rest := by
  by_cases hp : p
  · simp only [if_pos hp]
    refine (reads_failure.bind fun _ => h).congr fun data x rest => ?_
    exact ⟨fun ⟨_, _, hfalse, _⟩ => hfalse.elim, fun hnot => (hnot.1 hp).elim⟩
  · simp only [if_neg hp]
    exact h.congr fun data x rest => (and_iff_right hp).symm

/-- A part of its own is read from its beginning, and the bytes ahead stay. -/
theorem reads_inside (part : Bytes) (read : Reader α) :
    Reads (inside part read) fun data x rest => read.result? part = some x ∧ rest = data := by
  intro c x rest
  unfold inside
  cases read.result? part with
  | none =>
    refine (reads_failure c x rest).trans ⟨False.elim, ?_⟩
    rintro ⟨h, -⟩
    cases h
  | some y =>
    refine (reads_pure y c x rest).trans (and_congr_left fun _ => ?_)
    rw [Option.some.injEq, eq_comm]

/-! ## Reading numbers, vectors and sequences -/

theorem reads_number (width : Nat) : Reads (number width) (Front (IsNumber width)) := by
  refine ((reads_take width).bind fun digits => reads_pure (Bytes.bigEndian digits)).congr ?_
  intro data n rest
  constructor
  · rintro ⟨_, _, ⟨digits, rfl, rfl, hlength⟩, rfl, rfl⟩
    exact ⟨digits, rfl, hlength, rfl⟩
  · rintro ⟨digits, rfl, hlength, rfl⟩
    exact ⟨digits, rest, ⟨digits, rfl, rfl, hlength⟩, rfl, rfl⟩

theorem reads_vector (width : Nat) : Reads (vector width) (Front (IsVector width)) := by
  refine ((reads_number width).bind reads_take).congr ?_
  intro data content rest
  constructor
  · rintro ⟨_, _, ⟨length, rfl, hlength⟩, _, rfl, rfl, rfl⟩
    exact ⟨_, (List.append_assoc _ _ _).symm, length, hlength, rfl⟩
  · rintro ⟨_, rfl, length, hlength, rfl⟩
    exact ⟨_, _, ⟨length, List.append_assoc _ _ _, hlength⟩, content, rfl, rfl, rfl⟩

theorem reads_remainder : Reads remainder (Whole fun x data => x = data) := by
  intro c x rest
  refine (reads_take c.rest.length c x rest).trans ⟨?_, ?_⟩
  · rintro ⟨piece, hrest, rfl, hlength⟩
    have hnil : rest.length = 0 := by
      rw [hrest, List.length_append] at hlength
      omega
    rw [List.length_eq_zero_iff.1 hnil, List.append_nil] at hrest
    exact ⟨List.length_eq_zero_iff.1 hnil, hrest.symm⟩
  · rintro ⟨rfl, rfl⟩
    exact ⟨_, (List.append_nil _).symm, rfl, rfl⟩

variable {item : Reader α} {IsItem : α → Bytes → Prop}

theorem length_le_of_isSequence (hne : ∀ x, ¬ IsItem x []) {xs : List α} {data : Bytes}
    (h : IsSequence IsItem xs data) : xs.length ≤ data.length := by
  induction h with
  | nil => exact Nat.le_refl 0
  | @cons x xs item rest hitem _ ih =>
    have hpos : 0 < item.length := List.length_pos_iff.2 fun hnil => hne x (hnil ▸ hitem)
    rw [List.length_cons, List.length_append]
    omega

/-- With some fuel, so many items are found at most. -/
theorem reads_itemsWithin (hitem : Reads item (Front IsItem)) (hne : ∀ x, ¬ IsItem x [])
    (fuel : Nat) :
    Reads (itemsWithin item fuel)
      (Whole fun xs data => IsSequence IsItem xs data ∧ xs.length ≤ fuel) := by
  induction fuel with
  | zero =>
    refine (reads_failure.ifAtEnd []).congr fun data xs rest => ?_
    constructor
    · rintro (⟨rfl, rfl, rfl⟩ | ⟨-, h⟩)
      · exact ⟨rfl, .nil, Nat.le_refl 0⟩
      · exact h.elim
    · rintro ⟨rfl, hxs, hlength⟩
      obtain rfl := List.length_eq_zero_iff.1 (Nat.le_zero.1 hlength)
      cases hxs
      exact .inl ⟨rfl, rfl, rfl⟩
  | succ fuel ih =>
    refine ((hitem.bind fun x => ih.bind fun xs => reads_pure (x :: xs)).ifAtEnd []).congr
      fun data xs rest => ?_
    constructor
    · rintro (⟨rfl, rfl, rfl⟩ | ⟨-, x, _, ⟨piece, rfl, hx⟩, xs, _, ⟨rfl, hxs, hlength⟩, rfl, rfl⟩)
      · exact ⟨rfl, .nil, Nat.zero_le _⟩
      · exact ⟨rfl, .cons hx hxs, Nat.succ_le_succ hlength⟩
    · rintro ⟨rfl, hxs, hlength⟩
      cases hxs with
      | nil => exact .inl ⟨rfl, rfl, rfl⟩
      | @cons x xs piece rest hx hxs =>
        -- No item spells the empty text, so the reader does not stop in front of one.
        have hdata : piece ++ rest ≠ [] := fun hnil =>
          hne x ((List.append_eq_nil_iff.1 hnil).1 ▸ hx)
        exact .inr ⟨hdata, x, rest, ⟨piece, rfl, hx⟩, xs, [],
          ⟨rfl, hxs, Nat.le_of_succ_le_succ hlength⟩, rfl, rfl⟩

theorem reads_items (hitem : Reads item (Front IsItem)) (hne : ∀ x, ¬ IsItem x []) :
    Reads (items item) (Whole (IsSequence IsItem)) := by
  intro c xs rest
  refine (reads_itemsWithin hitem hne c.rest.length c xs rest).trans ?_
  exact and_congr_right fun _ => and_iff_left_of_imp (length_le_of_isSequence hne)

theorem result?_items (hitem : Reads item (Front IsItem)) (hne : ∀ x, ¬ IsItem x []) {part : Bytes}
    {xs : List α} : (items item).result? part = some xs ↔ IsSequence IsItem xs part := by
  rw [(reads_items hitem hne).result?_eq_some]
  exact ⟨fun ⟨_, _, h⟩ => h, fun h => ⟨[], rfl, h⟩⟩

end Reader

end Switchboard.Tls
