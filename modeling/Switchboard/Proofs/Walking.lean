import Mathlib.Logic.Function.Iterate
import Switchboard.Proofs.Scripts

/-!
# Following a script

**The state** (`Walk`). What is left of a script, the cursor that it moves, and what waits until it
has come to its end (`Frames`): cursors over wholes of which a part is being read, and loops of
which an item is being read. When a read fails, nothing is left to do, and all cursors stay where
they are.

**Steps.** A step does one thing of the script: a read, a look, a decision of a loop. What a step
can be is said once (`Walk.Moves`), and what every step keeps is shown by cases on it.

**Bounds.** No cursor is ever behind the end of its buffer. The cursor of a part has the bytes that
the cursor over the whole has passed last, and that one waits right behind them (`Nested`). A read
hands out the bytes between its two places (`Access.Exact`).

Main results: `Walk.nested_run` and `Walk.exact_run`.
-/

namespace Switchboard.Tls

/-! ## Moving a cursor -/

namespace Cursor

/-- The cursor is in its buffer, or right behind it. -/
def InBounds (c : Cursor) : Prop := c.position ≤ c.buffer.length

def skip (c : Cursor) (n : Nat) : Cursor := { c with position := c.position + n }

@[simp] theorem buffer_skip (c : Cursor) (n : Nat) : (c.skip n).buffer = c.buffer := rfl

@[simp] theorem position_skip (c : Cursor) (n : Nat) : (c.skip n).position = c.position + n := rfl

theorem length_rest_skip (c : Cursor) (n : Nat) :
    (c.skip n).rest.length = c.rest.length - n := by
  rw [length_rest, length_rest, buffer_skip, position_skip, Nat.sub_sub]

theorem inBounds_start (buffer : Bytes) : (start buffer).InBounds := Nat.zero_le _

theorem InBounds.skip {c : Cursor} {n : Nat} (h : c.InBounds) (hn : n ≤ c.rest.length) :
    (c.skip n).InBounds := by
  unfold InBounds at h ⊢
  rw [length_rest] at hn
  rw [buffer_skip, position_skip]
  omega

/-- The bytes ahead are those that are missing to the end: nothing is cut off at zero. -/
theorem InBounds.length_rest_add {c : Cursor} (h : c.InBounds) :
    c.rest.length + c.position = c.buffer.length := by
  rw [length_rest]
  exact Nat.sub_add_cancel h

theorem atEnd_iff {c : Cursor} : c.atEnd = true ↔ c.rest.length = 0 := by
  rw [atEnd, decide_eq_true_iff, length_rest, Nat.sub_eq_zero_iff_le]

theorem take_rest (c : Cursor) (n : Nat) :
    c.rest.take n = c.buffer.extract c.position (c.position + n) := by
  rw [List.extract_eq_take_drop, Nat.add_sub_cancel_left, rest]

end Cursor

/-! ## Walks -/

/-- What waits until a script has come to its end. -/
inductive Frames : Type → Type → Type 1
  | nil {ρ : Type} : Frames ρ ρ
  /-- The cursor over a whole, and how it goes on when the part has been read. -/
  | whole {α β ρ : Type} (cursor : Cursor) (next : α → Script β) (outer : Frames β ρ) : Frames α ρ
  /-- A loop that reads an item, in an iteration that has begun at `start`. -/
  | iteration {α β ρ : Type} (kind : Loop) (item : Script α) (next : List α → Script β)
      (start : Cursor) (outer : Frames β ρ) : Frames α ρ

/-- A script that is being followed, for a result in the end. -/
inductive Walk (ρ : Type) : Type 1
  | going {α : Type} (script : Script α) (cursor : Cursor) (frames : Frames α ρ) : Walk ρ
  /-- The walk has come to its end, with the cursors at these places. -/
  | ended (result : Option ρ) (cursors : List Cursor) : Walk ρ

def Frames.cursors {α ρ : Type} : Frames α ρ → List Cursor
  | nil => []
  | whole cursor _ outer => cursor :: outer.cursors
  | iteration _ _ _ _ outer => outer.cursors

/-- What goes on when a script has come to its end. -/
def Frames.resume {α ρ : Type} : Frames α ρ → α → Cursor → Walk ρ
  | nil, x, c => .ended (some x) [c]
  | whole cursor next outer, x, _ => .going (next x) cursor outer
  | iteration kind item next _ outer, x, c =>
    .going (.loop kind item fun xs => next (x :: xs)) c outer

namespace Walk

variable {ρ : Type}

def cursors : Walk ρ → List Cursor
  | going _ c frames => c :: frames.cursors
  | ended _ cursors => cursors

def step : Walk ρ → Walk ρ
  | going (.done x) c frames => frames.resume x c
  | going .fail c frames => ended none (c :: frames.cursors)
  | going (.take n next) c frames =>
    match c.take n with
    | (some piece, after) => going (next piece) after frames
    | (none, after) => ended none (after :: frames.cursors)
  | going (.look next) c frames => going (next c) c frames
  | going (.part n content next) c frames =>
    match c.take n with
    | (some piece, after) => going content (.start piece) (.whole after next frames)
    | (none, after) => ended none (after :: frames.cursors)
  | going (.loop kind item next) c frames =>
    if c.atEnd then going (next []) c frames
    else going item c (.iteration kind item next c frames)
  | ended result cursors => ended result cursors

/-- What a step can be. -/
inductive Moves : Walk ρ → Walk ρ → Prop
  | finish {x : ρ} {c : Cursor} : Moves (going (.done x) c .nil) (ended (some x) [c])
  | leave {α β : Type} {x : α} {c cursor : Cursor} {next : α → Script β} {outer : Frames β ρ} :
      Moves (going (.done x) c (.whole cursor next outer)) (going (next x) cursor outer)
  | again {α β : Type} {x : α} {c start : Cursor} {kind : Loop} {item : Script α}
      {next : List α → Script β} {outer : Frames β ρ} :
      Moves (going (.done x) c (.iteration kind item next start outer))
        (going (.loop kind item fun xs => next (x :: xs)) c outer)
  | fail {α : Type} {c : Cursor} {frames : Frames α ρ} :
      Moves (going .fail c frames) (ended none (c :: frames.cursors))
  | take {α : Type} {n : Nat} {next : Bytes → Script α} {c : Cursor} {frames : Frames α ρ} :
      n ≤ c.rest.length →
      Moves (going (.take n next) c frames) (going (next (c.rest.take n)) (c.skip n) frames)
  | missTake {α : Type} {n : Nat} {next : Bytes → Script α} {c : Cursor} {frames : Frames α ρ} :
      c.rest.length < n →
      Moves (going (.take n next) c frames) (ended none (c :: frames.cursors))
  | look {α : Type} {next : Cursor → Script α} {c : Cursor} {frames : Frames α ρ} :
      Moves (going (.look next) c frames) (going (next c) c frames)
  | enter {α β : Type} {n : Nat} {content : Script β} {next : β → Script α} {c : Cursor}
      {frames : Frames α ρ} : n ≤ c.rest.length →
      Moves (going (.part n content next) c frames)
        (going content (.start (c.rest.take n)) (.whole (c.skip n) next frames))
  | missPart {α β : Type} {n : Nat} {content : Script β} {next : β → Script α} {c : Cursor}
      {frames : Frames α ρ} : c.rest.length < n →
      Moves (going (.part n content next) c frames) (ended none (c :: frames.cursors))
  | begin {α β : Type} {kind : Loop} {item : Script β} {next : List β → Script α} {c : Cursor}
      {frames : Frames α ρ} : c.atEnd = false →
      Moves (going (.loop kind item next) c frames)
        (going item c (.iteration kind item next c frames))
  | endLoop {α β : Type} {kind : Loop} {item : Script β} {next : List β → Script α} {c : Cursor}
      {frames : Frames α ρ} : c.atEnd = true →
      Moves (going (.loop kind item next) c frames) (going (next []) c frames)
  | stay {result : Option ρ} {cursors : List Cursor} :
      Moves (ended result cursors) (ended result cursors)

variable {α β : Type} {n : Nat} {c : Cursor} {frames : Frames α ρ}

theorem step_take_of_le {next : Bytes → Script α} (hn : n ≤ c.rest.length) :
    step (going (.take n next) c frames) = going (next (c.rest.take n)) (c.skip n) frames := by
  rw [step, Cursor.take_of_le hn, Cursor.skip]

theorem step_take_of_lt {next : Bytes → Script α} (hn : c.rest.length < n) :
    step (going (.take n next) c frames) = ended none (c :: frames.cursors) := by
  rw [step, Cursor.take_of_lt hn]

theorem step_part_of_le {content : Script β} {next : β → Script α} (hn : n ≤ c.rest.length) :
    step (going (.part n content next) c frames) =
      going content (.start (c.rest.take n)) (.whole (c.skip n) next frames) := by
  rw [step, Cursor.take_of_le hn, Cursor.skip]

theorem step_part_of_lt {content : Script β} {next : β → Script α} (hn : c.rest.length < n) :
    step (going (.part n content next) c frames) = ended none (c :: frames.cursors) := by
  rw [step, Cursor.take_of_lt hn]

theorem moves_resume (x : α) (c : Cursor) (frames : Frames α ρ) :
    Moves (going (.done x) c frames) (frames.resume x c) := by
  cases frames with
  | nil => exact .finish
  | whole cursor next outer => exact .leave
  | iteration kind item next start outer => exact .again

theorem moves_step (s : Walk ρ) : Moves s s.step := by
  cases s with
  | ended result cursors => exact .stay
  | going script c frames =>
    cases script with
    | done x => exact moves_resume x c frames
    | fail => exact .fail
    | look next => exact .look
    | take n next =>
      -- Enough bytes are left, or the reader fails here.
      by_cases hn : n ≤ c.rest.length
      · rw [step_take_of_le hn]
        exact .take hn
      · rw [step_take_of_lt (Nat.not_le.1 hn)]
        exact .missTake (Nat.not_le.1 hn)
    | part n content next =>
      by_cases hn : n ≤ c.rest.length
      · rw [step_part_of_le hn]
        exact .enter hn
      · rw [step_part_of_lt (Nat.not_le.1 hn)]
        exact .missPart (Nat.not_le.1 hn)
    | loop kind item next =>
      rw [step]
      by_cases hend : c.atEnd = true
      · rw [if_pos hend]
        exact .endLoop hend
      · rw [if_neg hend]
        exact .begin (Bool.eq_false_iff.2 hend)

def run (s : Walk ρ) (n : Nat) : Walk ρ := step^[n] s

theorem run_succ (s : Walk ρ) (n : Nat) : s.run (n + 1) = (s.run n).step :=
  Function.iterate_succ_apply' step n s

/-- The beginning of a walk through a buffer. -/
def start (script : Script ρ) (buffer : Bytes) : Walk ρ := going script (.start buffer) .nil

end Walk

/-! ## Bounds -/

/-- Cursors over parts of parts of a whole, the innermost first. -/
inductive Nested (whole : Bytes) : List Cursor → Prop
  | outermost {c : Cursor} : c.buffer = whole → c.InBounds → Nested whole [c]
  /-- The cursor of a part has a slice of what the next one has passed, up to where that one is. -/
  | part {c parent : Cursor} {outer : List Cursor} {first : Nat} :
      c.InBounds → first ≤ parent.position →
      c.buffer = parent.buffer.extract first parent.position → Nested whole (parent :: outer) →
      Nested whole (c :: parent :: outer)

namespace Nested

variable {whole : Bytes} {c parent : Cursor} {outer : List Cursor}

theorem head (h : Nested whole (c :: outer)) : c.InBounds := by
  cases h with
  | outermost _ hc => exact hc
  | part hc _ _ _ => exact hc

theorem tail (h : Nested whole (c :: parent :: outer)) : Nested whole (parent :: outer) := by
  cases h with
  | part _ _ _ houter => exact houter

theorem inBounds {cursors : List Cursor} (h : Nested whole cursors) :
    ∀ c ∈ cursors, c.InBounds := by
  induction h with
  | outermost _ hc => simpa using hc
  | part hc _ _ _ ih => exact List.forall_mem_cons.2 ⟨hc, ih⟩

theorem skip {n : Nat} (h : Nested whole (c :: outer)) (hn : n ≤ c.rest.length) :
    Nested whole (c.skip n :: outer) := by
  have hskip := h.head.skip hn
  cases h with
  | outermost hbuffer _ => exact .outermost hbuffer hskip
  | part _ hfirst hslice houter => exact .part hskip hfirst hslice houter

/-- The part is what the cursor over the whole has just passed. -/
theorem enter {n : Nat} (h : Nested whole (c :: outer)) (hn : n ≤ c.rest.length) :
    Nested whole (.start (c.rest.take n) :: c.skip n :: outer) :=
  .part (Cursor.inBounds_start _) (Nat.le_add_right _ n) (c.take_rest n) (h.skip hn)

theorem moves {ρ : Type} {s t : Walk ρ} (h : Nested whole s.cursors) (hmoves : s.Moves t) :
    Nested whole t.cursors := by
  cases hmoves with
  | leave => exact h.tail
  | take hn => exact h.skip hn
  | enter hn => exact h.enter hn
  | finish | again | fail | missTake _ | look | missPart _ | begin _ | endLoop _ | stay => exact h

end Nested

/-- **All cursors of a walk stay within their buffers, and these are parts of each other.** -/
theorem Walk.nested_run {ρ : Type} (script : Script ρ) (buffer : Bytes) (n : Nat) :
    Nested buffer ((Walk.start script buffer).run n).cursors := by
  induction n with
  | zero => exact .outermost rfl (Cursor.inBounds_start buffer)
  | succ n ih =>
    rw [run_succ]
    exact ih.moves (moves_step _)

/-! ## Reads -/

/-- A read: the cursor before it, how much it asks for, what it finds, and the cursor after it. -/
structure Access where
  before : Cursor
  width : Nat
  found : Option Bytes
  after : Cursor

def Access.of (c : Cursor) (n : Nat) : Access := ⟨c, n, (c.take n).1, (c.take n).2⟩

/-- The read that a walk is about to do, if it is to read something. -/
def Walk.access? : Walk ρ → Option Access
  | going (.take n _) c _ | going (.part n _ _) c _ => some (.of c n)
  | going (.done _) _ _ | going .fail _ _ | going (.look _) _ _ | going (.loop _ _ _) _ _
  | ended _ _ => none

/-- A read finds all the bytes that it asks for or nothing, and it stays in bounds. -/
structure Access.Exact (access : Access) : Prop where
  buffer : access.after.buffer = access.before.buffer
  inBounds : access.after.InBounds
  /-- The bytes found are those that the cursor passes. -/
  hit : ∀ piece, access.found = some piece →
    piece.length = access.width ∧
    access.after.position = access.before.position + piece.length ∧
    piece = access.before.buffer.extract access.before.position access.after.position
  /-- A read fails only where there is too little to read, and then the cursor does not move. -/
  miss : access.found = none → access.before.rest.length < access.width ∧
    access.after = access.before

theorem Access.exact_of {c : Cursor} (h : c.InBounds) (n : Nat) : (Access.of c n).Exact := by
  by_cases hn : n ≤ c.rest.length
  · have hlength : (c.rest.take n).length = n := List.length_take_of_le hn
    have hof : Access.of c n = ⟨c, n, some (c.rest.take n), c.skip n⟩ := by
      rw [Access.of, Cursor.take_of_le hn, Cursor.skip]
    rw [hof]
    refine ⟨rfl, h.skip hn, ?_, nofun⟩
    intro piece hpiece
    obtain rfl := Option.some_inj.1 hpiece
    exact ⟨hlength, congrArg (c.position + ·) hlength.symm, c.take_rest n⟩
  · have hlt := Nat.not_le.1 hn
    have hof : Access.of c n = ⟨c, n, none, c⟩ := by
      rw [Access.of, Cursor.take_of_lt hlt]
    rw [hof]
    exact ⟨rfl, h, nofun, fun _ => ⟨hlt, rfl⟩⟩

namespace Walk

variable {ρ : Type} {access : Access}

/-- A read moves one of the cursors, and the walk goes on with the cursor after it. -/
theorem exists_of_access? {s : Walk ρ} (h : s.access? = some access) :
    ∃ c n, access = .of c n ∧ c ∈ s.cursors ∧ access.after ∈ s.step.cursors := by
  cases s with
  | ended result cursors => cases h
  | going script c frames =>
    -- Only `take` and `part` touch the data.
    cases script with
    | done x | fail | look next | loop kind item next => cases h
    | take n next =>
      obtain rfl := Option.some_inj.1 h
      refine ⟨c, n, rfl, List.mem_cons_self, ?_⟩
      by_cases hn : n ≤ c.rest.length
      · simp [step_take_of_le hn, Access.of, Cursor.take_of_le hn, cursors, Cursor.skip]
      · have hlt := Nat.not_le.1 hn
        simp [step_take_of_lt hlt, Access.of, Cursor.take_of_lt hlt, cursors]
    | part n content next =>
      obtain rfl := Option.some_inj.1 h
      refine ⟨c, n, rfl, List.mem_cons_self, ?_⟩
      by_cases hn : n ≤ c.rest.length
      · simp [step_part_of_le hn, Access.of, Cursor.take_of_le hn, cursors, Frames.cursors,
          Cursor.skip]
      · have hlt := Nat.not_le.1 hn
        simp [step_part_of_lt hlt, Access.of, Cursor.take_of_lt hlt, cursors]

/-- **Every read of a walk is exact.** -/
theorem exact_run {script : Script ρ} {buffer : Bytes} {n : Nat}
    (h : ((start script buffer).run n).access? = some access) :
    access.Exact ∧ access.before ∈ ((start script buffer).run n).cursors ∧
      access.after ∈ ((start script buffer).run (n + 1)).cursors := by
  obtain ⟨c, width, rfl, hbefore, hafter⟩ := exists_of_access? h
  have hbounds := (nested_run script buffer n).inBounds c hbefore
  rw [run_succ]
  exact ⟨Access.exact_of hbounds width, hbefore, hafter⟩

end Walk

end Switchboard.Tls
