import Mathlib.Data.List.Basic
import Switchboard.Relay

/-!
# What a relay delivers

**Runs.** A run is a fold of a partial step over its moves, here and wherever a relay is looked at
more closely. What each move keeps, a run keeps (`foldlM_invariant`), and a system that follows
another one move by move follows its runs (`foldlM_map`).

**The lane** (`Lane.Within`). What a lane has delivered is a beginning of its source, which is what
was written before and then the stream that it reads. As long as nothing fails, the rest of the
source is still ahead; a lane that fails may lose what it has read.

**The relay.** Its lanes do not share anything, so a move in one direction keeps what is true of the
other, and a run keeps both lanes within their sources (`Relay.Within.run?`). Without failures a
lane delivers all of its source (`Lane.settle_eq`).

**Serving.** A relay that is served on a machine keeps no bytes, and hears of each round of its
lanes what the machine reports. It comes as far as the relay does in every run of it
(`Relay.foldl_hear_reports`).
-/

namespace Switchboard

/-! ## Runs -/

section Runs

variable {σ μ : Type} {step : σ → μ → Option σ} {p : μ → Prop} {moves : List μ} {x y z : σ}

/-- What every move of a run keeps, the run keeps. -/
theorem foldlM_invariant {P : σ → Prop}
    (hstep : ∀ move ∈ moves, ∀ x y, P x → step x move = some y → P y) (h : P x)
    (hrun : moves.foldlM step x = some y) : P y := by
  induction moves generalizing x with
  | nil =>
    cases hrun
    exact h
  | cons move moves ih =>
    obtain ⟨between, hfirst, hrest⟩ := Option.bind_eq_some_iff.1 hrun
    rw [List.forall_mem_cons] at hstep
    exact ih hstep.2 (hstep.1 x between h hfirst) hrest

/-- What follows every move of another system follows its runs. -/
theorem foldlM_map {σ' μ' : Type} {step' : σ' → μ' → Option σ'} {f : σ → σ'} {g : μ → μ'}
    (hstep : ∀ x move y, step x move = some y → step' (f x) (g move) = some (f y))
    (hrun : moves.foldlM step x = some y) :
    (moves.map g).foldlM step' (f x) = some (f y) := by
  induction moves generalizing x with
  | nil =>
    cases hrun
    rfl
  | cons move moves ih =>
    obtain ⟨between, hfirst, hrest⟩ := Option.bind_eq_some_iff.1 hrun
    rw [List.map_cons, List.foldlM_cons, hstep x move between hfirst]
    exact ih hrest

/-- Moves of one sort lead from one state to another. -/
def Leads (step : σ → μ → Option σ) (p : μ → Prop) (x y : σ) : Prop :=
  ∃ moves : List μ, (∀ move ∈ moves, p move) ∧ moves.foldlM step x = some y

theorem Leads.refl (x : σ) : Leads step p x x := ⟨[], nofun, rfl⟩

theorem Leads.trans (h : Leads step p x y) (hrest : Leads step p y z) : Leads step p x z := by
  obtain ⟨moves, hmoves, hrun⟩ := h
  obtain ⟨more, hmore, hrunMore⟩ := hrest
  refine ⟨moves ++ more, List.forall_mem_append.2 ⟨hmoves, hmore⟩, ?_⟩
  rw [List.foldlM_append, hrun]
  exact hrunMore

theorem Leads.head {move : μ} (hmove : p move) (hstep : step x move = some y)
    (h : Leads step p y z) : Leads step p x z := by
  obtain ⟨moves, hmoves, hrun⟩ := h
  refine ⟨move :: moves, List.forall_mem_cons.2 ⟨hmove, hmoves⟩, ?_⟩
  rw [List.foldlM_cons, hstep]
  exact hrun

end Runs

/-! ## Lanes -/

namespace Lane

variable {size : Nat} {lane next : Lane} {source : Bytes} {move : LaneMove}

/-- A lane on its way through a source. -/
structure Within (source : Bytes) (lane : Lane) : Prop where
  delivered : lane.delivered <+: source
  conserved : lane.state ≠ .broken → lane.delivered ++ lane.ahead = source
  finished : lane.state = .finished → lane.ahead = []

theorem within_start (written ahead : Bytes) : Within (written ++ ahead) (start written ahead) where
  delivered := List.prefix_append _ _
  conserved _ := rfl
  finished := nofun

/-- A lane that has finished has delivered everything. -/
theorem Within.delivered_of_finished (h : Within source lane) (hstate : lane.state = .finished) :
    lane.delivered = source := by
  have hall := h.conserved (by rw [hstate]; nofun)
  rwa [h.finished hstate, List.append_nil] at hall

theorem step?_of_copying (hstate : lane.state = .copying) :
    lane.step? size move =
      match move with
      | .copy count =>
        if 1 ≤ count ∧ count ≤ size ∧ count ≤ lane.ahead.length then
          some { lane with
            ahead := lane.ahead.drop count
            delivered := lane.delivered ++ lane.ahead.take count }
        else none
      | .finish =>
        if lane.ahead = [] ∨ size = 0 then some { lane with state := .finished } else none
      | .fail count written =>
        if written ≤ count ∧ count ≤ size ∧ count ≤ lane.ahead.length then
          some
            { ahead := lane.ahead.drop count
              delivered := lane.delivered ++ lane.ahead.take written
              state := .broken }
        else none :=
  if_neg (not_not.2 hstate)

theorem step?_of_not_copying (hstate : lane.state ≠ .copying) : lane.step? size move = none :=
  if_pos hstate

theorem state_of_step? (h : lane.step? size move = some next) : lane.state = .copying := by
  by_contra hstate
  rw [step?_of_not_copying hstate] at h
  cases h

/-- A move goes on within the source. -/
theorem Within.step? (hsize : 1 ≤ size) (h : Within source lane)
    (hstep : lane.step? size move = some next) : Within source next := by
  -- Only a copying lane moves, and while it copies no byte is lost.
  have hstate := state_of_step? hstep
  have hall : lane.delivered ++ lane.ahead = source := h.conserved (by rw [hstate]; nofun)
  have hsplit : ∀ count,
      (lane.delivered ++ lane.ahead.take count) ++ lane.ahead.drop count = source := by
    intro count
    rw [List.append_assoc, List.take_append_drop, hall]
  rw [step?_of_copying hstate] at hstep
  cases move with
  | copy count =>
    simp only [Option.ite_none_right_eq_some, Option.some.injEq] at hstep
    obtain ⟨-, rfl⟩ := hstep
    exact ⟨⟨_, hsplit count⟩, fun _ => hsplit count, fun hfinished => by
      rw [hstate] at hfinished
      cases hfinished⟩
  | finish =>
    simp only [Option.ite_none_right_eq_some, Option.some.injEq] at hstep
    obtain ⟨hahead | hzero, rfl⟩ := hstep
    · exact ⟨h.delivered, fun _ => hall, fun _ => hahead⟩
    · omega
  | fail count written =>
    simp only [Option.ite_none_right_eq_some, Option.some.injEq] at hstep
    obtain ⟨-, rfl⟩ := hstep
    exact ⟨⟨_, hsplit written⟩, fun hne => absurd rfl hne, nofun⟩

theorem smoothly_of_not_copying (hstate : lane.state ≠ .copying) (n : Nat) :
    lane.smoothly size n = lane := by
  cases n with
  | zero => rfl
  | succ n => rw [smoothly, step?_of_not_copying hstate]

theorem smoothly_eq (hsize : 1 ≤ size) (hstate : lane.state = .copying) {n : Nat}
    (hn : lane.ahead.length < n) :
    lane.smoothly size n = ⟨[], lane.delivered ++ lane.ahead, .finished⟩ := by
  -- By induction on the moves left: a copy moves at least one byte, so the lane runs out first.
  induction n generalizing lane with
  | zero => exact absurd hn (Nat.not_lt_zero _)
  | succ n ih =>
    rw [smoothly, step?_of_copying hstate, smoothMove]
    by_cases hahead : lane.ahead = []
    · have hend : lane.ahead.isEmpty = true ∨ size = 0 := .inl (List.isEmpty_iff.2 hahead)
      simp only [if_pos hend, if_pos (Or.inl hahead)]
      rw [smoothly_of_not_copying (by nofun), hahead, List.append_nil]
    · have hpos : 0 < lane.ahead.length := List.length_pos_iff.2 hahead
      have hmore : ¬ (lane.ahead.isEmpty = true ∨ size = 0) := by
        rw [List.isEmpty_iff, not_or]
        exact ⟨hahead, by omega⟩
      have hcount : 1 ≤ min size lane.ahead.length ∧ min size lane.ahead.length ≤ size ∧
          min size lane.ahead.length ≤ lane.ahead.length := by omega
      have hless : (lane.ahead.drop (min size lane.ahead.length)).length < n := by
        rw [List.length_drop]
        omega
      have hrest := @ih { lane with
        ahead := lane.ahead.drop (min size lane.ahead.length)
        delivered := lane.delivered ++ lane.ahead.take (min size lane.ahead.length) } hstate hless
      rw [List.append_assoc, List.take_append_drop] at hrest
      simp only [if_neg hmore, if_pos hcount]
      exact hrest

/-- **Without failures a lane delivers all that is ahead.** -/
theorem settle_eq (hsize : 1 ≤ size) (hstate : lane.state = .copying) :
    lane.settle size = ⟨[], lane.delivered ++ lane.ahead, .finished⟩ :=
  smoothly_eq hsize hstate (Nat.lt_succ_self _)

end Lane

/-! ## Relays -/

namespace Relay

variable {size : Nat} {relay next : Relay} {source reply : Bytes}

/-- Both lanes are within their sources. -/
structure Within (source reply : Bytes) (relay : Relay) : Prop where
  toBackend : relay.toBackend.Within source
  toClient : relay.toClient.Within reply

theorem within_start (prelude client backend : Bytes) :
    Within (prelude ++ client) backend (start prelude client backend) :=
  ⟨Lane.within_start prelude client, Lane.within_start [] backend⟩

theorem Within.step? {move : Direction × LaneMove} (hsize : 1 ≤ size)
    (h : Within source reply relay) (hstep : relay.step? size move = some next) :
    Within source reply next := by
  obtain ⟨direction, move⟩ := move
  cases direction with
  | toBackend =>
    obtain ⟨lane, hlane, rfl⟩ := Option.map_eq_some_iff.1 hstep
    exact ⟨h.toBackend.step? hsize hlane, h.toClient⟩
  | toClient =>
    obtain ⟨lane, hlane, rfl⟩ := Option.map_eq_some_iff.1 hstep
    exact ⟨h.toBackend, h.toClient.step? hsize hlane⟩

/-- **A run keeps both lanes within their sources.** -/
theorem Within.run? {moves : List (Direction × LaneMove)} (hsize : 1 ≤ size)
    (h : Within source reply relay) (hrun : relay.run? size moves = some next) :
    Within source reply next :=
  foldlM_invariant (fun _ _ _ _ hwithin hstep => hwithin.step? hsize hstep) h hrun

theorem run?_concat (size : Nat) (relay : Relay) (moves : List (Direction × LaneMove))
    (move : Direction × LaneMove) :
    relay.run? size (moves ++ [move]) = (relay.run? size moves).bind (·.step? size move) := by
  rw [run?, run?, List.foldlM_append]
  simp

end Relay

/-! ## Served relays -/

namespace Lane

variable {size count written : Nat} {lane next : Lane} {move : LaneMove}

/-- What a machine reports of a lane's move. -/
def reportOf (lane : Lane) : LaneMove → LaneReport
  | .copy count => .copied (lane.ahead.take count)
  | .finish => .ended
  | .fail 0 _ => .readFailed
  | .fail (count + 1) _ => .writeFailed (lane.ahead.take (count + 1))

/-- **A served lane comes as far as the lane.** It has seen the bytes of one round only, and of a
write that failed it does not know how far it got. -/
theorem hear_reportOf (h : lane.step? size move = some next) :
    lane.bare.hear size (lane.reportOf move) = next.bare := by
  have hstate := state_of_step? h
  have hserved : { lane.bare with ahead := (lane.reportOf move).data }.state = .copying := hstate
  rw [step?_of_copying hstate] at h
  rw [hear, step?_of_copying hserved]
  -- In each case the round is possible for the bytes of the round alone.
  cases move with
  | copy count =>
    obtain ⟨⟨hpos, hsize, hahead⟩, hnext⟩ := Option.ite_none_right_eq_some.1 h
    cases hnext
    have hlength := List.length_take_of_le hahead
    simp [reportOf, LaneReport.data, LaneReport.move, hlength, hpos, hsize, bare]
  | finish =>
    obtain ⟨-, hnext⟩ := Option.ite_none_right_eq_some.1 h
    cases hnext
    simp [reportOf, LaneReport.data, LaneReport.move, bare]
  | fail count written =>
    obtain ⟨⟨-, hsize, hahead⟩, hnext⟩ := Option.ite_none_right_eq_some.1 h
    cases hnext
    cases count with
    | zero => simp [reportOf, LaneReport.data, LaneReport.move, bare]
    | succ count =>
      have hlength := List.length_take_of_le hahead
      simp [reportOf, LaneReport.data, LaneReport.move, hlength, hsize, bare]

end Lane

namespace Relay

variable {size : Nat} {relay next last : Relay}

/-- What a machine reports of a move. -/
def reportOf (relay : Relay) : Direction × LaneMove → Direction × LaneReport
  | (direction, move) => (direction, (relay.lane direction).reportOf move)

/-- What a machine reports of a run. -/
def reports (size : Nat) (relay : Relay) :
    List (Direction × LaneMove) → List (Direction × LaneReport)
  | [] => []
  | move :: moves =>
    relay.reportOf move :: match relay.step? size move with
      | some next => next.reports size moves
      | none => []

theorem hear_reportOf {move : Direction × LaneMove} (h : relay.step? size move = some next) :
    relay.bare.hear size (relay.reportOf move) = next.bare := by
  obtain ⟨direction, move⟩ := move
  cases direction with
  | toBackend =>
    obtain ⟨lane, hlane, rfl⟩ := Option.map_eq_some_iff.1 h
    exact congrArg (Relay.mk · relay.toClient.bare) (Lane.hear_reportOf hlane)
  | toClient =>
    obtain ⟨lane, hlane, rfl⟩ := Option.map_eq_some_iff.1 h
    exact congrArg (Relay.mk relay.toBackend.bare ·) (Lane.hear_reportOf hlane)

/-- **A served relay comes as far as the relay**, whatever moves its lanes make. -/
theorem foldl_hear_reports {moves : List (Direction × LaneMove)}
    (hrun : relay.run? size moves = some last) :
    (relay.reports size moves).foldl (hear size) relay.bare = last.bare := by
  induction moves generalizing relay with
  | nil =>
    cases hrun
    rfl
  | cons move moves ih =>
    obtain ⟨next, hstep, hrest⟩ := Option.bind_eq_some_iff.1 hrun
    rw [reports, List.foldl_cons, hear_reportOf hstep]
    simp only [hstep]
    exact ih hrest

/-- So it is over for its caller when the relay is. -/
theorem isOver_foldl_hear {moves : List (Direction × LaneMove)}
    (hrun : relay.run? size moves = some last) :
    ((relay.reports size moves).foldl (hear size) relay.bare).isOver = last.isOver := by
  rw [foldl_hear_reports hrun]
  rfl

end Relay

end Switchboard
