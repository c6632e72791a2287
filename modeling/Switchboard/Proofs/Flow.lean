import Switchboard.Proofs.Relaying

/-!
# One direction of a relay, with its peers

**The state** (`Flow`). A lane at a finer grain than its own moves: bytes that were not read, bytes
that were read and not written, bytes on their way to the receiver, and bytes that the receiver has.

**Moves.** A read may give any number of bytes that there is room for. A write may take any number
of those at hand, and the lane reads again when it has written all of them. The receiver gets what
is on its way, and sees the end once the writing side is closed and nothing is left.

**Simulation.** Reading and receiving change nothing that the lane knows of, and a write is one of
its copies (`lane_step?`). A direction in which nothing has failed can always come to its end
(`exists_end`).
-/

namespace Switchboard

structure Flow where
  /-- What the sender has sent, or will send, and what has not been read. -/
  ahead : Bytes
  /-- What has been read and not been written. -/
  held : Bytes
  /-- What has been written and has not been received. -/
  onWay : Bytes
  received : Bytes
  state : LaneState
  /-- The receiver has seen the end of its stream. -/
  ended : Bool
  deriving DecidableEq, Repr

inductive FlowMove
  | read (count : Nat)
  | write (count : Nat)
  /-- A read gives no byte, and the writing side is closed. -/
  | finish
  /-- A read fails, and the writing side is closed. -/
  | failRead
  /-- A write fails, and the writing side is closed. -/
  | failWrite
  | receive (count : Nat)
  | seeEnd
  deriving DecidableEq, Repr

namespace FlowMove

def fails : FlowMove → Bool
  | failRead | failWrite => true
  | read _ | write _ | finish | receive _ | seeEnd => false

/-- The receiver moves, not the lane. -/
def byReceiver : FlowMove → Bool
  | receive _ | seeEnd => true
  | read _ | write _ | finish | failRead | failWrite => false

end FlowMove

namespace Flow

/-- A direction in which nothing has happened. -/
def start (ahead : Bytes) : Flow := ⟨ahead, [], [], [], .copying, false⟩

def step? (size : Nat) (flow : Flow) : FlowMove → Option Flow
  | .read count =>
    if flow.state = .copying ∧ flow.held = [] ∧ 1 ≤ count ∧ count ≤ size ∧
        count ≤ flow.ahead.length then
      some { flow with ahead := flow.ahead.drop count, held := flow.ahead.take count }
    else none
  | .write count =>
    if flow.state = .copying ∧ 1 ≤ count ∧ count ≤ flow.held.length then
      some { flow with held := flow.held.drop count, onWay := flow.onWay ++ flow.held.take count }
    else none
  | .finish =>
    if flow.state = .copying ∧ flow.held = [] ∧ (flow.ahead = [] ∨ size = 0) then
      some { flow with state := .finished }
    else none
  | .failRead =>
    if flow.state = .copying ∧ flow.held = [] then some { flow with state := .broken } else none
  | .failWrite =>
    if flow.state = .copying ∧ flow.held ≠ [] then
      some { flow with held := [], state := .broken }
    else none
  | .receive count =>
    if 1 ≤ count ∧ count ≤ flow.onWay.length then
      some { flow with
        onWay := flow.onWay.drop count, received := flow.received ++ flow.onWay.take count }
    else none
  | .seeEnd =>
    if flow.state ≠ .copying ∧ flow.onWay = [] then some { flow with ended := true } else none

/-- What was written for the receiver, received or not. -/
def delivered (flow : Flow) : Bytes := flow.received ++ flow.onWay

/-- The direction as the relay knows it. -/
def lane (flow : Flow) : Lane := ⟨flow.held ++ flow.ahead, flow.delivered, flow.state⟩

@[simp] theorem delivered_onWay (flow : Flow) (more : Bytes) :
    delivered { flow with onWay := flow.onWay ++ more } = flow.delivered ++ more :=
  (List.append_assoc _ _ _).symm

/-- What is true of a direction at every moment. -/
structure Sound (size : Nat) (flow : Flow) : Prop where
  held : flow.held.length ≤ size
  ended : flow.ended = true → flow.state ≠ .copying ∧ flow.onWay = []

variable {size : Nat} {flow next : Flow} {move : FlowMove}

theorem sound_start (size : Nat) (ahead : Bytes) : Sound size (start ahead) :=
  ⟨Nat.zero_le _, nofun⟩

theorem Sound.step? (h : flow.Sound size) (hstep : flow.step? size move = some next) :
    next.Sound size := by
  -- While the flow copies, its end has not been seen; only `seeEnd` reports it.
  have hclosed : flow.state = .copying → flow.ended ≠ true := fun hstate hended =>
    (h.ended hended).1 hstate
  cases move <;>
    simp only [Flow.step?, Option.ite_none_right_eq_some, Option.some.injEq] at hstep
  case read count =>
    obtain ⟨⟨hstate, -, -, hsize, -⟩, rfl⟩ := hstep
    refine ⟨?_, fun hended => absurd hended (hclosed hstate)⟩
    exact Nat.le_trans (List.length_take_le _ _) hsize
  case write count =>
    obtain ⟨⟨hstate, -, -⟩, rfl⟩ := hstep
    refine ⟨?_, fun hended => absurd hended (hclosed hstate)⟩
    exact Nat.le_trans (List.drop_sublist _ _).length_le h.held
  case finish =>
    obtain ⟨⟨hstate, -, -⟩, rfl⟩ := hstep
    exact ⟨h.held, fun hended => absurd hended (hclosed hstate)⟩
  case failRead =>
    obtain ⟨⟨hstate, -⟩, rfl⟩ := hstep
    exact ⟨h.held, fun hended => absurd hended (hclosed hstate)⟩
  case failWrite =>
    obtain ⟨⟨hstate, -⟩, rfl⟩ := hstep
    exact ⟨Nat.zero_le _, fun hended => absurd hended (hclosed hstate)⟩
  case receive count =>
    obtain ⟨-, rfl⟩ := hstep
    refine ⟨h.held, fun hended => ⟨(h.ended hended).1, ?_⟩⟩
    rw [(h.ended hended).2, List.drop_nil]
  case seeEnd =>
    obtain ⟨hclosed, rfl⟩ := hstep
    exact ⟨h.held, fun _ => hclosed⟩

/-- **A move is no move of the lane, or one of its moves.** -/
theorem lane_step? (h : flow.Sound size) (hstep : flow.step? size move = some next) :
    next.lane = flow.lane ∨ ∃ laneMove, flow.lane.step? size laneMove = some next.lane := by
  -- For the lane, a byte that was read but not written is still ahead, so only a write, the end
  -- and the failures are moves of the lane.
  cases move <;>
    simp only [step?, Option.ite_none_right_eq_some, Option.some.injEq] at hstep
  case read count =>
    obtain ⟨⟨-, hheld, -⟩, rfl⟩ := hstep
    left
    simp only [lane, delivered, hheld, List.take_append_drop, List.nil_append]
  case write count =>
    obtain ⟨⟨hstate, hpos, hcount⟩, rfl⟩ := hstep
    have hroom : 1 ≤ count ∧ count ≤ size ∧ count ≤ (flow.held ++ flow.ahead).length := by
      have hheld := h.held
      rw [List.length_append]
      omega
    refine .inr ⟨.copy count, ?_⟩
    rw [Lane.step?_of_copying hstate]
    simp only [lane, delivered, if_pos hroom, List.drop_append_of_le_length hcount,
      List.take_append_of_le_length hcount, List.append_assoc]
  case finish =>
    obtain ⟨⟨hstate, hheld, hend⟩, rfl⟩ := hstep
    have hlane : flow.lane.ahead = [] ∨ size = 0 := by
      show flow.held ++ flow.ahead = [] ∨ size = 0
      rwa [hheld, List.nil_append]
    exact .inr ⟨.finish, (Lane.step?_of_copying hstate).trans (if_pos hlane)⟩
  case failRead =>
    obtain ⟨⟨hstate, -⟩, rfl⟩ := hstep
    refine .inr ⟨.fail 0 0, (Lane.step?_of_copying hstate).trans ?_⟩
    simp [lane, delivered]
  case failWrite =>
    obtain ⟨⟨hstate, -⟩, rfl⟩ := hstep
    have hroom : 0 ≤ flow.held.length ∧ flow.held.length ≤ size ∧
        flow.held.length ≤ (flow.held ++ flow.ahead).length := by
      have hheld := h.held
      rw [List.length_append]
      omega
    refine .inr ⟨.fail flow.held.length 0, (Lane.step?_of_copying hstate).trans ?_⟩
    simp only [lane, delivered, if_pos hroom, List.drop_left, List.take_zero, List.append_nil,
      List.nil_append]
  case receive count =>
    obtain ⟨-, rfl⟩ := hstep
    left
    simp only [lane, delivered, List.append_assoc, List.take_append_drop]
  case seeEnd =>
    obtain ⟨-, rfl⟩ := hstep
    exact .inl rfl

theorem step?_byReceiver (hmove : move.byReceiver = true)
    (hstep : flow.step? size move = some next) :
    next.ahead = flow.ahead ∧ next.held = flow.held ∧ next.delivered = flow.delivered ∧
      next.state = flow.state := by
  cases move <;>
    simp only [step?, Option.ite_none_right_eq_some, Option.some.injEq] at hstep
  case receive count =>
    obtain ⟨-, rfl⟩ := hstep
    refine ⟨rfl, rfl, ?_, rfl⟩
    simp only [delivered, List.append_assoc, List.take_append_drop]
  case seeEnd =>
    obtain ⟨-, rfl⟩ := hstep
    exact ⟨rfl, rfl, rfl, rfl⟩
  all_goals cases hmove

/-- Only a failure breaks a lane. -/
theorem not_broken_step? (hmove : move.fails = false) (hstep : flow.step? size move = some next)
    (hstate : flow.state ≠ .broken) : next.state ≠ .broken := by
  cases move <;>
    simp only [step?, Option.ite_none_right_eq_some, Option.some.injEq] at hstep
  case failRead | failWrite => cases hmove
  case finish =>
    obtain ⟨-, rfl⟩ := hstep
    nofun
  all_goals
    obtain ⟨-, rfl⟩ := hstep
    exact hstate

/-! ## To the end of one direction -/

def run? (size : Nat) (flow : Flow) (moves : List FlowMove) : Option Flow :=
  moves.foldlM (fun f move => f.step? size move) flow

/-- Some moves, none of which fails, lead from one state of a direction to another. -/
def CanReach (size : Nat) (flow next : Flow) : Prop :=
  ∃ moves : List FlowMove, (∀ move ∈ moves, move.fails = false) ∧ flow.run? size moves = some next

theorem CanReach.refl (size : Nat) (flow : Flow) : CanReach size flow flow := ⟨[], nofun, rfl⟩

theorem CanReach.head {mid : Flow} (move : FlowMove) (hstep : flow.step? size move = some mid)
    (hmove : move.fails = false) (h : CanReach size mid next) : CanReach size flow next :=
  Leads.head hmove hstep h

/-- All that was read and is at hand can be written. -/
theorem CanReach.of_drain (hstate : flow.state = .copying)
    (h : CanReach size { flow with held := [], onWay := flow.onWay ++ flow.held } next) :
    CanReach size flow next := by
  by_cases hheld : flow.held = []
  · have hsame : { flow with held := [], onWay := flow.onWay ++ flow.held } = flow := by
      rw [hheld, List.append_nil, ← hheld]
    rwa [hsame] at h
  · have hpos : 1 ≤ flow.held.length := List.length_pos_iff.2 hheld
    refine h.head (.write flow.held.length) ?_ rfl
    rw [step?, if_pos ⟨hstate, hpos, Nat.le_refl _⟩, List.drop_length, List.take_length]

/-- All that is on its way can be received, and then the end is seen. -/
theorem canReach_of_closed (size : Nat) (flow : Flow) (hstate : flow.state ≠ .copying) :
    CanReach size flow
      { flow with onWay := [], received := flow.received ++ flow.onWay, ended := true } := by
  have hend : ∀ flow : Flow, flow.state ≠ .copying → flow.onWay = [] →
      CanReach size flow { flow with ended := true } := by
    intro flow hstate honWay
    exact (CanReach.refl size _).head .seeEnd (if_pos ⟨hstate, honWay⟩) rfl
  by_cases honWay : flow.onWay = []
  · have hsame := hend flow hstate honWay
    rw [honWay, List.append_nil, ← honWay]
    exact hsame
  · have hpos : 1 ≤ flow.onWay.length := List.length_pos_iff.2 honWay
    refine CanReach.head (.receive flow.onWay.length) ?_ rfl
      (hend { flow with onWay := [], received := flow.received ++ flow.onWay } hstate rfl)
    rw [step?, if_pos ⟨hpos, Nat.le_refl _⟩, List.drop_length, List.take_length]

/-- **A direction in which nothing has failed can come to its end, and all of it is received.** -/
theorem exists_end (hsize : 1 ≤ size) (hstate : flow.state = .copying) :
    CanReach size flow
      ⟨[], [], [], flow.delivered ++ (flow.held ++ flow.ahead), .finished, true⟩ := by
  -- Every read leaves less ahead.
  induction hn : flow.ahead.length using Nat.strongRecOn generalizing flow with
  | _ n ih =>
    refine CanReach.of_drain hstate ?_
    by_cases hahead : flow.ahead = []
    · refine CanReach.head .finish (if_pos ⟨hstate, rfl, .inl hahead⟩) rfl ?_
      have hclosed := canReach_of_closed size { flow with
        held := [], onWay := flow.onWay ++ flow.held, state := .finished } nofun
      simp only [delivered, hahead, List.append_nil, List.append_assoc] at hclosed ⊢
      exact hclosed
    · have hpos : 1 ≤ flow.ahead.length := List.length_pos_iff.2 hahead
      have hroom : 1 ≤ min size flow.ahead.length ∧ min size flow.ahead.length ≤ size ∧
          min size flow.ahead.length ≤ flow.ahead.length := by omega
      refine CanReach.head (.read (min size flow.ahead.length))
        (if_pos ⟨hstate, rfl, hroom⟩) rfl ?_
      have hless : (flow.ahead.drop (min size flow.ahead.length)).length < n := by
        rw [List.length_drop]
        omega
      have hrest := @ih _ hless { flow with
        ahead := flow.ahead.drop (min size flow.ahead.length)
        held := flow.ahead.take (min size flow.ahead.length)
        onWay := flow.onWay ++ flow.held } hstate rfl
      simp only [delivered, List.take_append_drop, List.append_assoc] at hrest ⊢
      exact hrest

end Flow

end Switchboard
