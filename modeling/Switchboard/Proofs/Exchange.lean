import Switchboard.Proofs.Flow

/-!
# Both sides of a relay

**The state** (`Exchange`). The two directions of a relay with their peers, and what of the prelude
still has to be written to the backend. The lanes start when all of it has been written.

**Moves.** The prelude is written in as many pieces as the backend takes. Then the moves of the two
directions come in any order, so they interleave in every possible way.

**Simulation** (`Tracks`). Before the lanes start, nothing has been read from either side. Once they
run, every move is one of the relay's or none that it knows of, so what is known of the relay's runs
holds at every moment in between.

Main result: `run_faithful`.
-/

namespace Switchboard

/-! ## Exchanges -/

inductive Phase
  /-- So much of the prelude has not been written. -/
  | replaying (rest : Bytes)
  | relaying
  /-- The prelude could not be written, and both connections are dropped. -/
  | failed
  deriving DecidableEq, Repr

def Phase.ofRest (rest : Bytes) : Phase := if rest = [] then relaying else replaying rest

theorem Phase.ofRest_ne_failed (rest : Bytes) : Phase.ofRest rest ≠ .failed := by
  unfold ofRest
  split_ifs <;> nofun

/-- A relay with its two peers. -/
structure Exchange where
  phase : Phase
  toBackend : Flow
  toClient : Flow
  deriving DecidableEq, Repr

/-- Something that happens in an exchange. -/
inductive ExchangeMove
  /-- So many bytes of the prelude are written. -/
  | replay (count : Nat)
  | failReplay
  | flow (direction : Direction) (move : FlowMove)
  deriving DecidableEq, Repr

def ExchangeMove.fails : ExchangeMove → Bool
  | replay _ => false
  | failReplay => true
  | flow _ move => move.fails

/-- The move is a failure that a direction suffers from. -/
def ExchangeMove.failsIn (direction : Direction) : ExchangeMove → Bool
  | replay _ => false
  | failReplay => true
  | flow other move => decide (direction = other) && move.fails

theorem ExchangeMove.failsIn_of_not_fails {direction : Direction} {move : ExchangeMove}
    (h : move.fails = false) : move.failsIn direction = false := by
  cases move with
  | replay count => rfl
  | failReplay => exact h
  | flow other inner =>
    have hinner : inner.fails = false := h
    rw [failsIn, hinner, Bool.and_false]

namespace Exchange

def start (prelude client backend : Bytes) : Exchange :=
  ⟨.ofRest prelude, .start client, .start backend⟩

def flow (x : Exchange) : Direction → Flow
  | .toBackend => x.toBackend
  | .toClient => x.toClient

def setFlow (x : Exchange) : Direction → Flow → Exchange
  | .toBackend, flow => { x with toBackend := flow }
  | .toClient, flow => { x with toClient := flow }

def written (x : Exchange) (rest : Bytes) (count : Nat) : Exchange where
  phase := .ofRest (rest.drop count)
  toBackend := { x.toBackend with onWay := x.toBackend.onWay ++ rest.take count }
  toClient := x.toClient

/-- The exchange after the prelude could not be written. -/
def dropped (x : Exchange) : Exchange where
  phase := .failed
  toBackend := { x.toBackend with state := .broken }
  toClient := { x.toClient with state := .broken }

/-- A move of an exchange; none if it is not possible. -/
def step? (size : Nat) (x : Exchange) : ExchangeMove → Option Exchange
  | .replay count =>
    match x.phase with
    | .replaying rest =>
      if 1 ≤ count ∧ count ≤ rest.length then some (x.written rest count) else none
    | .relaying | .failed => none
  | .failReplay =>
    match x.phase with
    | .replaying _ => some x.dropped
    | .relaying | .failed => none
  | .flow direction move =>
    if x.phase = .relaying ∨ move.byReceiver = true then
      ((x.flow direction).step? size move).map (x.setFlow direction)
    else none

def run? (size : Nat) (x : Exchange) (moves : List ExchangeMove) : Option Exchange :=
  moves.foldlM (fun x move => x.step? size move) x

/-- The relay that the exchange is about. -/
def relay (x : Exchange) : Relay := ⟨x.toBackend.lane, x.toClient.lane⟩

def replayFailure : Failure := .io "broken pipe"

/-- What the caller of the relay is told, as soon as it is told something. -/
def result? (x : Exchange) : Option (Except Failure Unit) :=
  match x.phase with
  | .replaying _ => none
  | .relaying => if x.relay.isOver then some (.ok ()) else none
  | .failed => some (.error replayFailure)

theorem run?_concat (size : Nat) (x : Exchange) (moves : List ExchangeMove) (move : ExchangeMove) :
    x.run? size (moves ++ [move]) = (x.run? size moves).bind (·.step? size move) := by
  rw [run?, run?, List.foldlM_append]
  simp

variable {size : Nat} {prelude client backend : Bytes} {x y : Exchange} {direction : Direction}
  {next : Flow}

/-! ## What the moves do -/

@[simp] theorem phase_setFlow (x : Exchange) (direction : Direction) (flow : Flow) :
    (x.setFlow direction flow).phase = x.phase := by
  cases direction <;> rfl

@[simp] theorem flow_setFlow (x : Exchange) (direction : Direction) (flow : Flow) :
    (x.setFlow direction flow).flow direction = flow := by
  cases direction <;> rfl

theorem flow_setFlow_of_ne {other : Direction} (h : other ≠ direction) (x : Exchange)
    (flow : Flow) : (x.setFlow direction flow).flow other = x.flow other := by
  cases direction <;> cases other <;> first | rfl | exact absurd rfl h

@[simp] theorem setFlow_setFlow (x : Exchange) (direction : Direction) (flow next : Flow) :
    (x.setFlow direction flow).setFlow direction next = x.setFlow direction next := by
  cases direction <;> rfl

@[simp] theorem setFlow_flow (x : Exchange) (direction : Direction) :
    x.setFlow direction (x.flow direction) = x := by
  cases direction <;> rfl

/-- What holds of every direction, and of the new state of one of them, holds afterwards. -/
theorem forall_flow_setFlow {P : Flow → Prop} (direction : Direction)
    (h : ∀ direction, P (x.flow direction)) (hnext : P next) (other : Direction) :
    P ((x.setFlow direction next).flow other) := by
  by_cases hother : other = direction
  · rw [hother, flow_setFlow]
    exact hnext
  · rw [flow_setFlow_of_ne hother]
    exact h other

theorem step?_replay {count : Nat} (h : x.step? size (.replay count) = some y) :
    ∃ rest, x.phase = .replaying rest ∧ y = x.written rest count := by
  rw [step?] at h
  cases hphase : x.phase with
  | replaying rest =>
    simp only [hphase, Option.ite_none_right_eq_some, Option.some.injEq] at h
    exact ⟨rest, rfl, h.2.symm⟩
  | relaying | failed =>
    rw [hphase] at h
    cases h

theorem step?_failReplay (h : x.step? size .failReplay = some y) :
    ∃ rest, x.phase = .replaying rest ∧ y = x.dropped := by
  rw [step?] at h
  cases hphase : x.phase with
  | replaying rest =>
    simp only [hphase, Option.some.injEq] at h
    exact ⟨rest, rfl, h.symm⟩
  | relaying | failed =>
    rw [hphase] at h
    cases h

theorem step?_flow {move : FlowMove} (h : x.step? size (.flow direction move) = some y) :
    (x.phase = .relaying ∨ move.byReceiver = true) ∧
      ∃ next, (x.flow direction).step? size move = some next ∧ y = x.setFlow direction next := by
  rw [step?, Option.ite_none_right_eq_some, Option.map_eq_some_iff] at h
  obtain ⟨hmove, next, hnext, rfl⟩ := h
  exact ⟨hmove, next, hnext, rfl⟩

/-- While the lanes run, everything may happen in one direction that may happen in it by itself. -/
theorem run?_map_flow (hphase : x.phase = .relaying) {moves : List FlowMove}
    (h : (x.flow direction).run? size moves = some next) :
    x.run? size (moves.map (.flow direction)) = some (x.setFlow direction next) := by
  have hstep : ∀ (flow : Flow) (move : FlowMove) (next : Flow), flow.step? size move = some next →
      (x.setFlow direction flow).step? size (.flow direction move) =
        some (x.setFlow direction next) := by
    intro flow move next hnext
    rw [step?, if_pos (.inl ((phase_setFlow x direction flow).trans hphase)), flow_setFlow, hnext,
      Option.map_some, setFlow_setFlow]
  have hrun : (x.setFlow direction (x.flow direction)).run? size (moves.map (.flow direction)) =
      some (x.setFlow direction next) := foldlM_map hstep h
  rwa [setFlow_flow] at hrun

/-! ## Simulation -/

theorem relay_setFlow_of_eq (h : next.lane = (x.flow direction).lane) :
    (x.setFlow direction next).relay = x.relay := by
  cases direction with
  | toBackend => exact congrArg (Relay.mk · x.toClient.lane) h
  | toClient => exact congrArg (Relay.mk x.toBackend.lane ·) h

theorem relay_setFlow_of_step? {move : LaneMove}
    (h : (x.flow direction).lane.step? size move = some next.lane) :
    x.relay.step? size (direction, move) = some (x.setFlow direction next).relay := by
  cases direction with
  | toBackend => exact congrArg (Option.map fun lane => { x.relay with toBackend := lane }) h
  | toClient => exact congrArg (Option.map fun lane => { x.relay with toClient := lane }) h

/-- Some of the prelude has been written and the rest has not; nothing was read from either side,
and nothing was written to the client. -/
structure Unstarted (prelude client backend rest : Bytes) (state : LaneState) (x : Exchange) :
    Prop where
  written : prelude = x.toBackend.delivered ++ rest
  unread : x.toBackend.ahead = client ∧ x.toClient.ahead = backend
  held : ∀ direction, (x.flow direction).held = []
  silent : x.toClient.delivered = []
  state : ∀ direction, (x.flow direction).state = state

namespace Unstarted

variable {rest : Bytes} {state : LaneState}

theorem start (prelude client backend : Bytes) :
    Unstarted prelude client backend prelude .copying (start prelude client backend) where
  written := rfl
  unread := ⟨rfl, rfl⟩
  held direction := by cases direction <;> rfl
  silent := rfl
  state direction := by cases direction <;> rfl

theorem step (h : Unstarted prelude client backend rest state x) (count : Nat) :
    Unstarted prelude client backend (rest.drop count) state (x.written rest count) where
  written := by
    show prelude = Flow.delivered { x.toBackend with onWay := _ } ++ rest.drop count
    rw [Flow.delivered_onWay, List.append_assoc, List.take_append_drop]
    exact h.written
  unread := h.unread
  held direction := by
    cases direction with
    | toBackend => exact h.held .toBackend
    | toClient => exact h.held .toClient
  silent := h.silent
  state direction := by
    cases direction with
    | toBackend => exact h.state .toBackend
    | toClient => exact h.state .toClient

theorem dropped (h : Unstarted prelude client backend rest state x) :
    Unstarted prelude client backend rest .broken x.dropped where
  written := h.written
  unread := h.unread
  held direction := by
    cases direction with
    | toBackend => exact h.held .toBackend
    | toClient => exact h.held .toClient
  silent := h.silent
  state direction := by cases direction <;> rfl

theorem setFlow (h : Unstarted prelude client backend rest state x)
    (hnext : next.ahead = (x.flow direction).ahead ∧ next.held = (x.flow direction).held ∧
      next.delivered = (x.flow direction).delivered ∧ next.state = (x.flow direction).state) :
    Unstarted prelude client backend rest state (x.setFlow direction next) := by
  obtain ⟨hahead, hheld, hdelivered, hstate⟩ := hnext
  have held := forall_flow_setFlow (P := (·.held = [])) direction h.held
    (hheld.trans (h.held direction))
  have state := forall_flow_setFlow (P := (·.state = state)) direction h.state
    (hstate.trans (h.state direction))
  cases direction with
  | toBackend =>
    exact ⟨h.written.trans (congrArg (· ++ rest) hdelivered.symm),
      ⟨hahead.trans h.unread.1, h.unread.2⟩, held, h.silent, state⟩
  | toClient =>
    exact ⟨h.written, ⟨h.unread.1, hahead.trans h.unread.2⟩, held, hdelivered.trans h.silent, state⟩

/-- Once all of the prelude has been written, the relay is at its beginning. -/
theorem relay_eq (h : Unstarted prelude client backend [] .copying x) :
    x.relay = .start prelude client backend := by
  have hbackend : x.toBackend.lane = .start prelude client := by
    have hheld : x.toBackend.held = [] := h.held .toBackend
    have hstate : x.toBackend.state = .copying := h.state .toBackend
    rw [Flow.lane, hheld, hstate, h.unread.1, Lane.start, h.written, List.append_nil]
    rfl
  have hclient : x.toClient.lane = .start [] backend := by
    have hheld : x.toClient.held = [] := h.held .toClient
    have hstate : x.toClient.state = .copying := h.state .toClient
    rw [Flow.lane, hheld, hstate, h.unread.2, h.silent]
    rfl
  rw [relay, hbackend, hclient, Relay.start]

theorem delivered_prefix (h : Unstarted prelude client backend rest state x) :
    x.toBackend.delivered <+: prelude := ⟨rest, h.written.symm⟩

end Unstarted

/-- How an exchange in some phase is one of the relay's states. -/
def Tracks (size : Nat) (prelude client backend : Bytes) (x : Exchange) : Phase → Prop
  | .replaying rest => rest ≠ [] ∧ Unstarted prelude client backend rest .copying x
  | .relaying => ∃ moves, (Relay.start prelude client backend).run? size moves = some x.relay
  | .failed => ∃ rest, rest ≠ [] ∧ Unstarted prelude client backend rest .broken x

/-- What is true of an exchange at every moment. -/
structure Sound (size : Nat) (prelude client backend : Bytes) (x : Exchange) : Prop where
  flows : ∀ direction, (x.flow direction).Sound size
  tracks : Tracks size prelude client backend x x.phase

theorem tracks_of_unstarted {rest : Bytes} (size : Nat)
    (h : Unstarted prelude client backend rest .copying x) :
    Tracks size prelude client backend x (.ofRest rest) := by
  unfold Phase.ofRest
  split_ifs with hrest
  · subst hrest
    exact ⟨[], congrArg some h.relay_eq.symm⟩
  · exact ⟨hrest, h⟩

theorem sound_start (size : Nat) (prelude client backend : Bytes) :
    Sound size prelude client backend (start prelude client backend) where
  flows direction := by
    cases direction with
    | toBackend => exact Flow.sound_start size client
    | toClient => exact Flow.sound_start size backend
  tracks := tracks_of_unstarted size (Unstarted.start prelude client backend)

/-- A direction whose lane has not started has not ended. -/
theorem Sound.ended_of_unstarted {rest : Bytes} (h : Sound size prelude client backend x)
    (hx : Unstarted prelude client backend rest .copying x) (direction : Direction) :
    (x.flow direction).ended ≠ true := fun hended =>
  ((h.flows direction).ended hended).1 (hx.state direction)

theorem Sound.replay {count : Nat} (h : Sound size prelude client backend x)
    (hstep : x.step? size (.replay count) = some y) : Sound size prelude client backend y := by
  obtain ⟨rest, hphase, rfl⟩ := step?_replay hstep
  have htracks := h.tracks
  rw [hphase] at htracks
  refine ⟨fun direction => ?_, tracks_of_unstarted size (htracks.2.step count)⟩
  cases direction with
  | toBackend =>
    have hopen := h.ended_of_unstarted htracks.2 .toBackend
    exact ⟨(h.flows .toBackend).held, fun hended => absurd hended hopen⟩
  | toClient => exact h.flows .toClient

theorem Sound.failReplay (h : Sound size prelude client backend x)
    (hstep : x.step? size .failReplay = some y) : Sound size prelude client backend y := by
  obtain ⟨rest, hphase, rfl⟩ := step?_failReplay hstep
  have htracks := h.tracks
  rw [hphase] at htracks
  have hopen := h.ended_of_unstarted htracks.2
  refine ⟨fun direction => ?_, rest, htracks.1, htracks.2.dropped⟩
  cases direction with
  | toBackend =>
    exact ⟨(h.flows .toBackend).held, fun hended => absurd hended (hopen .toBackend)⟩
  | toClient =>
    exact ⟨(h.flows .toClient).held, fun hended => absurd hended (hopen .toClient)⟩

theorem Sound.flowMove {move : FlowMove} (h : Sound size prelude client backend x)
    (hstep : x.step? size (.flow direction move) = some y) :
    Sound size prelude client backend y := by
  obtain ⟨hmove, next, hnext, rfl⟩ := step?_flow hstep
  refine ⟨forall_flow_setFlow direction h.flows ((h.flows direction).step? hnext), ?_⟩
  have htracks := h.tracks
  rw [phase_setFlow]
  cases hphase : x.phase with
  | replaying rest =>
    rw [hphase] at htracks
    have hreceiver := Flow.step?_byReceiver (hmove.resolve_left (by rw [hphase]; nofun)) hnext
    exact ⟨htracks.1, htracks.2.setFlow hreceiver⟩
  | relaying =>
    rw [hphase] at htracks
    obtain ⟨moves, hrun⟩ := htracks
    -- A move the lane does not see leaves the relay as it was; any other is the relay's next move.
    rcases Flow.lane_step? (h.flows direction) hnext with hlane | ⟨laneMove, hlane⟩
    · exact ⟨moves, hrun.trans (congrArg some (relay_setFlow_of_eq hlane).symm)⟩
    · refine ⟨moves ++ [(direction, laneMove)], ?_⟩
      rw [Relay.run?_concat, hrun]
      exact relay_setFlow_of_step? hlane
  | failed =>
    rw [hphase] at htracks
    obtain ⟨rest, hrest, hx⟩ := htracks
    have hreceiver := Flow.step?_byReceiver (hmove.resolve_left (by rw [hphase]; nofun)) hnext
    exact ⟨rest, hrest, hx.setFlow hreceiver⟩

/-- **Every move of an exchange is one of the relay's, or none that the relay knows of.** -/
theorem Sound.step? {move : ExchangeMove} (h : Sound size prelude client backend x)
    (hstep : x.step? size move = some y) : Sound size prelude client backend y := by
  cases move with
  | replay count => exact h.replay hstep
  | failReplay => exact h.failReplay hstep
  | flow direction move => exact h.flowMove hstep

theorem Sound.run? {moves : List ExchangeMove} (h : Sound size prelude client backend x)
    (hrun : x.run? size moves = some y) : Sound size prelude client backend y :=
  foldlM_invariant (fun _ _ _ _ hsound hstep => hsound.step? hstep) h hrun

/-! ## Failures -/

structure Unbroken (x : Exchange) : Prop where
  phase : x.phase ≠ .failed
  flows : ∀ direction, (x.flow direction).state ≠ .broken

theorem unbroken_start (prelude client backend : Bytes) :
    (start prelude client backend).Unbroken where
  phase := Phase.ofRest_ne_failed prelude
  flows direction := by cases direction <;> nofun

/-- Nothing has failed so far that a direction suffers from. -/
structure Clear (direction : Direction) (x : Exchange) : Prop where
  phase : x.phase ≠ .failed
  state : (x.flow direction).state ≠ .broken

theorem Unbroken.clear (h : x.Unbroken) (direction : Direction) : x.Clear direction :=
  ⟨h.phase, h.flows direction⟩

/-- A failure of the other direction leaves a direction clear. -/
theorem Clear.step? {move : ExchangeMove} (h : x.Clear direction)
    (hmove : move.failsIn direction = false) (hstep : x.step? size move = some y) :
    y.Clear direction := by
  cases move with
  | failReplay => cases hmove
  | replay count =>
    obtain ⟨rest, -, rfl⟩ := step?_replay hstep
    refine ⟨Phase.ofRest_ne_failed _, ?_⟩
    cases direction with
    | toBackend => exact h.state
    | toClient => exact h.state
  | flow other move =>
    obtain ⟨-, next, hnext, rfl⟩ := step?_flow hstep
    refine ⟨by rw [phase_setFlow]; exact h.phase, ?_⟩
    -- A failure of the other direction leaves this one clear.
    by_cases hother : direction = other
    · subst hother
      rw [ExchangeMove.failsIn, decide_eq_true rfl, Bool.true_and] at hmove
      rw [flow_setFlow]
      exact Flow.not_broken_step? hmove hnext h.state
    · rw [flow_setFlow_of_ne hother]
      exact h.state

theorem Clear.run? {moves : List ExchangeMove} (h : x.Clear direction)
    (hmoves : ∀ move ∈ moves, move.failsIn direction = false)
    (hrun : x.run? size moves = some y) : y.Clear direction :=
  foldlM_invariant (fun move hmem _ _ hclear hstep => hclear.step? (hmoves move hmem) hstep) h hrun

theorem Unbroken.run? {moves : List ExchangeMove} (h : x.Unbroken)
    (hmoves : ∀ move ∈ moves, move.fails = false) (hrun : x.run? size moves = some y) :
    y.Unbroken := by
  have hclear : ∀ direction, y.Clear direction := fun direction =>
    (h.clear direction).run? (fun move hmem => ExchangeMove.failsIn_of_not_fails (hmoves move hmem))
      hrun
  exact ⟨(hclear .toBackend).phase, fun direction => (hclear direction).state⟩

/-- An exchange fails only because its prelude cannot be written. -/
theorem failed_of_step? {move : ExchangeMove} (hstep : x.step? size move = some y)
    (hphase : y.phase = .failed) : x.phase = .failed ∨ move = .failReplay := by
  cases move with
  | failReplay => exact .inr rfl
  | replay count =>
    obtain ⟨rest, -, rfl⟩ := step?_replay hstep
    exact absurd hphase (Phase.ofRest_ne_failed _)
  | flow direction move =>
    obtain ⟨-, next, -, rfl⟩ := step?_flow hstep
    rw [phase_setFlow] at hphase
    exact .inl hphase

theorem failed_of_run? {moves : List ExchangeMove} (hrun : x.run? size moves = some y)
    (hphase : y.phase = .failed) : x.phase = .failed ∨ .failReplay ∈ moves := by
  induction moves generalizing x with
  | nil =>
    cases hrun
    exact .inl hphase
  | cons move moves ih =>
    obtain ⟨between, hstep, hrest⟩ := Option.bind_eq_some_iff.1 hrun
    rcases ih hrest with hbetween | hmem
    · rcases failed_of_step? hstep hbetween with hbefore | rfl
      · exact .inl hbefore
      · exact .inr List.mem_cons_self
    · exact .inr (List.mem_cons_of_mem move hmem)

theorem Sound.of_failed (h : Sound size prelude client backend x) (hphase : x.phase = .failed) :
    ∃ rest, rest ≠ [] ∧ Unstarted prelude client backend rest .broken x := by
  have htracks := h.tracks
  rwa [hphase] at htracks

/-! ## What is delivered -/

def carried (prelude client backend : Bytes) : Direction → Bytes
  | .toBackend => prelude ++ client
  | .toClient => backend

/-- While the lanes run they are within what they are to carry. -/
theorem Sound.within (h : Sound size prelude client backend x) (hsize : 1 ≤ size)
    (hphase : x.phase = .relaying) (direction : Direction) :
    (x.flow direction).lane.Within (carried prelude client backend direction) := by
  have htracks := h.tracks
  rw [hphase] at htracks
  obtain ⟨moves, hrun⟩ := htracks
  have hwithin := (Relay.within_start prelude client backend).run? hsize hrun
  cases direction with
  | toBackend => exact hwithin.toBackend
  | toClient => exact hwithin.toClient

theorem Unstarted.delivered {rest : Bytes} {state : LaneState}
    (h : Unstarted prelude client backend rest state x) (direction : Direction) :
    (x.flow direction).delivered <+: carried prelude client backend direction := by
  cases direction with
  | toBackend => exact h.delivered_prefix.trans (List.prefix_append _ _)
  | toClient =>
    rw [flow, h.silent]
    exact List.nil_prefix

theorem Sound.delivered (h : Sound size prelude client backend x) (hsize : 1 ≤ size)
    (direction : Direction) :
    (x.flow direction).delivered <+: carried prelude client backend direction := by
  have htracks := h.tracks
  cases hphase : x.phase with
  | relaying => exact (h.within hsize hphase direction).delivered
  | replaying rest =>
    rw [hphase] at htracks
    exact htracks.2.delivered direction
  | failed =>
    obtain ⟨rest, -, hx⟩ := h.of_failed hphase
    exact hx.delivered direction

/-- A lane whose receiver has seen the end while nothing has failed for it has finished. -/
theorem Sound.finished_of_ended (h : Sound size prelude client backend x)
    (hx : x.Clear direction) (hended : (x.flow direction).ended = true) :
    x.phase = .relaying ∧ (x.flow direction).state = .finished := by
  have hclosed := ((h.flows direction).ended hended).1
  have htracks := h.tracks
  constructor
  · cases hphase : x.phase with
    | relaying => rfl
    | replaying rest =>
      rw [hphase] at htracks
      exact absurd (htracks.2.state direction) hclosed
    | failed => exact absurd hphase hx.phase
  · cases hstate : (x.flow direction).state with
    | copying => exact absurd hstate hclosed
    | finished => rfl
    | broken => exact absurd hstate hx.state

/-- A receiver that has seen the end while nothing has failed for it has everything. -/
theorem Sound.received_of_clear (h : Sound size prelude client backend x) (hsize : 1 ≤ size)
    (hx : x.Clear direction) (hended : (x.flow direction).ended = true) :
    (x.flow direction).received = carried prelude client backend direction := by
  obtain ⟨hphase, hstate⟩ := h.finished_of_ended hx hended
  have hall : (x.flow direction).delivered = carried prelude client backend direction :=
    (h.within hsize hphase direction).delivered_of_finished hstate
  rwa [Flow.delivered, ((h.flows direction).ended hended).2, List.append_nil] at hall

theorem Sound.received_of_ended (h : Sound size prelude client backend x) (hsize : 1 ≤ size)
    (hx : x.Unbroken) (hended : (x.flow direction).ended = true) :
    (x.flow direction).received = carried prelude client backend direction :=
  h.received_of_clear hsize (hx.clear direction) hended

/-- Some moves, none of which fails, lead from one state of an exchange to another. -/
def CanReach (size : Nat) : Exchange → Exchange → Prop :=
  Leads (fun x move => x.step? size move) fun move => move.fails = false

theorem CanReach.unbroken (h : CanReach size (start prelude client backend) x) : x.Unbroken := by
  obtain ⟨moves, hmoves, hrun⟩ := h
  exact (unbroken_start prelude client backend).run? hmoves hrun

theorem received_of_canReach (hsize : 1 ≤ size) (h : CanReach size (start prelude client backend) x)
    (direction : Direction) (hended : (x.flow direction).ended = true) :
    (x.flow direction).received = carried prelude client backend direction := by
  obtain ⟨moves, -, hrun⟩ := id h
  exact ((sound_start size prelude client backend).run? hrun).received_of_ended hsize h.unbroken
    hended

/-- All of the prelude can be written at once. -/
theorem canReach_relaying (size : Nat) (prelude client backend : Bytes) :
    ∃ x, CanReach size (start prelude client backend) x ∧ x.phase = .relaying ∧
      ∀ direction, (x.flow direction).state = .copying := by
  by_cases hprelude : prelude = []
  · subst hprelude
    exact ⟨_, .refl _, rfl, fun direction => by cases direction <;> rfl⟩
  · have hpos : 1 ≤ prelude.length ∧ prelude.length ≤ prelude.length :=
      ⟨List.length_pos_iff.2 hprelude, Nat.le_refl _⟩
    have hphase : (start prelude client backend).phase = .replaying prelude := if_neg hprelude
    have hstep : (start prelude client backend).step? size (.replay prelude.length) =
        some ((start prelude client backend).written prelude prelude.length) := by
      rw [step?, hphase]
      exact if_pos hpos
    refine ⟨_, .head rfl hstep (.refl _), ?_, fun direction => by cases direction <;> rfl⟩
    rw [written, List.drop_length]
    rfl

/-- A direction can come to its end by itself. -/
theorem canReach_ended (hsize : 1 ≤ size) (hphase : x.phase = .relaying) (direction : Direction)
    (hstate : (x.flow direction).state = .copying) :
    ∃ next : Flow, next.ended = true ∧ CanReach size x (x.setFlow direction next) := by
  obtain ⟨moves, hmoves, hrun⟩ := Flow.exists_end hsize hstate
  refine ⟨_, rfl, moves.map (.flow direction), ?_, run?_map_flow hphase hrun⟩
  intro move hmem
  obtain ⟨inner, hinner, rfl⟩ := List.mem_map.1 hmem
  exact hmoves inner hinner

/-- **Both directions can come to their ends.** -/
theorem exists_end (hsize : 1 ≤ size) (prelude client backend : Bytes) :
    ∃ x, CanReach size (start prelude client backend) x ∧
      ∀ direction, (x.flow direction).ended = true := by
  obtain ⟨x, hx, hphase, hstate⟩ := canReach_relaying size prelude client backend
  obtain ⟨next, hnext, hfirst⟩ := canReach_ended hsize hphase .toBackend (hstate .toBackend)
  have hphase' : (x.setFlow .toBackend next).phase = .relaying := by rw [phase_setFlow, hphase]
  obtain ⟨last, hlast, hsecond⟩ := canReach_ended hsize hphase' .toClient (hstate .toClient)
  refine ⟨_, hx.trans (hfirst.trans hsecond), fun direction => ?_⟩
  cases direction with
  | toBackend => exact hnext
  | toClient => exact hlast

/-! ## The relay as its parties see it -/

theorem phase_of_result?_error {failure : Failure} (h : x.result? = some (.error failure)) :
    x.phase = .failed := by
  rw [result?] at h
  cases hphase : x.phase with
  | failed => rfl
  | replaying rest =>
    rw [hphase] at h
    cases h
  | relaying =>
    rw [hphase] at h
    split_ifs at h
    cases h

/-- If the prelude is written, the caller is never told of a failure. -/
theorem result?_of_replayed {moves : List ExchangeMove} {result : Except Failure Unit}
    (hrun : (start prelude client backend).run? size moves = some x) (hmoves : .failReplay ∉ moves)
    (hresult : x.result? = some result) : result = .ok () := by
  cases result with
  | ok => rfl
  | error failure =>
    have hfailed := failed_of_run? hrun (phase_of_result?_error hresult)
    exact absurd (hfailed.resolve_left (Phase.ofRest_ne_failed prelude)) hmoves

end Exchange

end Switchboard
