import Switchboard.Proofs.Boundaries
import Switchboard.Proofs.Handling

/-!
# What comes of a session

**The program's own run.** `Session.run` takes a session from its beginning to its end, with
patience for so many reads and with the relay in which all goes well. Its outcome for any patience
is that of a session of `Handling` without failures (`Handling.exists_run`), and every session
without failures that comes to an end has its outcome for some patience
(`Handling.Sound.exists_patience`).

**The stream.** Of a stream that comes in pieces and ends, reads give everything, so what probing
has left of it is all there for the relay (`Source.IsWhole.readable`).
-/

namespace Switchboard

/-! ## Streams that come in pieces -/

namespace Source

variable {source : Source} {stream : Bytes} {pieces : List Bytes} {limit : Nat}

/-- What is to come is a stream in pieces, and its end. -/
def IsWhole (source : Source) : Prop := ∃ stream pieces, IsCut stream pieces ∧ source = ofCut pieces

theorem IsWhole.read (hlimit : 0 < limit) (h : source.IsWhole) : (source.read limit).2.IsWhole := by
  obtain ⟨stream, pieces, hcut, rfl⟩ := h
  by_cases hstream : stream = []
  · subst hstream
    rw [hcut.read_nil]
    exact ⟨[], pieces, hcut, rfl⟩
  · obtain ⟨data, rest, pieces', hread, -, -, hcut'⟩ := hcut.read hstream hlimit
    rw [hread]
    exact ⟨rest, pieces', hcut', rfl⟩

theorem readable_data {bytes : Bytes} (h : bytes ≠ []) (rest : Source) :
    Session.readable (.data bytes :: rest) = bytes ++ Session.readable rest := by
  cases bytes with
  | nil => exact absurd rfl h
  | cons byte bytes => rfl

/-- Of such a stream, reads give all that remains. -/
theorem IsWhole.readable (h : source.IsWhole) : Session.readable source = source.remaining := by
  obtain ⟨stream, pieces, ⟨-, hne⟩, rfl⟩ := h
  induction pieces with
  | nil => rfl
  | cons piece pieces ih =>
    rw [List.forall_mem_cons] at hne
    rw [ofCut, List.map_cons, List.cons_append, readable_data hne.1, remaining_data]
    exact congrArg (piece ++ ·) (ih hne.2)

end Source

/-! ## Probing with patience -/

namespace Probing

variable {d : Dispatcher} {size : Nat} {s : Probing} {entry : Entry} {moves : List Move}

theorem whole_run (h : s.source.IsWhole) (hmoves : Move.arrivals moves = []) :
    (run d size s moves).source.IsWhole := by
  induction moves generalizing s with
  | nil => exact h
  | cons move moves ih =>
    cases move with
    | arrive arrival => cases hmoves
    | timeOut => exact ih (s := step d size s .timeOut) h hmoves
    | classify =>
      refine ih (s := step d size s .classify) ?_ hmoves
      cases hs : s.conn.bound with
      | some entry =>
        rw [step_classify_of_bound hs]
        exact h
      | none =>
        rw [step_classify_of_unbound hs]
        exact h.read (Nat.le_max_right size 1)

theorem run_of_bound (h : s.conn.bound = some entry) (hmoves : Move.arrivals moves = []) :
    run d size s moves = s := by
  induction moves with
  | nil => rfl
  | cons move moves ih =>
    cases move with
    | arrive arrival => cases hmoves
    | classify =>
      rw [run, List.foldl_cons, step_classify_of_bound h]
      exact ih hmoves
    | timeOut =>
      rw [run, List.foldl_cons, step_timeOut_of_bound h]
      exact ih hmoves

/-- The loop asks once, and goes on if the question is left open. -/
theorem probe_succ (d : Dispatcher) (size patience : Nat) (s : Probing) :
    Session.probe d size (patience + 1) s.conn s.source =
      match (s.conn.classify d size s.source).1 with
      | .decided entry => (entry, (step d size s .classify).conn, (step d size s .classify).source)
      | .undecided => Session.probe d size patience (step d size s .classify).conn
          (step d size s .classify).source
      | .pending => Session.probe d size 0 (step d size s .classify).conn
          (step d size s .classify).source := by
  simp only [Session.probe, step]
  rcases s.conn.classify d size s.source with ⟨answer, conn, source⟩
  cases answer <;> rfl

/-- A question that has to wait changes nothing. -/
theorem step_of_pending (h : (s.conn.classify d size s.source).1 = .pending) :
    step d size s .classify = s := by
  cases hs : s.conn.bound with
  | some entry => exact step_classify_of_bound hs
  | none =>
    rw [Connection.classify_of_unbound hs, Connection.statusAfter] at h
    split at h
    · cases h
    · split_ifs at h with hread
      exact step_classify_pending hread

/-- Where a run binds the connection, so does the loop, if it has patience for the reads before. -/
theorem exists_probe_of_run (hs : s.conn.bound = none) (hmoves : Move.arrivals moves = [])
    (hbound : (run d size s moves).conn.bound = some entry) :
    ∃ patience, Session.probe d size patience s.conn s.source =
      (entry, (run d size s moves).conn, (run d size s moves).source) := by
  induction moves generalizing s with
  | nil =>
    rw [run_nil, hs] at hbound
    cases hbound
  | cons move moves ih =>
    have hrun : run d size s (move :: moves) = run d size (step d size s move) moves := rfl
    rw [hrun] at hbound ⊢
    cases move with
    | arrive arrival => cases hmoves
    | timeOut =>
      have hrest : Move.arrivals moves = [] := hmoves
      have hstep := timeOut_answer d size s
      rw [run_of_bound hstep hrest] at hbound ⊢
      rw [hstep] at hbound
      cases hbound
      exact ⟨0, rfl⟩
    | classify =>
      have hrest : Move.arrivals moves = [] := hmoves
      cases hstep : (step d size s .classify).conn.bound with
      | some bound =>
        rw [run_of_bound hstep hrest] at hbound ⊢
        have hanswer := (classify_answer d size s bound).2 hstep
        rw [hstep] at hbound
        cases hbound
        refine ⟨1, ?_⟩
        rw [probe_succ, hanswer]
      | none =>
        obtain ⟨patience, hprobe⟩ := ih hstep hrest hbound
        cases hanswer : (s.conn.classify d size s.source).1 with
        | decided bound =>
          rw [(classify_answer d size s bound).1 hanswer] at hstep
          cases hstep
        | undecided =>
          refine ⟨patience + 1, ?_⟩
          rw [probe_succ, hanswer]
          exact hprobe
        | pending =>
          -- Nothing has changed, so the patience for the rest is enough.
          rw [step_of_pending hanswer] at hprobe ⊢
          exact ⟨patience, hprobe⟩

end Probing

/-! ## Both ways between a session and its outcome -/

namespace Handling

variable {d : Dispatcher} {net : Network} {size : Nat} {x y z : Handling}

/-- Some moves, none of which fails, lead from one state of a session to another. -/
def CanReach (d : Dispatcher) (net : Network) (size : Nat) : Handling → Handling → Prop :=
  Leads (fun x move => x.step? d net size move) fun move => move.fails = false

/-- A probing move that binds the connection ends the probing. -/
theorem canReach_ofEntry {s : Probing} {entry : Entry} (move : SessionMove) {probe : Move}
    (hprobe : move.probe? = some probe) (hbound : (s.step d size probe).conn.bound = some entry) :
    CanReach d net size ⟨s, .probing, []⟩ ⟨s.step d size probe, .ofEntry net entry, []⟩ := by
  have hmove : move.fails = false := by cases move <;> first | rfl | cases hprobe
  refine .head hmove ?_ (.refl _)
  simp only [step?, hprobe, Option.map_some, probed, hbound]

/-- For any patience, probing can bind the connection as the loop does. -/
theorem canReach_bound (net : Network) (patience : Nat) (s : Probing) :
    ∃ entry t, t.conn.bound = some entry ∧
      Session.probe d size patience s.conn s.source = (entry, t.conn, t.source) ∧
      CanReach d net size ⟨s, .probing, []⟩ ⟨t, .ofEntry net entry, []⟩ := by
  induction patience generalizing s with
  | zero =>
    have hbound := Probing.timeOut_answer d size s
    exact ⟨_, _, hbound, rfl, canReach_ofEntry .timeOut rfl hbound⟩
  | succ patience ih =>
    have hprobe := Probing.probe_succ d size patience s
    cases hstep : (s.step d size .classify).conn.bound with
    | some entry =>
      rw [(Probing.classify_answer d size s entry).2 hstep] at hprobe
      exact ⟨entry, _, hstep, hprobe, canReach_ofEntry .classify rfl hstep⟩
    | none =>
      have hopen : step? d net size ⟨s, .probing, []⟩ .classify =
          some ⟨s.step d size .classify, .probing, []⟩ := by
        simp only [step?, SessionMove.probe?, Option.map_some, probed, hstep]
      cases hanswer : (s.conn.classify d size s.source).1 with
      | decided entry =>
        rw [(Probing.classify_answer d size s entry).1 hanswer] at hstep
        cases hstep
      | undecided =>
        rw [hanswer] at hprobe
        obtain ⟨entry, t, hbound, hrest, hreach⟩ := ih (s.step d size .classify)
        exact ⟨entry, t, hbound, hprobe.trans hrest, .head rfl hopen hreach⟩
      | pending =>
        -- The loop does not wait, but gives up at once.
        rw [hanswer] at hprobe
        have hbound := Probing.timeOut_answer d size (s.step d size .classify)
        exact ⟨_, _, hbound, hprobe,
          .head rfl hopen (canReach_ofEntry .timeOut rfl hbound)⟩

theorem start_canReach_bound (d : Dispatcher) (net : Network) (size patience : Nat)
    (source : Source) :
    ∃ entry t, t.conn.bound = some entry ∧
      Session.probe d size patience .fresh source = (entry, t.conn, t.source) ∧
      CanReach d net size (start source) ⟨t, .ofEntry net entry, []⟩ :=
  canReach_bound net patience (.start source)

/-- Trying endpoints comes to what connecting to them comes to. -/
theorem canReach_connected (d : Dispatcher) (net : Network) (size : Nat) (s : Probing)
    (backend : Backend) (reason : String) (untried tried : List Endpoint) :
    ∃ all, CanReach d net size ⟨s, .ofUntried backend reason untried, tried⟩
      ⟨s, match net.connectTo backend reason untried with
        | .ok reply => .relaying (.start s.conn.deferred (Session.readable s.source) reply)
        | .error failure => .dropped failure, all⟩ := by
  -- By induction on the endpoints left, in the order they are tried.
  induction untried generalizing reason tried with
  | nil => exact ⟨tried, .refl _⟩
  | cons endpoint rest ih =>
    have hstep : ∀ stage, SessionStage.ofReach s backend rest (net.reach endpoint) = stage →
        step? d net size ⟨s, .connecting backend endpoint rest, tried⟩ .connect =
          some ⟨s, stage, tried ++ [endpoint]⟩ := fun stage hstage => by
      rw [← hstage]
      rfl
    rw [Network.connectTo]
    cases hreach : net.reach endpoint with
    | accepted reply =>
      exact ⟨_, .head rfl (hstep _ (by rw [hreach]; rfl)) (.refl _)⟩
    | refused reason =>
      obtain ⟨all, hall⟩ := ih reason (tried ++ [endpoint])
      exact ⟨all, .head rfl (hstep _ (by rw [hreach]; rfl)) hall⟩
    | timedOut =>
      obtain ⟨all, hall⟩ := ih "connect timed out" (tried ++ [endpoint])
      exact ⟨all, .head rfl (hstep _ (by rw [hreach]; rfl)) hall⟩

/-- What the relay does, the session does. -/
theorem canReach_relaying {first last : Exchange} (s : Probing) (tried : List Endpoint)
    (h : Exchange.CanReach size first last) :
    CanReach d net size ⟨s, .relaying first, tried⟩ ⟨s, .relaying last, tried⟩ := by
  obtain ⟨moves, hmoves, hrun⟩ := h
  have hstep : ∀ (x : Exchange) (move : ExchangeMove) (y : Exchange), x.step? size move = some y →
      step? d net size ⟨s, .relaying x, tried⟩ (.relay move) = some ⟨s, .relaying y, tried⟩ := by
    intro x move y hy
    show (x.step? size move).map _ = _
    rw [hy]
    rfl
  refine ⟨moves.map .relay, ?_, foldlM_map hstep hrun⟩
  intro move hmem
  obtain ⟨inner, hinner, rfl⟩ := List.mem_map.1 hmem
  exact hmoves inner hinner

theorem session?_relaying {s : Probing} {entry : Entry} {exchange : Exchange}
    (tried : List Endpoint) (hbound : s.conn.bound = some entry)
    (hended : ∀ direction, (exchange.flow direction).ended = true) :
    session? ⟨s, .relaying exchange, tried⟩ =
      some ⟨.ok (), entry, some exchange.toBackend.received, exchange.toClient.received⟩ := by
  simp only [session?, hbound]
  exact if_pos ⟨hended .toBackend, hended .toClient⟩

theorem session?_dropped {s : Probing} {entry : Entry} (failure : Failure) (tried : List Endpoint)
    (hbound : s.conn.bound = some entry) :
    session? ⟨s, .dropped failure, tried⟩ = some ⟨.error failure, entry, none, []⟩ := by
  simp only [session?, hbound]

end Handling

theorem Relay.settle_start {size : Nat} (hsize : 1 ≤ size) (prelude client backend : Bytes) :
    (start prelude client backend).settle size =
      ⟨⟨[], prelude ++ client, .finished⟩, ⟨[], backend, .finished⟩⟩ := by
  have hbackend := @Lane.settle_eq size (.start prelude client) hsize rfl
  have hclient := @Lane.settle_eq size (.start [] backend) hsize rfl
  rw [settle, start, hbackend, hclient]
  rfl

/-- What comes of a session that leaves the loop in some state. -/
theorem Session.run_of_probe {d : Dispatcher} {size patience : Nat} {source : Source}
    {entry : Entry} {t : Probing} (hsize : 1 ≤ size) (net : Network)
    (h : probe d size patience .fresh source = (entry, t.conn, t.source)) :
    run d net size patience source =
      match entry.backend with
      | none => ⟨.error (noBackend entry), entry, none, []⟩
      | some backend =>
        match net.connect backend with
        | .error failure => ⟨.error failure, entry, none, []⟩
        | .ok reply => ⟨.ok (), entry, some (t.conn.deferred ++ readable t.source), reply⟩ := by
  simp only [run, h]
  cases entry.backend with
  | none => rfl
  | some backend =>
    cases hconnect : net.connect backend with
    | error failure => simp only [hconnect]
    | ok reply => simp only [hconnect, Relay.settle_start hsize]

/-- What a session has come to is what comes of it once the loop leaves the connection like this. -/
theorem Fits.run_eq {d : Dispatcher} {net : Network} {size : Nat} {source : Source} {s : Probing}
    {tried : List Endpoint} {relayed : List ExchangeMove}
    {stage : SessionStage} {entry : Entry} {patience : Nat} {session : Session} (hsize : 1 ≤ size)
    (h : Fits net size s tried relayed stage) (hrelayed : ∀ move ∈ relayed, move.fails = false)
    (hbound : s.conn.bound = some entry)
    (hprobe : Session.probe d size patience .fresh source = (entry, s.conn, s.source))
    (hsession : Handling.session? ⟨s, stage, tried⟩ = some session) :
    Session.run d net size patience source = session := by
  rw [Session.run_of_probe hsize net hprobe]
  cases h with
  | probing hnone =>
    rw [hbound] at hnone
    cases hnone
  | noBackend hbound' hbackend =>
    cases hbound.symm.trans hbound'
    rw [Handling.session?_dropped _ _ hbound] at hsession
    cases hsession
    simp only [hbackend]
  | unresolved hbound' hbackend hfound =>
    cases hbound.symm.trans hbound'
    rw [Handling.session?_dropped _ _ hbound] at hsession
    cases hsession
    simp only [hbackend, Network.connect_of_unresolved hfound]
  | connecting =>
    rw [Handling.session?] at hsession
    cases hsession
  | rejected hbound' hbackend hfound hrejects hconnect =>
    cases hbound.symm.trans hbound'
    rw [Handling.session?_dropped _ _ hbound] at hsession
    cases hsession
    simp only [hbackend, hconnect]
  -- What the run reports is what was delivered, and nothing a flow carries is still on its way.
  | relaying hbound' hbackend hfound hrejects hreach hrun =>
    cases hbound.symm.trans hbound'
    have hconnect := Network.connect_of_endpoints hfound
    rw [hrejects.connectTo, Network.connectTo, hreach] at hconnect
    have hreached := Exchange.received_of_canReach hsize ⟨_, hrelayed, hrun⟩
    simp only [Handling.session?, hbound, Option.ite_none_right_eq_some, Option.some.injEq]
      at hsession
    obtain ⟨⟨hbackendEnded, hclientEnded⟩, rfl⟩ := hsession
    simp only [hbackend, hconnect]
    exact congrArg₂ (fun sent reply => (⟨.ok (), entry, some sent, reply⟩ : Session))
      (hreached .toBackend hbackendEnded).symm (hreached .toClient hclientEnded).symm

namespace Handling

variable {d : Dispatcher} {net : Network} {size : Nat} {source : Source}

/-- **The program's own run is one of the sessions without failures.** -/
theorem exists_run (d : Dispatcher) (net : Network) (hsize : 1 ≤ size) (patience : Nat)
    (source : Source) : ∃ x, CanReach d net size (start source) x ∧
      x.session? = some (Session.run d net size patience source) := by
  obtain ⟨entry, t, hbound, hprobe, hreach⟩ := start_canReach_bound d net size patience source
  rw [Session.run_of_probe hsize net hprobe]
  unfold SessionStage.ofEntry at hreach
  cases hbackend : entry.backend with
  | none =>
    simp only [hbackend] at hreach
    exact ⟨_, hreach, session?_dropped _ _ hbound⟩
  | some backend =>
    simp only [hbackend] at hreach
    cases hfound : net.endpoints backend with
    | error failure =>
      simp only [hfound] at hreach
      simp only [Network.connect_of_unresolved hfound]
      exact ⟨_, hreach, session?_dropped _ _ hbound⟩
    | ok found =>
      simp only [hfound] at hreach
      simp only [Network.connect_of_endpoints hfound]
      obtain ⟨tried, htried⟩ := canReach_connected d net size t backend "no address" found []
      cases hconnect : net.connectTo backend "no address" found with
      | error failure =>
        simp only [hconnect] at htried
        exact ⟨_, hreach.trans htried, session?_dropped _ _ hbound⟩
      | ok reply =>
        simp only [hconnect] at htried
        -- The two directions run one after the other, each to its end.
        obtain ⟨exchange, hexchange, hended⟩ :=
          Exchange.exists_end hsize t.conn.deferred (Session.readable t.source) reply
        refine ⟨_, hreach.trans (htried.trans (canReach_relaying t tried hexchange)), ?_⟩
        have hbackendGot : exchange.toBackend.received = _ :=
          Exchange.received_of_canReach hsize hexchange .toBackend (hended .toBackend)
        have hclientGot : exchange.toClient.received = _ :=
          Exchange.received_of_canReach hsize hexchange .toClient (hended .toClient)
        rw [session?_relaying tried hbound hended, hbackendGot, hclientGot]
        rfl

/-- **Every session without failures has an outcome of the program's own run.** -/
theorem Sound.exists_patience {moves : List SessionMove} {x : Handling} {session : Session}
    (hsize : 1 ≤ size) (h : Sound d net size source moves x)
    (hmoves : ∀ move ∈ moves, move.fails = false) (hsession : x.session? = some session) :
    ∃ patience, Session.run d net size patience source = session := by
  obtain ⟨s, stage, tried⟩ := x
  obtain ⟨hprobing, hfits⟩ := h
  cases hbound : s.conn.bound with
  | none =>
    rw [session?, hbound] at hsession
    cases stage <;> cases hsession
  | some entry =>
    have hrun : s = Probing.run d size (.start source) (SessionMove.probes moves) := hprobing
    rw [hrun] at hbound
    obtain ⟨patience, hprobe⟩ :=
      Probing.exists_probe_of_run rfl (SessionMove.arrivals_probes moves) hbound
    rw [← hrun] at hbound hprobe
    exact ⟨patience, hfits.run_eq hsize (SessionMove.fails_of_mem_relays hmoves) hbound hprobe
      hsession⟩

end Handling

end Switchboard
