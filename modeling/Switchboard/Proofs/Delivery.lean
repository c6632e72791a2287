import Switchboard.Proofs.Building
import Switchboard.Proofs.Sessions

/-!
# What a session delivers

Settings that pass the check give every entry a backend. Where the host of each is an address, a
backend has one endpoint, and a session has to do with that endpoint only (`FitsOne`): it has not
been contacted, or it has refused and the session is dropped, or it has accepted and is relayed to.

**The stream.** Probing and the relay share the client's stream without a gap and without an
overlap, wherever the connection is bound and however the stream is cut. So a backend that sees the
end has all of it, and the client has all of the reply.

**Without a backend.** A connection that is bound to an entry without one is dropped, and nobody is
contacted.

Main result: `Session.stream_intact`.
-/

namespace Switchboard

/-! ## Backends that are addresses -/

/-- Where the connections of an entry are sent. The backend is that of the entry's route, and its
host is an address, perhaps between brackets. -/
structure Settings.Sends (settings : Settings) (entry : Entry) (backend : Backend)
    (endpoint : Endpoint) : Prop where
  backend_eq : entry.backend = some backend
  route : ∃ route ∈ settings.routes, route.name = entry.name ∧
    route.host = some backend.host ∧ route.port = some backend.port
  address : Address.parse? (Text.strip isBracket backend.host.toList) = some endpoint.address
  port_eq : endpoint.port = backend.port

theorem Settings.Sends.endpoint? {settings : Settings} {entry : Entry} {backend : Backend}
    {endpoint : Endpoint} (h : settings.Sends entry backend endpoint) :
    backend.endpoint? = some endpoint := by
  rw [Backend.endpoint?, Backend.bareHost, h.address, Option.map_some, ← h.port_eq]

def Dispatcher.Backed (d : Dispatcher) (settings : Settings) : Prop :=
  ∀ entry ∈ d.registry.entries, ∃ backend endpoint, settings.Sends entry backend endpoint

/-- The hosts of the table are addresses, with or without brackets around them. -/
def Settings.HostsLiteral (settings : Settings) : Prop :=
  ∀ route ∈ settings.routes, ∀ host, route.host = some host →
    ∃ address, Address.parse? (Text.strip isBracket host.toList) = some address

theorem Settings.Faultless.backed {settings : Settings} {engine : Pattern.Engine} {d : Dispatcher}
    (h : settings.Faultless) (hhosts : settings.HostsLiteral)
    (hd : Dispatcher.ofSettings engine settings = .ok d) : d.Backed settings := by
  intro entry hmem
  obtain ⟨route, hroute, hrealizes⟩ :=
    exists_of_forall₂ (realizes_of_ofSettings (registry_of_ofSettings hd)) hmem
  obtain ⟨host, port, hhost, hport⟩ := (h.routes route hroute).backend
  obtain ⟨address, haddress⟩ := hhosts route hroute host hhost
  have hbackend := (hrealizes.backend ⟨host, port⟩).2 ⟨hhost, hport⟩
  exact ⟨⟨host, port⟩, ⟨address, port⟩, hbackend,
    ⟨route, hroute, hrealizes.name.symm, hhost, hport⟩, haddress, rfl⟩

/-- How a stage is reached where the backend has one endpoint, with the endpoints tried. -/
inductive FitsOne (net : Network) (size : Nat) (s : Probing) (relayed : List ExchangeMove)
    (backend : Backend) (endpoint : Endpoint) : List Endpoint → SessionStage → Prop
  | connecting : FitsOne net size s relayed backend endpoint [] (.connecting backend endpoint [])
  | rejected {reason : String} : (∀ reply, net.reach endpoint ≠ .accepted reply) →
      FitsOne net size s relayed backend endpoint [endpoint]
        (.dropped (Network.connectFailure backend reason))
  | relaying {reply : Bytes} {exchange : Exchange} : net.reach endpoint = .accepted reply →
      (Exchange.start s.conn.deferred (Session.readable s.source) reply).run? size relayed =
        some exchange →
      FitsOne net size s relayed backend endpoint [endpoint] (.relaying exchange)

theorem append_cons_eq_singleton {α : Type} {x y : α} {before after : List α}
    (h : [x] = before ++ y :: after) : before = [] ∧ y = x ∧ after = [] := by
  rcases List.singleton_eq_append_iff.1 h with ⟨rfl, hcons⟩ | ⟨-, hcons⟩
  · cases hcons
    exact ⟨rfl, rfl, rfl⟩
  · cases hcons

theorem Fits.one {net : Network} {size : Nat} {s : Probing} {entry : Entry} {backend : Backend}
    {endpoint : Endpoint} {tried : List Endpoint} {relayed : List ExchangeMove}
    {stage : SessionStage} (h : Fits net size s tried relayed stage)
    (hbound : s.conn.bound = some entry)
    (hbackend : entry.backend = some backend) (hendpoint : backend.endpoint? = some endpoint) :
    FitsOne net size s relayed backend endpoint tried stage := by
  have hone : net.endpoints backend = .ok [endpoint] := Network.endpoints_of_address hendpoint
  cases h with
  | probing hnone =>
    rw [hbound] at hnone
    cases hnone
  | noBackend hbound' hnone =>
    cases hbound.symm.trans hbound'
    cases hbackend.symm.trans hnone
  | unresolved hbound' hbackend' hfound =>
    cases hbound.symm.trans hbound'
    cases hbackend.symm.trans hbackend'
    cases hone.symm.trans hfound
  -- With one endpoint to try, being at one of them means none was tried before or is left.
  | connecting hbound' hbackend' hfound hrejects =>
    cases hbound.symm.trans hbound'
    cases hbackend.symm.trans hbackend'
    obtain ⟨rfl, rfl, rfl⟩ := append_cons_eq_singleton (Except.ok.inj (hone.symm.trans hfound))
    exact .connecting
  | rejected hbound' hbackend' hfound hrejects hconnect =>
    cases hbound.symm.trans hbound'
    cases hbackend.symm.trans hbackend'
    cases hone.symm.trans hfound
    exact .rejected (hrejects endpoint List.mem_cons_self)
  | relaying hbound' hbackend' hfound hrejects hreach hrun =>
    cases hbound.symm.trans hbound'
    cases hbackend.symm.trans hbackend'
    obtain ⟨rfl, rfl, rfl⟩ := append_cons_eq_singleton (Except.ok.inj (hone.symm.trans hfound))
    exact .relaying hreach hrun

/-! ## The client's stream -/

namespace Handling

variable {settings : Settings} {d : Dispatcher} {net : Network} {size : Nat} {stream : Bytes}
  {source : Source} {moves : List SessionMove} {x : Handling}

/-- A session after some moves, for a client that sends a stream and then finishes. -/
structure Intact (settings : Settings) (d : Dispatcher) (net : Network) (size : Nat)
    (stream : Bytes) (source : Source) (moves : List SessionMove) (x : Handling) : Prop where
  /-- What was read while probing and what was not read then are the stream. -/
  kept : x.probing.conn.deferred ++ x.probing.source.remaining = stream
  /-- At most one endpoint is contacted: the one that the settings give the entry that the
  connection is bound to. -/
  contacts : x.tried = [] ∨ ∃ entry backend endpoint, x.probing.conn.bound = some entry ∧
    entry ∈ d.registry.entries ∧ settings.Sends entry backend endpoint ∧ x.tried = [endpoint]
  /-- Before that, nobody is told anything and nobody receives anything. -/
  untried : x.tried = [] → x.result? = none ∧ ∀ direction, x.received direction = []
  /-- Whatever fails, what is received is a beginning of what was sent. -/
  received : ∀ endpoint reply, x.tried = [endpoint] → net.reach endpoint = .accepted reply →
    x.received .toBackend <+: stream ∧ x.received .toClient <+: reply
  /-- If the backend accepts, a receiver that sees the end has everything, unless something fails in
  its own direction, and the caller is told that all is well, unless the replay fails. -/
  accepted : ∀ endpoint reply, x.tried = [endpoint] → net.reach endpoint = .accepted reply →
    ((∀ move, .relay move ∈ moves → move.failsIn .toBackend = false) → x.ended .toBackend →
        x.received .toBackend = stream) ∧
      ((∀ move, .relay move ∈ moves → move.failsIn .toClient = false) → x.ended .toClient →
        x.received .toClient = reply) ∧
      (.relay .failReplay ∉ moves → ∀ result, x.result? = some result → result = .ok ())
  /-- If the backend does not accept, that is a failure of the network, and nobody receives
  anything. -/
  rejected : ∀ endpoint, x.tried = [endpoint] → (∀ reply, net.reach endpoint ≠ .accepted reply) →
    (∃ reason, x.result? = some (.error (.network reason))) ∧
      ∀ direction, x.received direction = []
  /-- A session without failures that comes to an end comes to what the program's own run does. -/
  settled : (∀ move ∈ moves, move.fails = false) → ∀ session, x.session? = some session →
    ∃ patience, Session.run d net size patience source = session

theorem Sound.kept (h : Sound d net size source moves x) :
    x.probing.conn.deferred ++ x.probing.source.remaining = source.remaining := by
  have hbytes := Probing.bytes_run d size (.start source) (SessionMove.probes moves)
  rw [SessionMove.arrivals_probes, ← h.probing] at hbytes
  exact hbytes.trans (List.append_nil _)

theorem Sound.readable (h : Sound d net size source moves x) (hsource : source.IsWhole) :
    Session.readable x.probing.source = x.probing.source.remaining := by
  rw [h.probing]
  exact (Probing.whole_run hsource (SessionMove.arrivals_probes moves)).readable

theorem Sound.mem (h : Sound d net size source moves x) {entry : Entry}
    (hbound : x.probing.conn.bound = some entry) : entry ∈ d.registry.entries := by
  rw [h.probing] at hbound
  exact Probing.mem_of_bound_run rfl hbound

theorem Sound.one (h : Sound d net size source moves x) (hbacked : d.Backed settings) :
    (x.stage = .probing ∧ x.tried = []) ∨
      ∃ entry backend endpoint, x.probing.conn.bound = some entry ∧
        entry ∈ d.registry.entries ∧ settings.Sends entry backend endpoint ∧
        FitsOne net size x.probing (SessionMove.relays moves) backend endpoint x.tried x.stage := by
  cases hbound : x.probing.conn.bound with
  | none => exact .inl (h.fits.of_unbound hbound)
  | some entry =>
    have hmem := h.mem hbound
    obtain ⟨backend, endpoint, hsends⟩ := hbacked entry hmem
    exact .inr ⟨entry, backend, endpoint, rfl, hmem, hsends,
      h.fits.one hbound hsends.backend_eq hsends.endpoint?⟩

theorem Sound.of_tried (h : Sound d net size source moves x) (hbacked : d.Backed settings)
    {endpoint : Endpoint} (htried : x.tried = [endpoint]) :
    (∃ backend reason, (∀ reply, net.reach endpoint ≠ .accepted reply) ∧
      x.stage = .dropped (Network.connectFailure backend reason)) ∨
    ∃ reply exchange, net.reach endpoint = .accepted reply ∧ x.stage = .relaying exchange ∧
      (Exchange.start x.probing.conn.deferred (Session.readable x.probing.source) reply).run? size
        (SessionMove.relays moves) = some exchange := by
  rcases h.one hbacked with ⟨-, hnone⟩ | ⟨entry, backend, only, -, -, -, hone⟩
  · cases hnone.symm.trans htried
  · rw [htried] at hone
    generalize hstage : x.stage = stage at hone
    cases hone with
    | rejected hreach => exact .inl ⟨backend, _, hreach, rfl⟩
    | relaying hreach hrun => exact .inr ⟨_, _, hreach, rfl, hrun⟩

theorem Sound.untried (h : Sound d net size source moves x) (hbacked : d.Backed settings)
    (htried : x.tried = []) : x.result? = none ∧ ∀ direction, x.received direction = [] := by
  rcases h.one hbacked with ⟨hstage, -⟩ | ⟨entry, backend, only, -, -, -, hone⟩
  · simp only [result?, received, hstage, implies_true, and_self]
  · rw [htried] at hone
    generalize hstage : x.stage = stage at hone
    cases hone
    simp only [result?, received, hstage, implies_true, and_self]

/-- Once the backend has accepted, the relay takes up the stream where probing has left it. -/
theorem Sound.relaying {endpoint : Endpoint} {reply : Bytes} (h : Sound d net size source moves x)
    (hbacked : d.Backed settings) (hsource : source.IsWhole) (htried : x.tried = [endpoint])
    (hreach : net.reach endpoint = .accepted reply) :
    ∃ prelude client exchange, prelude ++ client = source.remaining ∧
      x.stage = .relaying exchange ∧
      (Exchange.start prelude client reply).run? size (SessionMove.relays moves) =
        some exchange := by
  rcases h.of_tried hbacked htried with ⟨-, -, hrejects, -⟩ |
    ⟨reply', exchange, hreach', hstage, hrun⟩
  · exact absurd hreach (hrejects reply)
  · cases hreach.symm.trans hreach'
    rw [h.readable hsource] at hrun
    exact ⟨_, _, exchange, h.kept, hstage, hrun⟩

/-- **A session keeps the stream intact.** -/
theorem Sound.intact {pieces : List Bytes} (hsize : 1 ≤ size) (hbacked : d.Backed settings)
    (hcut : IsCut stream pieces) (h : Sound d net size (.ofCut pieces) moves x) :
    Intact settings d net size stream (.ofCut pieces) moves x := by
  have hsource : (Source.ofCut pieces).IsWhole := ⟨stream, pieces, hcut, rfl⟩
  have hstream := Source.remaining_ofCut hcut
  constructor
  case kept => rw [h.kept, hstream]
  case contacts =>
    rcases h.one hbacked with ⟨-, hnone⟩ | ⟨entry, backend, endpoint, hbound, hmem, hsends, hone⟩
    · exact .inl hnone
    -- At most one endpoint was contacted; forgetting the rest of the state, the stage says which.
    · generalize x.tried = tried, x.stage = stage at hone
      cases hone with
      | connecting => exact .inl rfl
      | rejected _ | relaying _ _ =>
        exact .inr ⟨entry, backend, endpoint, hbound, hmem, hsends, rfl⟩
  case untried => exact h.untried hbacked
  case received =>
    intro endpoint reply htried hreach
    obtain ⟨prelude, client, exchange, hall, hstage, hrun⟩ :=
      h.relaying hbacked hsource htried hreach
    -- The relay starts from what probing held, so what it delivers is read off `Exchange.Sound`.
    have hsound := (Exchange.sound_start size prelude client reply).run? hrun
    have hreceived := fun direction =>
      (List.prefix_append _ _).trans (hsound.delivered hsize direction)
    rw [← hstream, ← hall]
    simp only [received, hstage]
    exact ⟨hreceived .toBackend, hreceived .toClient⟩
  case accepted =>
    intro endpoint reply htried hreach
    obtain ⟨prelude, client, exchange, hall, hstage, hrun⟩ :=
      h.relaying hbacked hsource htried hreach
    have hsound := (Exchange.sound_start size prelude client reply).run? hrun
    have hunbroken := Exchange.unbroken_start prelude client reply
    have hreceived : ∀ direction,
        (∀ move, .relay move ∈ moves → move.failsIn direction = false) →
        (exchange.flow direction).ended = true →
        (exchange.flow direction).received = Exchange.carried prelude client reply direction := by
      intro direction hmoves hended
      refine hsound.received_of_clear hsize ((hunbroken.clear direction).run? ?_ hrun) hended
      exact fun move hmem => hmoves move (SessionMove.mem_relays hmem)
    rw [← hstream, ← hall]
    simp only [received, ended, result?, hstage, SessionStage.relaying.injEq, exists_eq_left']
    refine ⟨hreceived .toBackend, hreceived .toClient, fun hreplay result hresult => ?_⟩
    exact Exchange.result?_of_replayed hrun (mt SessionMove.mem_relays hreplay) hresult
  case rejected =>
    intro endpoint htried hrejects
    rcases h.of_tried hbacked htried with ⟨backend, reason, -, hstage⟩ | ⟨reply, -, hreach, -⟩
    · simp only [received, result?, hstage, implies_true, and_true]
      exact ⟨_, rfl⟩
    · exact absurd hreach (hrejects reply)
  case settled => exact fun hmoves session => h.exists_patience hsize hmoves

end Handling

/-! ## The program's own run -/

namespace Session

variable {settings : Settings} {d : Dispatcher} {net : Network} {size : Nat} {stream : Bytes}
  {source : Source}

/-- What is to come of a session whose backend is reached like this. -/
def outcome (entry : Entry) (backend : Backend) (stream : Bytes) : Reach → Session
  | .accepted reply => ⟨.ok (), entry, some stream, reply⟩
  | .refused reason => ⟨.error (Network.connectFailure backend reason), entry, none, []⟩
  | .timedOut => ⟨.error (Network.connectFailure backend "connect timed out"), entry, none, []⟩

/-- Every session with a client that sends a stream and then finishes. -/
structure Routed (settings : Settings) (d : Dispatcher) (net : Network) (size : Nat)
    (stream : Bytes) (source : Source) : Prop where
  /-- However long patience is, the connection is bound to an entry, and what comes of the session
  depends on its endpoint alone. -/
  run : ∀ patience, ∃ entry backend endpoint,
    (∃ probes : List Move, Move.arrivals probes = [] ∧
      (Probing.run d size (.start source) probes).conn.bound = some entry) ∧
    entry ∈ d.registry.entries ∧ settings.Sends entry backend endpoint ∧
    Session.run d net size patience source = outcome entry backend stream (net.reach endpoint)
  /-- At every moment, whenever patience ends and however the relay's moves interleave. -/
  handled : ∀ moves x, (Handling.start source).run? d net size moves = some x →
    Handling.Intact settings d net size stream source moves x
  /-- The program's own run is one of these sessions. -/
  reached : ∀ patience, ∃ moves x, (∀ move ∈ moves, SessionMove.fails move = false) ∧
    (Handling.start source).run? d net size moves = some x ∧
    x.session? = some (Session.run d net size patience source)

/-- Every session whose connection is bound to an entry without a backend. -/
structure Unrouted (d : Dispatcher) (net : Network) (size : Nat) (source : Source) : Prop where
  /-- The session fails for its settings, whatever the network is like. -/
  run : ∀ patience entry, (Session.run d net size patience source).entry = entry →
    entry.backend = none →
    Session.run d net size patience source =
        ⟨.error (.config ("protocol " ++ entry.name ++ " has no backend")), entry, none, []⟩ ∧
      ∀ other, Session.run d other size patience source = Session.run d net size patience source
  /-- Nobody is contacted and nobody receives anything. -/
  handled : ∀ moves x entry, (Handling.start source).run? d net size moves = some x →
    x.probing.conn.bound = some entry → entry.backend = none →
    x.tried = [] ∧
      x.result? = some (.error (.config ("protocol " ++ entry.name ++ " has no backend"))) ∧
      ∀ direction, x.received direction = []

theorem exists_outcome {pieces : List Bytes} (hsize : 1 ≤ size) (hbacked : d.Backed settings)
    (hcut : IsCut stream pieces) (net : Network) (patience : Nat) :
    ∃ entry backend endpoint,
      (∃ probes : List Move, Move.arrivals probes = [] ∧
        (Probing.run d size (.start (.ofCut pieces)) probes).conn.bound = some entry) ∧
      entry ∈ d.registry.entries ∧ settings.Sends entry backend endpoint ∧
      Session.run d net size patience (.ofCut pieces) =
        outcome entry backend stream (net.reach endpoint) := by
  obtain ⟨entry, t, hbound, hprobe, moves, -, hrun⟩ :=
    Handling.start_canReach_bound d net size patience (.ofCut pieces)
  have hsound := (Handling.sound_start d net size (.ofCut pieces)).run? hrun
  have hmem := hsound.mem hbound
  obtain ⟨backend, endpoint, hsends⟩ := hbacked entry hmem
  -- Nothing is lost while probing: what it holds and what is unread make the stream.
  have hstream : t.conn.deferred ++ readable t.source = stream := by
    rw [hsound.readable ⟨stream, pieces, hcut, rfl⟩]
    exact hsound.kept.trans (Source.remaining_ofCut hcut)
  refine ⟨entry, backend, endpoint,
    ⟨SessionMove.probes moves, SessionMove.arrivals_probes moves, ?_⟩, hmem, hsends, ?_⟩
  · rw [← hbound]
    exact congrArg (·.conn.bound) hsound.probing.symm
  · have hconnect : net.connect backend = net.connectTo backend "no address" [endpoint] :=
      Network.connect_of_endpoints (Network.endpoints_of_address hsends.endpoint?)
    rw [run_of_probe hsize net hprobe]
    simp only [hsends.backend_eq, hconnect, hstream, Network.connectTo]
    cases net.reach endpoint <;> rfl

theorem routed {pieces : List Bytes} (hsize : 1 ≤ size) (hbacked : d.Backed settings)
    (hcut : IsCut stream pieces) (net : Network) :
    Routed settings d net size stream (.ofCut pieces) where
  run := exists_outcome hsize hbacked hcut net
  handled := fun _ _ hrun =>
    ((Handling.sound_start d net size (.ofCut pieces)).run? hrun).intact hsize hbacked hcut
  reached := by
    intro patience
    obtain ⟨x, ⟨moves, hmoves, hrun⟩, hsession⟩ :=
      Handling.exists_run d net hsize patience (.ofCut pieces)
    exact ⟨moves, x, hmoves, hrun, hsession⟩

theorem entry_run (d : Dispatcher) (net : Network) (size patience : Nat) (source : Source) :
    (run d net size patience source).entry = (probe d size patience .fresh source).1 := by
  simp only [run]
  cases (probe d size patience .fresh source).1.backend with
  | none => rfl
  | some backend =>
    cases hconnect : net.connect backend <;> simp only [hconnect]

theorem run_of_noBackend {patience : Nat}
    (h : (probe d size patience .fresh source).1.backend = none) (net : Network) :
    run d net size patience source =
      ⟨.error (noBackend (probe d size patience .fresh source).1),
        (probe d size patience .fresh source).1, none, []⟩ := by
  simp only [run, h]

theorem unrouted (d : Dispatcher) (net : Network) (size : Nat) (source : Source) :
    Unrouted d net size source where
  run := by
    rintro patience entry rfl hnone
    rw [entry_run] at hnone ⊢
    exact ⟨run_of_noBackend hnone net, fun other => by
      rw [run_of_noBackend hnone, run_of_noBackend hnone]⟩
  handled := by
    intro moves x entry hrun hbound hnone
    have hfits := ((Handling.sound_start d net size source).run? hrun).fits
    obtain ⟨hstage, htried⟩ := hfits.of_noBackend hbound hnone
    simp only [htried, Handling.result?, Handling.received, hstage, implies_true, and_true,
      true_and]
    rfl

/-- **A session reaches one backend, and the stream is intact.** -/
theorem stream_intact (engine : Pattern.Engine) (settings : Settings) :
    (settings.validate = .ok () → settings.PatternsCompile engine → settings.HostsLiteral →
      ∃ d, Dispatcher.ofSettings engine settings = .ok d ∧
        ∀ (net : Network) (stream : Bytes) (pieces : List Bytes), IsCut stream pieces →
          Routed settings d net settings.bufferSize.toNat stream (.ofCut pieces)) ∧
      ∀ (d : Dispatcher) (net : Network) (size : Nat) (source : Source),
        Unrouted d net size source := by
  refine ⟨fun hvalid hpatterns hhosts => ?_, unrouted⟩
  have hfaultless := Settings.validate_eq_ok_iff.1 hvalid
  obtain ⟨d, hd⟩ := hfaultless.exists_dispatcher hpatterns
  have hsize : 1 ≤ settings.bufferSize.toNat := by
    have hpos := UInt64.pos_iff_ne_zero.2 hfaultless.bufferSize
    rwa [UInt64.lt_iff_toNat_lt] at hpos
  exact ⟨_, hd, fun net stream pieces hcut => routed hsize (hfaultless.backed hhosts hd) hcut net⟩

/-- A table with two backends, one of them at an address in brackets. -/
def twoBackends : Settings :=
  { Settings.default with
    routes := [
      { Route.named "ssh" with host := some "127.0.0.1", port := some 22 },
      { Route.named "anyprot" with host := some "[::1]", port := some 80 }] }

def webEndpoint : Endpoint := ⟨.v6 ⟨[0, 0, 0, 0, 0, 0, 0, 1], rfl⟩, 80⟩

theorem endpoint_of_sends {entry : Entry} {backend : Backend} {endpoint : Endpoint}
    (h : twoBackends.Sends entry backend endpoint) :
    entry.name = "ssh" ∧ endpoint = ⟨.v4 ⟨127, 0, 0, 1⟩, 22⟩ ∨
      entry.name = "anyprot" ∧ endpoint = webEndpoint := by
  obtain ⟨-, ⟨route, hmem, hname, hhost, hport⟩, haddress, hendpoint⟩ := h
  obtain ⟨host, port⟩ := backend
  obtain ⟨address, port'⟩ := endpoint
  rcases List.mem_pair.1 hmem with rfl | rfl
  all_goals
    cases hhost
    cases hport
    cases haddress
    cases hendpoint
  · exact .inl ⟨hname.symm, rfl⟩
  · exact .inr ⟨hname.symm, rfl⟩

/-- A network in which one endpoint accepts and says hello, and everybody else refuses. -/
def onlyAt (endpoint : Endpoint) : Network where
  resolve _ _ := .ok []
  reach other := if other = endpoint then .accepted [104, 105] else .refused "closed"
  listen _ := .ok ()

/-- A client that speaks at once is sent to the web and is answered. If patience ends before that,
it is sent to the other endpoint, and nobody receives anything. -/
theorem stream_intact_twoBackends :
    ∃ d, Dispatcher.ofSettings Settings.wordEngine twoBackends = .ok d ∧
    (∃ x, (Handling.start (.ofCut [[71, 69, 84, 32], [47]])).run? d (onlyAt webEndpoint) 8192
        [.classify, .connect] = some x ∧ x.tried = [webEndpoint]) ∧
    (∃ entry, Session.run d (onlyAt webEndpoint) 8192 1 (.ofCut [[71, 69, 84, 32], [47]]) =
      ⟨.ok (), entry, some [71, 69, 84, 32, 47], [104, 105]⟩) ∧
    ∃ x, (Handling.start (.ofCut [[71, 69, 84, 32], [47]])).run? d (onlyAt webEndpoint) 8192
        [.timeOut, .connect] = some x ∧ x.tried = [⟨.v4 ⟨127, 0, 0, 1⟩, 22⟩] ∧
      (∃ reason, x.result? = some (.error (.network reason))) ∧
      ∀ direction, x.received direction = [] := by
  have hvalid : twoBackends.validate = .ok () := rfl
  have hbuilt : ∃ registry, Registry.ofSettings Settings.wordEngine twoBackends = .ok registry :=
    ⟨_, rfl⟩
  have hhosts : twoBackends.HostsLiteral := by
    intro route hmem host hhost
    rcases List.mem_pair.1 hmem with rfl | rfl
    · cases hhost
      exact ⟨_, rfl⟩
    · cases hhost
      exact ⟨_, rfl⟩
  obtain ⟨d, hd, hrouted⟩ := (stream_intact Settings.wordEngine twoBackends).1 hvalid
    (Settings.exists_ofSettings_iff.1 hbuilt).2 hhosts
  have hcut : IsCut [71, 69, 84, 32, 47] [[71, 69, 84, 32], [47]] := ⟨rfl, by decide⟩
  have hroute : Routed twoBackends d (onlyAt webEndpoint) 8192 _ _ := hrouted _ _ _ hcut
  -- Whom the connection is bound to is a matter of two moves, for a dispatcher that is at hand.
  have hmoves : ∃ d, Dispatcher.ofSettings Settings.wordEngine twoBackends = .ok d ∧
      (∃ x, (Handling.start (.ofCut [[71, 69, 84, 32], [47]])).run? d (onlyAt webEndpoint) 8192
        [.classify, .connect] = some x ∧ x.tried ≠ [] ∧
        x.probing.conn.bound.map Entry.name = some "anyprot") ∧
      (Session.run d (onlyAt webEndpoint) 8192 1 (.ofCut [[71, 69, 84, 32], [47]])).clientGot ≠ [] ∧
      ∃ x, (Handling.start (.ofCut [[71, 69, 84, 32], [47]])).run? d (onlyAt webEndpoint) 8192
        [.timeOut, .connect] = some x ∧ x.tried ≠ [] ∧
        x.probing.conn.bound.map Entry.name = some "ssh" := by
    refine ⟨_, rfl, ⟨_, rfl, ?_, rfl⟩, ?_, _, rfl, ?_, rfl⟩
    all_goals exact List.cons_ne_nil _ _
  obtain ⟨_, hd', ⟨x, hx, hxtried, hxbound⟩, hgot, y, hy, hytried, hybound⟩ := hmoves
  cases hd.symm.trans hd'
  refine ⟨d, hd, ⟨x, hx, ?_⟩, ?_, y, hy, ?_⟩
  · have hintact := hroute.handled _ x hx
    rcases hintact.contacts with hnone | ⟨entry, _, endpoint, hbound, -, hsends, htried⟩
    · exact absurd hnone hxtried
    · rw [hbound] at hxbound
      rcases endpoint_of_sends hsends with ⟨hname, -⟩ | ⟨-, rfl⟩
      · simp [hname] at hxbound
      · exact htried
  · obtain ⟨entry, backend, endpoint, -, -, hsends, hrun⟩ := hroute.run 1
    rcases endpoint_of_sends hsends with ⟨-, rfl⟩ | ⟨-, rfl⟩
    · rw [hrun] at hgot
      exact absurd rfl hgot
    · exact ⟨entry, hrun⟩
  · have hintact := hroute.handled _ y hy
    rcases hintact.contacts with hnone | ⟨entry, _, endpoint, hbound, -, hsends, htried⟩
    · exact absurd hnone hytried
    · rw [hbound] at hybound
      rcases endpoint_of_sends hsends with ⟨-, rfl⟩ | ⟨hname, -⟩
      · exact ⟨htried, hintact.rejected _ htried fun reply => Reach.noConfusion⟩
      · simp [hname] at hybound

end Session

end Switchboard
