import Switchboard.Proofs.Binding
import Switchboard.Proofs.Exchange
import Switchboard.Session

/-!
# A session as it happens

**The state** (`Handling`). A session is probed, then tries the endpoints of its backend one by one,
then relays, unless it is dropped on the way. The endpoints that were contacted are kept, in order.

**Moves.** Patience may end before any read, and the moves of the relay interleave in every possible
way (`Exchange`).

**The invariant** (`Fits`). In each stage, what the connection is bound to decides the backend, the
backend decides the endpoints, and what the relay starts from is what probing has left. The probing
moves of a session are a run of `Probing`, and its relaying moves one of `Exchange`, so what is
known of these holds of the session (`Sound.run?`).
-/

namespace Switchboard

/-! ## Sessions that go on -/

inductive SessionStage
  | probing
  /-- The next endpoint to try, and those behind it. -/
  | connecting (backend : Backend) (endpoint : Endpoint) (rest : List Endpoint)
  | relaying (exchange : Exchange)
  | dropped (failure : Failure)
  deriving DecidableEq, Repr

namespace SessionStage

/-- The stage with so many endpoints left to try. -/
def ofUntried (backend : Backend) (reason : String) : List Endpoint → SessionStage
  | [] => dropped (Network.connectFailure backend reason)
  | endpoint :: rest => connecting backend endpoint rest

/-- The stage of a session whose connection has just been bound. -/
def ofEntry (net : Network) (entry : Entry) : SessionStage :=
  match entry.backend with
  | none => dropped (Session.noBackend entry)
  | some backend =>
    match net.endpoints backend with
    | .error failure => dropped failure
    | .ok found => ofUntried backend "no address" found

/-- The stage after an endpoint has been contacted. -/
def ofReach (s : Probing) (backend : Backend) (rest : List Endpoint) : Reach → SessionStage
  | .accepted reply => relaying (.start s.conn.deferred (Session.readable s.source) reply)
  | .refused reason => ofUntried backend reason rest
  | .timedOut => ofUntried backend "connect timed out" rest

end SessionStage

structure Handling where
  /-- The connection, and what has not been read from the client. -/
  probing : Probing
  stage : SessionStage
  /-- The endpoints that were contacted. -/
  tried : List Endpoint

inductive SessionMove
  | classify
  | timeOut
  /-- The next endpoint is contacted. -/
  | connect
  | relay (move : ExchangeMove)
  deriving DecidableEq, Repr

namespace SessionMove

def fails : SessionMove → Bool
  | relay move => move.fails
  | classify | timeOut | connect => false

/-- The move as one of the probing. -/
def probe? : SessionMove → Option Move
  | classify => some .classify
  | timeOut => some .timeOut
  | connect | relay _ => none

/-- The move as one of the relay. -/
def relay? : SessionMove → Option ExchangeMove
  | relay move => some move
  | classify | timeOut | connect => none

def probes (moves : List SessionMove) : List Move := moves.filterMap probe?

def relays (moves : List SessionMove) : List ExchangeMove := moves.filterMap relay?

theorem probes_concat (moves : List SessionMove) (move : SessionMove) :
    probes (moves ++ [move]) = probes moves ++ move.probe?.toList := by
  rw [probes, List.filterMap_append, probes]
  cases h : move.probe? <;> simp [h]

theorem relays_concat (moves : List SessionMove) (move : SessionMove) :
    relays (moves ++ [move]) = relays moves ++ move.relay?.toList := by
  rw [relays, List.filterMap_append, relays]
  cases h : move.relay? <;> simp [h]

/-- Nothing arrives in the course of a session. Its source is all that its client ever sends. -/
theorem arrivals_probes (moves : List SessionMove) : Move.arrivals (probes moves) = [] := by
  induction moves with
  | nil => rfl
  | cons move moves ih => cases move <;> exact ih

theorem mem_relays {moves : List SessionMove} {move : ExchangeMove} (h : move ∈ relays moves) :
    relay move ∈ moves := by
  obtain ⟨outer, houter, hrelay⟩ := List.mem_filterMap.1 h
  cases outer with
  | relay inner =>
    cases hrelay
    exact houter
  | classify | timeOut | connect => cases hrelay

theorem fails_of_mem_relays {moves : List SessionMove} (h : ∀ move ∈ moves, move.fails = false) :
    ∀ move ∈ relays moves, move.fails = false :=
  fun move hmem => h (relay move) (mem_relays hmem)

end SessionMove

namespace Handling

def start (source : Source) : Handling := ⟨.start source, .probing, []⟩

/-- The session after its connection has been probed further. -/
def probed (net : Network) (x : Handling) (s : Probing) : Handling where
  probing := s
  stage := match s.conn.bound with
    | none => .probing
    | some entry => .ofEntry net entry
  tried := x.tried

/-- The session after an endpoint has been contacted. -/
def contacted (net : Network) (x : Handling) (backend : Backend) (endpoint : Endpoint)
    (rest : List Endpoint) : Handling where
  probing := x.probing
  stage := .ofReach x.probing backend rest (net.reach endpoint)
  tried := x.tried ++ [endpoint]

/-- A move of a session; none if it is not possible. -/
def step? (d : Dispatcher) (net : Network) (size : Nat) (x : Handling) (move : SessionMove) :
    Option Handling :=
  match x.stage with
  | .probing => move.probe?.map fun move => x.probed net (x.probing.step d size move)
  | .connecting backend endpoint rest =>
    if move = .connect then some (x.contacted net backend endpoint rest) else none
  | .relaying exchange =>
    move.relay?.bind fun move =>
      (exchange.step? size move).map fun next => { x with stage := .relaying next }
  | .dropped _ => none

def run? (d : Dispatcher) (net : Network) (size : Nat) (x : Handling) (moves : List SessionMove) :
    Option Handling :=
  moves.foldlM (fun x move => x.step? d net size move) x

/-- What the caller of the session is told, as soon as it is told something. -/
def result? (x : Handling) : Option (Except Failure Unit) :=
  match x.stage with
  | .probing | .connecting _ _ _ => none
  | .relaying exchange => exchange.result?
  | .dropped failure => some (.error failure)

def received (x : Handling) (direction : Direction) : Bytes :=
  match x.stage with
  | .relaying exchange => (exchange.flow direction).received
  | .probing | .connecting _ _ _ | .dropped _ => []

/-- The receiver of a direction has seen the end of its stream. -/
def ended (x : Handling) (direction : Direction) : Prop :=
  ∃ exchange, x.stage = .relaying exchange ∧ (exchange.flow direction).ended = true

/-- What the session has come to. -/
def session? (x : Handling) : Option Session :=
  match x.stage, x.probing.conn.bound with
  | .relaying exchange, some entry =>
    if exchange.toBackend.ended ∧ exchange.toClient.ended then
      some ⟨.ok (), entry, some exchange.toBackend.received, exchange.toClient.received⟩
    else none
  | .dropped failure, some entry => some ⟨.error failure, entry, none, []⟩
  | _, _ => none

end Handling

/-! ## Connecting -/

namespace Network

variable {net : Network} {backend : Backend} {endpoint : Endpoint} {tried rest : List Endpoint}
  {reason : String}

def Rejects (net : Network) (endpoints : List Endpoint) : Prop :=
  ∀ endpoint ∈ endpoints, ∀ reply, net.reach endpoint ≠ .accepted reply

theorem Rejects.concat (h : net.Rejects tried)
    (hreach : ∀ reply, net.reach endpoint ≠ .accepted reply) :
    net.Rejects (tried ++ [endpoint]) := by
  intro other hmem
  rcases List.mem_append.1 hmem with hmem | hmem
  · exact h other hmem
  · rw [List.mem_singleton.1 hmem]
    exact hreach

/-- Behind endpoints that do not accept, the next one is as if it were the first. -/
theorem Rejects.connectTo (h : net.Rejects tried) (reason : String) :
    net.connectTo backend reason (tried ++ endpoint :: rest) =
      net.connectTo backend reason (endpoint :: rest) := by
  induction tried generalizing reason with
  | nil => rfl
  | cons first tried ih =>
    rw [Rejects, List.forall_mem_cons] at h
    rw [List.cons_append, Network.connectTo]
    cases hreach : net.reach first with
    | accepted reply => exact absurd hreach (h.1 reply)
    | refused other => exact ih h.2 other
    | timedOut => exact ih h.2 _

theorem connect_of_endpoints {found : List Endpoint} (h : net.endpoints backend = .ok found) :
    net.connect backend = net.connectTo backend "no address" found := by
  rw [connect, h]
  rfl

theorem connect_of_unresolved {failure : Failure} (h : net.endpoints backend = .error failure) :
    net.connect backend = .error failure := by
  rw [connect, h]
  rfl

end Network

/-! ## What each stage comes from -/

/-- How a stage is reached, with the endpoints tried and the moves of the relay on the way. -/
inductive Fits (net : Network) (size : Nat) (s : Probing) :
    List Endpoint → List ExchangeMove → SessionStage → Prop
  | probing : s.conn.bound = none → Fits net size s [] [] .probing
  | noBackend {entry : Entry} : s.conn.bound = some entry → entry.backend = none →
      Fits net size s [] [] (.dropped (Session.noBackend entry))
  | unresolved {entry : Entry} {backend : Backend} {failure : Failure} :
      s.conn.bound = some entry → entry.backend = some backend →
      net.endpoints backend = .error failure → Fits net size s [] [] (.dropped failure)
  | connecting {entry : Entry} {backend : Backend} {tried rest : List Endpoint}
      {endpoint : Endpoint} :
      s.conn.bound = some entry → entry.backend = some backend →
      net.endpoints backend = .ok (tried ++ endpoint :: rest) → net.Rejects tried →
      Fits net size s tried [] (.connecting backend endpoint rest)
  | rejected {entry : Entry} {backend : Backend} {tried : List Endpoint} {reason : String} :
      s.conn.bound = some entry → entry.backend = some backend →
      net.endpoints backend = .ok tried → net.Rejects tried →
      net.connect backend = .error (Network.connectFailure backend reason) →
      Fits net size s tried [] (.dropped (Network.connectFailure backend reason))
  | relaying {entry : Entry} {backend : Backend} {tried rest : List Endpoint}
      {endpoint : Endpoint} {reply : Bytes} {moves : List ExchangeMove} {exchange : Exchange} :
      s.conn.bound = some entry → entry.backend = some backend →
      net.endpoints backend = .ok (tried ++ endpoint :: rest) → net.Rejects tried →
      net.reach endpoint = .accepted reply →
      (Exchange.start s.conn.deferred (Session.readable s.source) reply).run? size moves =
        some exchange →
      Fits net size s (tried ++ [endpoint]) moves (.relaying exchange)

namespace Fits

variable {net : Network} {size : Nat} {s : Probing} {entry : Entry} {backend : Backend}
  {tried rest : List Endpoint} {endpoint : Endpoint} {relayed : List ExchangeMove}

theorem ofUntried {reason : String} {untried : List Endpoint} (hbound : s.conn.bound = some entry)
    (hbackend : entry.backend = some backend)
    (hfound : net.endpoints backend = .ok (tried ++ untried)) (hrejects : net.Rejects tried)
    (hlast : untried = [] →
      net.connect backend = .error (Network.connectFailure backend reason)) :
    Fits net size s tried [] (.ofUntried backend reason untried) := by
  cases untried with
  | nil =>
    rw [List.append_nil] at hfound
    exact .rejected hbound hbackend hfound hrejects (hlast rfl)
  | cons endpoint rest => exact .connecting hbound hbackend hfound hrejects

theorem ofEntry (hbound : s.conn.bound = some entry) :
    Fits net size s [] [] (.ofEntry net entry) := by
  unfold SessionStage.ofEntry
  cases hbackend : entry.backend with
  | none => exact .noBackend hbound hbackend
  | some backend =>
    have hnone : net.Rejects [] := fun _ h => absurd h List.not_mem_nil
    cases hfound : net.endpoints backend with
    | error failure =>
      simp only [hfound]
      exact .unresolved hbound hbackend hfound
    | ok found =>
      simp only [hfound]
      refine ofUntried hbound hbackend hfound hnone ?_
      rintro rfl
      exact Network.connect_of_endpoints hfound

/-- An endpoint that does not accept leaves those behind it. -/
theorem ofRejected {reason : String} (hbound : s.conn.bound = some entry)
    (hbackend : entry.backend = some backend)
    (hfound : net.endpoints backend = .ok (tried ++ endpoint :: rest))
    (hrejects : net.Rejects tried) (hreach : ∀ reply, net.reach endpoint ≠ .accepted reply)
    (hreason : net.connectTo backend "no address" [endpoint] =
      .error (Network.connectFailure backend reason)) :
    Fits net size s (tried ++ [endpoint]) [] (.ofUntried backend reason rest) := by
  refine ofUntried hbound hbackend ?_ (hrejects.concat hreach) ?_
  · rw [hfound, List.append_assoc, List.singleton_append]
  · rintro rfl
    rw [Network.connect_of_endpoints hfound, hrejects.connectTo, hreason]

theorem ofReach (hbound : s.conn.bound = some entry) (hbackend : entry.backend = some backend)
    (hfound : net.endpoints backend = .ok (tried ++ endpoint :: rest))
    (hrejects : net.Rejects tried) :
    Fits net size s (tried ++ [endpoint]) [] (.ofReach s backend rest (net.reach endpoint)) := by
  cases hreach : net.reach endpoint with
  | accepted reply => exact .relaying hbound hbackend hfound hrejects hreach rfl
  | refused reason =>
    refine ofRejected hbound hbackend hfound hrejects (by rw [hreach]; exact nofun) ?_
    simp only [Network.connectTo, hreach]
  | timedOut =>
    refine ofRejected hbound hbackend hfound hrejects (by rw [hreach]; exact nofun) ?_
    simp only [Network.connectTo, hreach]

theorem of_probing (h : Fits net size s tried relayed .probing) :
    s.conn.bound = none ∧ tried = [] ∧ relayed = [] := by
  cases h with
  | probing hbound => exact ⟨hbound, rfl, rfl⟩

/-- A session whose connection is not bound is still probed. -/
theorem of_unbound {stage : SessionStage} (h : Fits net size s tried relayed stage)
    (hnone : s.conn.bound = none) : stage = .probing ∧ tried = [] := by
  cases h with
  | probing => exact ⟨rfl, rfl⟩
  | noBackend hbound | unresolved hbound | connecting hbound | rejected hbound
  | relaying hbound =>
    cases hnone.symm.trans hbound

/-- A session whose connection is bound to an entry without a backend is dropped at once. -/
theorem of_noBackend {stage : SessionStage} (h : Fits net size s tried relayed stage)
    (hbound : s.conn.bound = some entry) (hnone : entry.backend = none) :
    stage = .dropped (Session.noBackend entry) ∧ tried = [] := by
  cases h with
  | probing hunbound => cases hunbound.symm.trans hbound
  | noBackend hbound' _ =>
    cases hbound.symm.trans hbound'
    exact ⟨rfl, rfl⟩
  | unresolved hbound' hbackend | connecting hbound' hbackend | rejected hbound' hbackend
  | relaying hbound' hbackend =>
    cases hbound.symm.trans hbound'
    cases hnone.symm.trans hbackend

theorem connect (h : Fits net size s tried relayed (.connecting backend endpoint rest)) :
    Fits net size s (tried ++ [endpoint]) relayed
      (.ofReach s backend rest (net.reach endpoint)) := by
  cases h with
  | connecting hbound hbackend hfound hrejects =>
    exact ofReach hbound hbackend hfound hrejects

theorem relay {exchange next : Exchange} {move : ExchangeMove}
    (h : Fits net size s tried relayed (.relaying exchange))
    (hstep : exchange.step? size move = some next) :
    Fits net size s tried (relayed ++ [move]) (.relaying next) := by
  cases h with
  | relaying hbound hbackend hfound hrejects hreach hrun =>
    refine .relaying hbound hbackend hfound hrejects hreach ?_
    rw [Exchange.run?_concat, hrun]
    exact hstep

end Fits

/-! ## The invariant -/

namespace Handling

variable {d : Dispatcher} {net : Network} {size : Nat} {source : Source} {x next : Handling}
  {before moves : List SessionMove} {move : SessionMove}

/-- What is true of a session after some moves. -/
structure Sound (d : Dispatcher) (net : Network) (size : Nat) (source : Source)
    (moves : List SessionMove) (x : Handling) : Prop where
  probing : x.probing = Probing.run d size (.start source) (SessionMove.probes moves)
  fits : Fits net size x.probing x.tried (SessionMove.relays moves) x.stage

theorem sound_start (d : Dispatcher) (net : Network) (size : Nat) (source : Source) :
    Sound d net size source [] (start source) :=
  ⟨rfl, .probing rfl⟩

theorem fits_probed (net : Network) (size : Nat) (x : Handling) (s : Probing) :
    Fits net size s [] [] (x.probed net s).stage := by
  rw [probed]
  cases hbound : s.conn.bound with
  | none => exact .probing hbound
  | some entry => exact .ofEntry hbound

theorem Sound.probe {probe : Move} (h : Sound d net size source before x)
    (hstage : x.stage = .probing) (hprobe : move.probe? = some probe)
    (hrelay : move.relay? = none) :
    Sound d net size source (before ++ [move])
      (x.probed net (x.probing.step d size probe)) := by
  obtain ⟨hprobing, hfits⟩ := h
  rw [hstage] at hfits
  obtain ⟨-, htried, hrelays⟩ := hfits.of_probing
  constructor
  · rw [SessionMove.probes_concat, hprobe, Option.toList_some, Probing.run_concat, ← hprobing]
    rfl
  · rw [SessionMove.relays_concat, hrelays, hrelay]
    show Fits net size _ x.tried [] _
    rw [htried]
    exact fits_probed net size x _

theorem Sound.connect {backend : Backend} {endpoint : Endpoint} {rest : List Endpoint}
    (h : Sound d net size source before x) (hstage : x.stage = .connecting backend endpoint rest) :
    Sound d net size source (before ++ [.connect]) (x.contacted net backend endpoint rest) := by
  obtain ⟨hprobing, hfits⟩ := h
  rw [hstage] at hfits
  constructor
  · rw [SessionMove.probes_concat]
    exact hprobing.trans (congrArg _ (List.append_nil _).symm)
  · rw [SessionMove.relays_concat]
    show Fits net size x.probing _ (SessionMove.relays before ++ []) _
    rw [List.append_nil]
    exact hfits.connect

theorem Sound.relay {exchange after : Exchange} {inner : ExchangeMove}
    (h : Sound d net size source before x) (hstage : x.stage = .relaying exchange)
    (hafter : exchange.step? size inner = some after) :
    Sound d net size source (before ++ [.relay inner]) { x with stage := .relaying after } := by
  obtain ⟨hprobing, hfits⟩ := h
  rw [hstage] at hfits
  constructor
  · rw [SessionMove.probes_concat]
    exact hprobing.trans (congrArg _ (List.append_nil _).symm)
  · rw [SessionMove.relays_concat]
    exact hfits.relay hafter

/-- **Each move leads to a stage that fits.** -/
theorem Sound.step? (h : Sound d net size source before x)
    (hstep : x.step? d net size move = some next) :
    Sound d net size source (before ++ [move]) next := by
  rw [Handling.step?] at hstep
  -- One lemma per stage that can move; in the others no move is enabled.
  cases hstage : x.stage with
  | probing =>
    rw [hstage] at hstep
    cases move with
    | classify | timeOut =>
      cases hstep
      exact h.probe hstage rfl rfl
    | connect | relay inner => cases hstep
  | connecting backend endpoint rest =>
    simp only [hstage, Option.ite_none_right_eq_some, Option.some.injEq] at hstep
    obtain ⟨rfl, rfl⟩ := hstep
    exact h.connect hstage
  | relaying exchange =>
    rw [hstage] at hstep
    cases move with
    | relay inner =>
      obtain ⟨after, hafter, rfl⟩ := Option.map_eq_some_iff.1 hstep
      exact h.relay hstage hafter
    | classify | timeOut | connect => cases hstep
  | dropped failure =>
    rw [hstage] at hstep
    cases hstep

theorem Sound.run? (h : Sound d net size source before x)
    (hrun : x.run? d net size moves = some next) :
    Sound d net size source (before ++ moves) next := by
  induction moves generalizing x before with
  | nil =>
    cases hrun
    rw [List.append_nil]
    exact h
  | cons move moves ih =>
    obtain ⟨between, hstep, hrest⟩ := Option.bind_eq_some_iff.1 hrun
    rw [List.append_cons]
    exact ih (h.step? hstep) hrest

end Handling

end Switchboard
