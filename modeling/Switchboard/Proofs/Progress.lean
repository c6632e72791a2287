import Mathlib.Algebra.GroupWithZero.Nat
import Switchboard.Proofs.Walking

/-!
# Walks come to an end

**Debts.** An iteration of a loop owes as many bytes as an item has at least (`Loop.least`). A
script pays by reading them before it is done, and before it opens a part or goes into a loop
(`Script.Pays`), so only the innermost cursor is ever in debt.

**Iterations.** Each of them is paid for with a byte of its own, so there are no more of them than
bytes. The invariant (`Walk.Paid`) holds the iterations so far against the bytes that are still
ahead of all cursors. When a part is opened, its bytes go from one cursor to another and are not
lost.

**The end.** The reader of a script has fuel for its loops. As items are paid for, a loop is through
before the fuel is, and the walk comes to where the reader comes to (`Walk.lands`).

Main results: `Walk.paid_run`, `Walk.completions_eq_iterations`, `Walk.progress_run` and
`Walk.exists_run_eq_ended`.
-/

namespace Switchboard.Tls

/-- The bytes of the shortest item of a loop: an extension without content, a server name without
bytes, a protocol without bytes. -/
def Loop.least : Loop → Nat
  | extensions => 4
  | names => 3
  | protocols => 1

theorem Loop.least_pos (kind : Loop) : 0 < kind.least := by
  cases kind <;> decide

/-! ## Debts -/

namespace Script

variable {α β : Type}

/-- At least so many bytes are read before the script is done, and before it opens a part or goes
into a loop. In all of its loops the items pay what they owe. -/
def Pays {α : Type} : Script α → Nat → Prop
  | done _, owed => owed = 0
  | fail, _ => True
  | take n next, owed => ∀ piece, (next piece).Pays (owed - n)
  | look next, owed => ∀ c, (next c).Pays owed
  | part _ content next, owed => owed = 0 ∧ content.Pays 0 ∧ ∀ x, (next x).Pays 0
  | loop kind item next, owed => owed = 0 ∧ item.Pays kind.least ∧ ∀ xs, (next xs).Pays 0

theorem pays_pure (x : α) : (pure x : Script α).Pays 0 := rfl

theorem Pays.bind {script : Script α} {k : α → Script β} {owed : Nat} (h : script.Pays owed)
    (hk : ∀ x, (k x).Pays 0) : (script >>= k).Pays owed := by
  induction script generalizing owed with
  | done x =>
    subst h
    exact hk x
  | fail => trivial
  | take n next ih => exact fun piece => ih piece (h piece) hk
  | look next ih => exact fun c => ih c (h c) hk
  | part n content next _ ih => exact ⟨h.1, h.2.1, fun x => ih x (h.2.2 x) hk⟩
  | loop kind item next _ ih => exact ⟨h.1, h.2.1, fun xs => ih xs (h.2.2 xs) hk⟩

theorem Pays.ite {p : Prop} [Decidable p] {yes no : Script α} {owed : Nat} (hyes : yes.Pays owed)
    (hno : no.Pays owed) : (if p then yes else no).Pays owed := by
  by_cases h : p
  · rwa [if_pos h]
  · rwa [if_neg h]

theorem pays_bytes {n owed : Nat} (h : owed ≤ n) : (bytes n).Pays owed :=
  fun _ => Nat.sub_eq_zero_of_le h

/-- A number pays with its own bytes, and what follows it pays the rest. -/
theorem pays_number {width owed : Nat} {k : Nat → Script α}
    (h : ∀ n, (k n).Pays (owed - width)) : (number width >>= k).Pays owed :=
  fun _ => h _

theorem pays_vector {width owed : Nat} (h : owed ≤ width) : (vector width).Pays owed :=
  pays_number fun n => pays_bytes (by omega)

theorem pays_vectorOf {width owed : Nat} {content : Script α} (h : owed ≤ width)
    (hcontent : content.Pays 0) : (vectorOf width content).Pays owed :=
  pays_number fun _ => ⟨Nat.sub_eq_zero_of_le h, hcontent, pays_pure⟩

theorem pays_items {kind : Loop} {item : Script α} (h : item.Pays kind.least) :
    (items kind item).Pays 0 :=
  ⟨rfl, h, pays_pure⟩

theorem pays_remainder : remainder.Pays 0 := fun _ => pays_bytes (Nat.zero_le _)

theorem pays_serverName : serverName.Pays Loop.names.least :=
  pays_number fun _ => (pays_vector (by decide)).bind fun _ => pays_pure _

theorem pays_extensionContent (extensionType : Nat) : (extensionContent extensionType).Pays 0 := by
  have htail : ∀ wrap : Bytes → Extension,
      (do return wrap (← remainder) : Script Extension).Pays 0 :=
    fun wrap => pays_remainder.bind fun tail => pays_pure (wrap tail)
  unfold extensionContent
  apply Pays.ite
  · have hnames : (vectorOf 2 (items .names serverName)).Pays 0 :=
      pays_vectorOf (Nat.zero_le _) (pays_items pays_serverName)
    exact hnames.bind fun names => htail (.serverNames names)
  · apply Pays.ite
    · have hprotocols : (vectorOf 2 (items .protocols (vector 1))).Pays 0 :=
        pays_vectorOf (Nat.zero_le _) (pays_items (pays_vector (Nat.le_refl 1)))
      exact hprotocols.bind fun names => htail (.protocols names)
    · exact htail (.other extensionType)

theorem pays_extension : extension.Pays Loop.extensions.least :=
  pays_number fun extensionType =>
    pays_vectorOf (Nat.le_refl 2) (pays_extensionContent extensionType)

theorem pays_body : body.Pays 0 := by
  have hextensions : (vectorOf 2 (items .extensions extension)).Pays 0 :=
    pays_vectorOf (Nat.zero_le _) (pays_items pays_extension)
  refine (pays_bytes (Nat.zero_le _)).bind fun preamble => ?_
  refine (pays_vector (Nat.zero_le _)).bind fun sessionId => ?_
  refine (pays_vector (Nat.zero_le _)).bind fun cipherSuites => ?_
  refine (pays_vector (Nat.zero_le _)).bind fun compressionMethods => ?_
  exact fun c => Pays.ite (pays_pure _) (hextensions.bind fun extensions => pays_pure _)

theorem pays_message : message.Pays 0 := by
  refine pays_number fun n => Pays.ite trivial ?_
  exact pays_number fun announced c => ⟨rfl, pays_body, pays_pure⟩

end Script

/-- What the frames wait for at a cursor, with so much owed: a part is opened without debts, and an
iteration has passed what its item owes, or will have. -/
def Frames.Await {α ρ : Type} : Frames α ρ → Cursor → Nat → Prop
  | nil, _, owed => owed = 0
  | whole cursor next outer, _, owed => owed = 0 ∧ (∀ x, (next x).Pays 0) ∧ outer.Await cursor 0
  | iteration kind item next start outer, c, owed =>
    (c.buffer = start.buffer ∧ start.position + kind.least ≤ c.position + owed) ∧
      item.Pays kind.least ∧ (∀ xs, (next xs).Pays 0) ∧ outer.Await c 0

/-- Bytes that are read are no longer owed. -/
theorem Frames.Await.skip {α ρ : Type} {frames : Frames α ρ} {c : Cursor} {owed : Nat}
    (h : frames.Await c owed) (n : Nat) : frames.Await (c.skip n) (owed - n) := by
  induction frames generalizing owed with
  | nil =>
    obtain rfl : owed = 0 := h
    exact Nat.zero_sub n
  | whole cursor next outer _ =>
    obtain ⟨rfl, hnext, houter⟩ := h
    exact ⟨Nat.zero_sub n, hnext, houter⟩
  | iteration kind item next start outer ih =>
    obtain ⟨⟨hbuffer, hposition⟩, hitem, hnext, houter⟩ := h
    refine ⟨⟨hbuffer, ?_⟩, hitem, hnext, ?_⟩
    · rw [Cursor.position_skip]
      omega
    · have hskip := ih houter
      rwa [Nat.zero_sub] at hskip

/-- All iterations that the frames wait for have begun in this way. -/
def Frames.Begun (begun : Loop → Cursor → Prop) {α ρ : Type} : Frames α ρ → Prop
  | nil => True
  | whole _ _ outer => outer.Begun begun
  | iteration kind _ _ start outer => begun kind start ∧ outer.Begun begun

theorem Frames.Begun.mono {α ρ : Type} {frames : Frames α ρ} {begun begun' : Loop → Cursor → Prop}
    (h : frames.Begun begun) (hle : ∀ kind c, begun kind c → begun' kind c) :
    frames.Begun begun' := by
  induction frames with
  | nil => trivial
  | whole cursor next outer ih => exact ih h
  | iteration kind item next start outer ih => exact ⟨hle kind start h.1, ih h.2⟩

/-- The iterations that the frames wait for. -/
def Frames.pending {α ρ : Type} : Frames α ρ → Nat
  | nil => 0
  | whole _ _ outer => outer.pending
  | iteration _ _ _ _ outer => outer.pending + 1

/-! ## Iterations -/

/-- The bytes ahead of some cursors. -/
def ahead (cursors : List Cursor) : Nat := (cursors.map fun c => c.rest.length).sum

theorem ahead_cons (c : Cursor) (cursors : List Cursor) :
    ahead (c :: cursors) = c.rest.length + ahead cursors :=
  List.sum_cons

/-- For each iteration so far there is a byte that is no longer ahead of any cursor. Only the last
one may be without, while it owes something and its cursor has something ahead to pay with. -/
def Covered (total count owed : Nat) (c : Cursor) (outer : List Cursor) : Prop :=
  count + ahead (c :: outer) ≤ total ∨
    0 < owed ∧ 0 < c.rest.length ∧ count + ahead (c :: outer) ≤ total + 1

namespace Covered

variable {total count owed n : Nat} {c : Cursor} {outer : List Cursor}

theorem count_le (h : Covered total count owed c outer) : count ≤ total := by
  unfold Covered at h
  rw [ahead_cons] at h
  omega

theorem of_paid (h : Covered total count 0 c outer) : count + ahead (c :: outer) ≤ total := by
  unfold Covered at h
  omega

/-- The first byte that is read pays. -/
theorem skip (h : Covered total count owed c outer) (hn : n ≤ c.rest.length) :
    Covered total count (owed - n) (c.skip n) outer := by
  unfold Covered at h ⊢
  rw [ahead_cons] at h ⊢
  rw [Cursor.length_rest_skip]
  omega

theorem leave {cursor : Cursor} (h : Covered total count 0 c (cursor :: outer)) :
    Covered total count 0 cursor outer := by
  have hpaid := h.of_paid
  rw [ahead_cons] at hpaid
  exact .inl (by omega)

/-- The bytes of a part are ahead of its cursor and no longer ahead of the other one. -/
theorem enter (h : Covered total count 0 c outer) (hn : n ≤ c.rest.length) :
    Covered total count 0 (.start (c.rest.take n)) (c.skip n :: outer) := by
  have hpaid := h.of_paid
  rw [ahead_cons] at hpaid
  refine .inl ?_
  rw [ahead_cons, ahead_cons, Cursor.length_rest_skip, Cursor.rest_start, List.length_take_of_le hn]
  omega

/-- Where an iteration begins there is a byte ahead to pay for it. -/
theorem begin (h : Covered total count 0 c outer) (hend : c.atEnd = false) (kind : Loop) :
    Covered total (count + 1) kind.least c outer := by
  have hrest : c.rest.length ≠ 0 := by
    intro hnone
    rw [Cursor.atEnd_iff.2 hnone] at hend
    cases hend
  have hpaid := h.of_paid
  exact .inr ⟨kind.least_pos, Nat.pos_of_ne_zero hrest, by omega⟩

end Covered

namespace Walk

variable {α β ρ : Type} {total count : Nat} {s t : Walk ρ}

/-- The loop of which an iteration is about to begin, and the cursor that it begins at. -/
def beginsAt? : Walk ρ → Option (Loop × Cursor)
  | going (.loop kind _ _) c _ => if c.atEnd then none else some (kind, c)
  | going (.done _) _ _ | going .fail _ _ | going (.take _ _) _ _ | going (.look _) _ _
  | going (.part _ _ _) _ _ | ended _ _ => none

theorem beginsAt?_of_atEnd {kind : Loop} {item : Script α} {next : List α → Script β} {c : Cursor}
    {frames : Frames β ρ} (hend : c.atEnd = true) :
    beginsAt? (going (.loop kind item next) c frames) = none := by
  rw [beginsAt?, if_pos hend]

theorem beginsAt?_of_not_atEnd {kind : Loop} {item : Script α} {next : List α → Script β}
    {c : Cursor} {frames : Frames β ρ} (hend : c.atEnd = false) :
    beginsAt? (going (.loop kind item next) c frames) = some (kind, c) := by
  rw [beginsAt?, if_neg (Bool.eq_false_iff.1 hend)]

/-- The loop of which an iteration has just read its item, the cursor that it began at, and the
cursor behind the item. -/
def completes? : Walk ρ → Option (Loop × Cursor × Cursor)
  | going (.done _) c (.iteration kind _ _ start _) => some (kind, start, c)
  | going (.done _) _ .nil | going (.done _) _ (.whole _ _ _) | going .fail _ _
  | going (.take _ _) _ _ | going (.look _) _ _ | going (.part _ _ _) _ _
  | going (.loop _ _ _) _ _ | ended _ _ => none

/-- How often something holds within some steps. -/
def times (p : Walk ρ → Bool) (s : Walk ρ) (n : Nat) : Nat :=
  (List.range n).countP fun k => p (s.run k)

theorem times_succ (p : Walk ρ → Bool) (s : Walk ρ) (n : Nat) :
    times p s (n + 1) = times p s n + if p (s.run n) then 1 else 0 := by
  unfold times
  rw [List.range_succ, List.countP_append, List.countP_singleton]

/-- The iterations that have begun within some steps. -/
def iterations : Walk ρ → Nat → Nat := times fun s => s.beginsAt?.isSome

/-- The iterations that have come to their end within some steps. -/
def completions : Walk ρ → Nat → Nat := times fun s => s.completes?.isSome

/-- A walk through `total` bytes, after `count` iterations have begun. -/
inductive Paid (total count : Nat) : Walk ρ → Prop
  | going {α : Type} {script : Script α} {c : Cursor} {frames : Frames α ρ} (owed : Nat) :
      script.Pays owed → frames.Await c owed → Covered total count owed c frames.cursors →
      Paid total count (going script c frames)
  | ended {result : Option ρ} {cursors : List Cursor} : count ≤ total →
      Paid total count (ended result cursors)

theorem Paid.count_le (h : Paid total count s) : count ≤ total := by
  cases h with
  | going owed _ _ hcovered => exact hcovered.count_le
  | ended hcount => exact hcount

theorem Paid.moves (h : Paid total count s) (hmoves : s.Moves t) :
    Paid total (count + if s.beginsAt?.isSome then 1 else 0) t := by
  cases hmoves with
  | finish | fail | missTake _ | missPart _ | stay => exact .ended h.count_le
  | leave =>
    obtain ⟨owed, hpays, hawait, hcovered⟩ := h
    obtain ⟨rfl, hnext, houter⟩ := hawait
    exact .going 0 (hnext _) houter hcovered.leave
  | again =>
    obtain ⟨owed, hpays, hawait, hcovered⟩ := h
    obtain rfl : owed = 0 := hpays
    obtain ⟨-, hitem, hnext, houter⟩ := hawait
    exact .going 0 ⟨rfl, hitem, fun xs => hnext (_ :: xs)⟩ houter hcovered
  | @take _ n next c frames hn =>
    obtain ⟨owed, hpays, hawait, hcovered⟩ := h
    exact .going (owed - n) (hpays _) (hawait.skip n) (hcovered.skip hn)
  | look =>
    obtain ⟨owed, hpays, hawait, hcovered⟩ := h
    exact .going owed (hpays _) hawait hcovered
  | @enter _ _ n content next c frames hn =>
    obtain ⟨owed, hpays, hawait, hcovered⟩ := h
    obtain ⟨rfl, hcontent, hnext⟩ := hpays
    have houter := hawait.skip n
    rw [Nat.zero_sub] at houter
    exact .going 0 hcontent ⟨rfl, hnext, houter⟩ (hcovered.enter hn)
  -- A round is counted here, and owes the least its kind takes; `take` pays it off.
  | @begin _ _ kind item next c frames hend =>
    obtain ⟨owed, hpays, hawait, hcovered⟩ := h
    obtain ⟨rfl, hitem, hnext⟩ := hpays
    rw [beginsAt?_of_not_atEnd hend]
    exact .going kind.least hitem ⟨⟨rfl, Nat.le_refl _⟩, hitem, hnext, hawait⟩
      (hcovered.begin hend kind)
  | endLoop hend =>
    obtain ⟨owed, hpays, hawait, hcovered⟩ := h
    obtain ⟨rfl, hitem, hnext⟩ := hpays
    rw [beginsAt?_of_atEnd hend]
    exact .going 0 (hnext []) hawait hcovered

/-- **There are no more iterations than bytes.** -/
theorem paid_run {script : Script ρ} (hpays : script.Pays 0) (buffer : Bytes) (n : Nat) :
    Paid buffer.length ((start script buffer).iterations n) ((start script buffer).run n) := by
  induction n with
  | zero => exact .going 0 hpays rfl (.inl (by simp [iterations, times, Frames.cursors, ahead]))
  | succ n ih =>
    rw [run_succ, iterations, times_succ]
    exact ih.moves (moves_step _)

/-- Of the iterations that have begun, all are complete but those that the frames wait for. -/
def Balanced (begun complete : Nat) : Walk ρ → Prop
  | going _ _ frames => begun = complete + frames.pending
  | ended (some _) _ => begun = complete
  | ended none _ => True

theorem Balanced.moves {begun complete : Nat} (h : s.Balanced begun complete)
    (hmoves : s.Moves t) :
    t.Balanced (begun + if s.beginsAt?.isSome then 1 else 0)
      (complete + if s.completes?.isSome then 1 else 0) := by
  cases hmoves with
  | finish | leave | take _ | look | enter _ => exact h
  | fail | missTake _ | missPart _ => trivial
  | again => exact h.trans (Nat.add_right_comm complete _ 1)
  | begin hend =>
    rw [beginsAt?_of_not_atEnd hend]
    exact congrArg (· + 1) h
  | endLoop hend =>
    rw [beginsAt?_of_atEnd hend]
    exact h
  | @stay result cursors =>
    cases result with
    | none => trivial
    | some x => exact h

theorem balanced_run (script : Script ρ) (buffer : Bytes) (n : Nat) :
    ((start script buffer).run n).Balanced ((start script buffer).iterations n)
      ((start script buffer).completions n) := by
  induction n with
  | zero => rfl
  | succ n ih =>
    rw [run_succ, iterations, completions, times_succ, times_succ]
    exact ih.moves (moves_step _)

/-- **Where something is found, every iteration that has begun is complete.** -/
theorem completions_eq_iterations {script : Script ρ} {buffer : Bytes} {n : Nat} {x : ρ}
    {cursors : List Cursor} (h : (start script buffer).run n = ended (some x) cursors) :
    (start script buffer).completions n = (start script buffer).iterations n := by
  have hbalanced := balanced_run script buffer n
  rw [h] at hbalanced
  exact hbalanced.symm

theorem exists_of_completes? {kind : Loop} {first last : Cursor}
    (h : s.completes? = some (kind, first, last)) :
    ∃ (α β : Type) (x : α) (item : Script α) (next : List α → Script β) (outer : Frames β ρ),
      s = going (.done x) last (.iteration kind item next first outer) := by
  cases s with
  | ended result cursors => cases h
  | going script c frames =>
    cases script with
    | fail | take n next | look next | part n content next | loop kind item next => cases h
    | done x =>
      cases frames with
      | nil | whole cursor next outer => cases h
      | iteration kind item next start outer =>
        cases h
        exact ⟨_, _, x, item, next, outer, rfl⟩

/-- All iterations that a walk is in have begun in this way. -/
def Recalls (begun : Loop → Cursor → Prop) : Walk ρ → Prop
  | going _ _ frames => frames.Begun begun
  | ended _ _ => True

theorem Recalls.mono {begun begun' : Loop → Cursor → Prop} (h : s.Recalls begun)
    (hle : ∀ kind c, begun kind c → begun' kind c) : s.Recalls begun' := by
  cases s with
  | going script c frames => exact Frames.Begun.mono h hle
  | ended result cursors => trivial

theorem Recalls.moves {begun : Loop → Cursor → Prop} (h : s.Recalls begun) (hmoves : s.Moves t) :
    t.Recalls fun kind c => begun kind c ∨ s.beginsAt? = some (kind, c) := by
  cases hmoves with
  | finish | fail | missTake _ | missPart _ | stay => trivial
  | leave | take _ | look | enter _ | endLoop _ => exact Frames.Begun.mono h fun _ _ => .inl
  | again => exact Frames.Begun.mono h.2 fun _ _ => .inl
  | begin hend =>
    exact ⟨.inr (beginsAt?_of_not_atEnd hend), Frames.Begun.mono h fun _ _ => .inl⟩

theorem recalls_run (script : Script ρ) (buffer : Bytes) (n : Nat) :
    ((start script buffer).run n).Recalls fun kind c =>
      ∃ k < n, ((start script buffer).run k).beginsAt? = some (kind, c) := by
  induction n with
  | zero => trivial
  | succ n ih =>
    rw [run_succ]
    refine (ih.moves (moves_step _)).mono fun kind c hbegun => ?_
    rcases hbegun with ⟨k, hk, hbegins⟩ | hbegins
    · exact ⟨k, Nat.lt_succ_of_lt hk, hbegins⟩
    · exact ⟨n, Nat.lt_succ_self n, hbegins⟩

/-- **An iteration that is complete has begun before, and has moved the cursor on by the bytes of an
item at least.** -/
theorem progress_run {script : Script ρ} (hpays : script.Pays 0) {buffer : Bytes} {n : Nat}
    {kind : Loop} {first last : Cursor}
    (h : ((start script buffer).run n).completes? = some (kind, first, last)) :
    (∃ k < n, ((start script buffer).run k).beginsAt? = some (kind, first)) ∧
      last.buffer = first.buffer ∧ first.position + kind.least ≤ last.position := by
  have hpaid := paid_run hpays buffer n
  have hrecalls := recalls_run script buffer n
  generalize (start script buffer).run n = s at h hpaid hrecalls
  obtain ⟨α, β, x, item, next, outer, rfl⟩ := exists_of_completes? h
  obtain ⟨owed, hdone, hawait, -⟩ := hpaid
  obtain rfl : owed = 0 := hdone
  exact ⟨hrecalls.1, hawait.1⟩

end Walk

/-! ## The end -/

namespace Reader

variable {α : Type} {item : Reader α} {c : Cursor}

theorem run_atEnd (c : Cursor) : atEnd.run c = (some c.atEnd, c) := rfl

theorem run_itemsWithin_of_atEnd (h : c.atEnd = true) (fuel : Nat) :
    (itemsWithin item fuel).run c = (some [], c) := by
  cases fuel with
  | zero =>
    rw [itemsWithin, run_bind, run_atEnd, h]
    rfl
  | succ fuel =>
    rw [itemsWithin, run_bind, run_atEnd, h]
    rfl

theorem run_itemsWithin_succ (h : c.atEnd = false) (fuel : Nat) :
    (itemsWithin item (fuel + 1)).run c =
      (do return (← item) :: (← itemsWithin item fuel) : Reader (List α)).run c := by
  rw [itemsWithin, run_bind, run_atEnd, h]
  rfl

end Reader

namespace Walk

variable {α β ρ : Type} {s t u : Walk ρ}

/-- A walk comes to be another one. -/
def Reaches (s t : Walk ρ) : Prop := ∃ n, s.run n = t

theorem Reaches.refl (s : Walk ρ) : Reaches s s := ⟨0, rfl⟩

theorem Reaches.trans (h : Reaches s t) (hrest : Reaches t u) : Reaches s u := by
  obtain ⟨n, rfl⟩ := h
  obtain ⟨m, rfl⟩ := hrest
  exact ⟨m + n, Function.iterate_add_apply step m n s⟩

theorem Reaches.of_step (h : s.step = t) : Reaches s t := ⟨1, h⟩

/-- A walk comes to where a reader has come to: it goes on with what has been found, and so many
bytes have been paid at least, or it ends without a result. -/
def Lands (s : Walk ρ) (arrive : α → Cursor → Walk ρ) (paid limit : Nat) : Option α × Cursor → Prop
  | (some x, c) => Reaches s (arrive x c) ∧ paid + c.rest.length ≤ limit
  | (none, _) => ∃ cursors, Reaches s (ended none cursors)

namespace Lands

variable {arrive : α → Cursor → Walk ρ} {arrive' : β → Cursor → Walk ρ} {paid paid' limit : Nat}
  {outcome : Option α × Cursor}

theorem of_reaches (h : Lands t arrive paid limit outcome) (hreaches : Reaches s t) :
    Lands s arrive paid limit outcome := by
  obtain ⟨_ | x, c⟩ := outcome
  · obtain ⟨cursors, hended⟩ := h
    exact ⟨cursors, hreaches.trans hended⟩
  · exact ⟨hreaches.trans h.1, h.2⟩

theorem of_step (h : Lands s.step arrive paid limit outcome) : Lands s arrive paid limit outcome :=
  h.of_reaches (.of_step rfl)

theorem mono (h : Lands s arrive paid limit outcome) (hle : paid' ≤ paid) :
    Lands s arrive paid' limit outcome := by
  obtain ⟨_ | x, c⟩ := outcome
  · exact h
  · exact ⟨h.1, Nat.le_trans (Nat.add_le_add_right hle _) h.2⟩

theorem arrival (arrive : α → Cursor → Walk ρ) (x : α) (c : Cursor) :
    Lands (arrive x c) arrive 0 c.rest.length ((pure x : Reader α).run c) :=
  ⟨.refl _, Nat.le_of_eq (Nat.zero_add _)⟩

theorem bind {read : Reader α} {k : α → Reader β} {c : Cursor}
    (h : Lands s arrive paid c.rest.length (read.run c))
    (hk : ∀ x c', paid + c'.rest.length ≤ c.rest.length →
      Lands (arrive x c') arrive' paid' c'.rest.length ((k x).run c')) :
    Lands s arrive' (paid + paid') c.rest.length ((read >>= k).run c) := by
  rw [Reader.run_bind]
  rcases hread : read.run c with ⟨_ | x, c'⟩
  · rw [hread] at h
    exact h
  · rw [hread] at h
    obtain ⟨hreaches, hpaid⟩ := h
    have hrest := (hk x c' hpaid).of_reaches hreaches
    show Lands s arrive' _ _ ((k x).run c')
    rcases hnext : (k x).run c' with ⟨_ | y, c''⟩
    · rw [hnext] at hrest
      exact hrest
    · rw [hnext] at hrest
      exact ⟨hrest.1, by have := hrest.2; omega⟩

end Lands

variable {c : Cursor}

theorem lands_take (n : Nat) (next : Bytes → Script α) (c : Cursor) (frames : Frames α ρ) :
    Lands (going (.take n next) c frames) (fun piece c' => going (next piece) c' frames) n
      c.rest.length ((Reader.take n).run c) := by
  show Lands _ _ _ _ (c.take n)
  by_cases hn : n ≤ c.rest.length
  · rw [Cursor.take_of_le hn]
    refine ⟨.of_step (step_take_of_le hn), ?_⟩
    show n + (c.skip n).rest.length ≤ c.rest.length
    rw [Cursor.length_rest_skip]
    omega
  · have hlt := Nat.not_le.1 hn
    rw [Cursor.take_of_lt hlt]
    exact ⟨c :: frames.cursors, .of_step (step_take_of_lt hlt)⟩

theorem lands_of_atEnd {kind : Loop} {item : Script β} {c : Cursor} (hend : c.atEnd = true)
    (next : List β → Script α) (frames : Frames α ρ) (fuel : Nat) :
    Lands (going (.loop kind item next) c frames) (fun xs c' => going (next xs) c' frames) 0
      c.rest.length ((Reader.itemsWithin item.reader fuel).run c) := by
  rw [Reader.run_itemsWithin_of_atEnd hend]
  refine Lands.of_step ?_
  rw [step, if_pos hend]
  exact Lands.arrival (fun xs c' => going (next xs) c' frames) [] c

/-- A loop that has no more bytes ahead than fuel is through before the fuel is used up. -/
theorem lands_loop {kind : Loop} {item : Script β}
    (hitem : ∀ (c : Cursor) (frames : Frames β ρ), Lands (going item c frames)
      (fun x c' => going (.done x) c' frames) kind.least c.rest.length (item.reader.run c))
    (next : List β → Script α) (c : Cursor) (frames : Frames α ρ) {fuel : Nat}
    (hfuel : c.rest.length ≤ fuel) :
    Lands (going (.loop kind item next) c frames) (fun xs c' => going (next xs) c' frames) 0
      c.rest.length ((Reader.itemsWithin item.reader fuel).run c) := by
  induction fuel generalizing c next with
  | zero => exact lands_of_atEnd (Cursor.atEnd_iff.2 (Nat.le_zero.1 hfuel)) next frames 0
  | succ fuel ih =>
    by_cases hend : c.atEnd = true
    · exact lands_of_atEnd hend next frames (fuel + 1)
    · rw [Reader.run_itemsWithin_succ (Bool.eq_false_iff.2 hend)]
      refine Lands.of_step ?_
      rw [step, if_neg hend]
      have hrest : ∀ x c', kind.least + c'.rest.length ≤ c.rest.length →
          Lands (going (.done x) c' (.iteration kind item next c frames))
            (fun xs c' => going (next xs) c' frames) 0 c'.rest.length
            ((do return x :: (← Reader.itemsWithin item.reader fuel) : Reader _).run c') := by
        intro x c' hpaid
        -- The item took a byte at least, so the fuel that is left is enough for the rest.
        have hfewer : c'.rest.length ≤ fuel := by
          have hleast := kind.least_pos
          omega
        have hagain : Reaches (going (.done x) c' (.iteration kind item next c frames))
            (going (.loop kind item fun xs => next (x :: xs)) c' frames) := .of_step rfl
        have hloop := ih (fun xs => next (x :: xs)) c' hfewer
        exact (hloop.of_reaches hagain).bind fun xs c'' _ =>
          Lands.arrival (fun xs c' => going (next xs) c' frames) (x :: xs) c''
      exact ((hitem c _).bind hrest).mono (Nat.zero_le _)

/-- A part is read with a cursor of its own, and the cursor over the whole goes on behind it. -/
theorem lands_part {content : Script β}
    (hcontent : ∀ (c : Cursor) (frames : Frames β ρ), Lands (going content c frames)
      (fun x c' => going (.done x) c' frames) 0 c.rest.length (content.reader.run c))
    (n : Nat) (next : β → Script α) (c : Cursor) (frames : Frames α ρ) :
    Lands (going (.part n content next) c frames) (fun x c' => going (next x) c' frames) 0
      c.rest.length
      ((do Reader.inside (← Reader.take n) content.reader : Reader β).run c) := by
  rw [Reader.run_bind]
  show Lands _ _ _ _ ((c.take n).1.elim (pure none)
    (fun piece => (Reader.inside piece content.reader).run) (c.take n).2)
  by_cases hn : n ≤ c.rest.length
  · rw [Cursor.take_of_le hn]
    show Lands _ _ _ _ ((Reader.inside (c.rest.take n) content.reader).run (c.skip n))
    have henter : Reaches (going (.part n content next) c frames)
        (going content (.start (c.rest.take n)) (.whole (c.skip n) next frames)) :=
      .of_step (step_part_of_le hn)
    have hpart := hcontent (.start (c.rest.take n)) (.whole (c.skip n) next frames)
    -- The part runs on its own cursor; when it fails, so does the whole.
    rcases hrun : content.reader.run (.start (c.rest.take n)) with ⟨_ | x, c'⟩
    · rw [hrun] at hpart
      obtain ⟨cursors, hended⟩ := hpart
      simp only [Reader.inside, Reader.result?, hrun]
      exact ⟨cursors, henter.trans hended⟩
    · rw [hrun] at hpart
      have hleave : Reaches (going (.done x) c' (.whole (c.skip n) next frames))
          (going (next x) (c.skip n) frames) := .of_step rfl
      simp only [Reader.inside, Reader.result?, hrun]
      refine ⟨(henter.trans hpart.1).trans hleave, ?_⟩
      rw [Cursor.length_rest_skip]
      omega
  · have hlt := Nat.not_le.1 hn
    rw [Cursor.take_of_lt hlt]
    exact ⟨c :: frames.cursors, .of_step (step_part_of_lt hlt)⟩

/-- **A walk follows the reader of its script.** -/
theorem lands {script : Script α} {owed : Nat} (hpays : script.Pays owed) (c : Cursor)
    (frames : Frames α ρ) : Lands (going script c frames) (fun x c' => going (.done x) c' frames)
      owed c.rest.length (script.reader.run c) := by
  -- By induction on the script; what a script owes is paid by its own takes.
  induction script generalizing owed c with
  | done x =>
    subst hpays
    exact Lands.arrival (fun x c' => going (.done x) c' frames) x c
  | fail => exact ⟨c :: frames.cursors, .of_step rfl⟩
  | take n next ih =>
    have htake := (lands_take n next c frames).bind fun piece c' _ =>
      ih piece (hpays piece) c' frames
    exact htake.mono (by omega)
  | look next ih => exact Lands.of_step (ih c (hpays c) c frames)
  | part n content next ihcontent ih =>
    obtain ⟨rfl, hcontent, hnext⟩ := hpays
    have hpart := lands_part (fun c frames => ihcontent hcontent c frames) n next c frames
    have hread := hpart.bind fun x c' _ => ih x (hnext x) c' frames
    rwa [bind_assoc] at hread
  | loop kind item next ihitem ih =>
    obtain ⟨rfl, hitem, hnext⟩ := hpays
    have hloop := lands_loop (fun c frames => ihitem hitem c frames) next c frames (Nat.le_refl _)
    exact hloop.bind fun xs c' _ => ih xs (hnext xs) c' frames

/-- **A walk comes to its end, with what the reader of its script finds.** -/
theorem exists_run_eq_ended {script : Script ρ} (hpays : script.Pays 0) (buffer : Bytes) :
    ∃ n cursors,
      (start script buffer).run n = ended (script.reader.result? buffer) cursors := by
  have hlands := lands hpays (.start buffer) (.nil : Frames ρ ρ)
  unfold Reader.result?
  rcases hrun : script.reader.run (.start buffer) with ⟨_ | x, c⟩
  · rw [hrun] at hlands
    obtain ⟨cursors, n, hended⟩ := hlands
    exact ⟨n, cursors, hended⟩
  · rw [hrun] at hlands
    have hfinish : Reaches (going (.done x) c .nil) (ended (some x) [c]) := .of_step rfl
    obtain ⟨n, hended⟩ := hlands.1.trans hfinish
    exact ⟨n, [c], hended⟩

end Walk

end Switchboard.Tls
