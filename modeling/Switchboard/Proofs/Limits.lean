import Switchboard.Proofs.LowerCase
import Switchboard.Proofs.Progress

/-!
# What reading a ClientHello can cost

A message comes from anyone, and all the lengths in it are chosen by its sender.

**Sizes.** Names and protocols stand side by side in a message, so together they have no more bytes
than it (`IsMessage.size_le`), and what is offered is some of them (`ClientHello.size_offer_le`).

**Limits** (`WithinLimits`). What holds at every step of the walk through a message, and what holds
of its result.

Main result: `walk_withinLimits`.
-/

namespace Switchboard.Tls

/-! ## Sizes -/

def Extension.size : Extension → Nat
  | serverNames names _ => (names.map fun name => name.name.length).sum
  | protocols names _ => (names.map List.length).sum
  | other _ _ => 0

def ClientHello.size (hello : ClientHello) : Nat :=
  ((hello.extensions.getD []).map Extension.size).sum

def Offer.size (offer : Offer) : Nat :=
  offer.serverName.elim 0 (fun name => (Utf8.encode name).length) +
    (offer.protocols.map List.length).sum

theorem IsVector.length_le {width : Nat} {content data : Bytes} (h : IsVector width content data) :
    content.length ≤ data.length := by
  obtain ⟨length, -, rfl⟩ := h
  rw [List.length_append]
  exact Nat.le_add_left _ _

theorem IsServerName.size_le {name : ServerName} {data : Bytes} (h : IsServerName name data) :
    name.name.length ≤ data.length := by
  obtain ⟨typeByte, vector, rfl, -, hvector⟩ := h
  have hle := hvector.length_le
  rw [List.length_append]
  omega

/-- Items that fit their own bytes fit all of the bytes. -/
theorem IsSequence.sum_le {α : Type} {IsItem : α → Bytes → Prop} {size : α → Nat} {xs : List α}
    {data : Bytes} (h : IsSequence IsItem xs data)
    (hsize : ∀ x item, IsItem x item → size x ≤ item.length) : (xs.map size).sum ≤ data.length := by
  induction h with
  | nil => exact Nat.le_refl 0
  | @cons x xs item rest hitem _ ih =>
    have hx := hsize x item hitem
    rw [List.map_cons, List.sum_cons, List.length_append]
    omega

theorem IsContent.size_le {extensionType : Nat} {extension : Extension} {data : Bytes}
    (h : IsContent extensionType extension data) : extension.size ≤ data.length := by
  cases h with
  | @serverNames names list vector tail hlist hnames =>
    have hsum := hnames.sum_le fun _ _ => IsServerName.size_le
    have hle := hlist.length_le
    rw [Extension.size, List.length_append]
    omega
  | @protocols names list vector tail hlist hnames =>
    have hsum := hnames.sum_le fun _ _ => IsVector.length_le
    have hle := hlist.length_le
    rw [Extension.size, List.length_append]
    omega
  | other _ _ => exact Nat.zero_le _

theorem IsExtension.size_le {extension : Extension} {data : Bytes}
    (h : IsExtension extension data) : extension.size ≤ data.length := by
  obtain ⟨extensionType, typeBytes, content, vector, rfl, -, hvector, hcontent⟩ := h
  have hsize := hcontent.size_le
  have hle := hvector.length_le
  rw [List.length_append]
  omega

theorem IsBody.size_le {hello : ClientHello} {data : Bytes} (h : IsBody hello data) :
    hello.size ≤ data.length := by
  obtain ⟨session, suites, methods, rest, rfl, -, -, -, -, hrest⟩ := h
  have hsize : hello.size ≤ rest.length := by
    unfold ClientHello.size
    generalize hello.extensions = extensions at hrest
    cases hrest with
    | absent => exact Nat.le_refl 0
    | @present extensions block vector tail hblock hextensions =>
      have hsum := hextensions.sum_le fun _ _ => IsExtension.size_le
      have hle := hblock.length_le
      rw [Option.getD_some, List.length_append]
      omega
  simp only [List.length_append]
  omega

theorem IsMessage.size_le {hello : ClientHello} {data : Bytes} (h : IsMessage hello data) :
    hello.size ≤ data.length := by
  obtain ⟨announced, length, rest, rfl, -, hbody⟩ := h
  have hsize := hbody.size_le
  rw [List.length_take] at hsize
  rw [List.length_cons, List.length_append]
  omega

namespace ClientHello

theorem size_eq (hello : ClientHello) :
    hello.size = (hello.serverNames.map fun name => name.name.length).sum +
      (hello.applicationProtocols.map List.length).sum := by
  unfold size serverNames applicationProtocols
  induction hello.extensions.getD [] with
  | nil => rfl
  | cons extension extensions ih =>
    simp only [List.map_cons, List.sum_cons, List.flatMap_cons, List.map_append, List.sum_append,
      ih]
    cases extension <;> simp [Extension.size] <;> omega

/-- A host name in lower case has as many bytes as the name that is sent. -/
theorem length_encode_lowerCase (text : String) :
    (Utf8.encode (lowerCase text)).length = (Utf8.encode text).length := by
  rw [← Utf8.map_lowerByte_encode, List.length_map]

theorem size_offer_le (hello : ClientHello) : hello.offer.size ≤ hello.size := by
  rw [size_eq, Offer.size]
  refine Nat.add_le_add_right ?_ _
  unfold offer
  cases hhead : hello.hostNames.head? with
  | none =>
    rw [Option.map_none, Option.elim_none]
    exact Nat.zero_le _
  | some text =>
    obtain ⟨before, name, after, hnames, hhost, -⟩ := head?_hostNames_eq_some.1 hhead
    rw [Option.map_some, Option.elim_some, length_encode_lowerCase, ← hhost.2, hnames,
      List.map_append, List.sum_append, List.map_cons, List.sum_cons]
    omega

end ClientHello

/-! ## Limits -/

def helloWalk (handshake : Bytes) : Walk ClientHello := .start .message handshake

/-- Reading a handshake message keeps to its bytes. -/
structure WithinLimits (handshake : Bytes) : Prop where
  /-- The walk ends, and with what the reader finds. -/
  ends : ∃ n cursors,
    (helloWalk handshake).run n = .ended (ClientHello.parse? handshake) cursors
  /-- At every step each cursor reads a part of what the next one has passed, and the outermost one
  reads the message. -/
  nested : ∀ n, Nested handshake ((helloWalk handshake).run n).cursors
  /-- No cursor is behind the end of its buffer, so the number of bytes ahead is not cut off at
  zero. -/
  inBounds : ∀ n, ∀ c ∈ ((helloWalk handshake).run n).cursors,
    c.position ≤ c.buffer.length ∧ c.rest.length + c.position = c.buffer.length
  /-- Every read is exact, and it is one of the cursors that it moves. -/
  reads : ∀ n access, ((helloWalk handshake).run n).access? = some access →
    access.Exact ∧ access.before ∈ ((helloWalk handshake).run n).cursors ∧
      access.after ∈ ((helloWalk handshake).run (n + 1)).cursors
  /-- An iteration that is complete moves its cursor on by the bytes of an item at least. -/
  progress : ∀ n kind first last,
    ((helloWalk handshake).run n).completes? = some (kind, first, last) →
    (∃ k < n, ((helloWalk handshake).run k).beginsAt? = some (kind, first)) ∧
      last.buffer = first.buffer ∧ first.position + kind.least ≤ last.position
  /-- The walk leaves no iteration before it is complete, unless it ends without a result. -/
  complete : ∀ n hello cursors, (helloWalk handshake).run n = .ended (some hello) cursors →
    (helloWalk handshake).completions n = (helloWalk handshake).iterations n
  /-- All loops together have no more iterations than there are bytes. -/
  iterations : ∀ n, (helloWalk handshake).iterations n ≤ handshake.length
  offered : ∀ offer, offer? handshake = some offer → offer.size ≤ handshake.length

theorem withinLimits (handshake : Bytes) : WithinLimits handshake where
  ends := by
    have hends := Walk.exists_run_eq_ended Script.pays_message handshake
    rwa [Script.reader_message] at hends
  nested n := Walk.nested_run .message handshake n
  inBounds n c hc := by
    have hbounds := (Walk.nested_run .message handshake n).inBounds c hc
    exact ⟨hbounds, hbounds.length_rest_add⟩
  reads n access := Walk.exact_run
  progress n kind first last := Walk.progress_run Script.pays_message
  complete n hello cursors := Walk.completions_eq_iterations
  iterations n := (Walk.paid_run Script.pays_message handshake n).count_le
  offered offer hoffer := by
    obtain ⟨hello, hparse, rfl⟩ := Option.map_eq_some_iff.1 hoffer
    have hmessage := ClientHello.parse?_eq_some.1 hparse
    exact Nat.le_trans hello.size_offer_le hmessage.size_le

/-- **Reading a ClientHello keeps to the bytes of the message**, whoever has sent them. The script
that is followed stands for the reader. -/
theorem walk_withinLimits :
    Script.message.reader = Reader.message ∧ ∀ handshake, WithinLimits handshake :=
  ⟨Script.reader_message, withinLimits⟩

end Switchboard.Tls
