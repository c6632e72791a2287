import Mathlib.Algebra.Group.Nat.Defs
import Mathlib.Tactic.MkIffOfInductiveProp
import Switchboard.Proofs.LowerCase
import Switchboard.Tls.Criteria

/-!
# Writing a ClientHello

**The encoder** (`ClientHello.encode`). A client writes numbers in a fixed number of bytes and puts
every part behind its length, from the inside out. `ClientHello.record` is the record that it sends.

**What fits.** A length that is too large for its bytes loses its upper digits, so the encoder is
for messages whose parts are short enough (`ClientHello.Fits`).

**Reading undoes writing.** Each part that fits is written in a word of its line of the grammar, and
the grammar tells what is read. So nothing here speaks of cursors.

Main result: `parse?_encode`.
-/

namespace Switchboard.Tls

/-! ## Numbers, vectors and sequences -/

/-- A number in so many bytes, the most significant byte first. -/
def encodeNumber : Nat → Nat → Bytes
  | 0, _ => []
  | width + 1, n => encodeNumber width (n / 256) ++ [UInt8.ofNat n]

/-- A part behind its length, which is written in so many bytes. -/
def encodeVector (width : Nat) (content : Bytes) : Bytes :=
  encodeNumber width content.length ++ content

@[simp] theorem length_encodeNumber (width n : Nat) : (encodeNumber width n).length = width := by
  induction width generalizing n with
  | zero => rfl
  | succ width ih => rw [encodeNumber, List.length_append, ih, List.length_singleton]

@[simp] theorem length_encodeVector (width : Nat) (content : Bytes) :
    (encodeVector width content).length = width + content.length := by
  rw [encodeVector, List.length_append, length_encodeNumber]

theorem bigEndian_encodeNumber {width n : Nat} (h : n < 256 ^ width) :
    Bytes.bigEndian (encodeNumber width n) = n := by
  induction width generalizing n with
  | zero =>
    have hzero : n = 0 := Nat.lt_one_iff.1 h
    rw [hzero]
    rfl
  | succ width ih =>
    have hupper : n / 256 < 256 ^ width := Nat.div_lt_of_lt_mul (Nat.pow_succ' ▸ h)
    have hupper' := ih hupper
    unfold Bytes.bigEndian at hupper' ⊢
    rw [encodeNumber, List.foldl_append, hupper', List.foldl_cons, List.foldl_nil,
      UInt8.toNat_ofNat']
    exact Nat.div_add_mod n 256

theorem isNumber_encodeNumber {width n : Nat} (h : n < 256 ^ width) :
    IsNumber width n (encodeNumber width n) :=
  ⟨length_encodeNumber width n, bigEndian_encodeNumber h⟩

theorem isVector_encodeVector {width : Nat} {content : Bytes} (h : content.length < 256 ^ width) :
    IsVector width content (encodeVector width content) :=
  ⟨encodeNumber width content.length, isNumber_encodeNumber h, rfl⟩

theorem isSequence_flatMap {α : Type} {IsItem : α → Bytes → Prop} {encode : α → Bytes} {xs : List α}
    (h : ∀ x ∈ xs, IsItem x (encode x)) : IsSequence IsItem xs (xs.flatMap encode) := by
  induction xs with
  | nil => exact .nil
  | cons x xs ih =>
    rw [List.flatMap_cons]
    exact .cons (h x List.mem_cons_self) (ih fun y hy => h y (List.mem_cons_of_mem x hy))

/-! ## Server names -/

def ServerName.encode (name : ServerName) : Bytes :=
  encodeNumber 1 name.nameType ++ encodeVector 2 name.name

@[mk_iff]
structure ServerName.Fits (name : ServerName) : Prop where
  nameType : name.nameType < 256
  name : name.name.length < 65536

instance (name : ServerName) : Decidable name.Fits := decidable_of_iff' _ name.fits_iff

theorem ServerName.Fits.isServerName_encode {name : ServerName} (h : name.Fits) :
    IsServerName name name.encode :=
  ⟨_, _, rfl, isNumber_encodeNumber h.nameType, isVector_encodeVector h.name⟩

/-! ## Extensions -/

namespace Extension

def typeNumber : Extension → Nat
  | .serverNames _ _ => serverNameType
  | .protocols _ _ => protocolsType
  | .other extensionType _ => extensionType

def content : Extension → Bytes
  | .serverNames names tail => encodeVector 2 (names.flatMap ServerName.encode) ++ tail
  | .protocols names tail => encodeVector 2 (names.flatMap (encodeVector 1)) ++ tail
  | .other _ content => content

def encode (extension : Extension) : Bytes :=
  encodeNumber 2 extension.typeNumber ++ encodeVector 2 extension.content

/-- The parts of a content fit. An extension that is not understood has another type than those
that are. -/
def PartsFit : Extension → Prop
  | .serverNames names _ => ∀ name ∈ names, name.Fits
  | .protocols names _ => ∀ name ∈ names, name.length < 256
  | .other extensionType _ =>
    extensionType < 65536 ∧ extensionType ≠ serverNameType ∧ extensionType ≠ protocolsType

@[mk_iff]
structure Fits (extension : Extension) : Prop where
  parts : extension.PartsFit
  content : extension.content.length < 65536

instance : ∀ extension : Extension, Decidable extension.PartsFit
  | .serverNames names _ => inferInstanceAs (Decidable (∀ name ∈ names, name.Fits))
  | .protocols names _ => inferInstanceAs (Decidable (∀ name ∈ names, name.length < 256))
  | .other extensionType _ => inferInstanceAs (Decidable (extensionType < 65536 ∧
      extensionType ≠ serverNameType ∧ extensionType ≠ protocolsType))

instance (extension : Extension) : Decidable extension.Fits :=
  decidable_of_iff' _ extension.fits_iff

/-- A list that begins a part which fits does so itself. -/
theorem length_list_lt {list tail : Bytes} (h : (encodeVector 2 list ++ tail).length < 65536) :
    list.length < 256 ^ 2 := by
  rw [List.length_append, length_encodeVector] at h
  show list.length < 65536
  omega

theorem typeNumber_lt {extension : Extension} (h : extension.PartsFit) :
    extension.typeNumber < 256 ^ 2 := by
  cases extension with
  | serverNames names tail => show 0 < 65536; decide
  | protocols names tail => show 16 < 65536; decide
  | other extensionType content => exact h.1

theorem Fits.isContent_content {extension : Extension} (h : extension.Fits) :
    IsContent extension.typeNumber extension extension.content := by
  cases extension with
  | serverNames names tail =>
    refine .serverNames (isVector_encodeVector (length_list_lt h.content)) ?_
    exact isSequence_flatMap fun name hname => (h.parts name hname).isServerName_encode
  | protocols names tail =>
    refine .protocols (isVector_encodeVector (length_list_lt h.content)) ?_
    exact isSequence_flatMap fun name hname => isVector_encodeVector (h.parts name hname)
  | other extensionType content => exact .other h.parts.2.1 h.parts.2.2

theorem Fits.isExtension_encode {extension : Extension} (h : extension.Fits) :
    IsExtension extension extension.encode :=
  ⟨_, _, _, _, rfl, isNumber_encodeNumber (typeNumber_lt h.parts), isVector_encodeVector h.content,
    h.isContent_content⟩

end Extension

/-! ## The message and its record -/

namespace ClientHello

/-- The extensions one behind the other. -/
def block (extensions : List Extension) : Bytes :=
  extensions.flatMap Extension.encode

def body (hello : ClientHello) : Bytes :=
  hello.preamble ++ (encodeVector 1 hello.sessionId ++ (encodeVector 2 hello.cipherSuites ++
    (encodeVector 1 hello.compressionMethods ++
      (hello.extensions.map fun extensions => encodeVector 2 (block extensions)).getD [])))

/-- The handshake message. -/
def encode (hello : ClientHello) : Bytes :=
  1 :: encodeVector 3 hello.body

/-- The handshake message in one record of some version. -/
def record (hello : ClientHello) (major minor : UInt8) : Bytes :=
  handshakeType :: major :: minor :: encodeVector 2 hello.encode

/-- Every length fits into its bytes, and the message into a record. -/
@[mk_iff]
structure Fits (hello : ClientHello) : Prop where
  preamble : hello.preamble.length = 34
  sessionId : hello.sessionId.length < 256
  cipherSuites : hello.cipherSuites.length < 65536
  compressionMethods : hello.compressionMethods.length < 256
  extensions : ∀ extensions ∈ hello.extensions,
    (block extensions).length < 65536 ∧ ∀ extension ∈ extensions, extension.Fits
  encode : hello.encode.length ≤ maxRecord

instance (hello : ClientHello) : Decidable hello.Fits := decidable_of_iff' _ hello.fits_iff

theorem length_encode (hello : ClientHello) : hello.encode.length = 4 + hello.body.length := by
  rw [encode, List.length_cons, length_encodeVector]
  omega

theorem Fits.isBody_body {hello : ClientHello} (h : hello.Fits) : IsBody hello hello.body := by
  refine ⟨_, _, _, _, rfl, h.preamble, isVector_encodeVector h.sessionId,
    isVector_encodeVector h.cipherSuites, isVector_encodeVector h.compressionMethods, ?_⟩
  cases hextensions : hello.extensions with
  | none => exact .absent
  | some extensions =>
    obtain ⟨hblock, hfit⟩ := h.extensions extensions hextensions
    have hsequence : IsSequence IsExtension extensions (block extensions) :=
      isSequence_flatMap fun extension hextension => (hfit extension hextension).isExtension_encode
    have hpresent : IsExtensions (some extensions) (encodeVector 2 (block extensions) ++ []) :=
      .present (isVector_encodeVector hblock) hsequence
    rwa [List.append_nil] at hpresent

theorem Fits.isMessage_encode {hello : ClientHello} (h : hello.Fits) :
    IsMessage hello hello.encode := by
  have hlength : hello.body.length < 256 ^ 3 := by
    have hle := h.encode
    rw [length_encode] at hle
    exact Nat.lt_of_le_of_lt (Nat.le_trans (Nat.le_add_left _ 4) hle) (by decide)
  refine ⟨_, _, hello.body, rfl, isNumber_encodeNumber hlength, ?_⟩
  rw [Nat.min_self, List.take_length]
  exact h.isBody_body

/-- **Reading undoes writing.** -/
theorem parse?_encode {hello : ClientHello} (h : hello.Fits) : parse? hello.encode = some hello :=
  parse?_eq_some.2 h.isMessage_encode

end ClientHello

/-! ## Names in lower case are as long as before -/

theorem length_flatMap_map {α : Type} {encode : α → Bytes} {lower : α → α} (xs : List α)
    (h : ∀ x, (encode (lower x)).length = (encode x).length) :
    ((xs.map lower).flatMap encode).length = (xs.flatMap encode).length := by
  rw [List.flatMap_map, List.length_flatMap, List.length_flatMap]
  simp only [h]

theorem ServerName.length_encode_lower (name : ServerName) :
    name.lower.encode.length = name.encode.length := by
  simp [lower, encode]

theorem ServerName.fits_lower {name : ServerName} : name.lower.Fits ↔ name.Fits := by
  have hlength : name.lower.name.length = name.name.length := List.length_map _
  constructor
  · intro h
    exact ⟨h.nameType, hlength ▸ h.name⟩
  · intro h
    exact ⟨h.nameType, hlength.symm ▸ h.name⟩

theorem Extension.length_content_lower (extension : Extension) :
    extension.lower.content.length = extension.content.length := by
  cases extension with
  | serverNames names tail =>
    simp [lower, content, length_flatMap_map names ServerName.length_encode_lower]
  | protocols names tail => rfl
  | other extensionType content => rfl

theorem Extension.length_encode_lower (extension : Extension) :
    extension.lower.encode.length = extension.encode.length := by
  simp [encode, length_content_lower]

theorem Extension.fits_lower {extension : Extension} : extension.lower.Fits ↔ extension.Fits := by
  have hparts : extension.lower.PartsFit ↔ extension.PartsFit := by
    cases extension with
    | serverNames names tail => simp [lower, PartsFit, ServerName.fits_lower]
    | protocols names tail => rfl
    | other extensionType content => rfl
  constructor
  · intro h
    exact ⟨hparts.1 h.parts, extension.length_content_lower ▸ h.content⟩
  · intro h
    exact ⟨hparts.2 h.parts, extension.length_content_lower.symm ▸ h.content⟩

namespace ClientHello

theorem length_block_lower (extensions : List Extension) :
    (block (extensions.map Extension.lower)).length = (block extensions).length :=
  length_flatMap_map extensions Extension.length_encode_lower

theorem length_body_lower (hello : ClientHello) : hello.lower.body.length = hello.body.length := by
  unfold body lower
  cases hello.extensions <;> simp [length_block_lower]

theorem fits_lower {hello : ClientHello} : hello.lower.Fits ↔ hello.Fits := by
  have hextensions : (∀ extensions ∈ hello.lower.extensions,
      (block extensions).length < 65536 ∧ ∀ extension ∈ extensions, extension.Fits) ↔
      ∀ extensions ∈ hello.extensions,
        (block extensions).length < 65536 ∧ ∀ extension ∈ extensions, extension.Fits := by
    simp [lower, length_block_lower, Extension.fits_lower]
  have hencode : hello.lower.encode.length = hello.encode.length := by
    rw [length_encode, length_encode, length_body_lower]
  constructor
  · intro h
    exact ⟨h.preamble, h.sessionId, h.cipherSuites, h.compressionMethods,
      hextensions.1 h.extensions, hencode ▸ h.encode⟩
  · intro h
    exact ⟨h.preamble, h.sessionId, h.cipherSuites, h.compressionMethods,
      hextensions.2 h.extensions, hencode.symm ▸ h.encode⟩

end ClientHello

end Switchboard.Tls
