import Switchboard.Proofs.Reading
import Switchboard.Tls.ClientHello

/-!
# Readers, written out

A reader is a function, and what happens on the way to its result cannot be asked of a function. So
the readers of a ClientHello are written out once more, as scripts that can be followed step by
step.

**Scripts** (`Script`). What a script does next may depend on what has been read. A part is read
with a cursor of its own, and a loop goes on to the end of its buffer; no fuel says how long.

**Meaning** (`Script.reader`). Every script stands for a reader, and scripts one after the other
stand for their readers one after the other.

**The ClientHello.** The script of a message has a line for every line of the reader of a message,
and stands for it (`reader_message`).
-/

namespace Switchboard.Tls

/-- The loops of a ClientHello, by what they go through. -/
inductive Loop
  | extensions
  | names
  | protocols
  deriving DecidableEq, Repr

/-- What a reader does, written out. -/
inductive Script : Type → Type 1
  | done {α : Type} (x : α) : Script α
  | fail {α : Type} : Script α
  /-- Reads the next `n` bytes. -/
  | take {α : Type} (n : Nat) (next : Bytes → Script α) : Script α
  /-- Looks where the cursor is. -/
  | look {α : Type} (next : Cursor → Script α) : Script α
  /-- Reads the next `n` bytes, and then those with a cursor of their own. -/
  | part {α β : Type} (n : Nat) (content : Script β) (next : β → Script α) : Script α
  /-- Reads items up to the end of the buffer. -/
  | loop {α β : Type} (kind : Loop) (item : Script β) (next : List β → Script α) : Script α

namespace Script

variable {α β : Type}

/-! ## What a script stands for -/

def bind : Script α → (α → Script β) → Script β
  | done x, k => k x
  | fail, _ => fail
  | take n next, k => take n fun piece => (next piece).bind k
  | look next, k => look fun c => (next c).bind k
  | part n content next, k => part n content fun x => (next x).bind k
  | loop kind item next, k => loop kind item fun xs => (next xs).bind k

instance : Monad Script where
  pure := done
  bind := bind

/-- The reader that a script stands for. -/
def reader {α : Type} : Script α → Reader α
  | done x => return x
  | fail => failure
  | take n next => do (next (← Reader.take n)).reader
  | look next => do (next (← get)).reader
  | part n content next => do (next (← Reader.inside (← Reader.take n) content.reader)).reader
  | loop _ item next => do (next (← Reader.items item.reader)).reader

@[simp] theorem reader_pure (x : α) : (pure x : Script α).reader = pure x := rfl

@[simp] theorem reader_bind (script : Script α) (k : α → Script β) :
    (script >>= k).reader = script.reader >>= fun x => (k x).reader := by
  induction script with
  | done x => exact (pure_bind x fun x => (k x).reader).symm
  | fail => rfl
  | take n next ih =>
    show (Reader.take n >>= fun piece => (next piece >>= k).reader) = _
    simp only [ih, reader, bind_assoc]
  | look next ih =>
    show (get >>= fun c => (next c >>= k).reader) = _
    simp only [ih, reader, bind_assoc]
  | part n content next _ ih =>
    show (Reader.take n >>= fun piece => Reader.inside piece content.reader >>= fun x =>
      (next x >>= k).reader) = _
    simp only [ih, reader, bind_assoc]
  | loop kind item next _ ih =>
    show (Reader.items item.reader >>= fun xs => (next xs >>= k).reader) = _
    simp only [ih, reader, bind_assoc]

@[simp] theorem reader_ite (p : Prop) [Decidable p] (yes no : Script α) :
    (if p then yes else no).reader = if p then yes.reader else no.reader :=
  apply_ite reader p yes no

/-! ## Scripts for numbers, vectors and sequences -/

def bytes (n : Nat) : Script Bytes := take n pure

def number (width : Nat) : Script Nat := do
  return Bytes.bigEndian (← bytes width)

def vector (width : Nat) : Script Bytes := do
  bytes (← number width)

def inside (n : Nat) (content : Script α) : Script α := part n content pure

def vectorOf (width : Nat) (content : Script α) : Script α := do
  inside (← number width) content

def items (kind : Loop) (item : Script α) : Script (List α) := loop kind item pure

def atEnd : Script Bool := look fun c => return c.atEnd

def remainder : Script Bytes := look fun c => bytes c.rest.length

@[simp] theorem reader_bytes (n : Nat) : (bytes n).reader = Reader.take n :=
  bind_pure (Reader.take n)

@[simp] theorem reader_number (width : Nat) : (number width).reader = Reader.number width := by
  simp [number, Reader.number]

@[simp] theorem reader_vector (width : Nat) : (vector width).reader = Reader.vector width := by
  simp [vector, Reader.vector]

@[simp] theorem reader_inside (n : Nat) (content : Script α) :
    (inside n content).reader = (do Reader.inside (← Reader.take n) content.reader) := by
  simp [inside, reader]

@[simp] theorem reader_vectorOf (width : Nat) (content : Script α) :
    (vectorOf width content).reader =
      (do Reader.inside (← Reader.vector width) content.reader) := by
  simp [vectorOf, Reader.vector]

@[simp] theorem reader_items (kind : Loop) (item : Script α) :
    (items kind item).reader = Reader.items item.reader :=
  bind_pure (Reader.items item.reader)

@[simp] theorem reader_atEnd : atEnd.reader = Reader.atEnd := rfl

@[simp] theorem reader_remainder : remainder.reader = Reader.remainder := by
  simp [remainder, Reader.remainder, reader]

/-! ## The script of a ClientHello -/

def serverName : Script ServerName := do
  let nameType ← number 1
  return ⟨nameType, ← vector 2⟩

def extensionContent (extensionType : Nat) : Script Extension := do
  if extensionType = serverNameType then
    let names ← vectorOf 2 (items .names serverName)
    return .serverNames names (← remainder)
  else if extensionType = protocolsType then
    let names ← vectorOf 2 (items .protocols (vector 1))
    return .protocols names (← remainder)
  else
    return .other extensionType (← remainder)

def extension : Script Extension := do
  let extensionType ← number 2
  vectorOf 2 (extensionContent extensionType)

def body : Script ClientHello := do
  let preamble ← bytes (2 + 32)
  let sessionId ← vector 1
  let cipherSuites ← vector 2
  let compressionMethods ← vector 1
  if ← atEnd then
    return ⟨preamble, sessionId, cipherSuites, compressionMethods, none⟩
  else
    let extensions ← vectorOf 2 (items .extensions extension)
    return ⟨preamble, sessionId, cipherSuites, compressionMethods, some extensions⟩

/-- A handshake message that is a ClientHello. The look at the cursor is for the bytes at hand. -/
def message : Script ClientHello := do
  if (← number 1) ≠ 1 then
    fail
  else
    let announced ← number 3
    look fun c => inside (min announced c.rest.length) body

@[simp] theorem reader_serverName : serverName.reader = Reader.serverName := by
  simp [serverName, Reader.serverName]

@[simp] theorem reader_extensionContent (extensionType : Nat) :
    (extensionContent extensionType).reader = Reader.extensionContent extensionType := by
  simp [extensionContent, Reader.extensionContent]

@[simp] theorem reader_extension : extension.reader = Reader.extension := by
  simp [extension, Reader.extension]

@[simp] theorem reader_body : body.reader = Reader.body := by
  simp [body, Reader.body]

/-- **The script of a message stands for its reader.** -/
theorem reader_message : message.reader = Reader.message := by
  simp [message, Reader.message, reader]

end Script

end Switchboard.Tls
