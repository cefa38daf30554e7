import Oxidali.Storage.Flash

/-!
# The slice store

A slice is kept in one of the two banks of its slot.  A write session fills the
other bank, its commit writes the header last, and only then the old bank is erased.
The calls are programs over single operations on the flash and on the atomics that
remember, for each slot, which bank was last read or written.
-/

namespace Oxidali.Storage

open Words Device

inductive StoreError where
  | missing
  | tooLarge (len capacity : Nat)
  | backend (message : String)
  | deferred
deriving DecidableEq

/-! ## What is remembered of a slot -/

/-- `served` packs a generation and the bank plus one, as `ServedBank` does. -/
structure SlotMemory where
  served : BitVec 32
  erased : Option Bank
  writing : Bool

def SlotMemory.default : SlotMemory where
  served := 0
  erased := none
  writing := false

def servedBankBits : Nat := 8

def servedBankMask : BitVec 32 := 0xFF#32

def bankCode (bank : Bank) : BitVec 32 :=
  BitVec.ofNat 32 (bank.val + 1)

/-- `ServedBank::bank`; no other bank than the two is ever stored. -/
def servedBank (word : BitVec 32) : Option Bank :=
  if word &&& servedBankMask = 1#32 then some 0
  else if word &&& servedBankMask = 2#32 then some 1
  else none

def servedCommitted (word : BitVec 32) (bank : Bank) : BitVec 32 :=
  ((word >>> servedBankBits) + 1) <<< servedBankBits ||| bankCode bank

def servedRead (seen : BitVec 32) (bank : Bank) : BitVec 32 :=
  (seen &&& ~~~ servedBankMask) ||| bankCode bank

/-! ## The operations -/

structure Store where
  flash : Flash
  memory : Nat -> SlotMemory

inductive StoreOp where
  | read (offset len : Nat)
  | write (offset : Nat) (bytes : List Byte)
  | erase (offset len : Nat)
  | snapshot (index : Nat)
  | committed (index : Nat) (bank : Bank)
  | readUnlessMoved (index : Nat) (seen : BitVec 32) (bank : Bank)
  | erased (index : Nat)
  | setErased (index : Nat) (bank : Option Bank)
  | claim (index : Nat)
  | release (index : Nat)

abbrev StoreOp.Ret : StoreOp -> Type
  | .read _ _ => Except StoreError (List Byte)
  | .write _ _ => Except StoreError Unit
  | .erase _ _ => Except StoreError Unit
  | .snapshot _ => BitVec 32
  | .committed _ _ => Unit
  | .readUnlessMoved _ _ _ => Unit
  | .erased _ => Option Bank
  | .setErased _ _ => Unit
  | .claim _ => Bool
  | .release _ => Unit

namespace Store

variable (store : Store)

def remember (index : Nat) (change : SlotMemory -> SlotMemory) : Store :=
  { store with memory := fun other =>
    if other = index then change (store.memory index) else store.memory other }

def exec : (op : StoreOp) -> Store × op.Ret
  | .read offset len => (store, .ok (store.flash.read offset len))
  | .write offset bytes =>
    ({ store with flash := store.flash.write offset bytes }, .ok ())
  | .erase offset len => ({ store with flash := store.flash.erase offset len }, .ok ())
  | .snapshot index => (store, (store.memory index).served)
  | .committed index bank =>
    (store.remember index fun memory =>
      { memory with served := servedCommitted memory.served bank }, ())
  | .readUnlessMoved index seen bank =>
    (store.remember index fun memory =>
      if memory.served = seen then { memory with served := servedRead seen bank }
      else memory, ())
  | .erased index => (store, (store.memory index).erased)
  | .setErased index bank =>
    (store.remember index fun memory => { memory with erased := bank }, ())
  | .claim index =>
    (store.remember index fun memory => { memory with writing := true },
      !(store.memory index).writing)
  | .release index =>
    (store.remember index fun memory => { memory with writing := false }, ())

/-- What an interrupted operation may leave in the flash.  The memory does not
survive the loss of power. -/
def Torn : StoreOp -> Store -> Prop
  | .write offset bytes, after => exists k, after
      = { store with flash := store.flash.write offset (bytes.take k) }
  | .erase offset len, after => exists sectors, after
      = { store with flash := store.flash.eraseSectors offset len sectors }
  | _, after => after = store

end Store

def storeMachine : Machine where
  op := StoreOp
  ret := StoreOp.Ret
  state := Store
  exec := fun op store => store.exec op
  torn := fun op store after => store.Torn op after

abbrev StoreProg (value : Type) := Prog storeMachine value

def perform (op : StoreOp) : StoreProg op.Ret :=
  .call op .done

/-! ## The calls -/

/-- The checksum of the flash driver, which continues from the sum so far. -/
structure Checksum where
  crc32 : BitVec 32 -> List Byte -> BitVec 32
  nil : forall seed, crc32 seed [] = seed
  append : forall seed first second, crc32 seed (first ++ second) = crc32 (crc32 seed first) second

/-- One bit of the reflected CRC-32. -/
def crcBit (crc : BitVec 32) : BitVec 32 :=
  if crc &&& 1 = 1 then (crc >>> 1) ^^^ 0xEDB88320#32 else crc >>> 1

def crcByte (crc : BitVec 32) (byte : Byte) : BitVec 32 :=
  (List.range 8).foldl (fun crc _ => crcBit crc) (crc ^^^ byte.setWidth 32)

/-- The checksum of the store's own tests. -/
def crc32Le : Checksum where
  crc32 := fun seed bytes => ~~~ (bytes.foldl crcByte (~~~ seed))
  nil := fun seed => BitVec.not_not
  append := fun seed first second => by
    rw [List.foldl_append, BitVec.not_not]

def ioChunkBytes : Nat := 1024
def eraseScanChunkBytes : Nat := 256

/-- The sizes of the pieces in which `len` bytes are read. -/
def chunkSizes (chunk len : Nat) : List Nat :=
  List.replicate (len / chunk) chunk ++ (if len % chunk = 0 then [] else [len % chunk])

def readChunks (offset : Nat) : List Nat -> StoreProg (Except StoreError (List Byte))
  | [] => .done (.ok [])
  | size :: rest =>
    (perform (.read offset size)).attempt fun bytes =>
      (readChunks (offset + size) rest).attempt fun more => .done (.ok (bytes ++ more))

def header (slot : SlotGeometry) (bank : Bank) :
    StoreProg (Except StoreError (Option BankHeader)) :=
  (perform (.read (slot.bankOffset bank) headerBytes)).attempt fun raw =>
    .done (.ok (BankHeader.decode raw))

/-- A header that does not fit the bank is passed over. -/
def candidate (slot : SlotGeometry) (bank : Bank) (found : Option BankHeader) :
    List (Bank × BankHeader) :=
  match found with
  | some header => if header.len.toNat > slot.capacity then [] else [(bank, header)]
  | none => []

def newestFirst (found : List (Bank × BankHeader)) : List (Bank × BankHeader) :=
  found.insertionSort fun a b => b.2.seq.toNat <= a.2.seq.toNat

def candidateBanks (slot : SlotGeometry) :
    StoreProg (Except StoreError (List (Bank × BankHeader))) :=
  (header slot 0).attempt fun first =>
    (header slot 1).attempt fun second =>
      .done (.ok (newestFirst (candidate slot 0 first ++ candidate slot 1 second)))

def isErased (offset : Nat) : List Nat -> StoreProg (Except StoreError Bool)
  | [] => .done (.ok true)
  | size :: rest =>
    (perform (.read offset size)).attempt fun bytes =>
      if bytes.any fun byte => decide (byte ≠ erasedByte) then .done (.ok false)
      else isErased (offset + size) rest

structure WriteSession where
  index : Nat
  slot : SlotGeometry
  target : Bank
  stale : Option Bank
  seq : BitVec 32
  written : Nat
  crc : BitVec 32
  failed : Bool

section Calls

variable (sum : Checksum)

/-- Tries the candidates in turn, and remembers the bank it could read. -/
def tryBanks (slot : SlotGeometry) (index : Nat) (seen : BitVec 32)
    (lastErr : StoreError) : List (Bank × BankHeader) -> StoreProg (Except StoreError (List Byte))
  | [] => .done (.error lastErr)
  | (bank, header) :: rest =>
    (readChunks (slot.bankOffset bank + headerBytes)
        (chunkSizes ioChunkBytes header.len.toNat)).andThen fun
      | .error e => tryBanks slot index seen e rest
      | .ok payload =>
        if sum.crc32 0 payload ≠ header.crc then
          tryBanks slot index seen lastErr rest
        else
          (perform (.readUnlessMoved index seen bank)).andThen fun _ =>
            .done (.ok payload)

def load (key : SliceKey) : StoreProg (Except StoreError (List Byte)) :=
  match slotGeometry key, slotIndex key with
  | some slot, some index =>
    (perform (.snapshot index)).andThen fun seen =>
      (candidateBanks slot).attempt fun found =>
        tryBanks sum slot index seen .missing found
  | _, _ => .done (.error .missing)

variable (slot : SlotGeometry) (session : WriteSession)

/-- Erases the bank unless it is known or found to be erased. -/
def prepareBank (index : Nat) (target : Bank) : StoreProg (Except StoreError Unit) :=
  (perform (.erased index)).andThen fun erased =>
    if erased = some target then .done (.ok ())
    else
      (isErased (slot.bankOffset target)
          (chunkSizes eraseScanChunkBytes slot.bankBytes)).attempt fun blank =>
        if blank then .done (.ok ())
        else perform (.erase (slot.bankOffset target) slot.bankBytes)

def nextSeq (found : List (Bank × BankHeader)) : BitVec 32 :=
  found.head?.elim 1 fun newest => newest.2.seq + 1

/-- Makes the target ready and opens the session on it. -/
def startSession (index : Nat) (choice : BankChoice) (seq : BitVec 32) :
    StoreProg (Except StoreError WriteSession) :=
  (prepareBank slot index choice.target).attempt fun _ =>
    (perform (.setErased index none)).andThen fun _ =>
      .done (.ok {
        index := index
        slot := slot
        target := choice.target
        stale := choice.keep
        seq := seq
        written := 0
        crc := 0
        failed := false })

/-- The part of `begin_write` that runs under the claim. -/
def openSession (index : Nat) : StoreProg (Except StoreError WriteSession) :=
  (candidateBanks slot).attempt fun found =>
    (perform (.snapshot index)).andThen fun word =>
      startSession slot index (chooseBank (servedBank word) (found.head?.map Prod.fst))
        (nextSeq found)

def beginWrite (key : SliceKey) : StoreProg (Except StoreError WriteSession) :=
  match slotGeometry key, slotIndex key with
  | some slot, some index =>
    (perform (.claim index)).andThen fun taken =>
      if taken then
        (openSession slot index).andThen fun
          | .ok session => .done (.ok session)
          | .error e => (perform (.release index)).andThen fun _ => .done (.error e)
      else .done (.error .deferred)
  | _, _ => .done (.error (.backend ("no slot reserved for " ++ key.label)))

def append (chunk : List Byte) : StoreProg (WriteSession × Except StoreError Unit) :=
  if session.failed then
    .done (session, .error (.backend "session already failed"))
  else if session.written + chunk.length > session.slot.capacity then
    .done ({ session with failed := true },
      .error (.tooLarge (session.written + chunk.length) session.slot.capacity))
  else
    (perform (.write (session.slot.bankOffset session.target + headerBytes
        + session.written) chunk)).andThen fun
      | .error e => .done ({ session with failed := true }, .error e)
      | .ok () =>
        .done ({ session with
          crc := sum.crc32 session.crc chunk
          written := session.written + chunk.length }, .ok ())

def sessionHeader : BankHeader where
  seq := session.seq
  len := BitVec.ofNat 32 session.written
  crc := session.crc

/-- Erases the bank that the commit has replaced; an error only puts it off. -/
def eraseStale : StoreProg Unit :=
  match session.stale with
  | none => .done ()
  | some stale =>
    (perform (.erase (session.slot.bankOffset stale) session.slot.bankBytes)).andThen fun
      | .ok () => perform (.setErased session.index (some stale))
      | .error _ => .done ()

/-- The claim is given back when the session is dropped. -/
def commit (session : WriteSession) : StoreProg (Except StoreError Unit) :=
  if session.failed then
    (perform (.release session.index)).andThen fun _ =>
      .done (.error (.backend "commit after failed append"))
  else
    (perform (.write (session.slot.bankOffset session.target)
        (sessionHeader session).encode)).andThen fun
      | .error e =>
        (perform (.release session.index)).andThen fun _ => .done (.error e)
      | .ok () =>
        (perform (.committed session.index session.target)).andThen fun _ =>
          (eraseStale session).andThen fun _ =>
            (perform (.release session.index)).andThen fun _ => .done (.ok ())

def abort : StoreProg Unit :=
  perform (.release session.index)

end Calls

end Oxidali.Storage
