import Graft64.Library.LittleEndian

/-! The messages between host and helper, as they lie in memory. -/

namespace Graft64.Platform.Ipc

open Graft64.Library

abbrev Bytes := List UInt8

def GRAFT_IPC_MAGIC : UInt32 := 0x47524654
def GRAFT_IPC_VERSION : UInt16 := 1
def GRAFT_IPC_MAX_PAYLOAD : ℕ := 64 * 1024

def GRAFT_IPC_HELLO : UInt16 := 1
def GRAFT_IPC_PING : UInt16 := 2
def GRAFT_IPC_PONG : UInt16 := 3
def GRAFT_IPC_SHUTDOWN : UInt16 := 4
def GRAFT_IPC_SHARED_MEMORY : UInt16 := 5

structure MsgHeader where
  magic : UInt32
  version : UInt16
  type : UInt16
  payloadSize : UInt32
  requestId : UInt64
  deriving DecidableEq, Repr

/-- `sizeof(graft_msg_header)`; four bytes of padding align `request_id`. -/
def headerSize : ℕ := 24

def encodeHeader (pad : UInt32) (h : MsgHeader) : Bytes :=
  LittleEndian.encode 4 h.magic.toNat ++ (LittleEndian.encode 2 h.version.toNat ++
    (LittleEndian.encode 2 h.type.toNat ++ (LittleEndian.encode 4 h.payloadSize.toNat ++
      (LittleEndian.encode 4 pad.toNat ++ LittleEndian.encode 8 h.requestId.toNat))))

def decodeHeader (bs : Bytes) : MsgHeader where
  magic := UInt32.ofNat (LittleEndian.field bs 0 4)
  version := UInt16.ofNat (LittleEndian.field bs 4 2)
  type := UInt16.ofNat (LittleEndian.field bs 6 2)
  payloadSize := UInt32.ofNat (LittleEndian.field bs 8 4)
  requestId := UInt64.ofNat (LittleEndian.field bs 16 8)

def validateHeader (h : MsgHeader) : Bool :=
  h.magic == GRAFT_IPC_MAGIC && h.version == GRAFT_IPC_VERSION &&
    decide (h.payloadSize.toNat ≤ GRAFT_IPC_MAX_PAYLOAD)

structure HelloPayload where
  pid : Int64
  pageSize : UInt64
  nonce : UInt64
  deriving DecidableEq

/-- `sizeof(graft_helper_hello_payload)`. -/
def helloSize : ℕ := 24

def encodeHello (p : HelloPayload) : Bytes :=
  LittleEndian.encode 8 p.pid.toUInt64.toNat ++
    (LittleEndian.encode 8 p.pageSize.toNat ++ LittleEndian.encode 8 p.nonce.toNat)

def decodeHello (bs : Bytes) : HelloPayload where
  pid := (UInt64.ofNat (LittleEndian.field bs 0 8)).toInt64
  pageSize := UInt64.ofNat (LittleEndian.field bs 8 8)
  nonce := UInt64.ofNat (LittleEndian.field bs 16 8)

def PARENT_MAGIC : UInt64 := 0x4752414654504152
def HELPER_MAGIC : UInt64 := 0x4752414654484c50

structure SharedState where
  parentMagic : UInt64
  helperMagic : UInt64
  helperPid : UInt64
  heartbeat : UInt64
  deriving DecidableEq

@[simp] lemma encodeHeader_length (pad : UInt32) (h : MsgHeader) : (encodeHeader pad h).length = headerSize := by
  simp [encodeHeader, headerSize]

@[simp] lemma encodeHello_length (p : HelloPayload) : (encodeHello p).length = helloSize := by
  simp [encodeHello, helloSize]

@[simp] lemma decodeHeader_encodeHeader (pad : UInt32) (h : MsgHeader) :
    decodeHeader (encodeHeader pad h) = h := by
  have hm : LittleEndian.field (encodeHeader pad h) 0 4 = h.magic.toNat :=
    LittleEndian.field_encode_zero h.magic.toNat_lt
  have hv : LittleEndian.field (encodeHeader pad h) 4 2 = h.version.toNat :=
    LittleEndian.field_encode (LittleEndian.encode_length _ _) h.version.toNat_lt
  have ht : LittleEndian.field (encodeHeader pad h) 6 2 = h.type.toNat := by
    rw [encodeHeader, ← List.append_assoc]
    exact LittleEndian.field_encode (by simp) h.type.toNat_lt
  have hp : LittleEndian.field (encodeHeader pad h) 8 4 = h.payloadSize.toNat := by
    rw [encodeHeader, ← List.append_assoc, ← List.append_assoc]
    exact LittleEndian.field_encode (by simp) h.payloadSize.toNat_lt
  have hr : LittleEndian.field (encodeHeader pad h) 16 8 = h.requestId.toNat := by
    rw [encodeHeader, ← List.append_assoc, ← List.append_assoc, ← List.append_assoc, ← List.append_assoc,
      ← List.append_nil (LittleEndian.encode 8 _)]
    exact LittleEndian.field_encode (by simp) h.requestId.toNat_lt
  simp [decodeHeader, hm, hv, ht, hp, hr]

@[simp] lemma decodeHello_encodeHello (p : HelloPayload) : decodeHello (encodeHello p) = p := by
  have hp : LittleEndian.field (encodeHello p) 0 8 = p.pid.toUInt64.toNat :=
    LittleEndian.field_encode_zero p.pid.toUInt64.toNat_lt
  have hs : LittleEndian.field (encodeHello p) 8 8 = p.pageSize.toNat :=
    LittleEndian.field_encode (LittleEndian.encode_length _ _) p.pageSize.toNat_lt
  have hn : LittleEndian.field (encodeHello p) 16 8 = p.nonce.toNat := by
    rw [encodeHello, ← List.append_assoc, ← List.append_nil (LittleEndian.encode 8 p.nonce.toNat)]
    exact LittleEndian.field_encode (by simp) p.nonce.toNat_lt
  simp [decodeHello, hp, hs, hn]

end Graft64.Platform.Ipc
