import RdpPortscan.Core

/-!
# TPKT: the framing layer

`tpkt.New` arms a read of two bytes and from then on the layer is a chain of
callbacks: each completed read runs one receive method, which may emit an
event upward and schedules the next read with `core.StartReadBytes`. The
model makes the chain explicit. A `TPKT` holds the security flags of the
current fast-path frame and the one read its loop has scheduled (`pending`),
named by the method it completes into (`Recv`). Completing that read with a
`ReadResult` runs the method (`TPKT.recv`) and yields the next state and the
events of the step.

`core.StartReadBytes` allocates its buffer with `make([]byte, len)` before it
starts the read, so a negative size panics at once on the loop's goroutine and
schedules nothing (`Event.panic`): the process ends there.

The byte source is the frame reader of the spec: a read of `n` bytes takes the
next `n` bytes of the stream, or fails with a stream error and no bytes.
`TPKT.step` completes the scheduled read from the front of a byte list and
`TPKT.run` iterates it with fuel.

The callbacks are translated line by line, including the places where they
differ from each other: only `recvHeader` emits `"error"` on a failed read,
`recvExtendedFastPathHeader` reads its byte without looking at the error,
the short fast-path header schedules nothing, `size-4` is computed in
`uint16` and `packetSize-3` in `int`.
-/

namespace RdpPortscan

/-! ## Frames

`FASTPATH_ACTION_FASTPATH` and `FASTPATH_ACTION_X224`: `Write` starts a frame with
the latter, `recvHeader` reads a slow-path header when the first byte is it. -/

def fastpathActionFastpath : BitVec 8 := 0x0
def fastpathActionX224 : BitVec 8 := 0x3

/-- The receive methods of `TPKT` a scheduled read completes into.
`recvExtendedFastPathHeader` carries the `length` its closure captured (an
`int` holding one byte, so the byte itself). -/
inductive Recv
  | recvHeader
  | recvExtendedHeader
  | recvData
  | recvExtendedFastPathHeader (length : BitVec 8)
  | recvFastPath
deriving DecidableEq, Repr

/-- A read `core.StartReadBytes(size, t.Conn, callback)` has scheduled; its
buffer is allocated, so its size is not negative. -/
structure PendingRead where
  size : Nat
  callback : Recv
deriving DecidableEq, Repr

/-- The state of the `TPKT` layer. Its emitter's listeners belong to the layer
above and are modelled there; `Conn` is the byte stream. -/
structure TPKT where
  secFlag : BitVec 8
  pending : Option PendingRead
deriving DecidableEq, Repr

/-- Modelled from the spec: what `core.StartReadBytes` passes its callback,
exactly the bytes asked for, or a stream error and no bytes. -/
inductive ReadResult
  | ok (s : Bytes)
  | err
deriving DecidableEq, Repr

def ReadResult.bytes : ReadResult → Bytes
  | .ok s => s
  | .err => []

namespace TPKT

/-- What a step of the loop does towards the layers above, or the panic that
ends the process. -/
inductive Event
  /-- `t.Emit("data", s)`. -/
  | data (s : Bytes)
  /-- `t.Emit("error", err)`. -/
  | error
  /-- `t.fastPathListener.RecvFastPath(t.secFlag, s)`. -/
  | recvFastPath (secFlag : BitVec 8) (s : Bytes)
  /-- `make([]byte, len)` in `core.StartReadBytes` with a negative `len`. -/
  | panic
deriving DecidableEq, Repr

def Event.data? : Event → Option Bytes
  | .data s => some s
  | _ => none

/-! ## The send path -/

def write (data : Bytes) : Bytes :=
  writeUInt8 fastpathActionX224 ++ writeUInt8 0 ++
    writeUInt16BE (BitVec.ofNat 16 (data.length + 4)) ++ data

def sendFastPath (secFlag : BitVec 8) (data : Bytes) : Bytes :=
  writeUInt8 (fastpathActionFastpath ||| ((secFlag &&& 0x3) <<< 6)) ++
    writeUInt16BE (BitVec.ofNat 16 (data.length + 3) ||| 0x8000) ++ data

/-! ## The receive loop -/

/-- Modelled from the spec: `core.StartReadBytes(size, t.Conn, callback)`
allocates the buffer, which panics on a negative size, and schedules the read. -/
def startReadBytes (t : TPKT) (size : Int) (callback : Recv) : TPKT × List Event :=
  if 0 ≤ size then ({ t with pending := some ⟨size.toNat, callback⟩ }, []) else (t, [.panic])

/-- `tpkt.New`: no security flags, and a two-byte header read armed. -/
def new : TPKT := { secFlag := 0, pending := some ⟨2, .recvHeader⟩ }

def recvHeader (t : TPKT) : ReadResult → TPKT × List Event
  | .err => (t, [.error])
  | .ok s =>
    let version := s.getD 0 0
    if version = fastpathActionX224 then
      t.startReadBytes 2 .recvExtendedHeader
    else
      let t := { t with secFlag := (version >>> 6) &&& 0x3 }
      let length := s.getD 1 0
      if length &&& 0x80 ≠ 0 then
        t.startReadBytes 1 (.recvExtendedFastPathHeader length)
      else
        -- the short-length read is commented out in the source
        (t, [])

/-- `TPKT.recvExtendedHeader`: `size-4` is `uint16` arithmetic. -/
def recvExtendedHeader (t : TPKT) : ReadResult → TPKT × List Event
  | .err => (t, [])
  | .ok s =>
    let size := ((readUint16BE s).map Prod.fst).getD 0
    t.startReadBytes (size - 4).toNat .recvData

def recvData (t : TPKT) : ReadResult → TPKT × List Event
  | .err => (t, [])
  | .ok s => (t.startReadBytes 2 .recvHeader).map id (.data s :: ·)

/-- `TPKT.recvExtendedFastPathHeader`: the error argument is not looked at; the
read of `s` fails when `s` is empty. -/
def recvExtendedFastPathHeader (t : TPKT) (length : BitVec 8) (r : ReadResult) :
    TPKT × List Event :=
  match readUInt8 r.bytes with
  | none => (t, [])
  | some (rightPart, _) =>
    let leftPart := (length &&& ~~~0x80).toNat
    let packetSize := (leftPart <<< 8) + rightPart.toNat
    t.startReadBytes (packetSize - 3 : Int) .recvFastPath

def recvFastPath (t : TPKT) : ReadResult → TPKT × List Event
  | .err => (t, [])
  | .ok s => (t.startReadBytes 2 .recvHeader).map id (.recvFastPath t.secFlag s :: ·)

/-- Run the method a completed read was scheduled with. -/
def recv (t : TPKT) : Recv → ReadResult → TPKT × List Event
  | .recvHeader => t.recvHeader
  | .recvExtendedHeader => t.recvExtendedHeader
  | .recvData => t.recvData
  | .recvExtendedFastPathHeader length => t.recvExtendedFastPathHeader length
  | .recvFastPath => t.recvFastPath

/-- The scheduled read completes with `r`. While its callback runs no read is
pending; the callback may schedule the next one. -/
def complete (t : TPKT) (r : ReadResult) : Option (TPKT × List Event) :=
  t.pending.map fun p => { t with pending := none }.recv p.callback r

/-- Complete the scheduled read from the front of `input`, when the stream holds
the bytes it asks for. -/
def step (t : TPKT) (input : Bytes) : Option (TPKT × List Event × Bytes) :=
  match t.pending with
  | some p =>
    if p.size ≤ input.length then
      let r := { t with pending := none }.recv p.callback (.ok (input.take p.size))
      some (r.1, r.2, input.drop p.size)
    else none
  | none => none

/-- Feed `input` to the loop for at most `fuel` reads: the final state, the events
in order, and the bytes not consumed. -/
def run : Nat → TPKT → Bytes → TPKT × List Event × Bytes
  | 0, t, input => (t, [], input)
  | fuel + 1, t, input =>
    match t.step input with
    | some (t', evs, rest) =>
      let r := run fuel t' rest
      (r.1, evs ++ r.2.1, r.2.2)
    | none => (t, [], input)

/-! ## Step lemmas -/

/-- The loop waiting for a two-byte header, with flags `sf`. -/
def waitHeader (sf : BitVec 8) : TPKT := { secFlag := sf, pending := some ⟨2, .recvHeader⟩ }

@[simp] theorem new_eq : new = waitHeader 0 := rfl

@[simp] theorem startReadBytes_natCast (t : TPKT) (n : Nat) (cb : Recv) :
    t.startReadBytes n cb = ({ t with pending := some ⟨n, cb⟩ }, []) := by
  simp [startReadBytes, Int.natCast_nonneg]

theorem startReadBytes_panic {t : TPKT} {n : Int} {cb : Recv}
    (h : Event.panic ∈ (t.startReadBytes n cb).2) : t.startReadBytes n cb = (t, [.panic]) := by
  unfold startReadBytes at h ⊢
  split_ifs at h ⊢
  · cases h
  · rfl

/-- A read of exactly the bytes at the front of the stream completes with them. -/
theorem step_append {t : TPKT} {cb : Recv} {pre : Bytes} (rest : Bytes)
    (h : t.pending = some ⟨pre.length, cb⟩) :
    t.step (pre ++ rest) =
      some (({ t with pending := none }.recv cb (.ok pre)).1,
        ({ t with pending := none }.recv cb (.ok pre)).2, rest) := by
  simp [step, h]

/-- Everything a step can do: complete the pending read with the bytes it asks
for, from the front of the stream. -/
theorem step_eq_some {t t' : TPKT} {input rest : Bytes} {evs : List Event}
    (h : t.step input = some (t', evs, rest)) :
    ∃ p, t.pending = some p ∧ p.size ≤ input.length ∧
      t' = ({ t with pending := none }.recv p.callback (.ok (input.take p.size))).1 ∧
      evs = ({ t with pending := none }.recv p.callback (.ok (input.take p.size))).2 ∧
      rest = input.drop p.size := by
  unfold step at h
  split at h
  · rename_i p hp
    split_ifs at h with hle
    obtain ⟨rfl, rfl, rfl⟩ : _ ∧ _ ∧ _ := by simpa [Prod.ext_iff] using h.symm
    exact ⟨p, hp, hle, rfl, rfl, rfl⟩
  · cases h

theorem run_of_step {t t' : TPKT} {input rest : Bytes} {evs : List Event} (fuel : Nat)
    (h : t.step input = some (t', evs, rest)) :
    run (fuel + 1) t input =
      ((run fuel t' rest).1, evs ++ (run fuel t' rest).2.1, (run fuel t' rest).2.2) := by
  simp [run, h]

theorem run_of_step_none {t : TPKT} {input : Bytes} (fuel : Nat) (h : t.step input = none) :
    run fuel t input = (t, [], input) := by
  cases fuel <;> simp [run, h]

/-! ## One lemma per receive method

What a completed read does from each state the loop can wait in, on the bytes
at the front of the stream. -/

theorem step_header_x224 (sf b : BitVec 8) (rest : Bytes) :
    (waitHeader sf).step ([fastpathActionX224, b] ++ rest) =
      some (⟨sf, some ⟨2, .recvExtendedHeader⟩⟩, [], rest) := by
  rw [step_append rest rfl]; rfl

theorem step_header_fastPath {sf b0 b1 : BitVec 8} (rest : Bytes)
    (h0 : b0 ≠ fastpathActionX224) (h1 : b1 &&& 0x80 ≠ 0) :
    (waitHeader sf).step ([b0, b1] ++ rest) =
      some (⟨(b0 >>> 6) &&& 0x3, some ⟨1, .recvExtendedFastPathHeader b1⟩⟩, [], rest) := by
  rw [step_append rest rfl]
  have h1' : ¬ (b1 &&& 128#8 = 0#8) := h1
  simp [recv, recvHeader, h0, h1', startReadBytes]

theorem step_extendedHeader (sf : BitVec 8) (v : BitVec 16) (rest : Bytes) :
    (⟨sf, some ⟨2, .recvExtendedHeader⟩⟩ : TPKT).step (writeUInt16BE v ++ rest) =
      some (⟨sf, some ⟨(v - 4).toNat, .recvData⟩⟩, [], rest) := by
  rw [step_append rest rfl]
  simp only [recv, recvExtendedHeader, readUint16BE_writeUInt16BE_nil, Option.map_some',
    Option.getD_some, startReadBytes_natCast]

theorem step_data (sf : BitVec 8) (p rest : Bytes) :
    (⟨sf, some ⟨p.length, .recvData⟩⟩ : TPKT).step (p ++ rest) =
      some (waitHeader sf, [.data p], rest) := by
  rw [step_append rest rfl]; rfl

theorem step_extendedFastPathHeader {sf length right : BitVec 8} {size : Nat} (rest : Bytes)
    (hsize : ((((length &&& ~~~0x80).toNat <<< 8) + right.toNat : Nat) : Int) - 3 = size) :
    (⟨sf, some ⟨1, .recvExtendedFastPathHeader length⟩⟩ : TPKT).step ([right] ++ rest) =
      some (⟨sf, some ⟨size, .recvFastPath⟩⟩, [], rest) := by
  rw [step_append rest rfl]
  simp only [recv, recvExtendedFastPathHeader, ReadResult.bytes, readUInt8, hsize,
    startReadBytes_natCast]

theorem step_fastPath (sf : BitVec 8) (p rest : Bytes) :
    (⟨sf, some ⟨p.length, .recvFastPath⟩⟩ : TPKT).step (p ++ rest) =
      some (waitHeader sf, [.recvFastPath sf p], rest) := by
  rw [step_append rest rfl]; rfl

/-- A loop waiting for a header on an exhausted stream stays where it is. -/
@[simp] theorem run_waitHeader_nil (fuel : Nat) (sf : BitVec 8) :
    run fuel (waitHeader sf) [] = (waitHeader sf, [], []) :=
  run_of_step_none fuel (by simp [step, waitHeader])

end TPKT

end RdpPortscan
