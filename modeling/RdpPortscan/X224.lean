import RdpPortscan.TpktStream

/-!
# X224: the connection-negotiation automaton

The records of the X.224 layer and the automaton that drives them. The
records are written and read with `struc` from their Go field types and tags;
the model spells each layout out (`Negotiation.pack`,
`ServerConnectionConfirm.unpack`, `DataHeader.pack`).

The automaton's state is an `X224`. It never reads from the byte stream
itself: `Connect` writes the connection request and arms a one-shot listener
on its transport's `"data"` event, and from then on each frame the transport
emits is delivered to whichever of its two handlers
(`recvConnectionConfirm`, `recvData`) is armed at that moment
(`X224.onTransportData`). Its effects towards the outside world, the writes,
the transport upgrades, the reachability record and its own events, are
returned as a list of `X224.Effect`. The outcome of an upgrade is the
environment's (`Upgrades`).

`NewClientConnectionRequestPDU` computes the length byte from a serialization
made while the length byte is still `0`, so before the CR/LF marker exists
(`len_newClientConnectionRequestPDU`).
-/

namespace RdpPortscan

/-! ## Constants

`TPDU_CONNECTION_REQUEST`, `TPDU_DATA`, the three `TYPE_RDP_NEG_*` record types
and the four `PROTOCOL_*` flags. -/

def tpduConnectionRequest : BitVec 8 := 0xE0
def tpduData : BitVec 8 := 0xF0
def typeRdpNegReq : BitVec 8 := 0x01
def typeRdpNegRsp : BitVec 8 := 0x02
def typeRdpNegFailure : BitVec 8 := 0x03
def protocolRdp : BitVec 32 := 0x00000000
def protocolSsl : BitVec 32 := 0x00000001
def protocolHybrid : BitVec 32 := 0x00000002
def protocolHybridEx : BitVec 32 := 0x00000008

/-! ## Records -/

structure Negotiation where
  type : BitVec 8
  flag : BitVec 8
  length : BitVec 16
  result : BitVec 32
deriving DecidableEq, Repr

def newNegotiation : Negotiation := ⟨0, 0, 0x0008, protocolRdp⟩

/-- Modelled from the spec: `struc.Pack` of a `Negotiation`, by its tags: a
byte, a byte, a little-endian `uint16` and a little-endian `uint32`. -/
def Negotiation.pack (n : Negotiation) : Bytes :=
  writeUInt8 n.type ++ writeUInt8 n.flag ++ writeUInt16LE n.length ++ writeUInt32LE n.result

/-- Modelled from the spec: `struc.Unpack` of a `Negotiation`, by the same tags. -/
def Negotiation.unpack (s : Bytes) : Option (Negotiation × Bytes) := do
  let (type, s) ← readUInt8 s
  let (flag, s) ← readUInt8 s
  let (length, s) ← readUint16LE s
  let (result, s) ← readUInt32LE s
  pure (⟨type, flag, length, result⟩, s)

structure ClientConnectionRequestPDU where
  len : BitVec 8
  code : BitVec 8
  padding1 : BitVec 16
  padding2 : BitVec 16
  padding3 : BitVec 8
  cookie : Bytes
  protocolNeg : Negotiation
deriving DecidableEq, Repr

/-- `ClientConnectionRequestPDU.Serialize`: the CR/LF marker is written when the
length byte is above `14`. -/
def ClientConnectionRequestPDU.serialize (x : ClientConnectionRequestPDU) : Bytes :=
  writeUInt8 x.len ++ writeUInt8 x.code ++ writeUInt16BE x.padding1 ++
    writeUInt16BE x.padding2 ++ writeUInt8 x.padding3 ++ x.cookie ++
    (if x.len > 14 then writeUInt16LE 0x0A0D else []) ++ x.protocolNeg.pack

/-- `NewClientConnectionRequestPDU`: the length byte is the size of a
serialization made with length byte `0`, minus one, cut to a byte. -/
def newClientConnectionRequestPDU (coockie : Bytes) : ClientConnectionRequestPDU :=
  let x : ClientConnectionRequestPDU :=
    ⟨0, tpduConnectionRequest, 0, 0, 0, coockie, newNegotiation⟩
  { x with len := BitVec.ofNat 8 (x.serialize.length - 1) }

structure ServerConnectionConfirm where
  len : BitVec 8
  code : BitVec 8
  padding1 : BitVec 16
  padding2 : BitVec 16
  padding3 : BitVec 8
  protocolNeg : Negotiation
deriving DecidableEq, Repr

/-- Modelled from the spec: `struc.Unpack` of a `ServerConnectionConfirm`; it
fails on a frame shorter than its fifteen bytes. -/
def ServerConnectionConfirm.unpack (s : Bytes) : Option ServerConnectionConfirm := do
  let (len, s) ← readUInt8 s
  let (code, s) ← readUInt8 s
  let (padding1, s) ← readUint16BE s
  let (padding2, s) ← readUint16BE s
  let (padding3, s) ← readUInt8 s
  let (protocolNeg, _) ← Negotiation.unpack s
  pure ⟨len, code, padding1, padding2, padding3, protocolNeg⟩

structure DataHeader where
  header : BitVec 8
  messageType : BitVec 8
  separator : BitVec 8
deriving DecidableEq, Repr

def newDataHeader : DataHeader := ⟨2, tpduData, 0x80⟩

/-- Modelled from the spec: `struc.Pack` of a `DataHeader`, three bytes. -/
def DataHeader.pack (h : DataHeader) : Bytes := [h.header, h.messageType, h.separator]

@[simp] theorem length_pack (h : DataHeader) : h.pack.length = 3 := rfl

/-! ## The connection request -/

@[simp] theorem length_negotiation_pack (n : Negotiation) : n.pack.length = 8 := by
  simp [Negotiation.pack]

theorem length_serialize (x : ClientConnectionRequestPDU) :
    x.serialize.length = 15 + x.cookie.length + if x.len > 14 then 2 else 0 := by
  unfold ClientConnectionRequestPDU.serialize
  split <;> simp <;> omega

theorem len_newClientConnectionRequestPDU (c : Bytes) :
    (newClientConnectionRequestPDU c).len = BitVec.ofNat 8 (14 + c.length) := by
  simp only [newClientConnectionRequestPDU, length_serialize]
  congr 1
  simp

theorem crlf_newClientConnectionRequestPDU {c : Bytes} (hc : c.length ≤ 241) :
    (newClientConnectionRequestPDU c).len > 14 ↔ c ≠ [] := by
  rw [len_newClientConnectionRequestPDU, ← List.length_pos, gt_iff_lt, BitVec.lt_def,
    BitVec.toNat_ofNat]
  simp only [show (14 : BitVec 8).toNat = 14 from rfl]
  omega

theorem serialize_newClientConnectionRequestPDU {c : Bytes} (hc : c.length ≤ 241) :
    (newClientConnectionRequestPDU c).serialize =
      [BitVec.ofNat 8 (14 + c.length), tpduConnectionRequest, 0, 0, 0, 0, 0] ++ c ++
        (if c = [] then [] else [0x0D, 0x0A]) ++ newNegotiation.pack := by
  have hcr := crlf_newClientConnectionRequestPDU hc
  have hmarker : writeUInt16LE 0x0A0D = [0x0D, 0x0A] := rfl
  rw [len_newClientConnectionRequestPDU] at hcr
  rw [ClientConnectionRequestPDU.serialize, len_newClientConnectionRequestPDU]
  by_cases h : c = []
  · simp [h, writeUInt8, writeUInt16BE, newClientConnectionRequestPDU]
  · rw [if_pos (hcr.mpr h), if_neg h, hmarker]
    simp [writeUInt8, writeUInt16BE, newClientConnectionRequestPDU]

/-- A one-byte cookie: the length byte says `15`, while the request has `18`
bytes, so the two marker bytes are not counted. -/
theorem connectionRequest_length_byte_misses_marker :
    (newClientConnectionRequestPDU [0x41]).serialize.head? = some 15 ∧
      (newClientConnectionRequestPDU [0x41]).serialize.length = 18 := by
  decide

@[simp] theorem unpack_pack (n : Negotiation) (rest : Bytes) :
    Negotiation.unpack (n.pack ++ rest) = some (n, rest) := by
  simp [Negotiation.unpack, Negotiation.pack, writeUInt8, readUInt8]

/-- The layout of every connection request whose cookie fits: the length byte,
the CR/LF marker right after the cookie exactly when there is a cookie, and the
eight-byte negotiation record at the end, whose length field reads `8`. -/
theorem connectionRequest_layout {c : Bytes} (hc : c.length ≤ 239) :
    let b := (newClientConnectionRequestPDU c).serialize
    b.head? = some (BitVec.ofNat 8 (14 + c.length)) ∧
      b.length = 15 + c.length + (if c = [] then 0 else 2) ∧
      ((b.drop (7 + c.length)).take 2 = [0x0D, 0x0A] ↔ c ≠ []) ∧
      (Negotiation.unpack (b.drop (b.length - 8))).map (·.1.length) = some 8 := by
  intro b
  have hb : b = [BitVec.ofNat 8 (14 + c.length), tpduConnectionRequest, 0, 0, 0, 0, 0] ++ c ++
      (if c = [] then [] else [0x0D, 0x0A]) ++ newNegotiation.pack :=
    serialize_newClientConnectionRequestPDU (by omega)
  set A : Bytes := [BitVec.ofNat 8 (14 + c.length), tpduConnectionRequest, 0, 0, 0, 0, 0]
  set M : Bytes := if c = [] then [] else [0x0D, 0x0A]
  have hM : M.length = if c = [] then 0 else 2 := by simp only [M]; split <;> rfl
  have hlen : b.length = 15 + c.length + (if c = [] then 0 else 2) := by
    simp [hb, A, ← hM]; omega
  have hmid : b.drop (7 + c.length) = M ++ newNegotiation.pack := by
    rw [hb, List.append_assoc, List.drop_left' (by simp [A]; omega)]
  have htail : b.drop (b.length - 8) = newNegotiation.pack := by
    rw [hlen, hb, List.drop_left' (by simp [A, hM]; omega)]
  refine ⟨by simp [hb, A], hlen, ?_, ?_⟩
  swap
  · rw [htail, ← List.append_nil newNegotiation.pack, unpack_pack]; rfl
  rw [hmid]
  by_cases h : c = [] <;> simp [M, h, newNegotiation, Negotiation.pack, writeUInt8]

/-- The layout of the request with the one-byte cookie `41`. -/
theorem connectionRequest_layout_one :
    [(0x41 : BitVec 8)].length ≤ 239 ∧
      let b := (newClientConnectionRequestPDU [0x41]).serialize
      b.head? = some (BitVec.ofNat 8 (14 + [(0x41 : BitVec 8)].length)) ∧
        b.length = 15 + [(0x41 : BitVec 8)].length + (if [(0x41 : BitVec 8)] = [] then 0 else 2) ∧
        ((b.drop (7 + [(0x41 : BitVec 8)].length)).take 2 = [0x0D, 0x0A] ↔ [(0x41 : BitVec 8)] ≠ []) ∧
        (Negotiation.unpack (b.drop (b.length - 8))).map (·.1.length) = some 8 :=
  ⟨by decide, connectionRequest_layout (by decide)⟩

/-! ## The automaton -/

inductive X224.Handler
  | recvConnectionConfirm
  | recvData
deriving DecidableEq, Repr

/-- The state of an `X224`. Its emitter's own listeners belong to the layer
above; what it arms on its transport's `"data"` event is `transportData`. The
package variable `FindSuccess` is kept here, as the one connection of a scan
is the only one writing it. -/
structure X224 where
  requestedProtocol : BitVec 32
  selectedProtocol : BitVec 32
  dataHeader : DataHeader
  host : String
  transportData : List (Listener X224.Handler)
  findSuccess : String
deriving DecidableEq, Repr

/-- How the lower transport answers the upgrade calls `Conn.StartTLS()` and
`Conn.StartNLA()`: `true` for success. -/
structure Upgrades where
  startTLS : Bool
  startNLA : Bool
deriving DecidableEq, Repr

namespace X224

inductive Event
  | connect (selectedProtocol : BitVec 32)
  | data (s : Bytes)
  | error
deriving DecidableEq, Repr

/-- What a method of `X224` does outside its own state. -/
inductive Effect
  /-- `x.transport.Write(b)`. -/
  | write (b : Bytes)
  /-- `Conn.StartTLS()`. -/
  | startTLS
  /-- `Conn.StartNLA()`. -/
  | startNLA
  /-- `savefile(x.host)`. -/
  | savefile (host : String)
  /-- `x.Emit(...)`. -/
  | emit (e : Event)
  /-- A Go panic: the process stops here. -/
  | panic
deriving DecidableEq, Repr

/-- `x224.New`: no listener armed on the transport yet; the transport's
`"error"` is forwarded by `onTransport`. It leaves the package variable
`FindSuccess` as it finds it, `findSuccess`. -/
def new (findSuccess : String) : X224 :=
  { requestedProtocol := protocolSsl ||| protocolHybrid, selectedProtocol := protocolSsl,
    dataHeader := newDataHeader, host := "0", transportData := [], findSuccess := findSuccess }

/-- `X224.Write`: the data header, then `b`, handed to the transport's `Write`. -/
def write (x : X224) (b : Bytes) : Bytes := x.dataHeader.pack ++ b

def setRequestedProtocol (x : X224) (p : BitVec 32) : X224 := { x with requestedProtocol := p }

def connectionRequest (x : X224) : ClientConnectionRequestPDU :=
  let message := newClientConnectionRequestPDU []
  { message with
    protocolNeg := { message.protocolNeg with type := typeRdpNegReq, result := x.requestedProtocol } }

/-- The first half of `X224.Connect`: record the host and write the request. -/
def sendConnectionRequest (x : X224) (host : String) : X224 × List Effect :=
  ({ x with host := host }, [.write x.connectionRequest.serialize])

/-- The second half of `X224.Connect`:
`x.transport.Once("data", x.recvConnectionConfirm)`. -/
def armConnectionConfirm (x : X224) : X224 :=
  { x with transportData := armOnce x.transportData .recvConnectionConfirm }

def connect (x : X224) (host : String) : X224 × List Effect :=
  ((x.sendConnectionRequest host).1.armConnectionConfirm, (x.sendConnectionRequest host).2)

/-- The relay handler `recvData` is armed before the protocol branches, whatever
the upgrade then does. -/
def recvConnectionConfirm (up : Upgrades) (x : X224) (s : Bytes) : X224 × List Effect :=
  match ServerConnectionConfirm.unpack s with
  | none => (x, [])
  | some message =>
    if message.protocolNeg.type = typeRdpNegFailure then
      ({ x with findSuccess := x.host }, [.savefile x.host])
    else if message.protocolNeg.type = typeRdpNegRsp then
      ({ x with findSuccess := x.host }, [.savefile x.host])
    else if x.selectedProtocol = protocolHybridEx then (x, [])
    else
      let x := { x with transportData := armOn x.transportData .recvData }
      if x.selectedProtocol = protocolRdp then (x, [])
      else if x.selectedProtocol = protocolSsl then
        (x, .startTLS :: if up.startTLS then [.emit (.connect x.selectedProtocol)] else [])
      else if x.selectedProtocol = protocolHybrid then
        (x, .startNLA :: if up.startNLA then [.emit (.connect x.selectedProtocol)] else [])
      else (x, [])

/-- `X224.recvData`: strip the three-byte data header; `s[3:]` panics on a
shorter frame. -/
def recvData (x : X224) (s : Bytes) : X224 × List Effect :=
  match sliceFrom s 3 with
  | some q => (x, [.emit (.data q)])
  | none => (x, [.panic])

def handle (up : Upgrades) (x : X224) : Handler → Bytes → X224 × List Effect
  | .recvConnectionConfirm => x.recvConnectionConfirm up
  | .recvData => x.recvData

def Effect.isPanic : Effect → Bool
  | .panic => true
  | _ => false

@[simp] theorem Effect.isPanic_eq_true {e : Effect} : e.isPanic = true ↔ e = .panic := by
  cases e <;> simp only [isPanic, reduceCtorEq, Bool.false_eq_true, iff_self]

theorem Effect.any_isPanic (effs : List Effect) : effs.any isPanic = decide (.panic ∈ effs) := by
  rw [Bool.eq_iff_iff, List.any_eq_true, decide_eq_true_iff]
  simp only [isPanic_eq_true, exists_eq_right]

/-- The transport emits `"data"` with frame `s`: the handlers armed at that
moment run, and the one-shot ones are disarmed. -/
def onTransportData (up : Upgrades) (x : X224) (s : Bytes) : X224 × List Effect :=
  runUntil Effect.isPanic (fun x h => x.handle up h s)
    { x with transportData := (fire x.transportData).2 } (fire x.transportData).1

/-- React to one event of the TPKT loop. Fast-path frames go to the fast-path
listener, not to `X224`; the transport's `"error"` is forwarded as `x224.New`
arranges. -/
def onTransport (up : Upgrades) (x : X224) : TPKT.Event → X224 × List Effect
  | .data s => x.onTransportData up s
  | .error => (x, [.emit .error])
  | .recvFastPath _ _ => (x, [])
  | .panic => (x, [.panic])

/-- React to the TPKT loop's events in order, until a panic ends the process. -/
def onTransportAll (up : Upgrades) : X224 → List TPKT.Event → X224 × List Effect :=
  runUntil Effect.isPanic (onTransport up)

@[simp] theorem onTransportAll_nil (up : Upgrades) (x : X224) : onTransportAll up x [] = (x, []) :=
  rfl

theorem onTransportAll_cons (up : Upgrades) (x : X224) (e : TPKT.Event) (es : List TPKT.Event) :
    onTransportAll up x (e :: es) =
      if (x.onTransport up e).2.any Effect.isPanic then x.onTransport up e
      else
        ((onTransportAll up (x.onTransport up e).1 es).1,
          (x.onTransport up e).2 ++ (onTransportAll up (x.onTransport up e).1 es).2) := rfl

/-! ## One lemma per handler -/

theorem recvData_eq (x : X224) (s : Bytes) :
    x.recvData s = (x, if 3 ≤ s.length then [.emit (.data (s.drop 3))] else [.panic]) := by
  by_cases h : 3 ≤ s.length <;> simp [recvData, sliceFrom, h]

@[simp] theorem recvData_write (x y : X224) (q : Bytes) :
    x.recvData (y.write q) = (x, [.emit (.data q)]) := by
  simp [recvData_eq, write, DataHeader.pack]

/-- The confirm handler, when the selected protocol is TLS (the only value it
ever has). The relay handler is armed whenever the negotiation is neither a
failure nor a response, before `StartTLS` is called. -/
theorem recvConnectionConfirm_ssl (up : Upgrades) {x : X224}
    (hsel : x.selectedProtocol = protocolSsl) (s : Bytes) :
    x.recvConnectionConfirm up s =
      match ServerConnectionConfirm.unpack s with
      | none => (x, [])
      | some m =>
        if m.protocolNeg.type = typeRdpNegFailure ∨ m.protocolNeg.type = typeRdpNegRsp then
          ({ x with findSuccess := x.host }, [.savefile x.host])
        else
          ({ x with transportData := armOn x.transportData .recvData },
            .startTLS :: if up.startTLS then [.emit (.connect protocolSsl)] else []) := by
  unfold recvConnectionConfirm
  cases ServerConnectionConfirm.unpack s with
  | none => rfl
  | some m =>
    by_cases hf : m.protocolNeg.type = typeRdpNegFailure
    · simp [hf]
    · by_cases hr : m.protocolNeg.type = typeRdpNegRsp
      · simp [hr]
      · simp [hf, hr, hsel, protocolSsl, protocolHybridEx, protocolRdp]

theorem recvConnectionConfirm_selectedProtocol (up : Upgrades) (x : X224) (s : Bytes) :
    (x.recvConnectionConfirm up s).1.selectedProtocol = x.selectedProtocol := by
  unfold recvConnectionConfirm
  split
  · rfl
  · simp only [apply_ite Prod.fst, apply_ite X224.selectedProtocol, ite_self]

@[simp] theorem handle_selectedProtocol (up : Upgrades) (x : X224) (h : Handler) (s : Bytes) :
    (x.handle up h s).1.selectedProtocol = x.selectedProtocol := by
  cases h with
  | recvData => simp [handle, recvData_eq]
  | recvConnectionConfirm => exact recvConnectionConfirm_selectedProtocol up x s

end X224

end RdpPortscan
