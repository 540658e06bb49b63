import RdpPortscan.SecInfo

/-!
# The licence exchange of `sec.Client`

When the MCS layer below signals `"connect"`, `Client.connect` records what it
was handed, sends the client info record flagged `INFO_PKT`, and arms the
one-shot `recvLicenceInfo` on the `"global"` channel. Each licence message then
either re-arms it (a licence request, a platform challenge, an error alert
other than the valid-client one) or ends the licence phase: a new licence, or
the alert saying the client is already valid, arms the persistent `recvData`
forwarder and emits `"connect"`; anything else emits one `"error"` and arms
nothing.

The `lic` package is not part of the sources. Its decoder is a parameter
(`readLicensePacket`), so every result here holds whatever a message decodes
to; its constants are the licence message types the spec names.

The abstract model is the licence automaton `LicencePhase`, whose states are
the three phases and whose step says what one message does in each. The faithful
model refines it: `onGlobal_refines` shows that one delivery on `"global"` does
what one automaton step says, `onGlobalAll_refines` extends this to every run,
and the facts about whole runs are then proved of the automaton.
-/

namespace RdpPortscan

/-! ## Licence packets

Modelled from the spec: the message types `lic.LICENSE_REQUEST`,
`lic.PLATFORM_CHALLENGE`, `lic.NEW_LICENSE` and `lic.ERROR_ALERT`, and the error
code `lic.STATUS_VALID_CLIENT` with its state transition `lic.ST_NO_TRANSITION`. -/

def licenseRequest : BitVec 8 := 0x01
def platformChallenge : BitVec 8 := 0x02
def newLicense : BitVec 8 := 0x03
def errorAlert : BitVec 8 := 0xFF
def statusValidClient : BitVec 32 := 0x00000007
def stNoTransition : BitVec 32 := 0x00000002

/-- Modelled from the spec: what `recvLicenceInfo` reads of a decoded
`lic.LicensePacket`: its type, and for an error alert the code and state
transition of its `lic.ErrorMessage`. -/
structure LicensePacket where
  bMsgtype : BitVec 8
  dwErrorCode : BitVec 32
  dwStateTransaction : BitVec 32
deriving DecidableEq, Repr

/-! ## Security headers

The flags `INFO_PKT` and `LICENSE_PKT`, and, modelled from the spec,
`gcc.RDP_VERSION_5_PLUS`. -/

def infoPkt : BitVec 16 := 0x0040
def licensePkt : BitVec 16 := 0x0080
def rdpVersion5Plus : BitVec 32 := 0x00080004

structure SecurityHeader where
  securityFlag : BitVec 16
  securityFlagHi : BitVec 16
deriving DecidableEq, Repr

/-- `readSecurityHeader`: two little-endian words, their read errors dropped; a
word the message is too short for reads as `0`, as `core.ReadUint16LE` returns
on a short read. -/
def readSecurityHeader (s : Bytes) : SecurityHeader :=
  ⟨((readUint16LE s).map Prod.fst).getD 0, ((readUint16LE (s.drop 2)).map Prod.fst).getD 0⟩

/-- The bytes `SEC.sendFlagged` writes: the flag, a zero high word, the data. -/
def sendFlagged (flag : BitVec 16) (data : Bytes) : Bytes :=
  writeUInt16LE flag ++ writeUInt16LE 0 ++ data

@[simp] theorem readSecurityHeader_sendFlagged (flag : BitVec 16) (data : Bytes) :
    readSecurityHeader (sendFlagged flag data) = ⟨flag, 0⟩ := by
  simp [readSecurityHeader, sendFlagged]

@[simp] theorem drop_sendFlagged (flag : BitVec 16) (data : Bytes) :
    (sendFlagged flag data).drop 4 = data := rfl

/-- A message flagged `LICENSE_PKT`, read off its bytes: the flag is bit 7 of the
low byte of the first little-endian word, so of the first byte, and a message
too short for the word has no flag. -/
def licenseFlagged : Bytes → Bool
  | b0 :: _ :: _ => b0 &&& 0x80 != 0
  | _ => false

/-- The test `recvLicenceInfo` makes through `readSecurityHeader` is the test on
the bytes. -/
theorem readSecurityHeader_licensePkt (s : Bytes) :
    (readSecurityHeader s).securityFlag &&& licensePkt = 0 ↔ licenseFlagged s = false := by
  match s with
  | b0 :: b1 :: rest =>
    have hlow : ((b1 ++ b0) &&& licensePkt).toNat = (b0 &&& 0x80).toNat := by
      rw [BitVec.toNat_and, BitVec.toNat_and, toNat_append_eq]
      show (b1.toNat * 2 ^ 8 + b0.toNat) &&& 128 = b0.toNat &&& 128
      calc (b1.toNat * 2 ^ 8 + b0.toNat) &&& 128
          = (b1.toNat * 2 ^ 8 + b0.toNat) &&& (2 ^ 8 - 1) &&& 128 := by rw [Nat.and_assoc]; rfl
        _ = b0.toNat &&& 128 := by
          rw [Nat.and_pow_two_sub_one_eq_mod]
          congr 1
          have := b0.isLt
          omega
    simp only [readSecurityHeader, readUint16LE, Option.map_some', Option.getD_some, licenseFlagged,
      bne_eq_false_iff_eq]
    rw [BitVec.toNat_eq, BitVec.toNat_eq, hlow]
    rfl
  | [] | [_] => simp [readSecurityHeader, readUint16LE, licenseFlagged]

/-! ## The client -/

/-- Modelled from the spec: `t125.MCSChannelInfo`. -/
structure MCSChannelInfo where
  id : BitVec 16
  name : String
deriving DecidableEq, Repr

inductive Client.Event
  | connect (clientCore : ClientCoreData) (userId channelId : BitVec 16)
  | success
  | error (message : String)
  | data (s : Bytes)
deriving DecidableEq, Repr

/-- What a method of `sec.Client` does beyond its own state: a write to its
transport, or an event. -/
inductive Client.Effect
  | write (b : Bytes)
  | emit (e : Client.Event)
deriving DecidableEq, Repr

namespace Client

section Connect

variable (packExtendedInfo : RDPExtendedInfo → Bytes)

/-- `sendInfoPkt`: the record, with the extended block when the protocol
version is `RDP_VERSION_5_PLUS`, flagged `INFO_PKT`. -/
def sendInfoPkt (c : Client) : Effect :=
  .write (sendFlagged infoPkt
    (c.info.serialize packExtendedInfo (decide (c.clientCore.rdpVersion = rdpVersion5Plus))))

/-- `Client.connect`, on the MCS layer's `"connect"`: keep the core data and the
user id, take the id of the first channel named `"global"`, send the info
record, then arm `recvLicenceInfo` once. -/
def connect (c : Client) (clientCore : ClientCoreData) (userId : BitVec 16)
    (channels : List MCSChannelInfo) : Client × List Effect :=
  let c := { c with clientCore := clientCore, userId := userId,
                    channelId := ((channels.find? fun (ch : MCSChannelInfo) => ch.name = "global").map
                      MCSChannelInfo.id).getD c.channelId }
  ({ c with global := armOnce c.global .recvLicenceInfo }, [c.sendInfoPkt packExtendedInfo])

end Connect

/-- The `connect:` label: arm the persistent `recvData`, then emit `"connect"`. -/
def connected (c : Client) : Client × List Effect :=
  ({ c with global := armOn c.global .recvData },
    [.emit (.connect c.clientCore c.userId c.channelId)])

/-- The `retry:` label: arm `recvLicenceInfo` once more. -/
def retry (c : Client) : Client × List Effect :=
  ({ c with global := armOnce c.global .recvLicenceInfo }, [])

/-- `sendClientNewLicenseRequest` only logs, as `sendClientChallengeResponse` does. -/
def sendClientNewLicenseRequest : List Effect := []

def sendClientChallengeResponse : List Effect := []

section Licence

variable (readLicensePacket : Bytes → LicensePacket)

def recvLicenceInfo (c : Client) (s : Bytes) : Client × List Effect :=
  if (readSecurityHeader s).securityFlag &&& licensePkt ≤ 0 then
    (c, [.emit (.error "NODE_RDP_PROTOCOL_PDU_SEC_BAD_LICENSE_HEADER")])
  else
    let p := readLicensePacket (s.drop 4)
    if p.bMsgtype = newLicense then
      ((connected c).1, .emit .success :: (connected c).2)
    else if p.bMsgtype = errorAlert then
      if p.dwErrorCode = statusValidClient ∧ p.dwStateTransaction = stNoTransition then connected c
      else retry c
    else if p.bMsgtype = licenseRequest then
      ((retry c).1, sendClientNewLicenseRequest ++ (retry c).2)
    else if p.bMsgtype = platformChallenge then
      ((retry c).1, sendClientChallengeResponse ++ (retry c).2)
    else (c, [.emit (.error "Not a valid license packet")])

def recvData (c : Client) (s : Bytes) : Client × List Effect := (c, [.emit (.data s)])

def handle (c : Client) (s : Bytes) : Handler → Client × List Effect
  | .recvLicenceInfo => c.recvLicenceInfo readLicensePacket s
  | .recvData => c.recvData s

/-- The transport emits `"global"` with message `s`. -/
def onGlobal (c : Client) (s : Bytes) : Client × List Effect :=
  runAll (fun c h => c.handle readLicensePacket s h) { c with global := (fire c.global).2 }
    (fire c.global).1

def onGlobalAll : Client → List Bytes → Client × List Effect := runAll (onGlobal readLicensePacket)

end Licence

end Client

/-! ## The licence automaton -/

/-- What one licence message does to the phase, in the spec's terms. -/
inductive LicenceOutcome
  | retry
  | connect (success : Bool)
  | fail (message : String)
deriving DecidableEq, Repr

section Automaton

variable (readLicensePacket : Bytes → LicensePacket)

/-- What a message does to the licence phase: without `LICENSE_PKT`, or of a
type the client does not handle, it fails the phase; a new licence, or the
error alert saying the client is valid with no transition, connects it (with
`"success"` for the former); a request, a challenge or any other error alert
asks for one more message. -/
def licenceOutcome (s : Bytes) : LicenceOutcome :=
  if licenseFlagged s = false then
    .fail "NODE_RDP_PROTOCOL_PDU_SEC_BAD_LICENSE_HEADER"
  else
    let p := readLicensePacket (s.drop 4)
    if p.bMsgtype = newLicense then .connect true
    else if p.bMsgtype = errorAlert ∧ p.dwErrorCode = statusValidClient ∧
        p.dwStateTransaction = stNoTransition then .connect false
    else if p.bMsgtype ∈ [errorAlert, licenseRequest, platformChallenge] then .retry
    else .fail "Not a valid license packet"

/-- The three phases of `sec.Client` after `"connect"`. -/
inductive LicencePhase
  | licensing
  | connected
  | failed
deriving DecidableEq, Repr

def LicencePhase.listeners : LicencePhase → List (Listener Client.Handler)
  | .licensing => [⟨.recvLicenceInfo, true⟩]
  | .connected => [⟨.recvData, false⟩]
  | .failed => []

variable (connectEvent : Client.Event)

/-- One message in each phase: the next phase, and the events emitted. -/
def LicencePhase.next : LicencePhase → Bytes → LicencePhase × List Client.Event
  | .licensing, s =>
    match licenceOutcome readLicensePacket s with
    | .retry => (.licensing, [])
    | .connect success => (.connected, (if success then [.success] else []) ++ [connectEvent])
    | .fail message => (.failed, [.error message])
  | .connected, s => (.connected, [.data s])
  | .failed, _ => (.failed, [])

def LicencePhase.run : LicencePhase → List Bytes → LicencePhase × List Client.Event :=
  runAll (LicencePhase.next readLicensePacket connectEvent)

theorem LicencePhase.run_cons (p : LicencePhase) (m : Bytes) (ms : List Bytes) :
    LicencePhase.run readLicensePacket connectEvent p (m :: ms) =
      let r := p.next readLicensePacket connectEvent m
      ((r.1.run readLicensePacket connectEvent ms).1,
        r.2 ++ (r.1.run readLicensePacket connectEvent ms).2) :=
  runAll_cons _ _ _ _

theorem run_retries {pre : List Bytes} (h : ∀ m ∈ pre, licenceOutcome readLicensePacket m = .retry)
    (ms : List Bytes) :
    LicencePhase.run readLicensePacket connectEvent .licensing (pre ++ ms) =
      LicencePhase.run readLicensePacket connectEvent .licensing ms := by
  induction pre with
  | nil => rfl
  | cons m pre ih =>
    rw [List.cons_append, LicencePhase.run_cons, LicencePhase.next, h m (List.mem_cons_self _ _)]
    dsimp only
    rw [ih fun m' hm' => h m' (List.mem_cons_of_mem _ hm')]
    rfl

@[simp] theorem run_connected (ms : List Bytes) :
    LicencePhase.run readLicensePacket connectEvent .connected ms = (.connected, ms.map .data) := by
  induction ms with
  | nil => rfl
  | cons m ms ih => simp only [LicencePhase.run_cons, LicencePhase.next, ih]; rfl

@[simp] theorem run_failed (ms : List Bytes) :
    LicencePhase.run readLicensePacket connectEvent .failed ms = (.failed, []) := by
  induction ms with
  | nil => rfl
  | cons m ms ih => simp only [LicencePhase.run_cons, LicencePhase.next, ih]; rfl

end Automaton

/-! ## The client refines the automaton -/

namespace Client

variable (readLicensePacket : Bytes → LicensePacket)

theorem le_zero_iff_eq_zero (x : BitVec 16) : x ≤ 0 ↔ x = 0 := by
  rw [BitVec.le_def, BitVec.toNat_eq]
  simp

/-- `recvLicenceInfo` does what `licenceOutcome` says. -/
theorem recvLicenceInfo_eq (c : Client) (s : Bytes) :
    c.recvLicenceInfo readLicensePacket s =
      match licenceOutcome readLicensePacket s with
      | .retry => retry c
      | .connect success =>
        ((connected c).1, (if success then [.emit .success] else []) ++ (connected c).2)
      | .fail message => (c, [.emit (.error message)]) := by
  simp only [recvLicenceInfo, licenceOutcome, le_zero_iff_eq_zero, readSecurityHeader_licensePkt]
  split
  · rfl
  · generalize readLicensePacket (s.drop 4) = p
    obtain ⟨t, code, st⟩ := p
    by_cases hn : t = newLicense
    · simp only [hn, if_true]; rfl
    by_cases he : t = errorAlert
    · subst he
      by_cases hv : code = statusValidClient ∧ st = stNoTransition
      · simp only [hv, and_self, if_true, if_neg hn]; rfl
      · simp only [hv, if_false, if_neg hn, and_false, List.mem_cons, true_or, if_true]
    by_cases hr : t = licenseRequest
    · subst hr
      simp only [hn, he, if_false, false_and, List.mem_cons, true_or, or_true, if_true]; rfl
    by_cases hp : t = platformChallenge
    · subst hp
      simp only [hn, he, hr, if_false, false_and, List.mem_cons, true_or, or_true, if_true]; rfl
    · simp only [hn, he, hr, hp, if_false, false_and, List.mem_cons, List.not_mem_nil, or_self]

/-- The client `c₀` in phase `p`: its listeners on `"global"` are the phase's,
everything else as `c₀` left it. -/
def InPhase (c₀ : Client) (c : Client) (p : LicencePhase) : Prop :=
  c = { c₀ with global := p.listeners }

def connectEvent (c₀ : Client) : Event := .connect c₀.clientCore c₀.userId c₀.channelId

/-- One delivery on `"global"` does what one step of the automaton says. -/
theorem onGlobal_refines {c₀ c : Client} {p : LicencePhase} (h : InPhase c₀ c p) (s : Bytes) :
    InPhase c₀ (c.onGlobal readLicensePacket s).1
        (p.next readLicensePacket (connectEvent c₀) s).1 ∧
      (c.onGlobal readLicensePacket s).2 =
        (p.next readLicensePacket (connectEvent c₀) s).2.map .emit := by
  subst h
  cases p with
  | licensing =>
    simp only [onGlobal, LicencePhase.listeners, fire_once, runAll_cons, runAll_nil, handle,
      recvLicenceInfo_eq, LicencePhase.next, List.append_nil]
    cases licenceOutcome readLicensePacket s with
    | retry => exact ⟨rfl, rfl⟩
    | connect success => cases success <;> exact ⟨rfl, rfl⟩
    | fail message => exact ⟨rfl, rfl⟩
  | connected => exact ⟨rfl, rfl⟩
  | failed => exact ⟨rfl, rfl⟩

/-- Every run on `"global"` does what the automaton's run says. -/
theorem onGlobalAll_refines {c₀ c : Client} {p : LicencePhase} (h : InPhase c₀ c p)
    (ms : List Bytes) :
    InPhase c₀ (c.onGlobalAll readLicensePacket ms).1
        (p.run readLicensePacket (connectEvent c₀) ms).1 ∧
      (c.onGlobalAll readLicensePacket ms).2 =
        (p.run readLicensePacket (connectEvent c₀) ms).2.map .emit :=
  runAll_simulates (InPhase c₀) Effect.emit (fun _ _ s h => onGlobal_refines readLicensePacket h s)
    h ms

end Client

theorem licence_phase_run (packExtendedInfo : RDPExtendedInfo → Bytes)
    (readLicensePacket : Bytes → LicensePacket) (clientCore : ClientCoreData) (userId : BitVec 16)
    (channels : List MCSChannelInfo) (ms : List Bytes) :
    let c := (Client.new.connect packExtendedInfo clientCore userId channels).1
    let r := c.onGlobalAll readLicensePacket ms
    ((∀ m ∈ ms, licenceOutcome readLicensePacket m = .retry) →
        r.2 = [] ∧ r.1.global = [⟨.recvLicenceInfo, true⟩]) ∧
      ∀ pre mj post, ms = pre ++ mj :: post →
        (∀ m ∈ pre, licenceOutcome readLicensePacket m = .retry) →
        (∀ success, licenceOutcome readLicensePacket mj = .connect success →
          r.2 = ((if success then [Client.Event.success] else []) ++
            Client.Event.connect clientCore userId c.channelId :: post.map .data).map .emit) ∧
        (∀ message, licenceOutcome readLicensePacket mj = .fail message →
          r.2 = [.emit (.error message)]) := by
  intro c r
  have href := Client.onGlobalAll_refines readLicensePacket
    (show Client.InPhase c c .licensing from rfl) ms
  refine ⟨fun hall => ?_, fun pre mj post hms hpre => ?_⟩
  · rw [← List.append_nil ms, run_retries _ _ hall, List.append_nil] at href
    exact ⟨href.2, by rw [href.1]; rfl⟩
  · subst hms
    rw [run_retries _ _ hpre, LicencePhase.run_cons, LicencePhase.next] at href
    refine ⟨fun success hs => ?_, fun message hm => ?_⟩
    · simpa [hs] using href.2
    · simpa [hm] using href.2

/-- After `"connect"`, whatever arrives on `"global"`, the client writes nothing
to its transport: licence requests and platform challenges go unanswered, and
every effect is an event. -/
theorem licence_run_writes_nothing (packExtendedInfo : RDPExtendedInfo → Bytes)
    (readLicensePacket : Bytes → LicensePacket) (clientCore : ClientCoreData) (userId : BitVec 16)
    (channels : List MCSChannelInfo) (ms : List Bytes) :
    ∀ e ∈ ((Client.new.connect packExtendedInfo clientCore userId channels).1.onGlobalAll
        readLicensePacket ms).2, ∃ ev, e = .emit ev := by
  intro e he
  let c := (Client.new.connect packExtendedInfo clientCore userId channels).1
  rw [(Client.onGlobalAll_refines readLicensePacket (show Client.InPhase c c .licensing from rfl)
    ms).2] at he
  obtain ⟨ev, -, rfl⟩ := List.mem_map.mp he
  exact ⟨ev, rfl⟩

/-- A new licence, then one message: what the client does with the message is
an event. -/
theorem licence_run_writes_nothing_new_licence :
    Client.Effect.emit (.data [9]) ∈ ((Client.new.connect (fun _ => []) ⟨0⟩ 7 []).1.onGlobalAll
        (fun s => ⟨s.headD 0, 0, 0⟩) [[0x80, 0, 0, 0, 0x03], [9]]).2 ∧
      ∃ ev, Client.Effect.emit (.data [9]) = .emit ev :=
  ⟨by decide, licence_run_writes_nothing (fun _ => []) (fun s => ⟨s.headD 0, 0, 0⟩) ⟨0⟩ 7 []
    [[0x80, 0, 0, 0, 0x03], [9]] _ (by decide)⟩

/-- A platform challenge, a licence request, a new licence, then one message:
the client connects with `"success"` and forwards the last message. The
decoder reads the type from the byte after the security header. -/
theorem licence_phase_run_challenge_request_new :
    (∀ m ∈ [[0x80, 0, 0, 0, 0x02], [0x80, 0, 0, 0, 0x01]],
        licenceOutcome (fun s => ⟨s.headD 0, 0, 0⟩) m = .retry) ∧
      licenceOutcome (fun s => ⟨s.headD 0, 0, 0⟩) [0x80, 0, 0, 0, 0x03] = .connect true ∧
      ((Client.new.connect (fun _ => []) ⟨rdpVersion5Plus⟩ 1007
          [⟨1003, "global"⟩]).1.onGlobalAll (fun s => ⟨s.headD 0, 0, 0⟩)
          [[0x80, 0, 0, 0, 0x02], [0x80, 0, 0, 0, 0x01], [0x80, 0, 0, 0, 0x03], [9, 9]]).2 =
        [.emit .success, .emit (.connect ⟨rdpVersion5Plus⟩ 1007 1003), .emit (.data [9, 9])] :=
  ⟨by decide, by decide,
    ((licence_phase_run (fun _ => []) (fun s => ⟨s.headD 0, 0, 0⟩) ⟨rdpVersion5Plus⟩ 1007
      [⟨1003, "global"⟩]
      [[0x80, 0, 0, 0, 0x02], [0x80, 0, 0, 0, 0x01], [0x80, 0, 0, 0, 0x03], [9, 9]]).2
      [[0x80, 0, 0, 0, 0x02], [0x80, 0, 0, 0, 0x01]] [0x80, 0, 0, 0, 0x03] [[9, 9]] rfl
      (by decide)).1 true (by decide)⟩

end RdpPortscan
