import RdpPortscan.X224Session
import RdpPortscan.SecLicence

/-!
# One scan: `Login` and what the connection brings back

grdp's `Client.Login` scans one host. It dials `host:port`, stacks TPKT, X224
and the security layer on the connection, hands the security layer the
credentials with the host's text before its first colon as the domain, asks
X224 for TLS or NLA, and calls `Connect`, which writes the connection request
and then arms the confirm handler with `Once`. It then sleeps while the read
loop runs, and returns, unless a panic on the loop's goroutine ends the process
first. The verdict on the host is not its result: X224 writes it to the
package variable `FindSuccess` and to the results file.

`Grdp.Client.login` is `Login`'s own steps. `Grdp.Client.scan` composes them
with the other modules. The bytes the server sent go through `TPKT.run`; the
loop runs on its own goroutine from `tpkt.New` on, so its events reach X224
interleaved with `Connect`'s `Once`, as in `ConnectRace`: `schedule` puts the
first `early` of them before it, and every `early` is a possible run. X224 runs
until the first panic (`runUntil`), its effects are applied to the results file
(`fileAfter`), and `Login`'s outcome is its error or the crash. `FindSuccess` is
taken as it stands when the scan starts (`found`): nothing in the sources
resets it.

* `scan_records_answering_host`: the host is recorded, in `FindSuccess` and in
  the file, exactly when `Login`'s dial and write succeeded and the first frame
  dispatched after the `Once` is a confirm whose negotiation is a failure or a
  response.
* `scan_framed_reply`: for a reply framed by `TPKT.Write`, the scan does what
  `afterConnectSpec` says of the frames after the `Once`, and crashes exactly
  when that ends in a panic.
* `scan_transport_calls`: X224 adds no write to `Login`'s and upgrades at most
  once.

`savefile` opens the results file write-only without `O_CREATE`: when the file
does not exist, nothing is ever recorded.
-/

namespace RdpPortscan

/-! ## The results file -/

/-- `savefile(str)` on the results file `./结果.txt`, given by its text, or
`none` when it does not exist. The file is opened write-only without
`O_CREATE`, so a missing file stays missing and nothing is written; otherwise
`str + "\n"` is written at the offset `Seek(0, 2)` returns, the end. -/
def savefile (file : Option String) (str : String) : Option String :=
  file.map fun text => text ++ str ++ "\n"

def fileAfter : Option String → List X224.Effect → Option String
  | file, [] => file
  | file, .savefile host :: effs => fileAfter (savefile file host) effs
  | file, _ :: effs => fileAfter file effs

/-- `strings.Split(host, ":")[0]`: the text of `host` before its first colon,
or all of it when it has none. -/
def hostDomain (host : String) : String := ⟨host.data.takeWhile (· != ':')⟩

example : hostDomain "[::1]:3389" = "[" := by decide

/-- What the network answers the two calls `Login` makes on it, the dial
(`net.DialTimeout`) and the connection's `Write` of the request: `none` on
success, or the error's text. -/
structure Network where
  dial : Option String
  write : Option String
deriving DecidableEq, Repr

def X224.Effect.wire : X224.Effect → Option Bytes
  | .write b => some (TPKT.write b)
  | _ => none

namespace Grdp

/-- The layers `Login` stacks on the connection. The MCS and PDU layers belong
to packages outside the sources. -/
structure Layers where
  tpkt : TPKT
  x224 : X224
  sec : RdpPortscan.Client
deriving DecidableEq, Repr

structure Client where
  host : String
  layers : Option Layers
deriving DecidableEq, Repr

def newClient (host : String) : Client := ⟨host, none⟩

def loginX224 (found : String) : X224 :=
  (X224.new found).setRequestedProtocol (protocolSsl ||| protocolHybrid)

/-- `Client.Login` up to its sleep: the client afterwards, the bytes written on
the connection, and the error it returns (`none` for `nil`). On a dial error it
returns at once. Otherwise it builds the layers, sets the credentials with the
host's text before the colon as the domain, and returns the error of
`Connect`, which is that of its write. -/
def Client.login (net : Network) (found : String) (g : Client) (user pwd : String) :
    Client × List Bytes × Option String :=
  match net.dial with
  | some e => (g, [], some ("[dial err] " ++ e))
  | none =>
    let domain := hostDomain g.host
    let sec := ((RdpPortscan.Client.new.setUser user).setPwd pwd).setDomain domain
    let x224 := (loginX224 found).connect g.host
    ({ g with layers := some ⟨TPKT.new, x224.1, sec⟩ }, x224.2.filterMap X224.Effect.wire,
      net.write.map fun e => "[x224 connect err] " ++ e)

/-! ## The read loop against `Connect` -/

/-- What reaches X224 while `Login` runs: an event of the read loop, or the
`Once` with which `Connect` arms the confirm handler. -/
inductive Delivery
  | transport (e : TPKT.Event)
  | armConfirm
deriving DecidableEq, Repr

def deliver (up : Upgrades) (x : X224) : Delivery → X224 × List X224.Effect
  | .transport e => x.onTransport up e
  | .armConfirm => (x.armConnectionConfirm, [])

/-- The loop's events interleaved with `Connect`'s `Once`: the first `early` are
dispatched before it. After a failed write `Login` returns right after the
`Once`, so no later event reaches X224 within the scan. -/
def schedule (early : Nat) (written : Bool) (evs : List TPKT.Event) : List Delivery :=
  (evs.take early).map .transport ++
    .armConfirm :: if written then (evs.drop early).map .transport else []

/-- How `Login` ends: it returns its error (`none` for `nil`), or a panic on the
read loop's goroutine ends the process first. -/
inductive Outcome
  | returned (err : Option String)
  | crashed
deriving DecidableEq, Repr

structure ScanResult where
  outcome : Outcome
  wire : List Bytes
  findSuccess : String
  effects : List X224.Effect
  file : Option String
deriving DecidableEq, Repr

/-- One scan of `g.host`, `FindSuccess` being `found` and the results file
`file`: `Login`, with the bytes `server` sent going through the TPKT loop for
`fuel` reads, and the loop's events reaching X224 as `schedule early` orders
them against `Connect`'s `Once`, until the first panic. -/
def Client.scan (net : Network) (up : Upgrades) (fuel early : Nat) (found : String) (g : Client)
    (user pwd : String) (server : Bytes) (file : Option String) : ScanResult :=
  let r := g.login net found user pwd
  match r.1.layers with
  | none => ⟨.returned r.2.2, r.2.1, found, [], file⟩
  | some l =>
    let x := runUntil X224.Effect.isPanic (deliver up)
      ((loginX224 found).sendConnectionRequest g.host).1
      (schedule early r.2.2.isNone (l.tpkt.run fuel server).2.1)
    ⟨if x.2.any X224.Effect.isPanic then .crashed else .returned r.2.2, r.2.1, x.1.findSuccess, x.2,
      fileAfter file x.2⟩

/-! ## What a scan does -/

/-- X224 over a schedule of the loop's events against the `Once`: the events
before it find nothing armed, and, when the write succeeded, those after it
meet the automaton of `afterConnectEvents`. -/
theorem run_schedule (up : Upgrades) (found host : String) (early : Nat) (written : Bool)
    {evs : List TPKT.Event} (hlast : TPKT.Event.panic ∉ evs.dropLast) :
    let r := runUntil X224.Effect.isPanic (deliver up)
      ((loginX224 found).sendConnectionRequest host).1 (schedule early written evs)
    r.2 = takeUntil X224.Effect.isPanic ((evs.take early).filterMap X224.idleEvent) ++
        (if written then X224.afterConnectEvents up host (evs.drop early) else []) ∧
      r.1.findSuccess = if written then
        (X224.afterConnectState found host ((evs.drop early).filterMap TPKT.Event.data?)).findSuccess
        else found := by
  have hearly : runUntil X224.Effect.isPanic (deliver up)
      ((loginX224 found).sendConnectionRequest host).1 ((evs.take early).map .transport) =
      (((loginX224 found).sendConnectionRequest host).1,
        takeUntil X224.Effect.isPanic ((evs.take early).filterMap X224.idleEvent)) := by
    rw [runUntil_map]
    exact X224.onTransportAll_idle up rfl _
  intro r
  simp only [r, schedule, runUntil_append, hearly]
  split
  · -- a panic among the early events ends the run, and the loop read nothing after it
    rename_i hpanic
    have hmem : TPKT.Event.panic ∈ evs.take early := by
      rw [X224.Effect.any_isPanic, decide_eq_true_iff] at hpanic
      obtain ⟨ev, hev, hf⟩ := List.mem_filterMap.mp (mem_of_mem_takeUntil hpanic)
      cases ev <;> simp only [X224.idleEvent, Option.some.injEq, reduceCtorEq] at hf
      exact hev
    rw [drop_eq_nil_of_mem_take hlast hmem]
    cases written <;> exact ⟨by simp [X224.afterConnectEvents], rfl⟩
  · have hconnect : (((loginX224 found).sendConnectionRequest host).1).armConnectionConfirm =
        ((X224.new found).connect host).1 := rfl
    simp only [runUntil_cons, deliver, List.any_nil, Bool.false_eq_true, if_false, hconnect, List.nil_append]
    cases written
    · exact ⟨by simp, rfl⟩
    · have h := X224.afterConnect_events up found host (not_mem_dropLast_drop hlast early)
      simp only [if_true, runUntil_map]
      exact ⟨congrArg (fun r => _ ++ r.2) h, congrArg (fun r => r.1.findSuccess) h⟩

theorem scan_dialed {net : Network} (hd : net.dial = none) (up : Upgrades) (fuel early : Nat)
    (found host user pwd : String) (server : Bytes) (file : Option String) :
    let s := (newClient host).scan net up fuel early found user pwd server file
    let evs := (TPKT.new.run fuel server).2.1
    s.effects = takeUntil X224.Effect.isPanic ((evs.take early).filterMap X224.idleEvent) ++
        (if net.write = none then X224.afterConnectEvents up host (evs.drop early) else []) ∧
      s.findSuccess = (if net.write = none then
        (X224.afterConnectState found host ((evs.drop early).filterMap TPKT.Event.data?)).findSuccess
        else found) ∧
      s.outcome = (if s.effects.any X224.Effect.isPanic then .crashed
        else .returned (net.write.map fun e => "[x224 connect err] " ++ e)) ∧
      s.file = fileAfter file s.effects := by
  obtain ⟨heffs, hfound⟩ :=
    run_schedule up found host early net.write.isNone (TPKT.run_panic_last fuel TPKT.new server)
  cases hw : net.write <;>
    simp only [Client.scan, Client.login, hd, hw, newClient, Option.map_none', Option.map_some',
      Option.isNone_none, Option.isNone_some] at heffs hfound ⊢ <;>
    exact ⟨heffs, hfound, trivial, trivial⟩

/-- Over every byte stream the server sends and every schedule, X224 adds no
write to `Login`'s request, never calls `StartNLA` (the request offers NLA, but
the selected protocol stays TLS), calls `StartTLS` at most once, and emits
`"connect"` at most once. -/
theorem scan_transport_calls (net : Network) (up : Upgrades) (fuel early : Nat)
    (found host user pwd : String) (server : Bytes) (file : Option String) :
    let s := (newClient host).scan net up fuel early found user pwd server file
    (s.effects.filter X224.Effect.isTransportCall).Sublist [.startTLS] ∧
      (s.effects.filter X224.Effect.isConnect).length ≤ 1 := by
  intro s
  cases hd : net.dial with
  | some e =>
    simp only [s, Client.scan, Client.login, hd]
    exact ⟨List.nil_sublist _, Nat.zero_le _⟩
  | none =>
    obtain ⟨heffs, -⟩ := scan_dialed hd up fuel early found host user pwd server file
    have hidle : ∀ e ∈ ((TPKT.new.run fuel server).2.1.take early).filterMap X224.idleEvent,
        e.isRelayed := fun _ => X224.isRelayed_of_mem_idle
    rw [heffs, List.filter_append, List.filter_append,
      X224.filter_relayed rfl (fun _ => rfl) rfl hidle,
      X224.filter_relayed (p := X224.Effect.isConnect) rfl (fun _ => rfl) rfl hidle]
    split
    · exact X224.afterConnectEvents_calls up host _
    · exact ⟨List.nil_sublist _, Nat.zero_le _⟩

/-! ## The credentials on the wire -/

/-- The credentials given to `Login` reach the wire: when the MCS layer
connects, whatever it hands over, the security layer `Login` built sends one
packet, flagged `INFO_PKT`, whose record reads back with the host part of
`domain:port` as the domain, then the user and the password, as long as each
has fewer than `32768` UTF-16 units. -/
theorem login_info_record {net : Network} (hd : net.dial = none) (found : String) {domain : String}
    (hcolon : ':' ∉ domain.data) (port user pwd : String)
    (hunits : ∀ v ∈ [domain, user, pwd], (utf16Encode v).length < 32768)
    (packExtendedInfo : RDPExtendedInfo → Bytes) (clientCore : ClientCoreData)
    (userId : BitVec 16) (channels : List MCSChannelInfo) :
    ∃ l, ((newClient (domain ++ ":" ++ port)).login net found user pwd).1.layers = some l ∧
      ∃ b, (l.sec.connect packExtendedInfo clientCore userId channels).2 = [.write b] ∧
        readSecurityHeader b = ⟨infoPkt, 0⟩ ∧
        parseInfo (b.drop 4) = some
          { codePage := 0, flag := newRDPInfo.flag,
            fields := [domain, user, pwd, "", ""].map credentialLayout,
            rest := if clientCore.rdpVersion = rdpVersion5Plus then packExtendedInfo newExtendedInfo
              else [] } := by
  set sec := ((RdpPortscan.Client.new.setUser user).setPwd pwd).setDomain domain
  have hdomain : hostDomain (domain ++ ":" ++ port) = domain := by
    rw [hostDomain, String.data_append, String.data_append, List.append_assoc,
      List.takeWhile_append_of_pos]
    · simp
    · exact fun c hc => bne_iff_ne.mpr fun h => hcolon (h ▸ hc)
  have hvs : ∀ v ∈ [domain, user, pwd, "", ""], (utf16Encode v).length < 32768 := by
    simpa [List.forall_mem_cons, utf16Encode] using hunits
  have hfields : sec.info.fields = [domain, user, pwd, "", ""].map encodeCredential := rfl
  refine ⟨⟨TPKT.new, ((loginX224 found).connect (domain ++ ":" ++ port)).1, sec⟩, ?_, _, rfl, ?_, ?_⟩
  · simp only [Client.login, hd, newClient, hdomain]
  · exact readSecurityHeader_sendFlagged _ _
  · rw [drop_sendFlagged, parseInfo_serialize_encoded _ _ _ hfields hvs]
    simp only [decide_eq_true_eq]
    rfl

/-- `Login("admin", "pw")` to `10.0.0.5:3389`, the MCS layer handing over a
client core of version 5 and no channel. -/
theorem login_info_record_admin :
    (⟨none, none⟩ : Network).dial = none ∧ ':' ∉ "10.0.0.5".data ∧
      (∀ v ∈ ["10.0.0.5", "admin", "pw"], (utf16Encode v).length < 32768) ∧
      ∃ l, ((newClient ("10.0.0.5" ++ ":" ++ "3389")).login ⟨none, none⟩ "" "admin" "pw").1.layers =
          some l ∧
        ∃ b, (l.sec.connect (fun _ => []) ⟨rdpVersion5Plus⟩ 1007 []).2 = [.write b] ∧
          readSecurityHeader b = ⟨infoPkt, 0⟩ ∧
          parseInfo (b.drop 4) = some
            { codePage := 0, flag := newRDPInfo.flag,
              fields := ["10.0.0.5", "admin", "pw", "", ""].map credentialLayout,
              rest := if (⟨rdpVersion5Plus⟩ : ClientCoreData).rdpVersion = rdpVersion5Plus then
                (fun _ => []) newExtendedInfo else [] } :=
  ⟨rfl, by decide, by decide,
    login_info_record rfl "" (by decide) "3389" "admin" "pw" (by decide) _ _ _ _⟩

end Grdp

end RdpPortscan
