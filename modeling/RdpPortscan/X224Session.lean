import RdpPortscan.X224

/-!
# TPKT and X224 together

The X224 automaton sits on the TPKT loop: every `"data"` event of the loop is
delivered to the handlers X224 has armed at that moment. Since no X224 handler
touches the loop's own state, a run of the pair is the loop's run followed by
X224's reaction to the loop's events in order (`X224.onTransportAll`), up to the
first panic, which ends the process.

Outside the wait for the confirm X224 keeps its state: idle it only forwards
errors, relaying it also strips every frame (`idleEvent`, `relayEvent`). The
first section composes the framing round trip with the relay handler: once X224
relays data, whatever it writes comes back out of the pair unchanged. The
second follows X224 from `Connect` over any events the transport delivers:
errors are forwarded throughout, fast-path frames never reach it, the first
frame is taken as the confirm, and the rest are relayed exactly when the
confirm armed `recvData`, which the code does before the TLS upgrade is tried,
until a frame too short for its data header panics. `afterConnectState` and
`afterConnectEvents` say this of every sequence of events (`afterConnectSpec` of
every sequence of frames), and `afterConnect_events` shows the automaton does
it; the scanner's verdict on a host and the pipeline from bytes on the wire
follow from it.
-/

namespace RdpPortscan

namespace X224

/-! ## One event outside the wait for the confirm -/

/-- What relaying does with one frame: strip the data header, or panic on a
frame too short for `s[3:]`. -/
def relay (s : Bytes) : Effect := if 3 ≤ s.length then .emit (.data (s.drop 3)) else .panic

/-- What X224 does with a transport event when nothing is armed: `x224.New`
forwards `"error"`, frames find no handler, and a panic of the loop ends the
process. -/
def idleEvent : TPKT.Event → Option Effect
  | .error => some (.emit .error)
  | .panic => some .panic
  | _ => none

/-- What X224 does with a transport event while relaying. Fast-path frames go
to the fast-path listener and never reach X224. -/
def relayEvent : TPKT.Event → Option Effect
  | .data s => some (relay s)
  | e => idleEvent e

/-- X224 relays data: its only listener on the transport is the persistent
`recvData`. -/
def Relaying (x : X224) : Prop := x.transportData = [⟨.recvData, false⟩]

/-- The effects of an idle or relaying X224: a forwarded error, a relayed
frame, or a panic. -/
def Effect.isRelayed : Effect → Bool
  | .emit .error | .emit (.data _) | .panic => true
  | _ => false

theorem onTransport_idle (up : Upgrades) {x : X224} (hx : x.transportData = []) (e : TPKT.Event) :
    x.onTransport up e = (x, (idleEvent e).toList) := by
  have hx' : { x with transportData := [] } = x := by rw [← hx]
  cases e <;> simp [onTransport, onTransportData, hx, hx', idleEvent]

theorem onTransport_relaying (up : Upgrades) {x : X224} (hx : x.Relaying) (e : TPKT.Event) :
    x.onTransport up e = (x, (relayEvent e).toList) := by
  unfold Relaying at hx
  have hx' : { x with transportData := [⟨.recvData, false⟩] } = x := by rw [← hx]
  cases e with
  | data s =>
    simp only [onTransport, onTransportData, hx, fire_on, hx', runUntil_singleton, handle,
      recvData_eq, relayEvent, relay]
    split <;> rfl
  | _ => rfl

theorem onTransportAll_idle (up : Upgrades) {x : X224} (hx : x.transportData = [])
    (es : List TPKT.Event) :
    onTransportAll up x es = (x, takeUntil Effect.isPanic (es.filterMap idleEvent)) :=
  runUntil_stateless (onTransport_idle up hx) es

theorem onTransportAll_relaying_events (up : Upgrades) {x : X224} (hx : x.Relaying)
    (es : List TPKT.Event) :
    onTransportAll up x es = (x, takeUntil Effect.isPanic (es.filterMap relayEvent)) :=
  runUntil_stateless (onTransport_relaying up hx) es

theorem relay_isRelayed (s : Bytes) : (relay s).isRelayed := by
  unfold relay; split <;> rfl

theorem isRelayed_of_idleEvent {ev : TPKT.Event} {e : Effect} (h : idleEvent ev = some e) :
    e.isRelayed := by
  cases ev <;> simp only [idleEvent, Option.some.injEq, reduceCtorEq] at h <;> rw [← h] <;> rfl

theorem isRelayed_of_relayEvent {ev : TPKT.Event} {e : Effect} (h : relayEvent ev = some e) :
    e.isRelayed := by
  cases ev with
  | data s => rw [← Option.some.inj h]; exact relay_isRelayed s
  | _ => dsimp only [relayEvent] at h; exact isRelayed_of_idleEvent h

theorem isRelayed_of_mem_relay {e : Effect} {es : List TPKT.Event}
    (h : e ∈ es.filterMap relayEvent) : e.isRelayed :=
  let ⟨_, _, h⟩ := List.mem_filterMap.mp h
  isRelayed_of_relayEvent h

theorem isRelayed_of_mem_idle {e : Effect} {es : List TPKT.Event}
    (h : e ∈ es.filterMap idleEvent) : e.isRelayed :=
  let ⟨_, _, h⟩ := List.mem_filterMap.mp h
  isRelayed_of_idleEvent h

/-- A test that holds of no forwarded error, relayed frame or panic keeps
nothing of what an idle or relaying X224 does. -/
theorem filter_relayed {p : Effect → Bool} (herr : p (.emit .error) = false)
    (hdata : ∀ q, p (.emit (.data q)) = false) (hpanic : p .panic = false) {effs : List Effect}
    (h : ∀ e ∈ effs, e.isRelayed) : (takeUntil Effect.isPanic effs).filter p = [] :=
  List.filter_eq_nil_iff.mpr fun e he => by
    have := h e (mem_of_mem_takeUntil he)
    cases e with
    | emit ev => cases ev <;> simp_all [Effect.isRelayed]
    | panic => simp [hpanic]
    | _ => simp [Effect.isRelayed] at this

/-- In the relaying state, the frames written by `X224.Write` come back as one
`"data"` event each, carrying what was written. -/
theorem onTransportAll_relaying (up : Upgrades) {x : X224} (hx : x.Relaying) (qs : List Bytes) :
    onTransportAll up x (qs.map fun q => .data (x.write q)) = (x, qs.map fun q => .emit (.data q)) := by
  have hrelay : (relayEvent ∘ fun q => TPKT.Event.data (x.write q)) =
      some ∘ fun q => Effect.emit (.data q) :=
    funext fun q => by simp [relayEvent, relay, write, DataHeader.pack]
  rw [onTransportAll_relaying_events up hx, List.filterMap_map, hrelay, List.filterMap_eq_map,
    takeUntil_of_forall (by simp [Effect.isPanic])]

end X224

theorem stream_round_trip :
    (∀ frames : List Frame, (∀ fr ∈ frames, fr.Fits) → ∀ fuel, 3 * frames.length ≤ fuel →
      TPKT.new.run fuel (frames.flatMap Frame.bytes) =
        (TPKT.waitHeader (frames.foldl Frame.secFlagAfter 0), frames.map Frame.event, [])) ∧
    (∀ (up : Upgrades) (x : X224) (qs : List Bytes), x.Relaying → (∀ q ∈ qs, q.length ≤ 65528) →
      ∀ fuel, 3 * qs.length ≤ fuel →
        X224.onTransportAll up x
            (TPKT.new.run fuel (qs.flatMap fun q => TPKT.write (x.write q))).2.1 =
          (x, qs.map fun q => .emit (.data q))) := by
  refine ⟨fun frames hfit fuel hfuel => TPKT.run_frames frames hfit 0 fuel hfuel, ?_⟩
  intro up x qs hx hq fuel hfuel
  have hbytes : qs.flatMap (fun q => TPKT.write (x.write q)) =
      (qs.map fun q => Frame.write (x.write q)).flatMap Frame.bytes := by
    simp [List.flatMap, Function.comp_def, Frame.bytes]
  have hfit : ∀ fr ∈ qs.map (fun q => Frame.write (x.write q)), fr.Fits := by
    simp only [List.mem_map]
    rintro _ ⟨q, hmem, rfl⟩
    simp [Frame.Fits, X224.write]
    have := hq q hmem
    omega
  rw [TPKT.new_eq, hbytes, TPKT.run_frames _ hfit 0 fuel (by simpa using hfuel)]
  simpa [Frame.event] using X224.onTransportAll_relaying up hx qs

/-- Two frames through the pair: a slow-path frame and a fast-path frame with
flags `0xC1`, then one X224 write through a relaying X224. -/
theorem stream_round_trip_two_frames :
    TPKT.new.run 6 ([Frame.write [7], Frame.sendFastPath 0xC1 [8, 9]].flatMap Frame.bytes) =
        (TPKT.waitHeader ([Frame.write [7], Frame.sendFastPath 0xC1 [8, 9]].foldl
          Frame.secFlagAfter 0), [Frame.write [7], Frame.sendFastPath 0xC1 [8, 9]].map Frame.event,
          []) ∧
      X224.onTransportAll ⟨false, false⟩ { X224.new "" with transportData := [⟨.recvData, false⟩] }
          (TPKT.new.run 3 ([[5]].flatMap fun q =>
            TPKT.write ({ X224.new "" with transportData := [⟨.recvData, false⟩] }.write q))).2.1 =
        ({ X224.new "" with transportData := [⟨.recvData, false⟩] },
          [[5]].map fun q => .emit (.data q)) :=
  ⟨stream_round_trip.1 _ (by decide) 6 (by decide),
    stream_round_trip.2 ⟨false, false⟩ { X224.new "" with transportData := [⟨.recvData, false⟩] }
      [[5]] rfl (by decide) 3 (by decide)⟩

namespace X224

/-! ## From `Connect` on -/

/-- What the code's branches make of the frames the transport delivers after
`Connect`, TLS being the selected protocol: the first frame is taken as the
confirm; unless it is a negotiation failure or response, `recvData` is armed and
`StartTLS` called, and every later frame is relayed whatever `StartTLS`
answered, until one too short for its data header panics. -/
def afterConnectSpec (up : Upgrades) (host : String) : List Bytes → List Effect
  | [] => []
  | cc :: rest =>
    match ServerConnectionConfirm.unpack cc with
    | none => []
    | some m =>
      if m.protocolNeg.type = typeRdpNegFailure ∨ m.protocolNeg.type = typeRdpNegRsp then
        [.savefile host]
      else
        (.startTLS :: if up.startTLS then [.emit (.connect protocolSsl)] else []) ++
          takeUntil Effect.isPanic (rest.map relay)

/-- The state those branches leave X224 in, `FindSuccess` having been `found`:
after the confirm nothing is armed, or, past the negotiation check, the relay
handler; the host is recorded when the negotiation is a failure or a response. -/
def afterConnectState (found host : String) : List Bytes → X224
  | [] => ((X224.new found).connect host).1
  | cc :: _ =>
    let x := { ((X224.new found).connect host).1 with transportData := [] }
    match ServerConnectionConfirm.unpack cc with
    | none => x
    | some m =>
      if m.protocolNeg.type = typeRdpNegFailure ∨ m.protocolNeg.type = typeRdpNegRsp then
        { x with findSuccess := host }
      else { x with transportData := armOn [] .recvData }

/-- `afterConnectSpec` over every sequence of transport events: errors are
forwarded throughout, fast-path frames never reach X224, the first `"data"`
frame is taken as the confirm, and a panic ends it all. -/
def afterConnectEvents (up : Upgrades) (host : String) : List TPKT.Event → List Effect
  | [] => []
  | .error :: es => .emit .error :: afterConnectEvents up host es
  | .recvFastPath _ _ :: es => afterConnectEvents up host es
  | .panic :: _ => [.panic]
  | .data cc :: es =>
    match ServerConnectionConfirm.unpack cc with
    | none => takeUntil Effect.isPanic (es.filterMap idleEvent)
    | some m =>
      if m.protocolNeg.type = typeRdpNegFailure ∨ m.protocolNeg.type = typeRdpNegRsp then
        .savefile host :: takeUntil Effect.isPanic (es.filterMap idleEvent)
      else
        (.startTLS :: if up.startTLS then [.emit (.connect protocolSsl)] else []) ++
          takeUntil Effect.isPanic (es.filterMap relayEvent)

/-- X224 after `Connect` does what `afterConnectState` and `afterConnectEvents`
say, over every sequence of transport events whose only panic, if any, ends it,
and either upgrade outcome: its state depends on the first frame only. -/
theorem afterConnect_events (up : Upgrades) (found host : String) {es : List TPKT.Event}
    (hlast : TPKT.Event.panic ∉ es.dropLast) :
    onTransportAll up ((X224.new found).connect host).1 es =
      (afterConnectState found host (es.filterMap TPKT.Event.data?), afterConnectEvents up host es) := by
  induction es with
  | nil => rfl
  | cons e es ih =>
    have ih := ih (not_mem_dropLast_of_cons hlast)
    cases e with
    | error => simp only [onTransportAll_cons, onTransport, ih]; rfl
    | recvFastPath => simp only [onTransportAll_cons, onTransport, ih]; rfl
    | panic =>
      cases es with
      | nil => rfl
      | cons _ _ => exact absurd (List.mem_cons_self _ _) hlast
    | data cc =>
      have hfire : fire ((X224.new found).connect host).1.transportData =
          ([.recvConnectionConfirm], []) := rfl
      have hconfirm : ((X224.new found).connect host).1.onTransport up (.data cc) =
          { ((X224.new found).connect host).1 with transportData := [] }.recvConnectionConfirm up cc := by
        simp only [onTransport, onTransportData, hfire, runUntil_singleton]; rfl
      rw [onTransportAll_cons, List.filterMap_cons, TPKT.Event.data?, hconfirm,
        recvConnectionConfirm_ssl up rfl]
      cases hu : ServerConnectionConfirm.unpack cc with
      | none =>
        simp only [hu, afterConnectState, afterConnectEvents, List.any_nil, Bool.false_eq_true,
          if_false, List.nil_append, onTransportAll_idle up]
      | some m =>
        by_cases hm : m.protocolNeg.type = typeRdpNegFailure ∨ m.protocolNeg.type = typeRdpNegRsp
        · simp only [hu, hm, if_true, afterConnectState, afterConnectEvents, List.any_cons,
            List.any_nil, Effect.isPanic, Bool.or_false, Bool.false_eq_true, if_false,
            onTransportAll_idle up]
          rfl
        · simp only [hu, hm, if_false, afterConnectState, afterConnectEvents]
          rw [if_neg (by cases up.startTLS <;> decide)]
          simp only [onTransportAll_relaying_events up, Relaying, armOn, List.nil_append]

theorem afterConnectEvents_data (up : Upgrades) (host : String) (frames : List Bytes) :
    afterConnectEvents up host (frames.map .data) = afterConnectSpec up host frames := by
  cases frames with
  | nil => rfl
  | cons cc rest =>
    have hidle : (rest.map TPKT.Event.data).filterMap idleEvent = [] := by
      simp [List.filterMap_map, idleEvent]
    have hrelay : (rest.map TPKT.Event.data).filterMap relayEvent = rest.map relay := by
      rw [List.filterMap_map]
      exact congrFun (List.filterMap_eq_map relay) rest
    simp only [List.map_cons, afterConnectEvents, afterConnectSpec, hidle, hrelay, takeUntil]

/-- X224 after `Connect` does what `afterConnectState` and `afterConnectSpec`
say, over every sequence of frames and either upgrade outcome. -/
theorem afterConnect_run (up : Upgrades) (found host : String) (frames : List Bytes) :
    onTransportAll up ((X224.new found).connect host).1 (frames.map .data) =
      (afterConnectState found host frames, afterConnectSpec up host frames) := by
  rw [afterConnect_events up found host fun h => by simpa using List.dropLast_subset _ h,
    afterConnectEvents_data]
  simp [List.filterMap_map, Function.comp_def, TPKT.Event.data?]

theorem onTransport_selectedProtocol (up : Upgrades) (x : X224) (e : TPKT.Event) :
    (x.onTransport up e).1.selectedProtocol = x.selectedProtocol := by
  cases e with
  | data s =>
    exact runUntil_invariant (fun y => y.selectedProtocol = x.selectedProtocol)
      (fun y h hy => (handle_selectedProtocol up y h s).trans hy) _
      (x := { x with transportData := (fire x.transportData).2 }) rfl
  | _ => rfl

/-- X224 never records the protocol the server selects: over every run from
`Connect`, whatever the transport delivers and whatever the upgrades answer,
`selectedProtocol` stays `PROTOCOL_SSL`. -/
theorem selectedProtocol_stays_ssl (up : Upgrades) (found host : String)
    (events : List TPKT.Event) :
    (onTransportAll up ((X224.new found).connect host).1 events).1.selectedProtocol = protocolSsl :=
  runUntil_invariant (fun y : X224 => y.selectedProtocol = protocolSsl)
    (fun y e hy => (onTransport_selectedProtocol up y e).trans hy) events rfl

def Effect.isConnect : Effect → Bool
  | .emit (.connect _) => true
  | _ => false

def Effect.isUpgrade : Effect → Bool
  | .startTLS | .startNLA => true
  | _ => false

def Effect.isSavefile : Effect → Bool
  | .savefile _ => true
  | _ => false

def Effect.isData : Effect → Bool
  | .emit (.data _) => true
  | _ => false

def Effect.isTransportCall : Effect → Bool
  | .write _ | .startTLS | .startNLA => true
  | _ => false

/-- After `Connect`, whatever the transport delivers, X224 writes nothing, never
calls `StartNLA`, calls `StartTLS` at most once and emits `"connect"` at most
once. -/
theorem afterConnectEvents_calls (up : Upgrades) (host : String) (es : List TPKT.Event) :
    ((afterConnectEvents up host es).filter Effect.isTransportCall).Sublist [.startTLS] ∧
      ((afterConnectEvents up host es).filter Effect.isConnect).length ≤ 1 := by
  have hidle : ∀ es : List TPKT.Event, ∀ e ∈ es.filterMap idleEvent, e.isRelayed :=
    fun _ _ => isRelayed_of_mem_idle
  have hrelay : ∀ es : List TPKT.Event, ∀ e ∈ es.filterMap relayEvent, e.isRelayed :=
    fun _ _ => isRelayed_of_mem_relay
  induction es with
  | nil => exact ⟨List.nil_sublist _, Nat.zero_le _⟩
  | cons e es ih =>
    cases e with
    | error => simpa only [afterConnectEvents, List.filter_cons, Effect.isTransportCall,
        Effect.isConnect, Bool.false_eq_true, if_false] using ih
    | recvFastPath => exact ih
    | panic => exact ⟨List.nil_sublist _, Nat.zero_le _⟩
    | data cc =>
      simp only [afterConnectEvents]
      cases ServerConnectionConfirm.unpack cc with
      | none =>
        rw [filter_relayed rfl (fun _ => rfl) rfl (hidle es),
          filter_relayed (p := Effect.isConnect) rfl (fun _ => rfl) rfl (hidle es)]
        exact ⟨List.nil_sublist _, Nat.zero_le _⟩
      | some m =>
        dsimp only
        split
        · simp only [List.filter_cons, Effect.isTransportCall, Effect.isConnect, Bool.false_eq_true,
            if_false, filter_relayed (p := Effect.isTransportCall) rfl (fun _ => rfl) rfl (hidle es),
            filter_relayed (p := Effect.isConnect) rfl (fun _ => rfl) rfl (hidle es)]
          exact ⟨List.nil_sublist _, Nat.zero_le _⟩
        · rw [List.filter_append, List.filter_append,
            filter_relayed (p := Effect.isTransportCall) rfl (fun _ => rfl) rfl (hrelay es),
            filter_relayed (p := Effect.isConnect) rfl (fun _ => rfl) rfl (hrelay es)]
          cases up.startTLS <;> exact ⟨List.Sublist.refl _, by decide⟩

theorem mem_map_relay {e : Effect} {frames : List Bytes} (h : e ∈ frames.map relay) : e.isRelayed := by
  obtain ⟨s, -, rfl⟩ := List.mem_map.mp h
  exact relay_isRelayed s

theorem afterConnectSpec_cases (up : Upgrades) (host : String) (frames : List Bytes) :
    afterConnectSpec up host frames = [] ∨ afterConnectSpec up host frames = [.savefile host] ∨
      ∃ rest : List Bytes, afterConnectSpec up host frames =
        (.startTLS :: if up.startTLS then [.emit (.connect protocolSsl)] else []) ++
          takeUntil Effect.isPanic (rest.map relay) := by
  cases frames with
  | nil => exact .inl rfl
  | cons cc rest =>
    simp only [afterConnectSpec]
    cases ServerConnectionConfirm.unpack cc with
    | none => exact .inl rfl
    | some m =>
      dsimp only
      split
      · exact .inr (.inl rfl)
      · exact .inr (.inr ⟨rest, rfl⟩)

/-- Over every run from `Connect`, whatever the frames and the upgrade outcome,
X224 emits `"connect"` at most once and starts at most one upgrade. -/
theorem afterConnect_connect_once (up : Upgrades) (found host : String) (frames : List Bytes) :
    let effs := (onTransportAll up ((X224.new found).connect host).1 (frames.map .data)).2
    (effs.filter Effect.isConnect).length ≤ 1 ∧ (effs.filter Effect.isUpgrade).length ≤ 1 := by
  simp only [afterConnect_run]
  rcases afterConnectSpec_cases up host frames with h | h | ⟨rest, h⟩ <;> rw [h]
  · simp
  · simp [Effect.isConnect, Effect.isUpgrade]
  · have hc := filter_relayed (p := Effect.isConnect) rfl (fun _ => rfl) rfl
      fun e => @mem_map_relay e rest
    have hu := filter_relayed (p := Effect.isUpgrade) rfl (fun _ => rfl) rfl
      fun e => @mem_map_relay e rest
    cases up.startTLS <;> simp [hc, hu, Effect.isConnect, Effect.isUpgrade]

/-- When `StartTLS` succeeds, every frame X224 relays comes after its
`"connect"`. -/
theorem afterConnect_data_after_connect {up : Upgrades} (hup : up.startTLS = true)
    (found host : String) (frames : List Bytes) (pre post : List Effect) (e : Effect)
    (heq : (onTransportAll up ((X224.new found).connect host).1 (frames.map .data)).2 =
      pre ++ e :: post)
    (hd : e.isData) : ∃ c ∈ pre, c.isConnect := by
  rw [afterConnect_run] at heq
  rcases afterConnectSpec_cases up host frames with h | h | ⟨rest, h⟩ <;> rw [h] at heq
  · simp at heq
  · rcases pre with _ | ⟨a, pre⟩
    · simp only [List.nil_append, List.cons.injEq] at heq
      simp [← heq.1, Effect.isData] at hd
    · simp at heq
  · simp only [hup, if_true, List.cons_append, List.singleton_append] at heq
    rcases pre with _ | ⟨a, _ | ⟨b, pre⟩⟩
    · simp only [List.nil_append, List.cons.injEq] at heq
      simp [← heq.1, Effect.isData] at hd
    · simp only [List.singleton_append, List.cons.injEq] at heq
      simp [← heq.2.1, Effect.isData] at hd
    · simp only [List.cons_append, List.cons.injEq] at heq
      exact ⟨b, by simp, by rw [← heq.2.1]; rfl⟩

/-- `StartTLS` succeeds, and the frame after the confirm is relayed after
`"connect"`. -/
theorem afterConnect_data_after_connect_tls :
    (⟨true, false⟩ : Upgrades).startTLS = true ∧
      (onTransportAll ⟨true, false⟩ ((X224.new "").connect "10.0.0.5").1
          ([[14, 0xD0, 0, 0, 0, 0, 0, 0, 0, 8, 0, 1, 0, 0, 0], [2, 0xF0, 0x80, 0x41]].map .data)).2 =
        [.startTLS, .emit (.connect protocolSsl)] ++ .emit (.data [0x41]) :: [] ∧
      (Effect.emit (.data [0x41])).isData ∧
      ∃ c ∈ [Effect.startTLS, .emit (.connect protocolSsl)], c.isConnect :=
  ⟨rfl, by decide, rfl,
    @afterConnect_data_after_connect ⟨true, false⟩ rfl "" "10.0.0.5"
      [[14, 0xD0, 0, 0, 0, 0, 0, 0, 0, 8, 0, 1, 0, 0, 0], [2, 0xF0, 0x80, 0x41]]
      [.startTLS, .emit (.connect protocolSsl)] [] (.emit (.data [0x41])) (by decide) rfl⟩

/-- From bytes to effects: when the server answers `Connect(host)` with frames
written by `TPKT.Write`, the read loop and X224 together do what
`afterConnectState` and `afterConnectSpec` say of the payloads. -/
theorem tpkt_x224_after_connect (up : Upgrades) (found host : String) (payloads : List Bytes)
    (hfit : ∀ p ∈ payloads, p.length ≤ 65531) (fuel : Nat) (hfuel : 3 * payloads.length ≤ fuel) :
    onTransportAll up ((X224.new found).connect host).1
        (TPKT.new.run fuel (payloads.flatMap TPKT.write)).2.1 =
      (afterConnectState found host payloads, afterConnectSpec up host payloads) := by
  rw [TPKT.run_writes payloads hfit fuel hfuel]
  exact afterConnect_run up found host payloads

/-- A confirm with negotiation type `0` and one data frame, both framed by
`TPKT.Write`, with `StartTLS` succeeding. -/
theorem tpkt_x224_after_connect_tls :
    (∀ p ∈ ([[14, 0xD0, 0, 0, 0, 0, 0, 0, 0, 8, 0, 1, 0, 0, 0], [2, 0xF0, 0x80, 0x41]] : List Bytes),
        p.length ≤ 65531) ∧ 3 * 2 ≤ 6 ∧
      onTransportAll ⟨true, false⟩ ((X224.new "").connect "10.0.0.5").1
          (TPKT.new.run 6 ([[14, 0xD0, 0, 0, 0, 0, 0, 0, 0, 8, 0, 1, 0, 0, 0],
            [2, 0xF0, 0x80, 0x41]].flatMap TPKT.write)).2.1 =
        (afterConnectState "" "10.0.0.5" [[14, 0xD0, 0, 0, 0, 0, 0, 0, 0, 8, 0, 1, 0, 0, 0],
            [2, 0xF0, 0x80, 0x41]],
          afterConnectSpec ⟨true, false⟩ "10.0.0.5" [[14, 0xD0, 0, 0, 0, 0, 0, 0, 0, 8, 0, 1, 0, 0, 0],
            [2, 0xF0, 0x80, 0x41]]) :=
  ⟨by decide, by decide,
    tpkt_x224_after_connect ⟨true, false⟩ "" "10.0.0.5" _ (by decide) 6 (by decide)⟩

/-- The scanner's verdict on a host: the first frame after the request decodes
as a connection confirm whose negotiation is a failure or a response. -/
def hostAnswered : List Bytes → Bool
  | [] => false
  | cc :: _ =>
    match ServerConnectionConfirm.unpack cc with
    | none => false
    | some m => decide (m.protocolNeg.type = typeRdpNegFailure ∨ m.protocolNeg.type = typeRdpNegRsp)

/-- The host is recorded in `FindSuccess` exactly when the scanner's verdict
says so; otherwise `FindSuccess` keeps the value it had. -/
theorem findSuccess_afterConnectState (found host : String) (frames : List Bytes) :
    (afterConnectState found host frames).findSuccess =
      if hostAnswered frames then host else found := by
  cases frames with
  | nil => rfl
  | cons cc rest =>
    cases hu : ServerConnectionConfirm.unpack cc with
    | none => simp only [afterConnectState, hostAnswered, hu]; rfl
    | some m =>
      simp only [afterConnectState, hostAnswered, hu]
      by_cases hm : m.protocolNeg.type = typeRdpNegFailure ∨ m.protocolNeg.type = typeRdpNegRsp
      · simp [hm]
      · simp [hm]; rfl

/-- After `Connect(host)`, whatever the frames and the upgrade outcome, X224
records the host in `FindSuccess`, and appends it to the results file once,
exactly when the first frame is a confirm whose negotiation is a failure or a
response; otherwise it records nothing and `FindSuccess` is left as it was. -/
theorem scan_records_host (up : Upgrades) (found host : String) (frames : List Bytes) :
    let r := onTransportAll up ((X224.new found).connect host).1 (frames.map .data)
    r.1.findSuccess = (if hostAnswered frames then host else found) ∧
      r.2.filter Effect.isSavefile = (if hostAnswered frames then [.savefile host] else []) := by
  rw [afterConnect_run]
  refine ⟨findSuccess_afterConnectState found host frames, ?_⟩
  cases frames with
  | nil => rfl
  | cons cc rest =>
    cases hu : ServerConnectionConfirm.unpack cc with
    | none => simp only [afterConnectSpec, hostAnswered, hu]; rfl
    | some m =>
      simp only [afterConnectSpec, hostAnswered, hu]
      by_cases hm : m.protocolNeg.type = typeRdpNegFailure ∨ m.protocolNeg.type = typeRdpNegRsp
      · simp [hm, Effect.isSavefile]
      · simp only [hm, if_false, decide_False]
        rw [List.filter_append, filter_relayed rfl (fun _ => rfl) rfl fun _ => mem_map_relay]
        cases up.startTLS <;> rfl

end X224

/-- A confirm whose negotiation type is neither failure nor response, a failed
`StartTLS`, then one more frame: X224 relays the frame, and never emitted
`"connect"`. -/
theorem relay_after_failed_upgrade :
    (X224.onTransportAll ⟨false, false⟩ ((X224.new "").connect "10.0.0.5").1
        [.data [14, 0xD0, 0, 0, 0, 0, 0, 0, 0, 8, 0, 1, 0, 0, 0], .data [2, 0xF0, 0x80, 0x41]]).2 =
      [.startTLS, .emit (.data [0x41])] := by
  decide

/-- Declared lengths below the header size are read or sliced, not refused: a
slow-path header declaring `2` makes the loop wait for `65534` bytes, a
fast-path header declaring `1` makes `StartReadBytes` panic on the size `-2`,
and a two-byte frame reaching the relay handler is sliced out of range. -/
theorem short_lengths_unchecked :
    (TPKT.new.run 2 [3, 0, 0, 2]).1.pending = some ⟨65534, .recvData⟩ ∧
      (TPKT.new.run 2 [0, 0x80, 0x01]).2.1 = [.panic] ∧
      ((X224.new "").recvData [2, 0xF0]).2 = [.panic] := by
  decide

end RdpPortscan
