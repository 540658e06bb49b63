import RdpPortscan.Tpkt

/-!
# The TPKT receive loop on a stream of frames

The send path and the receive loop agree: feeding the loop the bytes of any
sequence of frames written by `TPKT.Write` and `TPKT.SendFastPath`, each within
its length field, surfaces each payload once, in order, and leaves the loop
waiting for the next two-byte header (`run_frames`).

Each frame takes exactly three reads (header, extended header or length byte,
body), so the proof is one lemma per frame kind (`run_write`,
`run_sendFastPath`) and an induction over the frames. The fast-path lemma
carries the bit-level content: the first byte packs the flags into bits 6-7,
so it is never the slow-path tag `0x03`, and the `0x8000` marker of the length
is the `0x80` bit the loop tests on the second byte.

On any stream at all, framed or not, the loop hands up only slices of the
stream, in order, none twice (`run_payloads_sublist`); a panic is its last event
(`run_panic_last`); and it never spins: on `n` bytes it completes at most
`2 * n + 1` reads (`run_reads_bounded`), each read taking a byte or being
followed by one that does.
-/

namespace RdpPortscan

namespace TPKT

/-! ## One frame -/

/-- The slow-path frame of `p` is read as one `"data"` event carrying `p`. -/
theorem run_write (p rest : Bytes) (hp : p.length ≤ 65531) (sf : BitVec 8) (fuel : Nat) :
    run (fuel + 3) (waitHeader sf) (write p ++ rest) =
      ((run fuel (waitHeader sf) rest).1, .data p :: (run fuel (waitHeader sf) rest).2.1,
        (run fuel (waitHeader sf) rest).2.2) := by
  have hsize : (BitVec.ofNat 16 (p.length + 4) - 4).toNat = p.length := by
    have : (4 : BitVec 16).toNat = 4 := rfl
    simp only [BitVec.toNat_sub, BitVec.toNat_ofNat, this]
    omega
  have e : write p ++ rest = [fastpathActionX224, 0] ++
      (writeUInt16BE (BitVec.ofNat 16 (p.length + 4)) ++ (p ++ rest)) := by
    simp [write, writeUInt8]
  rw [e, run_of_step _ (step_header_x224 _ _ _), run_of_step _ (step_extendedHeader _ _ _), hsize,
    run_of_step _ (step_data _ _ _)]
  rfl

theorem fastPathHeader_toNat (f : BitVec 8) :
    (fastpathActionFastpath ||| ((f &&& 0x3) <<< 6)).toNat = f.toNat % 4 * 64 := by
  have : (fastpathActionFastpath ||| ((f &&& 0x3) <<< 6)) = (f &&& 0x3) <<< 6 := BitVec.zero_or
  rw [this, BitVec.toNat_shiftLeft, and_three_toNat, Nat.shiftLeft_eq]
  omega

/-- The fast-path frame of `p` with flags `f` is read as one `RecvFastPath` call
carrying `f & 3` and `p`; the loop keeps `f & 3` as its flags. -/
theorem run_sendFastPath (f : BitVec 8) (p rest : Bytes) (hp : p.length ≤ 0x7FFC)
    (sf : BitVec 8) (fuel : Nat) :
    run (fuel + 3) (waitHeader sf) (sendFastPath f p ++ rest) =
      ((run fuel (waitHeader (f &&& 0x3)) rest).1,
        .recvFastPath (f &&& 0x3) p :: (run fuel (waitHeader (f &&& 0x3)) rest).2.1,
        (run fuel (waitHeader (f &&& 0x3)) rest).2.2) := by
  have hv := or_0x8000_toNat (m := p.length + 3) (by omega)
  have hb := fastPathHeader_toNat f
  set v := BitVec.ofNat 16 (p.length + 3) ||| 0x8000
  set b0 := fastpathActionFastpath ||| ((f &&& 0x3) <<< 6)
  have h0 : b0 ≠ fastpathActionX224 := fun h => by
    have := congrArg BitVec.toNat h
    rw [hb] at this
    simp [fastpathActionX224] at this
    omega
  have hsf : (b0 >>> 6) &&& 0x3 = f &&& 0x3 := by
    apply BitVec.eq_of_toNat_eq
    rw [and_three_toNat, and_three_toNat, BitVec.toNat_ushiftRight, hb, Nat.shiftRight_eq_div_pow]
    omega
  have h1 : (v >>> 8).setWidth 8 &&& 0x80 ≠ 0 := by
    rw [Ne, and_0x80_eq_zero, BitVec.toNat_setWidth, BitVec.toNat_ushiftRight, hv,
      Nat.shiftRight_eq_div_pow]
    omega
  have hsize : (((((v >>> 8).setWidth 8 &&& ~~~0x80).toNat <<< 8) + (v.setWidth 8).toNat : Nat)
      : Int) - 3 = p.length := by
    rw [and_not_0x80_toNat, BitVec.toNat_setWidth, BitVec.toNat_setWidth, BitVec.toNat_ushiftRight,
      hv, Nat.shiftRight_eq_div_pow, Nat.shiftLeft_eq]
    omega
  have e : sendFastPath f p ++ rest =
      [b0, (v >>> 8).setWidth 8] ++ ([v.setWidth 8] ++ (p ++ rest)) := by
    simp [sendFastPath, writeUInt8, writeUInt16BE, b0, v]
  rw [e, run_of_step _ (step_header_fastPath _ h0 h1), hsf,
    run_of_step _ (step_extendedFastPathHeader _ hsize), run_of_step _ (step_fastPath _ _ _)]
  rfl

end TPKT

/-! ## Sequences of frames -/

/-- An outgoing frame: `TPKT.Write(p)` or `TPKT.SendFastPath(secFlag, p)`. -/
inductive Frame
  | write (p : Bytes)
  | sendFastPath (secFlag : BitVec 8) (p : Bytes)
deriving DecidableEq, Repr

namespace Frame

def bytes : Frame → Bytes
  | write p => TPKT.write p
  | sendFastPath f p => TPKT.sendFastPath f p

/-- The payload fits the frame's length field. -/
def Fits : Frame → Prop
  | write p => p.length ≤ 65531
  | sendFastPath _ p => p.length ≤ 0x7FFC

instance : DecidablePred Fits
  | write p => inferInstanceAs (Decidable (p.length ≤ 65531))
  | sendFastPath _ p => inferInstanceAs (Decidable (p.length ≤ 0x7FFC))

/-- What the receive loop surfaces for the frame. -/
def event : Frame → TPKT.Event
  | write p => .data p
  | sendFastPath f p => .recvFastPath (f &&& 0x3) p

def secFlagAfter (sf : BitVec 8) : Frame → BitVec 8
  | write _ => sf
  | sendFastPath f _ => f &&& 0x3

end Frame

namespace TPKT

theorem run_frame {fr : Frame} (h : fr.Fits) (sf : BitVec 8) (rest : Bytes) (fuel : Nat) :
    run (fuel + 3) (waitHeader sf) (fr.bytes ++ rest) =
      ((run fuel (waitHeader (fr.secFlagAfter sf)) rest).1,
        fr.event :: (run fuel (waitHeader (fr.secFlagAfter sf)) rest).2.1,
        (run fuel (waitHeader (fr.secFlagAfter sf)) rest).2.2) := by
  cases fr with
  | write p => exact run_write p rest h sf fuel
  | sendFastPath f p => exact run_sendFastPath f p rest h sf fuel

/-- The stream round trip of the framing layer: with fuel for three reads per
frame, the loop surfaces exactly the frames' payloads in order, consumes the
whole stream and waits for the next header. -/
theorem run_frames (frames : List Frame) (hfit : ∀ fr ∈ frames, fr.Fits) (sf : BitVec 8)
    (fuel : Nat) (hfuel : 3 * frames.length ≤ fuel) :
    run fuel (waitHeader sf) (frames.flatMap Frame.bytes) =
      (waitHeader (frames.foldl Frame.secFlagAfter sf), frames.map Frame.event, []) := by
  induction frames generalizing sf fuel with
  | nil => simp
  | cons fr frs ih =>
    obtain ⟨fuel, rfl⟩ : ∃ k, fuel = k + 3 := ⟨fuel - 3, by simp at hfuel; omega⟩
    rw [List.flatMap_cons, run_frame (hfit fr (List.mem_cons_self _ _)),
      ih (fun g hg => hfit g (List.mem_cons_of_mem _ hg)) _ _ (by simp at hfuel; omega)]
    rfl

/-- Payloads framed by `TPKT.Write` come out of a new loop as one `"data"` event
each, and the loop ends waiting for a header with its flags untouched. -/
theorem run_writes (payloads : List Bytes) (hfit : ∀ p ∈ payloads, p.length ≤ 65531)
    (fuel : Nat) (hfuel : 3 * payloads.length ≤ fuel) :
    run fuel new (payloads.flatMap write) = (waitHeader 0, payloads.map .data, []) := by
  have hbytes : payloads.flatMap write = (payloads.map Frame.write).flatMap Frame.bytes := by
    rw [List.flatMap_map]; rfl
  have hframes : ∀ fr ∈ payloads.map Frame.write, fr.Fits := by
    simp only [List.mem_map]
    rintro _ ⟨p, hp, rfl⟩
    exact hfit p hp
  rw [new_eq, hbytes, run_frames _ hframes 0 fuel (by simpa using hfuel), List.map_map,
    List.foldl_map, List.foldl_fixed' fun _ => rfl]
  rfl

/-! ## Any stream

Whatever the server sends, well framed or not, the loop only ever hands up
slices of the stream, in order. -/

def Event.payload : Event → Bytes
  | .data s => s
  | .recvFastPath _ s => s
  | _ => []

theorem recv_payload_sublist (t : TPKT) (cb : Recv) (s : Bytes) :
    ((t.recv cb (.ok s)).2.flatMap Event.payload).Sublist s := by
  cases cb with
  | recvHeader => simp only [recv, recvHeader]; split_ifs <;> simp [startReadBytes]
  | recvExtendedHeader => exact List.nil_sublist _
  | recvData => simp [recv, recvData, startReadBytes, Event.payload]
  | recvExtendedFastPathHeader length =>
    simp only [recv, recvExtendedFastPathHeader, startReadBytes]
    split
    · exact List.nil_sublist _
    · split <;> exact List.nil_sublist _
  | recvFastPath => simp [recv, recvFastPath, startReadBytes, Event.payload]

theorem step_payload_sublist {t t' : TPKT} {input rest : Bytes} {evs : List Event}
    (h : t.step input = some (t', evs, rest)) : (evs.flatMap Event.payload ++ rest).Sublist input := by
  obtain ⟨p, -, -, -, rfl, rfl⟩ := step_eq_some h
  have hread := (recv_payload_sublist { t with pending := none } p.callback
    (input.take p.size)).append (List.Sublist.refl (input.drop p.size))
  rwa [List.take_append_drop] at hread

/-- From any state, on any stream and with any fuel, the payloads the loop hands
up and the bytes it leaves unread are, in this order, drawn from the stream:
the loop never invents a byte, reorders bytes or hands one up twice. -/
theorem run_payloads_sublist (fuel : Nat) (t : TPKT) (input : Bytes) :
    ((t.run fuel input).2.1.flatMap Event.payload ++ (t.run fuel input).2.2).Sublist input := by
  induction fuel generalizing t input with
  | zero => exact List.Sublist.refl _
  | succ fuel ih =>
    cases h : t.step input with
    | none => rw [run_of_step_none _ h]; exact List.Sublist.refl _
    | some r =>
      obtain ⟨t', evs, rest⟩ := r
      rw [run_of_step fuel h, List.flatMap_append, List.append_assoc]
      exact ((List.Sublist.refl _).append (ih t' rest)).trans (step_payload_sublist h)

/-! ## A panic ends the loop -/

theorem recv_panic {t : TPKT} {cb : Recv} {r : ReadResult} (h : Event.panic ∈ (t.recv cb r).2) :
    (t.recv cb r).2 = [.panic] ∧ (t.recv cb r).1.pending = t.pending := by
  cases cb with
  | recvExtendedFastPathHeader length =>
    simp only [recv, recvExtendedFastPathHeader] at h ⊢
    split at h
    · cases h
    · rw [startReadBytes_panic h]; exact ⟨rfl, rfl⟩
  | _ =>
    -- every other method schedules a read of a size that is not negative
    cases r <;> simp only [recv, recvHeader, recvExtendedHeader, recvData, recvFastPath,
      startReadBytes_natCast] at h <;> (try split_ifs at h) <;> simp [startReadBytes] at h

theorem step_panic {t t' : TPKT} {input rest : Bytes} {evs : List Event}
    (h : t.step input = some (t', evs, rest)) (hp : Event.panic ∈ evs) :
    evs = [.panic] ∧ t'.pending = none := by
  obtain ⟨p, -, -, rfl, rfl, -⟩ := step_eq_some h
  exact recv_panic hp

/-- From any state, on any stream, a panic is the loop's last event. -/
theorem run_panic_last (fuel : Nat) (t : TPKT) (input : Bytes) :
    Event.panic ∉ (t.run fuel input).2.1.dropLast := by
  induction fuel generalizing t input with
  | zero => simp [run]
  | succ fuel ih =>
    cases h : t.step input with
    | none => simp [run_of_step_none _ h]
    | some r =>
      obtain ⟨t', evs, rest⟩ := r
      rw [run_of_step fuel h]
      by_cases hp : Event.panic ∈ evs
      · obtain ⟨rfl, hnone⟩ := step_panic h hp
        simp [run_of_step_none fuel (show t'.step rest = none by simp [step, hnone])]
      · intro hmem
        by_cases hr : (t'.run fuel rest).2.1 = []
        · rw [hr, List.append_nil] at hmem
          exact hp (List.dropLast_subset _ hmem)
        · rw [List.dropLast_append_of_ne_nil _ hr] at hmem
          exact (List.mem_append.mp hmem).elim hp (ih t' rest)

/-! ## The loop never spins

A read takes at least one byte, except a read of none, after which the loop
waits for a header, of two bytes, or for nothing: so `readBound` falls with
every completed read. -/

/-- Two reads per byte left, and one for a pending read of no bytes. -/
def readBound (t : TPKT) (input : Bytes) : Nat :=
  2 * input.length + if t.pending.any (·.size == 0) then 1 else 0

theorem recv_nil_size {t : TPKT} (cb : Recv) :
    (({ t with pending := none }.recv cb (.ok [])).1.pending.any fun p : PendingRead => p.size == 0)
      = false := by
  cases cb <;> rfl

theorem step_readBound {t t' : TPKT} {input rest : Bytes} {evs : List Event}
    (h : t.step input = some (t', evs, rest)) : readBound t' rest < readBound t input := by
  obtain ⟨p, hp, hle, rfl, -, rfl⟩ := step_eq_some h
  simp only [readBound, hp, Option.any_some, List.length_drop]
  rcases Nat.eq_zero_or_pos p.size with h0 | h0
  · simp [h0, recv_nil_size]
  · split <;> split <;> omega

theorem step_eq_none_of_readBound {t : TPKT} {input : Bytes} (h : readBound t input = 0) :
    t.step input = none := by
  unfold readBound at h
  unfold step
  split
  · rename_i p hp
    simp only [hp, Option.any_some, beq_iff_eq] at h
    split_ifs at h with h0
    rw [if_neg (by omega)]
  · rfl

theorem run_settles {fuel : Nat} {t : TPKT} {input : Bytes} (hfuel : readBound t input ≤ fuel) :
    (t.run fuel input).1.step (t.run fuel input).2.2 = none ∧
      ∀ more, t.run (fuel + more) input = t.run fuel input := by
  induction fuel generalizing t input with
  | zero =>
    have h := step_eq_none_of_readBound (by omega : readBound t input = 0)
    simp [run, run_of_step_none _ h, h]
  | succ fuel ih =>
    cases h : t.step input with
    | none => simp [run_of_step_none _ h, h]
    | some r =>
      obtain ⟨t', evs, rest⟩ := r
      obtain ⟨hs, hm⟩ := @ih t' rest (by have := step_readBound h; omega)
      refine ⟨by rw [run_of_step fuel h]; exact hs, fun more => ?_⟩
      rw [Nat.add_right_comm, run_of_step _ h, run_of_step _ h, hm]

/-- From any state, on any stream of `n` bytes, the loop completes at most
`2 * n + 1` reads: after that many no read can complete, and more fuel changes
nothing. -/
theorem run_reads_bounded (t : TPKT) (input : Bytes) (fuel : Nat)
    (hfuel : 2 * input.length + 1 ≤ fuel) :
    (t.run fuel input).1.step (t.run fuel input).2.2 = none ∧
      ∀ more, t.run (fuel + more) input = t.run fuel input :=
  run_settles (by unfold readBound; split <;> omega)

/-- A slow-path and a fast-path frame, each with an empty body. -/
theorem run_reads_bounded_empty_bodies :
    2 * [3, 0, 0, 4, 0, 0x80, 3].length + 1 ≤ 15 ∧
      (new.run 15 [3, 0, 0, 4, 0, 0x80, 3]).1.step (new.run 15 [3, 0, 0, 4, 0, 0x80, 3]).2.2 = none ∧
      ∀ more, new.run (15 + more) [3, 0, 0, 4, 0, 0x80, 3] = new.run 15 [3, 0, 0, 4, 0, 0x80, 3] :=
  ⟨by decide, run_reads_bounded new _ 15 (by decide)⟩

/-! ## Failures -/

/-- The stream delivers `03 00` and then fails: the wait for the slow-path length
ends with no `"error"` and no further read. A fast-path header without the
extended-length bit leaves no read scheduled either. -/
theorem read_failure_unreported :
    (new.run 1 [3, 0]).1.complete .err = some (⟨0, none⟩, []) ∧
      new.run 1 [0, 5] = (⟨0, none⟩, [], []) := by
  decide

end TPKT

end RdpPortscan
