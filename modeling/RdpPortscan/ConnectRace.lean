import RdpPortscan.X224Session

/-!
# `Connect` racing the read loop

`tpkt.New` arms the first header read before anyone calls `X224.Connect`, and
the read completes on its own goroutine. `Connect` takes two steps: it writes
the connection request, then arms the one-shot `recvConnectionConfirm` on the
transport's `"data"` event. The server answers the request once it has it, and
the loop emits the answer to whichever handlers are armed when it has read it.

A `Race` interleaves the two threads: the caller's steps (`pc` counts them) and
the loop's, each completing the next frame the server sent and delivering it
(`X224.onTransportData`). `dispatched` records every frame the loop emitted
together with the handlers armed at that moment.

Every schedule is covered by `connect_race_fate`: what happens to the reply
depends only on how many caller steps precede the loop's first read of it
(`replyFate`). After one, the write, it reaches no handler.
-/

namespace RdpPortscan

/-- The two threads of a connection attempt: the caller of `X224.Connect` and
TPKT's read loop. -/
inductive Actor
  | caller
  | readLoop
deriving DecidableEq, Repr

/-- An interleaving of `Connect` with the read loop, part way through. -/
structure Race where
  x224 : X224
  /-- The caller's position in `Connect`: `0` before the write, `1` between the
  write and `Once`, `2` returned. -/
  pc : Nat
  /-- Frames the server has sent that the loop has still to complete. -/
  inFlight : List Bytes
  /-- Each frame the loop emitted, with the handlers armed at that moment. -/
  dispatched : List (Bytes × List X224.Handler)
  effects : List X224.Effect
deriving DecidableEq, Repr

namespace Race

variable (up : Upgrades) (host : String) (reply : Bytes) (found : String)

/-- Before `Connect`: a fresh `X224`, `FindSuccess` being `found`, nothing sent. -/
def init : Race := ⟨X224.new found, 0, [], [], []⟩

/-- One atomic step of one thread. Writing the request makes the server's
`reply` the next frame on the stream. -/
def step (r : Race) : Actor → Race
  | .caller =>
    match r.pc with
    | 0 =>
      let sent := r.x224.sendConnectionRequest host
      { r with x224 := sent.1, pc := 1, inFlight := r.inFlight ++ [reply],
               effects := r.effects ++ sent.2 }
    | 1 => { r with x224 := r.x224.armConnectionConfirm, pc := 2 }
    | _ => r
  | .readLoop =>
    match r.inFlight with
    | [] => r
    | f :: rest =>
      let delivered := r.x224.onTransportData up f
      { r with x224 := delivered.1, inFlight := rest,
               dispatched := r.dispatched ++ [(f, (fire r.x224.transportData).1)],
               effects := r.effects ++ delivered.2 }

def run (r : Race) (schedule : List Actor) : Race := schedule.foldl (step up host reply) r

/-- The race after `n` steps of the caller and none of the loop. -/
def callerSteps : Nat → Race
  | 0 => init found
  | n + 1 => (callerSteps n).step up host reply .caller

theorem callerSteps_dispatched (n : Nat) : (callerSteps up host reply found n).dispatched = [] := by
  induction n with
  | zero => rfl
  | succ n ih =>
    rw [callerSteps, step]
    split <;> exact ih

theorem callerSteps_of_two_le {n : Nat} (h : 2 ≤ n) :
    callerSteps up host reply found n = callerSteps up host reply found 2 := by
  induction n, h using Nat.le_induction with
  | base => rfl
  | succ n _ ih => rw [callerSteps, ih]; rfl

theorem run_dispatched_of_read {r : Race} (hin : r.inFlight = []) (hpc : 1 ≤ r.pc)
    (schedule : List Actor) : (run up host reply r schedule).dispatched = r.dispatched := by
  induction schedule generalizing r with
  | nil => rfl
  | cons a schedule ih =>
    have hstep : (r.step up host reply a).inFlight = [] ∧ 1 ≤ (r.step up host reply a).pc ∧
        (r.step up host reply a).dispatched = r.dispatched := by
      cases a with
      | caller =>
        obtain ⟨x, pc, fl, d, e⟩ := r
        simp only at hin hpc
        subst hin
        rcases (by omega : pc = 1 ∨ 2 ≤ pc) with rfl | h2
        · exact ⟨rfl, Nat.le_succ 1, rfl⟩
        · obtain ⟨k, rfl⟩ : ∃ k, pc = k + 2 := ⟨pc - 2, by omega⟩
          exact ⟨rfl, by simp [step], rfl⟩
      | readLoop => simp [step, hin, hpc]
    exact (ih hstep.1 hstep.2.1).trans hstep.2.2

end Race

/-- What a schedule makes of the server's reply, given the caller's steps so
far: `none` while the loop has not read it, `some armed` once read, `armed`
telling whether `recvConnectionConfirm` was armed at that moment. -/
def replyFate : Nat → List Actor → Option Bool
  | _, [] => none
  | n, .caller :: s => replyFate (n + 1) s
  | n, .readLoop :: s => if n = 0 then replyFate 0 s else some (2 ≤ n)

theorem run_callerSteps (up : Upgrades) (host : String) (reply : Bytes) (found : String) (n : Nat)
    (schedule : List Actor) :
    (Race.run up host reply (Race.callerSteps up host reply found n) schedule).dispatched =
      match replyFate n schedule with
      | none => []
      | some armed => [(reply, if armed then [.recvConnectionConfirm] else [])] := by
  induction schedule generalizing n with
  | nil => exact Race.callerSteps_dispatched up host reply found n
  | cons a schedule ih =>
    cases a with
    | caller => exact ih (n + 1)
    | readLoop =>
      rw [Race.run, List.foldl_cons, ← Race.run]
      rcases (by omega : n = 0 ∨ n = 1 ∨ 2 ≤ n) with rfl | rfl | h
      · exact ih 0
      · rw [Race.run_dispatched_of_read up host reply rfl (Nat.le_refl 1)]; rfl
      · rw [Race.callerSteps_of_two_le up host reply found h,
          Race.run_dispatched_of_read up host reply rfl (Nat.le_succ 1), replyFate, if_neg (by omega),
          decide_eq_true h]
        rfl

/-- For every interleaving of `Connect` with the read loop, the server's reply
is dispatched at most once: to `recvConnectionConfirm` when the caller armed it
before the loop read the reply, and to no handler at all when the loop read it
between the write and the arm. -/
theorem connect_race_fate (up : Upgrades) (host : String) (reply : Bytes) (found : String)
    (schedule : List Actor) :
    (Race.run up host reply (Race.init found) schedule).dispatched =
      match replyFate 0 schedule with
      | none => []
      | some armed => [(reply, if armed then [.recvConnectionConfirm] else [])] :=
  run_callerSteps up host reply found 0 schedule

/-- The loop completes the server's answer between the write and the arming of
the confirm handler: the answer is emitted to no handler, and `Connect` then
arms `recvConnectionConfirm` for a frame that never comes. -/
theorem confirm_lost_between_write_and_arm :
    (Race.run ⟨true, true⟩ "10.0.0.5" [14, 0xD0, 0, 0, 0, 0, 0, 2, 0, 8, 0, 1, 0, 0, 0]
        (Race.init "") [.caller, .readLoop, .caller]).dispatched =
      [([14, 0xD0, 0, 0, 0, 0, 0, 2, 0, 8, 0, 1, 0, 0, 0], [])] := by
  decide

end RdpPortscan
