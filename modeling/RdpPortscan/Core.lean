import Mathlib.Data.BitVec

/-!
# The `core` and `emission` helpers the protocol layers are built from

The three layers modelled here (`tpkt`, `x224`, `sec`) write and read their
records through the `core` package's fixed-width writers and readers, and
talk to each other through `emission` emitters. Neither package is part of
the sources, so both are modelled from the spec's words: big- and
little-endian 16- and 32-bit fields, and the "one active subscriber per
event per phase" listener discipline (`On` arms a persistent listener,
`Once` a one-shot one).

A byte is `BitVec 8`, a Go `uint16` is `BitVec 16`, a `uint32` is
`BitVec 32`. Every writer comes with its reader's round trip
(`readUint16BE_writeUInt16BE`, ...) and every value with a `toNat` lemma, so
that later files reason about lengths with `omega` alone.

Each layer is a state machine fed events one at a time: `runUntil` runs one
over a sequence of inputs and stops at a Go panic, and `runUntil_invariant`,
`runUntil_stateless` and `runAll_simulates` turn a fact about one step into a
fact about every run.
-/

namespace RdpPortscan

/-- A byte slice, `[]byte`. -/
abbrev Bytes := List (BitVec 8)

theorem toNat_append_eq {m n : Nat} (a : BitVec m) (b : BitVec n) :
    (a ++ b).toNat = a.toNat * 2 ^ n + b.toNat := by
  rw [BitVec.toNat_append, Nat.shiftLeft_eq, Nat.mul_comm, ← Nat.mul_add_lt_is_or b.isLt]

/-! ## Writers

Modelled from the spec: `core.WriteUInt8`, `core.WriteUInt16BE` (high byte
first), `core.WriteUInt16LE` and `core.WriteUInt32LE` (low byte first). -/

def writeUInt8 (data : BitVec 8) : Bytes := [data]

def writeUInt16BE (data : BitVec 16) : Bytes :=
  [(data >>> 8).setWidth 8, data.setWidth 8]

def writeUInt16LE (data : BitVec 16) : Bytes :=
  [data.setWidth 8, (data >>> 8).setWidth 8]

def writeUInt32LE (data : BitVec 32) : Bytes :=
  [data.setWidth 8, (data >>> 8).setWidth 8, (data >>> 16).setWidth 8, (data >>> 24).setWidth 8]

@[simp] theorem length_writeUInt8 (v : BitVec 8) : (writeUInt8 v).length = 1 := rfl
@[simp] theorem length_writeUInt16BE (v : BitVec 16) : (writeUInt16BE v).length = 2 := rfl
@[simp] theorem length_writeUInt16LE (v : BitVec 16) : (writeUInt16LE v).length = 2 := rfl
@[simp] theorem length_writeUInt32LE (v : BitVec 32) : (writeUInt32LE v).length = 4 := rfl

/-! ## Readers

Modelled from the spec: `core.ReadUInt8`, `core.ReadUint16BE`,
`core.ReadUint16LE` and `core.ReadUInt32LE`. A reader over
`bytes.NewReader(s)` is the list of bytes not yet read; each reader returns the
value and what is left, or `none` on a short read. -/

def readUInt8 : Bytes → Option (BitVec 8 × Bytes)
  | b :: rest => some (b, rest)
  | [] => none

def readUint16BE : Bytes → Option (BitVec 16 × Bytes)
  | b0 :: b1 :: rest => some (b0 ++ b1, rest)
  | _ => none

def readUint16LE : Bytes → Option (BitVec 16 × Bytes)
  | b0 :: b1 :: rest => some (b1 ++ b0, rest)
  | _ => none

def readUInt32LE : Bytes → Option (BitVec 32 × Bytes)
  | b0 :: b1 :: b2 :: b3 :: rest => some (b3 ++ b2 ++ b1 ++ b0, rest)
  | _ => none

/-- The two bytes of a `uint16`, high one first, put back together. -/
theorem halves_append (v : BitVec 16) : (v >>> 8).setWidth 8 ++ v.setWidth 8 = v := by
  apply BitVec.eq_of_toNat_eq
  have hv := v.isLt
  simp only [toNat_append_eq, BitVec.toNat_setWidth, BitVec.toNat_ushiftRight,
    Nat.shiftRight_eq_div_pow]
  omega

@[simp] theorem readUint16BE_writeUInt16BE (v : BitVec 16) (rest : Bytes) :
    readUint16BE (writeUInt16BE v ++ rest) = some (v, rest) := by
  simp [readUint16BE, writeUInt16BE, halves_append]

@[simp] theorem readUint16BE_writeUInt16BE_nil (v : BitVec 16) :
    readUint16BE (writeUInt16BE v) = some (v, []) := by
  simpa using readUint16BE_writeUInt16BE v []

@[simp] theorem readUint16LE_writeUInt16LE (v : BitVec 16) (rest : Bytes) :
    readUint16LE (writeUInt16LE v ++ rest) = some (v, rest) := by
  simp [readUint16LE, writeUInt16LE, halves_append]

@[simp] theorem readUInt32LE_writeUInt32LE (v : BitVec 32) (rest : Bytes) :
    readUInt32LE (writeUInt32LE v ++ rest) = some (v, rest) := by
  have : (v >>> 24).setWidth 8 ++ (v >>> 16).setWidth 8 ++ (v >>> 8).setWidth 8 ++
      v.setWidth 8 = v := by
    apply BitVec.eq_of_toNat_eq
    have hv := v.isLt
    simp only [toNat_append_eq, BitVec.toNat_setWidth, BitVec.toNat_ushiftRight,
      Nat.shiftRight_eq_div_pow]
    omega
  simp [readUInt32LE, writeUInt32LE, this]

theorem writeUInt16BE_toNat (v : BitVec 16) :
    (writeUInt16BE v).map BitVec.toNat = [v.toNat / 256, v.toNat % 256] := by
  have hv := v.isLt
  simp only [writeUInt16BE, List.map, BitVec.toNat_setWidth, BitVec.toNat_ushiftRight,
    Nat.shiftRight_eq_div_pow, List.cons.injEq, and_true]
  omega

/-! ## Masks on a byte

The bit operations the fast-path header is built and read with, as numbers. -/

theorem and_three_toNat (x : BitVec 8) : (x &&& 0x3).toNat = x.toNat % 4 := by
  rw [BitVec.toNat_and]
  exact Nat.and_pow_two_sub_one_eq_mod x.toNat 2

theorem and_not_0x80_toNat (x : BitVec 8) : (x &&& ~~~0x80).toNat = x.toNat % 128 := by
  rw [BitVec.toNat_and, BitVec.toNat_not]
  exact Nat.and_pow_two_sub_one_eq_mod x.toNat 7

/-- The extended-length bit of a byte is its top bit. -/
theorem and_0x80_eq_zero (x : BitVec 8) : x &&& 0x80 = 0 ↔ x.toNat < 128 := by
  revert x; decide

/-- Setting the marker bit of a 15-bit length adds `0x8000`. -/
theorem or_0x8000_toNat {m : Nat} (hm : m < 32768) :
    (BitVec.ofNat 16 m ||| 0x8000).toNat = 32768 + m := by
  rw [BitVec.toNat_or, BitVec.toNat_ofNat, Nat.mod_eq_of_lt (by omega : m < 2 ^ 16), Nat.or_comm]
  exact (Nat.mul_add_lt_is_or (i := 15) hm 1).symm

/-! ## Go slicing -/

/-- `s[i:]`: the bytes from index `i` on, or `none` where Go panics with an
index out of range. -/
def sliceFrom (s : Bytes) (i : Nat) : Option Bytes :=
  if i ≤ s.length then some (s.drop i) else none

theorem sliceFrom_eq_none {s : Bytes} {i : Nat} : sliceFrom s i = none ↔ s.length < i := by
  unfold sliceFrom; split <;> simp <;> omega

@[simp] theorem sliceFrom_append (p q : Bytes) :
    sliceFrom (p ++ q) p.length = some q := by
  simp [sliceFrom]

/-! ## Emitters -/

/-- Modelled from the spec: a listener armed on one event of an `emission`
emitter. `On` arms a persistent one, `Once` one that the event drops the
first time it fires. -/
structure Listener (H : Type) where
  handler : H
  once : Bool
deriving DecidableEq, Repr

variable {H : Type}

def armOn (ls : List (Listener H)) (h : H) : List (Listener H) := ls ++ [⟨h, false⟩]

def armOnce (ls : List (Listener H)) (h : H) : List (Listener H) := ls ++ [⟨h, true⟩]

/-- Modelled from the spec: `Emit(event, ...)` calls the handlers armed at that
moment, in the order they were armed, and leaves the persistent ones armed.
Listeners armed by a handler while the event is being delivered join the list
after this delivery. -/
def fire (ls : List (Listener H)) : List H × List (Listener H) :=
  (ls.map Listener.handler, ls.filter fun l => !l.once)

@[simp] theorem fire_nil : fire ([] : List (Listener H)) = ([], []) := rfl

@[simp] theorem fire_once (h : H) : fire [(⟨h, true⟩ : Listener H)] = ([h], []) := rfl

@[simp] theorem fire_on (h : H) :
    fire [(⟨h, false⟩ : Listener H)] = ([h], [⟨h, false⟩]) := rfl

/-! ## An element that can only come last

A Go panic ends a run, so it is at most the last of the run's events: it does
not occur in the events but the last (`dropLast`). -/

section Last

variable {α : Type} {a : α}

theorem not_mem_dropLast_of_cons {b : α} {l : List α} (h : a ∉ (b :: l).dropLast) :
    a ∉ l.dropLast := by
  cases l with
  | nil => simp
  | cons c l => exact fun h' => h (List.mem_cons_of_mem _ h')

theorem not_mem_dropLast_drop {l : List α} (h : a ∉ l.dropLast) (k : Nat) :
    a ∉ (l.drop k).dropLast := by
  induction k generalizing l with
  | zero => exact h
  | succ k ih =>
    cases l with
    | nil => simp
    | cons b l => exact ih (not_mem_dropLast_of_cons h)

/-- Once the element came among the first `k`, nothing is left after them. -/
theorem drop_eq_nil_of_mem_take {l : List α} (h : a ∉ l.dropLast) {k : Nat} (hk : a ∈ l.take k) :
    l.drop k = [] := by
  induction k generalizing l with
  | zero => simp at hk
  | succ k ih =>
    cases l with
    | nil => rfl
    | cons b l =>
      rcases List.mem_cons.mp hk with rfl | hk
      · cases l with
        | nil => simp
        | cons c l => exact absurd (List.mem_cons_self _ _) h
      · exact ih (not_mem_dropLast_of_cons h) hk

end Last

/-! ## Runs

Each layer is a state machine fed its inputs one at a time, and so is the list
of handlers one event reaches. A Go panic ends the process: `runUntil` stops
after the step whose effects hold one, and nothing after it happens. -/

section Runs

variable {σ τ α E F : Type}

/-- Feed a component its inputs in order, threading its state and concatenating
what each step does, up to and including the first step whose effects hold one
that `stops`. -/
def runUntil (stops : E → Bool) (step : σ → α → σ × List E) : σ → List α → σ × List E
  | x, [] => (x, [])
  | x, a :: as =>
    if (step x a).2.any stops then step x a
    else
      ((runUntil stops step (step x a).1 as).1,
        (step x a).2 ++ (runUntil stops step (step x a).1 as).2)

/-- A run that nothing stops. -/
def runAll (step : σ → α → σ × List E) : σ → List α → σ × List E := runUntil (fun _ => false) step

/-- The effects up to and including the first one that `stops`. -/
def takeUntil (stops : E → Bool) : List E → List E
  | [] => []
  | e :: es => if stops e then [e] else e :: takeUntil stops es

variable {stops : E → Bool} {step : σ → α → σ × List E}

@[simp] theorem runUntil_nil (x : σ) : runUntil stops step x [] = (x, []) := rfl

theorem runUntil_cons (x : σ) (a : α) (as : List α) :
    runUntil stops step x (a :: as) =
      if (step x a).2.any stops then step x a
      else
        ((runUntil stops step (step x a).1 as).1,
          (step x a).2 ++ (runUntil stops step (step x a).1 as).2) := rfl

@[simp] theorem runUntil_singleton (x : σ) (a : α) : runUntil stops step x [a] = step x a := by
  rw [runUntil_cons]
  split <;> simp

@[simp] theorem runAll_nil (step : σ → α → σ × List E) (x : σ) : runAll step x [] = (x, []) := rfl

@[simp] theorem runAll_cons (step : σ → α → σ × List E) (x : σ) (a : α) (as : List α) :
    runAll step x (a :: as) =
      ((runAll step (step x a).1 as).1, (step x a).2 ++ (runAll step (step x a).1 as).2) := by
  simp [runAll, runUntil_cons]

/-- A property every step keeps holds after every run, stopped or not. -/
theorem runUntil_invariant (P : σ → Prop) (hstep : ∀ x a, P x → P (step x a).1) (as : List α)
    {x : σ} (hx : P x) : P (runUntil stops step x as).1 := by
  induction as generalizing x with
  | nil => exact hx
  | cons a as ih =>
    rw [runUntil_cons]
    split
    · exact hstep x a hx
    · exact ih (hstep x a hx)

/-- A run from a state that no step leaves, each input doing at most one thing:
the inputs' effects in order, cut at the first that stops. -/
theorem runUntil_stateless {x : σ} {f : α → Option E} (hstep : ∀ a, step x a = (x, (f a).toList))
    (as : List α) : runUntil stops step x as = (x, takeUntil stops (as.filterMap f)) := by
  induction as with
  | nil => rfl
  | cons a as ih =>
    rw [runUntil_cons, hstep, List.filterMap_cons]
    cases f a with
    | none => simpa using ih
    | some e => by_cases h : stops e <;> simp [h, ih, takeUntil]

/-- The runs of a schedule in two parts: the second part runs only when nothing
in the first stopped. -/
theorem runUntil_append (x : σ) (as bs : List α) :
    runUntil stops step x (as ++ bs) =
      if (runUntil stops step x as).2.any stops then runUntil stops step x as
      else
        ((runUntil stops step (runUntil stops step x as).1 bs).1,
          (runUntil stops step x as).2 ++ (runUntil stops step (runUntil stops step x as).1 bs).2) := by
  induction as generalizing x with
  | nil => simp
  | cons a as ih =>
    rw [List.cons_append, runUntil_cons, runUntil_cons]
    cases h : (step x a).2.any stops
    · simp only [h, Bool.false_eq_true, if_false, ih, List.any_append, Bool.false_or]
      by_cases h2 : (runUntil stops step (step x a).1 as).2.any stops <;> simp [h2]
    · simp [h]

theorem mem_of_mem_takeUntil {e : E} {es : List E} (h : e ∈ takeUntil stops es) : e ∈ es := by
  induction es with
  | nil => exact h
  | cons a es ih =>
    unfold takeUntil at h
    split at h
    · exact List.mem_singleton.mp h ▸ List.mem_cons_self _ _
    · rcases List.mem_cons.mp h with rfl | h
      · exact List.mem_cons_self _ _
      · exact List.mem_cons_of_mem _ (ih h)

/-- With nothing that stops, nothing is cut. -/
theorem takeUntil_of_forall {es : List E} (h : ∀ e ∈ es, stops e = false) : takeUntil stops es = es := by
  induction es with
  | nil => rfl
  | cons a es ih =>
    simp only [takeUntil, h a (List.mem_cons_self _ _), Bool.false_eq_true, if_false,
      ih fun e he => h e (List.mem_cons_of_mem _ he)]

theorem runUntil_map {β : Type} (g : β → α) (x : σ) (bs : List β) :
    runUntil stops step x (bs.map g) = runUntil stops (fun x b => step x (g b)) x bs := by
  induction bs generalizing x with
  | nil => rfl
  | cons b bs ih => simp only [List.map_cons, runUntil_cons, ih]

/-- If every step of `stepC` from a state related to `p` does what the step of
`stepA` from `p` says, with the events mapped by `emap`, then so does every run. -/
theorem runAll_simulates {stepC : σ → α → σ × List E} {stepA : τ → α → τ × List F}
    (R : σ → τ → Prop) (emap : F → E)
    (hstep : ∀ c p a, R c p →
      R (stepC c a).1 (stepA p a).1 ∧ (stepC c a).2 = (stepA p a).2.map emap)
    {c : σ} {p : τ} (h : R c p) (as : List α) :
    R (runAll stepC c as).1 (runAll stepA p as).1 ∧
      (runAll stepC c as).2 = (runAll stepA p as).2.map emap := by
  induction as generalizing c p with
  | nil => exact ⟨h, rfl⟩
  | cons a as ih =>
    obtain ⟨h1, h2⟩ := hstep c p a h
    obtain ⟨h3, h4⟩ := ih h1
    rw [runAll_cons, runAll_cons]
    exact ⟨h3, by simp only [h2, h4, List.map_append]⟩

end Runs

end RdpPortscan
