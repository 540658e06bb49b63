import RdpPortscan.TpktStream
import RdpPortscan.X224
import RdpPortscan.SecInfo

/-!
# Length fields and their widths

Four encoders write a length into a fixed-width field: `TPKT.Write` the frame
size in 16 bits, `TPKT.SendFastPath` the frame size in the 15 bits under the
`0x8000` marker, `RDPInfo.Serialize` each text field's byte count in 16 bits,
and `NewClientConnectionRequestPDU` its length byte in 8 bits. None of them
checks the size first, and none can refuse an input: each converts with Go's
`uint16(...)` or `uint8(...)`, which keeps the value modulo the field's width.

This module states what each field holds for every input, as the value read
back from the bytes written: the size the encoder computes, modulo the width.
For the frames and the text fields that size is the one the field describes,
so the field is exact when it fits, the bounds the round trips of `TpktStream`
and `SecInfo` assume. The connection request computes its size before the
CR/LF marker is added, so its length byte leaves out the marker's two bytes
even when it fits (`X224`).
-/

namespace RdpPortscan

/-! ## Setting the marker bit -/

/-- Setting bit 15 of a 16-bit number keeps its low 15 bits. -/
theorem or_two_pow_15 {m : Nat} (hm : m < 2 ^ 16) : m ||| 2 ^ 15 = 2 ^ 15 + m % 2 ^ 15 := by
  have hr := Nat.mod_lt m (show 2 ^ 15 > 0 by decide)
  rcases (by omega : m < 2 ^ 15 ∨ 2 ^ 15 ≤ m) with hlt | hge
  · -- bit 15 is clear: setting it adds `2 ^ 15`
    rw [Nat.mod_eq_of_lt hlt, Nat.or_comm, ← Nat.mul_one (2 ^ 15)]
    exact (Nat.mul_add_lt_is_or hlt 1).symm
  · -- bit 15 is already set
    have hsplit : m = 2 ^ 15 ||| m % 2 ^ 15 := by
      have := Nat.mul_add_lt_is_or hr 1
      rw [Nat.mul_one] at this
      omega
    have hset : m ||| 2 ^ 15 = m := by
      conv_lhs => rw [hsplit]
      rw [Nat.or_assoc, Nat.or_comm (m % 2 ^ 15), ← Nat.or_assoc, Nat.or_self, ← hsplit]
    omega

/-- `or_two_pow_15` as `simp` leaves the fast-path length field. -/
@[simp] theorem mod_65536_or_32768 (n : Nat) : n % 65536 ||| 32768 = 32768 + n % 32768 := by
  rw [show (32768 : Nat) = 2 ^ 15 from rfl, show (65536 : Nat) = 2 ^ 16 from rfl, or_two_pow_15 (Nat.mod_lt n (by decide)),
    Nat.mod_mod_of_dvd n (by decide : 2 ^ 15 ∣ 2 ^ 16)]

/-! ## Every length field is written modulo its width -/

theorem length_fields_modulo_width :
    (∀ p : Bytes, ((readUint16BE ((TPKT.write p).drop 2)).map fun r => r.1.toNat) =
        some ((p.length + 4) % 2 ^ 16)) ∧
      (∀ (secFlag : BitVec 8) (p : Bytes),
        ((readUint16BE ((TPKT.sendFastPath secFlag p).drop 1)).map fun r => r.1.toNat) =
          some (2 ^ 15 + (p.length + 3) % 2 ^ 15)) ∧
      (∀ (packExtendedInfo : RDPExtendedInfo → Bytes) (calls : List Setter) (hasExtended : Bool),
        let units := fun f => (utf16Encode ((lastSet f calls).getD "")).length
        ((readCounts 5 (((calls.foldl Client.set Client.new).info.serialize packExtendedInfo
            hasExtended).drop 8)).map fun r => r.1.map BitVec.toNat) =
          some [2 * units .domain % 2 ^ 16, 2 * units .userName % 2 ^ 16,
            2 * units .password % 2 ^ 16, 0, 0]) ∧
      (∀ c : Bytes, (newClientConnectionRequestPDU c).len.toNat = (14 + c.length) % 2 ^ 8) := by
  refine ⟨fun p => by simp [TPKT.write, writeUInt8], fun secFlag p => by
    simp [TPKT.sendFastPath, writeUInt8], fun packExtendedInfo calls hasExtended => ?_, fun c => by
    rw [len_newClientConnectionRequestPDU, BitVec.toNat_ofNat]⟩
  -- the five counts `Serialize` writes after the two 32-bit words
  have hcount : ∀ v, (cbOf (encodeCredential v)).toNat = 2 * (utf16Encode v).length % 2 ^ 16 := by
    intro v
    simp only [cbOf, length_encodeCredential, BitVec.toNat_ofInt]
    omega
  have hcounts : ∀ rest,
      readCounts 5 ((((fieldStrings calls).map encodeCredential).map cbOf).flatMap writeUInt16LE ++
        rest) = some (((fieldStrings calls).map encodeCredential).map cbOf, rest) :=
    readCounts_append (((fieldStrings calls).map encodeCredential).map cbOf)
  have hheader : ∀ a b : BitVec 32, ∀ rest : Bytes,
      (writeUInt32LE a ++ (writeUInt32LE b ++ rest)).drop 8 = rest := fun _ _ _ => rfl
  rw [serialize_eq, fields_after_setters, List.append_assoc, List.append_assoc, List.append_assoc,
    hheader, hcounts, Option.map_some']
  simp only [fieldStrings, List.map_cons, List.map_nil, hcount]
  rfl

/-- A payload of `65532` bytes makes a frame of `2 ^ 16` bytes, which
`TPKT.Write` sends with the length field `0`. -/
theorem write_length_field_wraps :
    (List.replicate 65532 (0 : BitVec 8)).length + 4 = 2 ^ 16 ∧
      (TPKT.write (List.replicate 65532 0)).take 4 = [3, 0, 0, 0] := by
  refine ⟨by rw [List.length_replicate]; rfl, ?_⟩
  rw [TPKT.write, List.take_left' (by rfl), List.length_replicate]
  rfl

end RdpPortscan
