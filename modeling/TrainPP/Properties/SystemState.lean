import TrainPP.Properties.Modes

/-!
# The bytes of a system state

A payload of sixteen bytes is decoded without loss but for one byte, which no field is read from.
The flags of the modes repeat bits of the central state.

* `LanSystemstateDatachanged.unpack_eq_ok_iff`: what the decoder makes of a payload, for every
  payload and whatever it held before.
-/

namespace TrainPP

open Checked Words

/-- The bytes of a word, the low byte first. -/
def wordBytes (a : UInt16) : List UInt8 := [a.toUInt8, (a >>> 8).toUInt8]

theorem wordBytes_be16 (hi lo : UInt8) : wordBytes (be16 hi lo) = [lo, hi] := by
  rw [wordBytes, be16_toUInt8, be16_shiftRight_toUInt8]

namespace LanSystemstateDatachanged

/-- The payload of a system state. The byte before the capabilities is not read. -/
def encode (s : LanSystemstateDatachanged) (reserved : UInt8) : List UInt8 :=
  wordBytes s.mainCurrent.toUInt16 ++ wordBytes s.progCurrent.toUInt16 ++
    wordBytes s.filteredMainCurrent.toUInt16 ++ wordBytes s.temperature.toUInt16 ++
    wordBytes s.supplyVoltage ++ wordBytes s.vccVoltage ++
    [s.centralState, s.centralStateEx, reserved, s.capabilities]

/-- The payload of a consistent state is decoded to the state. -/
theorem decode_encode {s : LanSystemstateDatachanged} (h : s.Consistent) (reserved : UInt8) :
    decode (s.encode reserved) = some s := by
  obtain ⟨hstop, hvoltage, hcircuit, hprogramming⟩ := h
  rw [encode]
  simp only [wordBytes, List.cons_append, List.nil_append, decode, be16_bytes,
    Int16.toInt16_toUInt16, ← hstop, ← hvoltage, ← hcircuit, ← hprogramming]

theorem exists_encode_of_decode {data : List UInt8} {s : LanSystemstateDatachanged}
    (h : decode data = some s) : ∃ reserved, data = s.encode reserved := by
  unfold decode at h
  split at h
  · rename_i reserved capabilities
    cases h
    refine ⟨reserved, ?_⟩
    simp only [encode, UInt16.toUInt16_toInt16, wordBytes_be16, List.cons_append, List.nil_append]
  · cases h

theorem decode_eq_some_iff {data : List UInt8} {s : LanSystemstateDatachanged} :
    decode data = some s ↔ s.Consistent ∧ ∃ reserved, data = s.encode reserved := by
  constructor
  · exact fun h => ⟨consistent_of_decode h, exists_encode_of_decode h⟩
  · rintro ⟨h, reserved, rfl⟩
    exact decode_encode h reserved

/-- **System states**: a payload of another length than sixteen leaves the object as it was; else
the object holds a state of which the payload gives every field, and of which each flag is the bit
of its mode. -/
theorem unpack_eq_ok_iff (self : LanSystemstateDatachanged) (data : List UInt8)
    (s : LanSystemstateDatachanged) :
    self.unpack data = .ok s ↔
      data.length ≠ 16 ∧ s = self ∨ s.Consistent ∧ ∃ reserved, data = s.encode reserved := by
  rw [unpack_eq, ← decode_eq_some_iff, ← decode_eq_none_iff, Except.ok.injEq]
  cases h : decode data with
  | none => simp [eq_comm]
  | some s' => simp

end LanSystemstateDatachanged

end TrainPP
