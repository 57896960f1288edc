import Mathlib.Data.Fin.VecNotation
import TrainPP.Foundations.Bits
import TrainPP.Protocol.Decoders
import TrainPP.Protocol.Parsing

/-!
# The bits of a loco info

Decoding a body of `LAN_X_LOCO_INFO` with all five bytes of functions overwrites the whole object
(`LanXLocoInfo.unpack_eq`), and each entry of `functions` is one bit of the body, which
`functionPosition` places. `LanXLocoInfo.unpack_layout`: a body that lays out given values is
decoded to these values, no two entries share a bit, and flipping the bit of an entry changes the
entry and nothing else.
-/

namespace TrainPP

open Checked Words Bits

/-! ## Places of the functions -/

theorem functionBit_eq_bit (byte : UInt8) {k : ℕ} (hk : k < 8) :
    functionBit byte k = bit byte k := by
  refine flag_eq_bit byte k ?_
  interval_cases k <;> rfl

/-- The byte of the body, and the bit in it, that an entry of `functions` is read from. -/
def functionPosition (i : Fin 32) : ℕ × ℕ :=
  if (i : ℕ) = 0 then (5, 4)
  else if (i : ℕ) < 5 then (5, i - 1)
  else if (i : ℕ) < 13 then (6, i - 5)
  else if (i : ℕ) < 21 then (7, i - 13)
  else if (i : ℕ) < 29 then (8, i - 21)
  else (9, i - 29)

theorem functionPosition_bounds (i : Fin 32) :
    5 ≤ (functionPosition i).1 ∧ (functionPosition i).1 ≤ 9 ∧ (functionPosition i).2 < 8 := by
  revert i
  decide

/-- The bits of the byte 5 behind the functions. -/
theorem functionPosition_ne {i : Fin 32} {k : ℕ} (hk : 5 ≤ k) : functionPosition i ≠ (5, k) := by
  have hlow : (functionPosition i).1 = 5 → (functionPosition i).2 < 5 := by
    revert i
    decide
  intro h
  rw [h] at hlow
  exact absurd (hlow rfl) (Nat.not_lt.2 hk)

/-- The entry that is read from a bit, for the bits that `functionPosition` takes. -/
def functionAt (p : ℕ × ℕ) : ℕ :=
  if p.1 = 5 then if p.2 = 4 then 0 else p.2 + 1 else 8 * p.1 + p.2 - 43

theorem functionPosition_injective : Function.Injective functionPosition := by
  have hat : ∀ i : Fin 32, functionAt (functionPosition i) = i := by decide
  intro i j h
  rw [← Fin.val_inj, ← hat i, ← hat j, h]

/-- What the bytes of functions tell, when all of them count. -/
theorem functionsTold_eq (h hi lo db2 db3 db4 db5 db6 db7 db8 : UInt8) (rest : List UInt8)
    (i : Fin 32) :
    functionsTold db4 db5 db6 db7 (some db8) i =
      some (bitAt (h :: hi :: lo :: db2 :: db3 :: db4 :: db5 :: db6 :: db7 :: db8 :: rest)
        (functionPosition i)) := by
  have hposition : functionPosition i =
      if i = 0 then (5, 4)
      else if i < 5 then (5, (i : ℕ) - 1)
      else if i < 13 then (6, (i : ℕ) - 5)
      else if i < 21 then (7, (i : ℕ) - 13)
      else if i < 29 then (8, (i : ℕ) - 21)
      else (9, (i : ℕ) - 29) := by
    simp only [functionPosition, Fin.ext_iff, Fin.lt_def]
    rfl
  rw [functionsTold, hposition]
  split_ifs with h₀ h₁ h₂ h₃ h₄
  · exact congrArg some (functionBit_eq_bit db4 (by decide))
  · exact congrArg some (functionBit_eq_bit db4 (by omega))
  · exact congrArg some (functionBit_eq_bit db5 (by omega))
  · exact congrArg some (functionBit_eq_bit db6 (by omega))
  · exact congrArg some (functionBit_eq_bit db7 (by omega))
  · exact congrArg some (functionBit_eq_bit db8 (by omega))

namespace LanXLocoInfo

/-! ## Reading a body -/

/-- What a body with all five bytes of functions says. -/
def read (data : List UInt8) : LanXLocoInfo where
  address := be16 (data.getD 1 0 &&& 0x3f) (data.getD 2 0)
  busy := bitAt data (3, 3)
  speedSteps := SpeedSteps.ofByte (data.getD 3 0)
  directionForward := bitAt data (4, 7)
  speed := data.getD 4 0 &&& 0x7f
  doubleTraction := bitAt data (5, 6)
  smartSearch := bitAt data (5, 5)
  functions := Vector.ofFn fun i => bitAt data (functionPosition i)

/-- **A long body overwrites the whole object.** -/
theorem unpack_eq (self : LanXLocoInfo) {data : List UInt8} (h : 11 ≤ data.length) :
    self.unpack data = .ok (read data) := by
  match data, h with
  | h :: hi :: lo :: db2 :: db3 :: db4 :: db5 :: db6 :: db7 :: db8 :: x :: rest, _ =>
    have hbusy : flag db2 0x8 = bit db2 3 := flag_eq_bit db2 3 rfl
    have hdirection : flag db3 0x80 = bit db3 7 := flag_eq_bit db3 7 rfl
    have htraction : flag db4 0x40 = bit db4 6 := flag_eq_bit db4 6 rfl
    have hsearch : flag db4 0x20 = bit db4 5 := flag_eq_bit db4 5 rfl
    have htold := functionsTold_eq h hi lo db2 db3 db4 db5 db6 db7 db8 (x :: rest)
    rw [← toOption_eq_some_iff, toOption_unpack]
    simp only [decode, Option.map_some, LocoUpdate.store, htold, Option.getD_some, hbusy,
      hdirection, htraction, hsearch]
    rfl

@[simp] theorem function_read (data : List UInt8) (i : Fin 32) :
    (read data).function i = bitAt data (functionPosition i) :=
  Vector.getElem_ofFn i.isLt

/-- The object with another entry of the functions. -/
def setFunction (self : LanXLocoInfo) (i : Fin 32) (on : Bool) : LanXLocoInfo :=
  { self with functions := self.functions.setIfInBounds i on }

theorem function_setFunction (self : LanXLocoInfo) (i : Fin 32) (on : Bool) (j : Fin 32) :
    (self.setFunction i on).function j = if i = j then on else self.function j :=
  (Vector.getElem_setIfInBounds j.isLt).trans (if_congr Fin.ext_iff.symm rfl rfl)

/-- Flipping the bit of an entry changes this entry. -/
theorem read_flipAt {data : List UInt8} (h : 11 ≤ data.length) (i : Fin 32) :
    read (flipAt data (functionPosition i)) =
      (read data).setFunction i (!(read data).function i) := by
  obtain ⟨hfirst, hlast, hbit⟩ := functionPosition_bounds i
  have hflip := fun q => bitAt_flipAt (show (functionPosition i).1 < data.length by omega) hbit q
  -- the bytes before those of the functions, and the flags in the byte 5
  have hgetD : ∀ j < 5, (flipAt data (functionPosition i)).getD j 0 = data.getD j 0 :=
    fun j hj => getD_flipAt_of_ne (by omega)
  have hflag : ∀ k, 5 ≤ k → bitAt (flipAt data (functionPosition i)) (5, k) = bitAt data (5, k) :=
    fun k hk => by rw [hflip, decide_eq_false (functionPosition_ne hk), Bool.xor_false]
  have hfunctions : (read (flipAt data (functionPosition i))).functions =
      (read data).functions.setIfInBounds i (!(read data).function i) := by
    refine functions_ext (b := (read data).setFunction i (!(read data).function i)) fun j => ?_
    rw [function_setFunction, function_read, function_read, function_read, hflip]
    by_cases hij : i = j
    · subst hij
      simp
    · have hne : functionPosition i ≠ functionPosition j := functionPosition_injective.ne hij
      rw [if_neg hij, decide_eq_false hne, Bool.xor_false]
  rw [setFunction, ← hfunctions]
  simp only [read, bitAt, hgetD 1 (by decide), hgetD 2 (by decide), hgetD 3 (by decide),
    hgetD 4 (by decide), LanXLocoInfo.mk.injEq, true_and]
  exact ⟨hflag 6 (by decide), hflag 5 (by decide), trivial⟩

end LanXLocoInfo

/-! ## Laying out a body -/

/-- The value of an enumerator of `SpeedSteps`. -/
def SpeedSteps.value : SpeedSteps → UInt8
  | unknown => 255
  | dcc14 => 0
  | dcc28 => 2
  | dcc128 => 4

namespace LanXLocoInfo

/-- The bytes whose bits fill the bits of a body that say nothing. -/
structure Spare where
  db0 : UInt8
  db2 : UInt8
  db4 : UInt8
  db8 : UInt8

/-- The body that says what an object holds, with the given spare bits and the bytes `rest` behind
those of the functions, of which the last is the checksum. -/
def body (v : LanXLocoInfo) (spare : Spare) (rest : List UInt8) : List UInt8 :=
  let F i := v.functions.getD i false
  0xef ::
  ((v.address >>> 8).toUInt8 ||| (spare.db0 &&& 0xc0)) ::
  v.address.toUInt8 ::
  (v.speedSteps.value ||| (if v.busy then 0x08 else 0) ||| (spare.db2 &&& 0xf0)) ::
  (v.speed ||| if v.directionForward then 0x80 else 0) ::
  ofBits ![F 1, F 2, F 3, F 4, F 0, v.smartSearch, v.doubleTraction, bit spare.db4 7] ::
  ofBits (fun k => F (5 + k)) ::
  ofBits (fun k => F (13 + k)) ::
  ofBits (fun k => F (21 + k)) ::
  ofBits ![F 29, F 30, F 31, bit spare.db8 3, bit spare.db8 4, bit spare.db8 5,
    bit spare.db8 6, bit spare.db8 7] ::
  rest

variable {v : LanXLocoInfo} (spare : Spare) (rest : List UInt8)

theorem address_body (ha : LocoAddress v.address) :
    (read (v.body spare rest)).address = v.address := by
  have hlt : (v.address >>> 8).toUInt8.toNat < 2 ^ 6 := by
    rw [toNat_shiftRight_toUInt8]
    rw [LocoAddress] at ha
    omega
  show be16 (((v.address >>> 8).toUInt8 ||| (spare.db0 &&& 0xc0)) &&& 0x3f) v.address.toUInt8 = _
  rw [or_and, and_mask_of_lt 6 rfl hlt, and_and_of_disjoint _ rfl, UInt8.or_zero, be16_bytes]

theorem busy_body (hs : v.speedSteps ≠ .unknown) : (read (v.body spare rest)).busy = v.busy := by
  show bit (v.speedSteps.value ||| (if v.busy then 0x08 else 0) ||| (spare.db2 &&& 0xf0)) 3 = _
  have hspare : bit (spare.db2 &&& 0xf0) 3 = false := by
    rw [bit_and]
    exact Bool.and_false _
  have hvalue : bit v.speedSteps.value 3 = false := by
    cases hv : v.speedSteps with
    | unknown => exact absurd hv hs
    | _ => rfl
  rw [bit_or, bit_or, hvalue, hspare, Bool.false_or, Bool.or_false]
  cases v.busy <;> rfl

theorem speedSteps_body (hs : v.speedSteps ≠ .unknown) :
    (read (v.body spare rest)).speedSteps = v.speedSteps := by
  have hmask : ((v.speedSteps.value ||| (if v.busy then 0x08 else 0) ||| (spare.db2 &&& 0xf0)) &&&
      0x07 : UInt8) = v.speedSteps.value := by
    rw [or_and, or_and, and_and_of_disjoint _ rfl, UInt8.or_zero]
    cases hv : v.speedSteps with
    | unknown => exact absurd hv hs
    | _ => cases v.busy <;> rfl
  show SpeedSteps.ofByte (_ ||| (if v.busy then 0x08 else 0) ||| (spare.db2 &&& 0xf0)) = _
  rw [SpeedSteps.ofByte, hmask]
  cases hv : v.speedSteps with
  | unknown => exact absurd hv hs
  | _ => rfl

theorem directionForward_body (hv : v.speed.toNat < 128) :
    (read (v.body spare rest)).directionForward = v.directionForward := by
  show bit (v.speed ||| if v.directionForward then 0x80 else 0) 7 = _
  rw [bit_or, bit_of_lt (n := 7) hv le_rfl, Bool.false_or]
  cases v.directionForward <;> rfl

theorem speed_body (hv : v.speed.toNat < 128) : (read (v.body spare rest)).speed = v.speed := by
  show (v.speed ||| if v.directionForward then 0x80 else 0) &&& 0x7f = v.speed
  rw [or_and, and_mask_of_lt 7 rfl hv]
  cases v.directionForward <;> exact UInt8.or_zero

theorem doubleTraction_body : (read (v.body spare rest)).doubleTraction = v.doubleTraction :=
  bit_ofBits _ 6

theorem smartSearch_body : (read (v.body spare rest)).smartSearch = v.smartSearch :=
  bit_ofBits _ 5

theorem getD_functions (v : LanXLocoInfo) (i : Fin 32) :
    v.functions.getD i false = v.function i :=
  dif_pos (i.isLt.trans_eq v.functions.size_toArray.symm)

/-- The functions 5 to 28, of which eight take one byte. -/
theorem bit_ofBits_functions {s : ℕ} {i : Fin 32} (h₁ : s ≤ i) (h₂ : (i : ℕ) < s + 8) :
    bit (ofBits fun k => v.functions.getD (s + k) false) (i - s) = v.function i := by
  have hk : (i : ℕ) - s < 8 := by omega
  rw [bit_ofBits _ ⟨i - s, hk⟩, ← getD_functions]
  simp only [Nat.add_sub_cancel' h₁]

theorem functions_body : (read (v.body spare rest)).functions = v.functions := by
  have hfirst : ∀ i : Fin 32, (i : ℕ) ≠ 0 → (i : ℕ) < 5 → i = 1 ∨ i = 2 ∨ i = 3 ∨ i = 4 := by
    decide
  have hlast : ∀ i : Fin 32, ¬(i : ℕ) < 29 → i = 29 ∨ i = 30 ∨ i = 31 := by decide
  apply functions_ext
  intro i
  rw [function_read, functionPosition]
  split_ifs with h₀ h₁ h₂ h₃ h₄
  · obtain rfl : i = 0 := Fin.ext h₀
    exact (bit_ofBits _ 4).trans (getD_functions v 0)
  · rcases hfirst i h₀ h₁ with rfl | rfl | rfl | rfl
    · exact (bit_ofBits _ 0).trans (getD_functions v 1)
    · exact (bit_ofBits _ 1).trans (getD_functions v 2)
    · exact (bit_ofBits _ 2).trans (getD_functions v 3)
    · exact (bit_ofBits _ 3).trans (getD_functions v 4)
  · exact bit_ofBits_functions (Nat.not_lt.1 h₁) h₂
  · exact bit_ofBits_functions (Nat.not_lt.1 h₂) h₃
  · exact bit_ofBits_functions (Nat.not_lt.1 h₃) h₄
  · rcases hlast i h₄ with rfl | rfl | rfl
    · exact (bit_ofBits _ 0).trans (getD_functions v 29)
    · exact (bit_ofBits _ 1).trans (getD_functions v 30)
    · exact (bit_ofBits _ 2).trans (getD_functions v 31)

theorem read_body (ha : LocoAddress v.address) (hs : v.speedSteps ≠ .unknown)
    (hv : v.speed.toNat < 128) : read (v.body spare rest) = v := by
  have haddress := address_body spare rest ha
  have hbusy := busy_body spare rest hs
  have hsteps := speedSteps_body spare rest hs
  have hdirection := directionForward_body spare rest hv
  have hspeed := speed_body spare rest hv
  have htraction := doubleTraction_body (v := v) spare rest
  have hsearch := smartSearch_body (v := v) spare rest
  have hfunctions := functions_body (v := v) spare rest
  generalize read (v.body spare rest) = info at *
  cases info
  cases v
  congr

theorem le_length_body (v : LanXLocoInfo) (h : rest ≠ []) : 11 ≤ (v.body spare rest).length :=
  Nat.add_le_add_right (List.length_pos_of_ne_nil h) 10

/-! ## The layout -/

/-- An entry differs after a flip when the flipped bit is its own. -/
theorem function_read_flipAt_ne_iff {data : List UInt8} {p : ℕ × ℕ} (hp : p.1 < data.length)
    (hk : p.2 < 8) (i : Fin 32) :
    (read (flipAt data p)).function i ≠ (read data).function i ↔ p = functionPosition i := by
  rw [function_read, function_read, bitAt_flipAt hp hk]
  by_cases hpos : p = functionPosition i
  · simp [hpos]
  · simp [hpos]

/-- **Loco infos**: whatever the object held, a body that lays out given values is decoded to these
values. Each entry of `functions` is one bit of the body, no two entries are the same bit, and
flipping a bit of the body changes the entries that are this bit; of the other fields, flipping the
bit of an entry changes none. -/
theorem unpack_layout :
    (∀ (self v : LanXLocoInfo) (spare : Spare) (rest : List UInt8), LocoAddress v.address →
        v.speedSteps ≠ .unknown → v.speed.toNat < 128 → rest ≠ [] →
          self.unpack (v.body spare rest) = .ok v) ∧
      Function.Injective functionPosition ∧
      ∀ (self : LanXLocoInfo) (data : List UInt8), 11 ≤ data.length →
        ∃ info, self.unpack data = .ok info ∧
          ∀ i : Fin 32, info.function i = bitAt data (functionPosition i) ∧
            self.unpack (flipAt data (functionPosition i)) =
              .ok (info.setFunction i (!info.function i)) ∧
            ∀ p : ℕ × ℕ, p.1 < data.length → p.2 < 8 →
              ∃ info', self.unpack (flipAt data p) = .ok info' ∧
                (info'.function i ≠ info.function i ↔ p = functionPosition i) := by
  refine ⟨fun self v spare rest ha hs hv hrest => ?_, functionPosition_injective,
    fun self data h => ⟨read data, self.unpack_eq h, fun i => ⟨?_, ?_, fun p hp hk => ?_⟩⟩⟩
  · rw [self.unpack_eq (le_length_body spare rest v hrest), read_body spare rest ha hs hv]
  · exact function_read data i
  · rw [self.unpack_eq (by rwa [length_flipAt]), read_flipAt h]
  · exact ⟨_, self.unpack_eq (by rwa [length_flipAt]), function_read_flipAt_ne_iff hp hk i⟩

/-- The loco 3 goes forward at the speed 5 of 128, with the function 29 on. -/
def loco3 : LanXLocoInfo where
  address := 3
  busy := true
  speedSteps := .dcc128
  directionForward := true
  speed := 5
  doubleTraction := false
  smartSearch := true
  functions := Vector.ofFn fun i => decide ((i : ℕ) = 29)

theorem unpack_body_loco3 :
    (Z21.fresh ⟨0, 0, .unknown⟩).commandHandlers.lanX.locoInfo.unpack
        (loco3.body ⟨0, 0, 0, 0⟩ [0]) = .ok loco3 ∧
      ∃ info, (Z21.fresh ⟨0, 0, .unknown⟩).commandHandlers.lanX.locoInfo.unpack
          (flipAt (loco3.body ⟨0, 0, 0, 0⟩ [0]) (9, 0)) = .ok info ∧
        info.function 29 ≠ loco3.function 29 := by
  obtain ⟨hbody, -, hbits⟩ := unpack_layout
  have hloco3 := hbody (Z21.fresh ⟨0, 0, .unknown⟩).commandHandlers.lanX.locoInfo loco3
    ⟨0, 0, 0, 0⟩ [0] (by decide) (by decide) (by decide) (by decide)
  obtain ⟨info, hinfo, hentry⟩ := hbits _ _ (le_length_body ⟨0, 0, 0, 0⟩ [0] loco3 (by decide))
  obtain rfl := Except.ok.inj (hinfo.symm.trans hloco3)
  obtain ⟨info', hinfo', hne⟩ := (hentry 29).2.2 (9, 0) (by decide) (by decide)
  exact ⟨hinfo, info', hinfo', hne.2 rfl⟩

end LanXLocoInfo

end TrainPP
