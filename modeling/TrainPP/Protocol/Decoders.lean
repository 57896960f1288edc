import Mathlib.Tactic.IntervalCases
import TrainPP.Z21.Client

/-!
# What a payload says

The messages of the command station, as a reader of the protocol decodes them: by the shape of the
payload, with no handler object in sight. Each decoder here is compared with the `unpack` of the
object that the client keeps for the message; `toOption` forgets which access left the payload, so
that `none` means that some access did.
-/

namespace TrainPP

open Checked Words

/-! ## Versions -/

/-- The version made of the non-zero bytes, the most significant first; there is none when all
bytes are zero. -/
def bcdVersion (bytes : List UInt8) : Option String :=
  if bytes.all (· == 0) then none
  else some (".".intercalate ((bytes.filter (· ≠ 0)).map bcdFragment))

theorem intercalate_eq_foldl (s a : String) (l : List String) :
    s.intercalate (a :: l) = l.foldl (fun a b => a ++ s ++ b) a := by
  induction l generalizing a with
  | nil => rfl
  | cons b l ih => exact ih (a ++ s ++ b)

theorem toOption_decodeBcdVersion (data : List UInt8) (littleEndian : Bool) :
    (decodeBcdVersion data littleEndian).toOption =
      bcdVersion (if littleEndian then data.reverse else data) := by
  rw [decodeBcdVersion, bcdBytes_eq, bcdVersion]
  generalize (if littleEndian then data.reverse else data) = bytes
  cases hf : bytes.filter (· ≠ 0) with
  | nil =>
    have hall : bytes.all (· == 0) := by simpa using List.filter_eq_nil_iff.1 hf
    rw [if_pos hall]
    rfl
  | cons v vs =>
    have hv : v ∈ bytes.filter (· ≠ 0) := by rw [hf]; simp
    obtain ⟨hmem, hne⟩ := List.mem_filter.1 hv
    have hall : ¬bytes.all (· == 0) := fun h =>
      absurd (List.all_eq_true.1 h v hmem) (by simpa using hne)
    rw [if_neg hall, List.map_cons, intercalate_eq_foldl]
    simp [subrange, List.take_of_length_le]

theorem bcdVersion_isSome_iff {bytes : List UInt8} :
    (bcdVersion bytes).isSome ↔ ∃ b ∈ bytes, b ≠ 0 := by
  unfold bcdVersion
  split_ifs with h
  · simpa using h
  · simpa using h

/-! ## Datasets with a test of the size

`decode` is `none` for the lengths that the handler rejects; it then keeps what it held. -/

def LanGetSerialNumber.decode : List UInt8 → Option LanGetSerialNumber
  | [b₀, b₁, b₂, b₃] => some { serialNumber := le32 b₀ b₁ b₂ b₃ }
  | _ => none

theorem LanGetSerialNumber.unpack_eq (self : LanGetSerialNumber) (data : List UInt8) :
    self.unpack data = .ok ((decode data).getD self) := by
  unfold decode
  split
  · rfl
  · rename_i h
    rw [unpack, if_neg]
    · rfl
    · intro hl
      match data, hl with
      | [b₀, b₁, b₂, b₃], _ => exact h _ _ _ _ rfl

def LanGetCode.decode : List UInt8 → Option LanGetCode
  | [b] => some { code := b }
  | _ => none

theorem LanGetCode.unpack_eq (self : LanGetCode) (data : List UInt8) :
    self.unpack data = .ok ((decode data).getD self) := by
  unfold decode
  split
  · rfl
  · rename_i h
    rw [unpack, if_neg]
    · rfl
    · intro hl
      match data, hl with
      | [b], _ => exact h _ rfl

/-- An accepted length whose version bytes are all zero has no decoding: the outer `none`. -/
def LanGetHWInfo.decode : List UInt8 → Option (Option LanGetHWInfo)
  | [b₀, b₁, b₂, b₃, v₀, v₁, v₂, v₃] =>
    (bcdVersion [v₃, v₂, v₁, v₀]).map fun version =>
      some { hwType := le32 b₀ b₁ b₂ b₃, fwVersion := version }
  | _ => some none

theorem LanGetHWInfo.toOption_unpack (self : LanGetHWInfo) (data : List UInt8) :
    (self.unpack data).toOption = (decode data).map (·.getD self) := by
  unfold decode
  split
  · rename_i b₀ b₁ b₂ b₃ v₀ v₁ v₂ v₃
    have hw : subrange [b₀, b₁, b₂, b₃, v₀, v₁, v₂, v₃] 4 8 = .ok [v₀, v₁, v₂, v₃] := rfl
    have hv := toOption_decodeBcdVersion [v₀, v₁, v₂, v₃] true
    rw [unpack, if_pos (by rfl), hw]
    simp only [toOption_bind, toOption_readAt, ok_bind, toOption_pure, hv, List.getElem?_cons_zero,
      List.getElem?_cons_succ, Option.bind_some]
    show (bcdVersion [v₃, v₂, v₁, v₀]).bind _ = _
    cases bcdVersion [v₃, v₂, v₁, v₀] <;> rfl
  · rename_i h
    rw [unpack, if_neg]
    · rfl
    · intro hl
      match data, hl with
      | [_, _, _, _, _, _, _, _], _ => exact h _ _ _ _ _ _ _ _ rfl

def LanSystemstateDatachanged.decode : List UInt8 → Option LanSystemstateDatachanged
  | [b₀, b₁, b₂, b₃, b₄, b₅, b₆, b₇, b₈, b₉, b₁₀, b₁₁, centralState, centralStateEx, _,
      capabilities] =>
    some {
      mainCurrent := (be16 b₁ b₀).toInt16
      progCurrent := (be16 b₃ b₂).toInt16
      filteredMainCurrent := (be16 b₅ b₄).toInt16
      temperature := (be16 b₇ b₆).toInt16
      supplyVoltage := be16 b₉ b₈
      vccVoltage := be16 b₁₁ b₁₀
      centralState, centralStateEx, capabilities
      emergencyStop := flag centralState 0x01
      trackVoltageOff := flag centralState 0x02
      shortCirtcuit := flag centralState 0x04
      programmingMode := flag centralState 0x20 }
  | _ => none

theorem LanSystemstateDatachanged.unpack_eq (self : LanSystemstateDatachanged)
    (data : List UInt8) : self.unpack data = .ok ((decode data).getD self) := by
  unfold decode
  split
  · rfl
  · rename_i h
    rw [unpack, if_neg]
    · rfl
    · intro hl
      match data, hl with
      | [_, _, _, _, _, _, _, _, _, _, _, _, _, _, _, _], _ =>
        exact h _ _ _ _ _ _ _ _ _ _ _ _ _ _ _ _ rfl

/-! ## Datasets and commands without a test of the size

`decode` is `none` for the payloads that the handler reads past the end of. -/

def LanGetBroadcastFlags.decode : List UInt8 → Option LanGetBroadcastFlags
  | b₀ :: b₁ :: b₂ :: b₃ :: _ => some { flags := le32 b₀ b₁ b₂ b₃ }
  | _ => none

theorem LanGetBroadcastFlags.toOption_unpack (self : LanGetBroadcastFlags)
    (data : List UInt8) : (self.unpack data).toOption = decode data := by
  rcases data with _ | ⟨_, _ | ⟨_, _ | ⟨_, _ | ⟨_, _⟩⟩⟩⟩ <;> rfl

def LanGetLocomode.decode : List UInt8 → Option LanGetLocomode
  | hi :: lo :: mode :: _ => some { address := be16 hi lo, mode := ⟨mode⟩ }
  | _ => none

theorem LanGetLocomode.toOption_unpack (self : LanGetLocomode) (data : List UInt8) :
    (self.unpack data).toOption = decode data := by
  rcases data with _ | ⟨_, _ | ⟨_, _ | ⟨_, _⟩⟩⟩ <;> rfl

def LanXTurnoutInfo.decode : List UInt8 → Option LanXTurnoutInfo
  | _ :: hi :: lo :: b :: _ => some { address := be16 hi lo, status := TurnoutStatus.ofByte b }
  | _ => none

theorem LanXTurnoutInfo.toOption_unpack (self : LanXTurnoutInfo) (data : List UInt8) :
    (self.unpack data).toOption = decode data := by
  rcases data with _ | ⟨_, _ | ⟨_, _ | ⟨_, _ | ⟨_, _⟩⟩⟩⟩ <;> rfl

def LanXExtAccessoryInfo.decode : List UInt8 → Option LanXExtAccessoryInfo
  | _ :: hi :: lo :: state :: valid :: _ =>
    some { address := be16 hi lo, state, dataValid := valid == 0x00 }
  | _ => none

theorem LanXExtAccessoryInfo.toOption_unpack (self : LanXExtAccessoryInfo)
    (data : List UInt8) : (self.unpack data).toOption = decode data := by
  rcases data with _ | ⟨_, _ | ⟨_, _ | ⟨_, _ | ⟨_, _ | ⟨_, _⟩⟩⟩⟩⟩ <;> rfl

def LanXCvResult.decode : List UInt8 → Option LanXCvResult
  | _ :: _ :: hi :: lo :: value :: _ => some { cv := be16 hi lo + 1, value }
  | _ => none

theorem LanXCvResult.toOption_unpack (self : LanXCvResult) (data : List UInt8) :
    (self.unpack data).toOption = decode data := by
  rcases data with _ | ⟨_, _ | ⟨_, _ | ⟨_, _ | ⟨_, _ | ⟨_, _⟩⟩⟩⟩⟩ <;> rfl

def LanXGetFirmwareVersionResponse.decode :
    List UInt8 → Option LanXGetFirmwareVersionResponse
  | _ :: _ :: major :: minor :: _ => (bcdVersion [major, minor]).map fun v => { fwVersion := v }
  | _ => none

theorem LanXGetFirmwareVersionResponse.toOption_unpack (self : LanXGetFirmwareVersionResponse)
    (data : List UInt8) : (self.unpack data).toOption = decode data := by
  rcases data with _ | ⟨_, _ | ⟨_, _ | ⟨major, _ | ⟨minor, l⟩⟩⟩⟩
  · rfl
  · rfl
  · rfl
  · rfl
  · show (decodeBcdVersion [major, minor] false >>= fun fwVersion =>
      pure (LanXGetFirmwareVersionResponse.mk fwVersion)).toOption = _
    have hv := toOption_decodeBcdVersion [major, minor] false
    rw [toOption_bind, hv]
    show (bcdVersion [major, minor]).bind _ = (bcdVersion [major, minor]).map _
    cases bcdVersion [major, minor] <;> rfl

/-! ## Locos

A body of `LAN_X_LOCO_INFO` overwrites the functions that its length reaches, and only those. -/

/-- The bit `k` of a byte of functions. -/
def functionBit (byte : UInt8) (k : ℕ) : Bool := flag byte (1 <<< UInt8.ofNat k)

theorem getElem_readFunctionValues (functions : Vector Bool 32) (indexStart : Fin 25)
    (byte : UInt8) {i : ℕ} (hi : i < 32) :
    (readFunctionValues functions indexStart byte)[i] =
      if indexStart ≤ i ∧ i < indexStart + 8 then functionBit byte (i - indexStart)
      else functions[i] := by
  have hs := indexStart.isLt
  simp only [readFunctionValues, Vector.getElem_set]
  by_cases h : indexStart ≤ i ∧ i < indexStart + 8
  · rw [if_pos h]
    obtain ⟨k, rfl⟩ := Nat.exists_eq_add_of_le h.1
    have hk : k < 8 := by omega
    rw [Nat.add_sub_cancel_left]
    interval_cases k <;> simp <;> rfl
  · rw [if_neg h]
    repeat rw [if_neg (by omega)]

/-- What the bytes of functions of a body tell about each function. -/
def functionsTold (db4 db5 db6 db7 : UInt8) (db8 : Option UInt8) (i : Fin 32) : Option Bool :=
  if i = 0 then some (functionBit db4 4)
  else if i < 5 then some (functionBit db4 (i - 1))
  else if i < 13 then some (functionBit db5 (i - 5))
  else if i < 21 then some (functionBit db6 (i - 13))
  else if i < 29 then some (functionBit db7 (i - 21))
  else db8.map fun byte => functionBit byte (i - 29)

theorem ofFn_functionsTold (functions : Vector Bool 32) (db4 db5 db6 db7 : UInt8) :
    (Vector.ofFn fun i => (functionsTold db4 db5 db6 db7 none i).getD functions[i]) =
      readFunctionValues (readFunctionValues (readFunctionValues
        (readFirstFunctions functions db4) 5 db5) 13 db6) 21 db7 := by
  ext i hi
  simp only [Vector.getElem_ofFn, getElem_readFunctionValues, readFirstFunctions,
    Vector.getElem_set]
  interval_cases i <;> rfl

theorem ofFn_functionsTold_some (functions : Vector Bool 32) (db4 db5 db6 db7 db8 : UInt8) :
    (Vector.ofFn fun i => (functionsTold db4 db5 db6 db7 (some db8) i).getD functions[i]) =
      readLastFunctions
        (Vector.ofFn fun i => (functionsTold db4 db5 db6 db7 none i).getD functions[i]) db8 := by
  ext i hi
  simp only [readLastFunctions, Vector.getElem_set, Vector.getElem_ofFn]
  interval_cases i <;> rfl

/-- What a body of `LAN_X_LOCO_INFO` tells. -/
structure LocoUpdate where
  address : UInt16
  busy : Bool
  speedSteps : SpeedSteps
  directionForward : Bool
  speed : UInt8
  doubleTraction : Bool
  smartSearch : Bool
  functions : Fin 32 → Option Bool

/-- The object after an update: functions of which the update tells nothing stay as they were. -/
def LocoUpdate.store (u : LocoUpdate) (self : LanXLocoInfo) : LanXLocoInfo where
  address := u.address
  busy := u.busy
  speedSteps := u.speedSteps
  directionForward := u.directionForward
  speed := u.speed
  doubleTraction := u.doubleTraction
  smartSearch := u.smartSearch
  functions := Vector.ofFn fun i => (u.functions i).getD self.functions[i]

/-- An entry of the functions. -/
def LanXLocoInfo.function (self : LanXLocoInfo) (i : Fin 32) : Bool := self.functions.get i

theorem LanXLocoInfo.functions_ext {a b : LanXLocoInfo} (h : ∀ i, a.function i = b.function i) :
    a.functions = b.functions :=
  Vector.ext fun i hi => h ⟨i, hi⟩

@[simp] theorem LocoUpdate.function_store (u : LocoUpdate) (self : LanXLocoInfo) (i : Fin 32) :
    (u.store self).function i = (u.functions i).getD (self.function i) :=
  Vector.getElem_ofFn i.isLt

/-- The last byte of functions counts only when another byte follows it. -/
def LanXLocoInfo.decode : List UInt8 → Option LocoUpdate
  | _ :: hi :: lo :: db2 :: db3 :: db4 :: db5 :: db6 :: db7 :: rest =>
    some {
      address := be16 (hi &&& 0x3f) lo
      busy := flag db2 0x8
      speedSteps := SpeedSteps.ofByte db2
      directionForward := flag db3 0x80
      speed := db3 &&& 0x7f
      doubleTraction := flag db4 0x40
      smartSearch := flag db4 0x20
      functions := functionsTold db4 db5 db6 db7 <|
        match rest with
        | db8 :: _ :: _ => some db8
        | _ => none }
  | _ => none

theorem LanXLocoInfo.toOption_unpack (self : LanXLocoInfo) (data : List UInt8) :
    (self.unpack data).toOption = (decode data).map (·.store self) := by
  rcases data with _ | ⟨h, _ | ⟨hi, _ | ⟨lo, _ | ⟨db2, _ | ⟨db3, _ | ⟨db4, _ | ⟨db5, _ | ⟨db6,
    _ | ⟨db7, rest⟩⟩⟩⟩⟩⟩⟩⟩⟩
  -- a body that ends before `db7`
  iterate 9 rfl
  rw [unpack]
  simp only [decode, LocoUpdate.store, toOption_bind, toOption_readAt, List.getElem?_cons_zero,
    List.getElem?_cons_succ, Option.bind_some, Option.map_some]
  rcases rest with _ | ⟨db8, _ | ⟨x, rest⟩⟩
  · rw [ofFn_functionsTold]
    rfl
  · rw [ofFn_functionsTold]
    rfl
  · rw [ofFn_functionsTold_some, ofFn_functionsTold, if_pos (by simp)]
    simp only [toOption_bind, toOption_readAt, List.getElem?_cons_zero, List.getElem?_cons_succ,
      Option.bind_some, toOption_pure]

end TrainPP
