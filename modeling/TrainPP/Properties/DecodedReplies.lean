import TrainPP.Protocol.Bodies
import TrainPP.Properties.ReceiveSafety

/-!
# What a decoded reply keeps of earlier ones

One object decodes all replies of a kind. What it holds after a reply depends on the reply alone,
but for a loco info of at most ten bytes, which leaves the functions 29 to 31 as the last longer one
told them, for whichever loco, and for a firmware version of zero bytes, from which no version is
made (`LanX.selected_unpack_runAll_iff`).
-/

namespace TrainPP

open Checked LastWriter Runs

/-! ## The selected command object -/

/-- The fields of a command object. -/
inductive CommandFields
  | turnoutInfo (object : LanXTurnoutInfo)
  | extAccessoryInfo (object : LanXExtAccessoryInfo)
  | cvResult (object : LanXCvResult)
  | locoInfo (object : LanXLocoInfo)
  | getFirmwareVersionResponse (object : LanXGetFirmwareVersionResponse)
  /-- The other objects have none. -/
  | empty
  deriving DecidableEq

namespace LanX

def fields (self : LanX) : LanXCommands → CommandFields
  | .lanXTurnoutInfo => .turnoutInfo self.turnoutInfo
  | .lanXExtAccessoryInfo => .extAccessoryInfo self.extAccessoryInfo
  | .lanXCvResult => .cvResult self.cvResult
  | .lanXLocoInfo => .locoInfo self.locoInfo
  | .lanXGetFirmwareVersionResponse =>
    .getFirmwareVersionResponse self.getFirmwareVersionResponse
  | _ => .empty

/-- The fields of the object that `m_command` points to. -/
def selected (self : LanX) : Option CommandFields := self.mCommand.map self.fields

end LanX

/-! ## One reply over two handlers -/

theorem LocoUpdate.store_eq_store_iff {u : LocoUpdate} {a b : LanXLocoInfo} :
    u.store a = u.store b ↔ ∀ i, u.functions i = none → a.function i = b.function i := by
  constructor
  · intro h i hi
    have hfunction := congrArg (·.function i) h
    simpa [hi] using hfunction
  · intro h
    have hfunctions : (u.store a).functions = (u.store b).functions := by
      apply LanXLocoInfo.functions_ext
      intro i
      rw [function_store, function_store]
      cases hi : u.functions i with
      | none => exact h i hi
      | some b => rfl
    simp only [store, LanXLocoInfo.mk.injEq, true_and]
    exact hfunctions

theorem functionsTold_eq_none_iff {db4 db5 db6 db7 : UInt8} {db8 : Option UInt8} {i : Fin 32} :
    functionsTold db4 db5 db6 db7 db8 i = none ↔ 29 ≤ i ∧ db8 = none := by
  have hle : 29 ≤ i ↔ ¬(i : ℕ) < 29 := Fin.not_lt.symm
  unfold functionsTold
  split_ifs with h₀ h₁ h₂ h₃ h₄
  · exact iff_of_false (by simp) fun h => absurd (h₀ ▸ h.1) (by decide)
  · exact iff_of_false (by simp) fun h => hle.1 h.1 (Nat.lt_trans h₁ (by decide))
  · exact iff_of_false (by simp) fun h => hle.1 h.1 (Nat.lt_trans h₂ (by decide))
  · exact iff_of_false (by simp) fun h => hle.1 h.1 (Nat.lt_trans h₃ (by decide))
  · exact iff_of_false (by simp) fun h => hle.1 h.1 h₄
  · rw [Option.map_eq_none_iff]
    exact (and_iff_right (hle.2 h₄)).symm

/-- A body tells nothing about the last three functions when it has at most ten bytes. -/
theorem LanXLocoInfo.functions_eq_none_iff {data : List UInt8} {u : LocoUpdate}
    (h : decode data = some u) (i : Fin 32) :
    u.functions i = none ↔ 29 ≤ i ∧ data.length ≤ 10 := by
  unfold decode at h
  split at h
  · rename_i rest
    cases h
    rw [functionsTold_eq_none_iff]
    rcases rest with _ | ⟨_, _ | ⟨_, rest⟩⟩ <;> simp
  · cases h

namespace LanX

theorem selected_store_eq_iff {l₁ l₂ : LanX} {m : LanXMessage} :
    (store { l₁ with mCommand := m.command } m).selected =
        (store { l₂ with mCommand := m.command } m).selected ↔
      ∀ u, m = .locoInfo u → u.store l₁.locoInfo = u.store l₂.locoInfo := by
  cases m with
  | locoInfo u => simp [store, selected, fields, LanXMessage.command]
  | _ => exact iff_of_true rfl fun _ h => LanXMessage.noConfusion h

theorem decode_of_selectCommand {body : List UInt8} {c : LanXCommands}
    (h : selectCommand body = .ok (some c)) :
    LanXMessage.decode body = LanXMessage.ofCommand body c := by
  rw [LanXMessage.decode, h]
  rfl

/-- Both handlers read the body to its end, and the objects of its command are then the same. -/
def SameSelected (l₁ l₂ : LanX) (body : List UInt8) : Prop :=
  ∃ m₁ m₂, l₁.unpack body = .ok m₁ ∧ l₂.unpack body = .ok m₂ ∧ m₁.selected = m₂.selected

theorem unpack_iff_of_intact {body : List UInt8} (hi : Intact body) {l l' : LanX} :
    l.unpack body = .ok l' ↔
      ∃ m, LanXMessage.decode body = some m ∧ store { l with mCommand := m.command } m = l' := by
  rw [← toOption_eq_some_iff, toOption_unpack l (ne_nil_of_intact hi), if_pos hi,
    Option.map_eq_some_iff]

/-- A loco info leaves the functions to differ that it tells nothing about. -/
theorem store_eq_store_iff_of_decode {body : List UInt8} {u : LocoUpdate}
    (h : LanXLocoInfo.decode body = some u) {a b : LanXLocoInfo} :
    u.store a = u.store b ↔
      (body.length ≤ 10 → ∀ i : Fin 32, 29 ≤ i → a.function i = b.function i) := by
  rw [LocoUpdate.store_eq_store_iff]
  simp only [LanXLocoInfo.functions_eq_none_iff h]
  exact ⟨fun hall hshort i hi => hall i ⟨hi, hshort⟩, fun hall i hi => hall hi.2 i hi.1⟩

/-- **One reply over two handlers**: a body that reaches far enough is read to its end and makes the
same object over both, except that no version is made of zero bytes, and that a loco info of at most
ten bytes leaves the last three functions to differ if they differed. -/
theorem sameSelected_iff {body : List UInt8} {c : LanXCommands}
    (hb : checkChecksum body = .ok true) (hc : selectCommand body = .ok (some c))
    (hlen : minLength (body.headD 0) ≤ body.length) (l₁ l₂ : LanX) :
    SameSelected l₁ l₂ body ↔
      (body.head? = some 0xf3 → ∃ b ∈ (body.take 4).drop 2, b ≠ 0) ∧
        (c = .lanXLocoInfo → body.length ≤ 10 →
          ∀ i : Fin 32, 29 ≤ i → l₁.locoInfo.function i = l₂.locoInfo.function i) := by
  have hi := checkChecksum_eq_true_iff_intact.1 hb
  have hversion := (complete_iff body).trans (and_iff_right hlen)
  rw [← hversion, ← LanXMessage.isSome_decode_iff (ne_nil_of_intact hi)]
  simp only [SameSelected, unpack_iff_of_intact hi]
  cases hm : LanXMessage.decode body with
  | none => simp
  | some m =>
    rw [decode_of_selectCommand hc] at hm
    have hcommand := LanXMessage.command_of_ofCommand hm
    have hobjects : (∃ m₁ m₂ : LanX,
        (∃ m', some m = some m' ∧ store { l₁ with mCommand := m'.command } m' = m₁) ∧
          (∃ m', some m = some m' ∧ store { l₂ with mCommand := m'.command } m' = m₂) ∧
            m₁.selected = m₂.selected) ↔
        (store { l₁ with mCommand := m.command } m).selected =
          (store { l₂ with mCommand := m.command } m).selected := by simp
    rw [hobjects, selected_store_eq_iff, and_iff_right Option.isSome_some]
    constructor
    · rintro h rfl
      obtain ⟨u, hu, rfl⟩ := Option.map_eq_some_iff.1 hm
      exact (store_eq_store_iff_of_decode hu).1 (h u rfl)
    · rintro h u rfl
      obtain rfl : LanXCommands.lanXLocoInfo = c := Option.some.inj hcommand
      obtain ⟨v, hv, huv⟩ := Option.map_eq_some_iff.1 hm
      obtain rfl := LanXMessage.locoInfo.inj huv
      exact (store_eq_store_iff_of_decode hv).2 (h rfl)

end LanX

/-! ## Histories -/

/-- What a dataset tells about a function, of whichever loco. -/
def Dataset.toldFunction (i : Fin 32) (d : Dataset) : Option Bool :=
  match d.message with
  | some (.lanX (.locoInfo u)) => u.functions i
  | _ => none

/-- What the datasets of a list told last about a function. -/
def lastFunction (i : Fin 32) (ds : List Dataset) : Bool :=
  (lastSome (Dataset.toldFunction i) ds).getD false

namespace Z21

/-- Whether the object of the loco infos holds a function as on. -/
def functionOn (i : Fin 32) (z : Z21) : Bool := z.commandHandlers.lanX.locoInfo.function i

/-- A dataset overwrites an entry of the functions when it tells something about it. -/
theorem functionOn_handleDataset {z z' : Z21} {d : Dataset} (h : z.handleDataset d = .ok z')
    (i : Fin 32) : z'.functionOn i = (d.toldFunction i).getD (z.functionOn i) := by
  obtain ⟨m, hm, rfl⟩ := handleDataset_eq_ok_iff.1 h
  rw [Dataset.toldFunction, hm]
  cases m with
  | corrupted =>
    rw [receive, functionOn, handlers_runCommand]
    rfl
  | lanX body =>
    cases body with
    | locoInfo u => exact u.function_store _ i
    | _ => rfl
  | _ => rfl

theorem functionOn_runAll {u : Uninitialized} {ds : List Dataset} {z : Z21}
    (h : runAll handleDataset (fresh u) ds = .ok z) (i : Fin 32) :
    z.functionOn i = lastFunction i ds := by
  have hfresh : (fresh u).functionOn i = false := Vector.getElem_replicate i.isLt
  rw [lastFunction, ← foldl_getD, ← hfresh]
  exact runAll_simulates (fun d _ z z' hz => functionOn_handleDataset hz i) h

end Z21

/-- **Replies and histories**: over any two histories, a body that reaches far enough is read to its
end and makes the same object, unless it is a firmware version of zero bytes, or a loco info of at
most ten bytes and the histories told different things last about one of the functions 29 to 31. -/
theorem LanX.selected_unpack_runAll_iff {u₁ u₂ : Uninitialized} {ds₁ ds₂ : List Dataset}
    {z₁ z₂ : Z21} (h₁ : runAll Z21.handleDataset (Z21.fresh u₁) ds₁ = .ok z₁)
    (h₂ : runAll Z21.handleDataset (Z21.fresh u₂) ds₂ = .ok z₂) {body : List UInt8}
    {c : LanXCommands} (hb : checkChecksum body = .ok true)
    (hc : selectCommand body = .ok (some c)) (hlen : minLength (body.headD 0) ≤ body.length) :
    SameSelected z₁.commandHandlers.lanX z₂.commandHandlers.lanX body ↔
      (body.head? = some 0xf3 → ∃ b ∈ (body.take 4).drop 2, b ≠ 0) ∧
        (c = .lanXLocoInfo → body.length ≤ 10 →
          ∀ i : Fin 32, 29 ≤ i → lastFunction i ds₁ = lastFunction i ds₂) := by
  simp only [← Z21.functionOn_runAll h₁, ← Z21.functionOn_runAll h₂]
  exact sameSelected_iff hb hc hlen _ _

/-- The loco 3, with the function 29 on. -/
def longLocoInfo : List UInt8 := [0xef, 0, 3, 4, 0x80, 0, 0, 0, 0, 1, 0x69]

/-- The loco 5, without the byte of the functions 29 to 31. -/
def shortLocoInfo : List UInt8 := [0xef, 0, 5, 4, 0x80, 0, 0, 0, 0, 0x6e]

/-- The short loco info in a new client, and once more. -/
theorem LanX.selected_unpack_shortLocoInfo :
    ∃ z, runAll Z21.handleDataset (Z21.fresh ⟨0, 0, .unknown⟩) [⟨14, 0x40, shortLocoInfo⟩] = .ok z ∧
      SameSelected (Z21.fresh ⟨0, 0, .unknown⟩).commandHandlers.lanX z.commandHandlers.lanX
        shortLocoInfo := by
  obtain ⟨z, hz⟩ := ((Z21.fresh ⟨0, 0, .unknown⟩).exists_runAll_handleDataset_iff
    [⟨14, 0x40, shortLocoInfo⟩]).2 (by decide)
  have hb : checkChecksum shortLocoInfo = .ok true := by decide
  have h := selected_unpack_runAll_iff (runAll_nil _ (Z21.fresh ⟨0, 0, .unknown⟩)) hz hb rfl
    (by decide)
  exact ⟨z, hz, h.2 (by decide)⟩

/-- The short loco info in a new client, and after the long one of another loco. -/
theorem LanX.not_selected_unpack_longLocoInfo :
    ∃ z, runAll Z21.handleDataset (Z21.fresh ⟨0, 0, .unknown⟩) [⟨15, 0x40, longLocoInfo⟩] = .ok z ∧
      checkChecksum shortLocoInfo = .ok true ∧
      selectCommand shortLocoInfo = .ok (some .lanXLocoInfo) ∧ shortLocoInfo.length = 10 ∧
      ∃ m₁ m₂,
        (Z21.fresh ⟨0, 0, .unknown⟩).commandHandlers.lanX.unpack shortLocoInfo = .ok m₁ ∧
        z.commandHandlers.lanX.unpack shortLocoInfo = .ok m₂ ∧ m₁.selected ≠ m₂.selected := by
  obtain ⟨z, hz⟩ := ((Z21.fresh ⟨0, 0, .unknown⟩).exists_runAll_handleDataset_iff
    [⟨15, 0x40, longLocoInfo⟩]).2 (by decide)
  obtain ⟨m, hm⟩ := Option.isSome_iff_exists.1
    ((LanXMessage.isSome_decode_iff (List.cons_ne_nil _ _)).2
      (by decide : Complete shortLocoInfo))
  have hunpack : ∀ l : LanX, l.unpack shortLocoInfo = .ok _ := fun l =>
    (unpack_iff_of_intact (by decide)).2 ⟨m, hm, rfl⟩
  refine ⟨z, hz, by decide, rfl, rfl, _, _, hunpack _, hunpack _, fun h => ?_⟩
  have hsame := (sameSelected_iff (by decide) rfl (by decide) _ _).1
    ⟨_, _, hunpack _, hunpack _, h⟩
  have h29 := hsame.2 rfl le_rfl 29 (by decide)
  have hlast : lastFunction 29 [] = lastFunction 29 [⟨15, 0x40, longLocoInfo⟩] :=
    (Z21.functionOn_runAll (runAll_nil _ (Z21.fresh ⟨0, 0, .unknown⟩)) 29).symm.trans
      (h29.trans (Z21.functionOn_runAll hz 29))
  exact absurd hlast (by decide)

end TrainPP
