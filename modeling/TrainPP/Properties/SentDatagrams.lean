import TrainPP.Properties.Destinations
import TrainPP.Protocol.Bodies

/-!
# Which requests are packed to well-formed datagrams

A request is packed to a dataset without a LAN_X body, to a LAN_X body with its checksum, or, when
the encoder refuses an argument, to a LAN_X body without bytes (`Request.packed_of_encodable`,
`Request.pack_of_not_encodable`). The last is sent all the same, and is the one case in which the
datagram is not well formed (`Request.wellFormedDatagram_pack_iff`). So a session sends well-formed
datagrams exactly when the requests that it sends are not refused
(`Session.wellFormedDatagram_sent_iff`).
-/

namespace TrainPP

open Runs

/-- One dataset, whose total size comes first, and whose body, if it is a LAN_X body, is not empty
and passes the test of the checksum. -/
structure WellFormedDatagram (datagram : List UInt8) : Prop where
  isFrame : Dataset.format.IsFrame datagram
  lanX : (Dataset.ofFrame datagram).id = DataSet.lanX.id →
    (Dataset.ofFrame datagram).data ≠ [] ∧
      LanX.checkChecksum (Dataset.ofFrame datagram).data = .ok true

/-- The forms that a packed request has when no argument is refused. -/
inductive Packed : List UInt8 → Prop
  | dataset (ds : DataSet) (data : List UInt8) (hds : ds ≠ .lanX) (h : data.length ≤ 7) :
    Packed (Z21DataSet.pack ds.id data)
  | command (d : List UInt8) (h : d.length ≤ 7) : Packed (LanX.pack (appendChecksum d))

theorem length_appendChecksum (d : List UInt8) : (appendChecksum d).length = d.length + 1 :=
  List.length_append

theorem Packed.wellFormedDatagram {datagram : List UInt8} (h : Packed datagram) :
    WellFormedDatagram datagram := by
  cases h with
  | dataset ds data hds h =>
    refine ⟨isFrame_pack (by omega), fun hid => absurd (DataSet.id_injective ?_) hds⟩
    rwa [ofFrame_pack] at hid
  | command d h =>
    have hlen := length_appendChecksum d
    refine ⟨isFrame_pack (by omega), fun _ => ?_⟩
    rw [LanX.pack, ofFrame_pack]
    exact ⟨appendChecksum_ne_nil d, LanX.checkChecksum_appendChecksum d⟩

@[simp] theorem LanSetBroadcastFlags.length_packData (flags : UInt32) :
    (packData flags).length = 4 := rfl

@[simp] theorem LanGetLocomode.length_packData (address : UInt16) :
    (packData address).length = 2 := rfl

@[simp] theorem LanSetLocomode.length_packData (address : UInt16) (mode : Locomode) :
    (packData address mode).length = 3 := rfl

/-- A LAN_X dataset without a body. -/
theorem not_wellFormedDatagram_pack_nil : ¬WellFormedDatagram (LanX.pack []) := fun h =>
  (h.lanX rfl).1 rfl

namespace Request

/-- The encoder of the request does not refuse its arguments. -/
def Encodable : Request → Prop
  | lanXMmWriteByte register _ => register ≤ 78
  | lanXSetLocoFunctionGroup _ group _ => group ∈ FunctionGroup.enumerators
  | _ => True

theorem packed_of_encodable {r : Request} (h : r.Encodable) : Packed r.pack := by
  cases r with
  | getSerialNumber => exact .dataset .lanGetSerialNumber [] (by decide) (by decide)
  | getCode => exact .dataset .lanGetCode [] (by decide) (by decide)
  | getHWInfo => exact .dataset .lanGetHwinfo [] (by decide) (by decide)
  | logoff => exact .dataset .lanLogoff [] (by decide) (by decide)
  | setBroadcastFlags flags => exact .dataset .lanSetBroadcastflags _ (by decide) (by simp)
  | getBroadcastFlags => exact .dataset .lanGetBroadcastflags [] (by decide) (by decide)
  | getLocomode address => exact .dataset .lanGetLocomode _ (by decide) (by simp)
  | setLocomode address mode => exact .dataset .lanSetLocomode _ (by decide) (by simp)
  | getTurnoutmode address => exact .dataset .lanGetTurnoutmode _ (by decide) (by simp)
  | setTurnoutmode address mode => exact .dataset .lanSetTurnoutmode _ (by decide) (by simp)
  | systemstateGetData => exact .dataset .lanSystemstateGetdata [] (by decide) (by decide)
  | lanXMmWriteByte register value =>
    rw [pack, LanXMmWriteByte.pack, if_pos (show register ≤ 78 from h)]
    exact .command _ (by simp)
  | lanXSetLocoFunctionGroup address group functions =>
    rw [pack, LanXSetLocoFunctionGroup.pack, if_pos (show group ∈ _ from h)]
    exact .command _ (by simp [locoAddressBytes])
  | _ => exact .command _ (by simp [locoAddressBytes, pomCvBytes, pomAccessoryBytes])

theorem pack_of_not_encodable {r : Request} (h : ¬r.Encodable) : r.pack = LanX.pack [] := by
  cases r with
  | lanXMmWriteByte register value =>
    exact congrArg LanX.pack (if_neg (show ¬register ≤ 78 from h))
  | lanXSetLocoFunctionGroup address group functions =>
    exact congrArg LanX.pack (if_neg (show group ∉ FunctionGroup.enumerators from h))
  | _ => exact absurd trivial h

theorem wellFormedDatagram_of_encodable {r : Request} (h : r.Encodable) :
    WellFormedDatagram r.pack :=
  (packed_of_encodable h).wellFormedDatagram

theorem encodable_of_wellFormedDatagram {r : Request} (hwf : WellFormedDatagram r.pack) :
    r.Encodable := by
  by_contra h
  rw [pack_of_not_encodable h] at hwf
  exact not_wellFormedDatagram_pack_nil hwf

/-- **Requests on the wire**: the datagram of a request is one dataset that begins with its size
and, if it is a LAN_X dataset, has a body that the client itself would accept, exactly when the
encoder of the request does not refuse its arguments. -/
theorem wellFormedDatagram_pack_iff (r : Request) : WellFormedDatagram r.pack ↔ r.Encodable :=
  ⟨encodable_of_wellFormedDatagram, wellFormedDatagram_of_encodable⟩

/-- To write a byte to the register 79. -/
theorem not_wellFormedDatagram_mmWriteByte :
    ¬WellFormedDatagram (Request.lanXMmWriteByte 79 0).pack :=
  not_wellFormedDatagram_pack_nil

end Request

/-! ## Sessions -/

/-- The datagrams sent in a run after a successful `connect` are well formed exactly when no request
that is sent in the run is refused. -/
theorem Session.wellFormedDatagram_sent_iff {E : Type} {resolve : String → String → Option E}
    {host port : String} {peer : E} (hresolve : resolve host port = some peer) (unspecified : E)
    (z : Z21) {es : List (Event E)} {s : Session E}
    (hrun : runAll Session.step
      ((Session.new host port unspecified z).connect resolve true).1 es = .ok s) :
    (∀ p ∈ s.sent, WellFormedDatagram p.1) ↔ ∀ r, Event.request r true ∈ es → r.Encodable := by
  have hopen := congrArg Link.socketOpen
    (Session.link_connect (s := Session.new host port unspecified z) hresolve)
  have halong := along_iff_forall_mem
    (P := fun e : Event E => ∀ d ∈ e.datagram?, WellFormedDatagram d) hrun
  rw [Session.forall_sent_iff (P := fun p => WellFormedDatagram p.1) hopen hrun, halong,
    Session.sent_connect]
  constructor
  · rintro ⟨-, h⟩ r hr
    exact Request.encodable_of_wellFormedDatagram (h _ hr r.pack rfl)
  · refine fun h => ⟨fun p hp => absurd hp List.not_mem_nil, fun e he d hd => ?_⟩
    cases e with
    | listen sends =>
      cases sends with
      | false => cases hd
      | true =>
        cases hd
        exact Request.wellFormedDatagram_of_encodable (r := .getSerialNumber) trivial
    | request r sends =>
      cases sends with
      | false => cases hd
      | true =>
        cases hd
        exact Request.wellFormedDatagram_of_encodable (h r he)
    | arrival sender datagram => cases hd

end TrainPP
