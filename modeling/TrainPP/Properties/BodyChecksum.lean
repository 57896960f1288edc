import TrainPP.Protocol.Bodies

/-!
# What the checksum of a LAN_X body detects

`LanX.checkChecksum_detects`: the test of the checksum accepts exactly the bodies that
`appendChecksum` makes, and rejects an accepted body of which one byte has been changed.
-/

namespace TrainPP

namespace LanX

/-- A body that passes the test is what `appendChecksum` makes of it without its last byte. -/
theorem checkChecksum_eq_true_iff_eq {p : List UInt8} :
    checkChecksum p = .ok true ↔ p = appendChecksum p.dropLast := by
  constructor
  · intro h
    obtain ⟨hne, hb⟩ := checkChecksum_eq_true_iff.1 h
    have hlast := List.dropLast_append_getLast hne
    rw [← hlast] at hb
    rw [appendChecksum, ← isBalancedBody_concat_iff.1 hb, hlast]
  · intro h
    rw [h]
    exact checkChecksum_appendChecksum _

theorem checkChecksum_set {p : List UInt8} (h : checkChecksum p = .ok true) {i : ℕ}
    (hi : i < p.length) {b : UInt8} (hb : b ≠ p[i]) : checkChecksum (p.set i b) = .ok false := by
  obtain ⟨hne, hbalanced⟩ := checkChecksum_eq_true_iff.1 h
  refine checkChecksum_eq_false_iff.2 ⟨mt (List.set_eq_nil_iff i b).1 hne, ?_⟩
  rw [IsBalancedBody, selfInverse_xor.isBalanced_set_iff hbalanced hi]
  exact hb

/-- **The checksum**: what `appendChecksum` makes is accepted, nothing else is, and a body that is
accepted is rejected after a change of any one of its bytes. -/
theorem checkChecksum_detects :
    (∀ d, checkChecksum (appendChecksum d) = .ok true) ∧
      (∀ p, checkChecksum p = .ok true ↔ p = appendChecksum p.dropLast) ∧
      ∀ p, checkChecksum p = .ok true → ∀ (i : ℕ) (hi : i < p.length) (b : UInt8), b ≠ p[i] →
        checkChecksum (p.set i b) = .ok false :=
  ⟨checkChecksum_appendChecksum, fun _ => checkChecksum_eq_true_iff_eq,
    fun _ h _ hi _ hb => checkChecksum_set h hi hb⟩

/-- `LAN_X_SET_TRACK_POWER_OFF`, of which the second byte becomes that of
`LAN_X_SET_TRACK_POWER_ON`. -/
theorem checkChecksum_trackPowerOff_set :
    checkChecksum ((appendChecksum [0x21, 0x80]).set 1 0x81) = .ok false :=
  checkChecksum_detects.2.2 _ (checkChecksum_detects.1 _) 1 (by decide) 0x81 (by decide)

end LanX

end TrainPP
