import BlsSnark.Epoch
import BlsSnark.Verify

/-! # What one transition enforces

A successful `SingleUpdate::constrain` ran its steps in order (`constrain_ok_inv`); the lengths it saw, the
aggregate key it returns and the entropy check it adds are read off that lemma. -/

namespace BlsSnark
namespace SingleUpdate
open Gadget BlsVerifyGadget

variable {A G1 G2 GT : Type} {q : ℕ} {ep : EpochGadgets A (ZMod q) G1 G2} {P : PairingVar A G1 G2 GT}
  {B : Bitmap A (ZMod q)} {u : SingleUpdate G2} {prevKeys : List (Wire A G2)}
  {prevIndex prevEntropy prevMax : Wire A (ZMod q)} {entropyBit : Wire A Bool} {n : UInt32} {gen : Bool}
  {cs cs' : ConstraintSystem A} {out : ConstrainedEpoch A (ZMod q) G1 G2}

theorem constrain_ok_inv
    (h : u.constrain ep P B prevKeys prevIndex prevEntropy prevMax entropyBit n gen cs = (.ok out, cs')) :
    n.toNat = u.epochData.publicKeys.length ∧
    ∃ ed cs₁ z cs₂ c cs₃ bits cs₄ apk,
      ep.constrainEpochData u.epochData prevIndex gen cs = (.ok ed, cs₁) ∧
      ep.isEqZero ed.index cs₁ = (.ok z, cs₂) ∧
      ep.and (Boolean.not z) entropyBit cs₂ = (.ok c, cs₃) ∧
      ep.constrainBool u.signedBitmap (ep.conditionalEnforceEqual prevIndex ed.parentEntropy c cs₃).2 =
        (.ok bits, cs₄) ∧
      enforceBitmap P B prevKeys bits ed.messageHash prevMax cs₄ = (.ok (ed.messageHash, apk), cs') ∧
      out = ⟨ed.pubkeys, ed.maximumNonSigners, ed.messageHash, apk, ed.index, ed.epochEntropy, ed.parentEntropy,
        ed.bits, ed.xofBits, ed.crhBits⟩ := by
  unfold constrain at h
  by_cases hn : n.toNat = u.epochData.publicKeys.length
  · rw [bind_of_ok (assertEq_of_eq hn cs)] at h
    obtain ⟨ed, cs₁, h₁, h⟩ := bind_eq_ok.mp h
    obtain ⟨z, cs₂, h₂, h⟩ := bind_eq_ok.mp h
    obtain ⟨c, cs₃, h₃, h⟩ := bind_eq_ok.mp h
    obtain ⟨_, _, h₄, h⟩ := bind_eq_ok.mp h
    obtain ⟨bits, cs₄, h₅, h⟩ := bind_eq_ok.mp h
    obtain ⟨⟨mh, apk⟩, cs₅, h₆, h⟩ := bind_eq_ok.mp h
    cases h
    cases h₄
    obtain ⟨rfl, -⟩ := enforceBitmap_ok_inv h₆
    exact ⟨hn, ed, cs₁, z, cs₂, c, cs₃, bits, cs₄, apk, h₁, h₂, h₃, h₅, h₆, rfl⟩
  · rw [bind_of_error (assertEq_of_ne hn cs)] at h
    cases h

theorem constrain_of_ne (hn : n.toNat ≠ u.epochData.publicKeys.length) :
    u.constrain ep P B prevKeys prevIndex prevEntropy prevMax entropyBit n gen cs =
      (.error (.assertEqFailed n.toNat u.epochData.publicKeys.length), cs) :=
  bind_of_error (assertEq_of_ne hn cs)

theorem constrain_prefix (hep : ep.AppendOnly) {ed : ConstrainedEpochData A (ZMod q) G1 G2} {z c : Wire A Bool}
    {bits : List (Wire A Bool)} {cs₁ cs₂ cs₃ cs₄ : ConstraintSystem A}
    (h₁ : ep.constrainEpochData u.epochData prevIndex gen cs = (.ok ed, cs₁))
    (h₂ : ep.isEqZero ed.index cs₁ = (.ok z, cs₂)) (h₃ : ep.and (Boolean.not z) entropyBit cs₂ = (.ok c, cs₃))
    (h₄ : ep.constrainBool u.signedBitmap (ep.conditionalEnforceEqual prevIndex ed.parentEntropy c cs₃).2 =
      (.ok bits, cs₄)) :
    cs.constraints <+: cs₄.constraints :=
  ((hep.constrainEpochData_appends _ _ _).prefix_of_eq h₁).trans <|
    ((hep.isEqZero_appends _).prefix_of_eq h₂).trans <| ((hep.and_appends _ _).prefix_of_eq h₃).trans <|
    (hep.conditionalEnforceEqual_appends _ _ _ cs₃).trans <| (hep.constrainBool_appends _).prefix_of_eq h₄

theorem constrain_lengths (hep : ep.Lengths)
    (h : u.constrain ep P B prevKeys prevIndex prevEntropy prevMax entropyBit n gen cs = (.ok out, cs')) :
    prevKeys.length = u.signedBitmap.length ∧ u.epochData.publicKeys.length = n.toNat ∧
      out.newPubkeys.length = n.toNat := by
  obtain ⟨hn, ed, _, _, _, _, _, bits, _, _, h₁, -, -, h₄, h₅, rfl⟩ := constrain_ok_inv h
  rw [← (enforceBitmap_ok_inv h₅).2, hep.constrainBool_length _ _ _ _ h₄, hn]
  exact ⟨rfl, rfl, hep.constrainEpochData_pubkeys _ _ _ _ _ _ h₁⟩

/-! ### The entropy check -/

/-- With index `2` after index `1` and the entropy check on, `constrain` compares the parent entropy with the
    previous epoch's index: a parent entropy equal to the previous randomness `0` but not to the previous
    index `1` leaves the constraint system unsatisfied, though the index follows the previous one. --/
theorem constrain_entropy_against_index :
    let u : SingleUpdate (ZMod 5) := ⟨⟨some 2, none, none, 0, []⟩, []⟩
    let a : Assignment (ZMod 7) (ZMod 5) (ZMod 5) := ⟨fun i => if i = 0 then 2 else 0, fun _ => true, fun _ => 0, fun _ => 0⟩
    ∃ out cs', u.constrain refEpochGadgets (refPairingVar toyEngine) (refBitmap (q := 7)) [] (fun _ => 1)
        (fun _ => 0) (fun _ => 0) (fun _ => true) 0 false ⟨0, []⟩ = (.ok out, cs') ∧
      out.index a ≠ 0 ∧ out.parentEntropy a = 0 ∧ cs'.isSatisfied a = false :=
  ⟨_, _, rfl, by decide, rfl, rfl⟩

/-- `constrain` drops the result of `conditional_enforce_equal`: on a backend whose equality check fails,
    it still returns `Ok`, and the constraint system it leaves holds where the parent entropy differs from
    the previous index. --/
theorem constrain_drops_entropy_error :
    let ep : EpochGadgets (Assignment (ZMod 7) (ZMod 5) (ZMod 5)) (ZMod 7) (ZMod 5) (ZMod 5) :=
      { refEpochGadgets with conditionalEnforceEqual := fun _ _ _ => fail (.synthesis .unsatisfiable) }
    let u : SingleUpdate (ZMod 5) := ⟨⟨some 2, none, none, 0, []⟩, []⟩
    let a : Assignment (ZMod 7) (ZMod 5) (ZMod 5) := ⟨fun i => if i = 0 then 2 else 0, fun _ => true, fun _ => 0, fun _ => 0⟩
    (∀ x y b cs, (ep.conditionalEnforceEqual x y b cs).1 = .error (.synthesis .unsatisfiable)) ∧
    ∃ out cs', u.constrain ep (refPairingVar toyEngine) refBitmap [] (fun _ => 1) (fun _ => 0) (fun _ => 0)
        (fun _ => true) 0 false ⟨0, []⟩ = (.ok out, cs') ∧
      out.index a ≠ 0 ∧ out.parentEntropy a ≠ 1 ∧ cs'.isSatisfied a = true :=
  ⟨fun _ _ _ _ => rfl, _, _, rfl, by decide, by decide, rfl⟩

theorem constrain_eq_of_shape (hob : ep.Oblivious) {u u' : SingleUpdate G2}
    (hkeys : u.epochData.publicKeys.length = u'.epochData.publicKeys.length)
    (hbits : u.signedBitmap.length = u'.signedBitmap.length) :
    u.constrain ep P B prevKeys prevIndex prevEntropy prevMax entropyBit n gen =
      u'.constrain ep P B prevKeys prevIndex prevEntropy prevMax entropyBit n gen := by
  simp only [constrain, hkeys, hob.constrainEpochData _ _ _ _ hkeys, hob.constrainBool _ _ hbits]

section Contracts
variable [AddCommGroup G2]

/-- Under every assignment that satisfies the constraints `constrain` adds, the aggregate key it returns is
    the sum of the previous epoch's keys whose bit is set in the bitmap it constrained from `u`, and at most
    `previous_max_non_signers` bits are unset; the message hash, keys and threshold it returns are those
    of `u`'s own epoch data. --/
theorem constrain_spec (hP : P.Aggregation) (hB : B.Sound) (hep : ep.AppendOnly)
    (h : u.constrain ep P B prevKeys prevIndex prevEntropy prevMax entropyBit n gen cs = (.ok out, cs')) :
    (∃ ed cs₁, ep.constrainEpochData u.epochData prevIndex gen cs = (.ok ed, cs₁) ∧
      out.messageHash = ed.messageHash ∧ out.newPubkeys = ed.pubkeys ∧ out.newMaxNonSigners = ed.maximumNonSigners) ∧
    ∃ bits csb csb' new, ep.constrainBool u.signedBitmap csb = (.ok bits, csb') ∧ bits.length = prevKeys.length ∧
      cs'.constraints = cs.constraints ++ new ∧
      ∀ a, Holds new a → out.aggregatePk a = (signers (prevKeys.map (· a)) (bits.map (· a))).sum ∧
        (bits.map (· a)).count false ≤ (prevMax a).val := by
  obtain ⟨-, ed, cs₁, z, cs₂, c, cs₃, bits, cs₄, apk, h₁, h₂, h₃, h₄, h₅, rfl⟩ := constrain_ok_inv h
  have hlen := (enforceBitmap_ok_inv h₅).2
  obtain ⟨mid, hmid⟩ := constrain_prefix hep h₁ h₂ h₃ h₄
  obtain ⟨happ, new, hnew, hmean⟩ := (enforceBitmap_spec hP hB hlen ed.messageHash prevMax).of_eq h₅
  obtain ⟨-, rfl⟩ := Prod.mk.inj happ
  refine ⟨⟨ed, cs₁, h₁, rfl, rfl, rfl⟩, bits, _, cs₄, mid ++ new, h₄, hlen, by rw [hnew, ← hmid, List.append_assoc],
    fun a ha => ⟨rfl, (hmean a).mp (holds_append.mp ha).2⟩⟩

/-- The entropy check that `constrain` adds, and that stays in the constraint system it returns, holds
    exactly when the new epoch's parent entropy equals the previous epoch's index wherever the new index is
    not zero and the flag is set. --/
theorem constrain_entropy_check (hP : P.Aggregation) (hB : B.Sound) (hep : ep.Sound)
    (h : u.constrain ep P B prevKeys prevIndex prevEntropy prevMax entropyBit n gen cs = (.ok out, cs')) :
    ∃ new, new <:+: cs'.constraints ∧
      ∀ a, Holds new a ↔ (out.index a ≠ 0 → entropyBit a = true → prevIndex a = out.parentEntropy a) := by
  obtain ⟨-, ed, cs₁, z, cs₂, c, cs₃, bits, cs₄, apk, -, h₂, h₃, h₄, h₅, rfl⟩ := constrain_ok_inv h
  obtain ⟨rfl, -⟩ := (hep.isEqZero _).of_eq h₂
  obtain ⟨rfl, -⟩ := (hep.and _ _).of_eq h₃
  obtain ⟨cs₃', new, hcee, happ, hS⟩ := hep.conditionalEnforceEqual prevIndex ed.parentEntropy _ cs₃
  rw [hcee] at h₄
  have p₄ := (hep.constrainBool_appends _).prefix_of_eq h₄
  have p₅ := (enforceBitmap_spec hP hB (enforceBitmap_ok_inv h₅).2 ed.messageHash prevMax).appends.prefix_of_eq h₅
  refine ⟨new, (happ ▸ List.suffix_append _ _ : new <:+ cs₃'.constraints).isInfix.trans (p₄.trans p₅).isInfix,
    fun a => ?_⟩
  rw [hS]
  simp [Boolean.not]

end Contracts

/-! ### Bitmaps of the wrong length -/

/-- On a bitmap whose length differs from the keys', `enforce_bitmap` and `verify` fail and leave the
    constraint system as `enforce_maximum_occurrences_in_bitmap` left it: its constraints stay and no
    aggregation constraint is added; when that check succeeded, the failure is the `assert_eq!` of
    `enforce_aggregated_pubkeys`. `constrain`, which passes it the previous keys and the bitmap it
    constrained from `u`, never succeeds when those differ in length. --/
theorem enforceBitmap_mismatch [AddCommGroup G1] [AddCommGroup G2] [CommGroup GT] {E : PairingEngine G1 G2 GT}
    (hep : ep.Lengths) {keys : List (Wire A G2)} {bits : List (Wire A Bool)}
    (hne : bits.length ≠ keys.length) (H σ : Wire A G1) (t : Wire A (ZMod q)) (cs : ConstraintSystem A) :
    (∃ e, enforceBitmap P B keys bits H t cs = (.error e, (B.enforceMaximumOccurrencesInBitmap bits t false cs).2) ∧
      verify E P B keys bits H σ t cs = (.error e, (B.enforceMaximumOccurrencesInBitmap bits t false cs).2) ∧
      ((B.enforceMaximumOccurrencesInBitmap bits t false cs).1 = .ok () →
        e = .assertEqFailed bits.length keys.length)) ∧
    (u.signedBitmap.length ≠ prevKeys.length →
      ∀ out cs', u.constrain ep P B prevKeys prevIndex prevEntropy prevMax entropyBit n gen cs ≠ (.ok out, cs')) := by
  refine ⟨?_, fun hu out cs' h => hu ?_⟩
  · rcases hocc : B.enforceMaximumOccurrencesInBitmap bits t false cs with ⟨_ | ⟨⟩, cs₁⟩
    · exact ⟨_, bind_of_error hocc, bind_of_error (bind_of_error hocc), fun h => nomatch h⟩
    · have he : enforceBitmap P B keys bits H t cs = (.error (.assertEqFailed bits.length keys.length), cs₁) := by
        rw [enforceBitmap, bind_of_ok hocc]
        exact bind_of_error (bind_of_error (assertEq_of_ne hne cs₁))
      exact ⟨_, he, bind_of_error he, fun _ => rfl⟩
  · obtain ⟨-, _, _, _, _, _, _, _, _, _, -, -, -, h₄, h₅, -⟩ := constrain_ok_inv h
    rw [← hep.constrainBool_length _ _ _ _ h₄, (enforceBitmap_ok_inv h₅).2]

theorem enforceBitmap_mismatch_toy :
    let P := refPairingVar (A := Assignment (ZMod 7) (ZMod 5) (ZMod 5)) toyEngine
    let B := refBitmap (A := Assignment (ZMod 7) (ZMod 5) (ZMod 5)) (q := 7)
    let ep : EpochGadgets (Assignment (ZMod 7) (ZMod 5) (ZMod 5)) (ZMod 7) (ZMod 5) (ZMod 5) := refEpochGadgets
    let u : SingleUpdate (ZMod 5) := ⟨⟨some 1, none, none, 0, []⟩, [some true]⟩
    let keys : List (Wire (Assignment (ZMod 7) (ZMod 5) (ZMod 5)) (ZMod 5)) := []
    let bits : List (Wire (Assignment (ZMod 7) (ZMod 5) (ZMod 5)) Bool) := [fun _ => true]
    bits.length ≠ keys.length ∧
    (∃ e, enforceBitmap P B keys bits (fun _ => 0) (fun _ => 0) ⟨0, []⟩ =
        (.error e, (B.enforceMaximumOccurrencesInBitmap bits (fun _ => 0) false ⟨0, []⟩).2) ∧
      verify toyEngine P B keys bits (fun _ => 0) (fun _ => 0) (fun _ => 0) ⟨0, []⟩ =
        (.error e, (B.enforceMaximumOccurrencesInBitmap bits (fun _ => 0) false ⟨0, []⟩).2) ∧
      ((B.enforceMaximumOccurrencesInBitmap bits (fun _ => 0) false ⟨0, []⟩).1 = .ok () →
        e = .assertEqFailed bits.length keys.length)) ∧
    (u.signedBitmap.length ≠ keys.length →
      ∀ out cs', u.constrain ep P B keys (fun _ => 0) (fun _ => 0) (fun _ => 0) (fun _ => true) 0 false ⟨0, []⟩ ≠
        (.ok out, cs')) :=
  ⟨by decide, enforceBitmap_mismatch refEpochGadgets_sound.toLengths (by decide) _ _ _ _⟩

/-- The occupancy constraint of `enforce_bitmap` stays after the length check fails: the constraint system
    had no constraint before the call and has one after it. --/
theorem enforceBitmap_mismatch_appends :
    let r := enforceBitmap (refPairingVar (A := Unit) toyEngine) (refBitmap (q := 7)) [] [fun _ => true]
      (fun _ => 0) (fun _ => 0) ⟨0, []⟩
    r.1 = .error (.assertEqFailed 1 0) ∧ r.2.constraints.length = 1 :=
  ⟨rfl, rfl⟩

end SingleUpdate
end BlsSnark
