import BlsSnark.Bls

/-! # The epoch transition gadget

`SingleUpdate::constrain` of `epoch-snark/src/gadgets/single_update.rs`, with the gadgets it calls besides
the BLS gadget (`EpochData::constrain`, `constrain_bool`, and the backend's `is_eq_zero`, `and` and
`conditional_enforce_equal`) as parameters. -/

namespace BlsSnark

/-- `EpochData<E>`: the new epoch block's metadata; `None` stands for a value unknown at setup. --/
structure EpochData (G2 : Type) where
  index : Option UInt16
  epochEntropy : Option (List UInt8)
  parentEntropy : Option (List UInt8)
  maximumNonSigners : UInt32
  publicKeys : List (Option G2)

/-- `SingleUpdate<E>`: the new epoch block's metadata, and the bitmap of the validators who signed it. --/
structure SingleUpdate (G2 : Type) where
  epochData : EpochData G2
  signedBitmap : List (Option Bool)

/-- `SingleUpdate::empty`: the update of the trusted setup, every value unknown, with `EpochData::empty` (not
    in src) given as `emptyEpochData`. --/
def SingleUpdate.empty {G2 : Type} (emptyEpochData : ℕ → ℕ → EpochData G2) (numValidators maximumNonSigners : ℕ) :
    SingleUpdate G2 :=
  ⟨emptyEpochData numValidators maximumNonSigners, List.replicate numValidators none⟩

/-- What `EpochData::constrain` returns: the epoch's fields as wires, its G1 hash, and the serialized
    bits with the auxiliary bits of the hash proved outside the circuit. --/
structure ConstrainedEpochData (A F G1 G2 : Type) where
  index : Wire A F
  maximumNonSigners : Wire A F
  pubkeys : List (Wire A G2)
  messageHash : Wire A G1
  epochEntropy : Wire A F
  parentEntropy : Wire A F
  bits : List (Wire A Bool)
  xofBits : List (Wire A Bool)
  crhBits : List (Wire A Bool)

/-- `ConstrainedEpoch`: the new validators and threshold, the epoch's hash, the aggregate key of the
    previous epoch's signers, the index, the entropies, and the serialized bits. --/
structure ConstrainedEpoch (A F G1 G2 : Type) where
  newPubkeys : List (Wire A G2)
  newMaxNonSigners : Wire A F
  messageHash : Wire A G1
  aggregatePk : Wire A G2
  index : Wire A F
  epochEntropy : Wire A F
  parentEntropy : Wire A F
  bits : List (Wire A Bool)
  xofBits : List (Wire A Bool)
  crhBits : List (Wire A Bool)

/-- The gadgets `constrain` calls besides the BLS gadget. --/
structure EpochGadgets (A F G1 G2 : Type) where
  constrainEpochData : EpochData G2 → Wire A F → Bool → Gadget A (ConstrainedEpochData A F G1 G2)
  isEqZero : Wire A F → Gadget A (Wire A Bool)
  and : Wire A Bool → Wire A Bool → Gadget A (Wire A Bool)
  conditionalEnforceEqual : Wire A F → Wire A F → Wire A Bool → Gadget A Unit
  constrainBool : List (Option Bool) → Gadget A (List (Wire A Bool))

section Contracts
variable {A G1 G2 : Type} {q : ℕ}

/-- What the length facts of `constrain` need: `EpochData::constrain` returns one key wire per key, and
    `constrain_bool` one bit wire per bit. --/
structure EpochGadgets.Lengths {F : Type} (ep : EpochGadgets A F G1 G2) : Prop where
  constrainEpochData_pubkeys : ∀ d i gen cs ed cs', ep.constrainEpochData d i gen cs = (.ok ed, cs') →
    ed.pubkeys.length = d.publicKeys.length
  constrainBool_length : ∀ l cs bits cs', ep.constrainBool l cs = (.ok bits, cs') → bits.length = l.length

/-- Every epoch gadget only appends to the shared constraint system, whatever its outcome. --/
structure EpochGadgets.AppendOnly {F : Type} (ep : EpochGadgets A F G1 G2) : Prop where
  constrainEpochData_appends : ∀ d i gen, (ep.constrainEpochData d i gen).Appends
  isEqZero_appends : ∀ x, (ep.isEqZero x).Appends
  and_appends : ∀ b c, (ep.and b c).Appends
  conditionalEnforceEqual_appends : ∀ x y b, (ep.conditionalEnforceEqual x y b).Appends
  constrainBool_appends : ∀ l, (ep.constrainBool l).Appends

/-- What the entropy check of `constrain` needs besides: `is_eq_zero`, `and` and `conditional_enforce_equal`
    compute and check what they name. --/
structure EpochGadgets.Sound (ep : EpochGadgets A (ZMod q) G1 G2) extends ep.Lengths, ep.AppendOnly : Prop where
  isEqZero : ∀ x, (ep.isEqZero x).Spec (fun a => decide (x a = 0)) fun _ => True
  and : ∀ b c, (ep.and b c).Spec (fun a => b a && c a) fun _ => True
  conditionalEnforceEqual : ∀ x y b, (ep.conditionalEnforceEqual x y b).Spec () fun a => b a = true → x a = y a

/-- The epoch gadgets allocate by shape, as witness allocation does: what `EpochData::constrain` appends and
    returns depends on the epoch data only through its number of keys, and what `constrain_bool` does only
    through the number of bits. --/
structure EpochGadgets.Oblivious {F : Type} (ep : EpochGadgets A F G1 G2) : Prop where
  constrainEpochData : ∀ d d' i gen, d.publicKeys.length = d'.publicKeys.length →
    ep.constrainEpochData d i gen = ep.constrainEpochData d' i gen
  constrainBool : ∀ l l' : List (Option Bool), l.length = l'.length → ep.constrainBool l = ep.constrainBool l'

/-- An assignment of the circuit's variables, by sort and index. --/
structure Assignment (F G1 G2 : Type) where
  fp : Nat → F
  bool : Nat → Bool
  g1 : Nat → G1
  g2 : Nat → G2

/-- Modelled from the spec: `EpochData::constrain`, which derives "the constrained
    index/threshold/pubkeys/message-hash/entropy/bit-serialization bundle" from the raw epoch data (§6),
    here one witness per field and per key, with the hash a witness of its own and no serialized bits
    (hashing and serialization are outside this core, §1), and the monotonic index of §1 as
    `index = previous_index + 1` unless the index is the dummy `0` (the tests chain 2 after 1, 5 after 4);
    `constrain_bool`, one witness per bit. The backend's `is_eq_zero`, `and` and
    `conditional_enforce_equal` compute, and check with one constraint. --/
def refEpochGadgets : EpochGadgets (Assignment (ZMod q) G1 G2) (ZMod q) G1 G2 where
  constrainEpochData d previousIndex _ := do
    let index ← Gadget.newWitness (·.fp)
    Gadget.enforce fun a => decide (index a = 0) || decide (index a = previousIndex a + 1)
    let maximumNonSigners ← Gadget.newWitness (·.fp)
    let pubkeys ← d.publicKeys.mapM fun _ => Gadget.newWitness (·.g2)
    let messageHash ← Gadget.newWitness (·.g1)
    let epochEntropy ← Gadget.newWitness (·.fp)
    let parentEntropy ← Gadget.newWitness (·.fp)
    pure ⟨index, maximumNonSigners, pubkeys, messageHash, epochEntropy, parentEntropy, [], [], []⟩
  isEqZero x := pure fun a => decide (x a = 0)
  and b c := pure fun a => b a && c a
  conditionalEnforceEqual x y b := Gadget.enforce fun a => !b a || decide (x a = y a)
  constrainBool l := l.mapM fun _ => Gadget.newWitness (·.bool)

theorem refEpochGadgets_sound : (refEpochGadgets : EpochGadgets (Assignment (ZMod q) G1 G2) (ZMod q) G1 G2).Sound where
  constrainEpochData_pubkeys d _ _ _ _ _ h := by
    simp only [refEpochGadgets, Gadget.bind_eq_ok, Gadget.pure_apply, Prod.mk.injEq, Except.ok.injEq] at h
    obtain ⟨_, _, -, _, _, -, _, _, -, _, _, hpks, _, _, -, _, _, -, _, _, -, rfl, -⟩ := h
    exact Gadget.mapM_length _ hpks
  constrainBool_length l _ _ _ h := Gadget.mapM_length l h
  constrainEpochData_appends d _ _ :=
    .bind (.newWitness _) fun _ => .bind (Gadget.Spec.enforce _).appends fun _ => .bind (.newWitness _) fun _ =>
      .bind (.mapM (fun _ => .newWitness _) d.publicKeys) fun _ => .bind (.newWitness _) fun _ =>
      .bind (.newWitness _) fun _ => .bind (.newWitness _) fun _ => .pure _
  isEqZero_appends _ := .pure _
  and_appends _ _ := .pure _
  conditionalEnforceEqual_appends _ _ _ := (Gadget.Spec.enforce _).appends
  constrainBool_appends l := .mapM (fun _ => .newWitness _) l
  isEqZero _ := Gadget.Spec.pure _
  and _ _ := Gadget.Spec.pure _
  conditionalEnforceEqual _ _ _ := Gadget.Spec.congr (Gadget.Spec.enforce _) fun _ => by simp [imp_iff_not_or]

theorem refEpochGadgets_oblivious :
    (refEpochGadgets : EpochGadgets (Assignment (ZMod q) G1 G2) (ZMod q) G1 G2).Oblivious where
  constrainEpochData _ _ _ _ h := by simp only [refEpochGadgets, Gadget.mapM_const_of_length _ h]
  constrainBool _ _ h := Gadget.mapM_const_of_length _ h

end Contracts

/-- `Boolean::not`. --/
def Boolean.not {A : Type} (b : Wire A Bool) : Wire A Bool := fun a => !b a

namespace SingleUpdate

variable {A G1 G2 GT : Type} {q : ℕ}
  (ep : EpochGadgets A (ZMod q) G1 G2) (P : PairingVar A G1 G2 GT) (B : Bitmap A (ZMod q))

/-- `SingleUpdate::constrain`: the new epoch's data, the entropy check against the previous epoch when the
    index is not zero and `constrainEntropyBit` is set, and the bitmap checked against the previous epoch's
    keys and threshold. Panics when `numValidators` is not the number of new keys. --/
def constrain (u : SingleUpdate G2) (previousPubkeys : List (Wire A G2))
    (previousEpochIndex previousEpochRandomness previousMaxNonSigners : Wire A (ZMod q))
    (constrainEntropyBit : Wire A Bool) (numValidators : UInt32) (generateConstraintsForHash : Bool) :
    Gadget A (ConstrainedEpoch A (ZMod q) G1 G2) := do
  Gadget.assertEq numValidators.toNat u.epochData.publicKeys.length
  let epochData ← ep.constrainEpochData u.epochData previousEpochIndex generateConstraintsForHash
  let indexBit := Boolean.not (← ep.isEqZero epochData.index)
  let shouldEnforce ← ep.and indexBit constrainEntropyBit
  Gadget.discard (ep.conditionalEnforceEqual previousEpochIndex epochData.parentEntropy shouldEnforce)
  let signedBitmap ← ep.constrainBool u.signedBitmap
  let (messageHash, aggregatedPublicKey) ← BlsVerifyGadget.enforceBitmap P B previousPubkeys signedBitmap
    epochData.messageHash previousMaxNonSigners
  pure {
    newPubkeys := epochData.pubkeys
    newMaxNonSigners := epochData.maximumNonSigners
    messageHash := messageHash
    aggregatePk := aggregatedPublicKey
    index := epochData.index
    epochEntropy := epochData.epochEntropy
    parentEntropy := epochData.parentEntropy
    bits := epochData.bits
    xofBits := epochData.xofBits
    crhBits := epochData.crhBits }

end SingleUpdate

end BlsSnark
