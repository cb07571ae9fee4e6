import BlsSnark.Chain

/-! # The light client

What the whole proof is for (§1), said without circuits: each transition signed by a quorum of the
validators before it, and one aggregated signature valid on the transitions' hashes. The circuit refines
it (`verifyEpochs_sound`). -/

namespace BlsSnark

/-! ### What a light client accepts -/

section Abstract
variable {G1 G2 GT : Type} [AddCommGroup G1] [AddCommGroup G2] [CommGroup GT]

/-- From the validator set `prev` (keys and threshold), the transitions to the sets `sets` carry the keys
    `apks`, each a quorum key of the set before it. --/
def QuorumChain : List G2 × ℕ → List (List G2 × ℕ) → List G2 → Prop
  | _, [], [] => True
  | prev, next :: sets, apk :: apks => QuorumKey prev.1 prev.2 apk ∧ QuorumChain next sets apks
  | _, _, _ => False

/-- The light client accepts the run of validator sets `sets` from `genesis`, with the transitions' message
    hashes `hs` and the aggregated signature `σ`: each transition is signed by a quorum of the set before it,
    and `σ` is valid on the batch of the hashes under the quorums' keys (§1, §4.1). --/
def LightClientValid (E : PairingEngine G1 G2 GT) (genesis : List G2 × ℕ) (sets : List (List G2 × ℕ))
    (hs : List G1) (σ : G1) : Prop :=
  ∃ apks, QuorumChain genesis sets apks ∧ BatchValid E apks hs σ

end Abstract

/-- The validator set of a context under an assignment: its keys and its threshold. --/
def EpochContext.validators {A G2 : Type} {q : ℕ} (ctx : EpochContext A (ZMod q) G2) (a : A) : List G2 × ℕ :=
  (ctx.pubkeys.map (· a), (ctx.maxNonSigners a).val)

/-- A chain whose every transition carries a quorum key of the context before it is a quorum chain of the
    validator sets it runs through. --/
theorem ChainAll.quorumChain {A G1 G2 : Type} [AddCommGroup G2] {q : ℕ} {a : A} :
    ∀ {ctx : EpochContext A (ZMod q) G2} {us : List (SingleUpdate G2)} {outs : List (ConstrainedEpoch A (ZMod q) G1 G2)},
      ChainAll (fun ctx _ c => QuorumKey (ctx.pubkeys.map (· a)) (ctx.maxNonSigners a).val (c.aggregatePk a))
        ctx us outs →
      QuorumChain (ctx.validators a) (outs.map (·.context.validators a)) (outs.map (·.aggregatePk a))
  | _, [], [], _ => trivial
  | _, _ :: _, _ :: _, ⟨h, hs⟩ => ⟨h, hs.quorumChain⟩

/-! ### The enclosing proof -/

section Proof
variable {A G1 G2 GT : Type} [AddCommGroup G1] [AddCommGroup G2] [CommGroup GT] {q : ℕ}
  (E : PairingEngine G1 G2 GT) (ep : EpochGadgets A (ZMod q) G1 G2) (P : PairingVar A G1 G2 GT)
  (B : Bitmap A (ZMod q))

/-- Modelled from the spec: the enclosing proof of §1 and §2, which constrains the chain of transitions and
    then checks with `batch_verify` one aggregated signature over their message hashes under the aggregate
    keys that "must have produced the signature authorizing this transition" (§4.2, step 6). --/
def verifyEpochs (constrainEntropyBit : Wire A Bool) (numValidators : UInt32) (generateConstraintsForHash : Bool)
    (ctx : EpochContext A (ZMod q) G2) (us : List (SingleUpdate G2)) (aggregatedSignature : Wire A G1) :
    Gadget A (List (ConstrainedEpoch A (ZMod q) G1 G2)) := do
  let epochs ← SingleUpdate.constrainChain ep P B constrainEntropyBit numValidators generateConstraintsForHash ctx us
  BlsVerifyGadget.batchVerify E P (epochs.map (·.aggregatePk)) (epochs.map (·.messageHash)) aggregatedSignature
  pure epochs

end Proof

section Refinement
open Gadget
variable {A G1 G2 GT : Type} [AddCommGroup G1] [AddCommGroup G2] [CommGroup GT] {q : ℕ}
  {E : PairingEngine G1 G2 GT} {ep : EpochGadgets A (ZMod q) G1 G2} {P : PairingVar A G1 G2 GT}
  {B : Bitmap A (ZMod q)} {entropyBit : Wire A Bool} {n : UInt32} {gen : Bool} {ctx : EpochContext A (ZMod q) G2}
  {us : List (SingleUpdate G2)} {σ : Wire A G1} {outs : List (ConstrainedEpoch A (ZMod q) G1 G2)}
  {cs cs' : ConstraintSystem A}

/-- The circuit refines the light client: under the contracts, every assignment satisfying what a successful
    run of the enclosing proof adds is accepted by the light client, from the validators of the context it
    starts from through those every transition hands on, with the transitions' message hashes and the
    aggregated signature. --/
theorem verifyEpochs_sound (hP : P.Sound E) (hB : B.Sound) (hep : ep.Sound)
    (h : verifyEpochs E ep P B entropyBit n gen ctx us σ cs = (.ok outs, cs')) (a : A) (ha : cs'.isSatisfied a) :
    LightClientValid E (ctx.validators a) (outs.map (·.context.validators a)) (outs.map (·.messageHash a)) (σ a) := by
  obtain ⟨epochs, cs₁, h₁, h⟩ := bind_eq_ok.mp h
  obtain ⟨_, cs₂, h₂, h⟩ := bind_eq_ok.mp h
  cases h
  have hchain := (SingleUpdate.constrainChain_holds (R := fun a ctx _ c => QuorumKey (ctx.pubkeys.map (· a))
    (ctx.maxNonSigners a).val (c.aggregatePk a))
    (fun _ _ _ _ _ h => SingleUpdate.constrain_quorumKey hP.toAggregation hB hep.toAppendOnly h) h₁).2
  obtain ⟨-, new, happ, hS⟩ := (BlsVerifyGadget.batchVerify_spec hP (by simp) σ).of_eq h₂
  rw [isSatisfied_iff, happ, holds_append] at ha
  refine ⟨_, (hchain a ha.1).quorumChain, ?_⟩
  simpa using ((hS a).mp ha.2).2

theorem verifyEpochs_sound_toy :
    let E := toyEngine
    let ep : EpochGadgets (Assignment (ZMod 7) (ZMod 5) (ZMod 5)) (ZMod 7) (ZMod 5) (ZMod 5) := refEpochGadgets
    let ctx : EpochContext (Assignment (ZMod 7) (ZMod 5) (ZMod 5)) (ZMod 7) (ZMod 5) :=
      ⟨[fun _ => 1], fun _ => 0, fun _ => 0, fun _ => 0⟩
    let us : List (SingleUpdate (ZMod 5)) := [⟨⟨some 1, none, none, 0, [some 3]⟩, [some true]⟩]
    let σ : Wire (Assignment (ZMod 7) (ZMod 5) (ZMod 5)) (ZMod 5) := fun _ => 2
    let a : Assignment (ZMod 7) (ZMod 5) (ZMod 5) := ⟨fun _ => 0, fun _ => true, fun _ => 2, fun _ => 3⟩
    ∃ outs cs', verifyEpochs E ep (refPairingVar E) refBitmap (fun _ => false) 1 false ctx us σ ⟨0, []⟩ =
        (.ok outs, cs') ∧ cs'.isSatisfied a = true ∧
      LightClientValid E (ctx.validators a) (outs.map (·.context.validators a)) (outs.map (·.messageHash a)) (σ a) := by
  intro E ep ctx us σ a
  have h : verifyEpochs E ep (refPairingVar E) refBitmap (fun _ => false) 1 false ctx us σ ⟨0, []⟩ = (.ok _, _) :=
    rfl
  exact ⟨_, _, h, by decide,
    verifyEpochs_sound (refPairingVar_sound _) refBitmap_sound refEpochGadgets_sound h a (by decide)⟩

end Refinement

end BlsSnark
