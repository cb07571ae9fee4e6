import BlsSnark.Backend

/-! # The BLS verification gadget

`BlsVerifyGadget<E, F, P>` of `bls-gadgets/src/bls.rs`, function by function. Each `?` is a bind of
`Gadget`, the `assert_eq!` of `enforce_aggregated_pubkeys` is `Gadget.assertEq`, and the tracing spans and
events are left out (§9). -/

namespace BlsSnark
namespace BlsVerifyGadget

variable {A G1 G2 GT : Type} [AddCommGroup G1] [AddCommGroup G2] [CommGroup GT] {q : ℕ}
  (E : PairingEngine G1 G2 GT) (P : PairingVar A G1 G2 GT) (B : Bitmap A (ZMod q))

/-- `enforce_aggregated_pubkeys`: the sum, over the keys, of the key when its bit is set and of zero
    otherwise. Panics when the bitmap and the keys differ in length. --/
def enforceAggregatedPubkeys (pubKeys : List (Wire A G2)) (signedBitmap : List (Wire A Bool)) :
    Gadget A (Wire A G2) := do
  Gadget.assertEq signedBitmap.length pubKeys.length
  (pubKeys.zip signedBitmap).foldlM (fun aggregatedPk (pk, bit) => do
      let adder ← P.g2Select bit pk P.g2Zero
      P.g2Add aggregatedPk adder)
    P.g2Zero

/-- `enforce_aggregated_all_pubkeys`: the sum of all the keys. --/
def enforceAggregatedAllPubkeys (pubKeys : List (Wire A G2)) : Gadget A (Wire A G2) :=
  pubKeys.foldlM (fun aggregatedPk pk => P.g2Add aggregatedPk pk) P.g2Zero

/-- `enforce_bitmap`: at most `maximumNonSigners` bits of the bitmap are unset; returns the message hash
    and the aggregate key of the signers. --/
def enforceBitmap (pubKeys : List (Wire A G2)) (signedBitmap : List (Wire A Bool)) (messageHash : Wire A G1)
    (maximumNonSigners : Wire A (ZMod q)) : Gadget A (Wire A G1 × Wire A G2) := do
  B.enforceMaximumOccurrencesInBitmap signedBitmap maximumNonSigners false
  let aggregatedPk ← enforceAggregatedPubkeys P pubKeys signedBitmap
  pure (messageHash, aggregatedPk)

/-- `prepare_signature_neg_generator`: the prepared signature and the prepared negated generator of
    `G2`, allocated as a constant. --/
def prepareSignatureNegGenerator (signature : Wire A G1) : Gadget A (Wire A G1 × Wire A G2) := do
  let preparedSignature ← P.prepareG1 signature
  let g2Generator ← P.g2NewConstant E.generator
  let g2NegGenerator ← P.g2Negate g2Generator
  let preparedG2NegGenerator ← P.prepareG2 g2NegGenerator
  pure (preparedSignature, preparedG2NegGenerator)

/-- `enforce_bls_equation`: the product of the pairings of `g1` and `g2`, element by element, is `1`. --/
def enforceBlsEquation (g1 : List (Wire A G1)) (g2 : List (Wire A G2)) : Gadget A Unit := do
  let blsEquation ← P.productOfPairings g1 g2
  P.gtEnforceEqual blsEquation P.gtOne

/-- `verify`: `e(σ, −g₂) · e(H, apk) = 1` for the aggregate key `apk` of the signers of the bitmap, which
    leaves out at most `maximumNonSigners` keys. --/
def verify (pubKeys : List (Wire A G2)) (signedBitmap : List (Wire A Bool)) (messageHash signature : Wire A G1)
    (maximumNonSigners : Wire A (ZMod q)) : Gadget A Unit := do
  let (messageHash, aggregatedPk) ← enforceBitmap P B pubKeys signedBitmap messageHash maximumNonSigners
  let preparedAggregatedPk ← P.prepareG2 aggregatedPk
  let preparedMessageHash ← P.prepareG1 messageHash
  let (preparedSignature, preparedG2NegGenerator) ← prepareSignatureNegGenerator E P signature
  enforceBlsEquation P [preparedSignature, preparedMessageHash] [preparedG2NegGenerator, preparedAggregatedPk]

/-- `batch_verify_prepared`: `e(σ, −g₂) · ∏ e(Hᵢ, pkᵢ) = 1`. --/
def batchVerifyPrepared (preparedAggregatedPubKeys : List (Wire A G2)) (preparedMessageHashes : List (Wire A G1))
    (aggregatedSignature : Wire A G1) : Gadget A Unit := do
  let (preparedSignature, preparedG2NegGenerator) ← prepareSignatureNegGenerator E P aggregatedSignature
  let preparedG1s := preparedSignature :: preparedMessageHashes
  let preparedG2s := preparedG2NegGenerator :: preparedAggregatedPubKeys
  enforceBlsEquation P preparedG1s preparedG2s

/-- `batch_verify`: prepares the message hashes, then the keys, then `batch_verify_prepared`. --/
def batchVerify (aggregatedPubKeys : List (Wire A G2)) (messageHashes : List (Wire A G1))
    (aggregatedSignature : Wire A G1) : Gadget A Unit := do
  let preparedMessageHashes ← messageHashes.mapM P.prepareG1
  let preparedAggregatedPubKeys ← aggregatedPubKeys.mapM P.prepareG2
  batchVerifyPrepared E P preparedAggregatedPubKeys preparedMessageHashes aggregatedSignature

end BlsVerifyGadget
end BlsSnark
