import BlsSnark.Bls
import BlsSnark.Signers

/-! # What the BLS gadget enforces

One specification (`Gadget.Spec`) per function of `bls.rs` against a backend that meets its contract:
what it returns, and where the constraints it appends hold. With the keys written `skᵢ • g₂` they are the
equations of §4.1 on the secret keys, once the identity check of `prepare_g2` is counted. -/

namespace BlsSnark
namespace BlsVerifyGadget
open Gadget

variable {A G1 G2 GT : Type} {q : ℕ} {P : PairingVar A G1 G2 GT} {B : Bitmap A (ZMod q)}

section Aggregation
variable [AddCommGroup G2]

/-- The sum of the keys whose bit is set, under each assignment. --/
def aggregateWire (pubKeys : List (Wire A G2)) (bits : List (Wire A Bool)) : Wire A G2 :=
  fun a => (signers (pubKeys.map (· a)) (bits.map (· a))).sum

/-! ### The aggregation loops -/

theorem foldl_select_add : ∀ (pks : List (Wire A G2)) (bits : List (Wire A Bool)) (init : Wire A G2),
    (pks.zip bits).foldl (fun acc b a => acc a + if b.2 a then b.1 a else 0) init =
      fun a => init a + aggregateWire pks bits a
  | [], _, init | _ :: _, [], init => by simp [aggregateWire]
  | pk :: pks, bit :: bits, init => by
    rw [List.zip_cons_cons, List.foldl_cons, foldl_select_add pks bits]
    funext a
    cases h : bit a <;> simp [aggregateWire, h, add_assoc]

theorem foldl_add : ∀ (pks : List (Wire A G2)) (init : Wire A G2),
    pks.foldl (fun acc pk a => acc a + pk a) init = fun a => init a + (pks.map (· a)).sum
  | [], init => by simp
  | pk :: pks, init => by
    rw [List.foldl_cons, foldl_add pks]
    simp [add_assoc]

theorem enforceAggregatedPubkeys_spec (hP : P.Aggregation) {pks : List (Wire A G2)} {bits : List (Wire A Bool)}
    (hlen : bits.length = pks.length) :
    (enforceAggregatedPubkeys P pks bits).Spec (aggregateWire pks bits) fun _ => True := by
  have hloop := Spec.foldlM (fun acc b a => acc a + if b.2 a then b.1 a else P.g2Zero a)
    (fun acc b => ((hP.g2Select b.2 b.1 P.g2Zero).bind (hP.g2Add acc _)).congr fun _ => and_self_iff)
    (pks.zip bits) P.g2Zero
  simp only [hP.g2Zero, foldl_select_add, zero_add] at hloop
  unfold enforceAggregatedPubkeys
  rw [assertEq, if_pos hlen, hP.g2Zero]
  exact Spec.congr (Spec.bind (Spec.pure ()) hloop) fun _ => and_self_iff

theorem enforceAggregatedAllPubkeys_spec (hP : P.Aggregation) (pks : List (Wire A G2)) :
    (enforceAggregatedAllPubkeys P pks).Spec (fun a => (pks.map (· a)).sum) fun _ => True := by
  have hloop := Spec.foldlM (fun acc pk a => acc a + pk a) (fun acc pk => hP.g2Add acc pk) pks P.g2Zero
  simp only [hP.g2Zero, foldl_add, zero_add] at hloop
  rw [enforceAggregatedAllPubkeys, hP.g2Zero]
  exact hloop

/-- The aggregate key of `enforce_aggregated_pubkeys` is the group sum of the keys whose bit is set,
    which `enforce_aggregated_all_pubkeys` also computes from those keys; with every bit set, the two
    gadgets return the same wire. --/
theorem enforceAggregatedPubkeys_eq_all_signers (hP : P.Aggregation) {pks : List (Wire A G2)} {bits : List (Wire A Bool)}
    (hlen : bits.length = pks.length) :
    (enforceAggregatedPubkeys P pks bits).Spec (aggregateWire pks bits) (fun _ => True) ∧
    (∀ a, ∃ w, (enforceAggregatedAllPubkeys P (signers pks (bits.map (· a)))).Spec w (fun _ => True) ∧
      w a = aggregateWire pks bits a) ∧
    ∃ w, (enforceAggregatedPubkeys P pks (pks.map fun _ _ => true)).Spec w (fun _ => True) ∧
      (enforceAggregatedAllPubkeys P pks).Spec w (fun _ => True) := by
  refine ⟨enforceAggregatedPubkeys_spec hP hlen, fun a => ⟨_, enforceAggregatedAllPubkeys_spec hP _, ?_⟩,
    _, enforceAggregatedPubkeys_spec hP (List.length_map _ _), ?_⟩
  · simp [aggregateWire, signers_map]
  · convert enforceAggregatedAllPubkeys_spec hP pks using 1
    funext a
    simp [aggregateWire, List.take_of_length_le]

theorem enforceAggregatedPubkeys_eq_all_signers_toy :
    let P := refPairingVar (A := Unit) toyEngine
    let pks : List (Wire Unit (ZMod 5)) := [fun _ => 2, fun _ => 3]
    let bits : List (Wire Unit Bool) := [fun _ => false, fun _ => true]
    (enforceAggregatedPubkeys P pks bits).Spec (aggregateWire pks bits) (fun _ => True) ∧
    (∀ a, ∃ w, (enforceAggregatedAllPubkeys P (signers pks (bits.map (· a)))).Spec w (fun _ => True) ∧
      w a = aggregateWire pks bits a) ∧
    ∃ w, (enforceAggregatedPubkeys P pks (pks.map fun _ _ => true)).Spec w (fun _ => True) ∧
      (enforceAggregatedAllPubkeys P pks).Spec w (fun _ => True) :=
  enforceAggregatedPubkeys_eq_all_signers (refPairingVar_sound toyEngine).toAggregation (by rfl)

/-! ### Verification -/

theorem enforceBitmap_spec (hP : P.Aggregation) (hB : B.Sound) {pks : List (Wire A G2)} {bits : List (Wire A Bool)}
    (hlen : bits.length = pks.length) (H : Wire A G1) (t : Wire A (ZMod q)) :
    (enforceBitmap P B pks bits H t).Spec (H, aggregateWire pks bits)
      fun a => (bits.map (· a)).count false ≤ (t a).val :=
  Spec.congr (Spec.bind (hB.enforceMaximumOccurrencesInBitmap bits t false) <|
    Spec.bind (enforceAggregatedPubkeys_spec hP hlen) <| Spec.pure _) fun _ => by simp

end Aggregation

theorem enforceBitmap_ok_inv {pks : List (Wire A G2)} {bits : List (Wire A Bool)} {H mh : Wire A G1}
    {t : Wire A (ZMod q)} {apk : Wire A G2} {cs cs' : ConstraintSystem A}
    (h : enforceBitmap P B pks bits H t cs = (.ok (mh, apk), cs')) : mh = H ∧ bits.length = pks.length := by
  obtain ⟨_, cs₁, -, h⟩ := bind_eq_ok.mp h
  obtain ⟨_, cs₂, h, h'⟩ := bind_eq_ok.mp h
  cases h'
  refine ⟨rfl, ?_⟩
  by_contra hne
  rw [enforceAggregatedPubkeys, bind_of_error (assertEq_of_ne hne cs₁)] at h
  cases h

variable [AddCommGroup G1] [AddCommGroup G2] [CommGroup GT] {E : PairingEngine G1 G2 GT}

theorem prepareSignatureNegGenerator_spec (hP : P.Sound E) (σ : Wire A G1) :
    (prepareSignatureNegGenerator E P σ).Spec (σ, fun _ => -E.generator) fun _ => True :=
  Spec.congr (Spec.bind (hP.prepareG1 σ) <| Spec.bind (hP.g2NewConstant _) <| Spec.bind (hP.g2Negate _) <|
    Spec.bind (hP.prepareG2 _) <| Spec.pure _) fun _ => by simp [E.generator_ne_zero]

theorem enforceBlsEquation_spec (hP : P.Sound E) {g1 : List (Wire A G1)} {g2 : List (Wire A G2)} (hlen : g1.length = g2.length) :
    (enforceBlsEquation P g1 g2).Spec () fun a => pairingProduct E (g1.map (· a)) (g2.map (· a)) = 1 :=
  Spec.congr (Spec.bind (hP.productOfPairings g1 g2 hlen) (hP.gtEnforceEqual _ _)) fun _ => by simp [hP.gtOne]

/-- The constraints of `verify` hold exactly when the bitmap is a quorum, the signers' aggregate key is not
    the identity, and `σ` is a valid multi-signature of the signers. --/
theorem verify_spec (hP : P.Sound E) (hB : B.Sound) {pks : List (Wire A G2)} {bits : List (Wire A Bool)}
    (hlen : bits.length = pks.length) (H σ : Wire A G1) (t : Wire A (ZMod q)) :
    (verify E P B pks bits H σ t).Spec () fun a => (bits.map (· a)).count false ≤ (t a).val ∧
      (signers (pks.map (· a)) (bits.map (· a))).sum ≠ 0 ∧
      MultiSigValid E (pks.map (· a)) (bits.map (· a)) (H a) (σ a) :=
  Spec.congr (Spec.bind (enforceBitmap_spec hP.toAggregation hB hlen H t) <| Spec.bind (hP.prepareG2 _) <|
    Spec.bind (hP.prepareG1 _) <| Spec.bind (prepareSignatureNegGenerator_spec hP σ) <|
    enforceBlsEquation_spec hP rfl) fun _ => by
      simp [pairing_neg_generator_mul_eq_one, MultiSigValid, aggregateWire]

theorem verify_ok_length {pks : List (Wire A G2)} {bits : List (Wire A Bool)} {H σ : Wire A G1}
    {t : Wire A (ZMod q)} {cs cs' : ConstraintSystem A} (h : verify E P B pks bits H σ t cs = (.ok (), cs')) :
    bits.length = pks.length := by
  obtain ⟨⟨_, _⟩, _, h₁, -⟩ := bind_eq_ok.mp h
  exact (enforceBitmap_ok_inv h₁).2

theorem batchVerifyPrepared_spec (hP : P.Sound E) {apks : List (Wire A G2)} {hs : List (Wire A G1)} (hlen : apks.length = hs.length)
    (σ : Wire A G1) :
    (batchVerifyPrepared E P apks hs σ).Spec () fun a => BatchValid E (apks.map (· a)) (hs.map (· a)) (σ a) :=
  Spec.congr (Spec.bind (prepareSignatureNegGenerator_spec hP σ) (enforceBlsEquation_spec hP (by simp [hlen])))
    fun _ => by simp [pairing_neg_generator_mul_eq_one, BatchValid]

/-- The constraints of `batch_verify` hold exactly when no aggregate key is the identity and `σ` is a valid
    aggregate signature on the batch. --/
theorem batchVerify_spec (hP : P.Sound E) {apks : List (Wire A G2)} {hs : List (Wire A G1)} (hlen : apks.length = hs.length)
    (σ : Wire A G1) :
    (batchVerify E P apks hs σ).Spec () fun a =>
      0 ∉ apks.map (· a) ∧ BatchValid E (apks.map (· a)) (hs.map (· a)) (σ a) := by
  have h₁ := Spec.mapM hP.prepareG1 hs
  have h₂ := Spec.mapM hP.prepareG2 apks
  rw [List.map_id'] at h₁ h₂
  exact Spec.congr (Spec.bind h₁ <| Spec.bind h₂ <| batchVerifyPrepared_spec hP hlen σ) fun _ => by simp

/-- With more unset bits than the threshold, the constraints of `verify` fail under the assignment, whatever
    the signature (§8). --/
theorem verify_unsatisfied_of_count (hP : P.Sound E) (hB : B.Sound) {pks : List (Wire A G2)}
    {bits : List (Wire A Bool)} (hlen : bits.length = pks.length) (H σ : Wire A G1) (t : Wire A (ZMod q))
    (cs : ConstraintSystem A) (a : A) (hcount : (t a).val < (bits.map (· a)).count false) :
    ∃ cs', verify E P B pks bits H σ t cs = (.ok (), cs') ∧ cs'.isSatisfied a = false := by
  obtain ⟨cs', new, hrun, happ, hS⟩ := verify_spec hP hB hlen H σ t cs
  refine ⟨cs', hrun, Bool.eq_false_iff.mpr fun h => ?_⟩
  rw [isSatisfied_iff, happ, holds_append, hS] at h
  exact hcount.not_le h.2.1

theorem verify_unsatisfied_of_count_toy :
    let E := toyEngine
    let pks : List (Wire Unit (ZMod 5)) := [fun _ => 1]
    let bits : List (Wire Unit Bool) := [fun _ => false]
    let t : Wire Unit (ZMod 7) := fun _ => 0
    ((t ()).val < (bits.map (· ())).count false) ∧
    ∃ cs', verify E (refPairingVar E) refBitmap pks bits (fun _ => 1) (fun _ => 0) t ⟨0, []⟩ = (.ok (), cs') ∧
      cs'.isSatisfied () = false :=
  ⟨by decide, verify_unsatisfied_of_count (refPairingVar_sound _) refBitmap_sound (by rfl) _ _ _ _ () (by decide)⟩

/-- `prepare_g2` refuses the identity: no successful run of `verify` is satisfied by an assignment under which
    the signers' keys sum to zero, whatever the threshold, the message and the signature. So neither the
    empty bitmap nor signers whose keys cancel ever pass. --/
theorem verify_rejects_identity_aggregate (hP : P.Sound E) (hB : B.Sound) {pks : List (Wire A G2)}
    {bits : List (Wire A Bool)} {H σ : Wire A G1} {t : Wire A (ZMod q)} {cs cs' : ConstraintSystem A}
    (h : verify E P B pks bits H σ t cs = (.ok (), cs')) (a : A)
    (hzero : (signers (pks.map (· a)) (bits.map (· a))).sum = 0) : cs'.isSatisfied a = false := by
  obtain ⟨-, new, happ, hS⟩ := (verify_spec hP hB (verify_ok_length h) H σ t).of_eq h
  refine Bool.eq_false_iff.mpr fun hsat => ?_
  rw [isSatisfied_iff, happ, holds_append, hS] at hsat
  exact hsat.2.2.1 hzero

theorem verify_rejects_identity_aggregate_toy :
    let pks : List (Wire Unit (ZMod 5)) := [fun _ => 1, fun _ => 2]
    let bits : List (Wire Unit Bool) := [fun _ => false, fun _ => false]
    let t : Wire Unit (ZMod 7) := fun _ => 2
    ∃ cs', verify toyEngine (refPairingVar toyEngine) refBitmap pks bits (fun _ => 1) (fun _ => 0) t ⟨0, []⟩ =
        (.ok (), cs') ∧ (signers (pks.map (· ())) (bits.map (· ()))).sum = 0 ∧ cs'.isSatisfied () = false := by
  intro pks bits t
  have h : verify toyEngine (refPairingVar toyEngine) refBitmap pks bits (fun _ => 1) (fun _ => 0) t ⟨0, []⟩ =
    (.ok (), _) := rfl
  exact ⟨_, h, by decide, verify_rejects_identity_aggregate (refPairingVar_sound _) refBitmap_sound h () (by decide)⟩

/-! ### Verification on the secret keys -/

/-- For aggregate keys `skᵢ • g₂`, the constraints that `batch_verify` adds hold exactly when no key is the
    identity and `σ = ∑ skᵢ • Hᵢ`; those of `batch_verify_prepared` on points already prepared, exactly when
    `σ = ∑ skᵢ • Hᵢ`. --/
theorem batchVerify_iff (hE : E.Admissible) (hP : P.Sound E) {apks : List (Wire A G2)} {hs : List (Wire A G1)}
    (hlen : apks.length = hs.length) (σ : Wire A G1) (cs : ConstraintSystem A) :
    (∃ cs' new, batchVerify E P apks hs σ cs = (.ok (), cs') ∧ cs'.constraints = cs.constraints ++ new ∧
      ∀ a (sks : List ℤ), apks.map (· a) = sks.map (· • E.generator) →
        (Holds new a ↔ (∀ s ∈ sks, s • E.generator ≠ 0) ∧
          σ a = (List.zipWith (· • ·) sks (hs.map (· a))).sum)) ∧
    (∃ cs' new, batchVerifyPrepared E P apks hs σ cs = (.ok (), cs') ∧ cs'.constraints = cs.constraints ++ new ∧
      ∀ a (sks : List ℤ), apks.map (· a) = sks.map (· • E.generator) →
        (Holds new a ↔ σ a = (List.zipWith (· • ·) sks (hs.map (· a))).sum)) := by
  obtain ⟨cs₁, new₁, hrun₁, happ₁, hholds₁⟩ := batchVerify_spec hP hlen σ cs
  obtain ⟨cs₂, new₂, hrun₂, happ₂, hholds₂⟩ := batchVerifyPrepared_spec hP hlen σ cs
  refine ⟨⟨cs₁, new₁, hrun₁, happ₁, fun a sks hks => ?_⟩, cs₂, new₂, hrun₂, happ₂, fun a sks hks => by
    simp only [hholds₂, hks, batchValid_iff hE]⟩
  simp only [hholds₁, hks, batchValid_iff hE]
  exact and_congr_left' (by simp)

theorem batchVerify_iff_toy :
    let E := toyEngine
    let apks : List (Wire Unit (ZMod 5)) := [fun _ => 2]
    let hs : List (Wire Unit (ZMod 5)) := [fun _ => 3]
    let σ : Wire Unit (ZMod 5) := fun _ => 1
    (∃ cs' new, batchVerify E (refPairingVar E) apks hs σ ⟨0, []⟩ = (.ok (), cs') ∧ cs'.constraints = [] ++ new ∧
      ∀ a (sks : List ℤ), apks.map (· a) = sks.map (· • E.generator) →
        (Holds new a ↔ (∀ s ∈ sks, s • E.generator ≠ 0) ∧
          σ a = (List.zipWith (· • ·) sks (hs.map (· a))).sum)) ∧
    (∃ cs' new, batchVerifyPrepared E (refPairingVar E) apks hs σ ⟨0, []⟩ = (.ok (), cs') ∧
      cs'.constraints = [] ++ new ∧ ∀ a (sks : List ℤ), apks.map (· a) = sks.map (· • E.generator) →
        (Holds new a ↔ σ a = (List.zipWith (· • ·) sks (hs.map (· a))).sum)) :=
  batchVerify_iff toyEngine_admissible (refPairingVar_sound _) (by rfl) _ _

/-- One aggregate key, the identity (`s = 0`), with `σ = 0 = 0 • H`: the batch equation holds, but
    `prepare_g2` refuses the key and the system is unsatisfied. --/
theorem batchVerify_identity_key :
    let apks : List (Wire Unit (ZMod 5)) := [fun _ => 0]
    let hs : List (Wire Unit (ZMod 5)) := [fun _ => 1]
    let sks : List ℤ := [0]
    apks.map (· ()) = sks.map (· • toyEngine.generator) ∧
      (0 : ZMod 5) = (List.zipWith (· • ·) sks (hs.map (· ()))).sum ∧
      ∃ cs', batchVerify toyEngine (refPairingVar toyEngine) apks hs (fun _ => 0) ⟨0, []⟩ = (.ok (), cs') ∧
        cs'.isSatisfied () = false :=
  ⟨by decide, by decide, _, rfl, rfl⟩

/-! ### Lengths that differ

`enforce_bls_equation` compares no lengths, and the reference backend's `product_of_pairings` pairs its
lists with `zip`, as the BLS12 backend does. -/

section Zip
variable [DecidableEq G2] [DecidableEq GT] (E : PairingEngine G1 G2 GT)

theorem batchVerify_refPairingVar_spec (apks : List (Wire A G2)) (hs : List (Wire A G1)) (σ : Wire A G1) :
    (batchVerify E (refPairingVar E) apks hs σ).Spec () fun a => 0 ∉ apks.map (· a) ∧
      E.pairing (σ a) (-E.generator) * pairingProduct E (hs.map (· a)) (apks.map (· a)) = 1 := by
  have hP := refPairingVar_sound (A := A) E
  have h₁ := Spec.mapM hP.prepareG1 hs
  have h₂ := Spec.mapM hP.prepareG2 apks
  rw [List.map_id'] at h₁ h₂
  exact Spec.congr (Spec.bind h₁ <| Spec.bind h₂ <| Spec.bind (prepareSignatureNegGenerator_spec hP σ) <|
    Spec.bind (Spec.pure _) (hP.gtEnforceEqual _ _)) fun a => by simp [refPairingVar]

/-- A batch with a key and no message hash passes `batch_verify`: besides the identity checks of the key and
    of `−g₂`, the only check is `e(σ, −g₂) = 1`, and the key is dropped. --/
theorem batchVerify_extra_key (pk : Wire A G2) (σ : Wire A G1) :
    (batchVerify E (refPairingVar E) [pk] [] σ).Spec () fun a =>
      pk a ≠ 0 ∧ E.pairing (σ a) (-E.generator) = 1 :=
  (batchVerify_refPairingVar_spec E [pk] [] σ).congr fun a => by simp [eq_comm (a := (0 : G2))]

/-- On lists of any lengths, the constraints of `batch_verify` hold exactly when no key is the identity, the
    keys past the hashes included, and `σ` is a valid aggregate signature on the pairs the two lists share. --/
theorem batchVerify_zip (apks : List (Wire A G2)) (hs : List (Wire A G1)) (σ : Wire A G1) :
    (batchVerify E (refPairingVar E) apks hs σ).Spec () fun a => 0 ∉ apks.map (· a) ∧
      BatchValid E ((apks.map (· a)).take hs.length) ((hs.map (· a)).take apks.length) (σ a) :=
  (batchVerify_refPairingVar_spec E apks hs σ).congr fun a => by
    rw [BatchValid, ← pairing_neg_generator_mul_eq_one, pairingProduct_take E (hs.map (· a)), List.length_map,
      List.length_map]

end Zip

end BlsVerifyGadget
end BlsSnark
