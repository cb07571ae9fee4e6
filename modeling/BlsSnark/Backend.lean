import BlsSnark.Pairing
import BlsSnark.Circuit

/-! # The collaborators of the BLS gadget

The pairing backend `P : PairingVar<E, F>` (§9) and the bitmap trait of `bls-gadgets/src/bitmap.rs` are
parameters, as in the source, with the contracts the gadget's properties rest on and reference
instances that meet them. -/

namespace BlsSnark

/-- What `bls.rs` calls of `P : PairingVar<E, F>` and of its variables `G1Var`, `G2Var`, `GTVar`. A
    prepared point (`G1PreparedVar`, `G2PreparedVar`) is modelled by the point it encodes. --/
structure PairingVar (A G1 G2 GT : Type) where
  g2Zero : Wire A G2
  g2Add : Wire A G2 → Wire A G2 → Gadget A (Wire A G2)
  g2Select : Wire A Bool → Wire A G2 → Wire A G2 → Gadget A (Wire A G2)
  g2NewConstant : G2 → Gadget A (Wire A G2)
  g2Negate : Wire A G2 → Gadget A (Wire A G2)
  prepareG1 : Wire A G1 → Gadget A (Wire A G1)
  prepareG2 : Wire A G2 → Gadget A (Wire A G2)
  productOfPairings : List (Wire A G1) → List (Wire A G2) → Gadget A (Wire A GT)
  gtOne : Wire A GT
  gtEnforceEqual : Wire A GT → Wire A GT → Gadget A Unit

/-- The trait `Bitmap` on `[Boolean<F>]`: `enforce_maximum_occurrences_in_bitmap(max_occurrences, value)`. --/
structure Bitmap (A F : Type) where
  enforceMaximumOccurrencesInBitmap : List (Wire A Bool) → Wire A F → Bool → Gadget A Unit

/-- The product of the pairings of two lists of points, position by position. --/
def pairingProduct {G1 G2 GT : Type} [AddCommGroup G1] [AddCommGroup G2] [CommGroup GT]
    (E : PairingEngine G1 G2 GT) (ps : List G1) (qs : List G2) : GT :=
  (List.zipWith E.pairing ps qs).prod

/-- What aggregation needs of the backend: `G2Var::zero()`, `+=` and `select` on `G2Var` compute their
    values. --/
structure PairingVar.Aggregation {A G1 G2 GT : Type} [AddCommGroup G2] (P : PairingVar A G1 G2 GT) : Prop where
  g2Zero : P.g2Zero = fun _ => 0
  g2Add : ∀ x y, (P.g2Add x y).Spec (fun a => x a + y a) fun _ => True
  g2Select : ∀ b x y, (P.g2Select b x y).Spec (fun a => if b a then x a else y a) fun _ => True

section Contracts
variable {A G1 G2 GT : Type} [AddCommGroup G1] [AddCommGroup G2] [CommGroup GT]

/-- What verification needs of the backend besides aggregation: constants and negation compute,
    `prepare_g1` keeps the point, `prepare_g2` keeps it and checks that it is not the identity (the BLS12
    backend enforces that `q.infinity` is false), `product_of_pairings` on lists of equal length is the
    product of the pairings, and `enforce_equal` holds exactly on equal values. On a constant identity
    point the backend's check returns `Err` at synthesis instead; a wire here does not record that it is
    constant, and the constraint in its place holds under no assignment. --/
structure PairingVar.Sound (E : PairingEngine G1 G2 GT) (P : PairingVar A G1 G2 GT) extends P.Aggregation : Prop where
  g2NewConstant : ∀ g, (P.g2NewConstant g).Spec (fun _ => g) fun _ => True
  g2Negate : ∀ x, (P.g2Negate x).Spec (fun a => -x a) fun _ => True
  prepareG1 : ∀ x, (P.prepareG1 x).Spec x fun _ => True
  prepareG2 : ∀ x, (P.prepareG2 x).Spec x fun a => x a ≠ 0
  productOfPairings : ∀ ps qs, ps.length = qs.length →
    (P.productOfPairings ps qs).Spec (fun a => pairingProduct E (ps.map (· a)) (qs.map (· a))) fun _ => True
  gtOne : P.gtOne = fun _ => 1
  gtEnforceEqual : ∀ x y, (P.gtEnforceEqual x y).Spec () fun a => x a = y a

/-- `enforce_maximum_occurrences_in_bitmap(bits, t, value)` holds exactly when at most `t` of the bits
    are `value` (§2). --/
structure Bitmap.Sound {q : ℕ} (B : Bitmap A (ZMod q)) : Prop where
  enforceMaximumOccurrencesInBitmap : ∀ bits t value,
    (B.enforceMaximumOccurrencesInBitmap bits t value).Spec () fun a => (bits.map (· a)).count value ≤ (t a).val

end Contracts

/-! ### Reference backends -/

section Reference
variable {A G1 G2 GT : Type} [AddCommGroup G1] [AddCommGroup G2] [CommGroup GT] [DecidableEq G2] [DecidableEq GT]

/-- The backend that computes in the groups, with one constraint for the identity check of `prepare_g2`
    and one for `enforce_equal`. `product_of_pairings` pairs its lists position by position, as the
    Miller loop of the BLS12 backend does with `zip`. --/
def refPairingVar (E : PairingEngine G1 G2 GT) : PairingVar A G1 G2 GT where
  g2Zero _ := 0
  g2Add x y := pure fun a => x a + y a
  g2Select b x y := pure fun a => if b a then x a else y a
  g2NewConstant g := pure fun _ => g
  g2Negate x := pure fun a => -x a
  prepareG1 x := pure x
  prepareG2 x := do
    Gadget.enforce fun a => decide (x a ≠ 0)
    pure x
  productOfPairings ps qs := pure fun a => pairingProduct E (ps.map (· a)) (qs.map (· a))
  gtOne _ := 1
  gtEnforceEqual x y := Gadget.enforce fun a => decide (x a = y a)

theorem refPairingVar_sound (E : PairingEngine G1 G2 GT) : (refPairingVar (A := A) E).Sound E where
  g2Zero := rfl
  g2Add _ _ := Gadget.Spec.pure _
  g2Select _ _ _ := Gadget.Spec.pure _
  g2NewConstant _ := Gadget.Spec.pure _
  g2Negate _ := Gadget.Spec.pure _
  prepareG1 _ := Gadget.Spec.pure _
  prepareG2 x := ((Gadget.Spec.enforce _).bind (f := fun _ => pure x) (Gadget.Spec.pure x)).congr fun _ => by simp
  productOfPairings _ _ _ := Gadget.Spec.pure _
  gtOne := rfl
  gtEnforceEqual _ _ := (Gadget.Spec.enforce _).congr fun _ => decide_eq_true_iff

/-- Modelled from the spec: `enforce_maximum_occurrences_in_bitmap` (`bls-gadgets/src/bitmap.rs`), "given
    a sequence of boolean wires and a threshold wire, enforces that the count of `false` entries does
    not exceed the threshold" (§2), counting `value` entries, as one constraint. --/
def refBitmap {q : ℕ} : Bitmap A (ZMod q) where
  enforceMaximumOccurrencesInBitmap bits t value :=
    Gadget.enforce fun a => decide ((bits.map (· a)).count value ≤ (t a).val)

theorem refBitmap_sound {q : ℕ} : (refBitmap (A := A) (q := q)).Sound where
  enforceMaximumOccurrencesInBitmap _ _ _ := (Gadget.Spec.enforce _).congr fun _ => decide_eq_true_iff

end Reference

end BlsSnark
