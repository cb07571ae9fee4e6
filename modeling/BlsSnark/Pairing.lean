import Mathlib

/-! # Pairings

The pairing engine `E : PairingEngine` the gadget is generic over (§9): a bilinear map `e : G1 × G2 → GT`,
with `G1`, `G2` written additively and `GT` multiplicatively, and the generator `g₂` of `G2`. -/

namespace BlsSnark

/-- A bilinear pairing `e : G1 × G2 → GT`, and the generator of `G2`
    (`E::G2Projective::prime_subgroup_generator()`), which generates a group of prime order and so is not
    its identity. --/
structure PairingEngine (G1 G2 GT : Type) [AddCommGroup G1] [AddCommGroup G2] [CommGroup GT] where
  pairing : G1 → G2 → GT
  generator : G2
  generator_ne_zero : generator ≠ 0
  pairing_add_left : ∀ x y q, pairing (x + y) q = pairing x q * pairing y q
  pairing_add_right : ∀ p x y, pairing p (x + y) = pairing p x * pairing p y

namespace PairingEngine

variable {G1 G2 GT : Type} [AddCommGroup G1] [AddCommGroup G2] [CommGroup GT] (E : PairingEngine G1 G2 GT)

/-! ### Bilinearity -/

/-- `e(·, q)`, a homomorphism into `GT` seen additively. --/
def leftHom (q : G2) : G1 →+ Additive GT :=
  AddMonoidHom.mk' (fun p => Additive.ofMul (E.pairing p q)) fun x y => E.pairing_add_left x y q

/-- `e(p, ·)`, a homomorphism into `GT` seen additively. --/
def rightHom (p : G1) : G2 →+ Additive GT :=
  AddMonoidHom.mk' (fun q => Additive.ofMul (E.pairing p q)) fun x y => E.pairing_add_right p x y

theorem pairing_zero_left (q : G2) : E.pairing 0 q = 1 :=
  map_zero (E.leftHom q)

theorem pairing_zsmul_left (k : ℤ) (p : G1) (q : G2) : E.pairing (k • p) q = E.pairing p q ^ k :=
  map_zsmul (E.leftHom q) k p

theorem pairing_zsmul_right (k : ℤ) (p : G1) (q : G2) : E.pairing p (k • q) = E.pairing p q ^ k :=
  map_zsmul (E.rightHom p) k q

theorem pairing_neg_right (p : G1) (q : G2) : E.pairing p (-q) = (E.pairing p q)⁻¹ :=
  map_neg (E.rightHom p) q

theorem pairing_sub_left (x y : G1) (q : G2) : E.pairing (x - y) q = E.pairing x q / E.pairing y q :=
  map_sub (E.leftHom q) x y

/-- Pairing against a multiple of `q` moves the scalar to the left. --/
theorem pairing_zsmul_swap (k : ℤ) (p : G1) (q : G2) : E.pairing p (k • q) = E.pairing (k • p) q := by
  rw [pairing_zsmul_left, pairing_zsmul_right]

/-! ### Admissible engines -/

/-- `g₂` generates `G2`, and `e` is non-degenerate in its first argument. --/
structure Admissible : Prop where
  generates : ∀ q : G2, ∃ k : ℤ, k • E.generator = q
  nondegenerate : ∀ p : G1, p ≠ 0 → ∃ q, E.pairing p q ≠ 1

variable {E}

theorem Admissible.eq_zero (hE : E.Admissible) {p : G1} (h : E.pairing p E.generator = 1) : p = 0 := by
  by_contra hp
  obtain ⟨q, hq⟩ := hE.nondegenerate p hp
  obtain ⟨k, rfl⟩ := hE.generates q
  exact hq (by rw [pairing_zsmul_right, h, one_zpow])

/-- Against the generator, the pairing tells points apart. --/
theorem Admissible.pairing_generator_inj (hE : E.Admissible) {x y : G1} :
    E.pairing x E.generator = E.pairing y E.generator ↔ x = y := by
  refine ⟨fun h => sub_eq_zero.mp (hE.eq_zero ?_), fun h => h ▸ rfl⟩
  rw [pairing_sub_left, h, div_self']

end PairingEngine

/-! ### A small engine -/

/-- The pairing `(x, y) ↦ x * y` on `ZMod 5`, into `Multiplicative (ZMod 5)`, with generator `1`. --/
def toyEngine : PairingEngine (ZMod 5) (ZMod 5) (Multiplicative (ZMod 5)) where
  pairing x y := Multiplicative.ofAdd (x * y)
  generator := 1
  generator_ne_zero := by decide
  pairing_add_left x y q := by simp only [add_mul, ofAdd_add]
  pairing_add_right p x y := by simp only [mul_add, ofAdd_add]

theorem toyEngine_admissible : toyEngine.Admissible where
  generates q := ⟨q.val, by simp [toyEngine]⟩
  nondegenerate p hp := ⟨1, by simpa [toyEngine] using hp⟩

end BlsSnark
