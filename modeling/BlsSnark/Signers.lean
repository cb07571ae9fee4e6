import BlsSnark.Backend

/-! # Signers, quorums and BLS validity

What the gadgets are for, said without circuits: the signers a bitmap selects, quorum keys (§3), and the
validity of a multi-signature and of an aggregate signature on a batch (§4.1). -/

namespace BlsSnark

/-! ### Signers -/

section Signers
variable {α β : Type}

/-- The entries of `keys` whose bit is set, in order. --/
def signers (keys : List α) (bits : List Bool) : List α := ((keys.zip bits).filter (·.2)).map (·.1)

@[simp] theorem signers_nil_left (bits : List Bool) : signers ([] : List α) bits = [] := rfl

@[simp] theorem signers_nil_right (keys : List α) : signers keys [] = [] := by
  simp [signers]

@[simp] theorem signers_cons (k : α) (keys : List α) (b : Bool) (bits : List Bool) :
    signers (k :: keys) (b :: bits) = if b then k :: signers keys bits else signers keys bits := by
  cases b <;> simp [signers]

theorem signers_map (f : α → β) : ∀ (keys : List α) (bits : List Bool),
    signers (keys.map f) bits = (signers keys bits).map f
  | [], _ | _ :: _, [] => rfl
  | k :: keys, b :: bits => by cases b <;> simp [signers_map f keys bits]

@[simp] theorem signers_replicate_true : ∀ (keys : List α) (n : ℕ), signers keys (List.replicate n true) = keys.take n
  | [], _ | _ :: _, 0 => by simp
  | k :: keys, n + 1 => by simp [List.replicate_succ, signers_replicate_true keys n]

/-- `apk` is the aggregate key of a quorum of `keys` under the threshold `t`: the sum of the signers of a
    bitmap as long as the keys, with at most `t` bits unset (§3). --/
def QuorumKey [AddCommMonoid α] (keys : List α) (t : ℕ) (apk : α) : Prop :=
  ∃ bits : List Bool, bits.length = keys.length ∧ bits.count false ≤ t ∧ apk = (signers keys bits).sum

end Signers

/-! ### Validity -/

section Validity
variable {G1 G2 GT : Type} [AddCommGroup G1] [AddCommGroup G2] [CommGroup GT] (E : PairingEngine G1 G2 GT)

/-- `σ` is a valid multi-signature on `H` by the signers of `bits`: `e(σ, g₂) = e(H, apk)` (§4.1). --/
def MultiSigValid (keys : List G2) (bits : List Bool) (H σ : G1) : Prop :=
  E.pairing σ E.generator = E.pairing H (signers keys bits).sum

/-- `σ` is a valid aggregate signature on the batch of hashes `hs` under the keys `apks`:
    `e(σ, g₂) = ∏ e(Hᵢ, apkᵢ)` (§4.1). --/
def BatchValid (apks : List G2) (hs : List G1) (σ : G1) : Prop :=
  E.pairing σ E.generator = pairingProduct E hs apks

@[simp] theorem pairingProduct_nil (qs : List G2) : pairingProduct E [] qs = 1 := rfl

@[simp] theorem pairingProduct_cons (p : G1) (ps : List G1) (q : G2) (qs : List G2) :
    pairingProduct E (p :: ps) (q :: qs) = E.pairing p q * pairingProduct E ps qs := by
  simp [pairingProduct]

theorem pairingProduct_take : ∀ (ps : List G1) (qs : List G2),
    pairingProduct E ps qs = pairingProduct E (ps.take qs.length) (qs.take ps.length)
  | [], _ | _ :: _, [] => by simp [pairingProduct]
  | p :: ps, q :: qs => by simp [pairingProduct_take ps qs]

/-- Against keys `skᵢ • g₂` the product is one pairing against `g₂`. --/
theorem pairingProduct_smul_generator : ∀ (hs : List G1) (sks : List ℤ),
    pairingProduct E hs (sks.map (· • E.generator)) = E.pairing (List.zipWith (· • ·) sks hs).sum E.generator
  | [], _ | _ :: _, [] => by simp [pairingProduct, E.pairing_zero_left]
  | h :: hs, s :: sks => by
    rw [List.map_cons, pairingProduct_cons, pairingProduct_smul_generator hs sks, E.pairing_zsmul_swap,
      List.zipWith_cons_cons, List.sum_cons, E.pairing_add_left]

theorem pairing_neg_generator_mul_eq_one (σ : G1) (x : GT) :
    E.pairing σ (-E.generator) * x = 1 ↔ E.pairing σ E.generator = x := by
  rw [E.pairing_neg_right, inv_mul_eq_one]

variable {E}

/-- With keys `skᵢ • g₂`, a valid aggregate signature on a batch is `∑ skᵢ • Hᵢ`. --/
theorem batchValid_iff (hE : E.Admissible) (sks : List ℤ) (hs : List G1) (σ : G1) :
    BatchValid E (sks.map (· • E.generator)) hs σ ↔ σ = (List.zipWith (· • ·) sks hs).sum := by
  rw [BatchValid, pairingProduct_smul_generator, hE.pairing_generator_inj]

end Validity

end BlsSnark
