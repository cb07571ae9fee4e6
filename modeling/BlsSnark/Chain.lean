import BlsSnark.Transition

/-! # Chains of transitions

The epoch-chaining of §2 and §4.2, whose loop is not in src/: each transition is constrained against the
context the one before it emitted. A fact of every successful transition is a fact of every transition of a
successful chain (`constrainChain_all`, `constrainChain_holds`). -/

namespace BlsSnark

/-- The previous epoch's context a transition is constrained against. --/
structure EpochContext (A F G2 : Type) where
  pubkeys : List (Wire A G2)
  index : Wire A F
  entropy : Wire A F
  maxNonSigners : Wire A F

/-- The context a transition hands to the next one: its new keys, index, entropy and threshold. --/
def ConstrainedEpoch.context {A F G1 G2 : Type} (c : ConstrainedEpoch A F G1 G2) : EpochContext A F G2 :=
  ⟨c.newPubkeys, c.index, c.epochEntropy, c.newMaxNonSigners⟩

/-- `R` holds at every transition of a chain: of the context it was constrained against, its update and its
    output. --/
def ChainAll {A F G1 G2 : Type} (R : EpochContext A F G2 → SingleUpdate G2 → ConstrainedEpoch A F G1 G2 → Prop) :
    EpochContext A F G2 → List (SingleUpdate G2) → List (ConstrainedEpoch A F G1 G2) → Prop
  | _, [], [] => True
  | ctx, u :: us, c :: cs => R ctx u c ∧ ChainAll R c.context us cs
  | _, _, _ => False

theorem ChainAll.propagate {A F G1 G2 : Type}
    {R R' : EpochContext A F G2 → SingleUpdate G2 → ConstrainedEpoch A F G1 G2 → Prop} {I : EpochContext A F G2 → Prop}
    (hR : ∀ ctx u c, I ctx → R ctx u c → R' ctx u c ∧ I c.context) :
    ∀ {ctx us outs}, I ctx → ChainAll R ctx us outs → ChainAll R' ctx us outs
  | _, [], [], _, _ => trivial
  | _, _ :: _, _ :: _, hI, ⟨h, hs⟩ => ⟨(hR _ _ _ hI h).1, propagate hR (hR _ _ _ hI h).2 hs⟩

namespace SingleUpdate
open Gadget

section Chain
variable {A G1 G2 GT : Type} {q : ℕ}
  (ep : EpochGadgets A (ZMod q) G1 G2) (P : PairingVar A G1 G2 GT) (B : Bitmap A (ZMod q))

/-- Modelled from the spec: the chain of §2, where the gadget "emits epoch i+1's validator set and
    threshold as the previous-epoch context for the next transition, forming a constraint chain across an
    arbitrary number of epochs". Each update is constrained against the context the one before it emitted;
    the entropy flag, the validator count and the hash flag are those of the whole chain (§4.2). --/
def constrainChain (constrainEntropyBit : Wire A Bool) (numValidators : UInt32) (generateConstraintsForHash : Bool) :
    EpochContext A (ZMod q) G2 → List (SingleUpdate G2) → Gadget A (List (ConstrainedEpoch A (ZMod q) G1 G2))
  | _, [] => pure []
  | ctx, u :: us => do
    let c ← u.constrain ep P B ctx.pubkeys ctx.index ctx.entropy ctx.maxNonSigners constrainEntropyBit numValidators
      generateConstraintsForHash
    let cs ← constrainChain constrainEntropyBit numValidators generateConstraintsForHash c.context us
    pure (c :: cs)

end Chain

variable {A G1 G2 GT : Type} {q : ℕ} {ep : EpochGadgets A (ZMod q) G1 G2} {P : PairingVar A G1 G2 GT}
  {B : Bitmap A (ZMod q)} {entropyBit : Wire A Bool} {n : UInt32} {gen : Bool} {ctx : EpochContext A (ZMod q) G2}
  {us : List (SingleUpdate G2)} {outs : List (ConstrainedEpoch A (ZMod q) G1 G2)} {cs cs' : ConstraintSystem A}

theorem constrainChain_cons_ok {u : SingleUpdate G2}
    (h : constrainChain ep P B entropyBit n gen ctx (u :: us) cs = (.ok outs, cs')) :
    ∃ c cs₁ rest, u.constrain ep P B ctx.pubkeys ctx.index ctx.entropy ctx.maxNonSigners entropyBit n gen cs =
      (.ok c, cs₁) ∧ constrainChain ep P B entropyBit n gen c.context us cs₁ = (.ok rest, cs') ∧ outs = c :: rest := by
  obtain ⟨c, cs₁, h₁, h⟩ := bind_eq_ok.mp h
  obtain ⟨rest, cs₂, h₂, h⟩ := bind_eq_ok.mp h
  cases h
  exact ⟨c, cs₁, rest, h₁, h₂, rfl⟩

theorem constrainChain_all {R : EpochContext A (ZMod q) G2 → SingleUpdate G2 → ConstrainedEpoch A (ZMod q) G1 G2 → Prop}
    (hstep : ∀ ctx u c cs cs', u.constrain ep P B ctx.pubkeys ctx.index ctx.entropy ctx.maxNonSigners entropyBit n gen cs =
      (.ok c, cs') → R ctx u c)
    (h : constrainChain ep P B entropyBit n gen ctx us cs = (.ok outs, cs')) : ChainAll R ctx us outs := by
  induction us generalizing ctx cs outs with
  | nil => cases h; trivial
  | cons u us ih =>
    obtain ⟨c, cs₁, rest, h₁, h₂, rfl⟩ := constrainChain_cons_ok h
    exact ⟨hstep _ _ _ _ _ h₁, ih h₂⟩

/-- When every successful transition only appends, and its own constraints imply `R a`, the constraints of a
    successful chain imply `R a` at every transition. --/
theorem constrainChain_holds
    {R : A → EpochContext A (ZMod q) G2 → SingleUpdate G2 → ConstrainedEpoch A (ZMod q) G1 G2 → Prop}
    (hstep : ∀ ctx u c cs cs', u.constrain ep P B ctx.pubkeys ctx.index ctx.entropy ctx.maxNonSigners entropyBit n gen cs =
      (.ok c, cs') → cs.constraints <+: cs'.constraints ∧ ∀ a, Holds cs'.constraints a → R a ctx u c)
    (h : constrainChain ep P B entropyBit n gen ctx us cs = (.ok outs, cs')) :
    cs.constraints <+: cs'.constraints ∧ ∀ a, Holds cs'.constraints a → ChainAll (R a) ctx us outs := by
  induction us generalizing ctx cs outs with
  | nil => cases h; exact ⟨List.prefix_refl _, fun _ _ => trivial⟩
  | cons u us ih =>
    obtain ⟨c, cs₁, rest, h₁, h₂, rfl⟩ := constrainChain_cons_ok h
    obtain ⟨p₁, hR⟩ := hstep _ _ _ _ _ h₁
    obtain ⟨p₂, hs⟩ := ih h₂
    exact ⟨p₁.trans p₂, fun a ha => ⟨hR a (ha.of_infix p₂.isInfix), hs a ha⟩⟩

/-! ### Validator counts -/

/-- In a successful chain every transition saw as many previous keys as bits, and `num_validators` new keys.
    The first transition's previous keys are compared with its bitmap only; when they number
    `num_validators`, so do the previous keys, the bitmap and the new keys of every transition. --/
theorem constrainChain_validator_count (hep : ep.Lengths)
    (h : constrainChain ep P B entropyBit n gen ctx us cs = (.ok outs, cs')) :
    ChainAll (fun ctx u c => ctx.pubkeys.length = u.signedBitmap.length ∧ u.epochData.publicKeys.length = n.toNat ∧
      c.newPubkeys.length = n.toNat) ctx us outs ∧
    (ctx.pubkeys.length = n.toNat → ChainAll (fun ctx u c => ctx.pubkeys.length = n.toNat ∧
      u.signedBitmap.length = n.toNat ∧ u.epochData.publicKeys.length = n.toNat ∧ c.newPubkeys.length = n.toNat)
      ctx us outs) := by
  have hall := constrainChain_all (fun _ _ _ _ _ h => constrain_lengths hep h) h
  refine ⟨hall, fun h₀ => ChainAll.propagate (I := fun ctx => ctx.pubkeys.length = n.toNat) ?_ h₀ hall⟩
  rintro ctx u c hctx ⟨hbits, hkeys, hnew⟩
  exact ⟨⟨hctx, hbits ▸ hctx, hkeys, hnew⟩, hnew⟩

theorem constrainChain_validator_count_toy :
    let ep : EpochGadgets (Assignment (ZMod 7) (ZMod 5) (ZMod 5)) (ZMod 7) (ZMod 5) (ZMod 5) := refEpochGadgets
    let ctx : EpochContext (Assignment (ZMod 7) (ZMod 5) (ZMod 5)) (ZMod 7) (ZMod 5) :=
      ⟨[fun _ => 1], fun _ => 0, fun _ => 0, fun _ => 0⟩
    let us : List (SingleUpdate (ZMod 5)) := [⟨⟨some 1, none, none, 0, [some 2]⟩, [some true]⟩]
    let n : UInt32 := 1
    ∃ outs cs', constrainChain ep (refPairingVar toyEngine) refBitmap (fun _ => false) n false ctx us ⟨0, []⟩ =
        (.ok outs, cs') ∧
      ChainAll (fun ctx u c => ctx.pubkeys.length = u.signedBitmap.length ∧ u.epochData.publicKeys.length = n.toNat ∧
        c.newPubkeys.length = n.toNat) ctx us outs ∧
      (ctx.pubkeys.length = n.toNat → ChainAll (fun ctx u c => ctx.pubkeys.length = n.toNat ∧
        u.signedBitmap.length = n.toNat ∧ u.epochData.publicKeys.length = n.toNat ∧ c.newPubkeys.length = n.toNat)
        ctx us outs) := by
  intro ep ctx us n
  have h : constrainChain ep (refPairingVar toyEngine) refBitmap (fun _ => false) n false ctx us ⟨0, []⟩ =
    (.ok _, _) := rfl
  exact ⟨_, _, h, constrainChain_validator_count refEpochGadgets_sound.toLengths h⟩

/-- One transition compares the previous keys with nothing but the bitmap: with no previous key, an empty
    bitmap and one new key, it succeeds for `num_validators = 1`. --/
theorem constrain_previous_keys_unchecked :
    let ep : EpochGadgets (Assignment (ZMod 7) (ZMod 5) (ZMod 5)) (ZMod 7) (ZMod 5) (ZMod 5) := refEpochGadgets
    let u : SingleUpdate (ZMod 5) := ⟨⟨some 1, none, none, 0, [some 2]⟩, []⟩
    let prevKeys : List (Wire (Assignment (ZMod 7) (ZMod 5) (ZMod 5)) (ZMod 5)) := []
    ∃ out cs', u.constrain ep (refPairingVar toyEngine) refBitmap prevKeys (fun _ => 0) (fun _ => 0) (fun _ => 0)
        (fun _ => false) 1 false ⟨0, []⟩ = (.ok out, cs') ∧
      prevKeys.length ≠ (1 : UInt32).toNat ∧ out.newPubkeys.length = 1 :=
  ⟨_, _, rfl, by decide, rfl⟩

/-- Validator-count drift is an input-shape failure of the chain (§7): a transition whose update does not have
    `num_validators` new keys stops the chain there, with the error of its `assert_eq!` and the constraint
    system that the transitions before it left; it appends nothing itself. --/
theorem constrainChain_drift {us₁ : List (SingleUpdate G2)} {u : SingleUpdate G2} {cs₁ : ConstraintSystem A}
    (h₁ : constrainChain ep P B entropyBit n gen ctx us₁ cs = (.ok outs, cs₁))
    (hu : n.toNat ≠ u.epochData.publicKeys.length) (us₂ : List (SingleUpdate G2)) :
    constrainChain ep P B entropyBit n gen ctx (us₁ ++ u :: us₂) cs =
      (.error (.assertEqFailed n.toNat u.epochData.publicKeys.length), cs₁) := by
  induction us₁ generalizing ctx cs outs with
  | nil =>
    cases h₁
    exact bind_of_error (constrain_of_ne hu)
  | cons u₀ us₁ ih =>
    obtain ⟨c, cs₀, rest, h₀, hrest, rfl⟩ := constrainChain_cons_ok h₁
    exact (bind_of_ok h₀).trans (bind_of_error (ih hrest))

theorem constrainChain_drift_toy :
    let ep : EpochGadgets (Assignment (ZMod 7) (ZMod 5) (ZMod 5)) (ZMod 7) (ZMod 5) (ZMod 5) := refEpochGadgets
    let ctx : EpochContext (Assignment (ZMod 7) (ZMod 5) (ZMod 5)) (ZMod 7) (ZMod 5) :=
      ⟨[fun _ => 1], fun _ => 0, fun _ => 0, fun _ => 0⟩
    let us₁ : List (SingleUpdate (ZMod 5)) := [⟨⟨some 1, none, none, 0, [some 2]⟩, [some true]⟩]
    let u : SingleUpdate (ZMod 5) := ⟨⟨some 2, none, none, 0, [some 2, some 3]⟩, [some true]⟩
    let n : UInt32 := 1
    ∃ outs cs₁, constrainChain ep (refPairingVar toyEngine) refBitmap (fun _ => false) n false ctx us₁ ⟨0, []⟩ =
        (.ok outs, cs₁) ∧ n.toNat ≠ u.epochData.publicKeys.length ∧
      constrainChain ep (refPairingVar toyEngine) refBitmap (fun _ => false) n false ctx (us₁ ++ u :: [])
        ⟨0, []⟩ = (.error (.assertEqFailed n.toNat u.epochData.publicKeys.length), cs₁) := by
  intro ep ctx us₁ u n
  have h : constrainChain ep (refPairingVar toyEngine) refBitmap (fun _ => false) n false ctx us₁ ⟨0, []⟩ =
    (.ok _, _) := rfl
  exact ⟨_, _, h, by decide, constrainChain_drift h (by decide) []⟩

/-! ### The setup circuit -/

/-- The trusted setup builds the circuit the prover builds: against oblivious epoch gadgets, a chain of setup
    updates `SingleUpdate::empty(k, m)` is the same gadget, constraints and wires included, as every chain of
    as many updates with `k` keys and `k` bits each. --/
theorem constrainChain_setup (hob : ep.Oblivious) {emptyEpochData : ℕ → ℕ → EpochData G2} {k m : ℕ}
    (hempty : (emptyEpochData k m).publicKeys.length = k) (ctx : EpochContext A (ZMod q) G2)
    (us : List (SingleUpdate G2)) (hus : ∀ u ∈ us, u.epochData.publicKeys.length = k ∧ u.signedBitmap.length = k) :
    constrainChain ep P B entropyBit n gen ctx (List.replicate us.length (SingleUpdate.empty emptyEpochData k m)) =
      constrainChain ep P B entropyBit n gen ctx us := by
  induction us generalizing ctx with
  | nil => rfl
  | cons u us ih =>
    obtain ⟨hk, hb⟩ := hus u (List.mem_cons_self _ _)
    have hu : (SingleUpdate.empty emptyEpochData k m).constrain ep P B ctx.pubkeys ctx.index ctx.entropy
        ctx.maxNonSigners entropyBit n gen =
        u.constrain ep P B ctx.pubkeys ctx.index ctx.entropy ctx.maxNonSigners entropyBit n gen :=
      constrain_eq_of_shape hob (hempty.trans hk.symm) ((List.length_replicate _ _).trans hb.symm)
    have htail := fun ctx => ih ctx fun u' hu' => hus u' (List.mem_cons_of_mem _ hu')
    simp only [List.length_cons, List.replicate_succ, constrainChain, hu, htail]

theorem constrainChain_setup_toy :
    let ep : EpochGadgets (Assignment (ZMod 7) (ZMod 5) (ZMod 5)) (ZMod 7) (ZMod 5) (ZMod 5) := refEpochGadgets
    let emptyEpochData : ℕ → ℕ → EpochData (ZMod 5) := fun k m => ⟨none, none, none, m.toUInt32, List.replicate k none⟩
    let us : List (SingleUpdate (ZMod 5)) := [⟨⟨some 1, none, none, 0, [some 2, some 3]⟩, [some true, some false]⟩]
    (emptyEpochData 2 1).publicKeys.length = 2 ∧
    (∀ u ∈ us, u.epochData.publicKeys.length = 2 ∧ u.signedBitmap.length = 2) ∧
    ∀ ctx : EpochContext _ (ZMod 7) (ZMod 5),
      constrainChain ep (refPairingVar toyEngine) refBitmap (fun _ => true) 2 false ctx
          (List.replicate us.length (SingleUpdate.empty emptyEpochData 2 1)) =
        constrainChain ep (refPairingVar toyEngine) refBitmap (fun _ => true) 2 false ctx us :=
  ⟨rfl, by decide, fun ctx => constrainChain_setup refEpochGadgets_oblivious rfl ctx _ (by decide)⟩

/-! ### Under the contracts -/

section Contracts
variable [AddCommGroup G2]

theorem constrain_quorumKey (hP : P.Aggregation) (hB : B.Sound) (hep : ep.AppendOnly) {u : SingleUpdate G2}
    {c : ConstrainedEpoch A (ZMod q) G1 G2}
    (h : u.constrain ep P B ctx.pubkeys ctx.index ctx.entropy ctx.maxNonSigners entropyBit n gen cs = (.ok c, cs')) :
    cs.constraints <+: cs'.constraints ∧
      ∀ a, Holds cs'.constraints a → QuorumKey (ctx.pubkeys.map (· a)) (ctx.maxNonSigners a).val (c.aggregatePk a) := by
  obtain ⟨-, bits, -, -, new, -, hlen, hnew, hmean⟩ := constrain_spec hP hB hep h
  refine ⟨hnew ▸ List.prefix_append _ _, fun a ha => ?_⟩
  rw [hnew, holds_append] at ha
  obtain ⟨hapk, hcount⟩ := hmean a ha.2
  exact ⟨bits.map (· a), by simp [hlen], hcount, hapk⟩

/-- Under every assignment satisfying what a transition adds, its aggregate key is the sum of the previous
    keys whose bit is set in the bitmap it constrained from the update, with at most the previous threshold of
    bits unset, and its message hash, keys and threshold are those of the update's own epoch data. So along a
    chain, under every assignment satisfying the whole chain, each transition is signed by a quorum of the
    validators before it under their threshold. --/
theorem constrain_authorized (hP : P.Aggregation) (hB : B.Sound) (hep : ep.AppendOnly) :
    (∀ (u : SingleUpdate G2) prevKeys prevIndex prevEntropy prevMax entropyBit n gen cs out cs',
      u.constrain ep P B prevKeys prevIndex prevEntropy prevMax entropyBit n gen cs = (.ok out, cs') →
      (∃ ed cs₁, ep.constrainEpochData u.epochData prevIndex gen cs = (.ok ed, cs₁) ∧
        out.messageHash = ed.messageHash ∧ out.newPubkeys = ed.pubkeys ∧ out.newMaxNonSigners = ed.maximumNonSigners) ∧
      ∃ bits csb csb' new, ep.constrainBool u.signedBitmap csb = (.ok bits, csb') ∧ bits.length = prevKeys.length ∧
        cs'.constraints = cs.constraints ++ new ∧
        ∀ a, Holds new a → out.aggregatePk a = (signers (prevKeys.map (· a)) (bits.map (· a))).sum ∧
          (bits.map (· a)).count false ≤ (prevMax a).val) ∧
    ∀ entropyBit n gen (ctx : EpochContext A (ZMod q) G2) us cs outs cs',
      constrainChain ep P B entropyBit n gen ctx us cs = (.ok outs, cs') → ∀ a, cs'.isSatisfied a →
        ChainAll (fun ctx _ c => QuorumKey (ctx.pubkeys.map (· a)) (ctx.maxNonSigners a).val (c.aggregatePk a))
          ctx us outs :=
  ⟨fun _ _ _ _ _ _ _ _ _ _ _ h => constrain_spec hP hB hep h, fun _ _ _ _ _ _ _ _ h a ha =>
    (constrainChain_holds (R := fun a ctx _ c => QuorumKey (ctx.pubkeys.map (· a)) (ctx.maxNonSigners a).val
      (c.aggregatePk a)) (fun _ _ _ _ _ h => constrain_quorumKey hP hB hep h) h).2 a (isSatisfied_iff.mp ha)⟩

theorem constrain_authorized_toy :
    let ep : EpochGadgets (Assignment (ZMod 7) (ZMod 5) (ZMod 5)) (ZMod 7) (ZMod 5) (ZMod 5) := refEpochGadgets
    let P := refPairingVar (A := Assignment (ZMod 7) (ZMod 5) (ZMod 5)) toyEngine
    let B := refBitmap (A := Assignment (ZMod 7) (ZMod 5) (ZMod 5)) (q := 7)
    let ctx : EpochContext (Assignment (ZMod 7) (ZMod 5) (ZMod 5)) (ZMod 7) (ZMod 5) :=
      ⟨[fun _ => 1], fun _ => 1, fun _ => 0, fun _ => 0⟩
    let u : SingleUpdate (ZMod 5) := ⟨⟨some 2, none, none, 0, [some 3]⟩, [some true]⟩
    let a : Assignment (ZMod 7) (ZMod 5) (ZMod 5) := ⟨fun i => if i = 0 then 2 else 1, fun _ => true, fun _ => 0, fun _ => 3⟩
    (∃ out cs', u.constrain ep P B ctx.pubkeys ctx.index ctx.entropy ctx.maxNonSigners (fun _ => false) 1 false
        ⟨0, []⟩ = (.ok out, cs') ∧ cs'.isSatisfied a = true ∧
      (∃ ed cs₁, ep.constrainEpochData u.epochData ctx.index false ⟨0, []⟩ = (.ok ed, cs₁) ∧
        out.messageHash = ed.messageHash ∧ out.newPubkeys = ed.pubkeys ∧ out.newMaxNonSigners = ed.maximumNonSigners) ∧
      ∃ bits csb csb' new, ep.constrainBool u.signedBitmap csb = (.ok bits, csb') ∧
        bits.length = ctx.pubkeys.length ∧ cs'.constraints = [] ++ new ∧
        ∀ a, Holds new a → out.aggregatePk a = (signers (ctx.pubkeys.map (· a)) (bits.map (· a))).sum ∧
          (bits.map (· a)).count false ≤ (ctx.maxNonSigners a).val) ∧
    ∃ outs cs', constrainChain ep P B (fun _ => false) 1 false ctx [u] ⟨0, []⟩ = (.ok outs, cs') ∧
      cs'.isSatisfied a = true ∧
      ChainAll (fun ctx _ c => QuorumKey (ctx.pubkeys.map (· a)) (ctx.maxNonSigners a).val (c.aggregatePk a))
        ctx [u] outs := by
  intro ep P B ctx u a
  have h₁ : u.constrain ep P B ctx.pubkeys ctx.index ctx.entropy ctx.maxNonSigners (fun _ => false) 1 false ⟨0, []⟩ =
    (.ok _, _) := rfl
  have h₂ : constrainChain ep P B (fun _ => false) 1 false ctx [u] ⟨0, []⟩ = (.ok [_], _) := (bind_of_ok h₁).trans rfl
  have hc := constrain_authorized (B := B) (refPairingVar_sound toyEngine).toAggregation refBitmap_sound
    refEpochGadgets_sound.toAppendOnly
  exact ⟨⟨_, _, h₁, by decide, hc.1 _ _ _ _ _ _ _ _ _ _ _ h₁⟩, _, _, h₂, by decide, hc.2 _ _ _ _ _ _ _ _ h₂ a (by decide)⟩

/-- Along a successful chain, under every assignment satisfying it, each transition whose index is not zero and
    whose flag is set has a parent entropy equal to the index of the context before it: the index of the
    previous transition, not its entropy. --/
theorem constrainChain_entropy_against_index (hP : P.Aggregation) (hB : B.Sound) (hep : ep.Sound)
    (h : constrainChain ep P B entropyBit n gen ctx us cs = (.ok outs, cs')) (a : A) (ha : cs'.isSatisfied a) :
    ChainAll (fun ctx _ c => c.index a ≠ 0 → entropyBit a = true → ctx.index a = c.parentEntropy a) ctx us outs := by
  refine (constrainChain_holds (R := fun a ctx _ c => c.index a ≠ 0 → entropyBit a = true →
    ctx.index a = c.parentEntropy a) (fun _ _ _ _ _ h => ⟨(constrain_quorumKey hP hB hep.toAppendOnly h).1,
    fun a ha => ?_⟩) h).2
    a (isSatisfied_iff.mp ha)
  obtain ⟨new, hinf, hS⟩ := constrain_entropy_check hP hB hep h
  exact (hS a).mp (ha.of_infix hinf)

theorem constrainChain_entropy_against_index_toy :
    let ep : EpochGadgets (Assignment (ZMod 7) (ZMod 5) (ZMod 5)) (ZMod 7) (ZMod 5) (ZMod 5) := refEpochGadgets
    let ctx : EpochContext (Assignment (ZMod 7) (ZMod 5) (ZMod 5)) (ZMod 7) (ZMod 5) :=
      ⟨[fun _ => 1], fun _ => 1, fun _ => 0, fun _ => 0⟩
    let us : List (SingleUpdate (ZMod 5)) := [⟨⟨some 2, none, none, 0, [some 2]⟩, [some true]⟩]
    let bit : Wire (Assignment (ZMod 7) (ZMod 5) (ZMod 5)) Bool := fun _ => true
    let a : Assignment (ZMod 7) (ZMod 5) (ZMod 5) :=
      ⟨fun i => if i = 0 then 2 else 1, fun _ => true, fun _ => 0, fun _ => 0⟩
    ∃ outs cs', constrainChain ep (refPairingVar toyEngine) refBitmap bit 1 false ctx us ⟨0, []⟩ =
        (.ok outs, cs') ∧ cs'.isSatisfied a = true ∧
      ChainAll (fun ctx _ c => c.index a ≠ 0 → bit a = true → ctx.index a = c.parentEntropy a) ctx us outs := by
  intro ep ctx us bit a
  have h : constrainChain ep (refPairingVar toyEngine) refBitmap bit 1 false ctx us ⟨0, []⟩ = (.ok _, _) := rfl
  exact ⟨_, _, h, rfl,
    constrainChain_entropy_against_index (refPairingVar_sound _).toAggregation refBitmap_sound refEpochGadgets_sound h a
      rfl⟩

end Contracts

end SingleUpdate
end BlsSnark
