import Mathlib.Data.List.Infix

/-! # Constraint systems and gadgets

The shared, append-only constraint system of §5 and gadget calls on it. A wire is its value under each
assignment of the variables; a call that allocates a variable and constrains it to a value is modelled by
that value, and what is left as constraints are the checks. -/

namespace BlsSnark

/-- A wire carrying an `α`: its value under each assignment `A` of the circuit's variables. --/
abbrev Wire (A α : Type) : Type := A → α

/-- The shared constraint system: the number of witness variables allocated so far, and the constraints,
    each a predicate on assignments. --/
structure ConstraintSystem (A : Type) where
  numWitnessVariables : Nat
  constraints : List (A → Bool)

/-- `cs.is_satisfied()` under the assignment `a`. --/
def ConstraintSystem.isSatisfied {A : Type} (cs : ConstraintSystem A) (a : A) : Bool :=
  cs.constraints.all (· a)

/-- Every constraint of `cs` holds under `a`. --/
def Holds {A : Type} (cs : List (A → Bool)) (a : A) : Prop := ∀ c ∈ cs, c a = true

section Holds
variable {A : Type} {a : A}

@[simp] theorem holds_nil : Holds ([] : List (A → Bool)) a := fun _ h => nomatch h

@[simp] theorem holds_append {l₁ l₂ : List (A → Bool)} : Holds (l₁ ++ l₂) a ↔ Holds l₁ a ∧ Holds l₂ a :=
  List.forall_mem_append

@[simp] theorem holds_singleton {c : A → Bool} : Holds [c] a ↔ c a = true := List.forall_mem_singleton

theorem isSatisfied_iff {cs : ConstraintSystem A} : cs.isSatisfied a = true ↔ Holds cs.constraints a :=
  List.all_eq_true

theorem Holds.of_infix {l₁ l₂ : List (A → Bool)} (h : l₁ <:+: l₂) (hl : Holds l₂ a) : Holds l₁ a :=
  fun c hc => hl c (h.subset hc)

end Holds

/-- The variants of `r1cs_core::SynthesisError`. --/
inductive SynthesisError where
  | missingCS
  | assignmentMissing
  | divisionByZero
  | unsatisfiable
  | polynomialDegreeTooLarge
  | unexpectedIdentity
  | malformedVerifyingKey
  | unconstrainedVariable
  deriving DecidableEq, Repr

/-- How a call ends without a result: it returns `Err(e)`, or `assert_eq!(left, right)` panics. --/
inductive Failure where
  | synthesis (e : SynthesisError)
  | assertEqFailed (left right : Nat)
  deriving DecidableEq, Repr

/-- A gadget call on the shared constraint system: its result and the constraint system after it. --/
def Gadget (A α : Type) : Type := ConstraintSystem A → Except Failure α × ConstraintSystem A

namespace Gadget
variable {A α β : Type}

/-- `Ok(x)`, appending nothing. --/
protected def pure (x : α) : Gadget A α := fun cs => (.ok x, cs)

/-- Run `g`, then `f` on its result; a failure of `g` is returned at once (`?`). --/
protected def bind (g : Gadget A α) (f : α → Gadget A β) : Gadget A β := fun cs =>
  match g cs with
  | (.ok x, cs') => f x cs'
  | (.error e, cs') => (.error e, cs')

instance : Monad (Gadget A) where
  pure := Gadget.pure
  bind := Gadget.bind

instance : LawfulMonad (Gadget A) := LawfulMonad.mk' (Gadget A)
  (fun g => funext fun cs => by
    show Gadget.bind g (fun x => Gadget.pure (id x)) cs = g cs
    simp only [Gadget.bind]
    rcases g cs with ⟨_ | _, _⟩ <;> rfl)
  (fun _ _ => rfl)
  (fun g f k => funext fun cs => by
    show Gadget.bind (Gadget.bind g f) k cs = Gadget.bind g (fun x => Gadget.bind (f x) k) cs
    simp only [Gadget.bind]
    rcases g cs with ⟨_ | _, _⟩ <;> rfl)

/-- Return `e` at once. --/
def fail (e : Failure) : Gadget A α := fun cs => (.error e, cs)

/-- `assert_eq!(left, right)`: panics when the two differ. --/
def assertEq (left right : Nat) : Gadget A Unit :=
  if left = right then pure () else fail (.assertEqFailed left right)

/-- A call whose `Result` is dropped (no `?`): what it appended stays, its error is lost. --/
def discard (g : Gadget A α) : Gadget A Unit := fun cs => (.ok (), (g cs).2)

/-- `cs.enforce_constraint(...)`: append one constraint. --/
def enforce (c : A → Bool) : Gadget A Unit := fun cs => (.ok (), { cs with constraints := cs.constraints ++ [c] })

/-- Allocate a witness variable, read under an assignment by `read a i` for the variable's index `i`. --/
def newWitness (read : A → Nat → α) : Gadget A (Wire A α) := fun cs =>
  (.ok fun a => read a cs.numWitnessVariables, { cs with numWitnessVariables := cs.numWitnessVariables + 1 })

/-! ### Running a gadget -/

variable {g : Gadget A α} {f : α → Gadget A β} {cs cs' cs'' : ConstraintSystem A} {x : α} {y : β} {e : Failure}

@[simp] theorem pure_apply (x : α) (cs : ConstraintSystem A) : (pure x : Gadget A α) cs = (.ok x, cs) := rfl

@[simp] theorem fail_apply (cs : ConstraintSystem A) : (fail e : Gadget A α) cs = (.error e, cs) := rfl

theorem bind_of_ok (h : g cs = (.ok x, cs')) : (g >>= f) cs = f x cs' := by
  show Gadget.bind g f cs = _
  simp only [Gadget.bind, h]

theorem bind_of_error (h : g cs = (.error e, cs')) : (g >>= f) cs = (.error e, cs') := by
  show Gadget.bind g f cs = _
  simp only [Gadget.bind, h]

theorem bind_eq_ok : (g >>= f) cs = (.ok y, cs'') ↔ ∃ x cs', g cs = (.ok x, cs') ∧ f x cs' = (.ok y, cs'') := by
  refine ⟨fun h => ?_, fun ⟨x, cs', h₁, h₂⟩ => (bind_of_ok h₁).trans h₂⟩
  rcases hg : g cs with ⟨_ | x, cs'⟩
  · rw [bind_of_error hg] at h
    cases h
  · exact ⟨x, cs', rfl, (bind_of_ok hg).symm.trans h⟩

@[simp] theorem discard_apply (cs : ConstraintSystem A) : discard g cs = (.ok (), (g cs).2) := rfl

theorem assertEq_of_eq {m n : Nat} (h : m = n) (cs : ConstraintSystem A) : assertEq m n cs = (.ok (), cs) := by
  simp [assertEq, h]

theorem assertEq_of_ne {m n : Nat} (h : m ≠ n) (cs : ConstraintSystem A) :
    assertEq m n cs = (.error (.assertEqFailed m n), cs) := by
  simp [assertEq, h]

/-! ### Specifications

`Spec g x S`: run on any constraint system, `g` succeeds with `x`, and the constraints it appends hold
exactly where `S` does. A collaborator that only computes has `S = True`; a check has `S` its condition. -/

/-- Run on any constraint system, `g` succeeds with `x` and appends constraints that hold exactly where
    `S` does. --/
def Spec (g : Gadget A α) (x : α) (S : A → Prop) : Prop :=
  ∀ cs, ∃ cs' new, g cs = (.ok x, cs') ∧ cs'.constraints = cs.constraints ++ new ∧ ∀ a, Holds new a ↔ S a

theorem Spec.pure (x : α) : Spec (pure x : Gadget A α) x fun _ => True :=
  fun cs => ⟨cs, [], rfl, by simp, by simp⟩

theorem Spec.bind {S T : A → Prop} (hg : Spec g x S) (hf : Spec (f x) y T) :
    Spec (g >>= f) y fun a => S a ∧ T a := fun cs => by
  obtain ⟨cs₁, new₁, h₁, hc₁, hs₁⟩ := hg cs
  obtain ⟨cs₂, new₂, h₂, hc₂, hs₂⟩ := hf cs₁
  exact ⟨cs₂, new₁ ++ new₂, (bind_of_ok h₁).trans h₂, by rw [hc₂, hc₁, List.append_assoc],
    fun a => by rw [holds_append, hs₁, hs₂]⟩

theorem Spec.map_pure {S : A → Prop} {k : α → β} (hg : Spec g x S) :
    Spec (g >>= fun y => Pure.pure (k y)) (k x) S := fun cs => by
  obtain ⟨cs', new, h₁, h₂, h₃⟩ := hg cs
  exact ⟨cs', new, bind_of_ok h₁, h₂, h₃⟩

theorem Spec.congr {S T : A → Prop} (h : Spec g x S) (hST : ∀ a, S a ↔ T a) : Spec g x T := fun cs => by
  obtain ⟨cs', new, h₁, h₂, h₃⟩ := h cs
  exact ⟨cs', new, h₁, h₂, fun a => (h₃ a).trans (hST a)⟩

/-- A run of a gadget with a specification returned its value, and appended what the specification says. --/
theorem Spec.of_eq {S : A → Prop} {z : α} (hg : Spec g x S) (h : g cs = (.ok z, cs')) :
    z = x ∧ ∃ new, cs'.constraints = cs.constraints ++ new ∧ ∀ a, Holds new a ↔ S a := by
  obtain ⟨cs'', new, hrun, happ, hS⟩ := hg cs
  obtain ⟨rfl, rfl⟩ : z = x ∧ cs' = cs'' := by simpa [h] using hrun
  exact ⟨rfl, new, happ, hS⟩

theorem Spec.enforce (c : A → Bool) : Spec (enforce c) () fun a => c a = true :=
  fun _ => ⟨_, [c], rfl, rfl, fun _ => holds_singleton⟩

/-- A loop whose every step only computes, computes the fold of the steps. --/
theorem Spec.foldlM {γ : Type} {f : α → γ → Gadget A α} (step : α → γ → α)
    (hf : ∀ acc b, Spec (f acc b) (step acc b) fun _ => True) :
    ∀ (l : List γ) (init : α), Spec (l.foldlM f init) (l.foldl step init) fun _ => True
  | [], init => Spec.pure init
  | b :: l, init => ((hf init b).bind (Spec.foldlM step hf l (step init b))).congr fun _ => and_self_iff

/-- Mapping a gadget over a list returns the mapped list, with constraints that hold where those of every
    element do. --/
theorem Spec.mapM {γ : Type} {f : γ → Gadget A α} {h : γ → α} {S : γ → A → Prop} (hf : ∀ b, Spec (f b) (h b) (S b)) :
    ∀ l : List γ, Spec (l.mapM f) (l.map h) fun a => ∀ b ∈ l, S b a
  | [] => (Spec.pure []).congr fun _ => by simp
  | b :: l => by
    rw [List.mapM_cons]
    have hl : Spec (l.mapM f >>= fun xs => Pure.pure (h b :: xs)) (h b :: l.map h) fun a => ∀ b ∈ l, S b a :=
      (Spec.mapM hf l).map_pure
    refine ((hf b).bind hl).congr fun a => ?_
    exact (List.forall_mem_cons (p := fun b => S b a)).symm

/-! ### Appending

`Appends g`: every run of `g`, successful or not, keeps the constraints it was given as a prefix. -/

/-- Every run of `g` only appends constraints. --/
def Appends (g : Gadget A α) : Prop := ∀ cs, cs.constraints <+: (g cs).2.constraints

theorem Spec.appends {S : A → Prop} (h : Spec g x S) : Appends g := fun cs => by
  obtain ⟨cs', new, h₁, h₂, -⟩ := h cs
  rw [h₁, h₂]
  exact List.prefix_append _ _

theorem Appends.prefix_of_eq {r : Except Failure α} (hg : Appends g) (h : g cs = (r, cs')) :
    cs.constraints <+: cs'.constraints := by
  simpa [h] using hg cs

theorem Appends.pure (x : α) : Appends (pure x : Gadget A α) := fun _ => List.prefix_refl _

theorem Appends.bind (hg : Appends g) (hf : ∀ x, Appends (f x)) : Appends (g >>= f) := fun cs => by
  rcases h : g cs with ⟨_ | x, cs'⟩
  · rw [bind_of_error h]
    simpa [h] using hg cs
  · rw [bind_of_ok h]
    exact ((show cs.constraints <+: cs'.constraints by simpa [h] using hg cs)).trans (hf x cs')

theorem Appends.newWitness (read : A → Nat → α) : Appends (newWitness read) := fun _ => List.prefix_refl _

theorem Appends.mapM {γ : Type} {f : γ → Gadget A α} (hf : ∀ b, Appends (f b)) :
    ∀ l : List γ, Appends (l.mapM f)
  | [] => Appends.pure []
  | b :: l => by
    rw [List.mapM_cons]
    exact (hf b).bind fun _ => (Appends.mapM hf l).bind fun _ => Appends.pure _

/-- A successful `mapM` returns one result per element. --/
theorem mapM_length {γ : Type} {f : γ → Gadget A α} :
    ∀ (l : List γ) {r : List α} {cs cs' : ConstraintSystem A}, l.mapM f cs = (.ok r, cs') → r.length = l.length
  | [], r, cs, cs', h => by
    cases h
    rfl
  | b :: l, r, cs, cs', h => by
    rw [List.mapM_cons] at h
    obtain ⟨y, cs₁, -, h⟩ := bind_eq_ok.mp h
    obtain ⟨ys, cs₂, hl, h⟩ := bind_eq_ok.mp h
    cases h
    simp [mapM_length l hl]

/-- Mapping a gadget that ignores the elements reads only the length of the list. --/
theorem mapM_const_of_length {γ δ : Type} (g : Gadget A α) :
    ∀ {l : List γ} {l' : List δ}, l.length = l'.length → l.mapM (fun _ => g) = l'.mapM (fun _ => g)
  | [], [], _ => rfl
  | _ :: _, _ :: _, h => by simp only [List.mapM_cons, mapM_const_of_length g (Nat.succ.inj h)]

end Gadget

end BlsSnark
