import ZenControl.Library.Interleaving
import ZenControl.Library.Faults

/-! One thread of an interleaved run: it may run to its end while the others wait, and what it
guarantees on its own it guarantees beside others that keep the same states. -/
namespace Calls
variable {ι C : Type} {R : C → Type} {ε α Γ : Type} [DecidableEq ι]

namespace Config
variable {M : Machine ι C R ε Γ} {serve : (c : C) → Γ → Except ε (R c) × Γ}

/-- A thread that never has to wait runs to its end. -/
theorem run_alone (i : ι) (hM : ∀ c g, M i c g=some (serve c g)) (g : Γ)
    (code : ι → Prog C R ε α) : ∃ p, Run (Step M) anyStep ⟨g,code⟩
      ⟨((code i).run serve g).2,Function.update code i p⟩ := by
  generalize hp : code i=p
  induction p generalizing g code with
  | ret a => exact ⟨code i,by rw [Function.update_eq_self]; exact .refl⟩
  | raise e => exact ⟨code i,by rw [Function.update_eq_self]; exact .refl⟩
  | call c k ih =>
    obtain ⟨p,hrun⟩ := ih (serve c g).1 (serve c g).2
      (Function.update code i (k (serve c g).1)) (Function.update_self ..)
    rw [Function.update_idem] at hrun
    exact ⟨p,(Run.refl.step trivial (Step.call hp (hM c g))).trans hrun⟩

end Config
end Calls
