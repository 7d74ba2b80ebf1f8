import Pype.Foundation.Runs

/-!
# What a system can still do

A state leads to a property if some list of events takes the system to a state that
has it.  A system that from every state it reaches leads to what it is there for is
never stuck, whatever happened before.
-/

namespace Pype
namespace Foundation

variable {state event : Type} {step : state -> event -> state} {P Q : state -> Prop}
  {s : state}

/-- Some run from the state ends in the property. -/
def Leads (step : state -> event -> state) (P : state -> Prop) (s : state) : Prop :=
  exists es, P (run step s es)

namespace Leads

theorem here (h : P s) : Leads step P s := ⟨[], h⟩

theorem next (e : event) (h : Leads step P (step s e)) : Leads step P s := by
  rcases h with ⟨es, h⟩
  exact ⟨e :: es, h⟩

theorem bind (h : Leads step P s) (hnext : forall t, P t -> Leads step Q t) :
    Leads step Q s := by
  rcases h with ⟨es, h⟩
  rcases hnext _ h with ⟨fs, h'⟩
  refine ⟨es ++ fs, ?_⟩
  rw [run_append]
  exact h'

theorem mono (h : Leads step P s) (himp : forall t, P t -> Q t) : Leads step Q s :=
  h.bind fun t ht => here (himp t ht)

theorem keep (inv : state -> Prop) (hstep : forall s e, inv s -> inv (step s e))
    (hinv : inv s) (h : Leads step P s) : Leads step (fun t => inv t ∧ P t) s := by
  rcases h with ⟨es, h⟩
  exact ⟨es, run_invariant inv hstep hinv es, h⟩

/-- A rank that can be lowered as long as it is not zero can be used up. -/
theorem exhaust (inv : state -> Prop) (rank : state -> Nat)
    (hlower : forall s, inv s -> rank s ≠ 0 ->
      Leads step (fun t => inv t ∧ rank t < rank s) s) (hinv : inv s) :
    Leads step (fun t => inv t ∧ rank t = 0) s := by
  generalize hn : rank s = n
  induction n using Nat.strongRecOn generalizing s with
  | _ n ih =>
      by_cases hzero : rank s = 0
      · exact here ⟨hinv, hzero⟩
      · apply (hlower s hinv hzero).bind
        intro t ht
        rcases ht with ⟨ht, hlt⟩
        exact ih (rank t) (hn ▸ hlt) ht rfl

end Leads

end Foundation
end Pype
