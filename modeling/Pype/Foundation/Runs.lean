import Mathlib.Logic.Relation

/-!
# Runs of a deterministic transition system

A system is a step function from a state and an event to the next state.  An
event that is not enabled leaves the state as it is, so every list of events is
a run.  The rules here carry a property from one step to all the states a run
reaches.
-/

namespace Pype
namespace Foundation

variable {state event : Type}

/-- The state reached after a list of events. -/
def run (step : state -> event -> state) (s : state) : List event -> state
  | [] => s
  | e :: rest => run step (step s e) rest

/-- Every step of a run meets a condition on its state and event. -/
def Along (step : state -> event -> state) (guard : state -> event -> Prop)
    (s : state) : List event -> Prop
  | [] => True
  | e :: rest => guard s e ∧ Along step guard (step s e) rest

section

variable {step : state -> event -> state}

@[simp] theorem run_nil (s : state) : run step s [] = s := rfl

@[simp] theorem run_cons (s : state) (e : event) (rest : List event) :
    run step s (e :: rest) = run step (step s e) rest := rfl

theorem run_append (s : state) (es fs : List event) :
    run step s (es ++ fs) = run step (run step s es) fs := by
  induction es generalizing s with
  | nil => rfl
  | cons e rest ih => exact ih (step s e)

/-- A property kept by every step holds in every state of a run. -/
theorem run_invariant (inv : state -> Prop)
    (hstep : forall s e, inv s -> inv (step s e))
    {s : state} (hinit : inv s) (es : List event) : inv (run step s es) := by
  induction es generalizing s with
  | nil => exact hinit
  | cons e rest ih => exact ih (hstep s e hinit)

theorem run_invariant_along (inv : state -> Prop)
    {guard : state -> event -> Prop}
    (hstep : forall s e, guard s e -> inv s -> inv (step s e))
    {s : state} (hinit : inv s) {es : List event}
    (hguard : Along step guard s es) : inv (run step s es) := by
  induction es generalizing s with
  | nil => exact hinit
  | cons e rest ih =>
      exact ih (hstep s e hguard.left hinit) hguard.right

theorem along_append {guard : state -> event -> Prop} {s : state}
    {es fs : List event} :
    Along step guard s (es ++ fs) <->
      Along step guard s es ∧ Along step guard (run step s es) fs := by
  induction es generalizing s with
  | nil => simp [Along]
  | cons e rest ih => simp [Along, ih, and_assoc]

theorem along_and {guard guard' : state -> event -> Prop} {s : state}
    {es : List event} (h : Along step guard s es) (h' : Along step guard' s es) :
    Along step (fun s e => guard s e ∧ guard' s e) s es := by
  induction es generalizing s with
  | nil => trivial
  | cons e rest ih => exact ⟨⟨h.left, h'.left⟩, ih h.right h'.right⟩

instance decidableAlong {guard : state -> event -> Prop}
    [forall s e, Decidable (guard s e)] :
    (s : state) -> (es : List event) -> Decidable (Along step guard s es)
  | _, [] => isTrue trivial
  | s, e :: rest =>
      match (inferInstance : Decidable (guard s e)),
          decidableAlong (step s e) rest with
      | isTrue h, isTrue hrest => isTrue ⟨h, hrest⟩
      | isFalse h, _ => isFalse fun hall => h hall.left
      | isTrue _, isFalse hrest => isFalse fun hall => hrest hall.right

end

/-!
## Logs

What the steps of a run put out, and a log of it that the state keeps.
-/

section

variable {output : Type} {step : state -> event -> state}

/-- What the steps of a run put out, in order. -/
def outputs (step : state -> event -> state) (out : state -> event -> List output)
    (s : state) : List event -> List output
  | [] => []
  | e :: rest => out s e ++ outputs step out (step s e) rest

/-- A log to which every step adds what it puts out. -/
theorem log_run {out : state -> event -> List output} (log : state -> List output)
    (inv : state -> Prop) (hkeep : forall s e, inv s -> inv (step s e))
    (hstep : forall s e, inv s -> log (step s e) = log s ++ out s e)
    {s : state} (hinit : inv s) (es : List event) :
    log (run step s es) = log s ++ outputs step out s es := by
  induction es generalizing s with
  | nil => exact (List.append_nil _).symm
  | cons e rest ih =>
      calc log (run step (step s e) rest)
          = log (step s e) ++ outputs step out (step s e) rest := ih (hkeep s e hinit)
        _ = log s ++ out s e ++ outputs step out (step s e) rest := by
          rw [hstep s e hinit]
        _ = log s ++ outputs step out s (e :: rest) := List.append_assoc _ _ _

end

/-!
## Ranks

A quantity that no event raises and that some events lower bounds the number of those
events.
-/

section

variable {step : state -> event -> state}

def countAlong (step : state -> event -> state) (marked : state -> event -> Bool)
    (s : state) : List event -> Nat
  | [] => 0
  | e :: rest => (if marked s e then 1 else 0) + countAlong step marked (step s e) rest

/-- A rank that marked steps lower until a goal is reached bounds the number of those
that come before it. -/
theorem countAlong_le_or {guard : state -> event -> Prop} {marked : state -> event -> Bool}
    (rank : state -> Nat) {inv goal : state -> Prop}
    (hkeep : forall s e, guard s e -> inv s -> inv (step s e))
    (hlasts : forall s e, guard s e -> inv s -> goal s -> goal (step s e))
    (hstep : forall s e, guard s e -> inv s -> ¬ goal s -> goal (step s e) ∨
      (if marked s e then 1 else 0) + rank (step s e) ≤ rank s)
    {s : state} (hinv : inv s) {es : List event} (hguard : Along step guard s es) :
    goal (run step s es) ∨
      countAlong step marked s es + rank (run step s es) ≤ rank s := by
  induction es generalizing s with
  | nil =>
      right
      show 0 + rank s ≤ rank s
      omega
  | cons e rest ih =>
      rcases hguard with ⟨hfirst, hrest⟩
      have hinv' := hkeep s e hfirst hinv
      have hlasting : goal (step s e) -> goal (run step (step s e) rest) := by
        intro hgoal
        have hboth := run_invariant_along (fun t => inv t ∧ goal t)
          (fun t e' h' ht => ⟨hkeep t e' h' ht.left, hlasts t e' h' ht.left ht.right⟩)
          ⟨hinv', hgoal⟩ hrest
        exact hboth.right
      by_cases hgoal : goal s
      · exact Or.inl (hlasting (hlasts s e hfirst hinv hgoal))
      · rcases hstep s e hfirst hinv hgoal with hnow | hlower
        · exact Or.inl (hlasting hnow)
        · rcases ih hinv' hrest with hlater | hcount
          · exact Or.inl hlater
          · right
            show (if marked s e then 1 else 0) + countAlong step marked (step s e) rest +
              rank (run step (step s e) rest) ≤ rank s
            omega

end

/-!
## Simulation

One event of a system corresponds to a list of events of another one, which may
depend on the other one's state.
-/

section

variable {state' event' : Type} {step : state -> event -> state}
  {step' : state' -> event' -> state'} {sequel : state' -> event -> List event'}

/-- The events of the other system that correspond to a list of events. -/
def expand (step' : state' -> event' -> state')
    (sequel : state' -> event -> List event') (s' : state') :
    List event -> List event'
  | [] => []
  | e :: rest =>
      sequel s' e ++ expand step' sequel (run step' s' (sequel s' e)) rest

/-- A relation kept by every step and its counterpart relates the two systems
after a run whose steps all meet the condition. -/
theorem run_simulates {guard : state -> event -> Prop}
    (rel : state -> state' -> Prop)
    (hstep : forall s s' e, guard s e -> rel s s' ->
      rel (step s e) (run step' s' (sequel s' e)))
    {s : state} {s' : state'} (hinit : rel s s') {es : List event}
    (hguard : Along step guard s es) :
    rel (run step s es) (run step' s' (expand step' sequel s' es)) := by
  induction es generalizing s s' with
  | nil => exact hinit
  | cons e rest ih =>
      rw [expand, run_append]
      exact ih (hstep s s' e hguard.left hinit) hguard.right

end

end Foundation
end Pype
