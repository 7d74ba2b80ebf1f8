import Mathlib.Tactic.Linarith
import Pype.Server.Registries

/-!
# Timeouts and waiting on queues

A queue operation with a zero budget runs through without giving up the event
loop.  With a positive budget it suspends the handler: it is done at some later
moment at which the queue has room, respectively an item, or its budget expires
and the queue is left alone.
-/

namespace Pype
namespace Server

/-- `normalize_timeout`. -/
def normalizeTimeout (timeoutMs : Option Int) (maxTimeoutMs : Int) :
    Except PypeError Int :=
  match timeoutMs with
  | none => .ok maxTimeoutMs
  | some ms =>
      if ms < 0 ∨ maxTimeoutMs < ms then
        .error (.timeoutOutOfRangeError
          s!"timeout must be in [0, {maxTimeoutMs}] ms; got {ms}")
      else .ok ms

/-- `int(x)`: truncation toward zero. -/
def truncate (x : Rat) : Int :=
  if 0 ≤ x then x.floor else x.ceil

/-- `_remaining_ms`: milliseconds left until the deadline, never negative. -/
def remainingMs (deadline now : Time) : Int :=
  max 0 (truncate ((deadline - now) * 1000))

def seconds (ms : Int) : Time := (ms : Rat) / 1000

/-- `queue_put`: with a zero budget the item is put at once or not at all, and
the handler goes on; otherwise the handler waits. -/
def queuePut {result : Type} (timeoutMs : Int) (put : Store -> Option Store)
    (resume : Bool -> Store -> Store × result) (wait : result) (s : Store) :
    Store × result :=
  if timeoutMs = 0 then
    match put s with
    | some s' => resume true s'
    | none => resume false s
  else (s, wait)

/-- `queue_get`: with a zero budget an item is taken at once or not at all, and
the handler goes on; otherwise the handler waits. -/
def queueGet {result item : Type} (timeoutMs : Int)
    (get : Store -> Option (item × Store))
    (resume : Option item -> Store -> Store × result) (wait : result)
    (s : Store) : Store × result :=
  if timeoutMs = 0 then
    match get s with
    | some (x, s') => resume (some x) s'
    | none => resume none s
  else (s, wait)

section

variable {result item : Type} {timeoutMs : Int} {wait : result} {s : Store}

/-- What holds of the handler once it goes on, and of its wait, holds after the
operation. -/
theorem queuePut_ends (P : result -> Prop) {put : Store -> Option Store}
    {resume : Bool -> Store -> Store × result}
    (hresume : forall enqueued t, P (resume enqueued t).2)
    (hwait : timeoutMs ≠ 0 -> P wait) :
    P (queuePut timeoutMs put resume wait s).2 := by
  unfold queuePut
  split
  · split
    · exact hresume true _
    · exact hresume false s
  · rename_i hbudget
    exact hwait hbudget

theorem queueGet_ends (P : result -> Prop) {get : Store -> Option (item × Store)}
    {resume : Option item -> Store -> Store × result}
    (hresume : forall x t, P (resume x t).2) (hwait : timeoutMs ≠ 0 -> P wait) :
    P (queueGet timeoutMs get resume wait s).2 := by
  unfold queueGet
  split
  · split
    · exact hresume _ _
    · exact hresume none s
  · rename_i hbudget
    exact hwait hbudget

end

/-!
## Timeouts
-/

theorem normalizeTimeout_ok {timeout : Option Int} {maxTimeoutMs ms : Int}
    (hmax : 0 ≤ maxTimeoutMs) (h : normalizeTimeout timeout maxTimeoutMs = .ok ms) :
    0 ≤ ms ∧ ms ≤ maxTimeoutMs := by
  unfold normalizeTimeout at h
  split at h
  · cases h
    exact ⟨hmax, le_refl _⟩
  · split at h
    · cases h
    · rename_i hrange
      cases h
      omega

theorem normalizeTimeout_of_mem {ms maxTimeoutMs : Int} (hpos : 0 ≤ ms)
    (hle : ms ≤ maxTimeoutMs) :
    normalizeTimeout (some ms) maxTimeoutMs = .ok ms := by
  have hrange : ¬ (ms < 0 ∨ maxTimeoutMs < ms) := by omega
  simp only [normalizeTimeout, if_neg hrange]

theorem truncate_le {x : Rat} (h : 0 ≤ x) : (truncate x : Rat) ≤ x := by
  rw [truncate, if_pos h]
  exact Rat.floor_le x

theorem truncate_nonpos {x : Rat} (h : x ≤ 0) : truncate x ≤ 0 := by
  unfold truncate
  split
  · rename_i hpos
    have hzero : x = 0 := le_antisymm h hpos
    rw [hzero]
    decide +kernel
  · exact Rat.ceil_le_iff.mpr (by simpa using h)

theorem truncate_nonneg {x : Rat} (h : 0 ≤ x) : 0 ≤ truncate x := by
  rw [truncate, if_pos h]
  exact Rat.le_floor_iff.mpr (by simpa using h)

theorem truncate_nonneg_iff {x : Rat} : 0 ≤ truncate x <-> -1 < x := by
  by_cases h : 0 ≤ x
  · apply iff_of_true (truncate_nonneg h)
    linarith
  · rw [truncate, if_neg h]
    have hceil : (-1 : Int) < x.ceil <-> ((-1 : Int) : Rat) < x := Rat.lt_ceil_iff
    constructor
    · intro hnonneg
      have hlt := hceil.mp (by omega)
      simpa using hlt
    · intro hlt
      have hpos := hceil.mpr (by simpa using hlt)
      omega

theorem truncate_mono {x y : Rat} (h : x ≤ y) : truncate x ≤ truncate y := by
  by_cases hy : 0 ≤ y
  · by_cases hx : 0 ≤ x
    · rw [truncate, truncate, if_pos hx, if_pos hy]
      exact Rat.floor_monotone h
    · exact le_trans (truncate_nonpos (le_of_lt (not_le.mp hx))) (truncate_nonneg hy)
  · have hx : ¬ 0 ≤ x := fun hx => hy (le_trans hx h)
    rw [truncate, truncate, if_neg hx, if_neg hy]
    exact Rat.ceil_le_iff.mpr (le_trans h Rat.le_ceil)

theorem truncate_intCast (n : Int) : truncate (n : Rat) = n := by
  unfold truncate
  split
  · exact Rat.floor_intCast n
  · exact Rat.ceil_intCast n

theorem remainingMs_nonneg (deadline now : Time) : 0 ≤ remainingMs deadline now :=
  le_max_left _ _

theorem remainingMs_eq_zero {deadline now : Time} (h : deadline ≤ now) :
    remainingMs deadline now = 0 := by
  have hnonpos : (deadline - now) * 1000 ≤ 0 := by linarith
  exact max_eq_left (truncate_nonpos hnonpos)

theorem remainingMs_le {deadline now : Time} {ms : Int} (hms : 0 ≤ ms)
    (h : deadline ≤ now + seconds ms) : remainingMs deadline now ≤ ms := by
  have hle : (deadline - now) * 1000 ≤ (ms : Rat) := by
    unfold seconds at h
    linarith
  unfold remainingMs truncate
  split
  · apply max_le hms
    exact_mod_cast le_trans (Rat.floor_le _) hle
  · rename_i hneg
    refine max_le hms (le_trans ?_ hms)
    have hnonpos := truncate_nonpos (le_of_lt (not_le.mp hneg))
    rwa [truncate, if_neg hneg] at hnonpos

theorem seconds_le {ms ms' : Int} (h : ms ≤ ms') : seconds ms ≤ seconds ms' := by
  have hcast : (ms : Rat) ≤ (ms' : Rat) := Int.cast_le.mpr h
  unfold seconds
  linarith

theorem seconds_remainingMs_le {deadline now : Time}
    (h : remainingMs deadline now ≠ 0) :
    now + seconds (remainingMs deadline now) ≤ deadline := by
  have hms : 0 < truncate ((deadline - now) * 1000) := by
    unfold remainingMs at h
    omega
  have hpos : 0 ≤ (deadline - now) * 1000 := by
    by_contra hneg
    exact absurd (truncate_nonpos (le_of_lt (not_le.mp hneg))) (not_le.mpr hms)
  have hle := truncate_le hpos
  rw [remainingMs, max_eq_right (le_of_lt hms), seconds]
  linarith

end Server
end Pype
