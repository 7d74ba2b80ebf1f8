import Mathlib.Data.List.Basic

/-!
# Bounded first-in first-out queues

A queue holds at most `maxsize` items, where a `maxsize` of zero means that the
queue is unbounded.  The non-blocking operations fail on a full queue and on an
empty one; a blocking operation is the non-blocking one, retried until it
succeeds.
-/

namespace Pype
namespace Foundation

/-- A first-in first-out queue together with its capacity. -/
structure BoundedQueue (alpha : Type) where
  maxsize : Nat
  items : List alpha
  bounded : maxsize = 0 ∨ items.length ≤ maxsize

namespace BoundedQueue

variable {alpha : Type}

def empty (maxsize : Nat) : BoundedQueue alpha where
  maxsize := maxsize
  items := []
  bounded := Or.inr (Nat.zero_le maxsize)

def qsize (q : BoundedQueue alpha) : Nat :=
  q.items.length

/-- A queue with a positive capacity is full once it holds that many items. -/
def Full (q : BoundedQueue alpha) : Prop :=
  0 < q.maxsize ∧ q.maxsize ≤ q.qsize

instance (q : BoundedQueue alpha) : Decidable q.Full :=
  inferInstanceAs (Decidable (_ ∧ _))

/-- Append an item, unless the queue is full. -/
def putNowait (q : BoundedQueue alpha) (x : alpha) : Option (BoundedQueue alpha) :=
  if hfull : q.Full then none
  else some
    { maxsize := q.maxsize
      items := q.items ++ [x]
      bounded := by
        rcases Nat.eq_zero_or_pos q.maxsize with hzero | hpos
        · exact Or.inl hzero
        · have hroom : q.items.length < q.maxsize :=
            Nat.lt_of_not_le fun hle => hfull ⟨hpos, hle⟩
          exact Or.inr (by rw [List.length_append]; exact hroom) }

/-- Take the oldest item, unless the queue is empty. -/
def getNowait (q : BoundedQueue alpha) : Option (alpha × BoundedQueue alpha) :=
  match hitems : q.items with
  | [] => none
  | x :: rest => some
      (x,
        { maxsize := q.maxsize
          items := rest
          bounded := by
            rcases q.bounded with hzero | hle
            · exact Or.inl hzero
            · rw [hitems, List.length_cons] at hle
              exact Or.inr (Nat.le_of_succ_le hle) })

theorem items_putNowait {q q' : BoundedQueue alpha} {x : alpha}
    (h : q.putNowait x = some q') : q'.items = q.items ++ [x] := by
  unfold putNowait at h
  split at h
  · cases h
  · cases h
    rfl

theorem maxsize_putNowait {q q' : BoundedQueue alpha} {x : alpha}
    (h : q.putNowait x = some q') : q'.maxsize = q.maxsize := by
  unfold putNowait at h
  split at h
  · cases h
  · cases h
    rfl

theorem putNowait_eq_none_iff {q : BoundedQueue alpha} {x : alpha} :
    q.putNowait x = none <-> q.Full := by
  unfold putNowait
  split <;> simp_all

theorem items_getNowait {q q' : BoundedQueue alpha} {x : alpha}
    (h : q.getNowait = some (x, q')) : q.items = x :: q'.items := by
  unfold getNowait at h
  split at h
  · cases h
  · rename_i hitems
    cases h
    exact hitems

theorem maxsize_getNowait {q q' : BoundedQueue alpha} {x : alpha}
    (h : q.getNowait = some (x, q')) : q'.maxsize = q.maxsize := by
  unfold getNowait at h
  split at h
  · cases h
  · cases h
    rfl

theorem putNowait_of_nil {q : BoundedQueue alpha} (h : q.items = []) (x : alpha) :
    exists q', q.putNowait x = some q' := by
  cases hput : q.putNowait x with
  | some q' => exact ⟨q', rfl⟩
  | none =>
      have hfull : q.Full := putNowait_eq_none_iff.mp hput
      have hsize : q.qsize = 0 := congrArg List.length h
      exact absurd (Nat.lt_of_lt_of_le hfull.left hfull.right) (by rw [hsize]; simp)

theorem getNowait_of_cons {q : BoundedQueue alpha} {x : alpha} {rest : List alpha}
    (h : q.items = x :: rest) :
    exists q', q.getNowait = some (x, q') ∧ q'.items = rest := by
  cases hget : q.getNowait with
  | none =>
      unfold getNowait at hget
      split at hget
      · rename_i hnil
        rw [h] at hnil
        cases hnil
      · cases hget
  | some taken =>
      have hitems := items_getNowait hget
      rw [h] at hitems
      cases hitems
      exact ⟨taken.2, rfl, rfl⟩

theorem qsize_le_maxsize {q : BoundedQueue alpha} (h : 0 < q.maxsize) :
    q.qsize ≤ q.maxsize := by
  rcases q.bounded with hzero | hle
  · exact absurd hzero (Nat.ne_of_gt h)
  · exact hle

end BoundedQueue

end Foundation
end Pype
