import Mathlib.Data.List.Nodup

/-!
# Linearizable histories

An object is used by operations that overlap: each is invoked, takes effect and is
answered.  The object behaves as if it were used by one operation at a time if the
operations can be put in an order in which a sequential object could have given the
same answers, and in which an operation that was answered before another one was
invoked comes first.
-/

namespace Pype
namespace Foundation

/-- A sequential object: what an input may do to the state with which output, and
the replies that show an output. -/
structure SequentialObject (state input output reply : Type) where
  initial : state
  may : state -> input -> output -> state -> Prop
  shows : output -> reply -> Prop

/-- What is seen of an operation from outside. -/
inductive Observation (ident input reply : Type) where
  | invoked (i : ident) (x : input)
  | answered (i : ident) (r : reply)

/-- An operation that has taken effect. -/
structure Completed (ident input output : Type) where
  ident : ident
  input : input
  output : output

def Before {alpha : Type} (xs : List alpha) (a b : alpha) : Prop :=
  List.Sublist [a, b] xs

namespace Before

variable {alpha : Type} {xs ys : List alpha} {a b c : alpha}

theorem mono (h : Before xs a b) (hsub : List.Sublist xs ys) : Before ys a b :=
  List.Sublist.trans h hsub

theorem append_left (h : Before xs a b) (ys : List alpha) : Before (xs ++ ys) a b :=
  h.mono (List.sublist_append_left xs ys)

theorem left_mem (h : Before xs a b) : a ∈ xs :=
  List.Sublist.subset h List.mem_cons_self

theorem snoc (h : a ∈ xs) : Before (xs ++ [b]) a b :=
  List.Sublist.append (List.singleton_sublist.mpr h) (List.Sublist.refl [b])

theorem snoc_iff : Before (xs ++ [c]) a b <-> Before xs a b ∨ (a ∈ xs ∧ b = c) := by
  constructor
  · intro h
    rcases List.sublist_append_iff.mp h with ⟨l, r, heq, hl, hr⟩
    rcases List.sublist_singleton.mp hr with rfl | rfl
    · rw [List.append_nil] at heq
      left
      rw [Before, heq]
      exact hl
    · right
      have hparts : [a] ++ [b] = l ++ [c] := heq
      rcases List.append_inj' hparts rfl with ⟨rfl, hlast⟩
      constructor
      · exact List.singleton_sublist.mp hl
      · exact List.singleton_inj.mp hlast
  · intro hex
    rcases hex with h | ⟨h, rfl⟩
    · exact h.append_left [c]
    · exact snoc h

end Before

section

variable {state ident input output reply : Type}

/-- One operation after another takes the object from one state to another. -/
inductive Legal (obj : SequentialObject state input output reply) :
    state -> List (Completed ident input output) -> state -> Prop where
  | nil (s : state) : Legal obj s [] s
  | cons {s s' t : state} {op : Completed ident input output}
      {rest : List (Completed ident input output)}
      (hmay : obj.may s op.input op.output s') (hrest : Legal obj s' rest t) :
      Legal obj s (op :: rest) t

/-- The order explains the history and leaves the object in a state. -/
structure Linearizes (obj : SequentialObject state input output reply)
    (history : List (Observation ident input reply))
    (order : List (Completed ident input output)) (s : state) : Prop where
  legal : Legal obj obj.initial order s
  once : (order.map Completed.ident).Nodup
  invoked : forall op, op ∈ order -> .invoked op.ident op.input ∈ history
  shown : forall i r, .answered i r ∈ history ->
    exists op, op ∈ order ∧ op.ident = i ∧ obj.shows op.output r
  realTime : forall i r j x, Before history (.answered i r) (.invoked j x) ->
    j ∈ order.map Completed.ident -> Before (order.map Completed.ident) i j

variable {obj : SequentialObject state input output reply}

theorem Legal.snoc {s t u : state} {order : List (Completed ident input output)}
    {op : Completed ident input output} (h : Legal obj s order t)
    (hmay : obj.may t op.input op.output u) : Legal obj s (order ++ [op]) u := by
  induction h with
  | nil s => exact Legal.cons hmay (Legal.nil u)
  | cons hfirst _ ih => exact Legal.cons hfirst (ih hmay)

namespace Linearizes

variable {history : List (Observation ident input reply)}
  {order : List (Completed ident input output)} {s s' : state}

theorem nil :
    Linearizes obj ([] : List (Observation ident input reply)) [] obj.initial where
  legal := Legal.nil obj.initial
  once := List.nodup_nil
  invoked := by
    intro op hop
    cases hop
  shown := by
    intro i r h
    cases h
  realTime := by
    intro i r j x _ hj
    cases hj

theorem mem_of_answered (h : Linearizes obj history order s) {i : ident} {r : reply}
    (hanswered : .answered i r ∈ history) : i ∈ order.map Completed.ident := by
  rcases h.shown i r hanswered with ⟨op, hop, rfl, _⟩
  exact List.mem_map_of_mem hop

theorem invoke (h : Linearizes obj history order s) {i : ident} {x : input}
    (hfresh : forall x', .invoked i x' ∉ history) :
    Linearizes obj (history ++ [.invoked i x]) order s where
  legal := h.legal
  once := h.once
  invoked := fun op hop => List.mem_append_left _ (h.invoked op hop)
  shown := by
    intro j r hj
    rcases List.mem_append.mp hj with hj | hj
    · exact h.shown j r hj
    · cases List.mem_singleton.mp hj
  realTime := by
    intro j r k x' hbefore hk
    rcases Before.snoc_iff.mp hbefore with hbefore | ⟨_, heq⟩
    · exact h.realTime j r k x' hbefore hk
    · -- the new operation has not taken effect
      cases heq
      rcases List.mem_map.mp hk with ⟨op, hop, hident⟩
      have hinvoked := h.invoked op hop
      rw [hident] at hinvoked
      exact absurd hinvoked (hfresh op.input)

/-- An operation takes effect after its invocation. -/
theorem effect (h : Linearizes obj history order s) {op : Completed ident input output}
    (hinvoked : .invoked op.ident op.input ∈ history)
    (hnew : op.ident ∉ order.map Completed.ident)
    (hmay : obj.may s op.input op.output s') :
    Linearizes obj history (order ++ [op]) s' where
  legal := h.legal.snoc hmay
  once := by
    rw [List.map_append]
    exact List.Nodup.append h.once (List.nodup_singleton op.ident)
      (List.disjoint_singleton.mpr hnew)
  invoked := by
    intro op' hop'
    rcases List.mem_append.mp hop' with hop' | hop'
    · exact h.invoked op' hop'
    · rw [List.mem_singleton.mp hop']
      exact hinvoked
  shown := by
    intro i r hi
    rcases h.shown i r hi with ⟨op', hop', hident, hshows⟩
    exact ⟨op', List.mem_append_left _ hop', hident, hshows⟩
  realTime := by
    intro i r j x hbefore hj
    rw [List.map_append] at hj ⊢
    rcases List.mem_append.mp hj with hj | hj
    · exact (h.realTime i r j x hbefore hj).append_left _
    · -- what was answered before has taken effect before
      rw [List.mem_singleton.mp hj]
      exact Before.snoc (h.mem_of_answered hbefore.left_mem)

/-- An operation that has taken effect is answered with what it brought. -/
theorem answer (h : Linearizes obj history order s) {op : Completed ident input output}
    {r : reply} (hop : op ∈ order) (hshows : obj.shows op.output r) :
    Linearizes obj (history ++ [.answered op.ident r]) order s where
  legal := h.legal
  once := h.once
  invoked := fun op' hop' => List.mem_append_left _ (h.invoked op' hop')
  shown := by
    intro i r' hi
    rcases List.mem_append.mp hi with hi | hi
    · exact h.shown i r' hi
    · cases List.mem_singleton.mp hi
      exact ⟨op, hop, rfl, hshows⟩
  realTime := by
    intro i r' j x hbefore hj
    rcases Before.snoc_iff.mp hbefore with hbefore | ⟨_, heq⟩
    · exact h.realTime i r' j x hbefore hj
    · cases heq

end Linearizes

end

end Foundation
end Pype
