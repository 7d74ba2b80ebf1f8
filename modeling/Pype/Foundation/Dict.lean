import Mathlib.Data.List.Nodup
import Mathlib.Data.List.Basic
import Mathlib.Data.List.Perm.Basic

/-!
# Insertion-ordered dictionaries

A dictionary keeps its keys distinct and in the order of their first insertion.
Assigning to a key that is present replaces the value in place; assigning to a
new key appends it.
-/

namespace Pype
namespace Foundation

/-- Key-value pairs in insertion order, with pairwise distinct keys. -/
structure Dict (key value : Type) where
  entries : List (key × value)
  nodup : (entries.map Prod.fst).Nodup

namespace Dict

variable {key value : Type}

def empty : Dict key value where
  entries := []
  nodup := List.nodup_nil

def keys (d : Dict key value) : List key :=
  d.entries.map Prod.fst

def values (d : Dict key value) : List value :=
  d.entries.map Prod.snd

def size (d : Dict key value) : Nat :=
  d.entries.length

theorem keys_nodup (d : Dict key value) : d.keys.Nodup := d.nodup

variable [DecidableEq key]

/-!
## Association lists
-/

def lookup (k : key) : List (key × value) -> Option value
  | [] => none
  | (k', v) :: rest => if k' = k then some v else lookup k rest

/-- Replace the value under a present key, or append a new pair. -/
def assign (k : key) (v : value) : List (key × value) -> List (key × value)
  | [] => [(k, v)]
  | (k', v') :: rest =>
      if k' = k then (k', v) :: rest else (k', v') :: assign k v rest

def discard (k : key) : List (key × value) -> List (key × value)
  | [] => []
  | (k', v') :: rest => if k' = k then rest else (k', v') :: discard k rest

theorem lookup_eq_none_iff {k : key} {xs : List (key × value)} :
    lookup k xs = none <-> k ∉ xs.map Prod.fst := by
  induction xs with
  | nil => simp [lookup]
  | cons x rest ih =>
      rcases x with ⟨k', v'⟩
      by_cases hk : k' = k
      · simp [lookup, hk]
      · simp [lookup, hk, ih, Ne.symm hk]

theorem mem_of_lookup_eq_some {k : key} {v : value} {xs : List (key × value)}
    (h : lookup k xs = some v) : (k, v) ∈ xs := by
  induction xs with
  | nil => simp [lookup] at h
  | cons x rest ih =>
      rcases x with ⟨k', v'⟩
      by_cases hk : k' = k
      · simp only [lookup, hk, if_true, Option.some.injEq] at h
        simp [hk, h]
      · simp only [lookup, hk, if_false] at h
        exact List.mem_cons_of_mem _ (ih h)

theorem lookup_of_mem {k : key} {v : value} {xs : List (key × value)}
    (hnodup : (xs.map Prod.fst).Nodup) (h : (k, v) ∈ xs) :
    lookup k xs = some v := by
  induction xs with
  | nil => cases h
  | cons x rest ih =>
      rcases x with ⟨k', v'⟩
      simp only [List.map_cons, List.nodup_cons] at hnodup
      rcases List.mem_cons.mp h with heq | hrest
      · cases heq
        simp [lookup]
      · have hk : k' ≠ k := by
          intro hk
          apply hnodup.left
          rw [hk]
          exact List.mem_map.mpr ⟨_, hrest, rfl⟩
        simp [lookup, hk, ih hnodup.right hrest]

theorem lookup_assign (k k' : key) (v : value) (xs : List (key × value)) :
    lookup k' (assign k v xs) = if k = k' then some v else lookup k' xs := by
  induction xs with
  | nil => simp [assign, lookup]
  | cons x rest ih =>
      rcases x with ⟨k₀, v₀⟩
      by_cases hk : k₀ = k
      · subst hk
        by_cases hk' : k₀ = k' <;> simp [assign, lookup, hk']
      · by_cases hk' : k₀ = k'
        · subst hk'
          simp [assign, lookup, hk, Ne.symm hk]
        · simp [assign, lookup, hk, hk', ih]

theorem map_fst_assign (k : key) (v : value) (xs : List (key × value)) :
    (assign k v xs).map Prod.fst =
      if k ∈ xs.map Prod.fst then xs.map Prod.fst
      else xs.map Prod.fst ++ [k] := by
  induction xs with
  | nil => simp [assign]
  | cons x rest ih =>
      rcases x with ⟨k₀, v₀⟩
      by_cases hk : k₀ = k
      · simp [assign, hk]
      · by_cases hmem : k ∈ rest.map Prod.fst
        · have hcons : k ∈ k₀ :: rest.map Prod.fst := List.mem_cons_of_mem _ hmem
          rw [if_pos hmem] at ih
          simp only [assign, hk, if_false, List.map_cons, ih, if_pos hcons]
        · have hcons : k ∉ k₀ :: rest.map Prod.fst := by
            simp only [List.mem_cons, not_or]
            exact ⟨Ne.symm hk, hmem⟩
          rw [if_neg hmem] at ih
          simp only [assign, hk, if_false, List.map_cons, ih, if_neg hcons,
            List.cons_append]

theorem map_fst_discard (k : key) (xs : List (key × value)) :
    (discard k xs).map Prod.fst = (xs.map Prod.fst).erase k := by
  induction xs with
  | nil => rfl
  | cons x rest ih =>
      rcases x with ⟨k₀, v₀⟩
      by_cases hk : k₀ = k
      · simp [discard, hk]
      · simp [discard, hk, ih]

theorem lookup_discard {k k' : key} {xs : List (key × value)}
    (hnodup : (xs.map Prod.fst).Nodup) :
    lookup k' (discard k xs) = if k = k' then none else lookup k' xs := by
  induction xs with
  | nil => simp [discard, lookup]
  | cons x rest ih =>
      rcases x with ⟨k₀, v₀⟩
      simp only [List.map_cons, List.nodup_cons] at hnodup
      by_cases hk : k₀ = k
      · subst hk
        by_cases hk' : k₀ = k'
        · subst hk'
          simpa [discard] using lookup_eq_none_iff.mpr hnodup.left
        · simp [discard, lookup, hk']
      · by_cases hk' : k₀ = k'
        · subst hk'
          simp [discard, lookup, hk, Ne.symm hk]
        · simp [discard, lookup, hk, hk', ih hnodup.right]

/-!
## Dictionary operations
-/

def get? (d : Dict key value) (k : key) : Option value :=
  lookup k d.entries

def set (d : Dict key value) (k : key) (v : value) : Dict key value where
  entries := assign k v d.entries
  nodup := by
    rw [map_fst_assign]
    split
    · exact d.nodup
    · rename_i hmem
      exact List.nodup_append.mpr
        ⟨d.nodup, List.nodup_singleton k, by
          intro a ha b hb hab
          rw [List.mem_singleton.mp hb] at hab
          exact hmem (hab ▸ ha)⟩

/-- Removal of a key, without effect on an absent one. -/
def erase (d : Dict key value) (k : key) : Dict key value where
  entries := discard k d.entries
  nodup := by
    rw [map_fst_discard]
    exact d.nodup.erase k

@[simp] theorem get?_empty (k : key) :
    (empty : Dict key value).get? k = none := rfl

theorem get?_set (d : Dict key value) (k k' : key) (v : value) :
    (d.set k v).get? k' = if k = k' then some v else d.get? k' :=
  lookup_assign k k' v d.entries

@[simp] theorem get?_set_self (d : Dict key value) (k : key) (v : value) :
    (d.set k v).get? k = some v := by
  simp [get?_set]

theorem get?_set_of_ne (d : Dict key value) {k k' : key} (v : value)
    (h : k ≠ k') : (d.set k v).get? k' = d.get? k' := by
  simp [get?_set, h]

theorem get?_erase (d : Dict key value) (k k' : key) :
    (d.erase k).get? k' = if k = k' then none else d.get? k' :=
  lookup_discard d.nodup

@[simp] theorem get?_erase_self (d : Dict key value) (k : key) :
    (d.erase k).get? k = none := by
  simp [get?_erase]

theorem get?_erase_of_ne (d : Dict key value) {k k' : key} (h : k ≠ k') :
    (d.erase k).get? k' = d.get? k' := by
  simp [get?_erase, h]

theorem get?_eq_none_iff {d : Dict key value} {k : key} :
    d.get? k = none <-> k ∉ d.keys :=
  lookup_eq_none_iff

theorem mem_keys_of_get? {d : Dict key value} {k : key} {v : value}
    (h : d.get? k = some v) : k ∈ d.keys := by
  by_contra hmem
  rw [get?_eq_none_iff.mpr hmem] at h
  cases h

theorem exists_get?_of_mem_keys {d : Dict key value} {k : key}
    (h : k ∈ d.keys) : exists v, d.get? k = some v := by
  cases hget : d.get? k with
  | none => exact absurd h (get?_eq_none_iff.mp hget)
  | some v => exact ⟨v, rfl⟩

theorem mem_entries_iff {d : Dict key value} {k : key} {v : value} :
    (k, v) ∈ d.entries <-> d.get? k = some v := by
  constructor
  · exact lookup_of_mem d.nodup
  · exact mem_of_lookup_eq_some

theorem mem_values_of_get? {d : Dict key value} {k : key} {v : value}
    (h : d.get? k = some v) : v ∈ d.values :=
  List.mem_map.mpr ⟨(k, v), mem_entries_iff.mpr h, rfl⟩

theorem exists_get?_of_mem_values {d : Dict key value} {v : value}
    (h : v ∈ d.values) : exists k, d.get? k = some v := by
  rcases List.mem_map.mp h with ⟨⟨k, v'⟩, hmem, rfl⟩
  exact ⟨k, mem_entries_iff.mp hmem⟩

theorem keys_set (d : Dict key value) (k : key) (v : value) :
    (d.set k v).keys = if k ∈ d.keys then d.keys else d.keys ++ [k] :=
  map_fst_assign k v d.entries

theorem entries_set_of_get?_eq_none {d : Dict key value} {k : key} (v : value)
    (h : d.get? k = none) : (d.set k v).entries = d.entries ++ [(k, v)] := by
  have hassign : forall xs : List (key × value), lookup k xs = none ->
      assign k v xs = xs ++ [(k, v)] := by
    intro xs hxs
    induction xs with
    | nil => rfl
    | cons x rest ih =>
        rcases x with ⟨k', v'⟩
        by_cases hk : k' = k
        · simp [lookup, hk] at hxs
        · simp only [lookup, hk, if_false] at hxs
          simp [assign, hk, ih hxs]
  exact hassign d.entries h

theorem keys_set_of_get?_eq_none {d : Dict key value} {k : key} (v : value)
    (h : d.get? k = none) : (d.set k v).keys = d.keys ++ [k] := by
  rw [keys_set, if_neg (get?_eq_none_iff.mp h)]

theorem idxOf_keys_set {d : Dict key value} {k : key} (h : k ∈ d.keys) (k' : key)
    (v : value) : (d.set k' v).keys.idxOf k = d.keys.idxOf k := by
  rw [keys_set]
  split
  · rfl
  · exact List.idxOf_append_of_mem h

theorem idxOf_keys_erase_le {d : Dict key value} {k k' : key} (h : k' ≠ k) :
    (d.erase k').keys.idxOf k ≤ d.keys.idxOf k := by
  have herase : forall xs : List key, (xs.erase k').idxOf k ≤ xs.idxOf k := by
    intro xs
    induction xs with
    | nil => exact Nat.le_refl _
    | cons x rest ih =>
        by_cases hx : x = k'
        · subst hx
          rw [List.erase_cons_head, List.idxOf_cons_ne _ h]
          exact Nat.le_succ _
        · rw [List.erase_cons_tail (by simpa using hx)]
          by_cases hk : x = k
          · subst hk
            simp
          · rw [List.idxOf_cons_ne _ hk, List.idxOf_cons_ne _ hk]
            exact Nat.succ_le_succ ih
  have hkeys : (d.erase k').keys = d.keys.erase k' := map_fst_discard k' d.entries
  rw [hkeys]
  exact herase d.keys

/-- `dict.update`. -/
def update (d other : Dict key value) : Dict key value :=
  other.entries.foldl (fun d item => d.set item.1 item.2) d

theorem get?_update (d other : Dict key value) (k : key) :
    (d.update other).get? k = (other.get? k).or (d.get? k) := by
  have hfold : forall (xs : List (key × value)) (d : Dict key value),
      (xs.map Prod.fst).Nodup ->
        (xs.foldl (fun d item => d.set item.1 item.2) d).get? k =
          (lookup k xs).or (d.get? k) := by
    intro xs
    induction xs with
    | nil =>
        intro d _
        rfl
    | cons x rest ih =>
        rcases x with ⟨k', v⟩
        intro d hnodup
        rcases List.nodup_cons.mp hnodup with ⟨hnew, hrest⟩
        rw [List.foldl_cons, ih _ hrest, get?_set]
        by_cases hk : k' = k
        · subst hk
          simp [lookup, lookup_eq_none_iff.mpr hnew]
        · simp [lookup, hk]
  exact hfold other.entries d other.nodup

/-!
## Counting values
-/

theorem perm_discard {k : key} {v : value} {xs : List (key × value)}
    (h : lookup k xs = some v) : List.Perm xs ((k, v) :: discard k xs) := by
  induction xs with
  | nil => cases h
  | cons x rest ih =>
      rcases x with ⟨k', v'⟩
      by_cases hk : k' = k
      · simp only [lookup, hk, if_true, Option.some.injEq] at h
        simp [discard, hk, h]
      · simp only [lookup, hk, if_false] at h
        simp only [discard, hk, if_false]
        exact (List.Perm.cons _ (ih h)).trans (List.Perm.swap _ _ _)

theorem discard_of_lookup_eq_none {k : key} {xs : List (key × value)}
    (h : lookup k xs = none) : discard k xs = xs := by
  induction xs with
  | nil => rfl
  | cons x rest ih =>
      rcases x with ⟨k', v'⟩
      by_cases hk : k' = k
      · simp [lookup, hk] at h
      · simp only [lookup, hk, if_false] at h
        simp [discard, hk, ih h]

theorem erase_set_of_get?_eq_none {d : Dict key value} {k : key} (v : value)
    (h : d.get? k = none) : (d.set k v).erase k = d := by
  have hdiscard : forall xs : List (key × value), lookup k xs = none ->
      discard k (assign k v xs) = xs := by
    intro xs hxs
    induction xs with
    | nil => simp [assign, discard]
    | cons x rest ih =>
        rcases x with ⟨k', v'⟩
        by_cases hk : k' = k
        · simp [lookup, hk] at hxs
        · simp only [lookup, hk, if_false] at hxs
          simp [assign, discard, hk, ih hxs]
  rcases d with ⟨entries, hnodup⟩
  simp only [erase, set, mk.injEq]
  exact hdiscard entries h

theorem assign_perm (k : key) (v : value) (xs : List (key × value)) :
    List.Perm (assign k v xs) ((k, v) :: discard k xs) := by
  induction xs with
  | nil => exact List.Perm.refl _
  | cons x rest ih =>
      rcases x with ⟨k', v'⟩
      by_cases hk : k' = k
      · simp [assign, discard, hk]
      · simp only [assign, discard, hk, if_false]
        exact (List.Perm.cons _ ih).trans (List.Perm.swap _ _ _)

section

variable [DecidableEq value]

theorem count_values_set (d : Dict key value) (k : key) (v a : value) :
    (d.set k v).values.count a = (d.erase k).values.count a + [v].count a := by
  have hperm := ((assign_perm k v d.entries).map Prod.snd).count_eq a
  rw [List.map_cons, ← List.singleton_append, List.count_append] at hperm
  rw [Nat.add_comm]
  exact hperm

theorem count_values_erase {d : Dict key value} {k : key} {v : value}
    (h : d.get? k = some v) (a : value) :
    d.values.count a = (d.erase k).values.count a + [v].count a := by
  have hperm := ((perm_discard h).map Prod.snd).count_eq a
  rw [List.map_cons, ← List.singleton_append, List.count_append] at hperm
  rw [Nat.add_comm]
  exact hperm

theorem count_values_erase_of_none {d : Dict key value} {k : key}
    (h : d.get? k = none) (a : value) :
    (d.erase k).values.count a = d.values.count a := by
  have heq := discard_of_lookup_eq_none h
  unfold values erase
  dsimp only
  rw [heq]

end

end Dict

end Foundation
end Pype
