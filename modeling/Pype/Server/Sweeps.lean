import Mathlib.Algebra.Order.BigOperators.Group.List
import Mathlib.Algebra.Order.Floor.Ring
import Mathlib.Data.Rat.Floor
import Pype.Foundation.Runs
import Pype.Server.Authority

/-!
# Whole sweeps of the reaper

A sweep lasts from the tick that takes a snapshot to the tick that uses it up.
Between its ticks handlers create, bump and remove entries as they like.  A
ghost beside the reaper remembers what the sweep has seen and done; neither the
reaper nor the handlers read it.
-/

namespace Pype
namespace Server

open Foundation Store

/-!
## Sweeps
-/

def Store.reaperRemovals (s : Store) : Nat :=
  s.history.countP fun
    | .clientEntryRemoved (.reaper _) _ _ => true
    | _ => false

/-- A client with a registered entry that was last seen too long ago. -/
def ClientRegistry.idle (cfg : Settings) (now : Time) (s : Store)
    (clientId : String) : Bool :=
  match ClientRegistry.get clientId s with
  | some entry =>
      decide (cfg.clientInactivityThresholdSeconds < now - entry.lastSeen)
  | none => false

/-- What a sweep has seen and done so far: its snapshot, the clients that were
idle when it was taken, those whose entries a handler has changed since, the keys
examined in order, the size of the registry before each tick, the sum of the
ticks' results, and the removals before the sweep. -/
structure Sweep where
  snapshot : List String
  overdue : List String
  touched : List String
  examined : List String
  sizes : List Nat
  evicted : Nat
  removalsBefore : Nat

namespace Sweep

def start (cfg : Settings) (now : Time) (s : Store) : Sweep where
  snapshot := ClientRegistry.snapshotKeys s
  overdue := (ClientRegistry.snapshotKeys s).filter (ClientRegistry.idle cfg now s)
  touched := []
  examined := []
  sizes := []
  evicted := 0
  removalsBefore := s.reaperRemovals

def ticks (sweep : Sweep) : Nat := sweep.sizes.length

def touch (clientIds : List String) (sweep : Sweep) : Sweep :=
  { sweep with touched := sweep.touched ++ clientIds }

def tick (batch : List String) (size evicted : Nat) (sweep : Sweep) : Sweep :=
  { sweep with
    examined := sweep.examined ++ batch
    sizes := sweep.sizes ++ [size]
    evicted := sweep.evicted + evicted }

end Sweep

/-- The store and the reaper, the time of the latest tick, and the sweep that is
under way. -/
structure Sweeping where
  store : Store
  reaper : ClientQueueReaper
  now : Time
  sweep : Sweep

/-- What a handler does to the client registry, or a tick of the reaper. -/
inductive RegistryEvent where
  | getOrCreate (clientId : String) (createdAt : Time)
  | bumpLastSeen (clientId : String) (seenAt : Time)
  | remove (task : TaskId) (clientId : String)
  | tick (now : Time)

namespace Sweeping

def initial : Sweeping where
  store := Store.initial
  reaper := ClientQueueReaper.initial
  now := 0
  sweep :=
    { snapshot := []
      overdue := []
      touched := []
      examined := []
      sizes := []
      evicted := 0
      removalsBefore := 0 }

def registered (clientId : String) (s : Store) : List String :=
  if (s.clientRegistry.get? clientId).isSome then [clientId] else []

def missing (clientId : String) (s : Store) : List String :=
  if (s.clientRegistry.get? clientId).isSome then [] else [clientId]

/-- The next tick takes a fresh snapshot. -/
def Exhausted (s : Sweeping) : Prop :=
  s.reaper.cursor.length ≤ s.reaper.cursorIdx

instance (s : Sweeping) : Decidable s.Exhausted :=
  inferInstanceAs (Decidable (_ ≤ _))

def nextSweep (cfg : Settings) (now : Time) (s : Sweeping) : Sweep :=
  if s.Exhausted then Sweep.start cfg now s.store else s.sweep

/-- One event; the clock does not run backwards from one tick to the next. -/
def step (cfg : Settings) (s : Sweeping) : RegistryEvent -> Sweeping
  | .getOrCreate clientId createdAt =>
      { s with
        store := (ClientRegistry.getOrCreate cfg clientId createdAt s.store).2
        sweep := s.sweep.touch (missing clientId s.store) }
  | .bumpLastSeen clientId seenAt =>
      { s with
        store := ClientRegistry.bumpLastSeen clientId seenAt s.store
        sweep := s.sweep.touch (registered clientId s.store) }
  | .remove task clientId =>
      { s with
        store := ClientRegistry.remove (.logoff task) clientId s.store
        sweep := s.sweep.touch (registered clientId s.store) }
  | .tick now =>
      if s.now ≤ now then
        let (reaper, store, evicted) := s.reaper.tick cfg now s.store
        { store := store
          reaper := reaper
          now := now
          sweep := (s.nextSweep cfg now).tick (s.reaper.batch cfg s.store)
            s.store.clientRegistry.size evicted }
      else s

abbrev reached (cfg : Settings) (es : List RegistryEvent) : Sweeping :=
  run (step cfg) initial es

end Sweeping

/-!
## Batch sizes
-/

/-- The batch size for a registry of a given size:
`max(min_batch_size, ceil(size / ticks_per_sweep))`. -/
def batchSizeFor (cfg : Settings) (size : Nat) : Nat :=
  max cfg.clientReaperBatchSize
    ((size + ClientQueueReaper.ticksPerSweep cfg - 1) /
      ClientQueueReaper.ticksPerSweep cfg)

namespace ClientQueueReaper

theorem ticksPerSweep_pos (cfg : Settings) : 0 < ticksPerSweep cfg :=
  lt_of_lt_of_le Nat.one_pos (le_max_left _ _)

theorem ceil_div_toNat (n : Nat) {d : Nat} (hd : 0 < d) :
    ((n : Rat) / (d : Rat)).ceil.toNat = (n + d - 1) / d := by
  apply eq_of_forall_ge_iff
  intro k
  have hpos : (0 : Rat) < (d : Rat) := by exact_mod_cast hd
  rw [Int.toNat_le, Rat.ceil_le_iff, div_le_iff₀ hpos]
  have hcast : (n : Rat) ≤ (((k : Int) : Rat)) * (d : Rat) <-> n ≤ k * d := by
    push_cast
    exact_mod_cast Iff.rfl
  rw [hcast, Nat.div_le_iff_le_mul_add_pred hd, Nat.mul_comm]
  omega

theorem effectiveBatchSize_eq (cfg : Settings) (s : Store) :
    effectiveBatchSize cfg s = batchSizeFor cfg s.clientRegistry.size := by
  unfold effectiveBatchSize batchSizeFor
  rw [ceil_div_toNat _ (ticksPerSweep_pos cfg)]

theorem take_append_batch (xs : List String) (i n : Nat) :
    xs.take i ++ (xs.take (min (i + n) xs.length)).drop i =
      xs.take (min (i + n) xs.length) := by
  by_cases hi : i ≤ xs.length
  · have htake : xs.take i = (xs.take (min (i + n) xs.length)).take i := by
      rw [List.take_take, min_eq_left (le_min (Nat.le_add_right i n) hi)]
    rw [htake, List.take_append_drop]
  · have hlength : xs.length ≤ i := Nat.le_of_lt (Nat.lt_of_not_le hi)
    have hstop : min (i + n) xs.length = xs.length :=
      min_eq_right (Nat.le_trans hlength (Nat.le_add_right i n))
    rw [hstop, List.take_length, List.take_of_length_le hlength,
      List.drop_of_length_le hlength, List.append_nil]

/-!
## What examining a batch does
-/

theorem get_examine_of_ne (cfg : Settings) (now : Time) {clientId other : String}
    (hne : other ≠ clientId) (state : Store × Nat) :
    ClientRegistry.get clientId (examine cfg now other state).1 =
      ClientRegistry.get clientId state.1 := by
  rcases examine_cases cfg now other state with hsame | ⟨entry, _, _, hremove⟩
  · rw [hsame]
  · rw [hremove]
    exact ClientRegistry.get_remove_of_ne hne _

theorem get_examine_self (cfg : Settings) (now : Time) {clientId : String}
    {state : Store × Nat} (h : ClientRegistry.idle cfg now state.1 clientId = true) :
    ClientRegistry.get clientId (examine cfg now clientId state).1 = none := by
  unfold ClientRegistry.idle at h
  unfold examine
  split at h
  · rename_i entry hget
    rw [hget]
    dsimp only
    rw [if_pos (of_decide_eq_true h)]
    exact ClientRegistry.get_remove_self _ _ _
  · cases h

theorem get_examineAll_of_none (cfg : Settings) (now : Time) {clientId : String}
    (keys : List String) {state : Store × Nat}
    (h : ClientRegistry.get clientId state.1 = none) :
    ClientRegistry.get clientId (examineAll cfg now keys state).1 = none := by
  refine examineAll_invariant (fun t => ClientRegistry.get clientId t = none) keys ?_
    state h
  intro other _ t entry hget _ hnone
  have hne : other ≠ clientId := by
    rintro rfl
    rw [hnone] at hget
    cases hget
  exact (ClientRegistry.get_remove_of_ne hne _).trans hnone

theorem get_examineAll_of_not_mem (cfg : Settings) (now : Time) {clientId : String}
    {keys : List String} (hmem : clientId ∉ keys) (state : Store × Nat) :
    ClientRegistry.get clientId (examineAll cfg now keys state).1 =
      ClientRegistry.get clientId state.1 := by
  refine examineAll_invariant (fun t =>
    ClientRegistry.get clientId t = ClientRegistry.get clientId state.1) keys ?_ state rfl
  intro other hother t _ _ _ hsame
  have hne : other ≠ clientId := ne_of_mem_of_not_mem hother hmem
  exact (ClientRegistry.get_remove_of_ne hne _).trans hsame

theorem get_examineAll_of_mem (cfg : Settings) (now : Time) {clientId : String}
    {keys : List String} (hmem : clientId ∈ keys) {state : Store × Nat}
    (h : ClientRegistry.idle cfg now state.1 clientId = true) :
    ClientRegistry.get clientId (examineAll cfg now keys state).1 = none := by
  induction keys generalizing state with
  | nil => cases hmem
  | cons key rest ih =>
      by_cases heq : key = clientId
      · subst heq
        exact get_examineAll_of_none cfg now rest (get_examine_self cfg now h)
      · apply ih
        · exact (List.mem_cons.mp hmem).resolve_left (Ne.symm heq)
        · unfold ClientRegistry.idle
          rw [get_examine_of_ne cfg now heq]
          exact h

theorem reaperRemovals_remove {s : Store} {clientId : String} {entry : ClientEntry}
    (hget : ClientRegistry.get clientId s = some entry) (now : Time) :
    (ClientRegistry.remove (.reaper now) clientId s).reaperRemovals =
      s.reaperRemovals + 1 := by
  unfold ClientRegistry.get at hget
  unfold ClientRegistry.remove reaperRemovals
  split at hget
  · rename_i registered hregistered
    simp
  · cases hget

theorem reaperRemovals_getOrCreate (cfg : Settings) (clientId : String)
    (createdAt : Time) (s : Store) :
    (ClientRegistry.getOrCreate cfg clientId createdAt s).2.reaperRemovals =
      s.reaperRemovals := by
  rcases ClientRegistry.getOrCreate_cases cfg clientId createdAt s with
    ⟨entry, _, heq⟩ | ⟨_, heq⟩
  · rw [heq]
  · rw [heq]
    simp [reaperRemovals, ClientRegistry.create]

theorem reaperRemovals_logoff (task : TaskId) (clientId : String) (s : Store) :
    (ClientRegistry.remove (.logoff task) clientId s).reaperRemovals =
      s.reaperRemovals := by
  unfold ClientRegistry.remove reaperRemovals
  split
  · simp
  · rfl

theorem reaperRemovals_examineAll (cfg : Settings) (now : Time) (keys : List String)
    (state : Store × Nat) :
    (examineAll cfg now keys state).1.reaperRemovals + state.2 =
      state.1.reaperRemovals + (examineAll cfg now keys state).2 := by
  induction keys generalizing state with
  | nil => rfl
  | cons key rest ih =>
      have hrest := ih (examine cfg now key state)
      unfold examineAll
      rcases examine_cases cfg now key state with hsame | ⟨entry, hget, _, hremove⟩
      · rw [hsame] at hrest ⊢
        exact hrest
      · rw [hremove] at hrest ⊢
        rw [reaperRemovals_remove hget] at hrest
        dsimp only at hrest
        omega

/-!
## One tick
-/

theorem cursorIdx_refresh_of_nil {reaper : ClientQueueReaper} {s : Store}
    (h : (reaper.refresh s).cursor = []) : (reaper.refresh s).cursorIdx = 0 := by
  unfold refresh at h ⊢
  split
  · rfl
  · rename_i hlt
    rw [if_neg hlt] at h
    rw [h] at hlt
    exact absurd (Nat.zero_le _) hlt

theorem tick_eq (cfg : Settings) (now : Time) (reaper : ClientQueueReaper)
    (s : Store) :
    reaper.tick cfg now s =
      ({ cursor := (reaper.refresh s).cursor
         cursorIdx := min ((reaper.refresh s).cursorIdx + effectiveBatchSize cfg s)
          (reaper.refresh s).cursor.length },
        examineAll cfg now (reaper.batch cfg s) (s, 0)) := by
  unfold tick batch
  dsimp only
  split
  · rename_i hempty
    have hzero := cursorIdx_refresh_of_nil hempty
    rcases hreaper : reaper.refresh s with ⟨cursor, cursorIdx⟩
    rw [hreaper] at hempty hzero
    dsimp only at hempty hzero ⊢
    subst hempty hzero
    simp [examineAll]
  · rfl

end ClientQueueReaper

/-!
## Handlers between ticks
-/

namespace Sweeping

theorem get?_eq_none_of_get {cfg : Settings} {s : Store} (hwell : s.WellFormed cfg)
    {clientId : String} (h : ClientRegistry.get clientId s = none) :
    s.clientRegistry.get? clientId = none := by
  unfold ClientRegistry.get at h
  split at h
  · rename_i entry hentry
    rcases ownerOf_eq_some.mp (hwell.client _ _ hentry) with ⟨e, he, _⟩
    rw [he] at h
    cases h
  · assumption

theorem get_getOrCreate_of_untouched {cfg : Settings} {s : Store}
    (hwell : s.WellFormed cfg) {clientId other : String} (createdAt : Time)
    (h : clientId ∉ missing other s) :
    ClientRegistry.get clientId
        (ClientRegistry.getOrCreate cfg other createdAt s).2 =
      ClientRegistry.get clientId s := by
  by_cases heq : other = clientId
  · subst heq
    rcases ClientRegistry.getOrCreate_cases cfg other createdAt s with
      ⟨entry, _, hsame⟩ | ⟨hnone, _⟩
    · rw [hsame]
    · exact absurd (by simp [missing, hnone]) h
  · exact ClientRegistry.get_getOrCreate_of_ne hwell heq createdAt

theorem get_bumpLastSeen_of_untouched {cfg : Settings} {s : Store}
    (hwell : s.WellFormed cfg) {clientId other : String} (seenAt : Time)
    (h : clientId ∉ registered other s) :
    ClientRegistry.get clientId (ClientRegistry.bumpLastSeen other seenAt s) =
      ClientRegistry.get clientId s := by
  by_cases heq : other = clientId
  · subst heq
    have hnone : s.clientRegistry.get? other = none := by
      simpa [registered] using h
    unfold ClientRegistry.bumpLastSeen
    rw [hnone]
  · exact ClientRegistry.get_bumpLastSeen_of_ne hwell heq seenAt

theorem get_remove_of_untouched {s : Store} {clientId other : String}
    (remover : Remover) (h : clientId ∉ registered other s) :
    ClientRegistry.get clientId (ClientRegistry.remove remover other s) =
      ClientRegistry.get clientId s := by
  by_cases heq : other = clientId
  · subst heq
    have hnone : s.clientRegistry.get? other = none := by
      simpa [registered] using h
    unfold ClientRegistry.remove
    rw [hnone]
  · exact ClientRegistry.get_remove_of_ne heq remover

/-!
## The invariant
-/

/-- Where a sweep stands: the cursor is its snapshot, examined up to the index; the
index is the sum of the batch sizes so far, and an idle client that no handler
has touched is either still to be examined or gone. -/
structure Swept (cfg : Settings) (s : Sweeping) : Prop where
  wellFormed : s.store.WellFormed cfg
  snapshot : s.sweep.snapshot = s.reaper.cursor
  nodup : s.reaper.cursor.Nodup
  examined : s.sweep.examined = s.reaper.cursor.take s.reaper.cursorIdx
  progress : s.reaper.cursorIdx =
    min (s.sweep.sizes.map (batchSizeFor cfg)).sum s.reaper.cursor.length
  overdue : forall clientId, clientId ∈ s.sweep.overdue -> clientId ∈ s.sweep.snapshot
  untouched : forall clientId, clientId ∈ s.sweep.overdue ->
    clientId ∉ s.sweep.touched ->
      ClientRegistry.get clientId s.store = none ∨
        (clientId ∉ s.sweep.examined ∧
          ClientRegistry.idle cfg s.now s.store clientId = true)
  counted : s.store.reaperRemovals = s.sweep.removalsBefore + s.sweep.evicted

theorem swept_initial (cfg : Settings) : Swept cfg initial where
  wellFormed := wellFormed_initial cfg
  snapshot := rfl
  nodup := List.nodup_nil
  examined := rfl
  progress := rfl
  overdue := by
    intro clientId h
    cases h
  untouched := by
    intro clientId h
    cases h
  counted := rfl

section

variable {cfg : Settings} {s : Sweeping}

theorem Swept.handled (h : Swept cfg s) {store : Store} {clientIds : List String}
    (hwell : store.WellFormed cfg)
    (hremovals : store.reaperRemovals = s.store.reaperRemovals)
    (hget : forall clientId, clientId ∉ clientIds ->
      ClientRegistry.get clientId store = ClientRegistry.get clientId s.store) :
    Swept cfg { s with store := store, sweep := s.sweep.touch clientIds } where
  wellFormed := hwell
  snapshot := h.snapshot
  nodup := h.nodup
  examined := h.examined
  progress := h.progress
  overdue := h.overdue
  untouched := by
    intro clientId hoverdue htouched
    have hboth : clientId ∉ s.sweep.touched ∧ clientId ∉ clientIds := by
      rw [← not_or, ← List.mem_append]
      exact htouched
    have hsame := hget clientId hboth.right
    dsimp only
    unfold ClientRegistry.idle
    rw [hsame]
    exact h.untouched clientId hoverdue hboth.left
  counted := hremovals.trans h.counted

theorem idle_mono {store : Store} {now now' : Time} (hnow : now ≤ now')
    {clientId : String} (h : ClientRegistry.idle cfg now store clientId = true) :
    ClientRegistry.idle cfg now' store clientId = true := by
  unfold ClientRegistry.idle at h ⊢
  split at h
  · rename_i entry _
    have hidle := of_decide_eq_true h
    exact decide_eq_true (lt_of_lt_of_le hidle (sub_le_sub_right hnow _))
  · cases h

theorem Swept.next (h : Swept cfg s) {now : Time} (hnow : s.now ≤ now) :
    Swept cfg
      { store := s.store
        reaper := s.reaper.refresh s.store
        now := now
        sweep := s.nextSweep cfg now } := by
  by_cases hexhausted : s.Exhausted
  · have hreaper : s.reaper.refresh s.store =
        { cursor := ClientRegistry.snapshotKeys s.store, cursorIdx := 0 } :=
      if_pos hexhausted
    have hsweep : s.nextSweep cfg now = Sweep.start cfg now s.store :=
      if_pos hexhausted
    rw [hreaper, hsweep]
    refine ⟨h.wellFormed, rfl, Dict.keys_nodup _, rfl, rfl, ?_, ?_, rfl⟩
    · intro clientId hmem
      exact (List.mem_filter.mp hmem).left
    · intro clientId hmem _
      exact Or.inr ⟨List.not_mem_nil, (List.mem_filter.mp hmem).right⟩
  · have hreaper : s.reaper.refresh s.store = s.reaper := if_neg hexhausted
    have hsweep : s.nextSweep cfg now = s.sweep := if_neg hexhausted
    rw [hreaper, hsweep]
    refine ⟨h.wellFormed, h.snapshot, h.nodup, h.examined, h.progress, h.overdue,
      ?_, h.counted⟩
    intro clientId hoverdue htouched
    rcases h.untouched clientId hoverdue htouched with hnone | ⟨hexamined, hidle⟩
    · exact Or.inl hnone
    · exact Or.inr ⟨hexamined, idle_mono hnow hidle⟩

theorem Swept.examine (h : Swept cfg s) {stop : Nat} {batch : List String}
    {result : Store × Nat}
    (hstop : stop = min (s.reaper.cursorIdx +
      batchSizeFor cfg s.store.clientRegistry.size) s.reaper.cursor.length)
    (hbatch : batch = (s.reaper.cursor.take stop).drop s.reaper.cursorIdx)
    (hresult : result =
      ClientQueueReaper.examineAll cfg s.now batch (s.store, 0))
    (hwell : result.1.WellFormed cfg) :
    Swept cfg
      { store := result.1
        reaper := { cursor := s.reaper.cursor, cursorIdx := stop }
        now := s.now
        sweep := s.sweep.tick batch s.store.clientRegistry.size result.2 } where
  wellFormed := hwell
  snapshot := h.snapshot
  nodup := h.nodup
  examined := by
    show s.sweep.examined ++ batch = s.reaper.cursor.take stop
    rw [h.examined, hbatch, hstop]
    exact ClientQueueReaper.take_append_batch _ _ _
  progress := by
    show stop = min ((s.sweep.sizes ++ [s.store.clientRegistry.size]).map
      (batchSizeFor cfg)).sum s.reaper.cursor.length
    rw [hstop, h.progress, List.map_append, List.sum_append, List.map_singleton,
      List.sum_singleton]
    omega
  overdue := h.overdue
  untouched := by
    intro clientId hoverdue htouched
    show ClientRegistry.get clientId result.1 = none ∨
      (clientId ∉ s.sweep.examined ++ batch ∧
        ClientRegistry.idle cfg s.now result.1 clientId = true)
    rw [hresult]
    rcases h.untouched clientId hoverdue htouched with hnone | ⟨hexamined, hidle⟩
    · exact Or.inl (ClientQueueReaper.get_examineAll_of_none cfg s.now batch hnone)
    · by_cases hmem : clientId ∈ batch
      · exact Or.inl (ClientQueueReaper.get_examineAll_of_mem cfg s.now hmem hidle)
      · have hsame := ClientQueueReaper.get_examineAll_of_not_mem cfg s.now hmem
          (s.store, 0)
        refine Or.inr ⟨?_, ?_⟩
        · rw [List.mem_append, not_or]
          exact ⟨hexamined, hmem⟩
        · unfold ClientRegistry.idle
          rw [hsame]
          exact hidle
  counted := by
    have hcount := ClientQueueReaper.reaperRemovals_examineAll cfg s.now batch
      (s.store, 0)
    rw [← hresult] at hcount
    have hbefore := h.counted
    show result.1.reaperRemovals =
      s.sweep.removalsBefore + (s.sweep.evicted + result.2)
    dsimp only at hcount
    omega

theorem Swept.step (h : Swept cfg s) (e : RegistryEvent) :
    Swept cfg (step cfg s e) := by
  cases e with
  | getOrCreate clientId createdAt =>
      apply h.handled (h.wellFormed.openClient clientId createdAt)
      · exact ClientQueueReaper.reaperRemovals_getOrCreate cfg clientId createdAt s.store
      · intro other huntouched
        exact get_getOrCreate_of_untouched h.wellFormed createdAt huntouched
  | bumpLastSeen clientId seenAt =>
      apply h.handled (h.wellFormed.bump clientId seenAt)
      · unfold Store.reaperRemovals
        rw [ClientRegistry.history_bumpLastSeen]
      · intro other huntouched
        exact get_bumpLastSeen_of_untouched h.wellFormed seenAt huntouched
  | remove task clientId =>
      apply h.handled (h.wellFormed.remove (.logoff task) clientId)
      · exact ClientQueueReaper.reaperRemovals_logoff task clientId s.store
      · intro other huntouched
        exact get_remove_of_untouched (.logoff task) huntouched
  | tick now =>
      unfold Sweeping.step
      dsimp only
      split
      · rename_i hnow
        have hframe := (App.tick_frame h.wellFormed s.reaper now).left
        rw [ClientQueueReaper.tick_eq] at hframe ⊢
        apply (h.next hnow).examine
        · rw [ClientQueueReaper.effectiveBatchSize_eq]
        · rfl
        · rfl
        · exact hframe
      · exact h

theorem swept_reached (cfg : Settings) (es : List RegistryEvent) :
    Swept cfg (reached cfg es) :=
  run_invariant (Swept cfg) (fun _ e h => h.step e) (swept_initial cfg) es

/-!
## Every sweep is complete
-/

theorem Swept.exhausted_iff (h : Swept cfg s) :
    s.Exhausted <->
      s.sweep.snapshot.length ≤ (s.sweep.sizes.map (batchSizeFor cfg)).sum := by
  unfold Exhausted
  rw [h.progress, h.snapshot]
  omega

theorem Swept.examined_of_exhausted (h : Swept cfg s) (hexhausted : s.Exhausted) :
    s.sweep.examined = s.sweep.snapshot := by
  rw [h.examined, h.snapshot]
  exact List.take_of_length_le hexhausted

theorem mul_ticks_le_sum {cfg : Settings} {bound : Nat} {sizes : List Nat}
    (h : forall size, size ∈ sizes -> bound ≤ batchSizeFor cfg size) :
    bound * sizes.length ≤ (sizes.map (batchSizeFor cfg)).sum := by
  have hsum := List.card_nsmul_le_sum (sizes.map (batchSizeFor cfg)) bound (by
    intro batch hbatch
    rcases List.mem_map.mp hbatch with ⟨size, hsize, rfl⟩
    exact h size hsize)
  rw [Nat.mul_comm]
  simpa using hsum

end

/-- What a sweep owes to the clients and to the log. -/
structure Thorough (cfg : Settings) (s : Sweeping) : Prop where
  bounded : s.reaper.cursorIdx ≤ s.reaper.cursor.length
  /-- The keys before the index have been examined, each once and in order. -/
  inOrder : s.reaper.cursor = s.sweep.snapshot ∧ s.sweep.snapshot.Nodup ∧
    s.sweep.examined = s.sweep.snapshot.take s.reaper.cursorIdx
  /-- All keys have been examined when the next snapshot is due. -/
  whole : s.Exhausted -> s.sweep.examined = s.sweep.snapshot
  /-- A sweep of `m` keys ends after `max(1, ceil(m / min_batch_size))` ticks. -/
  ends : max 1 ((s.sweep.snapshot.length + cfg.clientReaperBatchSize - 1) /
      cfg.clientReaperBatchSize) ≤ s.sweep.ticks -> s.Exhausted
  /-- An entry that was idle when the snapshot was taken, and that no handler has
  touched since, is gone at the end of the sweep. -/
  complete : s.Exhausted -> forall clientId, clientId ∈ s.sweep.overdue ->
    clientId ∉ s.sweep.touched -> s.store.clientRegistry.get? clientId = none
  /-- The results of the ticks add up to the removals. -/
  counted : s.store.reaperRemovals = s.sweep.removalsBefore + s.sweep.evicted

/-- However handlers create, bump and remove entries between the ticks, the reaper
misses no abandoned client. -/
theorem sweeps_thorough (cfg : Settings) (es : List RegistryEvent) :
    Thorough cfg (reached cfg es) := by
  have h := swept_reached cfg es
  constructor
  · rw [h.progress]
    exact Nat.min_le_right _ _
  · refine ⟨h.snapshot.symm, ?_, ?_⟩
    · rw [h.snapshot]
      exact h.nodup
    · rw [h.snapshot]
      exact h.examined
  · exact h.examined_of_exhausted
  · intro hticks
    rw [h.exhausted_iff]
    have hceil := le_trans (le_max_right _ _) hticks
    rw [Nat.div_le_iff_le_mul_add_pred cfg.clientReaperBatchSize_pos] at hceil
    have hmin : forall size, size ∈ (reached cfg es).sweep.sizes ->
        cfg.clientReaperBatchSize ≤ batchSizeFor cfg size :=
      fun _ _ => le_max_left _ _
    have hsum := mul_ticks_le_sum hmin
    have hpos := cfg.clientReaperBatchSize_pos
    unfold Sweep.ticks at hceil
    omega
  · intro hexhausted clientId hoverdue htouched
    rcases h.untouched clientId hoverdue htouched with hnone | ⟨hexamined, _⟩
    · exact get?_eq_none_of_get h.wellFormed hnone
    · rw [h.examined_of_exhausted hexhausted] at hexamined
      exact absurd (h.overdue clientId hoverdue) hexamined
  · exact h.counted

/-!
## Sweeps in time
-/

def InTime (cfg : Settings) (s : Sweeping) : Prop :=
  s.sweep.ticks = ClientQueueReaper.ticksPerSweep cfg -> s.Exhausted

/-- The batches, which go by the size of the registry at each tick, add up to the
snapshot. -/
def KeepsPace (cfg : Settings) (sweep : Sweep) : Prop :=
  sweep.snapshot.length ≤ (sweep.sizes.map (batchSizeFor cfg)).sum

/-- In every run a sweep is over in time exactly if the registry has not shrunk
too much before its ticks. -/
theorem in_time_iff (cfg : Settings) (es : List RegistryEvent) :
    InTime cfg (reached cfg es) <->
      ((reached cfg es).sweep.ticks = ClientQueueReaper.ticksPerSweep cfg ->
        KeepsPace cfg (reached cfg es).sweep) := by
  unfold InTime KeepsPace
  rw [(swept_reached cfg es).exhausted_iff]

/-- A sweep whose registry never holds fewer entries than its snapshot keeps
pace. -/
theorem keepsPace_of_sizes (cfg : Settings) {sweep : Sweep}
    (hticks : sweep.ticks = ClientQueueReaper.ticksPerSweep cfg)
    (hsizes : forall size, size ∈ sweep.sizes -> sweep.snapshot.length ≤ size) :
    KeepsPace cfg sweep := by
  have hpos := ClientQueueReaper.ticksPerSweep_pos cfg
  have hbatch : forall size, size ∈ sweep.sizes ->
      (sweep.snapshot.length + ClientQueueReaper.ticksPerSweep cfg - 1) /
        ClientQueueReaper.ticksPerSweep cfg ≤ batchSizeFor cfg size := by
    intro size hsize
    refine le_trans (Nat.div_le_div_right ?_) (le_max_right _ _)
    have hle := hsizes size hsize
    omega
  have hsum := mul_ticks_le_sum hbatch
  have hceil := (Nat.div_le_iff_le_mul_add_pred hpos).mp (le_refl
    ((sweep.snapshot.length + ClientQueueReaper.ticksPerSweep cfg - 1) /
      ClientQueueReaper.ticksPerSweep cfg))
  rw [Nat.mul_comm, ← hticks] at hceil
  unfold Sweep.ticks at hceil hticks
  unfold KeepsPace
  rw [← hticks] at hsum hpos
  omega

/-- A sweep keeps pace if the minimal batches alone cover its snapshot. -/
theorem keepsPace_of_batches (cfg : Settings) {sweep : Sweep}
    (hticks : sweep.ticks = ClientQueueReaper.ticksPerSweep cfg)
    (hcovers : sweep.snapshot.length ≤
      cfg.clientReaperBatchSize * ClientQueueReaper.ticksPerSweep cfg) :
    KeepsPace cfg sweep := by
  have hbatch : forall size, size ∈ sweep.sizes ->
      cfg.clientReaperBatchSize ≤ batchSizeFor cfg size :=
    fun _ _ => le_max_left _ _
  have hsum := mul_ticks_le_sum hbatch
  rw [← hticks] at hcovers
  exact le_trans hcovers hsum

def twoTickSettings : Settings :=
  { Settings.default "10.0.0.1" with
    clientReaperPeriodSeconds := 1
    clientReaperBatchSize := 1
    clientReaperTargetSweepSeconds := 2
    clientReaperPeriodSeconds_pos := by decide +kernel
    clientReaperBatchSize_pos := by decide
    clientReaperTargetSweepSeconds_pos := by decide +kernel }

def shrinkingRegistry : List RegistryEvent :=
  [.getOrCreate "a" 0, .getOrCreate "b" 0, .getOrCreate "c" 0, .getOrCreate "d" 0,
    .tick 1000, .tick 1001]

/-- The evictions of the first tick shrink the batch of the second one. -/
theorem shrinkingRegistry_late :
    ¬ InTime twoTickSettings (reached twoTickSettings shrinkingRegistry) := by
  intro h
  have hexhausted := h (by decide +kernel)
  revert hexhausted
  decide +kernel

/-!
## The sweeps of the application

What the handlers of a run do to the client registry is a list of registry
events, so everything said here of sweeps holds of the application's reaper.
-/

/-- Two stores that register the same entries, last seen at the same times. -/
structure SameRegistry (s t : Store) : Prop where
  registry : t.clientRegistry = s.clientRegistry
  seen : t.clientEntries.map ClientEntry.lastSeen =
    s.clientEntries.map ClientEntry.lastSeen

theorem SameRegistry.refl (s : Store) : SameRegistry s s := ⟨rfl, rfl⟩

section

variable {cfg : Settings} {s t : Store}

theorem SameRegistry.get (h : SameRegistry s t) (clientId : String) :
    (ClientRegistry.get clientId t).map ClientEntry.lastSeen =
      (ClientRegistry.get clientId s).map ClientEntry.lastSeen := by
  unfold ClientRegistry.get
  rw [h.registry]
  split
  · rename_i entry _
    rw [← List.getElem?_map, ← List.getElem?_map, h.seen]
  · rfl

theorem SameRegistry.getOrCreate (h : SameRegistry s t) (clientId : String)
    (createdAt : Time) :
    SameRegistry (ClientRegistry.getOrCreate cfg clientId createdAt s).2
      (ClientRegistry.getOrCreate cfg clientId createdAt t).2 := by
  have hlength : t.clientEntries.length = s.clientEntries.length := by
    have hmap := congrArg List.length h.seen
    rwa [List.length_map, List.length_map] at hmap
  unfold ClientRegistry.getOrCreate
  rw [h.registry]
  split
  · exact h
  · constructor
    · show t.clientRegistry.set clientId _ = s.clientRegistry.set clientId _
      rw [h.registry, hlength]
    · show (t.clientEntries ++ _).map _ = (s.clientEntries ++ _).map _
      rw [List.map_append, List.map_append, h.seen]

theorem SameRegistry.bumpLastSeen (h : SameRegistry s t) (clientId : String)
    (seenAt : Time) :
    SameRegistry (ClientRegistry.bumpLastSeen clientId seenAt s)
      (ClientRegistry.bumpLastSeen clientId seenAt t) := by
  have hmodify : forall (entries : List ClientEntry) (entry : Ref),
      (entries.modify entry fun e => { e with lastSeen := seenAt }).map
          ClientEntry.lastSeen =
        (entries.map ClientEntry.lastSeen).modify entry fun _ => seenAt := by
    intro entries entry
    apply List.ext_getElem?
    intro i
    rw [List.getElem?_map, List.getElem?_modify, List.getElem?_modify,
      List.getElem?_map]
    cases entries[i]? with
    | none => rfl
    | some e => by_cases heq : entry = i <;> simp [heq]
  unfold ClientRegistry.bumpLastSeen
  rw [h.registry]
  split
  · constructor
    · rfl
    · dsimp only
      rw [hmodify, hmodify, h.seen]
  · exact h

theorem SameRegistry.remove (h : SameRegistry s t) (remover : Remover)
    (clientId : String) :
    SameRegistry (ClientRegistry.remove remover clientId s)
      (ClientRegistry.remove remover clientId t) := by
  unfold ClientRegistry.remove
  rw [h.registry]
  split
  · exact ⟨rfl, h.seen⟩
  · exact h

theorem SameRegistry.of_unchanged (h : SameRegistry s t) {s' : Store}
    (hregistry : s'.clientRegistry = s.clientRegistry)
    (hseen : s'.clientEntries.map ClientEntry.lastSeen =
      s.clientEntries.map ClientEntry.lastSeen) : SameRegistry s' t :=
  ⟨h.registry.trans hregistry.symm, h.seen.trans hseen.symm⟩

theorem seen_set_entry {entry : Ref} {e e' : ClientEntry}
    (he : s.clientEntries[entry]? = some e) (hseen : e'.lastSeen = e.lastSeen) :
    (s.clientEntries.set entry e').map ClientEntry.lastSeen =
      s.clientEntries.map ClientEntry.lastSeen := by
  rw [List.map_set, hseen]
  apply List.ext_getElem?
  intro i
  rw [List.getElem?_set]
  split
  · rename_i heq
    subst heq
    rw [if_pos (by simpa using (List.getElem?_eq_some_iff.mp he).choose),
      List.getElem?_map, he]
    rfl
  · rfl

theorem SameRegistry.examineAll (h : SameRegistry s t) (now : Time)
    (keys : List String) (count : Nat) :
    SameRegistry (ClientQueueReaper.examineAll cfg now keys (s, count)).1
      (ClientQueueReaper.examineAll cfg now keys (t, count)).1 := by
  induction keys generalizing s t count with
  | nil => exact h
  | cons key rest ih =>
      unfold ClientQueueReaper.examineAll ClientQueueReaper.examine
      have hget := h.get key
      cases hs : ClientRegistry.get key s with
      | none =>
          rw [hs, Option.map_none, Option.map_eq_none_iff] at hget
          rw [hget]
          exact ih h count
      | some e =>
          rw [hs, Option.map_some, Option.map_eq_some_iff] at hget
          rcases hget with ⟨e', ht, hseen⟩
          rw [ht]
          dsimp only
          rw [hseen]
          split
          · exact ih (h.remove (.reaper now) key) (count + 1)
          · exact ih h count

theorem SameRegistry.tick (h : SameRegistry s t) (cfg : Settings)
    (reaper : ClientQueueReaper) (now : Time) :
    (reaper.tick cfg now t).1 = (reaper.tick cfg now s).1 ∧
      SameRegistry (reaper.tick cfg now s).2.1 (reaper.tick cfg now t).2.1 := by
  have hrefresh : reaper.refresh t = reaper.refresh s := by
    unfold ClientQueueReaper.refresh ClientRegistry.snapshotKeys
    rw [h.registry]
  have hsize : ClientQueueReaper.effectiveBatchSize cfg t =
      ClientQueueReaper.effectiveBatchSize cfg s := by
    unfold ClientQueueReaper.effectiveBatchSize
    rw [h.registry]
  have hbatch : reaper.batch cfg t = reaper.batch cfg s := by
    unfold ClientQueueReaper.batch
    rw [hrefresh, hsize]
  rw [ClientQueueReaper.tick_eq, ClientQueueReaper.tick_eq, hrefresh, hsize, hbatch]
  exact ⟨rfl, h.examineAll now _ 0⟩

/-- Every effect of a request on the client registry is a registry event, or
none. -/
theorem SameRegistry.effect {jwt : Jwt} {task : TaskId} {request : HttpRequest}
    {w : Sweeping} (h : SameRegistry s w.store) {s' : Store}
    (heffect : Effect cfg jwt task request s s') :
    exists es, SameRegistry s' (run (step cfg) w es).store ∧
      (run (step cfg) w es).reaper = w.reaper ∧
      (run (step cfg) w es).now = w.now := by
  have unchanged : SameRegistry s' w.store ->
      exists es, SameRegistry s' (run (step cfg) w es).store ∧
        (run (step cfg) w es).reaper = w.reaper ∧
        (run (step cfg) w es).now = w.now :=
    fun hsame => ⟨[], hsame, rfl, rfl⟩
  cases heffect with
  | openService serviceName =>
      rcases ServiceRegistry.getOrCreate_cases cfg serviceName s with
        ⟨queue, _, heq⟩ | ⟨_, heq⟩
      · rw [heq] at unchanged ⊢
        exact unchanged h
      · rw [heq] at unchanged ⊢
        exact unchanged (h.of_unchanged rfl rfl)
  | openClient createdAt =>
      exact ⟨[.getOrCreate _ createdAt], h.getOrCreate _ createdAt, rfl, rfl⟩
  | bump seenAt => exact ⟨[.bumpLastSeen _ seenAt], h.bumpLastSeen _ seenAt, rfl, rfl⟩
  | logoff => exact ⟨[.remove task _], h.remove (.logoff task) _, rfl, rfl⟩
  | putRequest _ _ hput =>
      rcases putRequest_eq_some hput with ⟨q, q', _, _, rfl⟩
      exact unchanged (h.of_unchanged rfl rfl)
  | takeRequest _ _ htake =>
      rcases takeRequest_eq_some htake with ⟨q, posted, q', _, _, _, rfl⟩
      exact unchanged (h.of_unchanged rfl rfl)
  | putResponse _ _ hput =>
      rcases putResponse_eq_some hput with ⟨e, q', he, _, rfl⟩
      exact unchanged (h.of_unchanged rfl (seen_set_entry he (by rfl)))
  | takeResponse _ _ htake =>
      rcases takeResponse_eq_some htake with ⟨e, posted, q', he, _, _, rfl⟩
      exact unchanged (h.of_unchanged rfl (seen_set_entry he (by rfl)))
  | answer reply => exact unchanged (h.of_unchanged rfl rfl)

theorem SameRegistry.effects {jwt : Jwt} {task : TaskId} {request : HttpRequest}
    {w : Sweeping} (h : SameRegistry s w.store) {s' : Store}
    (heffects : Effects cfg jwt task request s s') :
    exists es, SameRegistry s' (run (step cfg) w es).store ∧
      (run (step cfg) w es).reaper = w.reaper ∧
      (run (step cfg) w es).now = w.now := by
  induction heffects with
  | refl => exact ⟨[], h, rfl, rfl⟩
  | tail _ heffect ih =>
      rcases ih with ⟨es, hsame, hreaper, hnow⟩
      rcases hsame.effect heffect with ⟨fs, hsame', hreaper', hnow'⟩
      refine ⟨es ++ fs, ?_⟩
      rw [run_append]
      exact ⟨hsame', hreaper'.trans hreaper, hnow'.trans hnow⟩

end

/-- The application and a sweeping registry agree on what the reaper sees. -/
structure Mirrors (s : App) (w : Sweeping) : Prop where
  store : SameRegistry s.store w.store
  reaper : w.reaper = s.reaper
  now : w.now ≤ s.now

theorem Mirrors.step {cfg : Settings} {jwt : Jwt} {s : App} {w : Sweeping}
    (h : Mirrors s w) (hinv : s.Invariant cfg jwt) (e : Event) :
    exists es, Mirrors (App.step cfg jwt s e) (run (Sweeping.step cfg) w es) := by
  rcases App.step_cases cfg jwt s e with
    hsame | ⟨task, request, _, _, hstep⟩ |
    ⟨task, t, action, clock, store, phase, _, ht, hnow, hadvance, hstep⟩ |
    ⟨now, _, hnow, hstep⟩
  · rw [hsame]
    exact ⟨[], h⟩
  · rw [hstep]
    exact ⟨[], h.store, h.reaper, h.now⟩
  · rw [hstep]
    rcases h.store.effects (hinv.good ht hadvance).left with
      ⟨es, hstore, hreaper, hnow'⟩
    refine ⟨es, hstore, hreaper.trans h.reaper, ?_⟩
    have hmono : clock.reading 0 ≤ clock.reading 3 := clock.mono (Nat.zero_le 3)
    rw [hnow']
    exact le_trans h.now (le_trans hnow hmono)
  · rw [hstep]
    have hticks : w.now ≤ now := le_trans h.now hnow
    refine ⟨[.tick now], ?_⟩
    rw [run_cons, run_nil]
    unfold Sweeping.step
    dsimp only
    rw [if_pos hticks, h.reaper]
    rcases h.store.tick cfg s.reaper now with ⟨hreaper, hstore⟩
    exact ⟨hstore, hreaper, le_refl now⟩

/-- Whatever the application does, its reaper and its client registry are those of
a run of registry events and ticks. -/
theorem exists_mirror (cfg : Settings) (jwt : Jwt) (es : List Event) :
    exists fs, Mirrors (App.reached cfg jwt es) (reached cfg fs) := by
  have hboth : (App.reached cfg jwt es).Invariant cfg jwt ∧
      exists fs, Mirrors (App.reached cfg jwt es) (reached cfg fs) := by
    refine run_invariant
      (fun s => s.Invariant cfg jwt ∧ exists fs, Mirrors s (reached cfg fs)) ?_
      ⟨App.invariant_initial cfg jwt, [], SameRegistry.refl _, rfl, le_refl _⟩ es
    rintro s e ⟨hinv, fs, hmirrors⟩
    rcases hmirrors.step hinv e with ⟨gs, hnext⟩
    refine ⟨hinv.step e, fs ++ gs, ?_⟩
    rw [reached, run_append]
    exact hnext
  exact hboth.right

end Sweeping

end Server
end Pype
