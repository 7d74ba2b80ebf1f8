import Pype.Server.Registries

/-!
# The client queue reaper

The reaper sweeps over a snapshot of the registered client ids, a batch at every
tick, and evicts the entries that were last seen longer ago than the inactivity
threshold.
-/

namespace Pype
namespace Server

open Foundation

/-- The reaper's state across ticks: the snapshot and the next key to examine. -/
structure ClientQueueReaper where
  cursor : List String
  cursorIdx : Nat

namespace ClientQueueReaper

def initial : ClientQueueReaper where
  cursor := []
  cursorIdx := 0

/-- `max(1, floor(target_sweep_seconds / period_seconds))`. -/
def ticksPerSweep (cfg : Settings) : Nat :=
  max 1 (cfg.clientReaperTargetSweepSeconds / cfg.clientReaperPeriodSeconds).floor.toNat

/-- `_effective_batch_size`. -/
def effectiveBatchSize (cfg : Settings) (s : Store) : Nat :=
  let scaleTarget :=
    ((s.clientRegistry.size : Rat) / (ticksPerSweep cfg : Rat)).ceil.toNat
  max cfg.clientReaperBatchSize scaleTarget

/-- Examine one key: evict its entry, and count it, if it was last seen too long
ago. -/
def examine (cfg : Settings) (now : Time) (clientId : String)
    (state : Store × Nat) : Store × Nat :=
  match ClientRegistry.get clientId state.1 with
  | none => state
  | some entry =>
      if cfg.clientInactivityThresholdSeconds < now - entry.lastSeen then
        (ClientRegistry.remove (.reaper now) clientId state.1, state.2 + 1)
      else state

def examineAll (cfg : Settings) (now : Time) :
    List String -> Store × Nat -> Store × Nat
  | [], state => state
  | clientId :: rest, state =>
      examineAll cfg now rest (examine cfg now clientId state)

/-- The reaper after taking a fresh snapshot, if the last one is used up. -/
def refresh (reaper : ClientQueueReaper) (s : Store) : ClientQueueReaper :=
  if reaper.cursor.length ≤ reaper.cursorIdx then
    { cursor := ClientRegistry.snapshotKeys s, cursorIdx := 0 }
  else reaper

/-- `_tick`, at one clock reading: the reaper and the store afterwards, and the
number of evicted entries. -/
def tick (cfg : Settings) (now : Time) (reaper : ClientQueueReaper) (s : Store) :
    ClientQueueReaper × Store × Nat :=
  let reaper := reaper.refresh s
  if reaper.cursor = [] then (reaper, s, 0)
  else
    let batchSize := effectiveBatchSize cfg s
    let stop := min (reaper.cursorIdx + batchSize) reaper.cursor.length
    let batch := (reaper.cursor.take stop).drop reaper.cursorIdx
    let (s, evicted) := examineAll cfg now batch (s, 0)
    ({ reaper with cursorIdx := stop }, s, evicted)

/-!
## What examining does to the store
-/

/-- Examining a key either leaves the store alone or removes the key's entry. -/
theorem examine_cases (cfg : Settings) (now : Time) (clientId : String)
    (state : Store × Nat) :
    examine cfg now clientId state = state ∨
      exists entry, ClientRegistry.get clientId state.1 = some entry ∧
        cfg.clientInactivityThresholdSeconds < now - entry.lastSeen ∧
        examine cfg now clientId state =
          (ClientRegistry.remove (.reaper now) clientId state.1, state.2 + 1) := by
  unfold examine
  split
  · exact Or.inl rfl
  · rename_i entry hget
    split
    · rename_i hstale
      exact Or.inr ⟨entry, hget, hstale, rfl⟩
    · exact Or.inl rfl

theorem examineAll_invariant {cfg : Settings} {now : Time} (inv : Store -> Prop)
    (keys : List String)
    (hevict : forall clientId, clientId ∈ keys -> forall s entry,
      ClientRegistry.get clientId s = some entry ->
      cfg.clientInactivityThresholdSeconds < now - entry.lastSeen ->
      inv s -> inv (ClientRegistry.remove (.reaper now) clientId s))
    (state : Store × Nat) (hstate : inv state.1) :
    inv (examineAll cfg now keys state).1 := by
  induction keys generalizing state with
  | nil => exact hstate
  | cons clientId rest ih =>
      apply ih
      · intro other hmem
        exact hevict other (List.mem_cons_of_mem _ hmem)
      · rcases examine_cases cfg now clientId state with
          hsame | ⟨entry, hget, hstale, hremove⟩
        · rw [hsame]
          exact hstate
        · rw [hremove]
          exact hevict clientId List.mem_cons_self state.1 entry hget hstale hstate

/-- A property kept by evicting a stale entry is kept by a tick. -/
theorem tick_invariant {cfg : Settings} {now : Time} (inv : Store -> Prop)
    (hevict : forall clientId s entry,
      ClientRegistry.get clientId s = some entry ->
      cfg.clientInactivityThresholdSeconds < now - entry.lastSeen ->
      inv s -> inv (ClientRegistry.remove (.reaper now) clientId s))
    (reaper : ClientQueueReaper) {s : Store} (hs : inv s) :
    inv (reaper.tick cfg now s).2.1 := by
  unfold tick
  dsimp only
  split
  · exact hs
  · exact examineAll_invariant inv _ (fun clientId _ => hevict clientId) (s, 0) hs

def batch (cfg : Settings) (reaper : ClientQueueReaper) (s : Store) : List String :=
  let reaper := reaper.refresh s
  let stop := min (reaper.cursorIdx + effectiveBatchSize cfg s) reaper.cursor.length
  (reaper.cursor.take stop).drop reaper.cursorIdx

theorem tick_store (cfg : Settings) (now : Time) (reaper : ClientQueueReaper)
    (s : Store) :
    (reaper.tick cfg now s).2.1 =
      (examineAll cfg now (reaper.batch cfg s) (s, 0)).1 := by
  unfold tick batch
  dsimp only
  split
  · rename_i hempty
    rw [hempty]
    simp [examineAll]
  · rfl

end ClientQueueReaper

end Server
end Pype
