import Pype.Server.Sweeps

/-!
# How soon an idle client is evicted

The reaper takes what is left of its snapshot first and comes to the client in the next
one.  How many ticks that takes is known beforehand: clients that log in meanwhile are
behind the client in the registry, and do not delay its eviction.
-/

namespace Pype
namespace Server

open Foundation Store

namespace ClientQueueReaper

def rest (reaper : ClientQueueReaper) : List String :=
  reaper.cursor.drop reaper.cursorIdx

theorem rest_refresh (reaper : ClientQueueReaper) (s : Store) :
    (reaper.refresh s).rest =
      if reaper.rest = [] then ClientRegistry.snapshotKeys s else reaper.rest := by
  unfold refresh rest
  by_cases hexhausted : reaper.cursor.length ≤ reaper.cursorIdx
  · rw [if_pos hexhausted, if_pos (List.drop_eq_nil_of_le hexhausted)]
    rfl
  · rw [if_neg hexhausted, if_neg]
    intro hnil
    exact hexhausted (List.drop_eq_nil_iff.mp hnil)

theorem batch_eq_take (cfg : Settings) (reaper : ClientQueueReaper) (s : Store) :
    reaper.batch cfg s = (reaper.refresh s).rest.take (effectiveBatchSize cfg s) := by
  unfold batch rest
  dsimp only
  rw [List.drop_take, List.take_eq_take_iff, List.length_drop]
  omega

theorem rest_tick (cfg : Settings) (now : Time) (reaper : ClientQueueReaper)
    (s : Store) :
    (reaper.tick cfg now s).1.rest =
      (reaper.refresh s).rest.drop (effectiveBatchSize cfg s) := by
  rw [tick_eq]
  unfold rest
  dsimp only
  rw [List.drop_drop]
  by_cases hle : (reaper.refresh s).cursorIdx + effectiveBatchSize cfg s ≤
      (reaper.refresh s).cursor.length
  · rw [min_eq_left hle]
  · have hge := Nat.le_of_not_le hle
    rw [min_eq_right hge, List.drop_length, List.drop_eq_nil_of_le hge]

theorem batchSize_le (cfg : Settings) (s : Store) :
    cfg.clientReaperBatchSize ≤ effectiveBatchSize cfg s :=
  le_max_left _ _

end ClientQueueReaper

namespace ClientRegistry

def place (clientId : String) (s : Store) : Nat :=
  (snapshotKeys s).idxOf clientId

theorem mem_snapshotKeys_of_get {clientId : String} {s : Store} {entry : ClientEntry}
    (h : get clientId s = some entry) : clientId ∈ snapshotKeys s := by
  unfold get at h
  split at h
  · rename_i hregistered
    exact Dict.mem_keys_of_get? hregistered
  · cases h

theorem place_remove_le {clientId other : String} (hne : other ≠ clientId)
    (remover : Remover) (s : Store) :
    place clientId (remove remover other s) ≤ place clientId s := by
  unfold remove
  split
  · exact Dict.idxOf_keys_erase_le hne
  · exact Nat.le_refl _

theorem place_getOrCreate {clientId : String} {s : Store}
    (h : clientId ∈ snapshotKeys s) (cfg : Settings) (other : String)
    (createdAt : Time) :
    place clientId (getOrCreate cfg other createdAt s).2 = place clientId s := by
  unfold getOrCreate
  split
  · rfl
  · exact Dict.idxOf_keys_set h other s.clientEntries.length

theorem place_bumpLastSeen (clientId other : String) (now : Time) (s : Store) :
    place clientId (bumpLastSeen other now s) = place clientId s := by
  unfold bumpLastSeen
  split <;> rfl

end ClientRegistry

section

variable {cfg : Settings} {jwt : Jwt} {task : TaskId} {request : HttpRequest}

theorem Effect.place_le {s s' : Store} (h : Effect cfg jwt task request s s')
    {clientId : String} {entry : ClientEntry}
    (hregistered : ClientRegistry.get clientId s = some entry)
    (hother : ¬ MayChange jwt request clientId) :
    ClientRegistry.place clientId s' ≤ ClientRegistry.place clientId s := by
  rcases h.onClient with
    hsame | ⟨other, createdAt, _, rfl⟩ | ⟨other, now, _, rfl⟩ |
    ⟨other, hwho, rfl⟩ | ⟨params, entry', _, _, hput⟩ |
    ⟨other, entry', item, _, _, htake⟩
  · unfold ClientRegistry.place ClientRegistry.snapshotKeys
    rw [hsame.registry]
  · rw [ClientRegistry.place_getOrCreate
      (ClientRegistry.mem_snapshotKeys_of_get hregistered)]
  · rw [ClientRegistry.place_bumpLastSeen]
  · apply ClientRegistry.place_remove_le
    intro heq
    subst heq
    exact hother (Or.inl hwho)
  · rcases putResponse_eq_some hput with ⟨e, q', _, _, rfl⟩
    exact Nat.le_refl _
  · rcases takeResponse_eq_some htake with ⟨e, posted, q', _, _, _, rfl⟩
    exact Nat.le_refl _

theorem effects_place_le {s s' : Store} (hwell : s.WellFormed cfg)
    (h : Effects cfg jwt task request s s') {clientId : String} {entry : ClientEntry}
    (hregistered : ClientRegistry.get clientId s = some entry)
    (hother : ¬ MayChange jwt request clientId) :
    ClientRegistry.place clientId s' ≤ ClientRegistry.place clientId s := by
  induction h with
  | refl => exact Nat.le_refl _
  | tail hbefore heffect ih =>
      have hget := effects_get_eq hwell hbefore hother
      exact le_trans (heffect.place_le (hget.trans hregistered) hother) ih

theorem place_examineAll_le {now : Time} {keys : List String} {clientId : String}
    (hmem : clientId ∉ keys) (state : Store × Nat) :
    ClientRegistry.place clientId
        (ClientQueueReaper.examineAll cfg now keys state).1 ≤
      ClientRegistry.place clientId state.1 := by
  refine ClientQueueReaper.examineAll_invariant
    (fun t => ClientRegistry.place clientId t ≤ ClientRegistry.place clientId state.1)
    keys ?_ state (Nat.le_refl _)
  intro other hother t _ _ _ hle
  have hne : other ≠ clientId := ne_of_mem_of_not_mem hother hmem
  exact le_trans (ClientRegistry.place_remove_le hne _ t) hle

end

/-!
## The ticks that are left
-/

/-- How many ticks come before the one that evicts an idle client: those for the keys
before it in the snapshot or, if the snapshot does not hold it any more, those for the
rest of the snapshot and for the keys before it in the registry. -/
def ticksBefore (cfg : Settings) (clientId : String) (reaper : ClientQueueReaper)
    (s : Store) : Nat :=
  if clientId ∈ reaper.rest then
    reaper.rest.idxOf clientId / cfg.clientReaperBatchSize
  else
    (reaper.rest.length + cfg.clientReaperBatchSize - 1) / cfg.clientReaperBatchSize +
      ClientRegistry.place clientId s / cfg.clientReaperBatchSize

theorem ticksBefore_mono (cfg : Settings) {clientId : String}
    (reaper : ClientQueueReaper) {s s' : Store}
    (h : ClientRegistry.place clientId s' ≤ ClientRegistry.place clientId s) :
    ticksBefore cfg clientId reaper s' ≤ ticksBefore cfg clientId reaper s := by
  unfold ticksBefore
  split
  · exact Nat.le_refl _
  · exact Nat.add_le_add_left (Nat.div_le_div_right h) _

theorem sub_div_succ_le {n size batchSize : Nat} (hpos : 0 < batchSize)
    (hsize : batchSize ≤ size) (h : size ≤ n) :
    (n - size) / batchSize + 1 ≤ n / batchSize := by
  rw [← Nat.add_div_right _ hpos]
  apply Nat.div_le_div_right
  omega

theorem sub_ceil_succ_le {n size batchSize : Nat} (hpos : 0 < batchSize)
    (hsize : batchSize ≤ size) (h : 0 < n) :
    (n - size + batchSize - 1) / batchSize + 1 ≤ (n + batchSize - 1) / batchSize := by
  rw [← Nat.add_div_right _ hpos]
  by_cases hle : size ≤ n
  · apply Nat.div_le_div_right
    omega
  · have hzero : n - size = 0 := Nat.sub_eq_zero_of_le (Nat.le_of_not_le hle)
    rw [hzero, Nat.add_div_right _ hpos, Nat.div_eq_of_lt (by omega)]
    exact Nat.div_pos (by omega) hpos

theorem idxOf_drop {xs : List String} {clientId : String} (h : clientId ∈ xs)
    {size : Nat} (hnot : clientId ∉ xs.take size) :
    size ≤ xs.idxOf clientId ∧ clientId ∈ xs.drop size ∧
      (xs.drop size).idxOf clientId = xs.idxOf clientId - size := by
  have hsplit := List.take_append_drop size xs
  have hle : size ≤ xs.idxOf clientId := by
    apply Nat.le_of_not_lt
    exact fun hlt => hnot ((List.mem_take_iff_idxOf_lt h).mpr hlt)
  have hlen : (xs.take size).length = size := by
    apply List.length_take_of_le
    exact le_trans hle (Nat.le_of_lt (List.idxOf_lt_length_iff.mpr h))
  have hin : clientId ∈ xs.drop size := by
    rw [← hsplit] at h
    exact (List.mem_append.mp h).resolve_left hnot
  refine ⟨hle, hin, ?_⟩
  have hidx : (xs.take size ++ xs.drop size).idxOf clientId =
      (xs.take size).length + (xs.drop size).idxOf clientId :=
    List.idxOf_append_of_notMem hnot
  rw [hsplit, hlen] at hidx
  omega

theorem tick_nears (cfg : Settings) (reaper : ClientQueueReaper) {now : Time}
    {clientId : String} {s : Store}
    (hidle : ClientRegistry.idle cfg now s clientId = true) :
    ClientRegistry.get clientId (reaper.tick cfg now s).2.1 = none ∨
      (ClientRegistry.get clientId (reaper.tick cfg now s).2.1 =
          ClientRegistry.get clientId s ∧
        1 + ticksBefore cfg clientId (reaper.tick cfg now s).1
          (reaper.tick cfg now s).2.1 ≤ ticksBefore cfg clientId reaper s) := by
  have hpos := cfg.clientReaperBatchSize_pos
  have hsize := ClientQueueReaper.batchSize_le cfg s
  have hregistered : clientId ∈ ClientRegistry.snapshotKeys s := by
    unfold ClientRegistry.idle at hidle
    split at hidle
    · rename_i entry hget
      exact ClientRegistry.mem_snapshotKeys_of_get hget
    · cases hidle
  rw [ClientQueueReaper.tick_store]
  by_cases hbatch : clientId ∈ reaper.batch cfg s
  · exact Or.inl (ClientQueueReaper.get_examineAll_of_mem cfg now hbatch hidle)
  · refine Or.inr
      ⟨ClientQueueReaper.get_examineAll_of_not_mem cfg now hbatch (s, 0), ?_⟩
    have hplace : ClientRegistry.place clientId
          (ClientQueueReaper.examineAll cfg now (reaper.batch cfg s) (s, 0)).1 ≤
        ClientRegistry.place clientId s :=
      place_examineAll_le hbatch (s, 0)
    rw [ClientQueueReaper.batch_eq_take] at hbatch
    have hrefresh := reaper.rest_refresh s
    by_cases hin : clientId ∈ (reaper.refresh s).rest
    · rcases idxOf_drop hin hbatch with ⟨hle, hin', hidx⟩
      have hbefore : ticksBefore cfg clientId reaper s =
          (reaper.refresh s).rest.idxOf clientId / cfg.clientReaperBatchSize := by
        unfold ticksBefore
        by_cases hnil : reaper.rest = []
        · rw [if_pos hnil] at hrefresh
          rw [hrefresh, hnil, if_neg List.not_mem_nil, List.length_nil,
            Nat.div_eq_of_lt (by omega), Nat.zero_add]
          rfl
        · rw [if_neg hnil] at hrefresh
          rw [hrefresh] at hin ⊢
          rw [if_pos hin]
      rw [hbefore, ticksBefore, ClientQueueReaper.rest_tick, if_pos hin', hidx,
        Nat.add_comm]
      exact sub_div_succ_le hpos hsize hle
    · have hnil : reaper.rest ≠ [] := by
        intro hnil
        rw [if_pos hnil] at hrefresh
        rw [hrefresh] at hin
        exact hin hregistered
      rw [if_neg hnil] at hrefresh
      rw [hrefresh] at hin
      have hnot : clientId ∉ reaper.rest.drop (ClientQueueReaper.effectiveBatchSize cfg s) :=
        fun hmem => hin (List.mem_of_mem_drop hmem)
      rw [ticksBefore, ticksBefore, ClientQueueReaper.rest_tick, hrefresh, if_neg hnot,
        if_neg hin, List.length_drop]
      have hsweep := sub_ceil_succ_le hpos hsize (List.length_pos_of_ne_nil hnil)
      have hkeys := @Nat.div_le_div_right _ _ cfg.clientReaperBatchSize hplace
      omega

namespace App

variable {cfg : Settings} {jwt : Jwt}

def ticks (s : App) : Event -> Bool
  | .tick now => decide (s.now ≤ now)
  | _ => false

/-- The event serves neither the client nor a response to it. -/
def LeavesAlone (jwt : Jwt) (clientId : String) (s : App) (e : Event) : Prop :=
  ¬ s.RunsFor e (MayChange jwt · clientId)

theorem step_tick {s : App} {now : Time} (h : s.now ≤ now) :
    step cfg jwt s (.tick now) =
      { s with
        reaper := (s.reaper.tick cfg now s.store).1
        store := (s.reaper.tick cfg now s.store).2.1
        now := now } := by
  show s.tick cfg now = _
  unfold tick
  exact if_pos h

theorem LeavesAlone.gone {s : App} {clientId : String} {e : Event}
    (hinv : s.Invariant cfg jwt) (halone : LeavesAlone jwt clientId s e)
    (hgone : ClientRegistry.get clientId s.store = none) :
    ClientRegistry.get clientId (step cfg jwt s e).store = none := by
  by_contra hback
  have hne : ClientRegistry.get clientId (step cfg jwt s e).store ≠
      ClientRegistry.get clientId s.store := by
    rw [hgone]
    exact hback
  rcases (hinv.confined e).entry clientId hne with hruns | ⟨_, entry, _, hget, _⟩
  · exact halone hruns
  · rw [hgone] at hget
    cases hget

/-- What an event does to a client that is idle and left alone. -/
theorem LeavesAlone.step {s : App} {clientId : String} {e : Event}
    (hinv : s.Invariant cfg jwt) (halone : LeavesAlone jwt clientId s e)
    (hidle : ClientRegistry.idle cfg s.now s.store clientId = true) :
    ClientRegistry.get clientId (step cfg jwt s e).store = none ∨
      (ClientRegistry.idle cfg (step cfg jwt s e).now (step cfg jwt s e).store clientId =
          true ∧
        (if ticks s e then 1 else 0) +
            ticksBefore cfg clientId (step cfg jwt s e).reaper (step cfg jwt s e).store ≤
          ticksBefore cfg clientId s.reaper s.store) := by
  by_cases htick : ticks s e = true
  · cases e with
    | tick now =>
        have hnow : s.now ≤ now := of_decide_eq_true htick
        have hidle' := Sweeping.idle_mono hnow hidle
        rw [if_pos htick, step_tick hnow]
        rcases tick_nears cfg s.reaper hidle' with hgone | ⟨hsame, hnearer⟩
        · exact Or.inl hgone
        · refine Or.inr ⟨?_, hnearer⟩
          unfold ClientRegistry.idle
          rw [hsame]
          exact hidle'
    | connect task request => cases htick
    | run task action clock => cases htick
  · rw [if_neg htick, Nat.zero_add]
    right
    rcases step_cases cfg jwt s e with
      hsame | ⟨task, request, _, _, hstep⟩ |
      ⟨task, t, action, clock, store, phase, he, ht, hnow, hadvance, hstep⟩ |
      ⟨now, he, hnow, _⟩
    · rw [hsame]
      exact ⟨hidle, Nat.le_refl _⟩
    · rw [hstep]
      exact ⟨hidle, Nat.le_refl _⟩
    · have heffects := (hinv.good ht hadvance).left
      have hother : ¬ MayChange jwt t.request clientId :=
        fun hwho => halone ⟨task, t, action, clock, he, ht, hwho⟩
      have hmono : clock.reading 0 ≤ clock.reading 3 := clock.mono (Nat.zero_le 3)
      have hidle' := Sweeping.idle_mono (le_trans hnow hmono) hidle
      rw [hstep]
      constructor
      · unfold ClientRegistry.idle
        rw [effects_get_eq hinv.wellFormed heffects hother]
        exact hidle'
      · unfold ClientRegistry.idle at hidle
        split at hidle
        · rename_i entry hget
          exact ticksBefore_mono cfg s.reaper
            (effects_place_le hinv.wellFormed heffects hget hother)
        · cases hidle
    · rw [he] at htick
      exact absurd (decide_eq_true hnow) htick

/-- In every run, a client that is idle and is left alone from then on has lost its entry
once the reaper has ticked for the keys before it, however many other clients come and
go. -/
theorem idle_evicted (cfg : Settings) (jwt : Jwt) (es fs : List Event)
    (clientId : String)
    (hidle : ClientRegistry.idle cfg (reached cfg jwt es).now (reached cfg jwt es).store
      clientId = true)
    (halone : Along (step cfg jwt) (LeavesAlone jwt clientId) (reached cfg jwt es) fs)
    (hticks : ticksBefore cfg clientId (reached cfg jwt es).reaper
        (reached cfg jwt es).store <
      countAlong (step cfg jwt) ticks (reached cfg jwt es) fs) :
    ClientRegistry.get clientId (runFrom cfg jwt (reached cfg jwt es) fs).store = none := by
  have hbound := @countAlong_le_or App Event (step cfg jwt) (LeavesAlone jwt clientId)
    ticks (fun s => ticksBefore cfg clientId s.reaper s.store)
    (fun s => s.Invariant cfg jwt ∧
      (ClientRegistry.idle cfg s.now s.store clientId = true ∨
        ClientRegistry.get clientId s.store = none))
    (fun s => ClientRegistry.get clientId s.store = none)
    ?keeps ?lasts ?nears _ ⟨invariant_reached cfg jwt es, Or.inl hidle⟩ fs halone
  case keeps =>
    intro s e hfirst hstate
    rcases hstate with ⟨hinv, hidle | hgone⟩
    · constructor
      · exact hinv.step e
      · rcases LeavesAlone.step hinv hfirst hidle with hgone | ⟨hidle', _⟩
        · exact Or.inr hgone
        · exact Or.inl hidle'
    · exact ⟨hinv.step e, Or.inr (LeavesAlone.gone hinv hfirst hgone)⟩
  case lasts =>
    intro s e hfirst h hgone
    exact LeavesAlone.gone h.left hfirst hgone
  case nears =>
    intro s e hfirst h hthere
    rcases LeavesAlone.step h.left hfirst (h.right.resolve_right hthere) with
      hgone | ⟨_, hnearer⟩
    · exact Or.inl hgone
    · exact Or.inr hnearer
  rcases hbound with hgone | hcount
  · exact hgone
  · exact absurd (le_trans (Nat.le_add_right _ _) hcount) (Nat.not_le.mpr hticks)

def longAgo : List Event :=
  [.connect 0 ⟨some "Bearer client", .getResponse "c" (some 0)⟩,
    .run 0 (.start "") (Clock.constant 0),
    .connect 1 ⟨some "Bearer service", .getRequest "s" (some 0)⟩,
    .run 1 (.start "") (Clock.constant 100000)]

theorem idle_evicted_longAgo :
    ClientRegistry.get "c" (runFrom (Settings.default "10.0.0.1") (Jwt.ofPair "c" "s")
      (reached (Settings.default "10.0.0.1") (Jwt.ofPair "c" "s") longAgo)
      [.tick 100000]).store = none := by
  apply idle_evicted
  · decide +kernel
  · refine ⟨?_, trivial⟩
    intro hex
    rcases hex with ⟨task, t, action, clock, he, _⟩
    cases he
  · decide +kernel

end App

end Server
end Pype
