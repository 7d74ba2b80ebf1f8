import Pype.Server.App
import Pype.Server.Conduct

/-!
# Invariants of the application

What every event does, and the invariant that follows: the store is well formed
and every handler is where its description says.  Properties of the store alone
need only be checked against the effects of requests and the evictions of the
reaper.
-/

namespace Pype
namespace Server

open Foundation Store

namespace App

/-!
## What an event does
-/

/-- Everything that one event can do. -/
theorem step_cases (cfg : Settings) (jwt : Jwt) (s : App) (e : Event) :
    step cfg jwt s e = s ∨
      (exists task request, e = .connect task request ∧
        s.tasks.get? task = none ∧
        step cfg jwt s e =
          { s with tasks := s.tasks.set task ⟨request, .received⟩ }) ∨
      (exists task t action clock store phase, e = .run task action clock ∧
        s.tasks.get? task = some t ∧ s.now ≤ clock.reading 0 ∧
        advance cfg jwt task t.request t.phase action clock s.store =
          some (store, phase) ∧
        step cfg jwt s e =
          { s with
            store := store
            tasks := s.tasks.set task { t with phase := phase }
            now := clock.reading 3 }) ∨
      (exists now, e = .tick now ∧ s.now ≤ now ∧
        step cfg jwt s e =
          { s with
            reaper := (s.reaper.tick cfg now s.store).1
            store := (s.reaper.tick cfg now s.store).2.1
            now := now }) := by
  cases e with
  | connect task request =>
      simp only [step, connect]
      split
      · exact Or.inl rfl
      · rename_i hnone
        exact Or.inr (Or.inl ⟨task, request, rfl, hnone, rfl⟩)
  | run task action clock =>
      simp only [step, runTask]
      split
      · exact Or.inl rfl
      · rename_i t ht
        split
        · rename_i hnow
          split
          · exact Or.inl rfl
          · rename_i store phase hadvance
            exact Or.inr (Or.inr (Or.inl
              ⟨task, t, action, clock, store, phase, rfl, ht, hnow, hadvance, rfl⟩))
        · exact Or.inl rfl
  | tick now =>
      simp only [step, tick]
      split
      · rename_i hnow
        exact Or.inr (Or.inr (Or.inr ⟨now, rfl, hnow, rfl⟩))
      · exact Or.inl rfl

/-!
## The invariant
-/

structure Invariant (cfg : Settings) (jwt : Jwt) (s : App) : Prop where
  wellFormed : s.store.WellFormed cfg
  conduct : forall task t, s.tasks.get? task = some t ->
    PhaseOk cfg jwt task t.request s.store t.phase
  silent : forall task, s.tasks.get? task = none -> s.store.recordsOf task = []

theorem invariant_initial (cfg : Settings) (jwt : Jwt) :
    Invariant cfg jwt initial where
  wellFormed := wellFormed_initial cfg
  conduct := by
    intro task t h
    cases h
  silent := by
    intro task _
    rfl

section

variable {cfg : Settings} {jwt : Jwt}

theorem effects_frame {task : TaskId} {request : HttpRequest} {s s' : Store}
    (hwell : s.WellFormed cfg) (h : Effects cfg jwt task request s s') :
    s'.WellFormed cfg ∧ Extends s s' ∧
      forall other, other ≠ task -> s'.recordsOf other = s.recordsOf other := by
  induction h with
  | refl => exact ⟨hwell, Extends.refl s, fun _ _ => rfl⟩
  | tail _ heffect ih =>
      rcases ih with ⟨hwell', hext, hrecords⟩
      refine ⟨hwell'.effect heffect, hext.trans heffect.extends, ?_⟩
      intro other hne
      rw [heffect.recordsOf_of_ne hne, hrecords other hne]

theorem tick_frame {s : Store} (hwell : s.WellFormed cfg)
    (reaper : ClientQueueReaper) (now : Time) :
    (reaper.tick cfg now s).2.1.WellFormed cfg ∧
      Extends s (reaper.tick cfg now s).2.1 ∧
      forall task, (reaper.tick cfg now s).2.1.recordsOf task = s.recordsOf task := by
  refine ClientQueueReaper.tick_invariant
    (fun t => t.WellFormed cfg ∧ Extends s t ∧
      forall task, t.recordsOf task = s.recordsOf task)
    ?_ reaper ⟨hwell, Extends.refl s, fun _ => rfl⟩
  intro clientId t entry _ _ ih
  rcases ih with ⟨hwell', hext, hrecords⟩
  refine ⟨hwell'.remove _ _, hext.trans (ClientRegistry.extends_remove _ _ _), ?_⟩
  intro task
  rw [ClientRegistry.recordsOf_remove, hrecords task]

theorem Invariant.good {s : App} (h : Invariant cfg jwt s) {task : TaskId}
    {t : Task} {action : Action} {clock : Clock} {r : Store × Phase}
    (ht : s.tasks.get? task = some t)
    (hadvance : advance cfg jwt task t.request t.phase action clock s.store =
      some r) :
    Good cfg jwt task t.request s.store r :=
  good_advance h.wellFormed (h.conduct task t ht) hadvance

theorem Invariant.step {s : App} (h : Invariant cfg jwt s) (e : Event) :
    Invariant cfg jwt (step cfg jwt s e) := by
  rcases step_cases cfg jwt s e with
    hsame | ⟨task, request, _, hnone, hstep⟩ |
    ⟨task, t, action, clock, store, phase, _, ht, _, hadvance, hstep⟩ |
    ⟨now, _, _, hstep⟩
  · rw [hsame]
    exact h
  · rw [hstep]
    refine ⟨h.wellFormed, ?_, ?_⟩
    · intro other u hu
      rw [Dict.get?_set] at hu
      split at hu
      · rename_i heq
        subst heq
        cases hu
        exact h.silent task hnone
      · exact h.conduct other u hu
    · intro other hother
      rw [Dict.get?_set] at hother
      split at hother
      · cases hother
      · exact h.silent other hother
  · rw [hstep]
    rcases h.good ht hadvance with ⟨heffects, hphase⟩
    rcases effects_frame h.wellFormed heffects with ⟨hwell, hext, hrecords⟩
    refine ⟨hwell, ?_, ?_⟩
    · intro other u hu
      rw [Dict.get?_set] at hu
      split at hu
      · rename_i heq
        subst heq
        cases hu
        exact hphase
      · rename_i hne
        exact (h.conduct other u hu).of_extends hext
          (hrecords other (Ne.symm hne))
    · intro other hother
      rw [Dict.get?_set] at hother
      split at hother
      · cases hother
      · rename_i hne
        rw [hrecords other (Ne.symm hne)]
        exact h.silent other hother
  · rw [hstep]
    rcases tick_frame h.wellFormed s.reaper now with ⟨hwell, hext, hrecords⟩
    refine ⟨hwell, ?_, ?_⟩
    · intro task t ht
      exact (h.conduct task t ht).of_extends hext (hrecords task)
    · intro task hnone
      rw [hrecords task]
      exact h.silent task hnone

theorem invariant_reached (cfg : Settings) (jwt : Jwt) (es : List Event) :
    Invariant cfg jwt (reached cfg jwt es) :=
  run_invariant (Invariant cfg jwt) (fun _ e h => h.step e)
    (invariant_initial cfg jwt) es

/-!
## Properties of the store
-/

/-- A property of the store kept by every effect of every request and by every
eviction of a stale entry. -/
structure StoreInvariant (cfg : Settings) (jwt : Jwt) (inv : Store -> Prop) :
    Prop where
  effect : forall task request s s', s.WellFormed cfg ->
    Effect cfg jwt task request s s' -> inv s -> inv s'
  evict : forall now clientId s entry, s.WellFormed cfg ->
    ClientRegistry.get clientId s = some entry ->
    cfg.clientInactivityThresholdSeconds < now - entry.lastSeen ->
    inv s -> inv (ClientRegistry.remove (.reaper now) clientId s)

theorem StoreInvariant.effects {inv : Store -> Prop}
    (hinv : StoreInvariant cfg jwt inv) {task : TaskId} {request : HttpRequest}
    {s s' : Store} (hwell : s.WellFormed cfg)
    (h : Effects cfg jwt task request s s') (hs : inv s) : inv s' := by
  induction h with
  | refl => exact hs
  | tail hbefore heffect ih =>
      exact hinv.effect _ _ _ _ (effects_frame hwell hbefore).left heffect ih

theorem StoreInvariant.tick {inv : Store -> Prop}
    (hinv : StoreInvariant cfg jwt inv) {s : Store} (hwell : s.WellFormed cfg)
    (reaper : ClientQueueReaper) (now : Time) (hs : inv s) :
    inv (reaper.tick cfg now s).2.1 := by
  have hboth : ((reaper.tick cfg now s).2.1.WellFormed cfg) ∧
      inv (reaper.tick cfg now s).2.1 := by
    refine ClientQueueReaper.tick_invariant
      (fun t => t.WellFormed cfg ∧ inv t) ?_ reaper ⟨hwell, hs⟩
    intro clientId t entry hget hstale ih
    exact ⟨ih.left.remove _ _,
      hinv.evict now clientId t entry ih.left hget hstale ih.right⟩
  exact hboth.right

theorem StoreInvariant.step {inv : Store -> Prop}
    (hinv : StoreInvariant cfg jwt inv) {s : App} (h : Invariant cfg jwt s)
    (hs : inv s.store) (e : Event) : inv (App.step cfg jwt s e).store := by
  rcases step_cases cfg jwt s e with
    hsame | ⟨task, request, _, _, hstep⟩ |
    ⟨task, t, action, clock, store, phase, _, ht, _, hadvance, hstep⟩ |
    ⟨now, _, _, hstep⟩
  · rw [hsame]
    exact hs
  · rw [hstep]
    exact hs
  · rw [hstep]
    exact hinv.effects h.wellFormed (h.good ht hadvance).left hs
  · rw [hstep]
    exact hinv.tick h.wellFormed s.reaper now hs

theorem StoreInvariant.reached {inv : Store -> Prop}
    (hinv : StoreInvariant cfg jwt inv) (hinit : inv Store.initial)
    (es : List Event) : inv (reached cfg jwt es).store := by
  have hboth : Invariant cfg jwt (App.reached cfg jwt es) ∧
      inv (App.reached cfg jwt es).store := by
    refine run_invariant (fun s => Invariant cfg jwt s ∧ inv s.store) ?_
      ⟨invariant_initial cfg jwt, hinit⟩ es
    intro s e h
    exact ⟨h.left.step e, hinv.step h.left h.right e⟩
  exact hboth.right

end

end App

end Server
end Pype
