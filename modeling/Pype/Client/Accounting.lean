import Pype.Foundation.Runs
import Pype.Client.Turns

/-!
# The client's books

Every response that a connection receives is cached, was returned to the caller,
or was replaced in the cache by a later one with the same id.
-/

namespace Pype
namespace Client

open Foundation Server

namespace ClientConnection

def receivedResponses (conn : ClientConnection) : List ServiceResponse :=
  conn.journal.filterMap fun
    | .received response => some response
    | _ => none

def returnedResponses (conn : ClientConnection) : List (String × ServiceResponse) :=
  conn.journal.filterMap fun
    | .returned key response => some (key, response)
    | _ => none

/-- The cached responses that were replaced, each with the one that replaced it. -/
def replacedResponses (conn : ClientConnection) :
    List (ServiceResponse × ServiceResponse) :=
  conn.journal.filterMap fun
    | .replaced old new => some (old, new)
    | _ => none

def noteReturned (returned : List (String × ServiceResponse))
    (conn : ClientConnection) : ClientConnection :=
  { conn with
    journal := conn.journal ++ returned.map fun item => .returned item.1 item.2 }

/-!
## The invariant
-/

/-- The books of a connection that is about to return some responses. -/
structure Books (conn : ClientConnection)
    (pending : List (String × ServiceResponse)) : Prop where
  situations : forall r,
    conn.receivedResponses.count r =
      conn.cache.values.count r +
        ((conn.returnedResponses ++ pending).map Prod.snd).count r +
        (conn.replacedResponses.map Prod.fst).count r
  cacheKeys : forall key r, conn.cache.get? key = some r -> r.requestId = key
  returnedKeys : forall key r,
    (key, r) ∈ conn.returnedResponses ++ pending -> r.requestId = key
  replacedLater : forall old new, (old, new) ∈ conn.replacedResponses ->
    old.requestId = new.requestId ∧ List.Sublist [old, new] conn.receivedResponses
  distinct : (conn.receivedResponses.map ServiceResponse.source).Nodup

def KeepsKeys (conn conn' : ClientConnection) : Prop :=
  forall key, (conn.cache.get? key).isSome = true ->
    (conn'.cache.get? key).isSome = true

theorem KeepsKeys.refl (conn : ClientConnection) : KeepsKeys conn conn :=
  fun _ h => h

theorem KeepsKeys.trans {a b c : ClientConnection} (h : KeepsKeys a b)
    (h' : KeepsKeys b c) : KeepsKeys a c :=
  fun key hkey => h' key (h key hkey)

def Sound (conn : ClientConnection) (result : ClientConnection × Progress) : Prop :=
  Books result.1 result.2.pending ∧
    ((exists value, result.2 = .returned value) ∨ KeepsKeys conn result.1)

theorem books_open (clientId accessToken : String) :
    Books (ClientConnection.open clientId accessToken) [] where
  situations := fun _ => rfl
  cacheKeys := by
    intro key r h
    cases h
  returnedKeys := by
    intro key r h
    cases h
  replacedLater := by
    intro old new h
    cases h
  distinct := List.nodup_nil

theorem Books.of_same {conn conn' : ClientConnection}
    {pending : List (String × ServiceResponse)} (h : Books conn pending)
    (hcache : conn'.cache = conn.cache) (hjournal : conn'.journal = conn.journal) :
    Books conn' pending := by
  rcases conn with ⟨clientId, accessToken, closed, next, cache, journal⟩
  rcases conn' with ⟨clientId', accessToken', closed', next', cache', journal'⟩
  dsimp only at hcache hjournal
  subst hcache hjournal
  exact ⟨h.situations, h.cacheKeys, h.returnedKeys, h.replacedLater, h.distinct⟩

/-- What is cached was received. -/
theorem Books.mem_received {conn : ClientConnection}
    {pending : List (String × ServiceResponse)} (h : Books conn pending) {key : String}
    {r : ServiceResponse} (hget : conn.cache.get? key = some r) :
    r ∈ conn.receivedResponses := by
  have hcount := h.situations r
  have hcached : 0 < conn.cache.values.count r :=
    List.count_pos_iff.mpr (Dict.mem_values_of_get? hget)
  exact List.count_pos_iff.mp (by omega)

/-!
### Receiving and caching
-/

theorem received_note (r : ServiceResponse) (conn : ClientConnection) :
    (conn.note (.received r)).receivedResponses = conn.receivedResponses ++ [r] := by
  simp [note, receivedResponses]

theorem returned_note (r : ServiceResponse) (conn : ClientConnection) :
    (conn.note (.received r)).returnedResponses = conn.returnedResponses := by
  simp [note, returnedResponses]

theorem replaced_note (r : ServiceResponse) (conn : ClientConnection) :
    (conn.note (.received r)).replacedResponses = conn.replacedResponses := by
  simp [note, replacedResponses]

theorem received_cacheResponse (r : ServiceResponse) (conn : ClientConnection) :
    (conn.cacheResponse r).receivedResponses = conn.receivedResponses := by
  unfold cacheResponse receivedResponses
  split <;> simp

theorem returned_cacheResponse (r : ServiceResponse) (conn : ClientConnection) :
    (conn.cacheResponse r).returnedResponses = conn.returnedResponses := by
  unfold cacheResponse returnedResponses
  split <;> simp

theorem replaced_cacheResponse (r : ServiceResponse) (conn : ClientConnection) :
    (conn.cacheResponse r).replacedResponses =
      conn.replacedResponses ++
        ((conn.cache.get? r.requestId).map fun old => (old, r)).toList := by
  unfold cacheResponse replacedResponses
  cases conn.cache.get? r.requestId <;> simp

theorem Books.distinct_snoc {conn : ClientConnection} (h : Books conn [])
    {r : ServiceResponse}
    (hfresh : forall old, old ∈ conn.receivedResponses -> old.source ≠ r.source) :
    ((conn.receivedResponses ++ [r]).map ServiceResponse.source).Nodup := by
  rw [List.map_append, List.map_singleton, List.nodup_append]
  refine ⟨h.distinct, List.nodup_singleton _, ?_⟩
  intro a ha b hb
  rcases List.mem_map.mp ha with ⟨old, hold, rfl⟩
  rw [List.mem_singleton.mp hb]
  exact hfresh old hold

theorem Books.receive_return {conn : ClientConnection} (h : Books conn [])
    {r : ServiceResponse}
    (hfresh : forall old, old ∈ conn.receivedResponses -> old.source ≠ r.source) :
    Books (conn.note (.received r)) [(r.requestId, r)] where
  situations := by
    intro a
    have hold := h.situations a
    rw [received_note, returned_note, replaced_note]
    simp only [List.append_nil, List.map_append, List.count_append] at hold ⊢
    change _ = conn.cache.values.count a + _ + _
    change _ + [r].count a = _ + (_ + [r].count a) + _
    omega
  cacheKeys := h.cacheKeys
  returnedKeys := by
    intro key x hmem
    rw [returned_note] at hmem
    rcases List.mem_append.mp hmem with hmem | hmem
    · exact h.returnedKeys key x (List.mem_append_left _ hmem)
    · cases List.mem_singleton.mp hmem
      rfl
  replacedLater := by
    intro old new hmem
    rw [replaced_note] at hmem
    rcases h.replacedLater old new hmem with ⟨hid, hsub⟩
    rw [received_note]
    exact ⟨hid, hsub.trans (List.sublist_append_left _ _)⟩
  distinct := by
    rw [received_note]
    exact h.distinct_snoc hfresh

theorem Books.receive_cache {conn : ClientConnection} (h : Books conn [])
    {r : ServiceResponse}
    (hfresh : forall old, old ∈ conn.receivedResponses -> old.source ≠ r.source) :
    Books ((conn.note (.received r)).cacheResponse r) [] where
  situations := by
    intro a
    have hold := h.situations a
    have hset := Dict.count_values_set conn.cache r.requestId r a
    rw [received_cacheResponse, returned_cacheResponse, replaced_cacheResponse,
      received_note, returned_note, replaced_note]
    change (conn.receivedResponses ++ [r]).count a =
      (conn.cache.set r.requestId r).values.count a + _ + _
    simp only [List.append_nil, List.map_append, List.count_append] at hold ⊢
    change _ = _ + _ + (_ + ((((conn.cache.get? r.requestId).map
      fun old => (old, r)).toList).map Prod.fst).count a)
    cases hget : conn.cache.get? r.requestId with
    | none =>
        have herase := Dict.count_values_erase_of_none hget a
        simp only [Option.map_none, Option.toList_none, List.map_nil,
          List.count_nil]
        omega
    | some old =>
        have herase := Dict.count_values_erase hget a
        simp only [Option.map_some, Option.toList_some, List.map_cons,
          List.map_nil]
        omega
  cacheKeys := by
    intro key x hx
    change (conn.cache.set r.requestId r).get? key = some x at hx
    rw [Dict.get?_set] at hx
    split at hx
    · rename_i hkey
      cases hx
      exact hkey
    · exact h.cacheKeys key x hx
  returnedKeys := by
    intro key x hmem
    rw [returned_cacheResponse, returned_note] at hmem
    exact h.returnedKeys key x hmem
  replacedLater := by
    intro old new hmem
    rw [replaced_cacheResponse, replaced_note] at hmem
    rw [received_cacheResponse, received_note]
    rcases List.mem_append.mp hmem with hmem | hmem
    · rcases h.replacedLater old new hmem with ⟨hid, hsub⟩
      exact ⟨hid, hsub.trans (List.sublist_append_left _ _)⟩
    · change (old, new) ∈ ((conn.cache.get? r.requestId).map
        fun old => (old, r)).toList at hmem
      cases hget : conn.cache.get? r.requestId with
      | none => simp [hget] at hmem
      | some cached =>
          simp only [hget, Option.map_some, Option.toList_some, List.mem_cons,
            Prod.mk.injEq, List.not_mem_nil, or_false] at hmem
          rcases hmem with ⟨rfl, rfl⟩
          constructor
          · exact h.cacheKeys _ _ hget
          · have hmem := h.mem_received hget
            exact (List.singleton_sublist.mpr hmem).append (List.Sublist.refl [new])
  distinct := by
    rw [received_cacheResponse, received_note]
    exact h.distinct_snoc hfresh

theorem keepsKeys_cacheResponse (r : ServiceResponse) (conn : ClientConnection) :
    KeepsKeys conn ((conn.note (.received r)).cacheResponse r) := by
  intro key hkey
  change ((conn.cache.set r.requestId r).get? key).isSome = true
  rw [Dict.get?_set]
  split
  · rfl
  · exact hkey

/-!
### Popping
-/

theorem Books.pop {conn : ClientConnection}
    {pending : List (String × ServiceResponse)} (h : Books conn pending)
    {key : String} {r : ServiceResponse} (hget : conn.cache.get? key = some r) :
    Books (conn.popResponse key) (pending ++ [(key, r)]) where
  situations := by
    intro a
    have hold := h.situations a
    have herase := Dict.count_values_erase hget a
    change _ = (conn.cache.erase key).values.count a + _ + _
    simp only [List.map_append, List.count_append] at hold ⊢
    change conn.receivedResponses.count a = _ +
      ((conn.returnedResponses.map Prod.snd).count a +
        ((pending.map Prod.snd).count a + [r].count a)) +
      (conn.replacedResponses.map Prod.fst).count a
    omega
  cacheKeys := by
    intro key' x hx
    change (conn.cache.erase key).get? key' = some x at hx
    rw [Dict.get?_erase] at hx
    split at hx
    · cases hx
    · exact h.cacheKeys key' x hx
  returnedKeys := by
    intro key' x hmem
    rw [← List.append_assoc] at hmem
    rcases List.mem_append.mp hmem with hmem | hmem
    · exact h.returnedKeys key' x hmem
    · cases List.mem_singleton.mp hmem
      exact h.cacheKeys _ _ hget
  replacedLater := h.replacedLater
  distinct := h.distinct

theorem Books.popMatching {wanted : List String} :
    forall {conn : ClientConnection} {out : Dict String ServiceResponse},
      Books conn out.entries -> wanted.Nodup ->
      (forall key, key ∈ wanted -> out.get? key = none) ->
        Books (conn.popMatching wanted out).1 (conn.popMatching wanted out).2.entries := by
  induction wanted with
  | nil =>
      intro conn out h _ _
      exact h
  | cons key rest ih =>
      intro conn out h hnodup hout
      have hrest := List.nodup_cons.mp hnodup
      unfold ClientConnection.popMatching
      split
      · rename_i r hget
        have hnone := hout key List.mem_cons_self
        apply ih
        · rw [Dict.entries_set_of_get?_eq_none r hnone]
          exact h.pop hget
        · exact hrest.right
        · intro key' hkey'
          have hne : key ≠ key' := by
            rintro rfl
            exact hrest.left hkey'
          rw [Dict.get?_set_of_ne _ _ hne]
          exact hout key' (List.mem_cons_of_mem _ hkey')
      · exact ih h hrest.right
          fun key' hkey' => hout key' (List.mem_cons_of_mem _ hkey')

/-!
## Turns
-/

theorem sound_of_same {conn conn' : ClientConnection} {progress : Progress}
    (h : Books conn []) (hcache : conn'.cache = conn.cache)
    (hjournal : conn'.journal = conn.journal) (hpending : progress.pending = []) :
    Sound conn (conn', progress) := by
  constructor
  · rw [hpending]
    exact h.of_same hcache hjournal
  · right
    intro key hkey
    dsimp only
    rw [hcache]
    exact hkey

theorem Searches.sound {conn : ClientConnection} {result : ClientConnection × Progress}
    (h : Searches conn result) (hbooks : Books conn []) : Sound conn result := by
  cases h with
  | polls hcall hframe => exact sound_of_same hbooks rfl rfl rfl
  | popped hget => exact ⟨hbooks.pop hget, Or.inl ⟨_, rfl⟩⟩
  | collected wanted =>
      exact ⟨Books.popMatching hbooks wanted.nodup (fun _ _ => rfl), Or.inl ⟨_, rfl⟩⟩
  | late detail => exact sound_of_same hbooks rfl rfl rfl
  | closed hclosed => exact sound_of_same hbooks rfl rfl rfl

theorem sound_start (settings : Settings) (operation : Operation) (clock : Clock)
    {conn : ClientConnection} (h : Books conn []) :
    Sound conn (conn.start settings operation clock) := by
  have hcases := @start_cases settings conn operation clock
  generalize conn.start settings operation clock = result at hcases ⊢
  cases hcases with
  | refuses error => exact sound_of_same h rfl rfl rfl
  | searches hsearch => exact hsearch.sound h
  | posts hopen hcall hframe hid => exact sound_of_same h rfl rfl rfl
  | leaves hopen hcall hframe => exact sound_of_same h rfl rfl rfl
  | left => exact sound_of_same h rfl rfl rfl

theorem Books.takeIn {conn : ClientConnection} (h : Books conn [])
    {came : Option ServiceResponse}
    (hfresh : forall r, came = some r ->
      forall old, old ∈ conn.receivedResponses -> old.source ≠ r.source) :
    Books (conn.takeIn came) [] := by
  cases came with
  | none => exact h
  | some r => exact h.receive_cache (hfresh r rfl)

theorem keepsKeys_takeIn (came : Option ServiceResponse) (conn : ClientConnection) :
    KeepsKeys conn (conn.takeIn came) := by
  cases came with
  | none => exact KeepsKeys.refl conn
  | some r => exact keepsKeys_cacheResponse r conn

theorem sound_resume (settings : Settings) (frame : Frame) (outcome : Outcome)
    {source : TaskId} (clock : Clock) {conn : ClientConnection} (h : Books conn [])
    (hfresh : forall old, old ∈ conn.receivedResponses -> old.source ≠ source) :
    Sound conn (conn.resume settings frame outcome source clock) := by
  have hcases := @resume_cases settings conn frame outcome source clock
  generalize conn.resume settings frame outcome source clock = result at hcases ⊢
  have hnew : forall r, frame.response? outcome source = some r ->
      forall old, old ∈ conn.receivedResponses -> old.source ≠ r.source := by
    intro r hr
    rw [Frame.response?_source hr]
    exact hfresh
  cases hcases with
  | refuses hrefuses => exact sound_of_same h rfl rfl rfl
  | returns hframe hvalue => exact sound_of_same h rfl rfl hvalue
  | answers hr => exact ⟨h.receive_return (hnew _ hr), Or.inl ⟨_, rfl⟩⟩
  | searches hframe hreply hsearch =>
      have hsound := hsearch.sound (h.takeIn hnew)
      constructor
      · exact hsound.left
      · rcases hsound.right with hreturned | hkeeps
        · exact Or.inl hreturned
        · exact Or.inr ((keepsKeys_takeIn _ conn).trans hkeeps)

/-!
## What a turn receives
-/

theorem received_takeIn (came : Option ServiceResponse) (conn : ClientConnection) :
    (conn.takeIn came).receivedResponses = conn.receivedResponses ++ came.toList := by
  cases came with
  | none => exact (List.append_nil _).symm
  | some r => exact (received_cacheResponse r _).trans (received_note r conn)

theorem received_start (settings : Settings) (operation : Operation) (clock : Clock)
    (conn : ClientConnection) :
    (conn.start settings operation clock).1.receivedResponses =
      conn.receivedResponses :=
  (start_cases operation clock).keeps receivedResponses (fun _ _ => rfl) (fun _ => rfl)
    (fun _ => rfl)

theorem received_resume (settings : Settings) (frame : Frame) (outcome : Outcome)
    (source : TaskId) (clock : Clock) (conn : ClientConnection) :
    (conn.resume settings frame outcome source clock).1.receivedResponses =
      conn.receivedResponses ++ (frame.response? outcome source).toList := by
  have hcases := @resume_cases settings conn frame outcome source clock
  generalize conn.resume settings frame outcome source clock = result at hcases ⊢
  cases hcases with
  | refuses hrefuses =>
      rw [hrefuses.response?]
      exact (List.append_nil _).symm
  | returns hframe hvalue =>
      rw [Frame.response?_of_not_waits hframe]
      exact (List.append_nil _).symm
  | answers hr =>
      rw [hr]
      exact received_note _ conn
  | searches hframe hreply hsearch =>
      rw [← received_takeIn]
      exact hsearch.keeps receivedResponses fun _ _ => rfl

/-!
## What a turn returns and replaces
-/

/-- The cached response that was replaced from one state to the next by one that came in:
it was cached under the id of that one, and is not any more. -/
def replacement? (conn conn' : ClientConnection) :
    Option ServiceResponse -> Option (ServiceResponse × ServiceResponse)
  | none => none
  | some new =>
      match conn.cache.get? new.requestId with
      | none => none
      | some old =>
          if conn'.cache.get? new.requestId = some old then none else some (old, new)

theorem returned_takeIn (came : Option ServiceResponse) (conn : ClientConnection) :
    (conn.takeIn came).returnedResponses = conn.returnedResponses := by
  cases came with
  | none => rfl
  | some r => exact (returned_cacheResponse r _).trans (returned_note r conn)

theorem returned_start (settings : Settings) (operation : Operation) (clock : Clock)
    (conn : ClientConnection) :
    (conn.start settings operation clock).1.returnedResponses =
      conn.returnedResponses :=
  (start_cases operation clock).keeps returnedResponses (fun _ _ => rfl) (fun _ => rfl)
    (fun _ => rfl)

theorem returned_resume (settings : Settings) (frame : Frame) (outcome : Outcome)
    (source : TaskId) (clock : Clock) (conn : ClientConnection) :
    (conn.resume settings frame outcome source clock).1.returnedResponses =
      conn.returnedResponses := by
  have hcases := @resume_cases settings conn frame outcome source clock
  generalize conn.resume settings frame outcome source clock = result at hcases ⊢
  cases hcases with
  | refuses hrefuses => rfl
  | returns hframe hvalue => rfl
  | answers hr => exact returned_note _ conn
  | searches hframe hreply hsearch =>
      rw [hsearch.keeps returnedResponses fun _ _ => rfl]
      exact returned_takeIn _ conn

theorem replaced_start (settings : Settings) (operation : Operation) (clock : Clock)
    (conn : ClientConnection) :
    (conn.start settings operation clock).1.replacedResponses =
      conn.replacedResponses :=
  (start_cases operation clock).keeps replacedResponses (fun _ _ => rfl) (fun _ => rfl)
    (fun _ => rfl)

theorem get?_of_popMatching {wanted : List String} {key : String}
    {r : ServiceResponse} {conn : ClientConnection} {out : Dict String ServiceResponse}
    (h : (conn.popMatching wanted out).1.cache.get? key = some r) :
    conn.cache.get? key = some r := by
  induction wanted generalizing conn out with
  | nil => exact h
  | cons requestId rest ih =>
      unfold popMatching at h
      split at h
      · have hget := ih h
        change (conn.cache.erase requestId).get? key = some r at hget
        rw [Dict.get?_erase] at hget
        split at hget
        · cases hget
        · exact hget
      · exact ih h

/-- A search caches nothing. -/
theorem Searches.get?_of {conn : ClientConnection} {result : ClientConnection × Progress}
    (h : Searches conn result) {key : String} {r : ServiceResponse}
    (hget : result.1.cache.get? key = some r) : conn.cache.get? key = some r := by
  cases h with
  | polls hcall hframe => exact hget
  | popped hpopped =>
      change (conn.cache.erase _).get? key = some r at hget
      rw [Dict.get?_erase] at hget
      split at hget
      · cases hget
      · exact hget
  | collected wanted => exact get?_of_popMatching hget
  | late detail => exact hget
  | closed hclosed => exact hget

/-- What is taken in replaces what was cached under its id, whatever is returned then. -/
theorem replaced_takeIn {conn : ClientConnection} {came : Option ServiceResponse}
    {result : ClientConnection × Progress} (hsearch : Searches (conn.takeIn came) result)
    (hfresh : forall new old, came = some new ->
      conn.cache.get? new.requestId = some old -> old ≠ new) :
    result.1.replacedResponses =
      conn.replacedResponses ++ (conn.replacement? result.1 came).toList := by
  rw [hsearch.keeps replacedResponses fun _ _ => rfl]
  cases came with
  | none => exact (List.append_nil _).symm
  | some new =>
      have htaken : (conn.takeIn (some new)).replacedResponses =
          conn.replacedResponses ++
            ((conn.cache.get? new.requestId).map fun old => (old, new)).toList := by
        rw [takeIn, replaced_cacheResponse, replaced_note]
        rfl
      rw [htaken]
      cases hold : conn.cache.get? new.requestId with
      | none => simp [replacement?, hold]
      | some old =>
          have hgone : result.1.cache.get? new.requestId ≠ some old := by
            intro hget
            have hcached := hsearch.get?_of hget
            change (conn.cache.set new.requestId new).get? new.requestId = some old
              at hcached
            rw [Dict.get?_set_self] at hcached
            exact hfresh new old rfl hold (Option.some.inj hcached).symm
          simp [replacement?, hold, hgone]

theorem replaced_resume (settings : Settings) (frame : Frame) (outcome : Outcome)
    {source : TaskId} (clock : Clock) {conn : ClientConnection} (h : Books conn [])
    (hfresh : forall old, old ∈ conn.receivedResponses -> old.source ≠ source) :
    (conn.resume settings frame outcome source clock).1.replacedResponses =
      conn.replacedResponses ++
        (conn.replacement? (conn.resume settings frame outcome source clock).1
          (frame.response? outcome source)).toList := by
  have hcases := @resume_cases settings conn frame outcome source clock
  generalize conn.resume settings frame outcome source clock = result at hcases ⊢
  cases hcases with
  | refuses hrefuses =>
      rw [hrefuses.response?]
      exact (List.append_nil _).symm
  | returns hframe hvalue =>
      rw [Frame.response?_of_not_waits hframe]
      exact (List.append_nil _).symm
  | @answers r hr =>
      -- a response that is returned as it comes in leaves the cache alone
      have hsame : conn.replacement? (conn.note (.received r)) (some r) = none := by
        unfold replacement?
        dsimp only
        split
        · rfl
        · rename_i old hold
          exact if_pos hold
      rw [hr, hsame, replaced_note]
      exact (List.append_nil _).symm
  | searches hframe hreply hsearch =>
      apply replaced_takeIn hsearch
      intro new old hnew hold heq
      subst heq
      exact hfresh old (h.mem_received hold) (Frame.response?_source hnew)

theorem received_noteReturned (pending : List (String × ServiceResponse))
    (conn : ClientConnection) :
    (conn.noteReturned pending).receivedResponses = conn.receivedResponses := by
  simp [noteReturned, receivedResponses, List.filterMap_map]

theorem returned_noteReturned (pending : List (String × ServiceResponse))
    (conn : ClientConnection) :
    (conn.noteReturned pending).returnedResponses = conn.returnedResponses ++ pending := by
  simp [noteReturned, returnedResponses, List.filterMap_map]

theorem replaced_noteReturned (pending : List (String × ServiceResponse))
    (conn : ClientConnection) :
    (conn.noteReturned pending).replacedResponses = conn.replacedResponses := by
  simp [noteReturned, replacedResponses, List.filterMap_map]

theorem Books.settle {conn : ClientConnection}
    {pending : List (String × ServiceResponse)} (h : Books conn pending) :
    Books (conn.noteReturned pending) [] := by
  have hreceived := received_noteReturned pending conn
  have hreplaced := replaced_noteReturned pending conn
  have hreturned := returned_noteReturned pending conn
  constructor
  · intro r
    rw [hreceived, hreplaced, hreturned, List.append_nil]
    exact h.situations r
  · exact h.cacheKeys
  · intro key r hmem
    rw [hreturned, List.append_nil] at hmem
    exact h.returnedKeys key r hmem
  · intro old new hmem
    rw [hreplaced] at hmem
    rw [hreceived]
    exact h.replacedLater old new hmem
  · rw [hreceived]
    exact h.distinct

/-!
## What the books say
-/

def ExactlyOne (p q r : Prop) : Prop :=
  (p ∨ q ∨ r) ∧ ¬ (p ∧ q) ∧ ¬ (p ∧ r) ∧ ¬ (q ∧ r)

/-- Each received response is cached under its id, was returned once under its id,
or was replaced by a later one with its id. -/
def Accounted (conn : ClientConnection) : Prop :=
  forall r, r ∈ conn.receivedResponses ->
    ExactlyOne (conn.cache.get? r.requestId = some r)
      ((r.requestId, r) ∈ conn.returnedResponses)
      (exists new, (r, new) ∈ conn.replacedResponses ∧
        new.requestId = r.requestId ∧
        List.Sublist [r, new] conn.receivedResponses) ∧
    (conn.returnedResponses.map Prod.snd).count r ≤ 1

theorem Books.accounted {conn : ClientConnection} (h : Books conn []) :
    conn.Accounted := by
  intro r hr
  have hnodup : conn.receivedResponses.Nodup := h.distinct.of_map
  have hone : conn.receivedResponses.count r = 1 :=
    List.count_eq_one_of_mem hnodup hr
  have hcount := h.situations r
  rw [hone, List.append_nil] at hcount
  have hcached : conn.cache.get? r.requestId = some r <->
      0 < conn.cache.values.count r := by
    rw [List.count_pos_iff]
    constructor
    · exact Dict.mem_values_of_get?
    · intro hmem
      rcases Dict.exists_get?_of_mem_values hmem with ⟨key, hget⟩
      rw [h.cacheKeys key r hget]
      exact hget
  have hreturned : (r.requestId, r) ∈ conn.returnedResponses <->
      0 < (conn.returnedResponses.map Prod.snd).count r := by
    rw [List.count_pos_iff, List.mem_map]
    constructor
    · intro hmem
      exact ⟨_, hmem, rfl⟩
    · rintro ⟨⟨key, x⟩, hmem, rfl⟩
      rw [h.returnedKeys key x (List.mem_append_left _ hmem)]
      exact hmem
  have hreplaced : (exists new, (r, new) ∈ conn.replacedResponses ∧
      new.requestId = r.requestId ∧
      List.Sublist [r, new] conn.receivedResponses) <->
      0 < (conn.replacedResponses.map Prod.fst).count r := by
    rw [List.count_pos_iff, List.mem_map]
    constructor
    · rintro ⟨new, hmem, _⟩
      exact ⟨_, hmem, rfl⟩
    · rintro ⟨⟨old, new⟩, hmem, rfl⟩
      rcases h.replacedLater old new hmem with ⟨hid, hsub⟩
      exact ⟨new, hmem, hid.symm, hsub⟩
  rw [ExactlyOne, hcached, hreturned, hreplaced]
  omega

end ClientConnection

/-!
## Sessions
-/

/-- A connection at work: how far its latest operation got, how many HTTP calls it
has made, and what was cached when the operation started. -/
structure Session where
  connection : ClientConnection
  progress : Option Progress
  exchanges : Nat
  cacheAtStart : Dict String ServiceResponse

inductive Input where
  | begin (operation : Operation) (clock : Clock)
  | finish (outcome : Outcome) (clock : Clock)

namespace Session

def initial (clientId accessToken : String) : Session where
  connection := ClientConnection.open clientId accessToken
  progress := none
  exchanges := 0
  cacheAtStart := Dict.empty

/-- A call gets the next number. -/
def settle (cacheAtStart : Dict String ServiceResponse) (exchanges : Nat)
    (result : ClientConnection × Progress) : Session where
  connection := result.1.noteReturned result.2.pending
  progress := some result.2
  exchanges :=
    match result.2 with
    | .blocked _ _ => exchanges + 1
    | _ => exchanges
  cacheAtStart := cacheAtStart

/-- A caller begins an operation when none is running, and the network ends the
call of the one that is. -/
def step (settings : Settings) (s : Session) : Input -> Session
  | .begin operation clock =>
      match s.progress with
      | some (.blocked _ _) => s
      | _ =>
          settle s.connection.cache s.exchanges
            (s.connection.start settings operation clock)
  | .finish outcome clock =>
      match s.progress with
      | some (.blocked _ frame) =>
          settle s.cacheAtStart s.exchanges
            (s.connection.resume settings frame outcome s.exchanges clock)
      | _ => s

/-- The response that an input brings: the one in the answer to the call that is waited
for. -/
def arrival? (s : Session) : Input -> Option ServiceResponse
  | .begin _ _ => none
  | .finish outcome _ =>
      match s.progress with
      | some (.blocked call _) => call.response? outcome s.exchanges
      | _ => none

/-- The responses that the caller gets with an input, each under its id: those in the
value that the operation returns. -/
def returns (settings : Settings) (s : Session) :
    Input -> List (String × ServiceResponse)
  | .begin operation clock =>
      match s.progress with
      | some (.blocked _ _) => []
      | _ => (s.connection.start settings operation clock).2.pending
  | .finish outcome clock =>
      match s.progress with
      | some (.blocked _ frame) =>
          (s.connection.resume settings frame outcome s.exchanges clock).2.pending
      | _ => []

/-- The cached response that is replaced by the one that an input brings. -/
def replacement? (settings : Settings) (s : Session) (input : Input) :
    Option (ServiceResponse × ServiceResponse) :=
  s.connection.replacement? (step settings s input).connection (s.arrival? input)

/-- What holds of a session after every step. -/
structure Ok (s : Session) : Prop where
  books : s.connection.Books []
  numbered : forall r, r ∈ s.connection.receivedResponses ->
    r.source ≤ s.exchanges
  fresh : forall call frame, s.progress = some (.blocked call frame) ->
    forall r, r ∈ s.connection.receivedResponses -> r.source ≠ s.exchanges
  fits : forall call frame, s.progress = some (.blocked call frame) -> frame.Fits call
  keeps : (exists value, s.progress = some (.returned value)) ∨
    forall key, (s.cacheAtStart.get? key).isSome = true ->
      (s.connection.cache.get? key).isSome = true

theorem ok_initial (clientId accessToken : String) :
    Ok (initial clientId accessToken) where
  books := ClientConnection.books_open clientId accessToken
  numbered := by
    intro r hr
    cases hr
  fresh := by
    intro call frame h
    cases h
  fits := by
    intro call frame h
    cases h
  keeps := by
    right
    intro key h
    cases h

theorem ok_settle {cacheAtStart : Dict String ServiceResponse} {exchanges : Nat}
    {conn : ClientConnection} {result : ClientConnection × Progress}
    (hsound : conn.Sound result) (hfitting : ClientConnection.Fitting result.2)
    (hnumbered : forall r, r ∈ result.1.receivedResponses -> r.source ≤ exchanges)
    (hkeeps : forall key, (cacheAtStart.get? key).isSome = true ->
      (conn.cache.get? key).isSome = true) :
    Ok (settle cacheAtStart exchanges result) := by
  rcases result with ⟨conn', progress⟩
  have hreceived := ClientConnection.received_noteReturned progress.pending conn'
  constructor
  · exact hsound.left.settle
  · intro r hr
    have hle := hnumbered r (by rw [← hreceived]; exact hr)
    cases progress with
    | blocked call frame => exact Nat.le_succ_of_le hle
    | returned value => exact hle
    | raised error => exact hle
  · intro call frame hprogress r hr
    have hle := hnumbered r (by rw [← hreceived]; exact hr)
    have hblocked : progress = .blocked call frame := Option.some.inj hprogress
    subst hblocked
    exact Nat.ne_of_lt (Nat.lt_succ_of_le hle)
  · intro call frame hprogress
    exact hfitting call frame (Option.some.inj hprogress)
  · rcases hsound.right with ⟨value, hvalue⟩ | hkept
    · refine Or.inl ⟨value, ?_⟩
      change some progress = some (.returned value)
      rw [← hvalue]
    · exact Or.inr fun key hkey => hkept key (hkeeps key hkey)

theorem received_settle (cacheAtStart : Dict String ServiceResponse) (exchanges : Nat)
    (result : ClientConnection × Progress) :
    (settle cacheAtStart exchanges result).connection.receivedResponses =
      result.1.receivedResponses :=
  ClientConnection.received_noteReturned result.2.pending result.1

theorem returned_settle (cacheAtStart : Dict String ServiceResponse) (exchanges : Nat)
    (result : ClientConnection × Progress) :
    (settle cacheAtStart exchanges result).connection.returnedResponses =
      result.1.returnedResponses ++ result.2.pending :=
  ClientConnection.returned_noteReturned result.2.pending result.1

theorem replaced_settle (cacheAtStart : Dict String ServiceResponse) (exchanges : Nat)
    (result : ClientConnection × Progress) :
    (settle cacheAtStart exchanges result).connection.replacedResponses =
      result.1.replacedResponses :=
  ClientConnection.replaced_noteReturned result.2.pending result.1

theorem Ok.received_step {s : Session} (h : Ok s) (settings : Settings) (input : Input) :
    (step settings s input).connection.receivedResponses =
      s.connection.receivedResponses ++ (s.arrival? input).toList := by
  cases input with
  | begin operation clock =>
      unfold Session.step arrival?
      dsimp only
      rw [Option.toList_none, List.append_nil]
      split
      · rfl
      · rw [received_settle, ClientConnection.received_start]
  | finish outcome clock =>
      unfold Session.step arrival?
      dsimp only
      split
      · rename_i call frame hprogress
        rw [received_settle, ClientConnection.received_resume,
          (h.fits call frame hprogress).response?]
      · exact (List.append_nil _).symm

theorem returned_step (settings : Settings) (s : Session) (input : Input) :
    (step settings s input).connection.returnedResponses =
      s.connection.returnedResponses ++ s.returns settings input := by
  cases input with
  | begin operation clock =>
      unfold step returns
      dsimp only
      split
      · exact (List.append_nil _).symm
      · rw [returned_settle, ClientConnection.returned_start]
  | finish outcome clock =>
      unfold step returns
      dsimp only
      split
      · rw [returned_settle, ClientConnection.returned_resume]
      · exact (List.append_nil _).symm

theorem Ok.replaced_step {s : Session} (h : Ok s) (settings : Settings) (input : Input) :
    (step settings s input).connection.replacedResponses =
      s.connection.replacedResponses ++ (s.replacement? settings input).toList := by
  cases input with
  | begin operation clock =>
      unfold replacement? arrival? Session.step
      dsimp only
      rw [ClientConnection.replacement?, Option.toList_none, List.append_nil]
      split
      · rfl
      · rw [replaced_settle, ClientConnection.replaced_start]
  | finish outcome clock =>
      unfold replacement? arrival? Session.step
      dsimp only
      split
      · rename_i call frame hprogress
        rw [replaced_settle, ← (h.fits call frame hprogress).response?,
          ClientConnection.replaced_resume settings frame outcome clock h.books
            (h.fresh call frame hprogress)]
        rfl
      · exact (List.append_nil _).symm

theorem Ok.step {s : Session} (h : Ok s) (settings : Settings) (input : Input) :
    Ok (step settings s input) := by
  cases input with
  | begin operation clock =>
      unfold Session.step
      dsimp only
      split
      · exact h
      · apply ok_settle (ClientConnection.sound_start settings operation clock h.books)
          (ClientConnection.fitting_start operation clock)
        · intro r hr
          rw [ClientConnection.received_start] at hr
          exact h.numbered r hr
        · exact fun _ hkey => hkey
  | finish outcome clock =>
      unfold Session.step
      dsimp only
      split
      · rename_i call frame hprogress
        have hkept : forall key, (s.cacheAtStart.get? key).isSome = true ->
            (s.connection.cache.get? key).isSome = true := by
          rcases h.keeps with ⟨value, hvalue⟩ | hkept
          · rw [hprogress] at hvalue
            cases hvalue
          · exact hkept
        apply ok_settle (ClientConnection.sound_resume settings frame outcome clock
          h.books (h.fresh call frame hprogress))
          (ClientConnection.fitting_resume frame outcome s.exchanges clock) _ hkept
        intro r hr
        rw [ClientConnection.received_resume] at hr
        rcases List.mem_append.mp hr with hr | hr
        · exact h.numbered r hr
        · rw [Option.mem_toList] at hr
          exact le_of_eq (Frame.response?_source hr)
      · exact h

abbrev after (settings : Settings) (clientId accessToken : String)
    (inputs : List Input) : Session :=
  run (step settings) (initial clientId accessToken) inputs

/-- The responses that a list of inputs brings, in order. -/
def arrivals (settings : Settings) (clientId accessToken : String)
    (inputs : List Input) : List ServiceResponse :=
  outputs (step settings) (fun s input => (s.arrival? input).toList)
    (initial clientId accessToken) inputs

/-- The responses that the caller gets in a list of inputs, each under its id. -/
def returned (settings : Settings) (clientId accessToken : String)
    (inputs : List Input) : List (String × ServiceResponse) :=
  outputs (step settings) (returns settings) (initial clientId accessToken) inputs

/-- The cached responses that a list of inputs replaces, each with its replacement. -/
def replacements (settings : Settings) (clientId accessToken : String)
    (inputs : List Input) : List (ServiceResponse × ServiceResponse) :=
  outputs (step settings) (fun s input => (s.replacement? settings input).toList)
    (initial clientId accessToken) inputs

/-- Whatever a connection is asked to do and whatever it is answered, its journal says
which responses came in, which the caller got and which were replaced in the cache; no
response that came in is lost or duplicated, cached responses are under their own ids, and
an operation that raises removes nothing from the cache. -/
theorem responses_accounted (settings : Settings) (clientId accessToken : String)
    (inputs : List Input) :
    (after settings clientId accessToken inputs).connection.receivedResponses =
      arrivals settings clientId accessToken inputs ∧
    (after settings clientId accessToken inputs).connection.returnedResponses =
      returned settings clientId accessToken inputs ∧
    (after settings clientId accessToken inputs).connection.replacedResponses =
      replacements settings clientId accessToken inputs ∧
    (after settings clientId accessToken inputs).connection.Accounted ∧
    (forall key r,
      (after settings clientId accessToken inputs).connection.cache.get? key =
          some r -> r.requestId = key) ∧
    (forall error,
      (after settings clientId accessToken inputs).progress =
          some (.raised error) ->
        forall key,
          ((after settings clientId accessToken inputs).cacheAtStart.get?
            key).isSome = true ->
          ((after settings clientId accessToken inputs).connection.cache.get?
            key).isSome = true) := by
  have hok : Ok (after settings clientId accessToken inputs) :=
    run_invariant Ok (fun _ input h => h.step settings input)
      (ok_initial clientId accessToken) inputs
  refine ⟨?_, ?_, ?_, hok.books.accounted, hok.books.cacheKeys, ?_⟩
  · exact log_run (fun s : Session => s.connection.receivedResponses) Ok
      (fun _ input h => h.step settings input)
      (fun _ input h => h.received_step settings input)
      (ok_initial clientId accessToken) inputs
  · exact log_run (fun s : Session => s.connection.returnedResponses) Ok
      (fun _ input h => h.step settings input)
      (fun s input _ => returned_step settings s input)
      (ok_initial clientId accessToken) inputs
  · exact log_run (fun s : Session => s.connection.replacedResponses) Ok
      (fun _ input h => h.step settings input)
      (fun _ input h => h.replaced_step settings input)
      (ok_initial clientId accessToken) inputs
  · intro error hraised
    rcases hok.keeps with ⟨value, hvalue⟩ | hkept
    · rw [hraised] at hvalue
      cases hvalue
    · exact hkept

end Session

end Client
end Pype
