import Pype.Client.Authentication
import Pype.Foundation.Utf8

/-!
# Reading a payload

A message offers its payload as bytes, as text and as a JSON value, and keeps the text
and the value once they are read.  What is kept never shows: every reading is what the
payload alone makes it.
-/

namespace Pype
namespace Client

open Foundation Server

inductive DecodeError where
  | unicode
  | json

/-- `_PayloadAccessors`: a payload, with its text and its value once they were read. -/
structure PayloadAccessors where
  payload : Bytes
  textCache : Option String
  jsonCache : Option JsonValue

namespace PayloadAccessors

def of (payload : Bytes) : PayloadAccessors where
  payload := payload
  textCache := none
  jsonCache := none

def text (m : PayloadAccessors) : PayloadAccessors × Except DecodeError String :=
  match m.textCache with
  | some text => (m, .ok text)
  | none =>
      match Utf8.decode m.payload with
      | none => (m, .error .unicode)
      | some text => ({ m with textCache := some text }, .ok text)

def json (python : Python) (m : PayloadAccessors) :
    PayloadAccessors × Except DecodeError JsonValue :=
  match m.jsonCache with
  | some value => (m, .ok value)
  | none =>
      match m.text with
      | (m, .error e) => (m, .error e)
      | (m, .ok text) =>
          match python.loads text with
          | none => (m, .error .json)
          | some value => ({ m with jsonCache := some value }, .ok value)

end PayloadAccessors

inductive Access where
  | bytes
  | text
  | json

inductive Reading where
  | bytes (bytes : Bytes)
  | text (text : Except DecodeError String)
  | json (value : Except DecodeError JsonValue)

namespace PayloadAccessors

def read (python : Python) (m : PayloadAccessors) :
    Access -> PayloadAccessors × Reading
  | .bytes => (m, .bytes m.payload)
  | .text => (m.text.1, .text m.text.2)
  | .json => ((m.json python).1, .json (m.json python).2)

def readings (python : Python) (m : PayloadAccessors) : List Access -> List Reading
  | [] => []
  | access :: rest =>
      (m.read python access).2 :: (m.read python access).1.readings python rest

/-!
## What is kept does not show
-/

/-- What the payload alone makes of a reading. -/
def plainText (payload : Bytes) : Except DecodeError String :=
  (Utf8.decode payload).elim (.error .unicode) .ok

def plainJson (python : Python) (payload : Bytes) : Except DecodeError JsonValue :=
  match plainText payload with
  | .error e => .error e
  | .ok text =>
      match python.loads text with
      | none => .error .json
      | some value => .ok value

def plain (python : Python) (payload : Bytes) : Access -> Reading
  | .bytes => .bytes payload
  | .text => .text (plainText payload)
  | .json => .json (plainJson python payload)

structure Kept (python : Python) (payload : Bytes) (m : PayloadAccessors) : Prop where
  same : m.payload = payload
  textKept : forall text, m.textCache = some text -> plainText payload = .ok text
  jsonKept : forall value, m.jsonCache = some value ->
    plainJson python payload = .ok value

variable {python : Python} {payload : Bytes} {m : PayloadAccessors}

theorem kept_of (python : Python) (payload : Bytes) : Kept python payload (of payload) where
  same := rfl
  textKept := by
    intro text h
    cases h
  jsonKept := by
    intro value h
    cases h

theorem Kept.read_text (h : Kept python payload m) :
    Kept python payload m.text.1 ∧ m.text.2 = plainText payload := by
  unfold PayloadAccessors.text
  split
  · rename_i text htext
    exact ⟨h, (h.textKept text htext).symm⟩
  · cases hdecode : Utf8.decode m.payload with
    | none =>
        constructor
        · exact h
        · rw [plainText, ← h.same, hdecode]
          rfl
    | some text =>
        have hplain : plainText payload = .ok text := by
          rw [plainText, ← h.same, hdecode]
          rfl
        refine ⟨⟨h.same, ?_, h.jsonKept⟩, hplain.symm⟩
        intro text' htext'
        cases htext'
        exact hplain

theorem Kept.read_json (h : Kept python payload m) :
    Kept python payload (m.json python).1 ∧
      (m.json python).2 = plainJson python payload := by
  unfold PayloadAccessors.json
  split
  · rename_i value hvalue
    exact ⟨h, (h.jsonKept value hvalue).symm⟩
  · rcases h.read_text with ⟨hkept, htext⟩
    rcases hm : m.text with ⟨m', error | text⟩
    · rw [hm] at hkept htext
      constructor
      · exact hkept
      · unfold plainJson
        rw [← htext]
    · rw [hm] at hkept htext
      dsimp only at hkept htext ⊢
      cases hloads : python.loads text with
      | none =>
          constructor
          · exact hkept
          · unfold plainJson
            rw [← htext]
            dsimp only
            rw [hloads]
      | some value =>
          have hplain : plainJson python payload = .ok value := by
            unfold plainJson
            rw [← htext]
            dsimp only
            rw [hloads]
          refine ⟨⟨hkept.same, hkept.textKept, ?_⟩, hplain.symm⟩
          intro value' hvalue'
          cases hvalue'
          exact hplain

theorem Kept.read (h : Kept python payload m) (access : Access) :
    Kept python payload (m.read python access).1 ∧
      (m.read python access).2 = plain python payload access := by
  cases access with
  | bytes => exact ⟨h, congrArg Reading.bytes h.same⟩
  | text => exact ⟨h.read_text.left, congrArg Reading.text h.read_text.right⟩
  | json => exact ⟨h.read_json.left, congrArg Reading.json h.read_json.right⟩

theorem Kept.readings (h : Kept python payload m) (accesses : List Access) :
    m.readings python accesses = accesses.map (plain python payload) := by
  induction accesses generalizing m with
  | nil => rfl
  | cons access rest ih =>
      rcases h.read access with ⟨hkept, hread⟩
      show (m.read python access).2 :: _ = _ :: _
      rw [hread, ih hkept]

end PayloadAccessors

/-- What the sender of a payload means by it. -/
def Payload.means (python : Python) : Payload -> Access -> Reading
  | .text value, .bytes => .bytes (Utf8.encode value)
  | .text value, .text => .text (.ok value)
  | .text value, .json =>
      .json ((python.loads value).elim (.error .json) .ok)
  | .raw bytes, access => PayloadAccessors.plain python bytes access

theorem Payload.plain_body (python : Python) (payload : Payload) (access : Access) :
    PayloadAccessors.plain python payload.body access = payload.means python access := by
  cases payload with
  | raw bytes => rfl
  | text value =>
      have htext : PayloadAccessors.plainText (Payload.text value).body = .ok value := by
        have hdecode : Utf8.decode (Payload.text value).body = some value :=
          Utf8.decode_eq_some_iff.mpr rfl
        rw [PayloadAccessors.plainText, hdecode]
        rfl
      cases access with
      | bytes => rfl
      | text => exact congrArg Reading.text htext
      | json =>
          have hjson : PayloadAccessors.plainJson python (Payload.text value).body =
              (python.loads value).elim (.error .json) .ok := by
            unfold PayloadAccessors.plainJson
            rw [htext]
            dsimp only
            cases python.loads value <;> rfl
          exact congrArg Reading.json hjson

/-- However a payload is read, and how often, it is read as it was meant. -/
theorem PayloadAccessors.readings_body (python : Python) (payload : Payload)
    (accesses : List Access) :
    (PayloadAccessors.of payload.body).readings python accesses =
      accesses.map (payload.means python) := by
  rw [(PayloadAccessors.kept_of python payload.body).readings accesses]
  exact List.map_congr_left fun access _ => payload.plain_body python access

end Client
end Pype
