import Mathlib.Data.List.DropRight

/-!
# Text in message headers

A header value is sent as latin-1 bytes.  A character outside latin-1 cannot be
encoded, a line break is refused, and the reader does not see blanks at either
end of the value.
-/

namespace Pype
namespace Foundation
namespace HeaderText

/-- A blank, which is not preserved at the ends of a header value. -/
def IsBlank (c : Char) : Prop := c = ' ' ∨ c = '\t'

instance (c : Char) : Decidable (IsBlank c) :=
  inferInstanceAs (Decidable (_ ∨ _))

/-- A character that a header value may contain. -/
def Allowed (c : Char) : Prop := c.toNat < 256 ∧ c ≠ '\r' ∧ c ≠ '\n'

instance (c : Char) : Decidable (Allowed c) :=
  inferInstanceAs (Decidable (_ ∧ _ ∧ _))

def Encodable (value : String) : Prop :=
  forall c, c ∈ value.toList -> Allowed c

instance (value : String) : Decidable (Encodable value) :=
  List.decidableBAll Allowed value.toList

def trim (cs : List Char) : List Char :=
  (cs.dropWhile fun c => decide (IsBlank c)).rdropWhile fun c => decide (IsBlank c)

def Trimmed (value : String) : Prop := trim value.toList = value.toList

instance (value : String) : Decidable (Trimmed value) :=
  inferInstanceAs (Decidable (_ = _))

/-- A value that a header carries unchanged. -/
def Faithful (value : String) : Prop := Encodable value ∧ Trimmed value

instance (value : String) : Decidable (Faithful value) :=
  inferInstanceAs (Decidable (_ ∧ _))

/-- The bytes sent for a value, if it can be sent. -/
def encode (value : String) : Option (List UInt8) :=
  if Encodable value then
    some (value.toList.map fun c => UInt8.ofNat c.toNat)
  else none

/-- The text read from the bytes of a value. -/
def decode (bytes : List UInt8) : String :=
  String.ofList (trim (bytes.map fun b => Char.ofNat b.toNat))

theorem encode_isSome_iff {value : String} :
    (encode value).isSome <-> Encodable value := by
  unfold encode
  split <;> simp_all

theorem ofNat_toNat_byte {c : Char} (h : Allowed c) :
    Char.ofNat (UInt8.ofNat c.toNat).toNat = c := by
  have hbyte : (UInt8.ofNat c.toNat).toNat = c.toNat := by
    rw [UInt8.toNat_ofNat']
    exact Nat.mod_eq_of_lt h.left
  rw [hbyte, Char.ofNat_toNat]

/-- A reader sees what was sent, without the blanks at its ends. -/
theorem decode_of_encode {value : String} {bytes : List UInt8}
    (h : encode value = some bytes) :
    decode bytes = String.ofList (trim value.toList) := by
  unfold encode at h
  split at h
  · rename_i hencodable
    cases h
    have hmap :
        (value.toList.map fun c => UInt8.ofNat c.toNat).map
            (fun b => Char.ofNat b.toNat) = value.toList := by
      rw [List.map_map]
      exact (List.map_congr_left fun c hc =>
        ofNat_toNat_byte (hencodable c hc)).trans (List.map_id _)
    rw [decode, hmap]
  · cases h

/-- A value is read back unchanged exactly when it has no blanks at its ends. -/
theorem decode_eq_iff {value : String} {bytes : List UInt8}
    (h : encode value = some bytes) :
    decode bytes = value <-> Trimmed value := by
  rw [decode_of_encode h, Trimmed]
  constructor
  · intro heq
    have hlist := congrArg String.toList heq
    simpa using hlist
  · intro htrim
    rw [htrim, String.ofList_toList]

theorem exists_encode_of_encodable {value : String} (h : Encodable value) :
    exists bytes, encode value = some bytes := by
  unfold encode
  rw [if_pos h]
  exact ⟨_, rfl⟩

theorem faithful_of_visible {value : String}
    (h : forall c, c ∈ value.toList -> Allowed c ∧ ¬ IsBlank c) : Faithful value := by
  constructor
  · exact fun c hc => (h c hc).left
  · have hleft : value.toList.dropWhile (fun c => decide (IsBlank c)) =
        value.toList := by
      rw [List.dropWhile_eq_self_iff]
      intro hlength
      simpa using (h _ (List.getElem_mem hlength)).right
    unfold Trimmed trim
    rw [hleft, List.rdropWhile_eq_self_iff]
    intro hne
    simpa using (h _ (List.getLast_mem hne)).right

theorem Faithful.decode {value : String} {bytes : List UInt8} (h : Faithful value)
    (hencode : encode value = some bytes) : HeaderText.decode bytes = value :=
  (decode_eq_iff hencode).mpr h.right

end HeaderText
end Foundation
end Pype
