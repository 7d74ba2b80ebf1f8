import Mathlib.Data.List.Basic

/-!
# Text as bytes

The bytes of a text in UTF-8, and the text that bytes stand for, if they do.  Decoding
is strict: different bytes never stand for one text.
-/

namespace Pype
namespace Foundation
namespace Utf8

def encode (text : String) : List UInt8 := text.toUTF8.toList

def decode (bytes : List UInt8) : Option String :=
  String.fromUTF8? ⟨bytes.toArray⟩

theorem toList_loop (data : ByteArray) (i : Nat) (taken : List UInt8) :
    ByteArray.toList.loop data i taken = taken.reverse ++ data.data.toList.drop i := by
  fun_induction ByteArray.toList.loop data i taken with
  | case1 i taken hlt ih =>
      have hget : data.data.toList.drop i =
          data.get! i :: data.data.toList.drop (i + 1) := by
        have hlength : i < data.data.toList.length := hlt
        rw [List.drop_eq_getElem_cons hlength]
        congr 1
        exact (getElem!_pos data.data i hlt).symm
      rw [ih, hget, List.reverse_cons, List.append_assoc]
      rfl
  | case2 i taken hge =>
      rw [List.drop_eq_nil_of_le (Nat.le_of_not_lt hge), List.append_nil]

theorem toList_eq (data : ByteArray) : data.toList = data.data.toList := by
  have h := toList_loop data 0 []
  rw [List.reverse_nil, List.nil_append, List.drop_zero] at h
  exact h

theorem mk_toList (data : ByteArray) : (⟨data.toList.toArray⟩ : ByteArray) = data := by
  rw [toList_eq, Array.toArray_toList]

/-- Bytes stand for a text exactly if they are its bytes. -/
theorem decode_eq_some_iff {bytes : List UInt8} {text : String} :
    decode bytes = some text <-> bytes = encode text := by
  unfold decode String.fromUTF8? encode
  constructor
  · intro h
    split at h
    · cases h
      show bytes = (ByteArray.mk bytes.toArray).toList
      rw [toList_eq]
    · cases h
  · intro heq
    subst heq
    rw [mk_toList, dif_pos (by exact text.isValidUTF8)]
    rfl

end Utf8
end Foundation
end Pype
