import Mathlib.Data.List.Induction

/-!
# IPv4 addresses and networks

An address has one text: four octets in decimal, without leading zeros, between dots.
A network is an address and the number of its leading bits that count.
-/

namespace Pype
namespace Foundation
namespace IPv4

/-!
## Decimal numbers
-/

/-- Digits of a number: at least one, and no leading zero unless it is the only one. -/
def Canonical (cs : List Char) : Prop :=
  cs ≠ [] ∧ (forall c, c ∈ cs -> c.isDigit = true) ∧ (cs.head? = some '0' -> cs = ['0'])

theorem isDigit_bounds {c : Char} (h : c.isDigit = true) : 48 ≤ c.toNat ∧ c.toNat ≤ 57 := by
  rw [Char.isDigit_iff_toNat] at h
  exact h

theorem digitChar_of_isDigit {c : Char} (h : c.isDigit = true) :
    (c.toNat - 48).digitChar = c := by
  have hbounds := isDigit_bounds h
  have hlt : c.toNat - 48 < 10 := by omega
  apply Char.toNat_inj.mp
  have hsub := Nat.toNat_digitChar_sub_48_of_lt_ten hlt
  have hdigit : (c.toNat - 48).digitChar.isDigit = true := by
    rw [Nat.isDigit_digitChar]
    exact decide_eq_true hlt
  have hbounds' := isDigit_bounds hdigit
  omega

theorem toDigits_ofDigitChars {cs : List Char} (h : Canonical cs) :
    Nat.toDigits 10 (Nat.ofDigitChars 10 cs 0) = cs := by
  induction cs using List.reverseRecOn with
  | nil => exact absurd rfl h.left
  | append_singleton init c ih =>
      rcases h with ⟨_, hdigits, hzero⟩
      have hc : c.isDigit = true := hdigits c (by simp)
      have hbounds := isDigit_bounds hc
      have hlast : Nat.toDigits 10 (c.toNat - 48) = [c] := by
        rw [Nat.toDigits_of_lt_base (by omega), digitChar_of_isDigit hc]
      rw [Nat.ofDigitChars_append, Nat.ofDigitChars_cons, Nat.ofDigitChars_nil]
      cases hinit : init with
      | nil =>
          rw [Nat.ofDigitChars_nil, Nat.mul_zero, Nat.zero_add]
          exact hlast
      | cons first rest =>
          rw [← hinit]
          -- the first digit of several is no zero
          have hfirst : init.head? ≠ some '0' := by
            intro hhead
            have hsingle := hzero (by rw [List.head?_append, hhead]; rfl)
            have hlength := congrArg List.length hsingle
            rw [hinit] at hlength
            simp at hlength
          have hcanonical : Canonical init := by
            refine ⟨by simp [hinit], ?_, fun hhead => absurd hhead hfirst⟩
            exact fun c' hc' => hdigits c' (List.mem_append_left _ hc')
          have hdigits' := ih hcanonical
          have hpos : 0 < Nat.ofDigitChars 10 init 0 := by
            apply Nat.pos_of_ne_zero
            intro hnone
            rw [hnone, Nat.toDigits_zero] at hdigits'
            exact hfirst (by rw [← hdigits']; rfl)
          calc
            Nat.toDigits 10 (10 * Nat.ofDigitChars 10 init 0 + (c.toNat - 48)) =
                Nat.toDigits 10 (Nat.ofDigitChars 10 init 0) ++
                  Nat.toDigits 10 (c.toNat - 48) :=
              (Nat.toDigits_append_toDigits (by decide) hpos (by omega)).symm
            _ = init ++ [c] := by rw [hdigits', hlast]

theorem canonical_toDigits (n : Nat) : Canonical (Nat.toDigits 10 n) := by
  refine ⟨Nat.toDigits_ne_nil, ?_, ?_⟩
  · exact fun c hc => Nat.isDigit_of_mem_toDigits (by decide) (by decide) hc
  · induction n using Nat.strongRecOn with
    | _ n ih =>
        intro hhead
        by_cases hlt : n < 10
        · rw [Nat.toDigits_of_lt_base hlt] at hhead ⊢
          rw [Option.some.inj hhead]
        · rw [Nat.toDigits_of_base_le (by decide) (by omega), List.head?_append,
            List.head?_eq_some_head Nat.toDigits_ne_nil, Option.some_or] at hhead
          have hzero := ih (n / 10) (by omega)
            ((List.head?_eq_some_head Nat.toDigits_ne_nil).trans hhead)
          have hvalue : n / 10 = 0 := by
            have hread := @Nat.ofDigitChars_ten_toDigits (n / 10)
            rw [hzero] at hread
            exact hread.symm
          omega

/-!
## Addresses
-/

structure Address where
  first : Fin 256
  second : Fin 256
  third : Fin 256
  fourth : Fin 256
deriving DecidableEq

def digits (octet : Fin 256) : List Char := Nat.toDigits 10 octet.val

def Address.digits (x : Address) : List (List Char) :=
  [IPv4.digits x.first, IPv4.digits x.second, IPv4.digits x.third, IPv4.digits x.fourth]

def Address.value (x : Address) : Nat :=
  ((x.first.val * 256 + x.second.val) * 256 + x.third.val) * 256 + x.fourth.val

def Address.text (x : Address) : String :=
  String.ofList (['.'].intercalate x.digits)

/-- One octet: one to three digits, without leading zeros. -/
def parseOctet (cs : List Char) : Option (Fin 256) :=
  if cs = [] then none
  else if !cs.all Char.isDigit then none
  else if 3 < cs.length then none
  else if cs ≠ ['0'] ∧ cs.head? = some '0' then none
  else if h : Nat.ofDigitChars 10 cs 0 < 256 then some ⟨Nat.ofDigitChars 10 cs 0, h⟩
  else none

/-- The address that a text stands for. -/
def parse (text : String) : Option Address :=
  match text.toList.splitOn '.' with
  | [first, second, third, fourth] =>
      match parseOctet first, parseOctet second, parseOctet third, parseOctet fourth with
      | some first, some second, some third, some fourth =>
          some ⟨first, second, third, fourth⟩
      | _, _, _, _ => none
  | _ => none

theorem parseOctet_eq_some_iff {cs : List Char} {octet : Fin 256} :
    parseOctet cs = some octet <-> cs = digits octet := by
  constructor
  · intro h
    unfold parseOctet at h
    split at h
    · cases h
    · rename_i hne
      split at h
      · cases h
      · rename_i hdigits
        split at h
        · cases h
        · split at h
          · cases h
          · rename_i hzero
            split at h
            · cases h
              apply (toDigits_ofDigitChars ⟨hne, by simpa using hdigits, ?_⟩).symm
              intro hhead
              by_contra hnot
              exact hzero ⟨hnot, hhead⟩
            · cases h
  · intro heq
    subst heq
    have hcanonical := canonical_toDigits octet.val
    have hlength : (Nat.toDigits 10 octet.val).length ≤ 3 :=
      (Nat.length_toDigits_le_iff (by decide) (by decide)).mpr
        (by have hlt := octet.isLt; omega)
    unfold parseOctet digits
    rw [if_neg hcanonical.left, if_neg (by simpa using hcanonical.right.left),
      if_neg (by omega), if_neg]
    · simp only [Nat.ofDigitChars_ten_toDigits, octet.isLt, dif_pos]
    · intro hex
      rcases hex with ⟨hne, hhead⟩
      exact hne (hcanonical.right.right hhead)

theorem isDigit_of_mem_digits {octet : Fin 256} {c : Char} (h : c ∈ digits octet) :
    c.isDigit = true :=
  Nat.isDigit_of_mem_toDigits (by decide) (by decide) h

theorem dot_not_mem_digits (octet : Fin 256) : '.' ∉ digits octet := by
  intro h
  cases isDigit_of_mem_digits h

theorem exists_of_mem_digits {x : Address} {cs : List Char} (h : cs ∈ x.digits) :
    exists octet, cs = digits octet := by
  simp only [Address.digits, List.mem_cons, List.not_mem_nil, or_false] at h
  rcases h with rfl | rfl | rfl | rfl
  · exact ⟨x.first, rfl⟩
  · exact ⟨x.second, rfl⟩
  · exact ⟨x.third, rfl⟩
  · exact ⟨x.fourth, rfl⟩

/-- A text stands for an address exactly if it is the text of the address. -/
theorem parse_eq_some_iff {text : String} {x : Address} :
    parse text = some x <-> text = x.text := by
  constructor
  · intro h
    unfold parse at h
    split at h
    · rename_i first second third fourth hsplit
      split at h
      · rename_i a b c d ha hb hc hd
        cases h
        have hjoin : ['.'].intercalate (text.toList.splitOn '.') = text.toList :=
          List.intercalate_splitOn '.'
        rw [hsplit, parseOctet_eq_some_iff.mp ha, parseOctet_eq_some_iff.mp hb,
          parseOctet_eq_some_iff.mp hc, parseOctet_eq_some_iff.mp hd] at hjoin
        show text = String.ofList (['.'].intercalate
          [digits a, digits b, digits c, digits d])
        rw [hjoin, String.ofList_toList]
      · cases h
    · cases h
  · intro heq
    subst heq
    have hsplit : x.text.toList.splitOn '.' = x.digits := by
      unfold Address.text
      rw [String.toList_ofList]
      apply List.splitOn_intercalate
      · intro cs hcs
        rcases exists_of_mem_digits hcs with ⟨octet, rfl⟩
        exact dot_not_mem_digits octet
      · simp [Address.digits]
    have hparse : forall octet, parseOctet (digits octet) = some octet :=
      fun octet => parseOctet_eq_some_iff.mpr rfl
    unfold parse
    rw [hsplit]
    simp only [Address.digits, hparse]

theorem text_ne_empty (x : Address) : x.text ≠ "" := by
  intro h
  have hparse := parse_eq_some_iff.mpr (rfl : x.text = x.text)
  rw [h, show parse "" = none from rfl] at hparse
  cases hparse

theorem mem_text {x : Address} {c : Char} (h : c ∈ x.text.toList) :
    c = '.' ∨ c.isDigit = true := by
  unfold Address.text at h
  simp only [String.toList_ofList, Address.digits, List.intercalate_cons_cons,
    List.intercalate_singleton, List.mem_append, List.mem_singleton] at h
  rcases h with (h | rfl) | (h | rfl) | (h | rfl) | h
  all_goals first | exact Or.inl rfl | exact Or.inr (isDigit_of_mem_digits h)

/-!
## Networks
-/

/-- A network: the addresses that agree with its own in the leading bits. -/
structure Network where
  address : Address
  prefixLength : Nat

def Network.Contains (network : Network) (x : Address) : Prop :=
  x.value >>> (32 - network.prefixLength) =
    network.address.value >>> (32 - network.prefixLength)

instance (network : Network) (x : Address) : Decidable (network.Contains x) :=
  inferInstanceAs (Decidable (_ = _))

end IPv4
end Foundation
end Pype
