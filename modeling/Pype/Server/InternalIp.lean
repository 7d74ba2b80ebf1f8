import Mathlib.Data.Fin.Basic
import Pype.Foundation.IPv4
import Pype.Server.Messages

/-!
# The address that a server advertises

The default of `internal_ip`: the first address of the host that is private, among
those that its name resolves to and the one that it sends from.
-/

namespace Pype
namespace Server

open Foundation

def rfc1918Networks : List IPv4.Network :=
  [⟨⟨10, 0, 0, 0⟩, 8⟩, ⟨⟨172, 16, 0, 0⟩, 12⟩, ⟨⟨192, 168, 0, 0⟩, 16⟩]

/-- What the host says: the addresses that its name resolves to, and the address of a
socket that sends to the internet.  Either question can fail. -/
structure Host where
  resolved : Option (List String)
  probed : Option String

def Host.candidates (host : Host) : List String :=
  host.resolved.getD [] ++ host.probed.toList

def isInternal (candidate : String) : Bool :=
  match IPv4.parse candidate with
  | none => false
  | some address => rfc1918Networks.any fun network => decide (network.Contains address)

/-- `detect_internal_ip`. -/
def detectInternalIp (host : Host) : String :=
  (host.candidates.find? isInternal).getD "127.0.0.1"

/-!
## Which address it is
-/

def Private (x : IPv4.Address) : Prop :=
  x.first = 10 ∨ (x.first = 172 ∧ 16 ≤ x.second ∧ x.second ≤ 31) ∨
    (x.first = 192 ∧ x.second = 168)

def loopback : IPv4.Address := ⟨127, 0, 0, 1⟩

theorem any_contains_iff (x : IPv4.Address) :
    (rfc1918Networks.any fun network => decide (network.Contains x)) = true <->
      Private x := by
  rcases x with ⟨⟨a, ha⟩, ⟨b, hb⟩, ⟨c, hc⟩, ⟨d, hd⟩⟩
  simp only [rfc1918Networks, List.any_cons, List.any_nil, Bool.or_false, Bool.or_eq_true,
    decide_eq_true_eq]
  simp only [IPv4.Network.Contains, IPv4.Address.value, Private, Fin.ext_iff, Fin.le_def,
    Fin.coe_ofNat_eq_mod, Nat.reduceSub]
  omega

theorem isInternal_iff {candidate : String} :
    isInternal candidate = true <-> exists x, Private x ∧ candidate = x.text := by
  unfold isInternal
  constructor
  · intro h
    split at h
    · cases h
    · rename_i x hparse
      exact ⟨x, (any_contains_iff x).mp h, IPv4.parse_eq_some_iff.mp hparse⟩
  · intro hex
    rcases hex with ⟨x, hprivate, htext⟩
    rw [IPv4.parse_eq_some_iff.mpr htext]
    exact (any_contains_iff x).mpr hprivate

theorem faithful_text (x : IPv4.Address) : HeaderText.Faithful x.text := by
  apply HeaderText.faithful_of_visible
  intro c hc
  rcases IPv4.mem_text hc with rfl | hdigit
  · decide
  · have hbounds := IPv4.isDigit_bounds hdigit
    refine ⟨⟨by omega, ?_, ?_⟩, ?_⟩
    · intro heq
      subst heq
      cases hdigit
    · intro heq
      subst heq
      cases hdigit
    · intro hex
      rcases hex with rfl | rfl <;> cases hdigit

theorem loopback_text : loopback.text = "127.0.0.1" := by
  decide +kernel

/-- What is advertised is the text of an address. -/
theorem exists_detectInternalIp (host : Host) :
    exists x, (Private x ∨ x = loopback) ∧ detectInternalIp host = x.text := by
  unfold detectInternalIp
  cases hfind : host.candidates.find? isInternal with
  | none => exact ⟨loopback, Or.inr rfl, loopback_text.symm⟩
  | some candidate =>
      rcases isInternal_iff.mp (List.find?_some hfind) with ⟨x, hprivate, htext⟩
      exact ⟨x, Or.inl hprivate, htext⟩

/-- The advertised address is the first private one among the candidates, or loopback if
none of them is private. -/
theorem detectInternalIp_first (host : Host) :
    (exists x before after, Private x ∧ detectInternalIp host = x.text ∧
      host.candidates = before ++ x.text :: after ∧
        forall y, Private y -> y.text ∉ before) ∨
    (detectInternalIp host = loopback.text ∧
      forall y, Private y -> y.text ∉ host.candidates) := by
  unfold detectInternalIp
  cases hfind : host.candidates.find? isInternal with
  | none =>
      right
      refine ⟨loopback_text.symm, ?_⟩
      intro y hprivate hmem
      exact List.find?_eq_none.mp hfind y.text hmem (isInternal_iff.mpr ⟨y, hprivate, rfl⟩)
  | some candidate =>
      left
      rcases List.find?_eq_some_iff_append.mp hfind with
        ⟨hinternal, before, after, hsplit, hbefore⟩
      rcases isInternal_iff.mp hinternal with ⟨x, hprivate, rfl⟩
      refine ⟨x, before, after, hprivate, rfl, hsplit, ?_⟩
      intro y hprivate' hmem
      have hnot := hbefore y.text hmem
      rw [isInternal_iff.mpr ⟨y, hprivate', rfl⟩] at hnot
      cases hnot

end Server
end Pype
