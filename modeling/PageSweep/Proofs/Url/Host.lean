import Mathlib
import PageSweep.Proofs.Options.Precedence
import PageSweep.Url.Reader

/-!
# Hosts That Are Read

A host of the web is an address, or a name in its ASCII form that is not empty. For a name
in ASCII the reader sees to it, and for any other name this is all that is asked of the
mapping. So whatever mapping a URL is read with, no delimiter gets into its authority by
way of the host.

## Main definitions

* `Host.Proper`: A host to connect to.

## Theorems

* `isForm_of_form?`: The ASCII form of a name.
* `proper_of_readDomain`: The host of a web scheme.
* `proper_of_authority`: The host of an authority.
-/

namespace PageSweep

namespace Url

open Options (bind_eq_ok_iff)

variable (idna : Idna)

/-- A host to connect to: an address, or a name in its ASCII form. -/
def Host.Proper : Host → Prop
  | .name text => text ≠ "" ∧ Domain.isForm text.toList = true
  | .ipv4 _ => True
  | .ipv6 _ => True

theorem Domain.isForm_of_form? (name form : String) (h : Domain.form? idna name = some form) :
    Domain.isForm form.toList = true := by
  unfold Domain.form? at h
  by_cases hascii : name.toList.all (fun c => c.toNat < 0x80) = true
  · rw [if_pos hascii] at h
    dsimp only at h
    rw [Option.ite_none_right_eq_some, Option.some.injEq, Bool.and_eq_true] at h
    rcases h with ⟨⟨hchars, -⟩, rfl⟩
    rw [String.toList_ofList, Domain.isForm, List.all_eq_true]
    intro c hc
    rcases List.mem_map.mp hc with ⟨d, -, rfl⟩
    rw [List.all_eq_true.mp hchars _ hc, Char.isUpper_toLower_eq_false]
    rfl
  · rw [if_neg hascii] at h
    exact idna.isForm name form h

namespace Host

theorem proper_of_readBracketed (text : List Char) (host : Host)
    (h : readBracketed text = .ok host) : host.Proper := by
  unfold readBracketed at h
  split at h
  · split at h
    · cases h
      trivial
    · cases h
  · cases h

theorem proper_of_readNumbers (domain : List Char) (host : Host)
    (h : readNumbers domain = .ok host) : host.Proper := by
  unfold readNumbers at h
  dsimp only at h
  split at h
  · cases h
    trivial
  · cases h

theorem proper_of_readDomain (text : List Char) (host : Host)
    (h : readDomain idna text = .ok host) : host.Proper := by
  unfold readDomain at h
  split at h
  · exact proper_of_readBracketed _ host h
  · split at h
    · cases h
    · rename_i form hform
      by_cases hempty : form.isEmpty = true
      · rw [if_pos hempty] at h
        cases h
      rw [if_neg hempty] at h
      by_cases hnumber : endsInNumber form.toList = true
      · rw [if_pos hnumber] at h
        exact proper_of_readNumbers _ host h
      · rw [if_neg hnumber] at h
        cases h
        exact ⟨fun hnil => hempty (String.isEmpty_iff.mpr hnil),
          Domain.isForm_of_form? idna _ form hform⟩

end Host

open Reader

theorem proper_of_host (text rest : List Char) (host : Host)
    (h : Reader.host idna true text = .ok (host, rest)) : host.Proper := by
  unfold Reader.host at h
  dsimp only at h
  by_cases hempty : true = true ∧ (hostText false text).isEmpty = true
  · rw [if_pos hempty] at h
    cases h
  · rw [if_neg hempty, if_pos rfl, bind_eq_ok_iff] at h
    rcases h with ⟨read, hread, h⟩
    cases h
    exact Host.proper_of_readDomain idna _ _ hread

/-- An authority of a scheme that connects to a host has one. -/
theorem proper_of_authority (scheme : String) (text rest : List Char) (a : Authority)
    (hscheme : connects scheme = true) (h : Reader.authority idna scheme text = .ok (a, rest)) :
    a.host.Proper := by
  unfold Reader.authority at h
  simp only [hscheme, bind_eq_ok_iff] at h
  rcases h with ⟨⟨⟨username, password⟩, remaining⟩, -, ⟨host, after⟩, hhost, h⟩
  have hproper := proper_of_host idna _ _ _ hhost
  -- What is left are two refusals and the port.
  by_cases hport : host.isEmpty = true ∧ after.head? = some ':'
  · rw [if_pos hport] at h
    cases h
  rw [if_neg hport] at h
  by_cases huser : host.isEmpty = true ∧ (password.isSome = true ∨ (!username.isEmpty) = true)
  · rw [if_pos huser] at h
    cases h
  rw [if_neg huser] at h
  split at h
  · rw [bind_eq_ok_iff] at h
    rcases h with ⟨⟨port, others⟩, -, h⟩
    cases h
    exact hproper
  · cases h
    exact hproper

end Url

end PageSweep
