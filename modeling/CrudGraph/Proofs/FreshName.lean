/-
The names that are made from what a caller gave. Escaping is not injective, and the number behind a
name may make it the escape of another text, so that two names differ cannot be read off the texts
they come from. It follows from the search alone: the candidates for a name are all different
(`candidate_injective`), there is one more of them than there are names in use, so one of them is
free, and the search ends at the least that is (`firstFree_least`). What a supply hands out is then
new to it (`settles_allocate`), whatever was handed out before and for whatever text.

That a name comes out at all depends on what it begins with and on nothing else: everything behind
that is made of characters that a name may go on with (`allocate_isOk`).
-/
import CrudGraph.Proofs.Outcome
import CrudGraph.Request.Batch
import Mathlib.Data.List.Nodup

namespace CrudGraph.FreshName

-- =========================================================== candidates

/-- Different numbers lead to different candidates for one name. -/
theorem candidate_injective (base : String) : Function.Injective (candidate base) := by
  -- the number is read back from the digits behind the base
  have hdigits : ∀ {m n : Nat}, (toString m).toList = (toString n).toList → m = n := by
    intro m n h
    have hm := Nat.ofDigitChars_ten_toDigits (n := m)
    rw [← Nat.toList_repr, ← Nat.toString_eq_repr, h, Nat.toString_eq_repr, Nat.toList_repr,
      Nat.ofDigitChars_ten_toDigits] at hm
    exact hm.symm
  intro m n h
  have hlists := congrArg String.toList h
  unfold candidate at hlists
  split at hlists
  · next hm =>
    split at hlists
    · next hn => omega
    · have hlen := congrArg List.length hlists
      simp at hlen
  · split at hlists
    · have hlen := congrArg List.length hlists
      simp at hlen
    · simp only [String.toList_append] at hlists
      exact hdigits (List.append_cancel_left hlists)

/-- The search ends at a candidate behind none but candidates in use, and gives up its bound only
where all of them were. -/
theorem firstFree_spec (used : List String) (base : String) (number count : Nat) :
    ∃ k, number ≤ k ∧ k ≤ number + count
      ∧ firstFree used base number count = candidate base k
      ∧ (∀ j, number ≤ j → j < k → candidate base j ∈ used)
      ∧ (k < number + count → candidate base k ∉ used) := by
  induction count generalizing number with
  | zero =>
      exact ⟨number, Nat.le_refl _, Nat.le_refl _, rfl, fun j _ _ => by omega, fun _ => by omega⟩
  | succ count ih =>
      rw [firstFree]
      split
      · next hused =>
        obtain ⟨k, hle, hbound, heq, hbefore, hfree⟩ := ih (number + 1)
        refine ⟨k, by omega, by omega, heq, fun j hj hjk => ?_, fun hk => hfree (by omega)⟩
        rcases Nat.eq_or_lt_of_le hj with rfl | hlt
        · exact List.contains_iff_mem.1 hused
        · exact hbefore j hlt hjk
      · next hfree =>
        refine ⟨number, Nat.le_refl _, by omega, rfl, fun j _ _ => by omega, fun _ hmem => ?_⟩
        exact hfree (List.contains_iff_mem.2 hmem)

/-- The search finds the least candidate that is free. With as many steps as there are names in
use, there always is one. -/
theorem firstFree_least (used : List String) (base : String) :
    ∃ k, k ≤ used.length ∧ firstFree used base 0 used.length = candidate base k
      ∧ candidate base k ∉ used ∧ ∀ j, j < k → candidate base j ∈ used := by
  obtain ⟨k, -, hbound, heq, hbefore, hfree⟩ := firstFree_spec used base 0 used.length
  have hbefore : ∀ j, j < k → candidate base j ∈ used := fun j => hbefore j (Nat.zero_le j)
  refine ⟨k, by omega, heq, fun hmem => ?_, hbefore⟩
  -- were this one in use too, one more different names would be in use than there are
  have hk : k = used.length := by
    by_contra hne
    exact hfree (by omega) hmem
  have hsub : (List.range (k + 1)).map (candidate base) ⊆ used := by
    intro name hname
    obtain ⟨j, hj, rfl⟩ := List.mem_map.1 hname
    rcases Nat.lt_or_eq_of_le (Nat.le_of_lt_succ (List.mem_range.1 hj)) with hlt | rfl
    · exact hbefore j hlt
    · exact hmem
  have hnodup : ((List.range (k + 1)).map (candidate base)).Nodup :=
    List.nodup_range.map (candidate_injective base)
  have hlen := hnodup.length_le_of_subset hsub
  rw [List.length_map, List.length_range] at hlen
  omega

/-- What the search finds is not in use. -/
theorem firstFree_not_mem (used : List String) (base : String) :
    firstFree used base 0 used.length ∉ used := by
  obtain ⟨k, -, heq, hfree, -⟩ := firstFree_least used base
  rw [heq]
  exact hfree

-- ================================================================ supply

/-- A name that is handed out was not in use, and from then on it is. -/
theorem settles_allocate (used : List String) (lead raw : String) :
    Settles (allocate used lead raw) fun handed =>
      ∃ name : Name, handed = (name, name.text :: used) ∧ name.text ∉ used := by
  refine Settles.bind (settles_ofText _) fun name hname => ?_
  refine Settles.ok ⟨name, ?_, ?_⟩
  · rw [hname]
  · rw [hname]
    exact firstFree_not_mem used _

-- ============================================================== validity

/-- Characters that a name may go on with leave a name a name. -/
theorem isName_append {lead parts : List Char} (hlead : isName lead = true)
    (hparts : parts.all isNamePart = true) : isName (lead ++ parts) = true := by
  cases lead with
  | nil => cases hlead
  | cons c rest =>
      simp only [isName, Bool.and_eq_true] at hlead
      simp only [List.cons_append, isName, List.all_append, Bool.and_eq_true]
      exact ⟨hlead.1, hlead.2, hparts⟩

/-- Every character of an escaped text may stand in a name. -/
theorem escape_isNamePart (raw : String) : (escape raw).toList.all isNamePart = true := by
  rw [escape, String.toList_map, List.all_map, List.all_eq_true]
  intro c _
  show isNamePart (if isNamePart c then c else '_') = true
  split
  · next hc => exact hc
  · rfl

/-- Every digit of a number may stand in a name. -/
theorem toString_isNamePart (n : Nat) : (toString n).toList.all isNamePart = true := by
  rw [Nat.toString_eq_repr, Nat.toList_repr, List.all_eq_true]
  intro c hc
  have hdigit : c.isDigit = true := Nat.isDigit_of_mem_toDigits (by decide) (by decide) hc
  simp [isNamePart, Char.isAlphanum, hdigit]

/-- Every candidate that begins like a name is a name. -/
theorem candidate_isName {base : String} (hbase : isName base.toList = true) (number : Nat) :
    isName (candidate base number).toList = true := by
  unfold candidate
  split
  · exact hbase
  · rw [String.toList_append, String.toList_append]
    exact isName_append (isName_append hbase rfl) (toString_isNamePart number)

/-- From a beginning that is a name itself, a name comes out for every text. -/
theorem allocate_isOk {lead : String} (hlead : isName lead.toList = true) (used : List String)
    (raw : String) :
    ∃ name : Name, allocate used lead raw = .ok (name, name.text :: used) ∧ name.text ∉ used := by
  have hbase : isName (lead ++ escape raw).toList = true := by
    rw [String.toList_append]
    exact isName_append hlead (escape_isNamePart raw)
  obtain ⟨k, -, heq, -⟩ := firstFree_least used (lead ++ escape raw)
  have hname : isName (firstFree used (lead ++ escape raw) 0 used.length).toList = true := by
    rw [heq]
    exact candidate_isName hbase k
  obtain ⟨name, hok⟩ := ofText_isOk_iff.2 hname
  have hallocate : ∃ handed, allocate used lead raw = .ok handed :=
    exists_ok_bind hok ⟨_, rfl⟩
  obtain ⟨handed, hhanded⟩ := hallocate
  obtain ⟨name, rfl, hfresh⟩ := (settles_allocate used lead raw).of_eq_ok hhanded
  exact ⟨name, hhanded, hfresh⟩

end CrudGraph.FreshName
