/-
# Records by number

Records are put among others one at a time, each before the first one with a greater number. If all
numbers are positive and none is there twice, the result is the only ascending order of the records, so
it does not depend on the order in which they came.
-/

import DynamicContent.Site.Json
import Mathlib.Data.List.Nodup
import Mathlib.Data.List.Perm.Basic

namespace DynamicContent.Site

variable {α : Type} {id : α → Nat} {records others indexed : List α}

theorem insertById_perm (record : α) (records : List α) :
    (insertById id record records).Perm (record :: records) := by
  induction records with
  | nil => exact .refl _
  | cons r rest ih =>
      rw [insertById]
      split
      · exact .refl _
      · exact (ih.cons r).trans (.swap record r rest)

theorem insertById_sorted {record : α} (hnew : ∀ r ∈ records, id r ≠ id record)
    (hsorted : records.Pairwise fun r r' => id r < id r') :
    (insertById id record records).Pairwise fun r r' => id r < id r' := by
  induction records with
  | nil => exact List.pairwise_singleton _ record
  | cons r rest ih =>
      obtain ⟨hr, hnew⟩ := List.forall_mem_cons.mp hnew
      obtain ⟨hfirst, hrest⟩ := List.pairwise_cons.mp hsorted
      rw [insertById]
      split
      · next hlt =>
          refine List.pairwise_cons.mpr ⟨List.forall_mem_cons.mpr ⟨hlt, fun r' hr' => ?_⟩, hsorted⟩
          exact Nat.lt_trans hlt (hfirst r' hr')
      · next hge =>
          refine List.pairwise_cons.mpr ⟨fun r' hr' => ?_, ih hnew hrest⟩
          rcases List.mem_cons.mp ((insertById_perm record rest).mem_iff.mp hr') with rfl | hr'
          · omega
          · exact hfirst r' hr'

/-- There is one ascending order of some records. -/
theorem eq_of_perm_of_sorted {sorted sorted' : List α} (h : sorted.Perm sorted')
    (hsorted : sorted.Pairwise fun r r' => id r < id r')
    (hsorted' : sorted'.Pairwise fun r r' => id r < id r') : sorted = sorted' :=
  h.eq_of_pairwise (fun _ _ _ _ hlt hgt => absurd hgt (Nat.lt_asymm hlt)) hsorted hsorted'

theorem nodup_of_sorted (h : indexed.Pairwise fun r r' => id r < id r') :
    (indexed.map id).Nodup :=
  List.pairwise_map.mpr (h.imp Nat.ne_of_lt)

/-- Records can be put among others that are in order exactly if their numbers are positive and none is
there twice, and the result is all of them in order. -/
theorem foldlM_insertById_eq_ok_iff {start : List α}
    (hstart : start.Pairwise fun r r' => id r < id r') :
    records.foldlM (fun indexed record =>
        if id record = 0 then Except.error SiteDocumentError.idNotPositive
        else if indexed.any fun r => id r = id record then .error (.duplicateId (id record))
        else Except.ok (insertById id record indexed)) start = Except.ok indexed ↔
      (∀ r ∈ records, id r ≠ 0) ∧ ((start ++ records).map id).Nodup ∧
        indexed.Perm (start ++ records) ∧ indexed.Pairwise fun r r' => id r < id r' := by
  induction records generalizing start with
  | nil =>
      rw [List.append_nil]
      constructor
      · intro h
        obtain rfl := Except.ok.inj h
        exact ⟨List.forall_mem_nil _, nodup_of_sorted hstart, .refl _, hstart⟩
      · rintro ⟨-, -, hperm, hsorted⟩
        exact congrArg Except.ok (eq_of_perm_of_sorted hperm.symm hstart hsorted)
  | cons record rest ih =>
      rw [List.foldlM_cons, List.forall_mem_cons]
      by_cases hzero : id record = 0
      · rw [if_pos hzero]
        exact iff_of_false (fun h => by contradiction) fun h => h.1.1 hzero
      · rw [if_neg hzero]
        by_cases htwice : (start.any fun r => id r = id record) = true
        · rw [if_pos htwice]
          obtain ⟨r, hr, hsame⟩ := List.any_eq_true.mp htwice
          refine iff_of_false (fun h => by contradiction) fun h => ?_
          have hnodup := h.2.1
          rw [List.map_append, List.map_cons] at hnodup
          exact List.disjoint_of_nodup_append hnodup (List.mem_map.mpr ⟨r, hr, of_decide_eq_true hsame⟩)
            List.mem_cons_self
        · rw [if_neg htwice]
          have hnew : ∀ r ∈ start, id r ≠ id record := fun r hr hsame =>
            htwice (List.any_eq_true.mpr ⟨r, hr, decide_eq_true hsame⟩)
          have hperm : (insertById id record start ++ rest).Perm (start ++ record :: rest) :=
            ((insertById_perm record start).append_right rest).trans List.perm_middle.symm
          change List.foldlM _ (insertById id record start) rest = Except.ok indexed ↔ _
          rw [ih (insertById_sorted hnew hstart), (hperm.map id).nodup_iff]
          constructor
          · rintro ⟨hpositive, hnodup, hindexed, hsorted⟩
            exact ⟨⟨hzero, hpositive⟩, hnodup, hindexed.trans hperm, hsorted⟩
          · rintro ⟨⟨-, hpositive⟩, hnodup, hindexed, hsorted⟩
            exact ⟨hpositive, hnodup, hindexed.trans hperm.symm, hsorted⟩

/-- Records can be put in order exactly if their numbers are positive and distinct. -/
theorem indexById_eq_ok_iff : indexById id records = .ok indexed ↔
    (∀ r ∈ records, id r ≠ 0) ∧ (records.map id).Nodup ∧ indexed.Perm records ∧
      indexed.Pairwise fun r r' => id r < id r' :=
  foldlM_insertById_eq_ok_iff List.Pairwise.nil

theorem indexById_of_perm (h : records.Perm others) (hindexed : indexById id records = .ok indexed) :
    indexById id others = .ok indexed := by
  obtain ⟨hpositive, hnodup, hperm, hsorted⟩ := indexById_eq_ok_iff.mp hindexed
  exact indexById_eq_ok_iff.mpr ⟨fun r hr => hpositive r (h.mem_iff.mpr hr),
    (h.map id).nodup_iff.mp hnodup, hperm.trans h, hsorted⟩

end DynamicContent.Site
