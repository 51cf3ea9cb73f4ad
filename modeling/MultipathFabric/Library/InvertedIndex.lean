import MultipathFabric.Library.OrderedMap

/-!
An index from keys to the sets of owners that use them; a key without owners is dropped.
-/

namespace InvertedIndex

open Std OrderedMap

variable {κ ι : Type} {cmp : κ → κ → Ordering} {cmp' : ι → ι → Ordering} [TransCmp cmp] [LawfulEqCmp cmp]
  [TransCmp cmp'] [LawfulEqCmp cmp'] [DecidableEq κ]

def owners (t : ExtTreeMap κ (ExtTreeSet ι cmp') cmp) (k : κ) : ExtTreeSet ι cmp' := t[k]?.getD ∅

def add (t : ExtTreeMap κ (ExtTreeSet ι cmp') cmp) (k : κ) (i : ι) : ExtTreeMap κ (ExtTreeSet ι cmp') cmp :=
  t.insert k ((owners t k).insert i)

def remove (t : ExtTreeMap κ (ExtTreeSet ι cmp') cmp) (k : κ) (i : ι) : ExtTreeMap κ (ExtTreeSet ι cmp') cmp :=
  match t[k]? with
  | none => t
  | some s => if (s.erase i).isEmpty then t.erase k else t.insert k (s.erase i)

variable {t : ExtTreeMap κ (ExtTreeSet ι cmp') cmp} {k k' : κ} {i j : ι}

omit [LawfulEqCmp cmp] [TransCmp cmp'] [LawfulEqCmp cmp'] [DecidableEq κ] in
@[simp] theorem owners_empty : owners (∅ : ExtTreeMap κ (ExtTreeSet ι cmp') cmp) k = ∅ := by
  unfold owners
  rw [ExtTreeMap.getElem?_empty]
  rfl

omit [LawfulEqCmp cmp'] in
theorem owners_add : owners (add t k i) k' = if k = k' then (owners t k').insert i else owners t k' := by
  unfold add
  rw [owners, getElem?_insert_eq]
  split
  · rename_i h
    rw [h]
    rfl
  · rfl

omit [LawfulEqCmp cmp'] in
theorem owners_remove : owners (remove t k i) k' = if k = k' then (owners t k').erase i else owners t k' := by
  unfold remove
  split
  · rename_i hnone
    split
    · rename_i h
      rw [← h, owners, hnone, Option.getD_none, ExtTreeSet.erase_empty]
    · rfl
  · rename_i s hsome
    split
    · rename_i hempty
      rw [owners, getElem?_erase_eq]
      split
      · rename_i h
        rw [← h, owners, hsome, Option.getD_some, ExtTreeSet.isEmpty_iff.mp hempty]
        rfl
      · rfl
    · rw [owners, getElem?_insert_eq]
      split
      · rename_i h
        rw [← h, owners, hsome]
        rfl
      · rfl

theorem insert_insert (s : ExtTreeSet ι cmp') (i : ι) : (s.insert i).insert i = s.insert i := by
  refine ExtTreeSet.ext_mem fun j => ?_
  simp

theorem insert_present {s : ExtTreeSet ι cmp'} {i : ι} (h : i ∈ s) : s.insert i = s := by
  refine ExtTreeSet.ext_mem fun j => ?_
  rw [ExtTreeSet.mem_insert]
  constructor
  · rintro (heq | hmem)
    · rw [← LawfulEqCmp.eq_of_compare heq]
      exact h
    · exact hmem
  · exact .inr

theorem erase_erase (s : ExtTreeSet ι cmp') (i : ι) : (s.erase i).erase i = s.erase i := by
  refine ExtTreeSet.ext_mem fun j => ?_
  simp

theorem owners_addAll (keys : List κ) :
    owners (keys.foldl (fun t k => add t k i) t) k' = if k' ∈ keys then (owners t k').insert i else owners t k' := by
  induction keys generalizing t with
  | nil => rfl
  | cons k rest ih =>
      rw [List.foldl_cons, ih, owners_add]
      by_cases hrest : k' ∈ rest
      · rw [if_pos hrest, if_pos (List.mem_cons_of_mem _ hrest)]
        split
        · exact insert_insert _ _
        · rfl
      · rw [if_neg hrest]
        simp [List.mem_cons, hrest, eq_comm]

theorem owners_removeAll (keys : List κ) :
    owners (keys.foldl (fun t k => remove t k i) t) k' = if k' ∈ keys then (owners t k').erase i else owners t k' := by
  induction keys generalizing t with
  | nil => rfl
  | cons k rest ih =>
      rw [List.foldl_cons, ih, owners_remove]
      by_cases hrest : k' ∈ rest
      · rw [if_pos hrest, if_pos (List.mem_cons_of_mem _ hrest)]
        split
        · exact erase_erase _ _
        · rfl
      · rw [if_neg hrest]
        simp [List.mem_cons, hrest, eq_comm]

end InvertedIndex
