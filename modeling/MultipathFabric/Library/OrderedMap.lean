import Mathlib.Data.List.Basic
import Mathlib.Tactic.Linarith

/-!
Counting and pointwise reasoning for ordered maps.
-/

namespace OrderedMap

open Std

variable {α β γ : Type*} {cmp : α → α → Ordering} [TransCmp cmp] [LawfulEqCmp cmp]

theorem getElem?_insert_eq [DecidableEq α] (t : ExtTreeMap α β cmp) (k a : α) (v : β) :
    (t.insert k v)[a]? = if k = a then some v else t[a]? := by
  rw [ExtTreeMap.getElem?_insert]
  by_cases h : k = a
  · subst h
    simp
  · simp [h]

theorem getElem?_erase_eq [DecidableEq α] (t : ExtTreeMap α β cmp) (k a : α) :
    (t.erase k)[a]? = if k = a then none else t[a]? := by
  rw [ExtTreeMap.getElem?_erase]
  by_cases h : k = a
  · subst h
    simp
  · simp [h]

theorem mem_insert_iff {t : ExtTreeMap α β cmp} {k a : α} {v : β} : a ∈ t.insert k v ↔ k = a ∨ a ∈ t := by
  rw [ExtTreeMap.mem_insert]
  refine or_congr_left ⟨fun h => LawfulEqCmp.eq_of_compare h, fun h => ?_⟩
  rw [h]
  exact ReflCmp.compare_self

theorem mem_erase_iff {t : ExtTreeMap α β cmp} {k a : α} : a ∈ t.erase k ↔ k ≠ a ∧ a ∈ t := by
  rw [ExtTreeMap.mem_erase]
  refine and_congr_left fun _ => not_congr ⟨fun h => LawfulEqCmp.eq_of_compare h, fun h => ?_⟩
  rw [h]
  exact ReflCmp.compare_self

theorem mem_eraseAll_iff {keys : List α} {t : ExtTreeMap α β cmp} {a : α} :
    a ∈ keys.foldl (fun t k => t.erase k) t ↔ a ∉ keys ∧ a ∈ t := by
  induction keys generalizing t with
  | nil => simp
  | cons k rest ih =>
      rw [List.foldl_cons, ih, mem_erase_iff, List.mem_cons, not_or, ne_comm]
      tauto

omit [LawfulEqCmp cmp] in
theorem mem_of_getElem? {t : ExtTreeMap α β cmp} {k : α} {v : β} (h : t[k]? = some v) : k ∈ t := by
  rw [ExtTreeMap.mem_iff_isSome_getElem?, h]
  rfl

omit [LawfulEqCmp cmp] in
theorem exists_of_mem {t : ExtTreeMap α β cmp} {k : α} (h : k ∈ t) : ∃ v, t[k]? = some v :=
  Option.isSome_iff_exists.mp (ExtTreeMap.mem_iff_isSome_getElem?.mp h)

/-- The number of entries whose value satisfies `p`. -/
def count (p : β → Bool) (t : ExtTreeMap α β cmp) : Nat := (t.filter fun _ v => p v).size

theorem getElem?_filterValues (p : β → Bool) (t : ExtTreeMap α β cmp) (k : α) :
    (t.filter fun _ v => p v)[k]? = t[k]?.filter p := by
  rw [ExtTreeMap.getElem?_filter']

theorem filter_empty (p : β → Bool) : ((∅ : ExtTreeMap α β cmp).filter fun _ v => p v) = ∅ := by
  refine ExtTreeMap.ext_getElem? fun k => ?_
  simp

theorem count_empty (p : β → Bool) : count p (∅ : ExtTreeMap α β cmp) = 0 := by
  simp [count, filter_empty]

omit [LawfulEqCmp cmp] in
theorem count_le_size (p : β → Bool) (t : ExtTreeMap α β cmp) : count p t ≤ t.size :=
  ExtTreeMap.size_filter_le_size

theorem filter_insert_pos [DecidableEq α] {p : β → Bool} (t : ExtTreeMap α β cmp) (k : α) {v : β}
    (h : p v = true) :
    ((t.insert k v).filter fun _ v => p v) = (t.filter fun _ v => p v).insert k v := by
  refine ExtTreeMap.ext_getElem? fun a => ?_
  simp only [getElem?_filterValues, getElem?_insert_eq]
  split
  · simp [h]
  · rfl

theorem filter_insert_neg [DecidableEq α] {p : β → Bool} (t : ExtTreeMap α β cmp) (k : α) {v : β}
    (h : p v = false) :
    ((t.insert k v).filter fun _ v => p v) = (t.filter fun _ v => p v).erase k := by
  refine ExtTreeMap.ext_getElem? fun a => ?_
  simp only [getElem?_filterValues, getElem?_insert_eq, getElem?_erase_eq]
  split
  · simp [h]
  · rfl

theorem filter_erase [DecidableEq α] (p : β → Bool) (t : ExtTreeMap α β cmp) (k : α) :
    ((t.erase k).filter fun _ v => p v) = (t.filter fun _ v => p v).erase k := by
  refine ExtTreeMap.ext_getElem? fun a => ?_
  simp only [getElem?_filterValues, getElem?_erase_eq]
  split <;> rfl

theorem contains_filter (p : β → Bool) (t : ExtTreeMap α β cmp) (k : α) :
    (t.filter fun _ v => p v).contains k = (t[k]?.filter p).isSome := by
  rw [ExtTreeMap.contains_eq_isSome_getElem?, getElem?_filterValues]

omit [LawfulEqCmp cmp] in
theorem size_pos_of_getElem? {t : ExtTreeMap α β cmp} {k : α} {v : β} (h : t[k]? = some v) :
    0 < t.size := by
  have hmem : k ∈ t := by
    rw [ExtTreeMap.mem_iff_isSome_getElem?, h]
    rfl
  by_contra hzero
  have hempty : t = ∅ := ExtTreeMap.eq_empty_iff_size_eq_zero.mpr (by omega)
  rw [hempty] at hmem
  simp at hmem

theorem exists_of_count_pos {p : β → Bool} {t : ExtTreeMap α β cmp} (h : 0 < count p t) :
    ∃ (k : α) (v : β), t[k]? = some v ∧ p v = true := by
  by_contra hnone
  push Not at hnone
  have hempty : (t.filter fun _ v => p v) = ∅ := by
    refine ExtTreeMap.ext_getElem? fun k => ?_
    rw [getElem?_filterValues]
    cases hfound : t[k]? with
    | none => simp
    | some v => simp [Option.filter, hnone k v hfound]
  rw [count, hempty] at h
  simp at h

theorem count_insert [DecidableEq α] (p : β → Bool) (t : ExtTreeMap α β cmp) (k : α) (v : β) :
    count p (t.insert k v) + (if (t[k]?.filter p).isSome then 1 else 0) =
      count p t + (if p v then 1 else 0) := by
  have hold : (t[k]?.filter p).isSome = true → 0 < count p t := by
    intro h
    obtain ⟨w, hw⟩ := Option.isSome_iff_exists.mp h
    exact size_pos_of_getElem? (k := k) (v := w) (by rw [getElem?_filterValues, hw])
  have hcontains := contains_filter p t k
  by_cases hv : p v = true
  · have hsize : count p (t.insert k v) =
        if (t[k]?.filter p).isSome then count p t else count p t + 1 := by
      rw [count, filter_insert_pos t k hv, ExtTreeMap.size_insert, hcontains]
      rfl
    rw [hsize, if_pos hv]
    split <;> simp
  · have hv' : p v = false := by simpa using hv
    have hsize : count p (t.insert k v) =
        if (t[k]?.filter p).isSome then count p t - 1 else count p t := by
      rw [count, filter_insert_neg t k hv', ExtTreeMap.size_erase, hcontains]
      rfl
    rw [hsize]
    split
    · rename_i h
      have hpos := hold h
      omega
    · simp

theorem count_erase_eq [DecidableEq α] {p : β → Bool} {t : ExtTreeMap α β cmp} {k : α}
    (h : ∀ v, t[k]? = some v → p v = false) : count p (t.erase k) = count p t := by
  have hnot : (t.filter fun _ v => p v).contains k = false := by
    rw [contains_filter]
    cases hfound : t[k]? with
    | none => rfl
    | some v => simp [Option.filter, h v hfound]
  rw [count, filter_erase, ExtTreeMap.size_erase, hnot]
  rfl

theorem getElem?_eraseAll [DecidableEq α] {keys : List α} {t : ExtTreeMap α β cmp} {a : α} :
    (keys.foldl (fun t k => t.erase k) t)[a]? = if a ∈ keys then none else t[a]? := by
  induction keys generalizing t with
  | nil => rfl
  | cons k rest ih =>
      rw [List.foldl_cons, ih, getElem?_erase_eq]
      by_cases hk : k = a
      · rw [if_pos hk, if_pos (List.mem_cons.mpr (.inl hk.symm)), ite_self]
      · rw [if_neg hk]
        simp only [List.mem_cons, Ne.symm hk, false_or]

theorem count_eraseAll_eq [DecidableEq α] {p : β → Bool} {keys : List α} {t : ExtTreeMap α β cmp}
    (h : ∀ k ∈ keys, ∀ v, t[k]? = some v → p v = false) :
    count p (keys.foldl (fun t k => t.erase k) t) = count p t := by
  induction keys generalizing t with
  | nil => rfl
  | cons k rest ih =>
      rw [List.foldl_cons, ih, count_erase_eq (h k List.mem_cons_self)]
      intro other hother v hv
      rw [getElem?_erase_eq] at hv
      split at hv
      · cases hv
      · exact h other (List.mem_cons_of_mem _ hother) v hv

theorem getElem?_mapValues (f : β → γ) (t : ExtTreeMap α β cmp) (k : α) :
    (t.map fun _ v => f v)[k]? = t[k]?.map f := by
  simp

theorem size_le_length {t : ExtTreeMap α β cmp} {l : List α} (h : ∀ k ∈ t, k ∈ l) : t.size ≤ l.length := by
  have hdistinct : t.keys.Nodup := by
    refine ExtTreeMap.distinct_keys.imp fun {a b} h heq => h ?_
    rw [heq]
    exact ReflCmp.compare_self
  rw [← ExtTreeMap.length_keys]
  exact hdistinct.length_le_of_subset fun k hk => h k (ExtTreeMap.mem_keys.mp hk)

theorem size_le_of_mem {t : ExtTreeMap α β cmp} {t' : ExtTreeMap α γ cmp} (h : ∀ k ∈ t', k ∈ t) :
    t'.size ≤ t.size := by
  rw [← ExtTreeMap.length_keys (t := t)]
  exact size_le_length fun k hk => ExtTreeMap.mem_keys.mpr (h k hk)

theorem count_le_count {p : β → Bool} {q : γ → Bool} {t : ExtTreeMap α β cmp} {t' : ExtTreeMap α γ cmp}
    (h : ∀ (k : α) (w : γ), t'[k]? = some w → q w = true → ∃ v : β, t[k]? = some v ∧ p v = true) :
    count q t' ≤ count p t := by
  apply size_le_of_mem
  intro k hk
  obtain ⟨w, hw⟩ := exists_of_mem hk
  rw [getElem?_filterValues, Option.filter_eq_some_iff] at hw
  obtain ⟨v, hv, hp⟩ := h k w hw.1 hw.2
  have hkept : (t.filter fun _ v => p v)[k]? = some v := by
    rw [getElem?_filterValues, Option.filter_eq_some_iff]
    exact ⟨hv, hp⟩
  exact mem_of_getElem? hkept

theorem count_map_eq {p : β → Bool} {f : β → β} (t : ExtTreeMap α β cmp)
    (h : ∀ v, p (f v) = p v) : count p (t.map fun _ v => f v) = count p t := by
  have hfilter : ((t.map fun _ v => f v).filter fun _ v => p v) =
      (t.filter fun _ v => p v).map fun _ v => f v := by
    refine ExtTreeMap.ext_getElem? fun k => ?_
    rw [getElem?_filterValues, getElem?_mapValues, getElem?_mapValues, getElem?_filterValues]
    cases t[k]? with
    | none => rfl
    | some v => by_cases hv : p v = true <;> simp [Option.filter, h, hv]
  rw [count, hfilter, ExtTreeMap.size_map]
  rfl

omit [LawfulEqCmp cmp] in
theorem size_insert_present {t : ExtTreeMap α β cmp} {k : α} {v w : β} (h : t[k]? = some v) :
    (t.insert k w).size = t.size := by
  rw [ExtTreeMap.size_insert, ExtTreeMap.contains_eq_isSome_getElem?, h]
  rfl

omit [LawfulEqCmp cmp] in
theorem size_erase_present {t : ExtTreeMap α β cmp} {k : α} {v : β} (h : t[k]? = some v) :
    (t.erase k).size + 1 = t.size := by
  have hpos := size_pos_of_getElem? h
  have hcontains : t.contains k = true := by
    rw [ExtTreeMap.contains_eq_isSome_getElem?, h]
    rfl
  rw [ExtTreeMap.size_erase, if_pos hcontains]
  omega

theorem size_eraseAll [DecidableEq α] {keys : List α} {t : ExtTreeMap α β cmp} (hdistinct : keys.Nodup)
    (h : ∀ k ∈ keys, t[k]?.isSome = true) :
    (keys.foldl (fun t k => t.erase k) t).size + keys.length = t.size := by
  induction keys generalizing t with
  | nil => rfl
  | cons k rest ih =>
      obtain ⟨hnotin, hrest⟩ := List.nodup_cons.mp hdistinct
      obtain ⟨v, hv⟩ := Option.isSome_iff_exists.mp (h k List.mem_cons_self)
      have hsize := size_erase_present hv
      have hlater : ∀ a ∈ rest, (t.erase k)[a]?.isSome = true := by
        intro a ha
        have hne : k ≠ a := fun heq => hnotin (heq ▸ ha)
        rw [getElem?_erase_eq, if_neg hne]
        exact h a (List.mem_cons_of_mem _ ha)
      have hall := ih hrest hlater
      rw [List.foldl_cons, List.length_cons]
      omega

theorem count_eraseAll [DecidableEq α] {p : β → Bool} {keys : List α} {t : ExtTreeMap α β cmp} (hdistinct : keys.Nodup)
    (h : ∀ k ∈ keys, ∃ v, t[k]? = some v ∧ p v = true) :
    count p (keys.foldl (fun t k => t.erase k) t) + keys.length = count p t := by
  have hfilter : ∀ (keys : List α) (t : ExtTreeMap α β cmp),
      ((keys.foldl (fun t k => t.erase k) t).filter fun _ v => p v) =
        keys.foldl (fun t k => t.erase k) (t.filter fun _ v => p v) := by
    intro keys
    induction keys with
    | nil => exact fun _ => rfl
    | cons k rest ih =>
        intro t
        rw [List.foldl_cons, List.foldl_cons, ih, filter_erase]
  rw [count, hfilter]
  apply size_eraseAll hdistinct
  intro k hk
  obtain ⟨v, hv, hp⟩ := h k hk
  rw [getElem?_filterValues, hv, Option.filter_some, if_pos hp]
  rfl

omit [LawfulEqCmp cmp] in
theorem length_filter_toList (p : β → Bool) (t : ExtTreeMap α β cmp) :
    (t.toList.filter fun entry => p entry.2).length = count p t := by
  rw [count, ← ExtTreeMap.length_toList, ExtTreeMap.toList_filter]

theorem nodup_keys (t : ExtTreeMap α β cmp) : (t.toList.map Prod.fst).Nodup := by
  rw [ExtTreeMap.map_fst_toList_eq_keys]
  refine ExtTreeMap.distinct_keys.imp fun {a b} h heq => h ?_
  rw [heq]
  exact ReflCmp.compare_self

omit [LawfulEqCmp cmp] in
theorem nodup_toList (t : ExtTreeMap α β cmp) : t.toList.Nodup := by
  refine ExtTreeMap.distinct_keys_toList.imp fun {a b} hne heq => hne ?_
  rw [heq]
  exact ReflCmp.compare_self

theorem toList_insert_perm [DecidableEq α] (t : ExtTreeMap α β cmp) (k : α) (v : β) :
    (t.insert k v).toList.Perm ((k, v) :: (t.erase k).toList) := by
  have hnew : (k, v) ∉ (t.erase k).toList := by
    rw [ExtTreeMap.mem_toList_iff_getElem?_eq_some, getElem?_erase_eq, if_pos rfl]
    exact fun h => by cases h
  refine (List.perm_ext_iff_of_nodup (nodup_toList _) (List.nodup_cons.mpr ⟨hnew, nodup_toList _⟩)).mpr ?_
  rintro ⟨a, w⟩
  rw [List.mem_cons, ExtTreeMap.mem_toList_iff_getElem?_eq_some, ExtTreeMap.mem_toList_iff_getElem?_eq_some,
    getElem?_insert_eq, getElem?_erase_eq, Prod.mk.injEq]
  by_cases h : k = a
  · simp [h, eq_comm]
  · simp [h, Ne.symm h]

theorem toList_erase_perm [DecidableEq α] {t : ExtTreeMap α β cmp} {k : α} {v : β} (h : t[k]? = some v) :
    t.toList.Perm ((k, v) :: (t.erase k).toList) := by
  have hsame : t.insert k v = t := by
    refine ExtTreeMap.ext_getElem? fun a => ?_
    rw [getElem?_insert_eq]
    split
    · rename_i heq
      rw [← heq, h]
    · rfl
  have hperm := toList_insert_perm t k v
  rwa [hsame] at hperm

theorem insert_of_some [DecidableEq α] {t : ExtTreeMap α β cmp} {k : α} {v : β} (h : t[k]? = some v) :
    t.insert k v = t := by
  apply ExtTreeMap.ext_getElem?
  intro a
  rw [getElem?_insert_eq]
  split
  · rename_i heq
    rw [← heq, h]
  · rfl

theorem erase_of_none [DecidableEq α] {t : ExtTreeMap α β cmp} {k : α} (h : t[k]? = none) : t.erase k = t := by
  refine ExtTreeMap.ext_getElem? fun a => ?_
  rw [getElem?_erase_eq]
  split
  · rename_i heq
    rw [← heq, h]
  · rfl

def total (f : β → Nat) (t : ExtTreeMap α β cmp) : Nat := (t.toList.map fun entry => f entry.2).sum

omit [LawfulEqCmp cmp] in
theorem total_empty (f : β → Nat) : total f (∅ : ExtTreeMap α β cmp) = 0 := by
  rw [total, ExtTreeMap.toList_eq_nil_iff.mpr rfl]
  rfl

theorem total_insert [DecidableEq α] (f : β → Nat) (t : ExtTreeMap α β cmp) (k : α) (v : β) :
    total f (t.insert k v) + (t[k]?.map f).getD 0 = total f t + f v := by
  have hnew := ((toList_insert_perm t k v).map fun entry => f entry.2).sum_nat
  simp only [List.map_cons, List.sum_cons] at hnew
  cases hfound : t[k]? with
  | none =>
      rw [erase_of_none hfound] at hnew
      simp only [total, Option.map_none, Option.getD_none]
      omega
  | some w =>
      have hold := ((toList_erase_perm hfound).map fun entry => f entry.2).sum_nat
      simp only [List.map_cons, List.sum_cons] at hold
      simp only [total, Option.map_some, Option.getD_some]
      omega

theorem insertAll_toList [DecidableEq α] (t : ExtTreeMap α β cmp) :
    t.toList.foldl (fun acc entry => acc.insert entry.1 entry.2) ∅ = t := by
  have hof : ExtTreeMap.ofList t.toList cmp = t.toList.foldl (fun acc entry => acc.insert entry.1 entry.2) ∅ :=
    ExtTreeMap.ofList_eq_foldl
  rw [← hof]
  refine ExtTreeMap.ext_getElem? fun k => ?_
  cases hfound : t[k]? with
  | some v =>
      exact ExtTreeMap.getElem?_ofList_of_mem ReflCmp.compare_self ExtTreeMap.distinct_keys_toList
        (ExtTreeMap.mem_toList_iff_getElem?_eq_some.mpr hfound)
  | none =>
      refine ExtTreeMap.getElem?_ofList_of_contains_eq_false ?_
      rw [ExtTreeMap.map_fst_toList_eq_keys, ExtTreeMap.contains_keys, ExtTreeMap.contains_eq_isSome_getElem?,
        hfound]
      rfl

section InsertAll

variable [DecidableEq α] {key : γ → α} {value : γ → β}

def insertAll (key : γ → α) (value : γ → β) (l : List γ) (t : ExtTreeMap α β cmp) : ExtTreeMap α β cmp :=
  l.foldl (fun t x => t.insert (key x) (value x)) t

theorem getElem?_insertAll {l : List γ} {t : ExtTreeMap α β cmp} {k : α} {v : β}
    (h : (insertAll key value l t)[k]? = some v) : (∃ x ∈ l, key x = k ∧ value x = v) ∨ t[k]? = some v := by
  induction l generalizing t with
  | nil => exact .inr h
  | cons x rest ih =>
      rcases ih h with ⟨y, hy, hvalue⟩ | hinserted
      · exact .inl ⟨y, List.mem_cons_of_mem _ hy, hvalue⟩
      · rw [getElem?_insert_eq] at hinserted
        split at hinserted
        · rename_i hkey
          exact .inl ⟨x, List.mem_cons_self, hkey, Option.some.inj hinserted⟩
        · exact .inr hinserted

theorem isSome_insertAll {l : List γ} {t : ExtTreeMap α β cmp} {k : α}
    (h : (∃ x ∈ l, key x = k) ∨ t[k]?.isSome = true) : (insertAll key value l t)[k]?.isSome = true := by
  induction l generalizing t with
  | nil =>
      rcases h with ⟨x, hx, _⟩ | hpresent
      · exact absurd hx List.not_mem_nil
      · exact hpresent
  | cons x rest ih =>
      apply ih
      rw [getElem?_insert_eq]
      by_cases hkey : key x = k
      · right
        rw [if_pos hkey]
        rfl
      · rw [if_neg hkey]
        rcases h with ⟨y, hy, hyk⟩ | hpresent
        · rcases List.mem_cons.mp hy with rfl | hy
          · exact absurd hyk hkey
          · exact .inl ⟨y, hy, hyk⟩
        · exact .inr hpresent

end InsertAll

end OrderedMap
