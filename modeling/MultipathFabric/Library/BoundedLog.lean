import MultipathFabric.Library.OrderedMap

/-!
A log that drops its oldest entries beyond a limit, with an index from the key of an entry to its mark.
-/

namespace BoundedLog

open Std OrderedMap

variable {α κ ν : Type} {cmp : κ → κ → Ordering} [TransCmp cmp] {key : α → κ} {mark : α → ν}

section Trimming

variable [DecidableEq ν]

def trim (key : α → κ) (mark : α → ν) (limit : ℕ) : List α → ExtTreeMap κ ν cmp → List α × ExtTreeMap κ ν cmp
  | [], index => ([], index)
  | front :: rest, index =>
      if rest.length + 1 ≤ limit then (front :: rest, index)
      else trim key mark limit rest (if index[key front]? = some (mark front) then index.erase (key front) else index)

def record (key : α → κ) (mark : α → ν) (limit : ℕ) (log : List α) (index : ExtTreeMap κ ν cmp) (a : α) :
    List α × ExtTreeMap κ ν cmp :=
  trim key mark limit (log ++ [a]) (index.insert (key a) (mark a))

theorem trim_log (limit : ℕ) (log : List α) (index : ExtTreeMap κ ν cmp) :
    (trim key mark limit log index).1 = log.drop (log.length - limit) := by
  induction log generalizing index with
  | nil => exact List.drop_nil.symm
  | cons front rest ih =>
      unfold trim
      split
      · rename_i hroom
        have hzero : (front :: rest).length - limit = 0 := by
          rw [List.length_cons]
          omega
        rw [hzero, List.drop_zero]
      · rename_i hfull
        have hsucc : (front :: rest).length - limit = rest.length - limit + 1 := by
          rw [List.length_cons]
          omega
        rw [ih, hsucc, List.drop_succ_cons]

theorem trim_none {limit : ℕ} {log : List α} {index : ExtTreeMap κ ν cmp} {k : κ} (h : index[k]? = none) :
    (trim key mark limit log index).2[k]? = none := by
  induction log generalizing index with
  | nil => exact h
  | cons front rest ih =>
      unfold trim
      split
      · exact h
      · apply ih
        split
        · rw [ExtTreeMap.getElem?_erase, h, ite_self]
        · exact h

theorem record_none [LawfulEqCmp cmp] [DecidableEq κ] {limit : ℕ} {log : List α} {index : ExtTreeMap κ ν cmp}
    {a : α} {k : κ}
    (h : index[k]? = none) (other : key a ≠ k) : (record key mark limit log index a).2[k]? = none := by
  apply trim_none
  rw [getElem?_insert_eq, if_neg other, h]

theorem record_length (limit : ℕ) (log : List α) (index : ExtTreeMap κ ν cmp) (a : α) :
    (record key mark limit log index a).1.length ≤ limit := by
  rw [record, trim_log, List.length_drop]
  omega

def Recent (log : List α) (a : α) (n : ℕ) : Prop := ∃ before after, log = before ++ a :: after ∧ after.length ≤ n

theorem Recent.mem {log : List α} {a : α} {n : ℕ} (h : Recent log a n) : a ∈ log := by
  obtain ⟨before, after, rfl, _⟩ := h
  exact List.mem_append_right _ List.mem_cons_self

theorem recent_record (limit : ℕ) (log : List α) (index : ExtTreeMap κ ν cmp) (a : α) (hlimit : 0 < limit) :
    Recent (record key mark limit log index a).1 a 0 := by
  rw [record, trim_log, List.drop_append_of_le_length]
  · exact ⟨_, [], rfl, Nat.le_refl _⟩
  · rw [List.length_append, List.length_singleton]
    omega

theorem Recent.record {limit n : ℕ} {log : List α} {index : ExtTreeMap κ ν cmp} {a : α} (h : Recent log a n)
    (hlimit : n + 1 < limit) (b : α) : Recent (record key mark limit log index b).1 a (n + 1) := by
  obtain ⟨before, after, rfl, hafter⟩ := h
  have happend : before ++ a :: after ++ [b] = before ++ a :: (after ++ [b]) := by
    rw [List.append_assoc, List.cons_append]
  have hlength : (before ++ a :: (after ++ [b])).length = before.length + (after.length + 2) := by
    rw [List.length_append, List.length_cons, List.length_append, List.length_singleton]
  refine ⟨before.drop (before.length + (after.length + 2) - limit), after ++ [b], ?_, ?_⟩
  · rw [BoundedLog.record, trim_log, happend, hlength]
    apply List.drop_append_of_le_length
    omega
  · rw [List.length_append, List.length_singleton]
    omega

end Trimming

/-- Every key is logged once, and the index holds the marks of the logged entries and nothing else. -/
structure Indexed (key : α → κ) (mark : α → ν) (log : List α) (index : ExtTreeMap κ ν cmp) : Prop where
  distinct : (log.map key).Nodup
  marks : ∀ k v, index[k]? = some v ↔ ∃ a ∈ log, key a = k ∧ mark a = v

theorem Indexed.empty : Indexed key mark [] (∅ : ExtTreeMap κ ν cmp) := by
  refine ⟨List.nodup_nil, fun k v => ?_⟩
  rw [ExtTreeMap.getElem?_empty]
  constructor
  · intro h
    cases h
  · rintro ⟨a, ha, _⟩
    exact (List.not_mem_nil ha).elim

theorem Indexed.none {log : List α} {index : ExtTreeMap κ ν cmp} (h : Indexed key mark log index) {k : κ}
    (hk : index[k]? = none) {a : α} (ha : a ∈ log) : key a ≠ k := by
  intro hkey
  have hsome := (h.marks k (mark a)).mpr ⟨a, ha, hkey, rfl⟩
  rw [hk] at hsome
  cases hsome

theorem Indexed.find {log : List α} {index : ExtTreeMap κ ν cmp} (h : Indexed key mark log index) {a : α} (ha : a ∈ log)
    {p : α → Bool} (hp : ∀ b, p b = true ↔ key b = key a) : log.find? p = some a := by
  obtain ⟨before, after, rfl⟩ := List.append_of_mem ha
  refine List.find?_eq_some_iff_append.mpr ⟨(hp a).mpr rfl, before, after, rfl, fun b hb => ?_⟩
  rw [Bool.not_eq_true', Bool.eq_false_iff]
  intro hpb
  have hdistinct := h.distinct
  rw [List.map_append, List.nodup_append] at hdistinct
  exact hdistinct.2.2 _ (List.mem_map.mpr ⟨b, hb, rfl⟩) _ (List.mem_map.mpr ⟨a, List.mem_cons_self, rfl⟩)
    ((hp b).mp hpb)

variable [LawfulEqCmp cmp] [DecidableEq κ]

theorem Indexed.append {log : List α} {index : ExtTreeMap κ ν cmp} (h : Indexed key mark log index) {a : α}
    (ha : index[key a]? = Option.none) :
    Indexed key mark (log ++ [a]) (index.insert (key a) (mark a)) := by
  constructor
  · rw [List.map_append, List.map_singleton, List.nodup_append]
    refine ⟨h.distinct, by simp, ?_⟩
    intro k hk k' hk' heq
    obtain ⟨b, hb, rfl⟩ := List.mem_map.mp hk
    rw [List.mem_singleton] at hk'
    exact h.none ha hb (heq.trans hk')
  · intro k v
    rw [getElem?_insert_eq]
    split
    · rename_i hkey
      constructor
      · intro hv
        cases hv
        exact ⟨a, by simp, hkey, rfl⟩
      · rintro ⟨b, hb, hbk, hbv⟩
        rcases List.mem_append.mp hb with hb | hb
        · exact absurd (hbk.trans hkey.symm) (h.none ha hb)
        · rw [List.mem_singleton.mp hb] at hbv
          rw [hbv]
    · rename_i hkey
      rw [h.marks]
      constructor
      · rintro ⟨b, hb, hb'⟩
        exact ⟨b, List.mem_append_left _ hb, hb'⟩
      · rintro ⟨b, hb, hbk, hbv⟩
        rcases List.mem_append.mp hb with hb | hb
        · exact ⟨b, hb, hbk, hbv⟩
        · rw [List.mem_singleton.mp hb] at hbk
          exact absurd hbk hkey

variable [DecidableEq ν]

theorem Indexed.tail {front : α} {rest : List α} {index : ExtTreeMap κ ν cmp}
    (h : Indexed key mark (front :: rest) index) :
    Indexed key mark rest
      (if index[key front]? = some (mark front) then index.erase (key front) else index) := by
  obtain ⟨hfront, hrest⟩ := List.nodup_cons.mp h.distinct
  rw [if_pos ((h.marks _ _).mpr ⟨front, List.mem_cons_self, rfl, rfl⟩)]
  refine ⟨hrest, fun k v => ?_⟩
  rw [getElem?_erase_eq]
  split
  · rename_i hkey
    constructor
    · intro hv
      cases hv
    · rintro ⟨b, hb, hbk, _⟩
      exact absurd (List.mem_map.mpr ⟨b, hb, hbk.trans hkey.symm⟩) hfront
  · rename_i hkey
    rw [h.marks]
    constructor
    · rintro ⟨b, hb, hbk, hbv⟩
      rcases List.mem_cons.mp hb with rfl | hb
      · exact absurd hbk hkey
      · exact ⟨b, hb, hbk, hbv⟩
    · rintro ⟨b, hb, hb'⟩
      exact ⟨b, List.mem_cons_of_mem _ hb, hb'⟩

theorem Indexed.trim {limit : ℕ} {log : List α} {index : ExtTreeMap κ ν cmp} (h : Indexed key mark log index) :
    Indexed key mark (trim key mark limit log index).1 (trim key mark limit log index).2 := by
  induction log generalizing index with
  | nil => exact h
  | cons front rest ih =>
      unfold BoundedLog.trim
      split
      · exact h
      · exact ih h.tail

theorem Indexed.record {limit : ℕ} {log : List α} {index : ExtTreeMap κ ν cmp} (h : Indexed key mark log index)
    {a : α} (ha : index[key a]? = Option.none) :
    Indexed key mark (record key mark limit log index a).1 (record key mark limit log index a).2 :=
  (h.append ha).trim

end BoundedLog
