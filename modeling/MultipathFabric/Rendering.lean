import MultipathFabric.SemanticState
import MultipathFabric.WireCodec

namespace MultipathFabric

section Texts

variable {d : IdDomain} {α : Type} {c : UInt8} {a b l s t : Bytes}

theorem injective_of_find {all : List α} {f : α → Bytes} (h : ∀ x, all.find? (fun y => f y == f x) = some x) :
    Function.Injective f := by
  intro x y same
  have hx := h x
  rw [same, h y] at hx
  exact (Option.some.inj hx).symm

theorem SetLifecycle.toString_injective : Function.Injective SetLifecycle.toString :=
  @injective_of_find _ SetLifecycle.all _ fun x => by cases x <;> rfl

theorem SetCurrentness.toString_injective : Function.Injective SetCurrentness.toString :=
  @injective_of_find _ SetCurrentness.all _ fun x => by cases x <;> rfl

theorem MemberLifecycle.toString_injective : Function.Injective MemberLifecycle.toString :=
  @injective_of_find _ MemberLifecycle.all _ fun x => by cases x <;> rfl

theorem MemberCurrentness.toString_injective : Function.Injective MemberCurrentness.toString :=
  @injective_of_find _ MemberCurrentness.all _ fun x => by cases x <;> rfl

theorem RevocationReason.toString_injective : Function.Injective RevocationReason.toString :=
  @injective_of_find _ RevocationReason.all _ fun x => by cases x <;> rfl

theorem boolText_injective : Function.Injective boolText := by
  intro a b h
  cases a <;> cases b
  all_goals first
    | rfl
    | exact absurd h (by decide)

theorem flagText_injective : Function.Injective flagText := by
  intro a b h
  cases a <;> cases b
  all_goals first
    | rfl
    | exact absurd h (by decide)

theorem PathAuthorityState.toString_injective : Function.Injective PathAuthorityState.toString :=
  @injective_of_find _ PathAuthorityState.all _ fun x => by cases x <;> rfl

theorem decimal_u64_inj {m n : UInt64} (h : decimal m.toNat = decimal n.toNat) : m = n := by
  have hparsed := Wire.parseU64_decimal m
  rw [h, Wire.parseU64_decimal] at hparsed
  exact (Option.some.inj hparsed).symm

theorem Generation.decimal_inj {d : GenerationDomain} {m n : Generation d}
    (h : decimal m.value.toNat = decimal n.value.toNat) : m = n :=
  Generation.ext (decimal_u64_inj h)

theorem StrongId.view_ne_dash (id : StrongId d) : id.view ≠ text "-" := by
  intro h
  rcases id.wellFormed with hview | hview
  · rw [h] at hview
    cases hview
  · rw [h] at hview
    simp only [idTextAllowed, Bool.and_eq_true] at hview
    exact absurd hview.1.2 (by decide)

theorem viewOrDash_injective : Function.Injective (viewOrDash (d := d)) := by
  intro a b h
  cases a with
  | none =>
      cases b with
      | none => rfl
      | some b => exact absurd h.symm b.view_ne_dash
  | some a =>
      cases b with
      | none => exact absurd h a.view_ne_dash
      | some b => exact congrArg some (StrongId.ext h)

theorem StrongId.notMem_view (id : StrongId d) (h : idCharAllowed c = false) : c ∉ id.view := by
  intro hmem
  rcases id.wellFormed with hview | hview
  · rw [hview] at hmem
    cases hmem
  · simp only [idTextAllowed, Bool.and_eq_true, List.all_eq_true] at hview
    have hallowed := hview.1.1.2 c hmem
    rw [h] at hallowed
    cases hallowed

theorem notMem_decimal (h : isDigit c = false) (n : ℕ) : c ∉ decimal n := by
  intro hmem
  have hdigit := List.all_eq_true.mp (decimal_digits n) c hmem
  rw [h] at hdigit
  cases hdigit

theorem RevocationReason.space_notMem (reason : RevocationReason) : 32 ∉ reason.toString := by
  cases reason <;> decide

theorem labelled_inj (label : l.head? = some c) (ha : c ∉ a) (hb : c ∉ b) (h : a ++ (l ++ s) = b ++ (l ++ t)) :
    a = b ∧ s = t := by
  cases l with
  | nil => cases label
  | cons _ l =>
      cases label
      rcases List.append_eq_append_iff.mp h with ⟨rest, rfl, hrest⟩ | ⟨rest, rfl, hrest⟩
      · cases rest with
        | nil =>
            rw [List.append_nil]
            exact ⟨rfl, List.append_cancel_left hrest⟩
        | cons x rest =>
            have hx := (List.cons.inj hrest).1
            exact absurd (List.mem_append_right a (hx ▸ List.mem_cons_self)) hb
      · cases rest with
        | nil =>
            rw [List.append_nil]
            exact ⟨rfl, (List.append_cancel_left hrest).symm⟩
        | cons x rest =>
            have hx := (List.cons.inj hrest).1
            exact absurd (List.mem_append_right b (hx ▸ List.mem_cons_self)) ha

theorem RevocationRecord.covered_of_render {left right : RevocationRecord} (h : left.render = right.render) :
    left.covered = right.covered := by
  unfold RevocationRecord.render at h
  simp only [List.append_assoc] at h
  obtain ⟨_, h⟩ := labelled_inj rfl (left.setId.notMem_view rfl) (right.setId.notMem_view rfl)
    (List.append_cancel_left h)
  obtain ⟨hgeneration, h⟩ := labelled_inj rfl (notMem_decimal rfl _) (notMem_decimal rfl _) h
  obtain ⟨_, h⟩ := labelled_inj rfl (notMem_decimal rfl _) (notMem_decimal rfl _) h
  obtain ⟨_, h⟩ := labelled_inj rfl (notMem_decimal rfl _) (notMem_decimal rfl _) h
  obtain ⟨_, h⟩ := labelled_inj rfl (left.publisher.notMem_view rfl) (right.publisher.notMem_view rfl) h
  have hlabel : (text " detail=\"").head? = some 32 := by decide
  have hdetail : left.reason = right.reason ∧ left.detail = right.detail := by
    cases hl : left.detail with
    | nil =>
        cases hr : right.detail with
        | nil =>
            rw [hl, hr, List.isEmpty_nil, if_pos rfl, List.append_nil, List.append_nil] at h
            exact ⟨RevocationReason.toString_injective h, rfl⟩
        | cons c rest =>
            rw [hl, hr, List.isEmpty_nil, List.isEmpty_cons, if_pos rfl, if_neg (by decide), List.append_nil] at h
            exact absurd (h ▸ List.mem_append_right _ (List.mem_append_left _ (by decide))) left.reason.space_notMem
    | cons c rest =>
        cases hr : right.detail with
        | nil =>
            rw [hl, hr, List.isEmpty_nil, List.isEmpty_cons, if_pos rfl, if_neg (by decide), List.append_nil] at h
            exact absurd (h ▸ List.mem_append_right _ (List.mem_append_left _ (by decide))) right.reason.space_notMem
        | cons c' rest' =>
            rw [hl, hr, List.isEmpty_cons, List.isEmpty_cons, if_neg (by decide), if_neg (by decide)] at h
            obtain ⟨hreason, h⟩ := labelled_inj hlabel left.reason.space_notMem right.reason.space_notMem h
            exact ⟨RevocationReason.toString_injective hreason, List.append_cancel_right h⟩
  unfold RevocationRecord.covered
  rw [hdetail.1, hdetail.2, Generation.decimal_inj hgeneration]

end Texts

end MultipathFabric
