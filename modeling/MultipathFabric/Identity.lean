import MultipathFabric.Text

namespace MultipathFabric

inductive IdDomain
  | multipathSet | multipathMember | path | snapshot | publisher | workerBoot | mutationAttempt
  | revalidationAttempt | fabric | multipathNamespace | multipathSetName | session
  deriving DecidableEq

def IdDomain.maxLength : IdDomain → Nat
  | .multipathSet => 96
  | .multipathMember => 128
  | .path => 128
  | .snapshot => 96
  | .publisher => 64
  | .workerBoot => 64
  | .mutationAttempt => 64
  | .revalidationAttempt => 64
  | .fabric => 64
  | .multipathNamespace => 64
  | .multipathSetName => 64
  | .session => 64

theorem IdDomain.maxLength_le (d : IdDomain) : d.maxLength ≤ 128 := by
  cases d <;> decide

def idCharAllowed (c : UInt8) : Bool :=
  decide (65 ≤ c ∧ c ≤ 90) || decide (97 ≤ c ∧ c ≤ 122) || decide (48 ≤ c ∧ c ≤ 57) ||
    (text "._-:@#+/").contains c

def idEdgeCharAllowed (c : UInt8) : Bool := !(text ".-:@#+/_").contains c

def idTextAllowed (d : IdDomain) (t : Bytes) : Bool :=
  !t.isEmpty && decide (t.length ≤ d.maxLength) && t.all idCharAllowed &&
    t.head?.all idEdgeCharAllowed && t.getLast?.all idEdgeCharAllowed

/-- An identity is empty (invalid, default constructed) or obeys the encoding rules of its domain. -/
structure StrongId (d : IdDomain) where
  view : Bytes
  wellFormed : view = [] ∨ idTextAllowed d view = true
  deriving DecidableEq

namespace StrongId

variable {d : IdDomain}

@[ext] theorem ext {a b : StrongId d} (h : a.view = b.view) : a = b := by
  cases a
  cases b
  simpa using h

def unset : StrongId d := ⟨[], .inl rfl⟩

instance : Inhabited (StrongId d) := ⟨unset⟩

def parse (t : Bytes) : Option (StrongId d) :=
  if h : idTextAllowed d t = true then some ⟨t, .inr h⟩ else none

def valid (a : StrongId d) : Bool := !a.view.isEmpty

theorem length_le (a : StrongId d) : a.view.length ≤ d.maxLength := by
  rcases a.wellFormed with h | h
  · simp [h]
  · simp only [idTextAllowed, Bool.and_eq_true, decide_eq_true_eq] at h
    exact h.1.1.1.2

theorem length_le_maxId (a : StrongId d) : a.view.length ≤ 128 := a.length_le.trans d.maxLength_le

theorem parse_view (a : StrongId d) (h : a.valid = true) : parse a.view = some a := by
  have hne : a.view ≠ [] := by simpa [valid] using h
  have hwf : idTextAllowed d a.view = true := a.wellFormed.resolve_left hne
  simp [parse, hwf]

theorem view_of_parse {t : Bytes} {a : StrongId d} (h : parse t = some a) : a.view = t := by
  unfold parse at h
  split at h
  · cases h
    rfl
  · cases h

theorem valid_of_parse {t : Bytes} {a : StrongId d} (h : parse t = some a) : a.valid = true := by
  unfold parse at h
  split at h
  · rename_i hwf
    cases h
    cases t with
    | nil => simp [idTextAllowed] at hwf
    | cons c rest => rfl
  · cases h

instance : Ord (StrongId d) := ⟨compareOn view⟩

instance : Std.TransOrd (StrongId d) := inferInstanceAs (Std.TransCmp (compareOn view))

instance : Std.LawfulEqOrd (StrongId d) where
  eq_of_compare h := ext (Std.LawfulEqOrd.eq_of_compare (α := Bytes) h)

end StrongId

abbrev MultipathSetId := StrongId .multipathSet
abbrev MultipathMemberId := StrongId .multipathMember
abbrev PathId := StrongId .path
abbrev SnapshotId := StrongId .snapshot
abbrev PublisherId := StrongId .publisher
abbrev WorkerBootId := StrongId .workerBoot
abbrev MutationAttemptId := StrongId .mutationAttempt
abbrev RevalidationAttemptId := StrongId .revalidationAttempt
abbrev FabricId := StrongId .fabric
abbrev MultipathNamespace := StrongId .multipathNamespace
abbrev MultipathSetName := StrongId .multipathSetName
abbrev SessionId := StrongId .session

inductive GenerationDomain
  | multipathSet | multipathMember | membership | multipathAuthority | pathAuthority | coordinatorEpoch
  deriving DecidableEq

def checkedIncrement (a : UInt64) : Option UInt64 := if a = UInt64.ofNat (2 ^ 64 - 1) then none else some (a + 1)

theorem toNat_of_checkedIncrement {a b : UInt64} (h : checkedIncrement a = some b) :
    b.toNat = a.toNat + 1 := by
  unfold checkedIncrement at h
  split at h
  · cases h
  · rename_i hne
    cases h
    have hlt : a.toNat < 2 ^ 64 := a.toNat_lt
    have hmax : a.toNat ≠ 2 ^ 64 - 1 := by
      intro hval
      exact hne (by rw [← hval, UInt64.ofNat_toNat])
    rw [UInt64.toNat_add, UInt64.toNat_one]
    omega

/-- Zero is the invalid generation; the first generation of any object is 1. -/
structure Generation (d : GenerationDomain) where
  value : UInt64
  deriving DecidableEq

namespace Generation

variable {d : GenerationDomain}

def unset : Generation d := ⟨0⟩

instance : Inhabited (Generation d) := ⟨unset⟩

def fromValue (value : UInt64) : Option (Generation d) := if value = 0 then none else some ⟨value⟩

def first : Generation d := ⟨1⟩

def valid (g : Generation d) : Bool := g.value != 0

def next (g : Generation d) : Option (Generation d) :=
  match checkedIncrement g.value with
  | none => none
  | some advanced => fromValue advanced

@[ext] theorem ext {a b : Generation d} (h : a.value = b.value) : a = b := by
  cases a
  cases b
  simpa using h

theorem toNat_of_next {g g' : Generation d} (h : g.next = some g') :
    g'.value.toNat = g.value.toNat + 1 := by
  unfold next at h
  cases hinc : checkedIncrement g.value with
  | none => simp [hinc] at h
  | some advanced =>
      simp only [hinc, fromValue] at h
      split at h
      · cases h
      · cases h
        exact toNat_of_checkedIncrement hinc

theorem ne_of_next {g g' : Generation d} (h : g.next = some g') : g' ≠ g := by
  intro heq
  have hval := toNat_of_next h
  rw [heq] at hval
  omega

theorem valid_of_next {g g' : Generation d} (h : g.next = some g') : g'.valid = true := by
  have hval := toNat_of_next h
  simp only [valid, bne_iff_ne, ne_eq]
  intro hzero
  rw [hzero] at hval
  simp at hval

end Generation

abbrev MultipathSetGeneration := Generation .multipathSet
abbrev MultipathMemberGeneration := Generation .multipathMember
abbrev MembershipGeneration := Generation .membership
abbrev MultipathAuthorityGeneration := Generation .multipathAuthority
abbrev PathAuthorityGeneration := Generation .pathAuthority
abbrev CoordinatorEpoch := Generation .coordinatorEpoch

/-- Unlike a generation, watermark zero is meaningful. -/
structure Watermark where
  value : UInt64
  deriving DecidableEq

namespace Watermark

instance : Inhabited Watermark := ⟨⟨0⟩⟩

def next (w : Watermark) : Option Watermark := (checkedIncrement w.value).map Watermark.mk

theorem toNat_of_next {w w' : Watermark} (h : w.next = some w') :
    w'.value.toNat = w.value.toNat + 1 := by
  obtain ⟨advanced, hadvanced, rfl⟩ := Option.map_eq_some_iff.mp h
  exact toNat_of_checkedIncrement hadvanced

end Watermark

def isHexDigit (c : UInt8) : Bool := isDigit c || decide (97 ≤ c ∧ c ≤ 102)

/-- The process nonce is a `std::hex` rendering of a 64-bit value. -/
structure IdFactory where
  nonce : Bytes
  counter : UInt64
  nonce_length : nonce.length ≤ 16
  nonce_hex : nonce.all isHexDigit = true

namespace IdFactory

inductive Kind
  | set | mem

def Kind.text : Kind → Bytes
  | .set => MultipathFabric.text "mpf-set-"
  | .mem => MultipathFabric.text "mpf-mem-"

def compose (f : IdFactory) (kind : Kind) (counter : UInt64) : Bytes :=
  kind.text ++ f.nonce ++ text "-" ++ decimal counter.toNat

theorem isHexDigit_allowed {c : UInt8} (h : isHexDigit c = true) : idCharAllowed c = true := by
  simp only [isHexDigit, isDigit, Bool.or_eq_true, decide_eq_true_eq, UInt8.le_iff_toNat_le] at h
  simp only [idCharAllowed, Bool.or_eq_true, decide_eq_true_eq, UInt8.le_iff_toNat_le]
  rcases h with h | h
  · exact .inl (.inr h)
  · have hhigh : c.toNat ≤ 102 := h.2
    exact .inl (.inl (.inr ⟨h.1, le_trans hhigh (by decide)⟩))

theorem isDigit_edge {c : UInt8} (h : isDigit c = true) : idEdgeCharAllowed c = true := by
  simp only [idEdgeCharAllowed, Bool.not_eq_true', List.contains_eq_mem, decide_eq_false_iff_not]
  intro hmem
  have hcases : c = 46 ∨ c = 45 ∨ c = 58 ∨ c = 64 ∨ c = 35 ∨ c = 43 ∨ c = 47 ∨ c = 95 := by
    have hbytes : text ".-:@#+/_" = [46, 45, 58, 64, 35, 43, 47, 95] := rfl
    simpa [hbytes] using hmem
  rcases hcases with rfl | rfl | rfl | rfl | rfl | rfl | rfl | rfl <;> revert h <;> decide

theorem compose_getLast (f : IdFactory) (kind : Kind) (counter : UInt64) :
    (f.compose kind counter).getLast?.all idEdgeCharAllowed = true := by
  have hne := decimal_ne_nil counter.toNat
  have hlast : (f.compose kind counter).getLast? = some ((decimal counter.toNat).getLast hne) := by
    simp [compose, List.getLast?_append, List.getLast?_eq_some_getLast hne]
  rw [hlast, Option.all_some]
  exact isDigit_edge (List.all_eq_true.mp (decimal_digits _) _ (List.getLast_mem hne))

theorem compose_length (f : IdFactory) (kind : Kind) (counter : UInt64) :
    (f.compose kind counter).length ≤ 45 := by
  have hkind : kind.text.length = 8 := by cases kind <;> rfl
  have hdash : (text "-").length = 1 := rfl
  have hnonce := f.nonce_length
  have hcounter := decimal_length_of_u64 counter
  simp only [compose, List.length_append]
  omega

theorem compose_allowed (f : IdFactory) (kind : Kind) (counter : UInt64) {d : IdDomain}
    (hd : 45 ≤ d.maxLength) : idTextAllowed d (f.compose kind counter) = true := by
  have hhead : (f.compose kind counter).head?.all idEdgeCharAllowed = true := by
    cases kind <;> rfl
  have hkind : kind.text.all idCharAllowed = true := by cases kind <;> decide +kernel
  have hdash : (text "-").all idCharAllowed = true := by decide +kernel
  have hnonce : f.nonce.all idCharAllowed = true :=
    List.all_eq_true.mpr fun c hc => isHexDigit_allowed (List.all_eq_true.mp f.nonce_hex c hc)
  have hcounter : (decimal counter.toNat).all idCharAllowed = true := by
    refine List.all_eq_true.mpr fun c hc => isHexDigit_allowed ?_
    simp [isHexDigit, List.all_eq_true.mp (decimal_digits _) c hc]
  have hall : (f.compose kind counter).all idCharAllowed = true := by
    simp only [compose, List.all_append, hkind, hnonce, hdash, hcounter, Bool.and_self]
  have hlen : (f.compose kind counter).length ≤ d.maxLength := le_trans (f.compose_length kind counter) hd
  have hne : (f.compose kind counter).isEmpty = false := by
    cases kind <;> rfl
  simp only [idTextAllowed, hne, hlen, hall, hhead, f.compose_getLast, decide_true, Bool.not_false,
    Bool.and_self]

def nextSetId (f : IdFactory) : MultipathSetId × IdFactory :=
  (⟨f.compose .set (f.counter + 1), .inr (f.compose_allowed _ _ (by decide))⟩,
    { f with counter := f.counter + 1 })

def nextMemberId (f : IdFactory) : MultipathMemberId × IdFactory :=
  (⟨f.compose .mem (f.counter + 1), .inr (f.compose_allowed _ _ (by decide))⟩,
    { f with counter := f.counter + 1 })

@[simp] theorem nextSetId_valid (f : IdFactory) : f.nextSetId.1.valid = true := by
  rfl

@[simp] theorem nextMemberId_valid (f : IdFactory) : f.nextMemberId.1.valid = true := by
  rfl

end IdFactory

end MultipathFabric
