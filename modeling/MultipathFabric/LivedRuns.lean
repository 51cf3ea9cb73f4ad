import MultipathFabric.AuthoritySpec
import MultipathFabric.Library.TransitionSystem
import MultipathFabric.MemberEdit
import MultipathFabric.RequestChecks
import MultipathFabric.StoreRoundTrip

namespace MultipathFabric

open OrderedMap

structure FabricEngine.Wrote (saver : FabricEngine) (limits : Limits) (decoded : DecodedStore) : Prop where
  storable : saver.Storable
  saved : ∃ bytes, encodeStore saver = .ok bytes ∧ decodeStore limits bytes = .ok decoded

/-- The states of the runs whose steps are allowed, and whose loads take what such a run has saved. -/
inductive Lived (allowed : FabricEngine → Op → Prop) : FabricEngine → Prop
  | init (config : FabricConfig) (ids : IdFactory) : Lived allowed (.init config ids)
  | step {e : FabricEngine} (lived : Lived allowed e) (op : Op) (plain : op.loads = false) (h : allowed e op) :
      Lived allowed (e.after op)
  | load {e saver : FabricEngine} (lived : Lived allowed e) (writer : Lived allowed saver) (path : Bytes)
      (files : StoreFiles) (wrote : ∀ decoded fallback, readAndDecode path e.limits files = .ok (decoded, fallback) →
        saver.Wrote e.limits decoded) : Lived allowed (e.after (.loadStore path files))

theorem Lived.afterAll {allowed : FabricEngine → Op → Prop} {ops : List Op} {e : FabricEngine} (h : Lived allowed e)
    (plain : ∀ op ∈ ops, op.loads = false)
    (hall : ∀ earlier op later, ops = earlier ++ op :: later → allowed (e.afterAll earlier) op) :
    Lived allowed (e.afterAll ops) := by
  induction ops generalizing e with
  | nil => exact h
  | cons op rest ih =>
      apply ih (.step h op (plain op List.mem_cons_self) (hall [] op rest rfl))
      · intro other hother
        exact plain other (List.mem_cons_of_mem _ hother)
      · rintro earlier other later rfl
        exact hall (op :: earlier) other later rfl

theorem Run.mono {allowed broader : FabricEngine → Op → Prop} {config : FabricConfig} {e : FabricEngine}
    (run : Run allowed config e) (h : ∀ x op, allowed x op → broader x op) : Run broader config e := by
  induction run with
  | init ids => exact .init ids
  | step _ op hallowed ih => exact .step ih op (h _ op hallowed)

theorem Run.reachable {allowed : FabricEngine → Op → Prop} {config : FabricConfig} {e : FabricEngine}
    (run : Run allowed config e) : Reachable config e := run.mono fun _ _ _ => trivial

abbrev Continues (allowed : FabricEngine → Op → Prop) (e : FabricEngine) : FabricEngine → Prop :=
  TransitionSystem.Reaches (· = e) fun x y => ∃ op, allowed x op ∧ y = x.after op

theorem Continues.keeps {allowed : FabricEngine → Op → Prop} {P : FabricEngine → Prop} {e e' : FabricEngine}
    (h : Continues allowed e e') (start : P e)
    (step : ∀ x op, Continues allowed e x → P x → allowed x op → P (x.after op)) : P e' := by
  refine TransitionSystem.Invariant.reached ⟨?_, ?_⟩ h
  · rintro _ rfl
    exact start
  · rintro x _ hx hholds ⟨op, hallowed, rfl⟩
    exact step x op hx hholds hallowed

theorem Continues.reachable {allowed : FabricEngine → Op → Prop} {config : FabricConfig} {e e' : FabricEngine}
    (h : Continues allowed e e') (run : Reachable config e) : Reachable config e' :=
  h.keeps (P := Reachable config) run fun _ op _ hrun _ => .step hrun op trivial

theorem Continues.takenUp {allowed : FabricEngine → Op → Prop} {e e' : FabricEngine}
    (h : Continues (FabricEngine.TakenUp allowed) e e') : Continues allowed e e' := by
  apply h.keeps (P := Continues allowed e) (.init rfl)
  intro x op _ hcontinues hallowed
  rcases x.after_eq_or_takesUp op with hsame | hup
  · rw [hsame]
    exact hcontinues
  · exact .step hcontinues ⟨op, hallowed hup, rfl⟩

/-- A property of set records that no step of a run loses. -/
structure RecordRule (allowed : FabricEngine → Op → Prop) (P : SetRecord → Prop) : Prop where
  declared : ∀ (e : FabricEngine) context setId key options summary,
    P (e.appendHistory (e.declaredRecord context setId key options) .declare .declared (some context) none none summary)
  edited : ∀ (e : FabricEngine) op (setId : MultipathSetId) r x summary, allowed e op → e.sets[setId]? = some r → P r →
    RecordEdit e setId r op x summary → P x
  sealed_ : ∀ limits x summary r', P x → Sealed limits x summary r' → P r'
  fenced : ∀ (r : SetRecord) authority epoch, P r → P (r.fenced authority epoch)
  epochAdvanced : ∀ (e : FabricEngine) r, P r → P (e.epochAdvanced r)
  restored : ∀ r : SetRecord, P r → P r.restored
  recovered : ∀ (e : FabricEngine) r, P r → P (e.recoveredSet r)

namespace RecordRule

variable {allowed : FabricEngine → Op → Prop} {P Q : SetRecord → Prop}

theorem and (hp : RecordRule allowed P) (hq : RecordRule allowed Q) : RecordRule allowed fun r => P r ∧ Q r where
  declared e context setId key options summary :=
    ⟨hp.declared e context setId key options summary, hq.declared e context setId key options summary⟩
  edited e op setId r x summary h found hr edit :=
    ⟨hp.edited e op setId r x summary h found hr.1 edit, hq.edited e op setId r x summary h found hr.2 edit⟩
  sealed_ limits x summary r' hx stored :=
    ⟨hp.sealed_ limits x summary r' hx.1 stored, hq.sealed_ limits x summary r' hx.2 stored⟩
  fenced r authority epoch hr := ⟨hp.fenced r authority epoch hr.1, hq.fenced r authority epoch hr.2⟩
  epochAdvanced e r hr := ⟨hp.epochAdvanced e r hr.1, hq.epochAdvanced e r hr.2⟩
  restored r hr := ⟨hp.restored r hr.1, hq.restored r hr.2⟩
  recovered e r hr := ⟨hp.recovered e r hr.1, hq.recovered e r hr.2⟩

theorem step (rule : RecordRule allowed P) {e : FabricEngine} {op : Op} (h : allowed e op)
    (loads : ∀ path files decoded fallback, op = .loadStore path files →
      readAndDecode path e.limits files = .ok (decoded, fallback) → ∀ r ∈ decoded.sets, P r)
    (before : ∀ (setId : MultipathSetId) (r : SetRecord), e.sets[setId]? = some r → P r)
    (setId : MultipathSetId) (r' : SetRecord) (after : (e.after op).sets[setId]? = some r') : P r' := by
  have hstep := e.after_sets op setId
  rw [after] at hstep
  generalize hentry : e.sets[setId]? = entry at hstep
  cases hstep with
  | kept => exact before setId r' hentry
  | changed edit stored =>
      exact rule.sealed_ _ _ _ _ (rule.edited _ _ _ _ _ _ h hentry (before setId _ hentry) edit) stored
  | created => exact rule.declared _ _ _ _ _ _
  | fenced => exact rule.fenced _ _ _ (before setId _ hentry)
  | epochAdvanced => exact rule.epochAdvanced _ _ (before setId _ hentry)
  | recovered opens read stored => exact rule.recovered _ _ (loads _ _ _ _ opens read _ stored)

theorem run (rule : RecordRule allowed P) (loads : ∀ e path files decoded fallback, allowed e (.loadStore path files) →
      readAndDecode path e.limits files = .ok (decoded, fallback) → ∀ r ∈ decoded.sets, P r)
    {config : FabricConfig} {e : FabricEngine} (h : Run allowed config e) :
    ∀ (setId : MultipathSetId) (r : SetRecord), e.sets[setId]? = some r → P r := by
  induction h with
  | init ids =>
      intro setId r hr
      rw [show (FabricEngine.init config ids).sets[setId]? = none from Std.ExtTreeMap.getElem?_empty] at hr
      cases hr
  | @step e _ op hallowed ih =>
      apply rule.step hallowed _ ih
      rintro path files decoded fallback rfl hread
      exact loads e path files decoded fallback hallowed hread

theorem lived (rule : RecordRule allowed P) (placed : ∀ r, P r → r.Placed) {e : FabricEngine} (h : Lived allowed e) :
    ∀ (setId : MultipathSetId) (r : SetRecord), e.sets[setId]? = some r → P r := by
  induction h with
  | init config ids =>
      intro setId r hr
      rw [show (FabricEngine.init config ids).sets[setId]? = none from Std.ExtTreeMap.getElem?_empty] at hr
      cases hr
  | step _ op plain hallowed ih =>
      apply rule.step hallowed _ ih
      rintro path files decoded fallback rfl
      cases plain
  | @load e saver _ _ path files wrote ih ihSaver =>
      intro setId r' hr'
      have hstep := e.after_sets (.loadStore path files) setId
      rw [hr'] at hstep
      generalize hentry : e.sets[setId]? = entry at hstep
      cases hstep with
      | kept => exact ih setId r' hentry
      | changed edit =>
          cases edit with
          | observed applied | invalidated applied => cases applied
          | added _ publication => cases publication
      | created creates => cases creates
      | fenced fences => cases fences
      | epochAdvanced advances => cases advances
      | recovered loads read stored =>
          cases loads
          obtain ⟨hstorable, bytes, hsaved, hdecoded⟩ := wrote _ _ read
          have hplaced : saver.Placed := fun setId r hr => placed r (ihSaver setId r hr)
          rw [decodeStore_saved hplaced hstorable hsaved hdecoded] at stored
          obtain ⟨r, hr, rfl⟩ := List.mem_map.mp stored
          obtain ⟨found, hfound⟩ := storedSets_found hr
          exact rule.recovered _ _ (rule.restored _ (ihSaver found r hfound))

end RecordRule

theorem placed_rule (allowed : FabricEngine → Op → Prop) : RecordRule allowed SetRecord.Placed where
  declared e context setId key options summary path m hm := by
    change (∅ : MemberMap)[path]? = some m at hm
    rw [Std.ExtTreeMap.getElem?_empty] at hm
    cases hm
  edited e op setId r x summary _ _ placed edit path m' hm := by
    cases edit.member hm with
    | kept found same _ => exact (congrArg Standing.pathId same).trans (placed path _ found)
    | refreshed found _ same => exact (congrArg Standing.pathId same).trans (placed path _ found)
    | evaluated found live from_ _ same =>
        have hbase := congrArg Standing.pathId from_
        have hlive := (MemberRecord.live_of_lifecycle (congrArg Standing.lifecycle from_)).trans live
        rw [MemberRecord.evaluate_standing _ _ _ hlive] at same
        exact (congrArg Standing.pathId same).trans (hbase.trans (placed path _ found))
    | marked found _ _ same => exact (congrArg Standing.pathId same).trans (placed path _ found)
    | ended found _ _ _ place => exact place.trans (placed path _ found)
    | replaced found _ _ _ place => exact place.trans (placed path _ found)
    | admitted admits => exact admits.place
  sealed_ limits x summary r' placed stored path m' hm := by
    obtain ⟨m, hfound, rfl | ⟨pruned, rfl⟩⟩ := sealed_member stored hm
    · exact placed path _ hfound
    · exact placed path m hfound
  fenced r authority epoch placed path m' hm := by
    obtain ⟨m, hfound, rfl⟩ := member_map hm
    exact placed path m hfound
  epochAdvanced e r placed path m' hm := by
    obtain ⟨m, hfound, rfl⟩ := member_map hm
    exact placed path m hfound
  restored r placed path m' hm := by
    obtain ⟨m, hfound, rfl⟩ := member_map hm
    exact placed path m hfound
  recovered e r placed path m' hm := by
    obtain ⟨m₁, h₁, rfl⟩ := member_map hm
    obtain ⟨m, hfound, rfl⟩ := member_map h₁
    exact placed path m hfound

theorem RecordRule.holds {allowed : FabricEngine → Op → Prop} {P : SetRecord → Prop} (rule : RecordRule allowed P)
    {e : FabricEngine} (h : Lived allowed e) {setId : MultipathSetId} {r : SetRecord} (found : e.sets[setId]? = some r) :
    P r :=
  ((placed_rule allowed).and rule).lived (fun _ h => h.1) h setId r found |>.2

end MultipathFabric
