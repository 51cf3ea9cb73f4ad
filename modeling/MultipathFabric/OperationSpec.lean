import MultipathFabric.Accounting

namespace MultipathFabric

open OrderedMap

namespace FabricEngine

structure Keeps (e e' : FabricEngine) : Prop where
  limits : e'.limits = e.limits
  epoch : e'.currentEpoch = e.currentEpoch
  authority : e'.currentAuthorityGeneration = e.currentAuthorityGeneration
  keyIndex : e'.keyIndex = e.keyIndex
  registrations : e'.registrations = e.registrations
  fences : e'.fences = e.fences
  directory : e'.directory = e.directory
  external : e'.externalPathAuthority = e.externalPathAuthority

theorem Keeps.refl (e : FabricEngine) : Keeps e e := ⟨rfl, rfl, rfl, rfl, rfl, rfl, rfl, rfl⟩

theorem Keeps.trans {a b c : FabricEngine} (h : Keeps a b) (h' : Keeps b c) : Keeps a c where
  limits := h'.limits.trans h.limits
  epoch := h'.epoch.trans h.epoch
  authority := h'.authority.trans h.authority
  keyIndex := h'.keyIndex.trans h.keyIndex
  registrations := h'.registrations.trans h.registrations
  fences := h'.fences.trans h.fences
  directory := h'.directory.trans h.directory
  external := h'.external.trans h.external

theorem recordAttempt_keeps (e : FabricEngine) (context : MutationContext) (operation : Bytes)
    (fields : List Bytes) (outcome : FabricOutcome) :
    Keeps e (e.recordAttempt context operation fields outcome) :=
  ⟨rfl, rfl, rfl, rfl, rfl, rfl, rfl, rfl⟩

theorem putSet_keeps (e : FabricEngine) (setId : MultipathSetId) (r : SetRecord) : Keeps e (e.putSet setId r) :=
  ⟨rfl, rfl, rfl, rfl, rfl, rfl, rfl, rfl⟩

theorem indexPath_keeps (e : FabricEngine) (setId : MultipathSetId) (path : PathId) :
    Keeps e (e.indexPath setId path) :=
  ⟨rfl, rfl, rfl, rfl, rfl, rfl, rfl, rfl⟩

theorem unindexPath_keeps (e : FabricEngine) (setId : MultipathSetId) (path : PathId) :
    Keeps e (e.unindexPath setId path) := by
  rw [unindexPath]
  split
  · exact .refl e
  · exact ⟨rfl, rfl, rfl, rfl, rfl, rfl, rfl, rfl⟩

theorem captureSnapshot_keeps (e : FabricEngine) (r : SetRecord) : Keeps e (e.captureSnapshot r) := by
  simp only [captureSnapshot]
  split
  · exact .refl e
  · exact ⟨rfl, rfl, rfl, rfl, rfl, rfl, rfl, rfl⟩

theorem unindexPath_sets (e : FabricEngine) (setId : MultipathSetId) (path : PathId) :
    (e.unindexPath setId path).sets = e.sets := by
  rw [unindexPath]
  split <;> rfl

theorem captureSnapshot_sets (e : FabricEngine) (r : SetRecord) : (e.captureSnapshot r).sets = e.sets := by
  simp only [captureSnapshot]
  split <;> rfl

theorem unindexPaths_keeps (setId : MultipathSetId) (paths : List PathId) (e : FabricEngine) :
    Keeps e (paths.foldl (fun e path => e.unindexPath setId path) e) := by
  induction paths generalizing e with
  | nil => exact .refl e
  | cons path rest ih => exact (e.unindexPath_keeps setId path).trans (ih _)

theorem unindexPaths_sets (setId : MultipathSetId) (paths : List PathId) (e : FabricEngine) :
    (paths.foldl (fun e path => e.unindexPath setId path) e).sets = e.sets := by
  induction paths generalizing e with
  | nil => rfl
  | cons path rest ih =>
      rw [List.foldl_cons, ih, unindexPath_sets]

theorem unindexVictims_keeps (e : FabricEngine) (r : SetRecord) : Keeps e (e.unindexVictims r) := by
  refine (unindexPaths_keeps r.id (pruneVictims e.limits r) e).trans ?_
  exact ⟨rfl, rfl, rfl, rfl, rfl, rfl, rfl, rfl⟩

theorem unindexVictims_sets (e : FabricEngine) (r : SetRecord) : (e.unindexVictims r).sets = e.sets :=
  unindexPaths_sets r.id (pruneVictims e.limits r) e

theorem storeCommitted_keeps (e : FabricEngine) (setId : MultipathSetId) (r committed : SetRecord) :
    Keeps e (e.storeCommitted setId r committed) :=
  (e.unindexVictims_keeps r).trans ((captureSnapshot_keeps _ _).trans (putSet_keeps _ _ _))

theorem storeCommitted_sets (e : FabricEngine) (setId : MultipathSetId) (r committed : SetRecord) :
    (e.storeCommitted setId r committed).sets = e.sets.insert setId committed := by
  rw [storeCommitted, putSet, captureSnapshot_sets, unindexVictims_sets]

structure Effect (e : FabricEngine) (op : Op) (e' : FabricEngine) : Prop where
  sets : ∀ setId, SetStep e op setId e.sets[setId]? e'.sets[setId]?
  keeps : Keeps e e'

variable {e : FabricEngine} {op : Op} {setId : MultipathSetId} {r x : SetRecord} {context : MutationContext}

theorem Effect.none (e : FabricEngine) (op : Op) : Effect e op e := ⟨fun _ => .kept _, .refl e⟩

theorem Effect.store {e' : FabricEngine} {summary : Bytes} {r' : SetRecord} (found : e.sets[setId]? = some r)
    (edit : RecordEdit e setId r op x summary) (stored : Sealed e.limits x summary r')
    (sets : e'.sets = e.sets.insert setId r') (keeps : Keeps e e') : Effect e op e' := by
  refine ⟨fun other => ?_, keeps⟩
  rw [sets, getElem?_insert_eq]
  split
  · rename_i h
    rw [← h, found]
    exact .changed edit stored
  · exact .kept _

theorem Effect.put {summary : Bytes} (found : e.sets[setId]? = some r)
    (edit : RecordEdit e setId r op x summary) : Effect e op (e.putSet setId x) :=
  .store found edit .same rfl (putSet_keeps _ _ _)

theorem Effect.recorded {summary : Bytes} (operation : Bytes) (fields : List Bytes) (outcome : FabricOutcome)
    (found : e.sets[setId]? = some r) (edit : RecordEdit e setId r op x summary) :
    Effect e op ((e.putSet setId x).recordAttempt context operation fields outcome) :=
  .store found edit .same rfl ((putSet_keeps _ _ _).trans (recordAttempt_keeps _ _ _ _ _))

theorem requireSet_ok (h : e.requireSet setId = .ok r) : e.sets[setId]? = some r := by
  simpa [requireSet] using h

theorem authorityCheck_ok {key : Option SetKey} {target : Option MultipathSetId} {u : Unit}
    (h : e.authorityCheck context key target = .ok u) :
    context.hasCallerIdentity = true ∧ context.epoch = e.currentEpoch := by
  unfold authorityCheck at h
  simp only [Checked.bind_ok, Checked.require_ok, beq_iff_eq] at h
  obtain ⟨_, hidentity, _, hepoch, _⟩ := h
  exact ⟨hidentity, hepoch⟩

end FabricEngine

theorem SetRecord.transition_ok {r x : SetRecord} {event : SetEvent} {setId : MultipathSetId}
    (h : r.transition event setId = .ok x) : r.applyTransition event = .ok x := by
  unfold transition at h
  split at h
  · rename_i y hy
    cases h
    exact hy
  · cases h

namespace SetRecord

theorem applyTransition_allowed {r x : SetRecord} {event : SetEvent} (h : r.applyTransition event = .ok x) :
    transitionAllowed r.lifecycle event = true := by
  unfold applyTransition at h
  unfold transitionAllowed
  rw [bne_iff_ne]
  intro hreject
  rw [hreject] at h
  cases h

end SetRecord

end MultipathFabric
