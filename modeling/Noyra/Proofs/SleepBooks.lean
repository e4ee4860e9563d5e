import Mathlib.Tactic.Lemma
import Noyra.Proofs.SleepEffects
import Noyra.Sleep.Integrity

/-!
# The books of sleep

What every reachable state satisfies: identifiers are new, the history of the fatigue leads to its current row,
the transitions of a run lead to its status, and what a run refers to exists. Every write keeps the books.
-/

namespace Noyra.Sleep.Proofs
open Noyra.Lib

variable {fl : Floats} {cfg : SleepConfig}

lemma event?_of_extends {db db' : SleepDb fl} {id : Nat} {e : EventRow} (hp : db.events <+: db'.events)
    (h : db.event? id = some e) : db'.event? id = some e := by
  obtain ⟨later, hlater⟩ := hp
  unfold SleepDb.event? at h ⊢
  rw [← hlater, List.find?_append, h]
  rfl

lemma rowid?_of_extends {db db' : SleepDb fl} {id n : Nat} (hp : db.events <+: db'.events)
    (h : db.rowid? id = some n) : db'.rowid? id = some n := by
  obtain ⟨later, hlater⟩ := hp
  unfold SleepDb.rowid? at h ⊢
  obtain ⟨k, hk, rfl⟩ := Option.map_eq_some_iff.mp h
  rw [← hlater, List.findIdx?_append, hk]
  rfl

lemma event?_appendEvent {db : SleepDb fl} {subjectId : Nat} {eventType : EventType}
    (hfresh : ∀ e ∈ db.events, e.eventId < db.nextId) :
    (db.appendEvent subjectId eventType).event? db.nextId = some ⟨db.nextId, subjectId, eventType⟩ := by
  unfold SleepDb.event? SleepDb.appendEvent
  have hnone : db.events.find? (fun e => decide (e.eventId = db.nextId)) = none := by
    rw [List.find?_eq_none]
    intro e he
    have := hfresh e he
    simp only [decide_eq_true_eq]
    omega
  simp [hnone]

/-- The fatigue a history leads to. -/
def reachedFatigue (cfg : SleepConfig) (first : cfg.fl.F) (history : List (FatigueTransitionRow cfg.fl)) : cfg.fl.F :=
  (history.getLast?.map FatigueTransitionRow.newFatigue).getD first

/-- A history goes on from the fatigue it leads to. -/
lemma auditFatigueHistory_append {first : cfg.fl.F} {history : List (FatigueTransitionRow cfg.fl)}
    {t : FatigueTransitionRow cfg.fl} (h : auditFatigueHistory cfg first history = .ok ())
    (ht : auditFatigueHistory cfg (reachedFatigue cfg first history) [t] = .ok ()) :
    auditFatigueHistory cfg first (history ++ [t]) = .ok () := by
  induction history generalizing first with
  | nil => exact ht
  | cons x history ih =>
    unfold auditFatigueHistory at h
    obtain ⟨_, hrange, h⟩ := bind_eq_ok.mp h
    obtain ⟨_, hsame, h⟩ := bind_eq_ok.mp h
    obtain ⟨_, hrow, h⟩ := bind_eq_ok.mp h
    obtain ⟨_, hreason, h⟩ := bind_eq_ok.mp h
    have hreached : reachedFatigue cfg first (x :: history) = reachedFatigue cfg x.newFatigue history := by
      cases history with
      | nil => rfl
      | cons y history => simp [reachedFatigue, List.getLast?_eq_some_getLast]
    rw [hreached] at ht
    rw [List.cons_append]
    unfold auditFatigueHistory
    rw [hrange, ok_bind, hsame, ok_bind, hrow, ok_bind, hreason, ok_bind]
    exact ih h ht

lemma auditTransitions_append {expected : Option RunStatus} {ts : List SleepTransitionRow} {t : SleepTransitionRow}
    (h : auditTransitions cfg expected ts = .ok t.fromStatus)
    (hhash : t.stateHash = cfg.transitionHash t.fromStatus t.toStatus t.reason) :
    auditTransitions cfg expected (ts ++ [t]) = .ok (some t.toStatus) := by
  induction ts generalizing expected with
  | nil =>
    cases h
    simp [auditTransitions, raiseIf, hhash]
  | cons x ts ih =>
    unfold auditTransitions at h
    obtain ⟨_, hx, h⟩ := bind_eq_ok.mp h
    rw [List.cons_append]
    unfold auditTransitions
    rw [hx, ok_bind]
    exact ih h

/-- The fatigue of a subject and its history. -/
structure FatigueBooked (cfg : SleepConfig) (fatigue : Table (@FatigueRow.subjectId cfg.fl))
    (history : List (FatigueTransitionRow cfg.fl)) (subjectId : Nat) : Prop where
  walk : auditFatigueHistory cfg (cfg.fl.ofInt 0) (history.filter (fun t => t.subjectId = subjectId)) = .ok ()
  absent : fatigue.find? subjectId = none → history.filter (fun t => t.subjectId = subjectId) = []
  row : ∀ r, fatigue.find? subjectId = some r → auditFatigueRow cfg r.fatigue r.mode r.inputs r.stateHash = .ok ()
  kept : ∀ r, fatigue.find? subjectId = some r → r.inputs.stored = r.inputs
  reached : ∀ r, fatigue.find? subjectId = some r →
    r.fatigue = reachedFatigue cfg (cfg.fl.ofInt 0) (history.filter (fun t => t.subjectId = subjectId))
  hash : ∀ r, fatigue.find? subjectId = some r →
    ∀ t, (history.filter (fun t => t.subjectId = subjectId)).getLast? = some t → t.stateHash = r.stateHash
  version : ∀ r, fatigue.find? subjectId = some r →
    r.version = (history.filter (fun t => t.subjectId = subjectId)).length + 1

/-- The transitions of a run. -/
def transitionsOf (db : SleepDb fl) (sleepId : Nat) : List SleepTransitionRow :=
  db.transitions.filter (fun t => t.sleepId = sleepId)

/-- The reflection of a run, or that it has none. -/
def ReflectionBooked (cfg : SleepConfig) (db : SleepDb cfg.fl) (r : SleepRunRow cfg.fl) : Prop :=
  match r.reflectionEventId with
  | none => db.reflections.find? r.sleepId = none
  | some eventId => ∃ x e, db.reflections.find? r.sleepId = some x ∧ x.eventId = eventId ∧
      auditReflection cfg x = .ok () ∧ db.event? eventId = some e ∧ e.eventType = .sleepReflection

/-- What the tables hold of a run. -/
structure RunBooked (cfg : SleepConfig) (db : SleepDb cfg.fl) (r : SleepRunRow cfg.fl) : Prop where
  fatigue : cfg.fl.within 0 100 r.preSleepFatigue = true
  hash : runStateHash cfg r = r.stateHash
  walk : auditTransitions cfg none (transitionsOf db r.sleepId) = .ok (some r.status)
  version : r.version = (transitionsOf db r.sleepId).length + (if r.reflectionEventId.isSome then 1 else 0)
  reflection : ReflectionBooked cfg db r
  checkpointed : r.status = .deepSleep ∨ r.status = .waking ∨ r.status = .complete → r.checkpointId ≠ none
  checkpoint : ∀ c, r.checkpointId = some c → (db.snapshots.find? c).isSome
  rested : (db.fatigue.find? r.subjectId).isSome

/-- The identity of a subject has the newest version. -/
structure IdentityBooked (db : SleepDb fl) (i : IdentityRow) : Prop where
  newest : ∀ x ∈ db.snapshots, x.subjectId = i.subjectId → x.stateVersion ≤ i.stateVersion
  checkpoint : ∀ c, i.lastCheckpoint = some c → (db.snapshots.find? c).isSome

/-- The identifiers that were given out. -/
structure IdsBooked (db : SleepDb fl) : Prop where
  runs : ∀ r ∈ db.runs, r.sleepId < db.nextId
  events : ∀ e ∈ db.events, e.eventId < db.nextId
  snapshots : ∀ x ∈ db.snapshots, x.snapshotId < db.nextId
  retryBlocks : ∀ b ∈ db.retryBlocks, b.blockId < db.nextId
  candidates : ∀ c ∈ db.candidates, c.candidateId < db.nextId

/-- The books of sleep. -/
structure Books (cfg : SleepConfig) (db : SleepDb cfg.fl) : Prop where
  ids : IdsBooked db
  fatigue : ∀ i, FatigueBooked cfg db.fatigue db.fatigueTransitions i
  runs : ∀ r ∈ db.runs, RunBooked cfg db r
  identities : ∀ i ∈ db.identities, IdentityBooked db i
  known : ∀ i, (db.lifecycle? i).isSome → (db.identities.find? i).isSome
  transitions : ∀ t ∈ db.transitions, (db.runs.find? t.sleepId).isSome
  reflections : ∀ x ∈ db.reflections, (db.runs.find? x.sleepId).isSome ∧ (db.event? x.eventId).isSome
  integrations : ∀ i ∈ db.integrations, (db.runs.find? i.sleepId).isSome ∧ auditIntegration i = .ok ()
  retryBlocks : ∀ b ∈ db.retryBlocks, auditRetryBlock cfg db b.subjectId b = .ok ()

/-- What a run refers to stays. -/
structure Continues (db db' : SleepDb fl) (r : SleepRunRow fl) : Prop where
  transitions : transitionsOf db' r.sleepId = transitionsOf db r.sleepId
  reflections : db'.reflections.find? r.sleepId = db.reflections.find? r.sleepId
  events : db.events <+: db'.events
  snapshots : ∀ c, r.checkpointId = some c → (db.snapshots.find? c).isSome → (db'.snapshots.find? c).isSome
  fatigue : (db.fatigue.find? r.subjectId).isSome → (db'.fatigue.find? r.subjectId).isSome

lemma ReflectionBooked.mono {db db' : SleepDb cfg.fl} {r r' : SleepRunRow cfg.fl} (h : ReflectionBooked cfg db r)
    (hid : r'.sleepId = r.sleepId) (hevent : r'.reflectionEventId = r.reflectionEventId)
    (hreflections : db'.reflections.find? r.sleepId = db.reflections.find? r.sleepId)
    (hevents : db.events <+: db'.events) : ReflectionBooked cfg db' r' := by
  unfold ReflectionBooked at h ⊢
  rw [hevent, hid, hreflections]
  split at h
  · exact h
  · obtain ⟨x, e, hx, hxe, haudit, he, htype⟩ := h
    exact ⟨x, e, hx, hxe, haudit, event?_of_extends hevents he, htype⟩

lemma RunBooked.mono {db db' : SleepDb cfg.fl} {r : SleepRunRow cfg.fl} (h : RunBooked cfg db r)
    (hc : Continues db db' r) : RunBooked cfg db' r where
  fatigue := h.fatigue
  hash := h.hash
  walk := by rw [hc.transitions]; exact h.walk
  version := by rw [hc.transitions]; exact h.version
  reflection := h.reflection.mono rfl rfl hc.reflections hc.events
  checkpointed := h.checkpointed
  checkpoint := fun c hcp => hc.snapshots c hcp (h.checkpoint c hcp)
  rested := hc.fatigue h.rested

lemma auditRetryBlock_mono {db db' : SleepDb cfg.fl} {subjectId : Nat} {b : RetryBlockRow}
    (hp : db.events <+: db'.events) (h : auditRetryBlock cfg db subjectId b = .ok ()) :
    auditRetryBlock cfg db' subjectId b = .ok () := by
  unfold auditRetryBlock at h ⊢
  obtain ⟨_, hhash, h⟩ := bind_eq_ok.mp h
  rw [hhash, ok_bind]
  cases hstatus : b.status with
  | active =>
    rw [hstatus] at h
    exact h
  | released =>
    rw [hstatus] at h
    simp only [raiseIf_eq_ok, not_or] at h ⊢
    obtain ⟨hat, hevent, hrow⟩ := h
    refine ⟨hat, ?_, ?_⟩
    · intro hall
      apply hevent
      cases he : b.releaseEvidenceEventId.bind db.event? with
      | none => rfl
      | some e =>
        obtain ⟨id, hid, hfound⟩ := Option.bind_eq_some_iff.mp he
        rw [hid, Option.bind_some, event?_of_extends hp hfound] at hall
        exact hall
    · intro hall
      apply hrow
      cases he : b.releaseEvidenceEventId.bind db.rowid? with
      | none => rfl
      | some n =>
        obtain ⟨id, hid, hfound⟩ := Option.bind_eq_some_iff.mp he
        rw [hid, Option.bind_some, rowid?_of_extends hp hfound] at hall
        exact hall

lemma books_appendEvent {db : SleepDb cfg.fl} (h : Books cfg db) (subjectId : Nat) (eventType : EventType) :
    Books cfg (db.appendEvent subjectId eventType) := by
  have hp : db.events <+: (db.appendEvent subjectId eventType).events := List.prefix_append _ _
  have hids := h.ids
  refine ⟨⟨?_, ?_, ?_, ?_, ?_⟩, h.fatigue, ?_, ?_, h.known, h.transitions, ?_, h.integrations, ?_⟩
  · exact fun r hr => Nat.lt_succ_of_lt (hids.runs r hr)
  · intro e he
    rcases List.mem_append.mp he with he | he
    · exact Nat.lt_succ_of_lt (hids.events e he)
    · rw [List.mem_singleton.mp he]
      exact Nat.lt_succ_self _
  · exact fun x hx => Nat.lt_succ_of_lt (hids.snapshots x hx)
  · exact fun b hb => Nat.lt_succ_of_lt (hids.retryBlocks b hb)
  · exact fun c hc => Nat.lt_succ_of_lt (hids.candidates c hc)
  · exact fun r hr => (h.runs r hr).mono ⟨rfl, rfl, hp, fun _ _ hs => hs, id⟩
  · exact fun i hi => ⟨(h.identities i hi).newest, (h.identities i hi).checkpoint⟩
  · intro x hx
    obtain ⟨hrun, hevent⟩ := h.reflections x hx
    obtain ⟨e, he⟩ := Option.isSome_iff_exists.mp hevent
    exact ⟨hrun, Option.isSome_iff_exists.mpr ⟨e, event?_of_extends hp he⟩⟩
  · exact fun b hb => auditRetryBlock_mono hp (h.retryBlocks b hb)

lemma lifecycle?_replace {db : SleepDb fl} {subjectId : Nat} {state target : LifecycleState}
    {runtimeStates : Table RuntimeRow.subjectId} (hstate : db.lifecycle? subjectId = some state)
    (h : runtimeStates = db.runtimeStates.replace ⟨subjectId, target⟩) (i : Nat) :
    (runtimeStates.find? i).map RuntimeRow.state = if i = subjectId then some target else db.lifecycle? i := by
  obtain ⟨row, hrow, -⟩ := Option.map_eq_some_iff.mp hstate
  have hfind : (db.runtimeStates.replace ⟨subjectId, target⟩).find? i =
      if i = subjectId then some ⟨subjectId, target⟩ else db.runtimeStates.find? i := Table.find?_replace hrow i
  rw [h, hfind]
  split
  · rfl
  · rfl

lemma books_setLifecycle {db : SleepDb cfg.fl} (h : Books cfg db) {subjectId : Nat} {state target : LifecycleState}
    (hstate : db.lifecycle? subjectId = some state) : Books cfg (db.setLifecycle subjectId target) := by
  refine ⟨⟨h.ids.runs, h.ids.events, h.ids.snapshots, h.ids.retryBlocks, h.ids.candidates⟩, h.fatigue, ?_, ?_, ?_,
    h.transitions, h.reflections, h.integrations, h.retryBlocks⟩
  · exact fun r hr => (h.runs r hr).mono ⟨rfl, rfl, List.prefix_refl _, fun _ _ hs => hs, id⟩
  · exact fun i hi => ⟨(h.identities i hi).newest, (h.identities i hi).checkpoint⟩
  · intro i hi
    have hlife : (db.setLifecycle subjectId target).lifecycle? i =
        if i = subjectId then some target else db.lifecycle? i := lifecycle?_replace hstate rfl i
    rw [hlife] at hi
    split at hi
    · next heq =>
      rw [heq]
      exact h.known subjectId (by rw [hstate]; rfl)
    · exact h.known i hi

lemma books_transitionConnection {db db' : SleepDb cfg.fl} (h : Books cfg db) {subjectId : Nat}
    {target : LifecycleState}
    {reason actor : String} (hok : transitionConnection subjectId target reason actor db = .ok db') :
    Books cfg db' := by
  obtain ⟨-, state, hstate, -, rfl⟩ := transitionConnection_ok hok
  exact books_appendEvent (books_setLifecycle h hstate) _ _

/-! ### Fatigue -/

lemma within_of_int {a b n : Int} (h : 0 ≤ a ∧ a ≤ n ∧ n ≤ b ∧ b ≤ 168) :
    cfg.fl.within a b (cfg.fl.ofInt n) = true := by
  obtain ⟨hzero, ha, hb, hmax⟩ := h
  have hlow := cfg.fl.le_ofInt a n hzero (by omega) (by omega) (by omega)
  have hhigh := cfg.fl.le_ofInt n b (by omega) (by omega) (by omega) hmax
  rw [Floats.within, hlow, hhigh, decide_eq_true ha, decide_eq_true hb]
  rfl

lemma stored_zero : cfg.fl.stored (cfg.fl.ofInt 0) = cfg.fl.ofInt 0 := cfg.fl.stored_ofInt 0 (by omega) (by omega)

lemma sameNumber_self {low high : Int} {x : cfg.fl.F} (h : cfg.fl.within low high x = true) :
    cfg.fl.sameNumber x x = true := by
  rw [Floats.within, Bool.and_eq_true] at h
  simp [Floats.sameNumber, cfg.fl.le_right_self _ _ h.1]

lemma auditFatigueRow_ok {fatigue : cfg.fl.F} {mode : FatigueMode} {inputs : FatigueInputs cfg.fl} {hash : Digest} :
    auditFatigueRow cfg fatigue mode inputs hash = .ok () ↔
      cfg.fl.within 0 100 fatigue = true ∧ inputs.valid = true ∧ cfg.fatigueHash fatigue mode inputs = hash ∧
        mode = modeFor cfg fatigue := by
  unfold auditFatigueRow
  constructor
  · intro h
    obtain ⟨_, hrange, h⟩ := bind_eq_ok.mp h
    obtain ⟨_, hhash, h⟩ := bind_eq_ok.mp h
    rw [raiseIf_eq_ok, not_or, Bool.not_eq_false, Bool.not_eq_false] at hrange
    rw [raiseIf_eq_ok, not_not] at hhash h
    exact ⟨hrange.1, hrange.2, hhash, h⟩
  · rintro ⟨hrange, hvalid, hhash, hmode⟩
    rw [raiseIf_neg (by simp [hrange, hvalid]), ok_bind, raiseIf_neg (not_not.mpr hhash), ok_bind]
    exact raiseIf_neg (not_not.mpr hmode)

lemma stored_rested {x : cfg.fl.F} (h : cfg.fl.stored x = x) :
    (FatigueInputs.rested x : FatigueInputs cfg.fl).stored = FatigueInputs.rested x := by
  simp [FatigueInputs.rested, FatigueInputs.stored, h, stored_zero]

lemma stored_maxZero (x : cfg.fl.F) : cfg.fl.stored (cfg.fl.maxZero x) = cfg.fl.maxZero x := by
  unfold Floats.maxZero
  split
  · next h => exact cfg.fl.stored_pos x h.2 h.1
  · exact stored_zero

/-- Writing the fatigue of a subject keeps its history, when the columns pass the audit. -/
lemma fatigueBooked_written {db : SleepDb cfg.fl} {row : FatigueRow cfg.fl} {fatigue : cfg.fl.F} {mode : FatigueMode}
    {inputs : FatigueInputs cfg.fl} {reason : String}
    (h : ∀ i, FatigueBooked cfg db.fatigue db.fatigueTransitions i) (hrow : db.fatigue.find? row.subjectId = some row)
    (hreason : strip reason ≠ "")
    (haudit : auditFatigueRow cfg (cfg.fl.stored fatigue) mode inputs.stored (cfg.fatigueHash fatigue mode inputs) =
      .ok ()) (i : Nat) :
    FatigueBooked cfg (fatigueWritten cfg row fatigue mode inputs reason db).fatigue
      (fatigueWritten cfg row fatigue mode inputs reason db).fatigueTransitions i := by
  have hkey : db.fatigue.find? (fatigueChanged cfg row fatigue mode inputs).subjectId = some row := hrow
  have hfind : (fatigueWritten cfg row fatigue mode inputs reason db).fatigue.find? i =
      if i = row.subjectId then some (fatigueChanged cfg row fatigue mode inputs) else db.fatigue.find? i :=
    Table.find?_replace hkey i
  have hfilter : (fatigueWritten cfg row fatigue mode inputs reason db).fatigueTransitions.filter
      (fun t => t.subjectId = i) = db.fatigueTransitions.filter (fun t => t.subjectId = i) ++
        if i = row.subjectId then [⟨row.subjectId, row.fatigue, cfg.fl.stored fatigue, mode, inputs.stored, reason,
          cfg.fatigueHash fatigue mode inputs⟩] else [] := by
    unfold fatigueWritten
    rw [List.filter_append]
    congr 1
    by_cases hi : i = row.subjectId
    · simp [hi]
    · simp [hi, Ne.symm hi]
  by_cases hi : i = row.subjectId
  · subst hi
    rw [if_pos rfl] at hfind hfilter
    have hbooked := h row.subjectId
    have hold := auditFatigueRow_ok.mp (hbooked.row row hrow)
    refine ⟨?_, ?_, ?_, ?_, ?_, ?_, ?_⟩
    · rw [hfilter]
      apply auditFatigueHistory_append hbooked.walk
      rw [← hbooked.reached row hrow]
      unfold auditFatigueHistory
      rw [raiseIf_neg (by simp [hold.1]), ok_bind, raiseIf_neg (by simp [sameNumber_self hold.1]), ok_bind, haudit,
        ok_bind, raiseIf_neg hreason, ok_bind]
      rfl
    · rw [hfind]
      intro hnone
      cases hnone
    · rw [hfind]
      rintro r hr
      cases hr
      exact haudit
    · rw [hfind]
      rintro r hr
      cases hr
      simp [fatigueChanged, FatigueInputs.stored, cfg.fl.stored_stored]
    · rw [hfind, hfilter]
      rintro r hr
      cases hr
      simp [reachedFatigue, fatigueChanged]
    · rw [hfind, hfilter]
      rintro r hr t ht
      cases hr
      rw [List.getLast?_append, List.getLast?_singleton, Option.some_or] at ht
      cases ht
      rfl
    · rw [hfind, hfilter]
      rintro r hr
      cases hr
      have hversion := hbooked.version row hrow
      rw [List.length_append, List.length_singleton, ← hversion]
      rfl
  · rw [if_neg hi] at hfind hfilter
    rw [List.append_nil] at hfilter
    have hbooked := h i
    refine ⟨?_, ?_, ?_, ?_, ?_, ?_, ?_⟩
    · rw [hfilter]
      exact hbooked.walk
    · rw [hfind, hfilter]
      exact hbooked.absent
    · rw [hfind]
      exact hbooked.row
    · rw [hfind]
      exact hbooked.kept
    · rw [hfind, hfilter]
      exact hbooked.reached
    · rw [hfind, hfilter]
      exact hbooked.hash
    · rw [hfind, hfilter]
      exact hbooked.version

/-- Tables that differ in their fatigue alone. -/
lemma books_of_fatigue {db : SleepDb cfg.fl} (h : Books cfg db) {fatigue : Table (@FatigueRow.subjectId cfg.fl)}
    {history : List (FatigueTransitionRow cfg.fl)} (hf : ∀ i, FatigueBooked cfg fatigue history i)
    (hsome : ∀ i, (db.fatigue.find? i).isSome → (fatigue.find? i).isSome) :
    Books cfg { db with fatigue := fatigue, fatigueTransitions := history } := by
  refine ⟨⟨h.ids.runs, h.ids.events, h.ids.snapshots, h.ids.retryBlocks, h.ids.candidates⟩, hf, ?_, ?_, h.known,
    h.transitions, h.reflections, h.integrations, h.retryBlocks⟩
  · exact fun r hr => (h.runs r hr).mono ⟨rfl, rfl, List.prefix_refl _, fun _ _ hs => hs, hsome _⟩
  · exact fun i hi => ⟨(h.identities i hi).newest, (h.identities i hi).checkpoint⟩

lemma books_fatigueWritten {db : SleepDb cfg.fl} (h : Books cfg db) {row : FatigueRow cfg.fl} {fatigue : cfg.fl.F}
    {mode : FatigueMode} {inputs : FatigueInputs cfg.fl} {reason : String}
    (hrow : db.fatigue.find? row.subjectId = some row) (hreason : strip reason ≠ "")
    (haudit : auditFatigueRow cfg (cfg.fl.stored fatigue) mode inputs.stored (cfg.fatigueHash fatigue mode inputs) =
      .ok ()) : Books cfg (fatigueWritten cfg row fatigue mode inputs reason db) := by
  refine books_of_fatigue h (fatigueBooked_written h.fatigue hrow hreason haudit) ?_
  intro i hi
  have hkey : db.fatigue.find? (fatigueChanged cfg row fatigue mode inputs).subjectId = some row := hrow
  rw [Table.find?_replace hkey]
  split
  · rfl
  · exact hi

lemma modeFor_zero : modeFor cfg (cfg.fl.ofInt 0) = .active := by
  simp [modeFor, cfg.fl.le_ofInt]

lemma modeFor_hundred : modeFor cfg (cfg.fl.ofInt 100) = .sleeping := by
  simp [modeFor, cfg.fl.le_ofInt]

lemma valid_rested {x : cfg.fl.F} (h : cfg.fl.within 0 1 x = true) :
    (FatigueInputs.rested x : FatigueInputs cfg.fl).valid = true := by
  have hzero : cfg.fl.within 0 1 (cfg.fl.ofInt 0) = true := within_of_int (by omega)
  simp [FatigueInputs.valid, FatigueInputs.rested, h, hzero]

lemma auditFatigueRow_initialFatigue (subjectId : Nat) :
    auditFatigueRow cfg (initialFatigue cfg subjectId).fatigue (initialFatigue cfg subjectId).mode
      (initialFatigue cfg subjectId).inputs (initialFatigue cfg subjectId).stateHash = .ok () :=
  auditFatigueRow_ok.mpr ⟨within_of_int (by omega),
    valid_rested (within_of_int (by omega)), rfl, modeFor_zero.symm⟩

/-- The first row of a subject has no history. -/
lemma books_initialFatigue {db : SleepDb cfg.fl} (h : Books cfg db) {subjectId : Nat}
    {table : Table (@FatigueRow.subjectId cfg.fl)} (hnone : db.fatigue.find? subjectId = none)
    (hinsert : db.fatigue.insert? (initialFatigue cfg subjectId) = some table) :
    Books cfg { db with fatigue := table } := by
  have hempty := (h.fatigue subjectId).absent hnone
  have haudit : auditFatigueRow cfg (cfg.fl.ofInt 0) .active (FatigueInputs.rested (cfg.fl.ofInt 0))
      (initialFatigue cfg subjectId).stateHash = .ok () := auditFatigueRow_initialFatigue subjectId
  have hfind : ∀ i, table.find? i = if i = subjectId then some (initialFatigue cfg subjectId) else db.fatigue.find? i :=
    fun i => Table.find?_insert hinsert i
  refine books_of_fatigue h ?_ ?_
  · intro i
    by_cases hi : i = subjectId
    · subst hi
      have hself := hfind i
      rw [if_pos rfl] at hself
      refine ⟨(h.fatigue i).walk, fun _ => hempty, ?_, ?_, ?_, ?_, ?_⟩
      · rw [hself]
        rintro r hr
        cases hr
        exact haudit
      · rw [hself]
        rintro r hr
        cases hr
        exact stored_rested stored_zero
      · rw [hself, hempty]
        rintro r hr
        cases hr
        rfl
      · rw [hempty]
        rintro r - t ht
        cases ht
      · rw [hself, hempty]
        rintro r hr
        cases hr
        rfl
    · have hother := hfind i
      rw [if_neg hi] at hother
      have hbooked := h.fatigue i
      refine ⟨hbooked.walk, ?_, ?_, ?_, ?_, ?_, ?_⟩
      · rw [hother]
        exact hbooked.absent
      · rw [hother]
        exact hbooked.row
      · rw [hother]
        exact hbooked.kept
      · rw [hother]
        exact hbooked.reached
      · rw [hother]
        exact hbooked.hash
      · rw [hother]
        exact hbooked.version
  · intro i hi
    rw [hfind]
    split
    · rfl
    · exact hi

/-! ### Checkpoints -/

lemma isSome_insert {κ ρ : Type} [DecidableEq κ] {key : ρ → κ} {t t' : Table key} {new : ρ}
    (h : t.insert? new = some t') {k : κ} (hk : (t.find? k).isSome) : (t'.find? k).isSome := by
  rw [Table.find?_insert h]
  split
  · rfl
  · exact hk

lemma isSome_replace {κ ρ : Type} [DecidableEq κ] {key : ρ → κ} {t : Table key} {old new : ρ}
    (h : t.find? (key new) = some old) {k : κ} (hk : (t.find? k).isSome) : ((t.replace new).find? k).isSome := by
  rw [Table.find?_replace h]
  split
  · rfl
  · exact hk

lemma mem_insert {κ ρ : Type} [DecidableEq κ] {key : ρ → κ} {t t' : Table key} {new : ρ} (h : t.insert? new = some t')
    {x : ρ} (hx : x ∈ t') : x ∈ t ∨ x = new := by
  rw [Table.mem_def, (Table.insert?_eq_some.mp h).2, List.mem_append, List.mem_singleton] at hx
  exact hx

lemma books_checkpointSaved {db : SleepDb cfg.fl} (h : Books cfg db) {subjectId bytes : Nat} {identity : IdentityRow}
    {table : Table SnapshotRow.snapshotId} (hidentity : db.identities.find? subjectId = some identity)
    (hinsert : db.snapshots.insert? ⟨db.nextId, subjectId, identity.stateVersion + 1, bytes⟩ = some table) :
    Books cfg (checkpointSaved subjectId (identity.stateVersion + 1) table db) := by
  obtain ⟨hmem, hsubject⟩ := Table.find?_eq_some.mp hidentity
  have hkey : db.identities.find? (IdentityRow.subjectId ⟨subjectId, identity.stateVersion + 1, some db.nextId⟩) =
      some identity := hidentity
  have hnew : (table.find? db.nextId).isSome := by
    rw [Table.find?_insert hinsert, if_pos rfl]
    rfl
  refine ⟨⟨?_, ?_, ?_, ?_, ?_⟩, h.fatigue, ?_, ?_, ?_, h.transitions, h.reflections, h.integrations, h.retryBlocks⟩
  · exact fun r hr => Nat.lt_succ_of_lt (h.ids.runs r hr)
  · exact fun e he => Nat.lt_succ_of_lt (h.ids.events e he)
  · intro x hx
    rcases mem_insert hinsert hx with hx | rfl
    · exact Nat.lt_succ_of_lt (h.ids.snapshots x hx)
    · exact Nat.lt_succ_self _
  · exact fun b hb => Nat.lt_succ_of_lt (h.ids.retryBlocks b hb)
  · exact fun c hc => Nat.lt_succ_of_lt (h.ids.candidates c hc)
  · exact fun r hr => (h.runs r hr).mono
      ⟨rfl, rfl, List.prefix_refl _, fun _ _ hs => isSome_insert hinsert hs, id⟩
  · intro i hi
    rcases Table.mem_replace.mp hi with ⟨rfl, -⟩ | ⟨hi, hne⟩
    · refine ⟨?_, ?_⟩
      · intro x hx hxs
        rcases mem_insert hinsert hx with hx | rfl
        · have := (h.identities identity hmem).newest x hx (hxs.trans hsubject.symm)
          change x.stateVersion ≤ identity.stateVersion + 1
          omega
        · exact Nat.le_refl _
      · intro c hc
        cases hc
        exact hnew
    · refine ⟨?_, fun c hc => isSome_insert hinsert ((h.identities i hi).checkpoint c hc)⟩
      intro x hx hxs
      rcases mem_insert hinsert hx with hx | rfl
      · exact (h.identities i hi).newest x hx hxs
      · exact absurd hxs.symm hne
  · exact fun i hi => isSome_replace hkey (h.known i hi)

/-- The books of a run that was just opened. -/
lemma books_opened {db : SleepDb cfg.fl} (h : Books cfg db) {subjectId : Nat} {q : StartRequest}
    {fatigue : FatigueRow cfg.fl} {wake : Option Nat} {table : Table (@SleepRunRow.sleepId cfg.fl)}
    (hfatigue : db.fatigue.find? subjectId = some fatigue)
    (hinsert : db.runs.insert? (openedRun cfg subjectId q fatigue wake db.nextId) = some table) (reason : String) :
    Books cfg (insertTransition cfg db.nextId none .windingDown reason
      { db with runs := table, nextId := db.nextId + 1 }) := by
  have hnone : transitionsOf db db.nextId = [] := by
    unfold transitionsOf
    rw [List.filter_eq_nil_iff]
    intro t ht
    obtain ⟨r, hr⟩ := Option.isSome_iff_exists.mp (h.transitions t ht)
    obtain ⟨hmem, hid⟩ := Table.find?_eq_some.mp hr
    have := h.ids.runs r hmem
    simp only [decide_eq_true_eq]
    omega
  have hunreflected : db.reflections.find? db.nextId = none := by
    rw [Table.find?_eq_none]
    intro x hx hid
    obtain ⟨r, hr⟩ := Option.isSome_iff_exists.mp (h.reflections x hx).1
    obtain ⟨hmem, hrid⟩ := Table.find?_eq_some.mp hr
    have := h.ids.runs r hmem
    omega
  have htransitions : ∀ id, transitionsOf (insertTransition cfg db.nextId none .windingDown reason
      { db with runs := table, nextId := db.nextId + 1 }) id = transitionsOf db id ++
        if id = db.nextId then [⟨db.nextId, none, .windingDown, reason, cfg.transitionHash none .windingDown reason⟩]
        else [] := by
    intro id
    unfold transitionsOf insertTransition
    rw [List.filter_append]
    congr 1
    by_cases hid : id = db.nextId
    · simp [hid]
    · simp [hid, Ne.symm hid]
  have hnewrun : (table.find? db.nextId).isSome :=
    Option.isSome_iff_exists.mpr ⟨_, (Table.find?_insert hinsert db.nextId).trans (if_pos rfl)⟩
  refine ⟨⟨?_, ?_, ?_, ?_, ?_⟩, h.fatigue, ?_, ?_, h.known, ?_, ?_, ?_, h.retryBlocks⟩
  · intro r hr
    rcases mem_insert hinsert hr with hr | rfl
    · exact Nat.lt_succ_of_lt (h.ids.runs r hr)
    · exact Nat.lt_succ_self _
  · exact fun e he => Nat.lt_succ_of_lt (h.ids.events e he)
  · exact fun x hx => Nat.lt_succ_of_lt (h.ids.snapshots x hx)
  · exact fun b hb => Nat.lt_succ_of_lt (h.ids.retryBlocks b hb)
  · exact fun c hc => Nat.lt_succ_of_lt (h.ids.candidates c hc)
  · intro r hr
    rcases mem_insert hinsert hr with hr | rfl
    · refine (h.runs r hr).mono ⟨?_, rfl, List.prefix_refl _, fun _ _ hs => hs, id⟩
      have hne : r.sleepId ≠ db.nextId := Nat.ne_of_lt (h.ids.runs r hr)
      rw [htransitions, if_neg hne, List.append_nil]
    · have haudit := auditFatigueRow_ok.mp ((h.fatigue subjectId).row fatigue hfatigue)
      have hown := htransitions db.nextId
      rw [hnone, if_pos rfl, List.nil_append] at hown
      refine ⟨haudit.1, rfl, ?_, ?_, hunreflected, ?_, ?_, ?_⟩
      · change auditTransitions cfg none (transitionsOf _ db.nextId) = _
        rw [hown]
        simp [auditTransitions, raiseIf, openedRun]
      · change 1 = (transitionsOf _ db.nextId).length + 0
        rw [hown]
        rfl
      · rintro (hs | hs | hs) <;> cases hs
      · intro c hc
        cases hc
      · exact Option.isSome_iff_exists.mpr ⟨fatigue, hfatigue⟩
  · exact fun i hi => ⟨(h.identities i hi).newest, (h.identities i hi).checkpoint⟩
  · intro t ht
    rcases List.mem_append.mp ht with ht | ht
    · exact isSome_insert hinsert (h.transitions t ht)
    · rw [List.mem_singleton.mp ht]
      exact hnewrun
  · exact fun x hx => ⟨isSome_insert hinsert (h.reflections x hx).1, (h.reflections x hx).2⟩
  · exact fun i hi => ⟨isSome_insert hinsert (h.integrations i hi).1, (h.integrations i hi).2⟩

/-- The books of a run that takes a transition. -/
lemma books_moved {db : SleepDb cfg.fl} (h : Books cfg db) {row : SleepRunRow cfg.fl} {toStatus : RunStatus}
    {checkpointId completedAt : Option Nat} {now : Nat} (hrow : db.runs.find? row.sleepId = some row)
    (hcheckpointed : toStatus = .deepSleep ∨ toStatus = .waking ∨ toStatus = .complete →
      checkpointId.or row.checkpointId ≠ none)
    (hcheckpoint : ∀ c, checkpointId = some c → (db.snapshots.find? c).isSome) (reason : String) :
    Books cfg (insertTransition cfg row.sleepId (some row.status) toStatus reason
      { db with runs := db.runs.replace (row.moved cfg toStatus checkpointId completedAt now) }) := by
  have hkey : db.runs.find? (row.moved cfg toStatus checkpointId completedAt now).sleepId = some row := hrow
  have hbooked := h.runs row (Table.find?_eq_some.mp hrow).1
  have htransitions : ∀ id, transitionsOf (insertTransition cfg row.sleepId (some row.status) toStatus reason
      { db with runs := db.runs.replace (row.moved cfg toStatus checkpointId completedAt now) }) id =
        transitionsOf db id ++ if id = row.sleepId then [⟨row.sleepId, some row.status, toStatus, reason,
          cfg.transitionHash (some row.status) toStatus reason⟩] else [] := by
    intro id
    unfold transitionsOf insertTransition
    rw [List.filter_append]
    congr 1
    by_cases hid : id = row.sleepId
    · simp [hid]
    · simp [hid, Ne.symm hid]
  refine ⟨⟨?_, h.ids.events, h.ids.snapshots, h.ids.retryBlocks, h.ids.candidates⟩, h.fatigue, ?_, ?_, h.known, ?_, ?_,
    ?_, h.retryBlocks⟩
  · intro r hr
    rcases Table.mem_replace.mp hr with ⟨rfl, -⟩ | ⟨hr, -⟩
    · exact h.ids.runs row (Table.find?_eq_some.mp hrow).1
    · exact h.ids.runs r hr
  · intro r hr
    rcases Table.mem_replace.mp hr with ⟨rfl, -⟩ | ⟨hr, hne⟩
    · have hown := htransitions row.sleepId
      rw [if_pos rfl] at hown
      refine ⟨hbooked.fatigue, rfl, ?_, ?_, ?_, hcheckpointed, ?_, hbooked.rested⟩
      · change auditTransitions cfg none (transitionsOf _ row.sleepId) = .ok (some toStatus)
        rw [hown]
        exact auditTransitions_append hbooked.walk rfl
      · change row.version + 1 = (transitionsOf _ row.sleepId).length + _
        rw [hown, hbooked.version, List.length_append, List.length_singleton]
        exact Nat.add_right_comm _ _ _
      · exact hbooked.reflection.mono rfl rfl rfl (List.prefix_refl _)
      · intro c hc
        change checkpointId.or row.checkpointId = some c at hc
        cases hcp : checkpointId with
        | none =>
          rw [hcp, Option.none_or] at hc
          exact hbooked.checkpoint c hc
        | some k =>
          rw [hcp, Option.some_or] at hc
          cases hc
          exact hcheckpoint _ hcp
    · refine (h.runs r hr).mono ⟨?_, rfl, List.prefix_refl _, fun _ _ hs => hs, id⟩
      have hid : r.sleepId ≠ row.sleepId := hne
      rw [htransitions, if_neg hid, List.append_nil]
  · exact fun i hi => ⟨(h.identities i hi).newest, (h.identities i hi).checkpoint⟩
  · intro t ht
    rcases List.mem_append.mp ht with ht | ht
    · exact isSome_replace hkey (h.transitions t ht)
    · rw [List.mem_singleton.mp ht]
      exact isSome_replace hkey (by rw [hrow]; rfl)
  · exact fun x hx => ⟨isSome_replace hkey (h.reflections x hx).1, (h.reflections x hx).2⟩
  · exact fun i hi => ⟨isSome_replace hkey (h.integrations i hi).1, (h.integrations i hi).2⟩

/-! ### Reflections -/

/-- The tables with what a plan writes. -/
def planned {fl : Floats} (db : SleepDb fl) (integrations : List SleepIntegrationRow)
    (retryBlocks : Table RetryBlockRow.blockId) (candidates : Table (@CandidateRow.candidateId fl)) (nextId : Nat) :
    SleepDb fl :=
  { db with integrations := integrations, retryBlocks := retryBlocks, candidates := candidates, nextId := nextId }

/-- A candidate was written from a part of the plan. -/
structure CandidateOf (cfg : SleepConfig) (db : SleepDb cfg.fl) (subjectId : Nat)
    (item : PersonalityCandidateInput cfg.fl)
    (c : CandidateRow cfg.fl) : Prop where
  subject : c.subjectId = subjectId
  trait : c.trait = item.trait
  direction : c.direction = cfg.fl.stored item.direction
  confidence : c.confidence = cfg.fl.stored item.confidence
  evidence : validateCausalSourceIds db subjectId item.evidenceIds = .ok c.evidenceIds
  range : cfg.fl.within (-1) 1 c.direction = true ∧ cfg.fl.within 0 1 c.confidence = true
  status : c.status = .candidate
  hash : c.stateHash = cfg.candidateHash item.trait item.direction item.confidence c.evidenceIds .candidate

/-- What a plan writes. -/
structure Planned (cfg : SleepConfig) (subjectId sleepId : Nat) (plan : SleepReflectionPlan cfg.fl)
    (db : SleepDb cfg.fl) (integrations : List SleepIntegrationRow) (retryBlocks : Table RetryBlockRow.blockId)
    (candidates : Table (@CandidateRow.candidateId cfg.fl)) (nextId : Nat) : Prop where
  next : db.nextId ≤ nextId
  integrations : ∀ i ∈ integrations, i ∈ db.integrations ∨ i.sleepId = sleepId ∧ auditIntegration i = .ok ()
  retryBlocks : ∀ b ∈ retryBlocks, b ∈ db.retryBlocks ∨ b.blockId < nextId ∧ auditRetryBlock cfg db b.subjectId b =
    .ok ()
  candidates : ∀ c ∈ candidates, c ∈ db.candidates ∨
    c.candidateId < nextId ∧ ∃ item ∈ plan.personalityCandidates, CandidateOf cfg db subjectId item c

/-- The tables while a plan is applied. -/
def PlanState (cfg : SleepConfig) (subjectId sleepId : Nat) (plan : SleepReflectionPlan cfg.fl)
    (db x : SleepDb cfg.fl) :
    Prop :=
  ∃ integrations retryBlocks candidates nextId, x = planned db integrations retryBlocks candidates nextId ∧
    Planned cfg subjectId sleepId plan db integrations retryBlocks candidates nextId

lemma nodup_distinct (ids : List Nat) : (distinct ids).Nodup := List.nodup_reverse.mpr (List.nodup_dedup _)

lemma distinct_ne_nil {ids : List Nat} (h : ids ≠ []) : distinct ids ≠ [] := by
  unfold distinct
  intro hnil
  rw [List.reverse_eq_nil_iff, List.dedup_eq_nil, List.reverse_eq_nil_iff] at hnil
  exact h hnil

lemma auditIntegration_integration {sleepId : Nat} {type : IntegrationType} {targetId : Nat} {sources : List Nat}
    {hash : Digest} (h : sources ≠ []) :
    auditIntegration ⟨sleepId, type, targetId, distinct sources, hash⟩ = .ok () := by
  unfold auditIntegration
  rw [raiseIf_neg (by simp [distinct_ne_nil h, nodup_distinct]), ok_bind]
  exact raiseIf_neg (by simp [hash.length_text])

variable {subjectId sleepId : Nat} {plan : SleepReflectionPlan cfg.fl} {db x y : SleepDb cfg.fl}

/-- An integration with sources is added. -/
lemma planState_integration (h : PlanState cfg subjectId sleepId plan db x) {type : IntegrationType} {targetId : Nat}
    {sources : List Nat} {hash : Digest} (hsources : sources ≠ []) :
    PlanState cfg subjectId sleepId plan db (integration sleepId type targetId sources hash x) := by
  obtain ⟨integrations, retryBlocks, candidates, nextId, rfl, hp⟩ := h
  refine ⟨_, retryBlocks, candidates, nextId, rfl, hp.next, ?_, hp.retryBlocks, hp.candidates⟩
  intro i hi
  rcases List.mem_append.mp hi with hi | hi
  · exact hp.integrations i hi
  · rw [List.mem_singleton.mp hi]
    exact .inr ⟨rfl, auditIntegration_integration hsources⟩

lemma planState_memory {answers : PlanAnswers} {eventId : Nat} {item : SleepMemory × Nat}
    (h : PlanState cfg subjectId sleepId plan db x) (hok : applyMemory answers sleepId eventId x item = .ok y) :
    PlanState cfg subjectId sleepId plan db y := by
  unfold applyMemory at hok
  obtain ⟨⟨memoryId, hash⟩, -, hok⟩ := bind_eq_ok.mp hok
  cases hok
  exact planState_integration h (distinct_ne_nil (by simp))

lemma planState_goal {answers : PlanAnswers} {eventId : Nat} {item : SleepGoalRevision × Nat}
    (h : PlanState cfg subjectId sleepId plan db x) (hok : applyGoal answers sleepId eventId x item = .ok y) :
    PlanState cfg subjectId sleepId plan db y := by
  unfold applyGoal at hok
  obtain ⟨hash, -, hok⟩ := bind_eq_ok.mp hok
  cases hok
  exact planState_integration h (by simp)

lemma planState_belief {answers : PlanAnswers} {eventId : Nat} {item : SleepBeliefRevision × Nat}
    (h : PlanState cfg subjectId sleepId plan db x) (hok : applyBelief answers sleepId eventId x item = .ok y) :
    PlanState cfg subjectId sleepId plan db y := by
  unfold applyBelief at hok
  obtain ⟨hash, -, hok⟩ := bind_eq_ok.mp hok
  cases hok
  apply planState_integration h
  intro hnil
  exact distinct_ne_nil (by simp) (List.append_eq_nil_iff.mp hnil).1

lemma planState_retryBlock {item : SleepRetryBlock} (hvalid : item.valid = true)
    (h : PlanState cfg subjectId sleepId plan db x) (hok : applyRetryBlock cfg subjectId sleepId x item = .ok y) :
    PlanState cfg subjectId sleepId plan db y := by
  unfold applyRetryBlock at hok
  obtain ⟨_, -, hok⟩ := bind_eq_ok.mp hok
  split at hok
  · cases hok
    exact h
  · obtain ⟨table, htable, hok⟩ := bind_eq_ok.mp hok
    cases hok
    have htwo : item.actionIds ≠ [] := by
      intro hnil
      simp [SleepRetryBlock.valid, hnil] at hvalid
    apply planState_integration _ (distinct_ne_nil htwo)
    obtain ⟨integrations, retryBlocks, candidates, nextId, rfl, hp⟩ := h
    refine ⟨integrations, table, candidates, nextId + 1, rfl, Nat.le_succ_of_le hp.next, hp.integrations, ?_, ?_⟩
    · intro b hb
      rcases mem_insert (orRaise_eq_ok.mp htable) hb with hb | rfl
      · rcases hp.retryBlocks b hb with hb | ⟨hid, haudit⟩
        · exact .inl hb
        · exact .inr ⟨Nat.lt_succ_of_lt hid, haudit⟩
      · refine .inr ⟨Nat.lt_succ_self _, ?_⟩
        unfold auditRetryBlock
        rw [raiseIf_neg (not_not.mpr rfl), ok_bind]
        exact raiseIf_neg (by simp)
    · intro c hc
      rcases hp.candidates c hc with hc | ⟨hid, hof⟩
      · exact .inl hc
      · exact .inr ⟨Nat.lt_succ_of_lt hid, hof⟩

lemma validateCausalSourceIds_ne_nil {fl : Floats} {db : SleepDb fl} {subjectId : Nat} {sourceIds ids : List Nat}
    (h : validateCausalSourceIds db subjectId sourceIds = .ok ids) : ids = distinct sourceIds ∧ ids ≠ [] := by
  unfold validateCausalSourceIds at h
  obtain ⟨_, hnil, h⟩ := bind_eq_ok.mp h
  obtain ⟨_, -, h⟩ := bind_eq_ok.mp h
  obtain ⟨_, -, h⟩ := bind_eq_ok.mp h
  obtain ⟨_, -, h⟩ := bind_eq_ok.mp h
  cases h
  exact ⟨rfl, raiseIf_eq_ok.mp hnil⟩

lemma planState_candidate {item : PersonalityCandidateInput cfg.fl} (hitem : item ∈ plan.personalityCandidates)
    (h : PlanState cfg subjectId sleepId plan db x)
    (hok : applyPersonalityCandidate cfg subjectId sleepId x item = .ok y) :
    PlanState cfg subjectId sleepId plan db y := by
  unfold applyPersonalityCandidate at hok
  obtain ⟨evidence, hevidence, hok⟩ := bind_eq_ok.mp hok
  obtain ⟨_, hrange, hok⟩ := bind_eq_ok.mp hok
  obtain ⟨table, htable, hok⟩ := bind_eq_ok.mp hok
  cases hok
  rw [raiseIf_eq_ok, not_or, Bool.not_eq_false, Bool.not_eq_false] at hrange
  apply planState_integration _ (validateCausalSourceIds_ne_nil hevidence).2
  obtain ⟨integrations, retryBlocks, candidates, nextId, rfl, hp⟩ := h
  refine ⟨integrations, retryBlocks, table, nextId + 1, rfl, Nat.le_succ_of_le hp.next, hp.integrations, ?_, ?_⟩
  · intro b hb
    rcases hp.retryBlocks b hb with hb | ⟨hid, haudit⟩
    · exact .inl hb
    · exact .inr ⟨Nat.lt_succ_of_lt hid, haudit⟩
  · intro c hc
    rcases mem_insert (orRaise_eq_ok.mp htable) hc with hc | rfl
    · rcases hp.candidates c hc with hc | ⟨hid, hof⟩
      · exact .inl hc
      · exact .inr ⟨Nat.lt_succ_of_lt hid, hof⟩
    · exact .inr ⟨Nat.lt_succ_self _, item, hitem, rfl, rfl, rfl, rfl, hevidence, hrange, rfl, rfl⟩

/-- Applying a plan writes integrations, retry blocks and candidates. -/
lemma applyPlan_ok {answers : PlanAnswers} {eventId : Nat} (hvalid : plan.valid = true)
    (hok : applyPlan cfg answers subjectId sleepId eventId plan db = .ok y) :
    PlanState cfg subjectId sleepId plan db y := by
  unfold applyPlan at hok
  obtain ⟨x₁, h₁, hok⟩ := bind_eq_ok.mp hok
  obtain ⟨_, -, hok⟩ := bind_eq_ok.mp hok
  obtain ⟨x₂, h₂, hok⟩ := bind_eq_ok.mp hok
  obtain ⟨_, -, hok⟩ := bind_eq_ok.mp hok
  obtain ⟨x₃, h₃, hok⟩ := bind_eq_ok.mp hok
  obtain ⟨x₄, h₄, hok⟩ := bind_eq_ok.mp hok
  have hblocks : ∀ item ∈ plan.retryBlocks, item.valid = true := by
    simp only [SleepReflectionPlan.valid, Bool.and_eq_true, List.all_eq_true] at hvalid
    exact hvalid.1.1.2
  have hstart : PlanState cfg subjectId sleepId plan db db :=
    ⟨db.integrations, db.retryBlocks, db.candidates, db.nextId, rfl, Nat.le_refl _, fun _ hi => .inl hi,
      fun _ hb => .inl hb, fun _ hc => .inl hc⟩
  have s₁ := foldlM_preserves (fun a _ _ _ hp ha => planState_memory hp ha) h₁ hstart
  have s₂ := foldlM_preserves (fun a _ _ _ hp ha => planState_goal hp ha) h₂ s₁
  have s₃ := foldlM_preserves (fun a _ _ _ hp ha => planState_belief hp ha) h₃ s₂
  have s₄ := foldlM_preserves (fun a hmem _ _ hp ha => planState_retryBlock (hblocks a hmem) hp ha) h₄ s₃
  exact foldlM_preserves (fun a hmem _ _ hp ha => planState_candidate hmem hp ha) hok s₄

lemma auditReflection_committed {eventId : Nat} (hvalid : plan.valid = true) :
    auditReflection cfg (committedReflection cfg sleepId eventId plan) = .ok () := by
  simp only [SleepReflectionPlan.valid, Bool.and_eq_true, validReflectionList, nonblankText, decide_eq_true_eq,
    ne_eq] at hvalid
  have hsummary : strip plan.summary ≠ "" := by
    have := hvalid.1.1.1.1.1.1.1.1.1.1.1.1.1.1.1.2
    simpa using this
  unfold auditReflection
  rw [raiseIf_neg (by simp [committedReflection]), ok_bind]
  rw [raiseIf_neg (by simp [committedReflection, hvalid]), ok_bind]
  rw [raiseIf_neg (by simp [committedReflection, hsummary, (cfg.planHash plan).length_text]), ok_bind]
  exact raiseIf_neg (by simp [committedReflection])

/-- The books of a run whose reflection is committed. -/
lemma books_committed {answers : PlanAnswers} {row : SleepRunRow cfg.fl} {now : Nat}
    {table : Table (@SleepReflectionRow.sleepId cfg.fl)} (h : Books cfg db) (hvalid : plan.valid = true)
    (hrow : db.runs.find? sleepId = some row)
    (htable : db.reflections.insert? (committedReflection cfg sleepId db.nextId plan) = some table)
    (hplan : applyPlan cfg answers subjectId sleepId db.nextId plan
      { db.appendEvent subjectId .sleepReflection with reflections := table } = .ok y) :
    Books cfg { y with runs := y.runs.replace (row.reflected cfg db.nextId now) } := by
  obtain ⟨integrations, retryBlocks, candidates, nextId, rfl, hp⟩ := applyPlan_ok hvalid hplan
  obtain ⟨hmem, hid⟩ := Table.find?_eq_some.mp hrow
  subst hid
  have hkey : db.runs.find? (row.reflected cfg db.nextId now).sleepId = some row := hrow
  have hbooked := h.runs row hmem
  have hnext : db.nextId + 1 ≤ nextId := hp.next
  have hbegins : db.events <+: (db.appendEvent subjectId .sleepReflection).events := List.prefix_append _ _
  have hevent : (db.appendEvent subjectId .sleepReflection).event? db.nextId =
      some ⟨db.nextId, subjectId, .sleepReflection⟩ := event?_appendEvent h.ids.events
  have hfresh := (Table.insert?_eq_some.mp htable).1
  have hunreflected : db.reflections.find? row.sleepId = none := Table.find?_eq_none.mpr hfresh
  have hnone : row.reflectionEventId = none := by
    cases hre : row.reflectionEventId with
    | none => rfl
    | some e =>
      have hbook := hbooked.reflection
      rw [ReflectionBooked, hre] at hbook
      obtain ⟨x, _, hx, -⟩ := hbook
      rw [hunreflected] at hx
      cases hx
  have hfound : table.find? row.sleepId = some (committedReflection cfg row.sleepId db.nextId plan) :=
    (Table.find?_insert htable row.sleepId).trans (if_pos rfl)
  refine ⟨⟨?_, ?_, ?_, ?_, ?_⟩, h.fatigue, ?_, ?_, h.known, ?_, ?_, ?_, ?_⟩
  · intro r hr
    rcases Table.mem_replace.mp hr with ⟨rfl, -⟩ | ⟨hr, -⟩
    · exact Nat.lt_of_lt_of_le (h.ids.runs row hmem) (Nat.le_of_succ_le hnext)
    · exact Nat.lt_of_lt_of_le (h.ids.runs r hr) (Nat.le_of_succ_le hnext)
  · exact fun e he => Nat.lt_of_lt_of_le ((books_appendEvent h _ _).ids.events e he) hnext
  · exact fun x hx => Nat.lt_of_lt_of_le (h.ids.snapshots x hx) (Nat.le_of_succ_le hnext)
  · intro b hb
    rcases hp.retryBlocks b hb with hb | ⟨hlt, -⟩
    · exact Nat.lt_of_lt_of_le (h.ids.retryBlocks b hb) (Nat.le_of_succ_le hnext)
    · exact hlt
  · intro c hc
    rcases hp.candidates c hc with hc | ⟨hlt, -⟩
    · exact Nat.lt_of_lt_of_le (h.ids.candidates c hc) (Nat.le_of_succ_le hnext)
    · exact hlt
  · intro r hr
    rcases Table.mem_replace.mp hr with ⟨rfl, -⟩ | ⟨hr, hne⟩
    · refine ⟨hbooked.fatigue, rfl, hbooked.walk, ?_, ?_, hbooked.checkpointed, hbooked.checkpoint, hbooked.rested⟩
      · have hversion := hbooked.version
        rw [hnone] at hversion
        change row.version + 1 = (transitionsOf db row.sleepId).length + 1
        rw [hversion]
        rfl
      · exact ⟨_, _, hfound, rfl, auditReflection_committed hvalid, hevent, rfl⟩
    · refine (h.runs r hr).mono ⟨rfl, ?_, hbegins, fun _ _ hs => hs, id⟩
      have hid : r.sleepId ≠ row.sleepId := hne
      exact (Table.find?_insert htable r.sleepId).trans (if_neg hid)
  · exact fun i hi => ⟨(h.identities i hi).newest, (h.identities i hi).checkpoint⟩
  · exact fun t ht => isSome_replace hkey (h.transitions t ht)
  · intro x hx
    rcases mem_insert htable hx with hx | rfl
    · obtain ⟨hrun, he⟩ := h.reflections x hx
      obtain ⟨e, he⟩ := Option.isSome_iff_exists.mp he
      exact ⟨isSome_replace hkey hrun, Option.isSome_iff_exists.mpr ⟨e, event?_of_extends hbegins he⟩⟩
    · exact ⟨isSome_replace hkey (by rw [committedReflection, hrow]; rfl), Option.isSome_iff_exists.mpr ⟨_, hevent⟩⟩
  · intro i hi
    rcases hp.integrations i hi with hi | ⟨hid, haudit⟩
    · exact ⟨isSome_replace hkey (h.integrations i hi).1, (h.integrations i hi).2⟩
    · exact ⟨isSome_replace hkey (by rw [hid, hrow]; rfl), haudit⟩
  · intro b hb
    rcases hp.retryBlocks b hb with hb | ⟨-, haudit⟩
    · exact auditRetryBlock_mono hbegins (h.retryBlocks b hb)
    · exact auditRetryBlock_mono (List.prefix_refl _) haudit

/-! ### Retry blocks, snapshots and the tables of others -/

lemma books_released {blockId evidenceEventId now : Nat} (h : Books cfg db)
    (hok : releaseRetryBlock cfg subjectId blockId evidenceEventId now db = .ok y) : Books cfg y := by
  unfold releaseRetryBlock at hok
  obtain ⟨_, howned, hok⟩ := bind_eq_ok.mp hok
  obtain ⟨_, -, hok⟩ := bind_eq_ok.mp hok
  obtain ⟨row, hrow, hok⟩ := bind_eq_ok.mp hok
  obtain ⟨hfind, hsubject⟩ := Option.filter_eq_some_iff.mp (orRaise_eq_ok.mp hrow)
  obtain ⟨hmem, hid⟩ := Table.find?_eq_some.mp hfind
  rw [decide_eq_true_eq] at hsubject
  split at hok
  · cases hok
    exact h
  · obtain ⟨_, hlater, hok⟩ := bind_eq_ok.mp hok
    cases hok
    rw [raiseIf_eq_ok] at howned hlater
    refine ⟨⟨h.ids.runs, h.ids.events, h.ids.snapshots, ?_, h.ids.candidates⟩, h.fatigue, ?_, ?_, h.known,
      h.transitions, h.reflections, h.integrations, ?_⟩
    · intro b hb
      rcases Table.mem_replace.mp hb with ⟨rfl, -⟩ | ⟨hb, -⟩
      · exact h.ids.retryBlocks row hmem
      · exact h.ids.retryBlocks b hb
    · exact fun r hr => (h.runs r hr).mono ⟨rfl, rfl, List.prefix_refl _, fun _ _ hs => hs, id⟩
    · exact fun i hi => ⟨(h.identities i hi).newest, (h.identities i hi).checkpoint⟩
    · intro b hb
      rcases Table.mem_replace.mp hb with ⟨rfl, -⟩ | ⟨hb, -⟩
      · unfold auditRetryBlock
        rw [raiseIf_neg (not_not.mpr rfl), ok_bind]
        refine raiseIf_neg ?_
        rintro (hnone | hforeign | hearly)
        · cases hnone
        · apply howned
          rw [← hsubject]
          exact hforeign
        · exact hlater hearly
      · exact auditRetryBlock_mono (List.prefix_refl _) (h.retryBlocks b hb)

lemma find?_keepRows {κ ρ : Type} [DecidableEq κ] {key : ρ → κ} {t : Table key} {p : ρ → Bool} {x : ρ} (hx : x ∈ t)
    (hp : p x = true) : (t.keepRows p).find? (key x) = some x :=
  Table.find?_eq_some.mpr ⟨Table.mem_keepRows.mpr ⟨hx, hp⟩, rfl⟩

lemma books_published {batch : List SnapshotRow} (h : Books cfg db) (hok : publishCompactionBatch batch db = .ok y) :
    Books cfg y := by
  unfold publishCompactionBatch at hok
  obtain ⟨_, hfree, hok⟩ := bind_eq_ok.mp hok
  cases hok
  rw [raiseIf_eq_ok, List.any_eq_true, not_exists] at hfree
  -- a snapshot that is referred to is not in the batch
  have hstays : ∀ c, referred db c = true → (db.snapshots.find? c).isSome →
      ((db.snapshots.keepRows (fun x => x ∉ batch)).find? c).isSome := by
    intro c hc hsome
    obtain ⟨x, hx⟩ := Option.isSome_iff_exists.mp hsome
    obtain ⟨hmem, rfl⟩ := Table.find?_eq_some.mp hx
    have hkeep : decide (x ∉ batch) = true := decide_eq_true (fun hb => hfree x ⟨hb, hc⟩)
    exact Option.isSome_iff_exists.mpr ⟨x, find?_keepRows hmem hkeep⟩
  refine ⟨⟨h.ids.runs, h.ids.events, ?_, h.ids.retryBlocks, h.ids.candidates⟩, h.fatigue, ?_, ?_, h.known,
    h.transitions, h.reflections, h.integrations, h.retryBlocks⟩
  · exact fun x hx => h.ids.snapshots x (Table.mem_keepRows.mp hx).1
  · intro r hr
    refine (h.runs r hr).mono ⟨rfl, rfl, List.prefix_refl _, ?_, id⟩
    intro c hc
    apply hstays
    simp only [referred, Bool.or_eq_true, List.any_eq_true, decide_eq_true_eq]
    exact .inl ⟨r, hr, hc⟩
  · intro i hi
    refine ⟨fun x hx => (h.identities i hi).newest x (Table.mem_keepRows.mp hx).1, ?_⟩
    intro c hc
    apply hstays c _ ((h.identities i hi).checkpoint c hc)
    simp only [referred, Bool.or_eq_true, List.any_eq_true, decide_eq_true_eq]
    exact .inr ⟨i, hi, hc⟩

lemma books_compactLoop {keepRecent batchSize batchBytes : Nat} {maxRows maxBytes : Option Nat} (turns : Nat) :
    ∀ (archived consumed : Nat) (cursor : Option Nat) (db : SleepDb cfg.fl), Books cfg db →
      Books cfg (compactLoop subjectId keepRecent batchSize batchBytes maxRows maxBytes turns archived consumed cursor
        db).1 := by
  induction turns with
  | zero => exact fun _ _ _ _ h => h
  | succ turns ih =>
    intro archived consumed cursor db h
    unfold compactLoop
    simp only
    split
    · exact h
    · split
      · exact h
      · split
        · exact h
        · next hok => exact ih _ _ _ _ (books_published h hok)

lemma books_others (h : Books cfg db) (actions : Table ActionRow.actionId) (sources : List (Nat × Nat))
    (withdrawn : List Nat) : Books cfg { db with actions := actions, sources := sources, withdrawn := withdrawn } :=
  ⟨⟨h.ids.runs, h.ids.events, h.ids.snapshots, h.ids.retryBlocks, h.ids.candidates⟩, h.fatigue,
    fun r hr => (h.runs r hr).mono ⟨rfl, rfl, List.prefix_refl _, fun _ _ hs => hs, id⟩,
    fun i hi => ⟨(h.identities i hi).newest, (h.identities i hi).checkpoint⟩, h.known, h.transitions, h.reflections,
    h.integrations, h.retryBlocks⟩

/-! ### Calls -/

/-- A change of the fatigue that reads its row back passes the audit. -/
lemma books_loadedFatigue {row : FatigueRow cfg.fl} {fatigue : cfg.fl.F} {mode : FatigueMode}
    {inputs : FatigueInputs cfg.fl} {reason : String} (h : Books cfg db)
    (hrow : db.fatigue.find? row.subjectId = some row) (hreason : strip reason ≠ "")
    (hwrite : writeFatigue cfg row fatigue mode inputs reason db = .ok y)
    (hload : loadFatigue cfg row.subjectId y = .ok ()) : Books cfg y := by
  obtain ⟨hrange, -, rfl⟩ := writeFatigue_ok hwrite
  have hkey : db.fatigue.find? (fatigueChanged cfg row fatigue mode inputs).subjectId = some row := hrow
  have hself : (db.fatigue.replace (fatigueChanged cfg row fatigue mode inputs)).find? row.subjectId =
      some (fatigueChanged cfg row fatigue mode inputs) := Table.find?_replace_self hkey
  apply books_fatigueWritten h hrow hreason
  unfold loadFatigue at hload
  obtain ⟨loaded, hloaded, hload⟩ := bind_eq_ok.mp hload
  have heq : loaded = fatigueChanged cfg row fatigue mode inputs :=
    Option.some.inj ((orRaise_eq_ok.mp hloaded).symm.trans hself)
  subst heq
  obtain ⟨_, hfrom, -⟩ := bind_eq_ok.mp hload
  unfold fatigueFromRow at hfrom
  obtain ⟨_, hvalid, hfrom⟩ := bind_eq_ok.mp hfrom
  obtain ⟨_, hhash, hfrom⟩ := bind_eq_ok.mp hfrom
  obtain ⟨_, hmode, -⟩ := bind_eq_ok.mp hfrom
  rw [raiseIf_eq_ok, Bool.not_eq_false] at hvalid
  rw [raiseIf_eq_ok, not_not] at hhash hmode
  exact auditFatigueRow_ok.mpr ⟨hrange, hvalid, hhash, hmode⟩

lemma books_fatigueRow {row : FatigueRow cfg.fl} (h : Books cfg db) (hok : fatigueRow cfg subjectId db = .ok (y, row)) :
    Books cfg y ∧ y.fatigue.find? row.subjectId = some row ∧ row.subjectId = subjectId := by
  unfold fatigueRow at hok
  split at hok
  · next found hfound =>
    cases hok
    have hid := (Table.find?_eq_some.mp hfound).2
    rw [hid]
    exact ⟨h, hfound, rfl⟩
  · next hnone =>
    obtain ⟨table, htable, hok⟩ := bind_eq_ok.mp hok
    cases hok
    have hinsert := orRaise_eq_ok.mp htable
    exact ⟨books_initialFatigue h hnone hinsert, (Table.find?_insert hinsert _).trans (if_pos rfl), rfl⟩

lemma books_assess {inputs : FatigueInputs cfg.fl} {reason : String} {exhausted : Bool} (h : Books cfg db)
    (hok : assess cfg subjectId inputs reason exhausted db = .ok y) : Books cfg y := by
  unfold assess at hok
  obtain ⟨_, -, hok⟩ := bind_eq_ok.mp hok
  obtain ⟨_, hreason, hok⟩ := bind_eq_ok.mp hok
  obtain ⟨⟨mid, row⟩, hmid, hok⟩ := bind_eq_ok.mp hok
  obtain ⟨written, hwrite, hok⟩ := bind_eq_ok.mp hok
  obtain ⟨_, hload, hok⟩ := bind_eq_ok.mp hok
  cases hok
  rw [raiseIf_eq_ok, not_or] at hreason
  obtain ⟨hbooks, hrow, hid⟩ := books_fatigueRow h hmid
  subst hid
  exact books_loadedFatigue hbooks hrow hreason.1 hwrite hload

lemma books_restoreAfterSleep {hours : cfg.fl.F} {reason : String} (h : Books cfg db)
    (hok : restoreAfterSleep cfg subjectId hours reason db = .ok y) : Books cfg y := by
  unfold restoreAfterSleep at hok
  obtain ⟨_, hreason, hok⟩ := bind_eq_ok.mp hok
  obtain ⟨⟨mid, row⟩, hmid, hok⟩ := bind_eq_ok.mp hok
  obtain ⟨written, hwrite, hok⟩ := bind_eq_ok.mp hok
  obtain ⟨_, hload, hok⟩ := bind_eq_ok.mp hok
  cases hok
  rw [raiseIf_eq_ok, not_or, not_or] at hreason
  obtain ⟨hbooks, hrow, hid⟩ := books_fatigueRow h hmid
  subst hid
  exact books_loadedFatigue hbooks hrow hreason.2.2 hwrite hload

lemma books_markFatigueSleeping {reason : String} (h : Books cfg db) (hreason : strip reason ≠ "")
    (hok : markFatigueSleeping cfg subjectId reason db = .ok y) : Books cfg y := by
  obtain ⟨row, hrow, hvalid, hrange, -, rfl⟩ := markFatigueSleeping_ok hok
  have hid := (Table.find?_eq_some.mp hrow).2
  have hkept := (h.fatigue subjectId).kept row hrow
  subst hid
  apply books_fatigueWritten h hrow hreason
  have hstored : cfg.fl.stored (cfg.fl.ofInt 100) = cfg.fl.ofInt 100 := cfg.fl.stored_ofInt 100 (by omega) (by omega)
  rw [hstored] at hrange
  rw [hkept, hstored]
  exact auditFatigueRow_ok.mpr ⟨hrange, hvalid, rfl, modeFor_hundred.symm⟩

lemma books_restoreFatigueConnection {hours : cfg.fl.F} {reason : String} {reset : Bool} (h : Books cfg db)
    (hreason : strip reason ≠ "") (hok : restoreFatigueConnection cfg subjectId hours reason reset db = .ok y) :
    Books cfg y := by
  obtain ⟨row, hrow, hvalid, hrange, -, rfl⟩ := restoreFatigueConnection_ok hok
  have hid := (Table.find?_eq_some.mp hrow).2
  have hkept := (h.fatigue subjectId).kept row hrow
  subst hid
  have hpressure : cfg.fl.stored row.inputs.resourcePressure = row.inputs.resourcePressure :=
    congrArg FatigueInputs.resourcePressure hkept
  have hinputs : (restedInputs cfg row reset).stored = restedInputs cfg row reset := by
    unfold restedInputs
    split
    · exact stored_rested stored_zero
    · exact stored_rested hpressure
  have hfatigue : cfg.fl.stored (restedFatigue cfg row hours) = restedFatigue cfg row hours := stored_maxZero _
  apply books_fatigueWritten h hrow hreason
  rw [hinputs, hfatigue]
  rw [hfatigue] at hrange
  exact auditFatigueRow_ok.mpr ⟨hrange, hvalid, rfl, rfl⟩

lemma books_transitionRun {row : SleepRunRow cfg.fl} {toStatus : RunStatus} {reason : String}
    {checkpointId completedAt : Option Nat} {now : Nat} (h : Books cfg db) (hrow : db.runs.find? row.sleepId = some row)
    (hcheckpointed : toStatus = .deepSleep ∨ toStatus = .waking ∨ toStatus = .complete →
      checkpointId.or row.checkpointId ≠ none)
    (hcheckpoint : ∀ c, checkpointId = some c → (db.snapshots.find? c).isSome)
    (hok : transitionRun cfg row toStatus reason checkpointId completedAt now db = .ok y) : Books cfg y := by
  obtain ⟨-, rfl⟩ := transitionRun_ok hok
  exact books_moved h hrow hcheckpointed hcheckpoint reason

/-- A run that has a checkpoint goes on without a new one. -/
lemma books_transitionRun_of_checkpointed {row : SleepRunRow cfg.fl} {toStatus : RunStatus} {reason : String}
    {completedAt : Option Nat} {now : Nat} (h : Books cfg db) (hrow : db.runs.find? row.sleepId = some row)
    (hstatus : row.status = .deepSleep ∨ row.status = .waking)
    (hok : transitionRun cfg row toStatus reason none completedAt now db = .ok y) : Books cfg y := by
  have hbooked := h.runs row (Table.find?_eq_some.mp hrow).1
  refine books_transitionRun h hrow ?_ (fun c hc => by cases hc) hok
  intro _
  rw [Option.none_or]
  apply hbooked.checkpointed
  rcases hstatus with hs | hs
  · exact .inl hs
  · exact .inr (.inl hs)

lemma books_finishRun {row : SleepRunRow cfg.fl} {reason : String} {now : Nat} (h : Books cfg db)
    (hreason : strip reason ≠ "") (hrow : db.runs.find? row.sleepId = some row) (hstatus : row.status = .waking)
    (hok : finishRun cfg subjectId row reason now db = .ok y) : Books cfg y := by
  obtain ⟨hours, reset, mid, hmid, hok⟩ := finishRun_ok hok
  have hbooks := books_restoreFatigueConnection h hreason hmid
  obtain ⟨_, _, _, _, _, rfl⟩ := restoreFatigueConnection_ok hmid
  exact books_transitionRun_of_checkpointed hbooks hrow (.inr hstatus) hok

lemma books_beginReflection {reason : String} {now : Nat} (h : Books cfg db)
    (hok : beginReflection cfg subjectId sleepId reason now db = .ok y) : Books cfg y := by
  rcases beginReflection_ok hok with ⟨rfl, -⟩ | ⟨row, mid, hrow, hstatus, hmid, hrun⟩
  · exact h
  · have hid := (Table.find?_eq_some.mp hrow).2
    subst hid
    have hbooks := books_transitionConnection h hmid
    obtain ⟨-, _, _, _, rfl⟩ := transitionConnection_ok hmid
    exact books_transitionRun hbooks hrow (by rintro (hs | hs | hs) <;> cases hs) (fun c hc => by cases hc) hrun

lemma books_commitReflection {answers : PlanAnswers} {now : Nat} (h : Books cfg db)
    (hok : commitReflection cfg answers subjectId sleepId plan now db = .ok y) : Books cfg y := by
  obtain ⟨hvalid, ⟨rfl, -⟩ | ⟨row, table, mid, hrow, -, htable, hplan, rfl⟩⟩ := commitReflection_ok hok
  · exact h
  · exact books_committed h hvalid hrow htable hplan

lemma books_saveCheckpoint {bytes snapshotId : Nat} (h : Books cfg db)
    (hok : saveCheckpoint subjectId bytes db = .ok (y, snapshotId)) :
    Books cfg y ∧ (y.snapshots.find? snapshotId).isSome := by
  obtain ⟨identity, table, hidentity, rfl, -, hinsert, rfl⟩ := saveCheckpoint_ok hok
  refine ⟨books_checkpointSaved h hidentity hinsert, ?_⟩
  exact Option.isSome_iff_exists.mpr ⟨_, (Table.find?_insert hinsert db.nextId).trans (if_pos rfl)⟩

lemma books_enterDeepSleep {reason : String} {bytes now : Nat} (h : Books cfg db)
    (hok : enterDeepSleep cfg subjectId sleepId reason bytes now db = .ok y) : Books cfg y := by
  rcases enterDeepSleep_ok hok with ⟨rfl, -⟩ | ⟨row, saved, snapshotId, mid, asleep, hrow, -, -, hsaved, hmid, hasleep,
    hrun⟩
  · exact h
  · have hid := (Table.find?_eq_some.mp hrow).2
    subst hid
    obtain ⟨hbooks, hsnapshot⟩ := books_saveCheckpoint h hsaved
    have hbooks' := books_markFatigueSleeping (books_transitionConnection hbooks hmid) (transitionConnection_ok hmid).1
      hasleep
    obtain ⟨identity, table, -, rfl, -, -, rfl⟩ := saveCheckpoint_ok hsaved
    obtain ⟨-, _, _, _, rfl⟩ := transitionConnection_ok hmid
    obtain ⟨_, _, _, _, _, rfl⟩ := markFatigueSleeping_ok hasleep
    refine books_transitionRun hbooks' hrow (fun _ => by simp) ?_ hrun
    intro c hc
    cases hc
    exact hsnapshot

lemma books_wake {reason : String} {force : Bool} {now : Nat} (h : Books cfg db)
    (hok : wake cfg subjectId sleepId reason force now db = .ok y) : Books cfg y := by
  rcases wake_ok hok with rfl | ⟨row, mid, hrow, hstatus, hmid, hrun⟩
  · exact h
  · have hid := (Table.find?_eq_some.mp hrow).2
    subst hid
    have hbooks := books_transitionConnection h hmid
    obtain ⟨-, _, _, _, rfl⟩ := transitionConnection_ok hmid
    exact books_transitionRun_of_checkpointed hbooks hrow (.inl hstatus) hrun

lemma books_completeWake {reason : String} {now : Nat} (h : Books cfg db)
    (hok : completeWake cfg subjectId sleepId reason now db = .ok y) : Books cfg y := by
  rcases completeWake_ok hok with ⟨rfl, -⟩ | ⟨row, mid, hrow, hstatus, hmid, hrun⟩
  · exact h
  · have hid := (Table.find?_eq_some.mp hrow).2
    subst hid
    have hbooks := books_transitionConnection h hmid
    have hreason := (transitionConnection_ok hmid).1
    obtain ⟨-, _, _, _, rfl⟩ := transitionConnection_ok hmid
    exact books_finishRun hbooks hreason hrow hstatus hrun

lemma books_wakeEarly {reason actor : String} {now : Nat} (h : Books cfg db)
    (hok : wakeEarly cfg subjectId sleepId reason actor now db = .ok y) : Books cfg y := by
  rcases wakeEarly_ok hok with ⟨rfl, -⟩ | ⟨row, mid, moved, woken, hrow, hstatus, hmid, hmoved, hwoken, hrun⟩
  · exact h
  · have hid := (Table.find?_eq_some.mp hrow).2
    subst hid
    have hbooks := books_transitionConnection h hmid
    obtain ⟨hreason, _, _, _, rfl⟩ := transitionConnection_ok hmid
    have hbooks' := books_transitionConnection (books_transitionRun_of_checkpointed hbooks hrow (.inl hstatus) hmoved)
        hwoken
    obtain ⟨-, rfl⟩ := transitionRun_ok hmoved
    obtain ⟨-, _, _, _, rfl⟩ := transitionConnection_ok hwoken
    have hkey : db.runs.find? (row.moved cfg .waking none none now).sleepId = some row := hrow
    exact books_finishRun hbooks' hreason (Table.find?_replace_self hkey) rfl hrun

lemma books_startStep {q : StartRequest} {fault : Bool} (h : Books cfg db) :
    Books cfg (startStep subjectId q fault db) := by
  unfold startStep
  split
  · exact h
  · next db' row wake hchecks =>
    -- the fatigue row is committed whatever the transaction does
    have hensured : Books cfg db' ∧ db'.fatigue.find? subjectId = some row := by
      obtain ⟨-, ⟨hfound, rfl⟩ | ⟨table, hinsert, rfl, rfl⟩⟩ := startChecks_ok hchecks
      · exact ⟨h, hfound⟩
      · have hnone : db.fatigue.find? subjectId = none :=
          Table.find?_eq_none.mpr (Table.insert?_eq_some.mp hinsert).1
        exact ⟨books_initialFatigue h hnone hinsert, (Table.find?_insert hinsert _).trans (if_pos rfl)⟩
    unfold attempt settle
    split
    · exact hensured.1
    · split
      · next hok =>
        rcases startRun_ok hok with rfl | ⟨mid, table, -, -, -, hmid, hinsert, rfl⟩
        · exact hensured.1
        · have hbooks := books_transitionConnection hensured.1 hmid
          obtain ⟨-, _, _, _, rfl⟩ := transitionConnection_ok hmid
          exact books_appendEvent (books_opened hbooks hensured.2 hinsert _) _ _
      · exact hensured.1

lemma books_attempt {fault : Bool} {r : Except SleepError (SleepDb cfg.fl)} (h : Books cfg db)
    (hok : ∀ y, r = .ok y → Books cfg y) : Books cfg (attempt fault db r) := by
  unfold attempt settle
  split
  · exact h
  · split
    · next hr => exact hok _ rfl
    · exact h

lemma books_engineStep (h : Books cfg db) (a : EngineCall cfg) : Books cfg (engineStep db a) := by
  cases a with
  | start subjectId q fault => exact books_startStep h
  | beginReflection subjectId sleepId reason now fault => exact books_attempt h (fun _ => books_beginReflection h)
  | commitReflection subjectId sleepId plan answers now fault =>
    exact books_attempt h (fun _ => books_commitReflection h)
  | enterDeepSleep subjectId sleepId reason bytes now fault => exact books_attempt h (fun _ => books_enterDeepSleep h)
  | wake subjectId sleepId reason force now fault => exact books_attempt h (fun _ => books_wake h)
  | completeWake subjectId sleepId reason now fault => exact books_attempt h (fun _ => books_completeWake h)
  | wakeEarly subjectId sleepId reason actor now fault => exact books_attempt h (fun _ => books_wakeEarly h)
  | assess subjectId inputs reason exhausted fault => exact books_attempt h (fun _ => books_assess h)
  | restoreAfterSleep subjectId hours reason fault => exact books_attempt h (fun _ => books_restoreAfterSleep h)
  | releaseRetryBlock subjectId blockId evidenceEventId now fault => exact books_attempt h (fun _ => books_released h)
  | compact subjectId q => exact books_compactLoop _ _ _ _ _ h
  | recordEvent subjectId => exact books_appendEvent h _ _
  | writeActions actions => exact books_others h actions db.sources db.withdrawn
  | writeSources sources withdrawn => exact books_others h db.actions sources withdrawn

lemma books_recoverLifecycle (h : Books cfg db) (hok : recoverLifecycle subjectId db = .ok y) : Books cfg y := by
  unfold recoverLifecycle at hok
  split at hok
  · cases hok
  · cases hok
    exact h
  · exact books_transitionConnection h hok
  · unfold recoverForRestart at hok
    obtain ⟨state, hstate, hok⟩ := bind_eq_ok.mp hok
    have hsome := orRaise_eq_ok.mp hstate
    cases state with
    | booting => cases hok; exact h
    | stopped => cases hok
    | resetting => cases hok
    | paused => cases hok; exact h
    | windingDown => cases hok; exact books_appendEvent h _ _
    | reflectiveSleep => cases hok; exact books_appendEvent h _ _
    | deepSleep => cases hok; exact books_appendEvent h _ _
    | waking => cases hok; exact books_appendEvent h _ _
    | active => cases hok; exact books_appendEvent (books_setLifecycle h hsome) _ _
    | orienting => cases hok; exact books_appendEvent (books_setLifecycle h hsome) _ _

lemma books_transition {s : SleepState cfg.fl} (h : Books cfg s.db) (subjectId : Nat) (target : LifecycleState)
    (reason actor : String) (fault : Fault) : Books cfg (s.transition subjectId target reason actor fault).db := by
  unfold SleepState.transition settle
  split
  · exact h
  · split
    · next hok => exact books_transitionConnection h hok
    · exact h

lemma books_sleepStep {s : SleepState cfg.fl} (h : Books cfg s.db) (a : SleepAction cfg) :
    Books cfg (sleepStep s a).db := by
  cases a with
  | boot subjectId fault =>
    have hbooks : Books cfg (recoverActions subjectId s.db) := books_others h _ _ _
    change Books cfg (s.boot subjectId fault).db
    unfold SleepState.boot
    split
    · exact h
    · simp only
      split
      · exact hbooks
      · next hok =>
        split
        · exact books_recoverLifecycle hbooks hok
        · exact books_recoverLifecycle hbooks hok
  | orient subjectId fault => exact books_transition h _ _ _ _ _
  | activate subjectId fault => exact books_transition h _ _ _ _ _
  | pause subjectId reason actor fault =>
    change Books cfg (s.pause subjectId reason actor fault).db
    unfold SleepState.pause
    split
    · exact h
    · exact books_transition h _ _ _ _ _
  | resume subjectId reason actor fault => exact books_transition h _ _ _ _ _
  | stop subjectId reason fault =>
    change Books cfg (s.stop subjectId reason fault).db
    unfold SleepState.stop
    split
    · exact h
    · exact books_transition h _ _ _ _ _
  | restart => exact h
  | checkpoint subjectId bytes fault =>
    change Books cfg (s.checkpoint subjectId bytes fault).db
    unfold SleepState.checkpoint
    split
    · exact h
    · apply books_attempt h
      intro y hy
      obtain ⟨⟨saved, _⟩, hsaved, hy⟩ := bind_eq_ok.mp hy
      cases hy
      exact books_appendEvent (books_saveCheckpoint h hsaved).1 _ _
  | engine call => exact books_engineStep h call

lemma books_initial {s : SleepState cfg.fl} (h : s.Initial) : Books cfg s.db := by
  have hnil : ∀ {κ ρ : Type} {key : ρ → κ} {t : Table key} (_ : t.rows = []) (x : ρ), x ∉ t := by
    intro κ ρ key t ht x hx
    rw [Table.mem_def, ht] at hx
    cases hx
  have hnone : ∀ i, s.db.fatigue.find? i = none := fun i =>
    Table.find?_eq_none.mpr (fun r hr => absurd hr (hnil h.fatigue r))
  refine ⟨⟨?_, ?_, ?_, ?_, ?_⟩, ?_, ?_, ?_, ?_, ?_, ?_, ?_, ?_⟩
  · exact fun r hr => absurd hr (hnil h.runs r)
  · intro e he
    rw [h.events] at he
    cases he
  · exact fun x hx => absurd hx (hnil h.snapshots x)
  · exact fun b hb => absurd hb (hnil h.retryBlocks b)
  · exact fun c hc => absurd hc (hnil h.candidates c)
  · intro i
    rw [h.fatigueTransitions]
    refine ⟨rfl, fun _ => rfl, ?_, ?_, ?_, ?_, ?_⟩
    all_goals
      intro r hr
      rw [hnone] at hr
      cases hr
  · exact fun r hr => absurd hr (hnil h.runs r)
  · refine fun i hi => ⟨fun x hx => absurd hx (hnil h.snapshots x), ?_⟩
    intro c hc
    rw [h.unsaved i hi] at hc
    cases hc
  · intro i hi
    obtain ⟨row, hrow⟩ := Option.isSome_iff_exists.mp hi
    obtain ⟨r, hr, -⟩ := Option.map_eq_some_iff.mp hrow
    obtain ⟨hmem, rfl⟩ := Table.find?_eq_some.mp hr
    obtain ⟨identity, hidentity, heq⟩ := h.identities r hmem
    rw [← heq]
    exact Option.isSome_iff_exists.mpr ⟨identity, Table.find?_key hidentity⟩
  · intro t ht
    rw [h.transitions] at ht
    cases ht
  · exact fun x hx => absurd hx (hnil h.reflections x)
  · intro i hi
    rw [h.integrations] at hi
    cases hi
  · exact fun b hb => absurd hb (hnil h.retryBlocks b)

/-- The books are kept in every run. -/
lemma reachable_books {s : SleepState cfg.fl} (h : (sleepMachine cfg).Reachable s) : Books cfg s.db :=
  Machine.ReachableUnder.invariant (I := fun s => Books cfg s.db) (fun _ h0 => books_initial h0)
    (fun _ a hs _ => books_sleepStep hs a) h

end Noyra.Sleep.Proofs
