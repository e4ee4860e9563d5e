import Noyra.Proofs.SleepRest

/-!
# The sleep audit raises no false alarm

The books hold what `verify` reads, except for three things that a call may get wrong: whose reflection or
checkpoint a run has, and what a personality candidate rests on. Where calls keep to the runs of their subject and
plans to evidence of the kind the audit looks for, the audit passes in every state.
-/

namespace Noyra.Sleep.Proofs
open Noyra.Lib

variable {fl : Floats} {cfg : SleepConfig}

/-! ### Accounts -/

/-- The records that runs, identities and candidates refer to are those of their subject. -/
structure Accounted (cfg : SleepConfig) (db : SleepDb cfg.fl) : Prop where
  reflections : ∀ r ∈ db.runs, ∀ e, r.reflectionEventId = some e → ∃ x, db.event? e = some x ∧ x.subjectId = r.subjectId
  checkpoints : ∀ r ∈ db.runs, ∀ c, r.checkpointId = some c →
    ∃ x, db.snapshots.find? c = some x ∧ x.subjectId = r.subjectId
  last : ∀ i ∈ db.identities, ∀ c, i.lastCheckpoint = some c →
    ∃ x, db.snapshots.find? c = some x ∧ x.subjectId = i.subjectId ∧ x.stateVersion = i.stateVersion
  candidates : ∀ c ∈ db.candidates, auditCandidate cfg db c.subjectId c = .ok ()

/-- What a run refers to is what another one refers to, or nothing. -/
def SameReferences (db : SleepDb fl) (r' : SleepRunRow fl) : Prop :=
  r'.reflectionEventId = none ∧ r'.checkpointId = none ∨
    ∃ r ∈ db.runs, r'.subjectId = r.subjectId ∧ r'.reflectionEventId = r.reflectionEventId ∧
      r'.checkpointId = r.checkpointId

/-- A change that adds no reference. -/
structure Carried (db db' : SleepDb fl) : Prop where
  runs : ∀ r' ∈ db'.runs, SameReferences db r'
  events : db.events <+: db'.events
  snapshots : ∀ c x, referred db c = true → db.snapshots.find? c = some x → db'.snapshots.find? c = some x
  identities : ∀ i ∈ db'.identities, i ∈ db.identities ∨ ∀ c, i.lastCheckpoint = some c →
    ∃ x, db'.snapshots.find? c = some x ∧ x.subjectId = i.subjectId ∧ x.stateVersion = i.stateVersion
  candidates : db'.candidates = db.candidates

lemma auditCandidate_mono {db db' : SleepDb cfg.fl} {subjectId : Nat} {c : CandidateRow cfg.fl}
    (hp : db.events <+: db'.events) (h : auditCandidate cfg db subjectId c = .ok ()) :
    auditCandidate cfg db' subjectId c = .ok () := by
  unfold auditCandidate at h ⊢
  obtain ⟨_, hlist, h⟩ := bind_eq_ok.mp h
  obtain ⟨_, hevidence, h⟩ := bind_eq_ok.mp h
  rw [hlist, ok_bind, raiseIf_neg, ok_bind]
  · exact h
  · rw [raiseIf_eq_ok] at hevidence
    intro hany
    apply hevidence
    rw [List.any_eq_true] at hany ⊢
    obtain ⟨id, hid, hall⟩ := hany
    refine ⟨id, hid, ?_⟩
    cases he : db.event? id with
    | none => rfl
    | some e =>
      rw [event?_of_extends hp he] at hall
      exact hall

lemma referred_run {db : SleepDb fl} {r : SleepRunRow fl} {c : Nat} (hr : r ∈ db.runs) (hc : r.checkpointId = some c) :
    referred db c = true := by
  simp only [referred, Bool.or_eq_true, List.any_eq_true, decide_eq_true_eq]
  exact .inl ⟨r, hr, hc⟩

lemma referred_identity {db : SleepDb fl} {i : IdentityRow} {c : Nat} (hi : i ∈ db.identities)
    (hc : i.lastCheckpoint = some c) : referred db c = true := by
  simp only [referred, Bool.or_eq_true, List.any_eq_true, decide_eq_true_eq]
  exact .inr ⟨i, hi, hc⟩

lemma Accounted.carried {db db' : SleepDb cfg.fl} (h : Accounted cfg db) (hc : Carried db db') : Accounted cfg db' := by
  refine ⟨?_, ?_, ?_, ?_⟩
  · intro r' hr' e he
    rcases hc.runs r' hr' with ⟨hnone, -⟩ | ⟨r, hr, hsub, href, -⟩
    · rw [hnone] at he
      cases he
    · obtain ⟨x, hx, hxs⟩ := h.reflections r hr e (href ▸ he)
      exact ⟨x, event?_of_extends hc.events hx, hxs.trans hsub.symm⟩
  · intro r' hr' c hcp
    rcases hc.runs r' hr' with ⟨-, hnone⟩ | ⟨r, hr, hsub, -, hcheck⟩
    · rw [hnone] at hcp
      cases hcp
    · have hcr := hcheck ▸ hcp
      obtain ⟨x, hx, hxs⟩ := h.checkpoints r hr c hcr
      exact ⟨x, hc.snapshots c x (referred_run hr hcr) hx, hxs.trans hsub.symm⟩
  · intro i hi c hcp
    rcases hc.identities i hi with hold | hnew
    · obtain ⟨x, hx, hxs, hxv⟩ := h.last i hold c hcp
      exact ⟨x, hc.snapshots c x (referred_identity hold hcp) hx, hxs, hxv⟩
    · exact hnew c hcp
  · intro c hcand
    rw [hc.candidates] at hcand
    exact auditCandidate_mono hc.events (h.candidates c hcand)

lemma sameReferences_self {db : SleepDb fl} {r : SleepRunRow fl} (hr : r ∈ db.runs) : SameReferences db r :=
  .inr ⟨r, hr, rfl, rfl, rfl⟩

/-- A change that keeps the runs, the snapshots and the candidates. -/
lemma carried_of_eq {db db' : SleepDb fl} (hruns : db'.runs = db.runs) (hevents : db.events <+: db'.events)
    (hsnapshots : db'.snapshots = db.snapshots) (hidentities : db'.identities = db.identities)
    (hcandidates : db'.candidates = db.candidates) : Carried db db' where
  runs := fun r' hr' => sameReferences_self (hruns ▸ hr')
  events := hevents
  snapshots := fun c x _ hx => by rw [hsnapshots]; exact hx
  identities := fun i hi => .inl (hidentities ▸ hi)
  candidates := hcandidates

lemma carried_refl (db : SleepDb fl) : Carried db db := carried_of_eq rfl (List.prefix_refl _) rfl rfl rfl

/-- A change that moves a run and keeps what it refers to. -/
lemma carried_moved {db db' : SleepDb fl} {row : SleepRunRow fl} {sleepId : Nat}
    (hrow : db.runs.find? sleepId = some row)
    (new : SleepRunRow fl)
    (hsubject : new.subjectId = row.subjectId) (hreflection : new.reflectionEventId = row.reflectionEventId)
    (hcheckpoint : new.checkpointId = row.checkpointId) (hruns : db'.runs = db.runs.replace new)
    (hevents : db.events <+: db'.events) (hsnapshots : db'.snapshots = db.snapshots)
    (hidentities : db'.identities = db.identities) (hcandidates : db'.candidates = db.candidates) : Carried db db' where
  runs := by
    intro r' hr'
    rw [hruns] at hr'
    rcases Table.mem_replace.mp hr' with ⟨rfl, -⟩ | ⟨hr', -⟩
    · exact .inr ⟨row, (Table.find?_eq_some.mp hrow).1, hsubject, hreflection, hcheckpoint⟩
    · exact sameReferences_self hr'
  events := hevents
  snapshots := fun c x _ hx => by rw [hsnapshots]; exact hx
  identities := fun i hi => .inl (hidentities ▸ hi)
  candidates := hcandidates

section Calls

variable {subjectId sleepId : Nat} {db db' : SleepDb cfg.fl}

lemma carried_transitionConnection {target : LifecycleState} {reason actor : String}
    (h : transitionConnection subjectId target reason actor db = .ok db') : Carried db db' := by
  obtain ⟨-, _, -, -, rfl⟩ := transitionConnection_ok h
  exact carried_of_eq rfl (List.prefix_append _ _) rfl rfl rfl

lemma carried_beginReflection {reason : String} {now : Nat}
    (h : beginReflection cfg subjectId sleepId reason now db = .ok db') : Carried db db' := by
  rcases beginReflection_ok h with ⟨rfl, -⟩ | ⟨row, mid, hrow, -, hmid, hrun⟩
  · exact carried_refl _
  · obtain ⟨-, _, -, -, rfl⟩ := transitionConnection_ok hmid
    obtain ⟨-, rfl⟩ := transitionRun_ok hrun
    exact carried_moved hrow (row.moved cfg .reflectiveSleep none none now) rfl rfl rfl rfl (List.prefix_append _ _)
      rfl rfl rfl

lemma carried_wake {reason : String} {force : Bool} {now : Nat}
    (h : wake cfg subjectId sleepId reason force now db = .ok db') : Carried db db' := by
  rcases wake_ok h with rfl | ⟨row, mid, hrow, -, hmid, hrun⟩
  · exact carried_refl _
  · obtain ⟨-, _, -, -, rfl⟩ := transitionConnection_ok hmid
    obtain ⟨-, rfl⟩ := transitionRun_ok hrun
    exact carried_moved hrow (row.moved cfg .waking none none now) rfl rfl rfl rfl (List.prefix_append _ _) rfl rfl rfl

lemma carried_completeWake {reason : String} {now : Nat}
    (h : completeWake cfg subjectId sleepId reason now db = .ok db') : Carried db db' := by
  rcases completeWake_ok h with ⟨rfl, -⟩ | ⟨row, mid, hrow, -, hmid, hfinish⟩
  · exact carried_refl _
  · obtain ⟨-, _, -, -, rfl⟩ := transitionConnection_ok hmid
    obtain ⟨_, _, restored, hrestored, hrun⟩ := finishRun_ok hfinish
    obtain ⟨_, _, _, _, _, rfl⟩ := restoreFatigueConnection_ok hrestored
    obtain ⟨-, rfl⟩ := transitionRun_ok hrun
    exact carried_moved hrow (row.moved cfg .complete none (some now) now) rfl rfl rfl rfl (List.prefix_append _ _) rfl
      rfl rfl

lemma carried_wakeEarly {reason actor : String} {now : Nat}
    (h : wakeEarly cfg subjectId sleepId reason actor now db = .ok db') : Carried db db' := by
  rcases wakeEarly_ok h with ⟨rfl, -⟩ | ⟨row, mid, moved, woken, hrow, -, hmid, hmoved, hwoken, hfinish⟩
  · exact carried_refl _
  · obtain ⟨-, _, -, -, rfl⟩ := transitionConnection_ok hmid
    obtain ⟨-, rfl⟩ := transitionRun_ok hmoved
    obtain ⟨-, _, -, -, rfl⟩ := transitionConnection_ok hwoken
    obtain ⟨_, _, restored, hrestored, hrun⟩ := finishRun_ok hfinish
    obtain ⟨_, _, _, _, _, rfl⟩ := restoreFatigueConnection_ok hrestored
    obtain ⟨-, rfl⟩ := transitionRun_ok hrun
    exact carried_moved hrow ((row.moved cfg .waking none none now).moved cfg .complete none (some now) now) rfl rfl rfl
      (replace_replace db.runs rfl)
      ((List.prefix_append _ _).trans (List.prefix_append _ _)) rfl rfl rfl

lemma carried_startStep {q : StartRequest} {fault : Bool} : Carried db (startStep subjectId q fault db) := by
  unfold startStep
  split
  · exact carried_refl _
  · next ensured row wake hchecks =>
    obtain ⟨table, rfl⟩ : ∃ table, ensured = { db with fatigue := table } := by
      obtain ⟨-, ⟨-, rfl⟩ | ⟨table, _, _, rfl⟩⟩ := startChecks_ok hchecks
      · exact ⟨_, rfl⟩
      · exact ⟨table, rfl⟩
    unfold attempt settle
    split
    · exact carried_of_eq rfl (List.prefix_refl _) rfl rfl rfl
    · split
      · next hok =>
        rcases startRun_ok hok with rfl | ⟨mid, runs, -, -, -, hmid, hinsert, rfl⟩
        · exact carried_of_eq rfl (List.prefix_refl _) rfl rfl rfl
        · obtain ⟨-, _, -, -, rfl⟩ := transitionConnection_ok hmid
          refine ⟨?_, ?_, fun _ _ _ hx => hx, fun _ hi => .inl hi, rfl⟩
          · intro r' hr'
            rcases mem_insert hinsert hr' with hr' | rfl
            · exact sameReferences_self hr'
            · exact .inl ⟨rfl, rfl⟩
          · exact (List.prefix_append _ _).trans (List.prefix_append _ _)
      · exact carried_of_eq rfl (List.prefix_refl _) rfl rfl rfl

lemma carried_assess {inputs : FatigueInputs cfg.fl} {reason : String} {exhausted : Bool}
    (h : assess cfg subjectId inputs reason exhausted db = .ok db') : Carried db db' := by
  unfold assess at h
  obtain ⟨_, -, h⟩ := bind_eq_ok.mp h
  obtain ⟨_, -, h⟩ := bind_eq_ok.mp h
  obtain ⟨⟨mid, row⟩, hmid, h⟩ := bind_eq_ok.mp h
  obtain ⟨written, hwrite, h⟩ := bind_eq_ok.mp h
  obtain ⟨_, -, h⟩ := bind_eq_ok.mp h
  cases h
  obtain ⟨-, -, rfl⟩ := writeFatigue_ok hwrite
  obtain ⟨_, rfl⟩ := fatigueRow_frame hmid
  exact carried_of_eq rfl (List.prefix_refl _) rfl rfl rfl

lemma carried_restoreAfterSleep {hours : cfg.fl.F} {reason : String}
    (h : restoreAfterSleep cfg subjectId hours reason db = .ok db') : Carried db db' := by
  unfold restoreAfterSleep at h
  obtain ⟨_, -, h⟩ := bind_eq_ok.mp h
  obtain ⟨⟨mid, row⟩, hmid, h⟩ := bind_eq_ok.mp h
  obtain ⟨written, hwrite, h⟩ := bind_eq_ok.mp h
  obtain ⟨_, -, h⟩ := bind_eq_ok.mp h
  cases h
  obtain ⟨-, -, rfl⟩ := writeFatigue_ok hwrite
  obtain ⟨_, rfl⟩ := fatigueRow_frame hmid
  exact carried_of_eq rfl (List.prefix_refl _) rfl rfl rfl

lemma carried_releaseRetryBlock {blockId evidenceEventId now : Nat}
    (h : releaseRetryBlock cfg subjectId blockId evidenceEventId now db = .ok db') : Carried db db' := by
  unfold releaseRetryBlock at h
  obtain ⟨_, -, h⟩ := bind_eq_ok.mp h
  obtain ⟨_, -, h⟩ := bind_eq_ok.mp h
  obtain ⟨_, -, h⟩ := bind_eq_ok.mp h
  split at h
  · cases h
    exact carried_refl _
  · obtain ⟨_, -, h⟩ := bind_eq_ok.mp h
    cases h
    exact carried_of_eq rfl (List.prefix_refl _) rfl rfl rfl

lemma carried_saveCheckpoint {bytes snapshotId : Nat} (h : saveCheckpoint subjectId bytes db = .ok (db', snapshotId)) :
    Carried db db' ∧ ∃ x, db'.snapshots.find? snapshotId = some x ∧ x.subjectId = subjectId := by
  obtain ⟨identity, table, -, rfl, -, hinsert, rfl⟩ := saveCheckpoint_ok h
  have hfind := Table.find?_insert hinsert
  have hself : table.find? db.nextId = some ⟨db.nextId, subjectId, identity.stateVersion + 1, bytes⟩ :=
    (hfind db.nextId).trans (if_pos rfl)
  refine ⟨⟨fun _ hr => sameReferences_self hr, List.prefix_refl _, ?_, ?_, rfl⟩, _, hself, rfl⟩
  · intro c x _ hx
    obtain ⟨hmem, rfl⟩ := Table.find?_eq_some.mp hx
    have hne : x.snapshotId ≠ db.nextId := (Table.insert?_eq_some.mp hinsert).1 x hmem
    exact ((hfind x.snapshotId).trans (if_neg hne)).trans hx
  · intro i hi
    rcases Table.mem_replace.mp hi with ⟨rfl, -⟩ | ⟨hi, -⟩
    · refine .inr fun c hc => ?_
      cases hc
      exact ⟨_, hself, rfl, rfl⟩
    · exact .inl hi

lemma carried_published {batch : List SnapshotRow} (h : publishCompactionBatch batch db = .ok db') :
    Carried db db' := by
  unfold publishCompactionBatch at h
  obtain ⟨_, hfree, h⟩ := bind_eq_ok.mp h
  cases h
  rw [raiseIf_eq_ok, List.any_eq_true, not_exists] at hfree
  refine ⟨fun _ hr => sameReferences_self hr, List.prefix_refl _, ?_, fun _ hi => .inl hi, rfl⟩
  intro c x hc hx
  obtain ⟨hmem, rfl⟩ := Table.find?_eq_some.mp hx
  exact find?_keepRows hmem (decide_eq_true (fun hb => hfree x ⟨hb, hc⟩))

lemma accounted_compactLoop {keepRecent batchSize batchBytes : Nat} {maxRows maxBytes : Option Nat} (turns : Nat) :
    ∀ (archived consumed : Nat) (cursor : Option Nat) (db : SleepDb cfg.fl), Accounted cfg db →
      Accounted cfg (compactLoop subjectId keepRecent batchSize batchBytes maxRows maxBytes turns archived consumed
        cursor
        db).1 := by
  induction turns with
  | zero => exact fun _ _ _ _ h => h
  | succ turns ih =>
    intro archived consumed cursor db h
    unfold compactLoop
    simp only
    split
    · exact h
    · split
      · exact h
      · split
        · exact h
        · next hok => exact ih _ _ _ _ (h.carried (carried_published hok))

/-- A run of the subject gets the checkpoint of the subject. -/
lemma accounted_enterDeepSleep {reason : String} {bytes now : Nat} (h : Accounted cfg db)
    (hown : ownRun db subjectId sleepId = true)
    (hok : enterDeepSleep cfg subjectId sleepId reason bytes now db = .ok db') :
    Accounted cfg db' := by
  rcases enterDeepSleep_ok hok with ⟨rfl, -⟩ | ⟨row, saved, snapshotId, mid, asleep, hrow, -, -, hsaved, hmid, hasleep,
    hrun⟩
  · exact h
  · have hsub := ownRun_eq hown hrow
    obtain ⟨hcarried, x, hx, hxs⟩ := carried_saveCheckpoint hsaved
    have hbefore := (h.carried hcarried).carried (carried_transitionConnection hmid)
    have hmem : row ∈ asleep.runs := by
      obtain ⟨_, _, -, rfl, -, -, rfl⟩ := saveCheckpoint_ok hsaved
      obtain ⟨-, _, -, -, rfl⟩ := transitionConnection_ok hmid
      obtain ⟨_, _, _, _, _, rfl⟩ := markFatigueSleeping_ok hasleep
      exact (Table.find?_eq_some.mp hrow).1
    have hsnapshot : asleep.snapshots.find? snapshotId = some x := by
      obtain ⟨-, _, -, -, rfl⟩ := transitionConnection_ok hmid
      obtain ⟨_, _, _, _, _, rfl⟩ := markFatigueSleeping_ok hasleep
      exact hx
    have hrested : Accounted cfg asleep := by
      obtain ⟨_, _, _, _, _, rfl⟩ := markFatigueSleeping_ok hasleep
      exact hbefore.carried (carried_of_eq rfl (List.prefix_refl _) rfl rfl rfl)
    obtain ⟨-, rfl⟩ := transitionRun_ok hrun
    refine ⟨?_, ?_, hrested.last, fun c hc => hrested.candidates c hc⟩
    · intro r hr e he
      rcases Table.mem_replace.mp hr with ⟨rfl, -⟩ | ⟨hr, -⟩
      · exact hrested.reflections row hmem e he
      · exact hrested.reflections r hr e he
    · intro r hr c hc
      rcases Table.mem_replace.mp hr with ⟨rfl, -⟩ | ⟨hr, -⟩
      · cases hc
        exact ⟨x, hsnapshot, hxs.trans hsub.symm⟩
      · exact hrested.checkpoints r hr c hc

/-- The evidence of every candidate is events of the subject, and its numbers are what a REAL column gives back. -/
def evident {fl : Floats} (db : SleepDb fl) (subjectId : Nat) (plan : SleepReflectionPlan fl) : Bool :=
  plan.personalityCandidates.all (fun c =>
    c.evidenceIds.all (fun id => (db.event? id).any (fun e => e.subjectId = subjectId)) &&
      fl.stored c.direction = c.direction && fl.stored c.confidence = c.confidence)

lemma mem_distinct {ids : List Nat} {id : Nat} : id ∈ distinct ids ↔ id ∈ ids := by
  simp [distinct]

lemma auditCandidate_of {base : SleepDb cfg.fl} {plan : SleepReflectionPlan cfg.fl}
    {item : PersonalityCandidateInput cfg.fl}
    {c : CandidateRow cfg.fl} (hevident : evident db subjectId plan = true) (hitem : item ∈ plan.personalityCandidates)
    (hp : db.events <+: db'.events) (h : CandidateOf cfg base subjectId item c) :
    auditCandidate cfg db' c.subjectId c = .ok () := by
  have hitems := List.all_eq_true.mp hevident item hitem
  rw [Bool.and_eq_true, Bool.and_eq_true, decide_eq_true_eq, decide_eq_true_eq, List.all_eq_true] at hitems
  obtain ⟨⟨hevents, hdirection⟩, hconfidence⟩ := hitems
  obtain ⟨hids, hne⟩ := validateCausalSourceIds_ne_nil h.evidence
  unfold auditCandidate
  rw [raiseIf_neg, ok_bind, raiseIf_neg, ok_bind, raiseIf_neg, ok_bind, raiseIf_neg]
  · rw [h.status, h.hash, h.trait, h.direction, h.confidence, hdirection, hconfidence]
    exact not_not.mpr rfl
  · simp [h.range.1, h.range.2]
  · intro hany
    rw [List.any_eq_true] at hany
    obtain ⟨id, hid, hall⟩ := hany
    rw [hids, mem_distinct] at hid
    obtain ⟨e, he, hes⟩ := (Option.any_eq_true _ _).mp (hevents id hid)
    rw [event?_of_extends hp he, Option.all_some, decide_eq_true_eq, h.subject] at hall
    exact hall (of_decide_eq_true hes)
  · rw [not_or, not_not, hids]
    exact ⟨hids ▸ hne, nodup_distinct _⟩

/-- A reflection of the subject's own run with evident candidates passes the audit. -/
lemma accounted_commitReflection {answers : PlanAnswers} {plan : SleepReflectionPlan cfg.fl} {now : Nat}
    (hbooks : Books cfg db) (h : Accounted cfg db) (hown : ownRun db subjectId sleepId = true)
    (hevident : evident db subjectId plan = true)
    (hok : commitReflection cfg answers subjectId sleepId plan now db = .ok db') : Accounted cfg db' := by
  obtain ⟨hvalid, ⟨rfl, -⟩ | ⟨row, table, mid, hrow, -, -, hplan, rfl⟩⟩ := commitReflection_ok hok
  · exact h
  · have hsub := ownRun_eq hown hrow
    obtain ⟨integrations, retryBlocks, candidates, nextId, rfl, hp⟩ := applyPlan_ok hvalid hplan
    have hbegins : db.events <+: (db.appendEvent subjectId .sleepReflection).events := List.prefix_append _ _
    have hevent : (db.appendEvent subjectId .sleepReflection).event? db.nextId =
        some ⟨db.nextId, subjectId, .sleepReflection⟩ := event?_appendEvent hbooks.ids.events
    refine ⟨?_, ?_, h.last, ?_⟩
    · intro r hr e he
      rcases Table.mem_replace.mp hr with ⟨rfl, -⟩ | ⟨hr, -⟩
      · cases he
        exact ⟨_, hevent, hsub.symm⟩
      · obtain ⟨x, hx, hxs⟩ := h.reflections r hr e he
        exact ⟨x, event?_of_extends hbegins hx, hxs⟩
    · intro r hr c hc
      rcases Table.mem_replace.mp hr with ⟨rfl, -⟩ | ⟨hr, -⟩
      · exact h.checkpoints row (Table.find?_eq_some.mp hrow).1 c hc
      · exact h.checkpoints r hr c hc
    · intro c hc
      rcases hp.candidates c hc with hold | ⟨-, item, hitem, hof⟩
      · exact auditCandidate_mono hbegins (h.candidates c hold)
      · exact auditCandidate_of hevident hitem hbegins hof

lemma accounted_attempt {fault : Bool} {r : Except SleepError (SleepDb cfg.fl)} (h : Accounted cfg db)
    (hr : ∀ y, r = .ok y → Accounted cfg y) : Accounted cfg (attempt fault db r) := by
  unfold attempt settle
  split
  · exact h
  · split
    · exact hr _ rfl
    · exact h

end Calls

/-! ### Compaction -/

/-- The snapshots of the same subject with a newer version. -/
def newer (db : SleepDb fl) (x : SnapshotRow) : Nat :=
  (db.snapshots.rows.filter (fun y => y.subjectId = x.subjectId && x.stateVersion < y.stateVersion)).length

/-- Every checkpoint of a run of the subject is among those that compaction keeps. -/
def unarchived (db : SleepDb fl) (subjectId keepRecent : Nat) : Bool :=
  db.runs.rows.all (fun r => (r.checkpointId.bind db.snapshots.find?).all (fun x =>
    x.subjectId ≠ subjectId || newer db x < keepRecent))

lemma newestFirst_perm (subjectId : Nat) (db : SleepDb fl) :
    (newestFirst subjectId db).Perm (db.snapshots.rows.filter (fun x => x.subjectId = subjectId)) :=
  List.perm_insertionSort _ _

lemma pairwise_newestFirst (subjectId : Nat) (db : SleepDb fl) :
    (newestFirst subjectId db).Pairwise (fun a b => b.stateVersion ≤ a.stateVersion) := by
  have htotal : Std.Total (fun a b : SnapshotRow => b.stateVersion ≤ a.stateVersion) := ⟨fun a b => Nat.le_total _ _⟩
  have htrans : IsTrans SnapshotRow (fun a b => b.stateVersion ≤ a.stateVersion) :=
    ⟨fun _ _ _ hab hbc => Nat.le_trans hbc hab⟩
  exact List.pairwise_insertionSort _ _

/-- The first rows of a list that is sorted are at least as new as the last of them. -/
lemma le_of_mem_take {l : List SnapshotRow} (hl : l.Pairwise (fun a b => b.stateVersion ≤ a.stateVersion)) {n : Nat}
    {cutoff y : SnapshotRow} (hcut : l[n]? = some cutoff) (hy : y ∈ l.take (n + 1)) :
    cutoff.stateVersion ≤ y.stateVersion := by
  obtain ⟨k, hk, rfl⟩ := List.mem_take_iff_getElem.mp hy
  obtain ⟨hn, rfl⟩ := List.getElem?_eq_some_iff.mp hcut
  have hle : k ≤ n := by omega
  rcases Nat.lt_or_eq_of_le hle with hlt | rfl
  · exact List.pairwise_iff_getElem.mp hl k n (by omega) hn hlt
  · exact Nat.le_refl _

lemma mem_takeBytes {limit : Nat} {l : List SnapshotRow} {x : SnapshotRow} (h : x ∈ takeBytes limit l) : x ∈ l := by
  induction l generalizing limit with
  | nil => cases h
  | cons y l ih =>
    unfold takeBytes at h
    split at h
    · rcases List.mem_cons.mp h with rfl | h
      · exact List.mem_cons_self
      · exact List.mem_cons_of_mem _ (ih h)
    · cases h

/-- A row of a batch has as many newer ones as compaction keeps. -/
lemma newer_of_mem_batch {subjectId keepRecent rowLimit byteLimit : Nat} {cursor : Option Nat} {db : SleepDb fl}
    {x : SnapshotRow} (hpos : 0 < keepRecent)
    (h : x ∈ readCompactionBatch subjectId keepRecent cursor rowLimit byteLimit db) :
    x ∈ db.snapshots ∧ x.subjectId = subjectId ∧ keepRecent ≤ newer db x := by
  unfold readCompactionBatch at h
  simp only at h
  split at h
  · cases h
  · next hmany =>
    split at h
    · cases h
    · next cutoff hcut =>
      have hmem := List.mem_of_mem_take (mem_takeBytes h)
      rw [List.mem_filter, List.mem_reverse, Bool.and_eq_true, decide_eq_true_eq] at hmem
      obtain ⟨hnewest, hbelow, -⟩ := hmem
      obtain ⟨hrows, hsub⟩ := List.mem_filter.mp ((newestFirst_perm subjectId db).mem_iff.mp hnewest)
      rw [decide_eq_true_eq] at hsub
      refine ⟨hrows, hsub, ?_⟩
      obtain ⟨n, rfl⟩ : ∃ n, keepRecent = n + 1 := ⟨keepRecent - 1, by omega⟩
      have hcut' : (newestFirst subjectId db)[n]? = some cutoff := by
        rw [List.getElem?_take, if_pos (by omega)] at hcut
        exact hcut
      have hlength : ((newestFirst subjectId db).take (n + 1)).length = n + 1 := by
        rw [List.length_take] at hmany ⊢
        omega
      -- the rows that are kept are all newer
      have hall : ((newestFirst subjectId db).take (n + 1)).filter (fun y => x.stateVersion < y.stateVersion) =
          (newestFirst subjectId db).take (n + 1) := by
        rw [List.filter_eq_self]
        intro y hy
        exact decide_eq_true (Nat.lt_of_lt_of_le hbelow (le_of_mem_take (pairwise_newestFirst subjectId db) hcut' hy))
      have hsublist := (List.take_sublist (n + 1) (newestFirst subjectId db)).filter
        (fun y => decide (x.stateVersion < y.stateVersion))
      rw [hall] at hsublist
      have hperm := ((newestFirst_perm subjectId db).filter
          (fun y => decide (x.stateVersion < y.stateVersion))).length_eq
      rw [List.filter_filter] at hperm
      have hle := hsublist.length_le
      rw [hlength, hperm] at hle
      unfold newer
      rw [hsub]
      simpa only [Bool.and_comm] using hle

/-- The rows that compaction archives are not referred to. -/
lemma published_of_unarchived {subjectId keepRecent rowLimit byteLimit : Nat} {cursor : Option Nat}
    {db : SleepDb cfg.fl} (hpos : 0 < keepRecent) (hbooks : Books cfg db) (h : Accounted cfg db)
    (hkept : unarchived db subjectId keepRecent = true) :
    ∃ db', publishCompactionBatch (readCompactionBatch subjectId keepRecent cursor rowLimit byteLimit db) db =
      .ok db' := by
  refine ⟨_, (congrArg (fun r => r >>= _) (raiseIf_neg ?_)).trans rfl⟩
  intro hany
  obtain ⟨x, hx, hreferred⟩ := List.any_eq_true.mp hany
  obtain ⟨hmem, hsub, hnewer⟩ := newer_of_mem_batch hpos hx
  have hfind : db.snapshots.find? x.snapshotId = some x := Table.find?_key hmem
  simp only [referred, Bool.or_eq_true, List.any_eq_true, decide_eq_true_eq] at hreferred
  rcases hreferred with ⟨r, hr, hc⟩ | ⟨i, hi, hc⟩
  · have hrow := List.all_eq_true.mp hkept r hr
    rw [hc, Option.bind_some, hfind, Option.all_some, hsub] at hrow
    simp only [ne_eq, not_true_eq_false, decide_false, Bool.false_or, decide_eq_true_eq] at hrow
    omega
  · -- the last checkpoint of an identity is the newest one
    obtain ⟨y, hy, hys, hyv⟩ := h.last i hi _ hc
    have heq : y = x := Option.some.inj (hy.symm.trans hfind)
    subst heq
    have hzero : newer db y = 0 := by
      unfold newer
      rw [List.length_eq_zero_iff, List.filter_eq_nil_iff]
      intro z hz hmatch
      rw [Bool.and_eq_true, decide_eq_true_eq, decide_eq_true_eq] at hmatch
      have hle := (hbooks.identities i hi).newest z hz (hmatch.1.trans hys)
      omega
    omega

lemma newer_le_of_sublist {db db' : SleepDb fl} (h : db'.snapshots.rows.Sublist db.snapshots.rows) (x : SnapshotRow) :
    newer db' x ≤ newer db x :=
  (h.filter _).length_le

lemma unarchived_published {subjectId keepRecent : Nat} {batch : List SnapshotRow} {db db' : SleepDb cfg.fl}
    (hbooks : Books cfg db) (hkept : unarchived db subjectId keepRecent = true)
    (hok : publishCompactionBatch batch db = .ok db') : unarchived db' subjectId keepRecent = true := by
  have hcarried := carried_published hok
  unfold publishCompactionBatch at hok
  obtain ⟨_, -, hok⟩ := bind_eq_ok.mp hok
  cases hok
  unfold unarchived
  rw [List.all_eq_true]
  intro r hr
  have hrow := List.all_eq_true.mp hkept r hr
  cases hc : r.checkpointId with
  | none => rfl
  | some c =>
    obtain ⟨x, hx⟩ := Option.isSome_iff_exists.mp ((hbooks.runs r hr).checkpoint c hc)
    have hx' := hcarried.snapshots c x (referred_run hr hc) hx
    rw [hc, Option.bind_some, hx, Option.all_some, Bool.or_eq_true] at hrow
    rw [Option.bind_some, hx', Option.all_some, Bool.or_eq_true]
    rcases hrow with hother | hlt
    · exact .inl hother
    · have hle : newer { db with snapshots := db.snapshots.keepRows (fun x => x ∉ batch) } x ≤ newer db x :=
        newer_le_of_sublist List.filter_sublist x
      rw [decide_eq_true_eq] at hlt
      exact .inr (decide_eq_true (Nat.lt_of_le_of_lt hle hlt))

lemma compactLoop_succeeds {subjectId keepRecent batchSize batchBytes : Nat} {maxRows maxBytes : Option Nat}
    (hpos : 0 < keepRecent) (turns : Nat) :
    ∀ (archived consumed : Nat) (cursor : Option Nat) (db : SleepDb cfg.fl), Books cfg db → Accounted cfg db →
      unarchived db subjectId keepRecent = true →
      (compactLoop subjectId keepRecent batchSize batchBytes maxRows maxBytes turns archived consumed cursor db).2 =
        none := by
  induction turns with
  | zero => exact fun _ _ _ _ _ _ _ => rfl
  | succ turns ih =>
    intro archived consumed cursor db hbooks h hkept
    unfold compactLoop
    simp only
    split
    · rfl
    · split
      · rfl
      · split
        · next hok =>
          obtain ⟨_, hgood⟩ := published_of_unarchived hpos hbooks h hkept
          rw [hgood] at hok
          cases hok
        · next hok =>
          exact ih _ _ _ _ (books_published hbooks hok) (h.carried (carried_published hok))
            (unarchived_published hbooks hkept hok)

lemma bounded_pos (n : Int) : 0 < bounded 2 1000 n := by
  unfold bounded
  omega

lemma compact_succeeds {subjectId : Nat} {q : CompactRequest} {db : SleepDb cfg.fl} (hbooks : Books cfg db)
    (h : Accounted cfg db) (hkept : unarchived db subjectId (bounded 2 1000 q.keepRecent) = true) :
    (compact subjectId q db).2 = none :=
  compactLoop_succeeds (bounded_pos _) _ _ _ _ _ hbooks h hkept

/-- A step that keeps to the runs of its subject where it gives them a reflection or a checkpoint, commits plans
whose candidates the audit accepts, and archives no checkpoint of a run. -/
def accountable (s : SleepState cfg.fl) : SleepAction cfg → Bool
  | .engine (.commitReflection subjectId sleepId plan _ _ _) =>
    ownRun s.db subjectId sleepId && evident s.db subjectId plan
  | .engine (.enterDeepSleep subjectId sleepId _ _ _ _) => ownRun s.db subjectId sleepId
  | .engine (.compact subjectId q) => unarchived s.db subjectId (bounded 2 1000 q.keepRecent)
  | _ => true

lemma accounted_engineStep {s : SleepState cfg.fl} (hbooks : Books cfg s.db) (h : Accounted cfg s.db)
    (call : EngineCall cfg) (ha : accountable s (.engine call) = true) : Accounted cfg (engineStep s.db call) := by
  cases call with
  | start subjectId q fault => exact h.carried carried_startStep
  | beginReflection subjectId sleepId reason now fault =>
    exact accounted_attempt h (fun _ hy => h.carried (carried_beginReflection hy))
  | commitReflection subjectId sleepId plan answers now fault =>
    obtain ⟨hown, hevident⟩ := (Bool.and_eq_true _ _).mp ha
    exact accounted_attempt h (fun _ hy => accounted_commitReflection hbooks h hown hevident hy)
  | enterDeepSleep subjectId sleepId reason bytes now fault =>
    exact accounted_attempt h (fun _ hy => accounted_enterDeepSleep h ha hy)
  | wake subjectId sleepId reason force now fault => exact accounted_attempt h (fun _ hy => h.carried (carried_wake hy))
  | completeWake subjectId sleepId reason now fault =>
    exact accounted_attempt h (fun _ hy => h.carried (carried_completeWake hy))
  | wakeEarly subjectId sleepId reason actor now fault =>
    exact accounted_attempt h (fun _ hy => h.carried (carried_wakeEarly hy))
  | assess subjectId inputs reason exhausted fault =>
    exact accounted_attempt h (fun _ hy => h.carried (carried_assess hy))
  | restoreAfterSleep subjectId hours reason fault =>
    exact accounted_attempt h (fun _ hy => h.carried (carried_restoreAfterSleep hy))
  | releaseRetryBlock subjectId blockId evidenceEventId now fault =>
    exact accounted_attempt h (fun _ hy => h.carried (carried_releaseRetryBlock hy))
  | compact subjectId q => exact accounted_compactLoop _ _ _ _ _ h
  | recordEvent subjectId => exact h.carried (carried_of_eq rfl (List.prefix_append _ _) rfl rfl rfl)
  | writeActions actions => exact h.carried (carried_of_eq rfl (List.prefix_refl _) rfl rfl rfl)
  | writeSources sources withdrawn => exact h.carried (carried_of_eq rfl (List.prefix_refl _) rfl rfl rfl)

lemma carried_recoverLifecycle {subjectId : Nat} {db y : SleepDb cfg.fl} (hok : recoverLifecycle subjectId db = .ok y) :
    Carried db y := by
  have hevent : ∀ z : SleepDb cfg.fl, z.runs = db.runs → z.events = db.events → z.snapshots = db.snapshots →
      z.identities = db.identities → z.candidates = db.candidates →
        Carried db (z.appendEvent subjectId .lifecycleRecovery) := by
    intro z hr he hs hi hc
    exact carried_of_eq hr ⟨_, congrArg (· ++ _) he.symm⟩ hs hi hc
  unfold recoverLifecycle at hok
  split at hok
  · cases hok
  · cases hok
    exact carried_refl _
  · exact carried_transitionConnection hok
  · unfold recoverForRestart at hok
    obtain ⟨state, -, hok⟩ := bind_eq_ok.mp hok
    cases state with
    | booting => cases hok; exact carried_refl _
    | stopped => cases hok
    | resetting => cases hok
    | paused => cases hok; exact carried_refl _
    | windingDown => cases hok; exact hevent _ rfl rfl rfl rfl rfl
    | reflectiveSleep => cases hok; exact hevent _ rfl rfl rfl rfl rfl
    | deepSleep => cases hok; exact hevent _ rfl rfl rfl rfl rfl
    | waking => cases hok; exact hevent _ rfl rfl rfl rfl rfl
    | active => cases hok; exact hevent _ rfl rfl rfl rfl rfl
    | orienting => cases hok; exact hevent _ rfl rfl rfl rfl rfl

lemma accounted_transition {s : SleepState cfg.fl} (h : Accounted cfg s.db) (subjectId : Nat) (target : LifecycleState)
    (reason actor : String) (fault : Fault) : Accounted cfg (s.transition subjectId target reason actor fault).db := by
  unfold SleepState.transition settle
  split
  · exact h
  · split
    · next hok => exact h.carried (carried_transitionConnection hok)
    · exact h

lemma accounted_sleepStep {s : SleepState cfg.fl} (hbooks : Books cfg s.db) (h : Accounted cfg s.db)
    {a : SleepAction cfg} (ha : accountable s a = true) : Accounted cfg (sleepStep s a).db := by
  cases a with
  | boot subjectId fault =>
    have hrecovered : Accounted cfg (recoverActions subjectId s.db) :=
      h.carried (carried_of_eq rfl (List.prefix_refl _) rfl rfl rfl)
    change Accounted cfg (s.boot subjectId fault).db
    unfold SleepState.boot
    split
    · exact h
    · simp only
      split
      · exact hrecovered
      · next hok =>
        split
        · exact hrecovered.carried (carried_recoverLifecycle hok)
        · exact hrecovered.carried (carried_recoverLifecycle hok)
  | orient subjectId fault => exact accounted_transition h _ _ _ _ _
  | activate subjectId fault => exact accounted_transition h _ _ _ _ _
  | pause subjectId reason actor fault =>
    change Accounted cfg (s.pause subjectId reason actor fault).db
    unfold SleepState.pause
    split
    · exact h
    · exact accounted_transition h _ _ _ _ _
  | resume subjectId reason actor fault => exact accounted_transition h _ _ _ _ _
  | stop subjectId reason fault =>
    change Accounted cfg (s.stop subjectId reason fault).db
    unfold SleepState.stop
    split
    · exact h
    · exact accounted_transition h _ _ _ _ _
  | restart => exact h
  | checkpoint subjectId bytes fault =>
    change Accounted cfg (s.checkpoint subjectId bytes fault).db
    unfold SleepState.checkpoint
    split
    · exact h
    · apply accounted_attempt h
      intro y hy
      obtain ⟨⟨saved, _⟩, hsaved, hy⟩ := bind_eq_ok.mp hy
      cases hy
      exact (h.carried (carried_saveCheckpoint hsaved).1).carried
        (carried_of_eq rfl (List.prefix_append _ _) rfl rfl rfl)
  | engine call => exact accounted_engineStep hbooks h call ha

lemma accounted_initial {s : SleepState cfg.fl} (h : s.Initial) : Accounted cfg s.db := by
  have hnone : ∀ r, r ∉ s.db.runs := by
    intro r hr
    rw [Table.mem_def, h.runs] at hr
    cases hr
  refine ⟨fun r hr => absurd hr (hnone r), fun r hr => absurd hr (hnone r), ?_, ?_⟩
  · intro i hi c hc
    rw [h.unsaved i hi] at hc
    cases hc
  · intro c hc
    rw [Table.mem_def, h.candidates] at hc
    cases hc

section Audit

variable {db : SleepDb cfg.fl}

lemma foreignKeyCheck_of_books (h : Books cfg db) : foreignKeyCheck cfg db = true := by
  simp only [foreignKeyCheck, Bool.and_eq_true, List.all_eq_true]
  refine ⟨⟨⟨⟨⟨?_, ?_⟩, ?_⟩, ?_⟩, ?_⟩, ?_⟩
  · intro r hr
    have hbooked := h.runs r hr
    refine ⟨?_, ?_⟩
    · cases he : r.reflectionEventId with
      | none => rfl
      | some e =>
        have hreflection := hbooked.reflection
        rw [ReflectionBooked, he] at hreflection
        obtain ⟨_, x, -, -, -, hx, -⟩ := hreflection
        rw [Option.all_some, hx]
        rfl
    · cases hc : r.checkpointId with
      | none => rfl
      | some c => exact hbooked.checkpoint c hc
  · exact h.transitions
  · exact h.reflections
  · exact fun i hi => (h.integrations i hi).1
  · intro b hb
    cases he : b.releaseEvidenceEventId with
    | none => rfl
    | some e =>
      have haudit := h.retryBlocks b hb
      unfold auditRetryBlock at haudit
      obtain ⟨_, -, haudit⟩ := bind_eq_ok.mp haudit
      cases hstatus : b.status with
      | active =>
        rw [hstatus] at haudit
        simp [raiseIf_eq_ok, he] at haudit
      | released =>
        rw [hstatus] at haudit
        simp only [raiseIf_eq_ok, not_or] at haudit
        cases hevent : db.event? e with
        | none =>
          rw [he, Option.bind_some, hevent] at haudit
          exact absurd rfl haudit.2.1
        | some x => simp [hevent]
  · intro i hi
    cases hc : i.lastCheckpoint with
    | none => rfl
    | some c => exact (h.identities i hi).checkpoint c hc

lemma auditFatigue_of_books (h : Books cfg db) (subjectId : Nat) : auditFatigue cfg db subjectId = .ok () := by
  have hbooked := h.fatigue subjectId
  unfold auditFatigue
  simp only [hbooked.walk, ok_bind]
  cases hfind : db.fatigue.find? subjectId with
  | none => exact raiseIf_neg (not_not.mpr (hbooked.absent hfind))
  | some row =>
    have hrow := hbooked.row row hfind
    change auditFatigueState cfg (db.fatigueTransitions.filter (fun t => t.subjectId = subjectId)) row = .ok ()
    unfold auditFatigueState
    rw [hrow, ok_bind, raiseIf_neg, ok_bind]
    · exact raiseIf_neg (not_not.mpr (hbooked.version row hfind))
    · intro hany
      obtain ⟨t, ht, hdiffers⟩ := (Option.any_eq_true _ _).mp hany
      have hreached := hbooked.reached row hfind
      rw [reachedFatigue, ht, Option.map_some, Option.getD_some] at hreached
      rw [← hreached, sameNumber_self (auditFatigueRow_ok.mp hrow).1, hbooked.hash row hfind t ht] at hdiffers
      simp at hdiffers

lemma auditRunReflection_of_books (h : Books cfg db) (hacc : Accounted cfg db) {r : SleepRunRow cfg.fl}
    (hr : r ∈ db.runs) :
    auditRunReflection cfg db r.subjectId r = .ok () := by
  have hreflection := (h.runs r hr).reflection
  unfold auditRunReflection
  unfold ReflectionBooked at hreflection
  cases he : r.reflectionEventId with
  | none =>
    rw [he] at hreflection
    exact raiseIf_neg (by simp [hreflection])
  | some e =>
    rw [he] at hreflection
    obtain ⟨x, ev, hx, rfl, haudit, hev, htype⟩ := hreflection
    obtain ⟨ev', hev', hsub⟩ := hacc.reflections r hr _ he
    have heq : ev' = ev := Option.some.inj (hev'.symm.trans hev)
    subst heq
    simp only [hx, orRaise_some, ok_bind]
    rw [raiseIf_neg (not_not.mpr rfl), ok_bind, haudit, ok_bind]
    exact raiseIf_neg (by simp [hev, hsub, htype])

lemma auditRun_of_books (h : Books cfg db) (hacc : Accounted cfg db) {r : SleepRunRow cfg.fl} (hr : r ∈ db.runs) :
    auditRun cfg db r.subjectId r = .ok () := by
  have hbooked := h.runs r hr
  have hnonempty : db.transitions.filter (fun t => t.sleepId = r.sleepId) ≠ [] := by
    intro hnil
    have hwalk := hbooked.walk
    rw [transitionsOf, hnil] at hwalk
    cases hwalk
  have hversion : r.version = (db.transitions.filter (fun t => t.sleepId = r.sleepId)).length +
      (if r.reflectionEventId.isSome then 1 else 0) := hbooked.version
  have hlength := List.length_pos_of_ne_nil hnonempty
  unfold auditRun
  rw [raiseIf_neg, ok_bind, runFromRow, raiseIf_neg (not_not.mpr hbooked.hash), ok_bind]
  · have hwalk : auditTransitions cfg none (db.transitions.filter (fun t => t.sleepId = r.sleepId)) =
        .ok (some r.status) :=
      hbooked.walk
    simp only [hwalk, ok_bind]
    rw [raiseIf_neg (by simp [hnonempty]), ok_bind, auditRunReflection_of_books h hacc hr, ok_bind, raiseIf_neg,
      ok_bind, raiseIf_neg (not_not.mpr hversion), ok_bind]
    · exact forM_eq_ok (fun i hi => (h.integrations i (List.mem_filter.mp hi).1).2)
    · rintro ⟨hstatus, hall⟩
      obtain ⟨c, hc⟩ := Option.ne_none_iff_exists'.mp (hbooked.checkpointed hstatus)
      obtain ⟨x, hx, hsub⟩ := hacc.checkpoints r hr c hc
      rw [hc, Option.bind_some, hx, Option.all_some, decide_eq_true_eq] at hall
      exact hall hsub
  · simp only [hbooked.fatigue, Bool.true_eq_false, false_or]
    omega

lemma verify_of_books (h : Books cfg db) (hacc : Accounted cfg db) (subjectId : Nat) :
    verify cfg db subjectId = .ok () := by
  unfold verify
  rw [raiseIf_neg (by simp [foreignKeyCheck_of_books h]), ok_bind, auditFatigue_of_books h, ok_bind]
  have hruns : (db.runs.rows.filter (fun r => r.subjectId = subjectId)).forM (auditRun cfg db subjectId) = .ok () := by
    apply forM_eq_ok
    intro r hr
    obtain ⟨hmem, hsub⟩ := List.mem_filter.mp hr
    exact of_decide_eq_true hsub ▸ auditRun_of_books h hacc hmem
  have hblocks : (db.retryBlocks.rows.filter (fun b => b.subjectId = subjectId)).forM
      (auditRetryBlock cfg db subjectId) =
      .ok () := by
    apply forM_eq_ok
    intro b hb
    obtain ⟨hmem, hsub⟩ := List.mem_filter.mp hb
    exact of_decide_eq_true hsub ▸ h.retryBlocks b hmem
  have hcandidates : (db.candidates.rows.filter (fun c => c.subjectId = subjectId)).forM
      (auditCandidate cfg db subjectId) = .ok () := by
    apply forM_eq_ok
    intro c hc
    obtain ⟨hmem, hsub⟩ := List.mem_filter.mp hc
    exact of_decide_eq_true hsub ▸ hacc.candidates c hmem
  rw [hruns, ok_bind, hblocks, ok_bind, hcandidates]

end Audit

/-- Runs whose steps are accountable: the audit passes in every state, and compaction never fails. -/
theorem sleep_audit_passes {s : SleepState cfg.fl}
    (h : (sleepMachine cfg).ReachableUnder (fun s a => accountable s a = true) s) :
    (∀ i, verify cfg s.db i = .ok ()) ∧
      ∀ i q, accountable s (.engine (.compact i q)) = true → (compact i q s.db).2 = none := by
  have hbooks := reachable_books h.reachable
  have hboth : Books cfg s.db ∧ Accounted cfg s.db :=
    h.invariant (I := fun s => Books cfg s.db ∧ Accounted cfg s.db)
      (fun _ hi => ⟨books_initial hi, accounted_initial hi⟩)
      (fun _ a hs ha => ⟨books_sleepStep hs.1 a, accounted_sleepStep hs.1 hs.2 ha⟩)
  exact ⟨verify_of_books hbooks hboth.2, fun i q hq => compact_succeeds hbooks hboth.2 hq⟩

/-- A reflection with one personality candidate. -/
def candidatePlan (evidenceIds : List Nat) : SleepReflectionPlan plainSleep.fl :=
  ⟨wakingReason, [], [], [], [], none, [], [], [], [], [⟨"curiosity", (500 : Int), (500 : Int), evidenceIds⟩]⟩

/-- The subject reflects on the events `evidenceIds` and sleeps deeply; the run is 5. -/
def sleepDeeply (evidenceIds : List Nat) : List (SleepAction plainSleep) :=
  fallAsleep ++ [.engine (.beginReflection 1 5 "rest" 0 false),
    .engine (.commitReflection 1 5 (candidatePlan evidenceIds) quietAnswers 0 false),
    .engine (.enterDeepSleep 1 5 "rest" 10 0 false)]

theorem sleep_audit_passes_deep :
    verify plainSleep ((sleepDeeply [2, 3, 4]).foldl sleepStep freshSubject).db 1 = .ok () :=
  (sleep_audit_passes (Machine.reachableUnder_foldl (M := sleepMachine plainSleep) initial_freshSubject
    (sleepDeeply [2, 3, 4]) (by decide))).1 1

/-- Evidence of another kind than events, then two newer checkpoints. -/
def alarmed : List (SleepAction plainSleep) :=
  [.engine (.writeSources [(1, 50), (1, 51), (1, 52)] [])] ++ sleepDeeply [50, 51, 52] ++
    [.checkpoint 1 10 false, .checkpoint 1 10 false]

theorem sleep_audit_false_alarm :
    (sleepMachine plainSleep).Reachable (alarmed.foldl sleepStep freshSubject) ∧
      verify plainSleep (alarmed.foldl sleepStep freshSubject).db 1 =
        .error (.integrityError "personality candidate evidence mismatch") ∧
      (compact 1 ⟨2, 100, 100, none, none⟩ (alarmed.foldl sleepStep freshSubject).db).2 = some .sqliteIntegrityError :=
  ⟨Machine.reachable_foldl (M := sleepMachine plainSleep) initial_freshSubject alarmed, by decide, by decide⟩

end Noyra.Sleep.Proofs
