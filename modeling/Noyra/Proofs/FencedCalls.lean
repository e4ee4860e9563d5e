import Noyra.Proofs.Fencing

/-!
# The calls keep a source fenced

What each call makes sure of before its transactions, and what it may rely on while other calls run: as long as
no epoch is acquired outside the reservation of `run` and the policy of a fenced subject is not changed, every
active epoch stays held by its task.
-/

namespace Noyra.Migration.Proofs
open Noyra.Lib
open Noyra.Wallet (Id)

variable {cfg : Config} {requirePrincipal : Bool} {db db' : Db} {x : Reading}

/-! ### The discipline of the calls -/

section
variable (cfg requirePrincipal)

/-- The condition on the steps of a run: no epoch is acquired in a transaction of its own, and no policy is
changed while its subject is fenced. -/
def Undisturbed : Tx → Reading → Db → Prop
  | .acquire subjectId targetId sourceEpoch actor, x, db =>
    ∀ r, Tx.exec cfg requirePrincipal x db (.acquire subjectId targetId sourceEpoch actor) ≠ .ok r
  | .updatePolicy subjectId expected patch actor, x, db =>
    (∀ r, updatePolicy db x subjectId expected patch actor ≠ .ok r) ∨ db.activeEpoch subjectId = none
  | _, _, _ => True

instance Undisturbed.decidable (tx : Tx) (x : Reading) (db : Db) :
    Decidable (Undisturbed cfg requirePrincipal tx x db) := by
  cases tx with
  | acquire s tgt epoch actor => exact decidableRefused _
  | updatePolicy s rev patch actor => exact inferInstanceAs (Decidable ((∀ r, _ ≠ _) ∨ _ = _))
  | _ => exact .isTrue trivial

end

/-- What the calls make sure of before each transaction; `held` tells whether the call is in the control scope. -/
def Prepared (held : Bool) : Tx → Db → Prop
  | .transition taskId status _ f, db => status ∈ ordinary ∧
    ∀ id, f.targetEpochId = some id → ∃ lease, lease.epochId = id ∧ Holds db taskId lease
  | .reserve .., _ => held = true
  | .commitReceipt t lease .., db => held = true ∧ Holds db t.taskId lease
  | .finishRollback taskId lease .., db => held = true ∧ (∀ l, lease = some l → Holds db taskId l) ∧
    (lease = none → Idle db taskId)
  | .bindRecovery .., _ => False
  | .markTaskFailed taskId _, db => Unbindable db taskId
  | _, _ => True

/-- A quiet transaction that moves no task. -/
lemma quiet_fenced (hq : Quiet db db') (hf : Fenced db)
    (htasks : ∀ id t, db.tasks.find? id = some t → t.status ∈ underway → db'.tasks.find? id = some t) :
    Fenced db' ∧ ScopeRely db db' := by
  refine ⟨hf.quiet hq ?_, hq.scopeRely⟩
  intro id t t' _ _ ht ht' _ _ _ hs
  rw [htasks id t ht hs] at ht'
  cases ht'
  exact hs

lemma Frame.fenced (h : Frame db db') (hf : Fenced db) : Fenced db' ∧ ScopeRely db db' :=
  quiet_fenced h.quiet hf (fun _ _ ht _ => h.tasks ▸ ht)

/-- A new task leaves the others alone. -/
lemma insertTask_other {t u : TaskRow} {id : Id} (h : insertTask db t = .ok db') (hu : db.tasks.find? id = some u) :
    db'.tasks.find? id = some u := by
  unfold insertTask at h
  obtain ⟨_, -, h⟩ := bind_eq_ok.mp h
  obtain ⟨tasks, hins, h⟩ := bind_eq_ok.mp h
  cases h
  have hins' : db.tasks.insert? t = some tasks := orRaise_eq_ok.mp hins
  have hne : id ≠ t.taskId := by
    rintro rfl
    exact (Table.insert?_eq_some.mp hins').1 u (Table.find?_eq_some.mp hu).1 (Table.find?_eq_some.mp hu).2
  rw [Table.find?_insert hins', if_neg hne]
  exact hu

/-- An approval creates a task or promotes one that waits for it. -/
lemma settleTask_underway {p : ProposalRow} {actor key : String} {enough : Bool} {t u : TaskRow} {id : Id}
    (h : settleTask db x p actor key enough = .ok (t, db')) (hu : db.tasks.find? id = some u)
    (hs : u.status ∈ underway) :
    db'.tasks.find? id = some u := by
  unfold settleTask at h
  split at h
  · obtain ⟨mid, hmid, h⟩ := bind_eq_ok.mp h
    cases h
    exact insertTask_other hmid hu
  · next t₀ hfirst =>
    split at h
    · next hcond =>
      have hne : id ≠ t₀.taskId := by
        rintro rfl
        have hmem : t₀ ∈ db.tasks := List.mem_of_find?_eq_some hfirst
        obtain rfl : t₀ = u := Option.some.inj ((Table.find?_key hmem).symm.trans hu)
        rw [hcond.1] at hs
        exact absurd hs (by decide)
      rw [transitionTask_other h hne]
      exact hu
    · cases h
      exact hu

lemma updatePolicy_tasks {subjectId : Id} {expected : Nat} {patch : PolicyPatch} {actor : String} {p : MigrationPolicy}
    (h : updatePolicy db x subjectId expected patch actor = .ok (p, db')) : db'.tasks = db.tasks := by
  obtain ⟨current, mid, hensure, -, -, -, rfl⟩ := updatePolicy_cases h
  exact (ensurePolicy_frame hensure).tasks

lemma approve_underway {proposalId id : Id} {r : Reviewer} {key : String} {result : Except MigrationError TaskRow}
    {u : TaskRow} (h : approve cfg requirePrincipal db x proposalId r key = .ok (result, db'))
    (hu : db.tasks.find? id = some u) (hs : u.status ∈ underway) : db'.tasks.find? id = some u := by
  unfold approve at h
  obtain ⟨_, -, h⟩ := bind_eq_ok.mp h
  obtain ⟨binding, -, h⟩ := bind_eq_ok.mp h
  obtain ⟨_, -, h⟩ := bind_eq_ok.mp h
  obtain ⟨p, -, h⟩ := bind_eq_ok.mp h
  obtain ⟨_, -, h⟩ := bind_eq_ok.mp h
  split at h
  · cases h
    exact hu
  · obtain ⟨_, -, h⟩ := bind_eq_ok.mp h
    split at h
    · cases h
      exact hu
    · obtain ⟨⟨t, mid⟩, hpending, h⟩ := bind_eq_ok.mp h
      cases h
      unfold approvePending at hpending
      obtain ⟨_, -, hpending⟩ := bind_eq_ok.mp hpending
      obtain ⟨_, -, hpending⟩ := bind_eq_ok.mp hpending
      obtain ⟨_, -, hpending⟩ := bind_eq_ok.mp hpending
      obtain ⟨recorded, hrecord, hpending⟩ := bind_eq_ok.mp hpending
      obtain ⟨⟨t', settled⟩, hsettle, hpending⟩ := bind_eq_ok.mp hpending
      cases hpending
      rw [settleProposal_frame.tasks]
      exact settleTask_underway hsettle ((recordApproval_frame hrecord).tasks ▸ hu) hs

lemma recoverTask_other {request : RecoveryRequest} {policy : MigrationPolicy} {served : Option TaskRow} {id : Id}
    {u : TaskRow} (h : recoverTask cfg db x request policy = .ok (served, db')) (hu : db.tasks.find? id = some u) :
    db'.tasks.find? id = some u := by
  unfold recoverTask at h
  obtain ⟨epoch, -, h⟩ := bind_eq_ok.mp h
  obtain ⟨_, -, h⟩ := bind_eq_ok.mp h
  split at h
  · cases h
    exact hu
  · obtain ⟨_, -, h⟩ := bind_eq_ok.mp h
    obtain ⟨mid, hmid, h⟩ := bind_eq_ok.mp h
    cases h
    unfold ensureRecovery at hmid
    split at hmid
    · unfold createRecovery at hmid
      obtain ⟨proposals, -, hmid⟩ := bind_eq_ok.mp hmid
      exact insertTask_other hmid hu
    · cases hmid
      exact hu

lemma markTaskFailed_fenced {taskId : Id} {code : String} (hu : Unbindable db taskId) (hf : Fenced db) :
    Fenced (markTaskFailed db x taskId code) ∧ ScopeRely db (markTaskFailed db x taskId code) := by
  have hq : Quiet db (markTaskFailed db x taskId code) := markTaskFailed_quiet
  refine ⟨hf.quiet_idle hq ?_ (hq.idle hu.2), hq.scopeRely⟩
  intro id hid
  unfold markTaskFailed
  split
  · next t ht =>
    have hkey : t.taskId = taskId := taskId_of_find? (Option.filter_eq_some_iff.mp ht).1
    apply Table.find?_replace_ne
    change id ≠ t.taskId
    rw [hkey]
    exact hid
  · rfl

/-- Every transaction of the calls keeps the source fenced and what the other calls rely on. -/
lemma sound : (store cfg requirePrincipal).Sound (Undisturbed cfg requirePrincipal) Fenced Prepared Rely ScopeRely where
  rely_refl := fun db => (Quiet.refl db).scopeRely.toRely
  rely_trans := fun h h' => ⟨fun id l hl => h'.holds id l (h.holds id l hl),
    fun id hu => h'.unbindable id (h.unbindable id hu)⟩
  section_refl := fun db => (Quiet.refl db).scopeRely
  section_trans := fun h h' => ⟨⟨fun id l hl => h'.holds id l (h.holds id l hl),
    fun id hu => h'.unbindable id (h.unbindable id hu)⟩, fun id hi => h'.idle id (h.idle id hi)⟩
  exec := by
    intro held tx x db r db' hf hpre hguard h
    have hcalm : Fenced db' ∧ ScopeRely db db' → Fenced db' ∧ Rely db db' ∧ (held = false → ScopeRely db db') :=
      fun hc => ⟨hc.1, hc.2.toRely, fun _ => hc.2⟩
    have hscope : held = true → Fenced db' ∧ Rely db db' → Fenced db' ∧ Rely db db' ∧
        (held = false → ScopeRely db db') := by
      intro hh hc
      exact ⟨hc.1, hc.2, fun hn => by simp [hh] at hn⟩
    have hread : db' = db → Fenced db' ∧ Rely db db' ∧ (held = false → ScopeRely db db') := by
      rintro rfl
      exact hcalm ⟨hf, (Quiet.refl _).scopeRely⟩
    have hsame : db'.tasks = db.tasks → db'.epochs = db.epochs → db'.policies = db.policies →
        Fenced db' ∧ Rely db db' ∧ (held = false → ScopeRely db db') :=
      fun htasks hepochs hpolicies => hcalm ((Frame.of_same htasks hepochs hpolicies).fenced hf)
    change tx.exec cfg requirePrincipal x db = .ok (r, db') at h
    cases tx with
    | addSubject s =>
      cases h
      exact hsame rfl rfl rfl
    | setRuntime s v =>
      cases h
      exact hsame rfl rfl rfl
    | putTarget row =>
      cases h
      exact hsame rfl rfl rfl
    | clock =>
      cases h
      exact hread rfl
    | readPolicy s => exact hcalm ((readPolicy_frame h).fenced hf)
    | automationAllowed p => exact hread (reading_cases h)
    | updatePolicy s rev patch actor =>
      exact hcalm (quiet_fenced (updatePolicy_quiet h (hguard.resolve_left (fun hn => hn _ h))) hf
        (fun id t ht _ => by rw [updatePolicy_tasks h]; exact ht))
    | createProposal input => exact hcalm ((createProposal_frame h).fenced hf)
    | approve proposalId reviewer key =>
      exact hcalm (quiet_fenced (approve_quiet h) hf (fun id t ht hs => approve_underway h ht hs))
    | reject proposalId actor reason => exact hcalm ((reject_frame h).fenced hf)
    | getTask id => exact hread (reading_cases h)
    | transition id status actor f => exact hcalm (transitionTask_ordinary h hpre.1 hpre.2 hf)
    | reserve t p actor =>
      obtain ⟨t₁, e, -, -, hres⟩ := reserve_reserved h
      exact hscope hpre ⟨hres.fenced hf, hres.rely hf⟩
    | verifyProof t proof => exact hread (reading_cases h)
    | epochForTask id =>
      cases h
      exact hread rfl
    | checkAcquire s tgt proof => exact hread (reading_cases h)
    | acquire s tgt epoch actor => exact absurd h (hguard _)
    | recordProof s id proof =>
      cases h
      exact hsame rfl rfl rfl
    | proofForTask id => exact hread (reading_cases h)
    | assertCurrent l => exact hread (reading_cases h)
    | commitReceipt t l receipt proof actor => exact hscope hpre.1 (commitReceipt_fenced h hpre.2 hf)
    | finishRollback id l reason actor => exact hscope hpre.1 (finishRollback_fenced h hpre.2.1 hpre.2.2 hf)
    | verifyBackup => exact hread (reading_cases h)
    | recoverTask request p =>
      exact hcalm (quiet_fenced (recoverTask_quiet h) hf (fun id t ht _ => recoverTask_other h ht))
    | bindRecovery id eid => exact hpre.elim
    | markTaskFailed id code =>
      cases h
      exact hcalm (markTaskFailed_fenced hpre hf)
    | buildArtifact => exact hread (reading_cases h)
    | verifyTarget => exact hread (reading_cases h)
    | activateTarget => exact hread (reading_cases h)
    | deactivateTarget => exact hread (reading_cases h)

/-! ### The calls keep the discipline -/

section
variable (cfg requirePrincipal)

/-- The call fits among the others. -/
abbrev Fit {α : Type} (post : Bool → Except MigrationError α → Db → Prop) (held : Bool) (call : MigrationCall α)
    (db : Db) : Prop :=
  (store cfg requirePrincipal).Fits (Undisturbed cfg requirePrincipal) Fenced Prepared Rely ScopeRely post held call db

end

/-- What no other call destroys. -/
def Stable (P : Db → Prop) : Prop := ∀ db db', Rely db db' → P db → P db'

lemma stable_true : Stable (fun _ => True) := fun _ _ _ _ => trivial

lemma stable_holds {taskId : Id} {lease : EpochLease} : Stable (fun db => Holds db taskId lease) :=
  fun _ _ h => h.holds taskId lease

lemma stable_unbindable {taskId : Id} : Stable (fun db => Unbindable db taskId) := fun _ _ h => h.unbindable taskId

lemma Stable.relyOf {P : Db → Prop} (hP : Stable P) {held : Bool} (h : Store.relyOf Rely ScopeRely held db db')
    (hdb : P db) : P db' := by
  cases held
  · exact hP _ _ h hdb
  · exact hP _ _ (ScopeRely.toRely h) hdb

variable {α β : Type} {held : Bool} {P : Db → Prop} {Q : β → Db → Prop} {R : α → Db → Prop}

/-- The call stays inside or outside the control scope, and what it returns meets `Q`. -/
def ends (held : Bool) (Q : α → Db → Prop) : Bool → Except MigrationError α → Db → Prop :=
  fun held' r db => held' = held ∧ ∀ a, r = .ok a → Q a db

lemma ends_error {e : MigrationError} : ends held Q held (.error e) db := ⟨rfl, by simp⟩

/-- One transaction; its result is used in the state it leaves. -/
lemma fit_step (tx : Tx) {f : tx.Reply → MigrationCall α}
    (hpre : ∀ db', Store.relyOf Rely ScopeRely held db db' → Fenced db' → Prepared held tx db')
    (hok : ∀ db' x r db'', Store.relyOf Rely ScopeRely held db db' → Fenced db' →
      tx.exec cfg requirePrincipal x db' = .ok (r, db'') → Undisturbed cfg requirePrincipal tx x db' → Fenced db'' →
      Fit cfg requirePrincipal (ends held R) held (f r) db'') :
    Fit cfg requirePrincipal (ends held R) held (perform tx >>= f) db := by
  intro db' hr hi
  exact ⟨hpre db' hr hi, fun x r db'' hg he hi' => hok db' x r db'' hr hi he hg hi', fun _ _ _ _ => ends_error⟩

/-- One transaction whose precondition comes from what is stable. -/
lemma fit_keep (tx : Tx) (hP : Stable P) (hdb : P db) {f : tx.Reply → MigrationCall α}
    (hpre : ∀ db', P db' → Prepared held tx db')
    (hok : ∀ r db', Fenced db' → P db' → Fit cfg requirePrincipal (ends held R) held (f r) db') :
    Fit cfg requirePrincipal (ends held R) held (perform tx >>= f) db := by
  refine fit_step tx (fun db' hr _ => hpre db' (hP.relyOf hr hdb)) ?_
  intro db' x r db'' hr hi he hg hi'
  have hdb' := hP.relyOf hr hdb
  exact hok r db'' hi' (hP _ _ (sound.exec hi (hpre db' hdb') hg he).2.1 hdb')

/-- A call followed by another. -/
lemma fit_bind (hP : Stable P) (hdb : P db) (hi : Fenced db) {call : MigrationCall β} {f : β → MigrationCall α}
    (hcall : Fit cfg requirePrincipal (ends held Q) held call db)
    (hok : ∀ b db', Fenced db' → P db' → Q b db' → Fit cfg requirePrincipal (ends held R) held (f b) db') :
    Fit cfg requirePrincipal (ends held R) held (call >>= f) db := by
  have hframe := sound.fits_frame hP (fun s s' h => hP s s' h.toRely) hdb hcall
  refine sound.fits_andThen hi (Store.fits_mono ?_ hframe)
  rintro held' r db' hi' ⟨⟨rfl, hret⟩, hP'⟩
  cases r with
  | error e => exact fun _ _ _ => ends_error
  | ok b => exact hok b db' hi' hP' (hret b rfl)

/-- A check that commits nothing. -/
lemma fit_check {r : Except MigrationError β} {f : β → MigrationCall α}
    (hok : ∀ b, r = .ok b → Fit cfg requirePrincipal (ends held R) held (f b) db) :
    Fit cfg requirePrincipal (ends held R) held (Call.check r >>= f) db := by
  cases r with
  | error e => exact fun _ _ _ => ends_error
  | ok b => exact hok b rfl

lemma fit_raise {e : MigrationError} : Fit cfg requirePrincipal (ends held R) held (Call.raise e) db :=
  fun _ _ _ => ends_error

lemma fit_pure {a : α} (h : ∀ db', Store.relyOf Rely ScopeRely held db db' → R a db') :
    Fit cfg requirePrincipal (ends held R) held (pure a) db :=
  fun db' hr _ => ⟨rfl, fun b hb => by cases hb; exact h db' hr⟩

/-- A branch of the call. -/
lemma fit_ite {c : Prop} [Decidable c] {call other : MigrationCall α}
    (hpos : c → Fit cfg requirePrincipal (ends held R) held call db)
    (hneg : ¬c → Fit cfg requirePrincipal (ends held R) held other db) :
    Fit cfg requirePrincipal (ends held R) held (if c then call else other) db := by
  by_cases h : c
  · rw [if_pos h]
    exact hpos h
  · rw [if_neg h]
    exact hneg h

/-- A transaction at the end of its call. -/
lemma fit_last (tx : Tx) {R : tx.Reply → Db → Prop} (hP : Stable P) (hdb : P db)
    (hpre : ∀ db', P db' → Prepared held tx db')
    (hok : ∀ db' x r db'', Fenced db' → tx.exec cfg requirePrincipal x db' = .ok (r, db'') →
      Undisturbed cfg requirePrincipal tx x db' → ∀ u, Store.relyOf Rely ScopeRely held db'' u → R r u) :
    Fit cfg requirePrincipal (ends held R) held (perform tx) db := by
  intro db' hr hi
  refine ⟨hpre db' (hP.relyOf hr hdb), ?_, fun _ _ _ _ => ends_error⟩
  intro x r db'' hg he _ u hu _
  refine ⟨rfl, ?_⟩
  rintro b hb
  cases hb
  exact hok db' x r db'' hi he hg u hu

/-! ### The calls, one by one -/

lemma beginPrepare_fits {task : TaskRow} {proof : TargetProof} {actor : String} :
    Fit cfg requirePrincipal (ends held (fun t _ => t.taskId = task.taskId)) held
      (beginPrepare task proof actor) db := by
  unfold beginPrepare
  refine fit_ite (fun _ => ?_)
    (fun _ => fit_ite (fun _ => fit_raise) (fun _ => fit_ite (fun _ => fit_raise) (fun _ => ?_)))
  · refine fit_last (.transition _ _ _ _) stable_true trivial ?_ ?_
    · exact fun _ _ => ⟨by decide, by simp⟩
    · intro db' x r db'' _ he _ u _
      exact taskId_of_find? (transitionTask_self he)
  · exact fit_pure (fun _ _ => rfl)

/-- Under the condition no call gets past an acquisition of its own. -/
lemma acquire_fits {subjectId targetId : Id} {sourceEpoch actor : String} {proof : ValidationProof} :
    Fit cfg requirePrincipal (ends held (fun _ _ => False)) held
      (acquire subjectId targetId sourceEpoch proof actor) db := by
  unfold acquire
  refine fit_keep (.checkAcquire _ _ _) stable_true trivial (fun _ _ => trivial) ?_
  intro _ db' _ _
  refine fit_last (.acquire _ _ _ _) stable_true trivial (fun _ _ => trivial) ?_
  intro db' x r db'' _ he hg _ _
  exact hg _ he

lemma prepareEpoch_fits {task : TaskRow} {verified : ValidationProof} {actor : String} {bound : Option EpochLease}
    (hb : ∀ l, bound = some l → Holds db task.taskId l) :
    Fit cfg requirePrincipal (ends held (fun l db => Holds db task.taskId l)) held
      (prepareEpoch task verified actor bound) db := by
  cases bound with
  | some l => exact fit_pure (fun db' hr => stable_holds.relyOf hr (hb l rfl))
  | none =>
    refine Store.fits_mono ?_ acquire_fits
    rintro held' r db' _ ⟨rfl, hret⟩
    exact ⟨rfl, fun l hl => (hret l hl).elim⟩

lemma bindPrepared_fits {task : TaskRow} {lease : EpochLease} {actor : String} (hl : Holds db task.taskId lease) :
    Fit cfg requirePrincipal (ends held (fun _ _ => True)) held (bindPrepared task lease actor) db := by
  unfold bindPrepared
  refine fit_ite (fun _ => ?_) (fun _ => ?_)
  · refine fit_last (.transition _ _ _ _) stable_holds hl ?_ (fun _ _ _ _ _ _ _ _ _ => trivial)
    intro db' hl'
    refine ⟨by decide, ?_⟩
    rintro id hid
    cases hid
    exact ⟨lease, rfl, hl'⟩
  · exact fit_last (.getTask _) stable_true trivial (fun _ _ => trivial) (fun _ _ _ _ _ _ _ _ _ => trivial)

lemma prepare_fits {taskId : Id} {actor : String} {proof : Option TargetProof} :
    Fit cfg requirePrincipal (ends held (fun _ _ => True)) held (prepare taskId actor proof) db := by
  unfold prepare
  refine fit_step (.getTask taskId) (fun _ _ _ => trivial) ?_
  intro db₁ x₁ task db₁' _ _ hget _ _
  have hkey : task.taskId = taskId := by
    have hfind := reading_value hget
    exact taskId_of_find? (orRaise_eq_ok.mp hfind)
  refine fit_keep (.readPolicy _) stable_true trivial (fun _ _ => trivial) ?_
  intro policy db₂ _ _
  refine fit_keep (.automationAllowed _) stable_true trivial (fun _ _ => trivial) ?_
  intro _ db₃ _ _
  refine fit_check ?_
  intro proof' _
  refine fit_keep (.verifyProof _ _) stable_true trivial (fun _ _ => trivial) ?_
  intro verified db₄ hi₄ _
  refine fit_bind stable_true trivial hi₄ beginPrepare_fits ?_
  intro task' db₅ _ _ hkey'
  refine fit_step (.epochForTask taskId) (fun _ _ _ => trivial) ?_
  intro db₆ x₆ bound db₆' _ _ hbound _ hi₆
  refine fit_bind stable_true trivial hi₆ (prepareEpoch_fits ?_) ?_
  · intro l hl
    cases hbound
    rw [hkey', hkey]
    exact epochForTask_holds hl
  · intro lease db₇ hi₇ _ hlease
    refine fit_bind stable_true trivial hi₇ (bindPrepared_fits hlease) ?_
    intro task'' db₈ _ _ _
    exact fit_last (.recordProof _ _ _) stable_true trivial (fun _ _ => trivial) (fun _ _ _ _ _ _ _ _ _ => trivial)

/-- Reading a task. -/
lemma fit_getTask {taskId : Id} (hP : Stable P) (hdb : P db) {f : TaskRow → MigrationCall α}
    (hok : ∀ t db', Fenced db' → P db' → t.taskId = taskId → Fit cfg requirePrincipal (ends held R) held (f t) db') :
    Fit cfg requirePrincipal (ends held R) held (perform (.getTask taskId) >>= f) db := by
  refine fit_step (.getTask taskId) (fun _ _ _ => trivial) ?_
  intro db' x t db'' hr _ he _ hi
  obtain rfl : db'' = db' := reading_cases he
  exact hok t db'' hi (hP.relyOf hr hdb) (taskId_of_find? (orRaise_eq_ok.mp (reading_value he)))

/-- A call of one transaction. -/
lemma fit_single (tx : Tx) (hpre : ∀ db', Prepared held tx db') :
    Fit cfg requirePrincipal (ends held (fun _ _ => True)) held (do let _ ← perform tx; pure ()) db :=
  fit_keep tx stable_true trivial (fun db' _ => hpre db') (fun _ _ _ _ => fit_pure (fun _ _ => trivial))

lemma executeReserved_fits {task : TaskRow} {lease : EpochLease} {actor : String} (hl : Holds db task.taskId lease) :
    Fit cfg requirePrincipal (ends true (fun _ _ => True)) true (executeReserved cfg task lease actor) db := by
  unfold executeReserved
  refine fit_keep .buildArtifact stable_holds hl (fun _ _ => trivial) ?_
  intro manifest db₁ _ hl₁
  refine fit_keep (.transition _ _ _ _) stable_holds hl₁ (fun _ _ => ⟨by decide, by simp⟩) ?_
  intro _ db₂ _ hl₂
  refine fit_keep .verifyTarget stable_holds hl₂ (fun _ _ => trivial) ?_
  intro proof db₃ hi₃ hl₃
  refine fit_bind stable_holds hl₃ hi₃ prepare_fits ?_
  intro _ db₄ _ hl₄ _
  refine fit_keep .activateTarget stable_holds hl₄ (fun _ _ => trivial) ?_
  intro receipt db₅ _ hl₅
  refine fit_getTask stable_holds hl₅ ?_
  intro current db₆ _ hl₆ hkey
  refine fit_keep (.proofForTask _) stable_holds hl₆ (fun _ _ => trivial) ?_
  intro proof' db₇ _ hl₇
  refine fit_keep (.commitReceipt _ _ _ _ _) stable_holds hl₇ (fun db' hl' => ⟨rfl, hkey ▸ hl'⟩) ?_
  intro _ db₈ _ _
  exact fit_pure (fun _ _ => trivial)

lemma runReserved_fits {task : TaskRow} {policy : MigrationPolicy} {actor : String} :
    Fit cfg requirePrincipal (ends true (fun _ _ => True)) true (runReserved cfg task policy actor) db := by
  unfold runReserved
  refine fit_step (.reserve task policy actor) (fun _ _ _ => rfl) ?_
  rintro db' x ⟨lease, t'⟩ db'' - - he - -
  obtain ⟨t, e, hkey, rfl, hres⟩ := reserve_reserved he
  apply executeReserved_fits
  have hself : t'.taskId = t.taskId := taskId_of_find? hres.moved
  exact hself ▸ hres.holds

/-- A call in the control scope. -/
lemma fit_scope {body : MigrationCall α}
    (hbody : ∀ db', Fenced db' → Rely db db' → Fit cfg requirePrincipal (ends true (fun _ _ => True)) true body db') :
    Fit cfg requirePrincipal (ends false (fun _ _ => True)) false (controlScope body) db := by
  refine Store.fits_exclusively sound (fun r s => ⟨rfl, fun _ _ => trivial⟩) ?_
  intro db' hr hi'
  exact Store.fits_mono (fun _ _ _ _ _ => trivial) (hbody db' hi' hr)

lemma run_fits {taskId : Id} {walletMode : Option WalletMode} {actor : String} :
    Fit cfg requirePrincipal (ends false (fun _ _ => True)) false (run cfg taskId walletMode actor) db := by
  unfold run
  refine fit_getTask stable_true trivial ?_
  intro task db₁ _ _ _
  refine fit_ite (fun _ => fit_pure (fun _ _ => trivial)) (fun _ => ?_)
  refine fit_keep (.readPolicy _) stable_true trivial (fun _ _ => trivial) ?_
  intro policy db₂ _ _
  refine fit_keep (.automationAllowed _) stable_true trivial (fun _ _ => trivial) ?_
  intro _ db₃ _ _
  refine fit_keep .clock stable_true trivial (fun _ _ => trivial) ?_
  intro now db₄ _ _
  refine fit_check ?_
  intro _ _
  exact fit_scope (fun _ _ _ => runReserved_fits)

lemma executeBound_fits {task : TaskRow} {lease : EpochLease} {actor : String} (hl : Holds db task.taskId lease) :
    Fit cfg requirePrincipal (ends true (fun _ _ => True)) true (executeBound task lease actor) db := by
  unfold executeBound
  refine fit_keep (.assertCurrent _) stable_holds hl (fun _ _ => trivial) ?_
  intro _ db₁ _ hl₁
  refine fit_keep (.proofForTask _) stable_holds hl₁ (fun _ _ => trivial) ?_
  intro proof db₂ _ hl₂
  refine fit_keep .activateTarget stable_holds hl₂ (fun _ _ => trivial) ?_
  intro receipt db₃ _ hl₃
  refine fit_keep (.commitReceipt _ _ _ _ _) stable_holds hl₃ (fun db' hl' => ⟨rfl, hl'⟩) ?_
  intro _ db₄ _ _
  exact fit_pure (fun _ _ => trivial)

lemma commit_fits {taskId : Id} {actor : String} :
    Fit cfg requirePrincipal (ends false (fun _ _ => True)) false (commit taskId actor) db := by
  unfold commit
  refine fit_getTask stable_true trivial ?_
  intro task db₁ _ _ hkey
  refine fit_ite (fun _ => fit_pure (fun _ _ => trivial)) (fun _ => ?_)
  refine fit_keep (.readPolicy _) stable_true trivial (fun _ _ => trivial) ?_
  intro policy db₂ _ _
  refine fit_keep (.automationAllowed _) stable_true trivial (fun _ _ => trivial) ?_
  intro _ db₃ _ _
  refine fit_check ?_
  intro _ _
  refine fit_step (.epochForTask taskId) (fun _ _ _ => trivial) ?_
  intro db₄ x bound db₄' _ _ he _ _
  refine fit_check ?_
  intro lease hlease
  have hbound : epochForTask db₄' task.taskId = some lease := by
    cases he
    rw [hkey]
    exact orRaise_eq_ok.mp hlease
  exact fit_scope (fun db' _ hr => executeBound_fits (hr.holds _ _ (epochForTask_holds hbound)))

/-- What a rollback has read still describes the task. -/
def Ready (db : Db) (taskId : Id) (bound : Option EpochLease) : Prop :=
  (∀ l, bound = some l → Holds db taskId l) ∧ (bound = none → Idle db taskId)

lemma Ready.scope {taskId : Id} {bound : Option EpochLease} (h : Ready db taskId bound) (hr : ScopeRely db db') :
    Ready db' taskId bound :=
  ⟨fun l hl => hr.holds _ _ (h.1 l hl), fun hnone => hr.idle _ (h.2 hnone)⟩

/-- A transaction of a rollback that binds and closes nothing. -/
lemma fit_ready (tx : Tx) {taskId : Id} {bound : Option EpochLease} {f : tx.Reply → MigrationCall α}
    (hdb : Ready db taskId bound) (hpre : ∀ db', Prepared true tx db')
    (hcalm : ∀ db' x r db'', Fenced db' → tx.exec cfg requirePrincipal x db' = .ok (r, db'') → ScopeRely db' db'')
    (hok : ∀ r db', Fenced db' → Ready db' taskId bound → Fit cfg requirePrincipal (ends true R) true (f r) db') :
    Fit cfg requirePrincipal (ends true R) true (perform tx >>= f) db := by
  refine fit_step tx (fun db' _ _ => hpre db') ?_
  intro db' x r db'' hr hi he _ hi'
  exact hok r db'' hi' ((hdb.scope hr).scope (hcalm db' x r db'' hi he))

lemma beginRollback_fits {task : TaskRow} {reason actor : String} {bound : Option EpochLease}
    (hdb : Ready db task.taskId bound) :
    Fit cfg requirePrincipal (ends true (fun _ db => Ready db task.taskId bound)) true
      (beginRollback task reason actor) db := by
  unfold beginRollback
  refine fit_ite (fun _ => ?_) (fun _ => fit_pure (fun db' hr => hdb.scope hr))
  refine fit_ready (.transition _ _ _ _) hdb (fun _ => ⟨by decide, by simp⟩) ?_ ?_
  · intro db' x r db'' hi he
    exact (transitionTask_ordinary he (by decide) (by simp) hi).2
  · intro _ db' _ hdb'
    exact fit_pure (fun db'' hr => hdb'.scope hr)

lemma assertBound_fits {taskId : Id} {bound : Option EpochLease} (hdb : Ready db taskId bound) :
    Fit cfg requirePrincipal (ends true (fun _ db => Ready db taskId bound)) true (assertBound bound) db := by
  cases bound with
  | none => exact fit_pure (fun db' hr => hdb.scope hr)
  | some lease =>
    intro db' hr _
    refine ⟨trivial, ?_, fun _ _ _ _ => ends_error⟩
    intro x r db'' _ he _ u hu _
    obtain rfl : db'' = db' := reading_cases he
    exact ⟨rfl, fun _ _ => (hdb.scope hr).scope hu⟩

lemma deactivate_fits {task : TaskRow} {taskId : Id} {bound : Option EpochLease} (hdb : Ready db taskId bound) :
    Fit cfg requirePrincipal (ends true (fun _ db => Ready db taskId bound)) true (deactivate task) db := by
  unfold deactivate
  cases task.manifestDigest with
  | none => exact fit_pure (fun db' hr => hdb.scope hr)
  | some digest =>
    refine fit_ready .deactivateTarget hdb (fun _ => trivial) ?_ ?_
    · intro db' x r db'' _ he
      obtain rfl : db'' = db' := reading_cases he
      exact (Quiet.refl _).scopeRely
    · intro cancellation db' _ hdb' db'' hr _
      exact ⟨rfl, fun _ _ => hdb'.scope hr⟩

lemma releaseTask_fits {task : TaskRow} {reason actor : String} :
    Fit cfg requirePrincipal (ends true (fun _ _ => True)) true (releaseTask task reason actor) db := by
  unfold releaseTask
  refine fit_step (.epochForTask task.taskId) (fun _ _ _ => trivial) ?_
  intro db₁ x bound db₁' _ _ he _ hi₁
  have hready : Ready db₁' task.taskId bound := by
    cases he
    exact ⟨fun l hl => epochForTask_holds hl, fun hnone => epochForTask_eq_none.mp hnone⟩
  refine fit_bind stable_true trivial hi₁ (beginRollback_fits hready) ?_
  intro _ db₂ hi₂ _ hready₂
  refine fit_bind stable_true trivial hi₂ (assertBound_fits hready₂) ?_
  intro _ db₃ hi₃ _ hready₃
  refine fit_bind stable_true trivial hi₃ (deactivate_fits hready₃) ?_
  intro _ db₄ _ _ hready₄
  refine fit_step (.finishRollback _ _ _ _) ?_ (fun _ _ _ _ _ _ _ _ _ => fit_pure (fun _ _ => trivial))
  intro db' hr _
  exact ⟨rfl, hready₄.scope hr⟩

lemma rollback_fits {taskId : Id} {reason actor : String} :
    Fit cfg requirePrincipal (ends false (fun _ _ => True)) false (rollback taskId reason actor) db := by
  unfold rollback
  refine fit_check (fun _ _ => fit_scope (fun db' _ _ => ?_))
  unfold rollbackTask
  refine fit_getTask stable_true trivial ?_
  intro task db₁ _ _ _
  exact fit_ite (fun _ => fit_pure (fun _ _ => trivial))
    (fun _ => fit_ite (fun _ => fit_raise) (fun _ => releaseTask_fits))

/-- A recovery that goes on has a validating task without an epoch. -/
lemma recoverTask_unbindable {request : RecoveryRequest} {policy : MigrationPolicy}
    (h : recoverTask cfg db x request policy = .ok (none, db')) : Unbindable db' request.taskId := by
  have hfree : ∀ t, db'.tasks.find? request.taskId = some t → t.status = .validating → t.targetEpochId = none →
      Unbindable db' request.taskId := by
    intro t ht hs hnone
    refine ⟨⟨t, ht, by rw [hs]; decide⟩, ?_⟩
    intro u id e hu hid
    obtain rfl : t = u := Option.some.inj (ht.symm.trans hu)
    rw [hnone] at hid
    exact absurd hid (by simp)
  unfold recoverTask at h
  obtain ⟨epoch, -, h⟩ := bind_eq_ok.mp h
  obtain ⟨_, -, h⟩ := bind_eq_ok.mp h
  split at h
  · cases h
  · next hfilter =>
    obtain ⟨_, -, h⟩ := bind_eq_ok.mp h
    obtain ⟨mid, hmid, h⟩ := bind_eq_ok.mp h
    cases h
    unfold ensureRecovery at hmid
    cases hexisting : db.taskWithProposal request.taskId with
    | none =>
      rw [if_pos hexisting] at hmid
      unfold createRecovery at hmid
      obtain ⟨proposals, -, hmid⟩ := bind_eq_ok.mp hmid
      unfold insertTask at hmid
      obtain ⟨_, -, hmid⟩ := bind_eq_ok.mp hmid
      obtain ⟨tasks, hins, hmid⟩ := bind_eq_ok.mp hmid
      cases hmid
      have hfind : tasks.find? request.taskId = some (recoveryTask x request policy epoch) := by
        rw [Table.find?_insert (orRaise_eq_ok.mp hins)]
        exact if_pos rfl
      exact hfree _ hfind rfl rfl
    | some tp =>
      rw [if_neg (by simp [hexisting])] at hmid
      cases hmid
      obtain ⟨t, ht, htp⟩ := Option.bind_eq_some_iff.mp hexisting
      obtain ⟨p, -, rfl⟩ := Option.map_eq_some_iff.mp htp
      have hidle : t.targetEpochId = none ∧ t.status = .validating := by
        simpa [hexisting, Option.filter] using hfilter
      exact hfree t ht hidle.2 hidle.1

/-- An acquisition that does not return: the task of the recovery is marked failed. -/
lemma acquireStandby_fits {subjectId targetId taskId : Id} {sourceEpoch actor code : String} {proof : ValidationProof}
    (hi : Fenced db) (hu : Unbindable db taskId) :
    Fit cfg requirePrincipal (ends held (fun _ _ => False)) held
      ((acquire subjectId targetId sourceEpoch proof actor).onRaise (perform (.markTaskFailed taskId code))) db := by
  have hfits : Fit cfg requirePrincipal (ends held (fun _ _ => False)) held
      (acquire subjectId targetId sourceEpoch proof actor) db := acquire_fits
  have hframe := sound.fits_frame stable_unbindable (fun s s' h => stable_unbindable s s' h.toRely) hu hfits
  refine sound.fits_andThen hi (Store.fits_mono ?_ hframe)
  rintro held' r db₁ hi₁ ⟨⟨rfl, hret⟩, hu₁⟩
  cases r with
  | ok lease => exact (hret lease rfl).elim
  | error e =>
    refine sound.fits_andThen hi₁ ?_
    intro db₂ hr hi₂
    refine ⟨stable_unbindable.relyOf hr hu₁, ?_, fun _ _ _ _ _ _ _ => ends_error⟩
    exact fun _ _ _ _ _ _ _ _ _ _ _ _ => ends_error

lemma bindStandby_fits {request : RecoveryRequest} {policy : MigrationPolicy} (hu : Unbindable db request.taskId) :
    Fit cfg requirePrincipal (ends false (fun _ _ => True)) false (bindStandby request policy) db := by
  unfold bindStandby
  refine fit_getTask stable_unbindable hu ?_
  intro task db₁ hi₁ hu₁ _
  exact fit_bind stable_true trivial hi₁ (acquireStandby_fits hi₁ hu₁) (fun _ _ _ _ hfalse => False.elim hfalse)

lemma restoreStandby_fits {request : RecoveryRequest} {policy : MigrationPolicy} :
    Fit cfg requirePrincipal (ends false (fun _ _ => True)) false (restoreStandby cfg request policy) db := by
  unfold restoreStandby
  refine fit_check ?_
  intro _ _
  refine fit_keep .verifyBackup stable_true trivial (fun _ _ => trivial) ?_
  intro _ db₁ _ _
  refine fit_step (.recoverTask request policy) (fun _ _ _ => trivial) ?_
  intro db₂ x served db₂' _ _ he _ _
  cases served with
  | some t => exact fit_pure (fun _ _ => trivial)
  | none => exact bindStandby_fits (recoverTask_unbindable he)

lemma cancel_fits {taskId : Id} {actor reason : String} :
    Fit cfg requirePrincipal (ends false (fun _ _ => True)) false (cancel cfg taskId actor reason) db := by
  unfold cancel
  refine fit_check (fun _ _ => fit_check (fun _ _ => ?_))
  refine fit_getTask stable_true trivial ?_
  intro task db₁ _ _ _
  refine fit_check ?_
  intro pending _
  cases pending with
  | none => exact fit_pure (fun _ _ => trivial)
  | some u => exact fit_single (.transition _ _ _ _) (fun _ => ⟨by decide, by simp⟩)

/-- Every call fits among the others. -/
lemma entry_fits (p : Entry) :
    Fit cfg requirePrincipal (ends false (fun _ _ => True)) false (p.call cfg) db := by
  have hlone : ∀ tx : Tx, (hreply : tx.Reply = Unit) → (∀ db', Prepared false tx db') →
      Fit cfg requirePrincipal (ends false (fun _ _ => True)) false (perform tx) db := by
    intro tx _ hpre
    exact fit_last tx stable_true trivial (fun db' _ => hpre db') (fun _ _ _ _ _ _ _ _ _ => trivial)
  cases p with
  | addSubject s => exact hlone (.addSubject s) rfl (fun _ => trivial)
  | setRuntime s v => exact hlone (.setRuntime s v) rfl (fun _ => trivial)
  | putTarget row => exact hlone (.putTarget row) rfl (fun _ => trivial)
  | updatePolicy s rev patch actor => exact fit_single (.updatePolicy _ _ _ _) (fun _ => trivial)
  | createProposal input => exact fit_single (.createProposal _) (fun _ => trivial)
  | approve proposalId reviewer key =>
    refine fit_keep (.approve proposalId reviewer key) stable_true trivial (fun _ _ => trivial) ?_
    intro result db' _ _
    exact fit_check (fun _ _ => fit_pure (fun _ _ => trivial))
  | reject proposalId actor reason => exact fit_single (.reject _ _ _) (fun _ => trivial)
  | cancel taskId actor reason => exact cancel_fits
  | run taskId walletMode actor => exact run_fits
  | prepare taskId actor proof => exact prepare_fits
  | commit taskId actor => exact commit_fits
  | rollback taskId reason actor => exact rollback_fits
  | restoreStandby request policy => exact restoreStandby_fits

/-- In a run that keeps to the condition every state is fenced. -/
lemma fenced_of_reachable {s : Store.Running Db Reading Tx.Reply MigrationError}
    (h : (machine cfg requirePrincipal).ReachableUnder (Store.Guarded (Undisturbed cfg requirePrincipal)) s) :
    Fenced s.state := by
  refine (Store.healthy_of_reachable sound ?_ ?_ h).state
  · rintro db rfl
    exact fenced_empty
  · intro p db _
    exact Store.fits_mono (fun _ _ _ _ _ => trivial) (entry_fits p)

end Noyra.Migration.Proofs
