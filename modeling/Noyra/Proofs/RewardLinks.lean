import Noyra.Proofs.Payouts

/-!
# Workflows, their links and their submissions

In every run two workflows never share a bounty or a request, a link leads from a submission of a bounty to the
workflow of that bounty, and a link is accepted only together with its submission.
-/

namespace Noyra.Wallet.Proofs
open Noyra.Lib Noyra.Wallet.Payouts

variable {cfg : Config} {db db' : DB}

variable {d d' : RewardDb}

/-- A row of the workflow with the same bounty and the same request. -/
def SameWorkflow (w w' : WorkflowRow) : Prop :=
  w'.workflowId = w.workflowId ∧ w'.subjectId = w.subjectId ∧ w'.bountyId = w.bountyId ∧
    w'.assistanceRequestId = w.assistanceRequestId

/-- A transition of a workflow. -/
structure Transitioned (d d' : RewardDb) (w : WorkflowRow) (target : WorkflowStatus) : Prop where
  audits : OnlyAudits d.db d'.db
  requests : d'.requests = d.requests
  links : d'.links = d.links
  incidents : d'.incidents = d.incidents
  workflows : (w.status = target ∧ d'.workflows = d.workflows) ∨
    ∃ w', SameWorkflow w w' ∧ w'.status = target ∧ d'.workflows = d.workflows.replace w'

lemma transitionWorkflow_transitioned {r : Readings} {w : WorkflowRow} {target : WorkflowStatus} {actor reason : String}
    (h : transitionWorkflow cfg d r w target actor reason = .ok d') : Transitioned d d' w target := by
  have haudits := transitionWorkflow_audits h
  unfold transitionWorkflow at h
  split at h
  · next hsame =>
    cases h
    exact ⟨haudits, rfl, rfl, rfl, .inl ⟨hsame, rfl⟩⟩
  · obtain ⟨_, -, h⟩ := bind_eq_ok.mp h
    obtain ⟨_, -, h⟩ := bind_eq_ok.mp h
    cases h
    refine ⟨haudits, rfl, rfl, rfl, .inr ⟨_, ?_, ?_, rfl⟩⟩
    · exact ⟨rfl, rfl, rfl, rfl⟩
    · rfl

/-- An incident of a workflow, which may have been open before. -/
structure Stopped (d d' : RewardDb) (w : WorkflowRow) : Prop where
  audits : OnlyAudits d.db d'.db
  requests : d'.requests = d.requests
  links : d'.links = d.links
  incidents : d'.incidents.rows = d.incidents.rows ∨ ∃ i : IncidentRow, i.workflowId = w.workflowId ∧
    d'.incidents.rows = d.incidents.rows ++ [i]
  workflows : d' = d ∨ (w.status = .manualIntervention ∧ d'.workflows = d.workflows) ∨
    ∃ w', SameWorkflow w w' ∧ w'.status = .manualIntervention ∧ d'.workflows = d.workflows.replace w'

lemma openIncident_stopped {r : Readings} {w : WorkflowRow} {submissionId executionId : Option Id} {kind : IncidentKind}
    {reason cause : String} (h : openIncident cfg d r w submissionId executionId kind reason cause = .ok d') :
    Stopped d d' w := by
  have haudits := openIncident_audits h
  unfold openIncident at h
  simp only at h
  split at h
  · obtain ⟨_, -, h⟩ := bind_eq_ok.mp h
    cases h
    exact ⟨haudits, rfl, rfl, .inl rfl, .inl rfl⟩
  · simp only [RewardDb.insertIncident, bind_eq_ok, raiseIf_eq_ok, orRaise_eq_ok, Except.ok.injEq] at h
    obtain ⟨d₁, ⟨-, -, -, -, incidents, hinsert, rfl⟩, h⟩ := h
    have ht := transitionWorkflow_transitioned h
    obtain ⟨-, hrows⟩ := Table.insert?_eq_some.mp hinsert
    refine ⟨haudits, ht.requests, ht.links, .inr ⟨_, ?_, (congrArg Table.rows ht.incidents).trans hrows⟩, ?_⟩
    · rfl
    · exact .inr ht.workflows

lemma workflowRow_spec {workflowId subjectId : Id} {w : WorkflowRow} (h : d.workflowRow workflowId subjectId = .ok w) :
    d.workflows.find? workflowId = some w ∧ w.subjectId = subjectId := by
  have hfilter := orRaise_eq_ok.mp h
  rw [Option.filter_eq_some_iff, decide_eq_true_eq] at hfilter
  exact hfilter

lemma executionIncident_stopped {r : Readings} {workflowId subjectId submissionId : Id} {executionId : Option Id}
    {kind : IncidentKind} {reason cause : String}
    (h : executionIncident cfg d r workflowId subjectId submissionId executionId kind reason cause = .ok d') :
    ∃ w, d.workflows.find? workflowId = some w ∧ w.subjectId = subjectId ∧ Stopped d d' w := by
  obtain ⟨w, hw, h⟩ := bind_eq_ok.mp h
  obtain ⟨hfind, hsubject⟩ := workflowRow_spec hw
  exact ⟨w, hfind, hsubject, openIncident_stopped h⟩

/-- Completing a workflow: nothing, or the workflow, its bounty and its request. -/
structure Completed (cfg : Config) (d d' : RewardDb) (w : WorkflowRow) (b : BountyRow) (q : RequestRow) : Prop where
  links : d'.links = d.links
  incidents : d'.incidents = d.incidents
  orders : d'.db.orders = d.db.orders
  executions : d'.db.executions = d.db.executions
  workflows : (w.status = .closed ∧ d'.workflows = d.workflows) ∨
    ∃ w', SameWorkflow w w' ∧ w'.status = .closed ∧ d'.workflows = d.workflows.replace w'
  bounties : (b.status = .closed ∧ d'.db.bounties = d.db.bounties) ∨ (b.status = .published ∧
    ∃ b' : BountyRow, b'.bountyId = b.bountyId ∧ b'.status = .closed ∧ d'.db.bounties = d.db.bounties.replace b')
  requests : (q.status = .resolved ∧ d'.requests = d.requests) ∨ (q.status = .opened ∧
    ∃ q' : RequestRow, q'.requestId = q.requestId ∧ q'.status = .resolved ∧ d'.requests = d.requests.replace q')

lemma closeBounty_spec {r : Readings} {b : BountyRow} {actor : String} (h : closeBounty cfg db r b actor = .ok db') :
    db'.orders = db.orders ∧ db'.executions = db.executions ∧ ((b.status = .closed ∧ db'.bounties = db.bounties) ∨
      (b.status = .published ∧ ∃ b' : BountyRow, b'.bountyId = b.bountyId ∧ b'.status = .closed ∧
        db'.bounties = db.bounties.replace b')) := by
  unfold closeBounty moveBounty at h
  split at h
  · next hpublished =>
    obtain ⟨_, -, h⟩ := bind_eq_ok.mp h
    cases h
    refine ⟨rfl, rfl, .inr ⟨hpublished, _, ?_, ?_, rfl⟩⟩ <;> rfl
  · obtain ⟨_, hstatus, h⟩ := bind_eq_ok.mp h
    cases h
    exact ⟨rfl, rfl, .inl ⟨not_not.mp (raiseIf_eq_ok.mp hstatus), rfl⟩⟩

lemma resolveRequest_spec {w : WorkflowRow} (h : resolveRequest d w = .ok d') :
    d'.db = d.db ∧ d'.links = d.links ∧ d'.incidents = d.incidents ∧ d'.workflows = d.workflows ∧
      ∃ q, d.requests.find? w.assistanceRequestId = some q ∧ q.subjectId = w.subjectId ∧
        ((q.status = .resolved ∧ d'.requests = d.requests) ∨ (q.status = .opened ∧ ∃ q' : RequestRow,
          q'.requestId = q.requestId ∧ q'.status = .resolved ∧ d'.requests = d.requests.replace q')) := by
  obtain ⟨q, hq, h⟩ := bind_eq_ok.mp h
  have hfilter := orRaise_eq_ok.mp hq
  rw [Option.filter_eq_some_iff, decide_eq_true_eq] at hfilter
  split at h
  · next hopen =>
    cases h
    refine ⟨rfl, rfl, rfl, rfl, q, hfilter.1, hfilter.2, .inr ⟨hopen, _, ?_, ?_, rfl⟩⟩ <;> rfl
  · obtain ⟨_, hstatus, h⟩ := bind_eq_ok.mp h
    cases h
    exact ⟨rfl, rfl, rfl, rfl, q, hfilter.1, hfilter.2, .inl ⟨not_not.mp (raiseIf_eq_ok.mp hstatus), rfl⟩⟩

/-- The bounty of a workflow, as the completion reads it. -/
def bountyOf (d : RewardDb) (w : WorkflowRow) : Option BountyRow :=
  (d.db.bounties.find? w.bountyId).filter (fun b => b.subjectId = w.subjectId)

/-- The request of a workflow, as the completion reads it. -/
def requestOf (d : RewardDb) (w : WorkflowRow) : Option RequestRow :=
  (d.requests.find? w.assistanceRequestId).filter (fun q => q.subjectId = w.subjectId)

lemma resultForSubmission_spec {r : Readings} {workflowId subjectId : Id}
    (h : resultForSubmission cfg d r workflowId subjectId = .ok d') :
    ∃ w, d.workflows.find? workflowId = some w ∧ w.subjectId = subjectId ∧ ∃ b, bountyOf d w = some b ∧
      ((settledCount d w < b.rewardSlots ∧ d' = d) ∨
        (b.rewardSlots ≤ settledCount d w ∧ (w.status = .opened ∨ w.status = .closed) ∧
          ∃ q, requestOf d w = some q ∧ Completed cfg d d' w b q)) := by
  obtain ⟨w, hw, h⟩ := bind_eq_ok.mp h
  obtain ⟨hfind, hsubject⟩ := workflowRow_spec hw
  obtain ⟨b, hb, h⟩ := bind_eq_ok.mp h
  refine ⟨w, hfind, hsubject, b, orRaise_eq_ok.mp hb, ?_⟩
  split at h
  · next hfew =>
    cases h
    exact .inl ⟨hfew, rfl⟩
  · next hsettled =>
    obtain ⟨_, hstatus, h⟩ := bind_eq_ok.mp h
    obtain ⟨d₁, h₁, h⟩ := bind_eq_ok.mp h
    obtain ⟨db₂, h₂, h⟩ := bind_eq_ok.mp h
    have ht := transitionWorkflow_transitioned h₁
    obtain ⟨audits, haudits⟩ := ht.audits
    obtain ⟨horders, hexecutions, hbounties⟩ := closeBounty_spec h₂
    obtain ⟨hdb, hlinks, hincidents, hworkflows, q, hq, hqs, hrequests⟩ := resolveRequest_spec h
    rw [haudits] at horders hexecutions hbounties
    rw [show ({ d₁ with db := db₂ } : RewardDb).requests = d.requests from ht.requests] at hq hrequests
    refine .inr ⟨Nat.not_lt.mp hsettled, ?_, q, ?_, ?_⟩
    · have hor := raiseIf_eq_ok.mp hstatus
      tauto
    · unfold requestOf
      rw [hq, Option.filter_some, decide_eq_true hqs]
      rfl
    · refine ⟨hlinks.trans ht.links, hincidents.trans ht.incidents, ?_, ?_, ?_, ?_, hrequests⟩
      · rw [hdb]
        exact horders
      · rw [hdb]
        exact hexecutions
      · rcases ht.workflows with ⟨hclosed, hsame⟩ | ⟨w', hw', hclosed, hreplace⟩
        · exact .inl ⟨hclosed, hworkflows.trans hsame⟩
        · exact .inr ⟨w', hw', hclosed, hworkflows.trans hreplace⟩
      · rw [hdb]
        exact hbounties

/-- A submission keeps its bounty, and an accepted one stays accepted. -/
lemma Pays.submission (h : Pays db db') (hv : Valid (payouts db)) {x : Submission Id}
    (hx : x ∈ (payouts db).submissions) :
    ∃ y ∈ (payouts db').submissions, y.id = x.id ∧ y.bounty = x.bounty ∧
      (x.standing = .accepted → y.standing = .accepted) := by
  -- deciding an open submission changes no accepted one
  have hdecide : ∀ z ∈ (payouts db).submissions, z.standing = .submitted → ∀ standing,
      ∃ y ∈ decideIn (payouts db).submissions z.id standing, y.id = x.id ∧ y.bounty = x.bounty ∧
        (x.standing = .accepted → y.standing = .accepted) := by
    intro z hz hopen standing
    refine ⟨_, List.mem_map_of_mem hx, ?_⟩
    by_cases hid : x.id = z.id
    · have hxz : x = z := List.inj_on_of_nodup_map hv.submission_ids hx hz hid
      subst hxz
      rw [if_pos rfl, hopen]
      exact ⟨rfl, rfl, fun hacc => by cases hacc⟩
    · rw [if_neg hid]
      exact ⟨rfl, rfl, id⟩
  rcases h with hsame | hstep
  · rw [hsame]
    exact ⟨x, hx, rfl, rfl, id⟩
  · generalize payouts db = s, payouts db' = s' at hstep hx hdecide
    cases hstep with
    | offer b hnew => exact ⟨x, hx, rfl, rfl, id⟩
    | submit b z hb hz hopen hnew hroom => exact ⟨x, List.mem_append_left _ hx, rfl, rfl, id⟩
    | drop z hz hopen => exact hdecide z hz hopen _
    | accept b z hb hz hid hopen hroom => exact hdecide z hz hopen _

structure Filed (submissions : List (Submission Id)) (workflows : List WorkflowRow) (links : List LinkRow) : Prop where
  bounties : (workflows.map WorkflowRow.bountyId).Nodup
  requests : (workflows.map WorkflowRow.assistanceRequestId).Nodup
  linked : ∀ l ∈ links, ∃ w ∈ workflows, w.workflowId = l.workflowId ∧ ∃ x ∈ submissions, x.id = l.submissionId ∧
    x.bounty = w.bountyId ∧ (l.verificationStatus = .accepted → x.standing = .accepted)

def WellFiled (d : RewardDb) : Prop := Filed (payouts d.db).submissions d.workflows.rows d.links.rows

lemma Filed.pays {workflows : List WorkflowRow} {links : List LinkRow}
    (h : Filed (payouts db).submissions workflows links)
    (hp : Pays db db') (hv : Valid (payouts db)) : Filed (payouts db').submissions workflows links := by
  refine ⟨h.bounties, h.requests, fun l hl => ?_⟩
  obtain ⟨w, hw, hid, x, hx, hxl, hxw, hacc⟩ := h.linked l hl
  obtain ⟨y, hy, hyx, hyb, hstays⟩ := hp.submission hv hx
  exact ⟨w, hw, hid, y, hy, hyx.trans hxl, hyb.trans hxw, fun ha => hstays (hacc ha)⟩

lemma Filed.replaceWorkflow {submissions : List (Submission Id)} {workflows : Table WorkflowRow.workflowId}
    {links : List LinkRow}
    {w w' : WorkflowRow} (h : Filed submissions workflows.rows links) (hw : w ∈ workflows) (hsame : SameWorkflow w w') :
    Filed submissions (workflows.replace w').rows links := by
  obtain ⟨hid, -, hbounty, hrequest⟩ := hsame
  have hfind : workflows.find? w'.workflowId = some w := hid ▸ Table.find?_key hw
  refine ⟨?_, ?_, fun l hl => ?_⟩
  · rw [Table.replace_rows_of_find? hfind hbounty]
    exact h.bounties
  · rw [Table.replace_rows_of_find? hfind hrequest]
    exact h.requests
  · obtain ⟨v, hv, hvl, x, hx, hxl, hxv, hacc⟩ := h.linked l hl
    by_cases hvw : v.workflowId = w'.workflowId
    · have heq : v = w := Table.eq_of_key hv hw (hvw.trans hid)
      subst heq
      exact ⟨w', Table.mem_replace.mpr (.inl ⟨rfl, v, hv, hvw⟩), hid.trans hvl, x, hx, hxl, hxv.trans hbounty.symm,
        hacc⟩
    · exact ⟨v, Table.mem_replace.mpr (.inr ⟨hv, hvw⟩), hvl, x, hx, hxl, hxv, hacc⟩

lemma WellFiled.transitioned {d d' : RewardDb} {w : WorkflowRow} {target : WorkflowStatus} (h : WellFiled d)
    (hw : w ∈ d.workflows) (ht : Transitioned d d' w target) : WellFiled d' := by
  unfold WellFiled at *
  rw [ht.audits.payouts, ht.links]
  rcases ht.workflows with ⟨-, hsame⟩ | ⟨w', hw', -, hreplace⟩
  · rw [hsame]
    exact h
  · rw [hreplace]
    exact h.replaceWorkflow hw hw'

lemma WellFiled.stopped {d d' : RewardDb} {w : WorkflowRow} (h : WellFiled d) (hw : w ∈ d.workflows)
    (hs : Stopped d d' w) :
    WellFiled d' := by
  unfold WellFiled at *
  rw [hs.audits.payouts, hs.links]
  rcases hs.workflows with rfl | ⟨-, hsame⟩ | ⟨w', hw', -, hreplace⟩
  · exact h
  · rw [hsame]
    exact h
  · rw [hreplace]
    exact h.replaceWorkflow hw hw'

lemma WellFiled.pays {d : RewardDb} (h : WellFiled d) (hv : Valid (payouts d.db)) (hp : Pays d.db db') :
    WellFiled { d with db := db' } :=
  Filed.pays h hp hv

lemma linkSubmission_filed {r : Readings} {workflow : WorkflowRow} {submissionId : Id} {source : SourceType}
    {event interaction : Option Id} {hash : String} {networkId : Id} {actor : String} (hf : WellFiled d)
    (h : linkSubmission cfg d r workflow submissionId source event interaction hash networkId actor = .ok d') :
    WellFiled d' := by
  unfold linkSubmission at h
  split at h
  · obtain ⟨_, -, h⟩ := bind_eq_ok.mp h
    cases h
    exact hf
  · simp only [RewardDb.insertLink, bind_eq_ok, raiseIf_eq_ok, orRaise_eq_ok, Except.ok.injEq] at h
    obtain ⟨-, hknown, -, -, links, hinsert, rfl⟩ := h
    obtain ⟨-, hrows⟩ := Table.insert?_eq_some.mp hinsert
    obtain ⟨x, hx, hxid, -, w, hw, hwid, hxw⟩ := not_not.mp hknown
    refine ⟨hf.bounties, hf.requests, fun l hl => ?_⟩
    rw [hrows] at hl
    rcases List.mem_append.mp hl with hl | hl
    · exact hf.linked l hl
    · rw [List.mem_singleton.mp hl]
      exact ⟨w, hw, hwid, submissionTerms x, List.mem_map_of_mem hx, hxid, hxw, fun hacc => by cases hacc⟩

lemma createWorkflow_filed {r : Readings} {subjectId : Id} {p : RewardWorkflowInput} {actor : String}
    {c : RewardContext}
    (hf : WellFiled d) (hv : Valid (payouts d.db)) (h : createWorkflow cfg d r subjectId p actor c = .ok d') :
    WellFiled d' := by
  simp only [createWorkflow, bind_eq_ok] at h
  obtain ⟨-, -, actor, -, h⟩ := h
  split at h
  · obtain ⟨_, -, h⟩ := bind_eq_ok.mp h
    cases h
    exact hf
  · simp only [createWorkflowConnection, RewardDb.insertWorkflow, bind_eq_ok, raiseIf_eq_ok, orRaise_eq_ok,
      Except.ok.injEq, Prod.exists] at h
    obtain ⟨request, -, goalId, -, input, -, bounty, db₁, hb, postId, -, -, hunique, workflows, hinsert, rfl⟩ := h
    have hpaid := hf.pays hv (createBounty_pays hb)
    obtain ⟨-, hrows⟩ := Table.insert?_eq_some.mp hinsert
    push Not at hunique
    refine ⟨?_, ?_, fun l hl => ?_⟩
    · dsimp only
      rw [hrows, List.map_append, List.map_singleton, List.nodup_append_comm, List.singleton_append, List.nodup_cons]
      refine ⟨fun hmem => ?_, hf.bounties⟩
      obtain ⟨w, hw, hid⟩ := List.mem_map.mp hmem
      exact (hunique w hw).2.2.1 hid
    · dsimp only
      rw [hrows, List.map_append, List.map_singleton, List.nodup_append_comm, List.singleton_append, List.nodup_cons]
      refine ⟨fun hmem => ?_, hf.requests⟩
      obtain ⟨w, hw, hid⟩ := List.mem_map.mp hmem
      exact (hunique w hw).1 hid
    · obtain ⟨w, hw, hrest⟩ := hpaid.linked l hl
      refine ⟨w, ?_, hrest⟩
      dsimp only
      rw [hrows]
      exact List.mem_append_left _ hw

lemma publishWorkflow_filed {r : Readings} {workflowId subjectId : Id} {actor : String} {post : Option PostStatus}
    (hf : WellFiled d) (hp : Payable cfg d.db) (h : publishWorkflow cfg d r workflowId subjectId actor post = .ok d') :
    WellFiled d' := by
  simp only [publishWorkflow, bind_eq_ok, raiseIf_eq_ok, orRaise_eq_ok, Option.filter_eq_some_iff] at h
  obtain ⟨actor, -, row, hrow, -, -, post, -, -, -, -, -, bounty, ⟨hb, -⟩, db₁, hpub, h⟩ := h
  have hpaid := hf.pays hp.valid (moveBounty_turn hp.sound.desk hb hpub).2
  exact hpaid.transitioned (Table.find?_eq_some.mp (workflowRow_spec hrow).1).1 (transitionWorkflow_transitioned h)

lemma submitTo_filed {r : Readings} {workflow : WorkflowRow} {subjectId : Id} {submission : SubmissionInput}
    {networkId : Id}
    {source : SourceType} {event interaction : Option Id} {hash mismatch cause actor : String} (hf : WellFiled d)
    (hv : Valid (payouts d.db)) (hw : workflow ∈ d.workflows)
    (h : submitTo cfg d r workflow subjectId submission networkId source event interaction hash mismatch cause
      actor = .ok d') :
    WellFiled d' := by
  simp only [submitTo, bind_eq_ok, raiseIf_eq_ok] at h
  obtain ⟨-, -, h⟩ := h
  split at h
  · exact hf.stopped hw (openIncident_stopped h)
  · obtain ⟨⟨row, db₁⟩, hsub, h⟩ := bind_eq_ok.mp h
    exact linkSubmission_filed (hf.pays hv (submitToBounty_pays hsub)) h

lemma decideEvidence_filed {r : Readings} {submissionId subjectId : Id} {p : RewardEvidenceDecisionInput}
    {actor : String} (hf : WellFiled d) (hv : Valid (payouts d.db))
    (h : decideEvidence cfg d r submissionId subjectId p actor = .ok d') :
    WellFiled d' := by
  simp only [decideEvidence, bind_eq_ok, orRaise_eq_ok] at h
  obtain ⟨actor, -, link, hlink, workflow, hworkflow, bounty, -, h⟩ := h
  split at h
  · exact hf.stopped (Table.find?_eq_some.mp (workflowRow_spec hworkflow).1).1 (openIncident_stopped h)
  · split at h
    · simp only [bind_eq_ok, Except.ok.injEq] at h
      obtain ⟨-, -, -, -, rfl⟩ := h
      exact hf
    · simp only [RewardDb.updateLink, bind_eq_ok, raiseIf_eq_ok, Except.ok.injEq, Prod.exists] at h
      obtain ⟨row, db₁, hdec, -, -, -, hstatus, rfl⟩ := h
      have hsame := (onlyAudits_audit d.db (r 1) subjectId ("wallet_reward_submission_" ++
          (if (p.accepted && p.criteriaResults.all id) = true then VerificationStatus.accepted else .rejected).text)
        actor (.obj [("submission_id", .str submissionId), ("reason", .str p.reason),
          ("idempotency_key", .str p.idempotencyKey)])).payouts
      have hpays := decideSubmissionConnection_pays (hsame ▸ hv) hdec
      have hpaid : Filed (payouts db₁).submissions d.workflows.rows d.links.rows := by
        refine @Filed.pays d.db db₁ _ _ hf ?_ hv
        unfold Pays at hpays ⊢
        rwa [RewardDb.audit, hsame] at hpays
      rw [Option.filter_eq_some_iff] at hlink
      obtain ⟨hmem, hid⟩ := Table.find?_eq_some.mp hlink.1
      refine ⟨hpaid.bounties, hpaid.requests, fun l hl => ?_⟩
      rcases Table.mem_replace.mp hl with ⟨rfl, -⟩ | ⟨hl, -⟩
      · obtain ⟨w, hw, hwid, x, hx, hxid, hxw, -⟩ := hpaid.linked link hmem
        refine ⟨w, hw, hwid, x, hx, hxid, hxw, fun hacc => ?_⟩
        -- an accepted link is written over an accepted submission
        have htarget : (decidedLink cfg link
            (if (p.accepted && p.criteriaResults.all id) = true then .accepted else .rejected)
            p actor (r 0).clock).verificationStatus.submission = some .accepted := by
          rw [hacc]
          rfl
        push Not at hstatus
        obtain ⟨s, hs, hsid, hsacc⟩ := hstatus .accepted htarget
        have hterms : submissionTerms s ∈ (payouts db₁).submissions := List.mem_map_of_mem hs
        have hxs : x = submissionTerms s :=
          List.inj_on_of_nodup_map (hpays.valid (hsame ▸ hv)).submission_ids hx hterms (hxid.trans hsid.symm)
        rw [hxs]
        exact standingOf_eq_accepted.mpr hsacc
      · exact hpaid.linked l hl

lemma resultForSubmission_filed {r : Readings} {workflowId subjectId : Id} (hf : WellFiled d) (hp : Payable cfg d.db)
    (h : resultForSubmission cfg d r workflowId subjectId = .ok d') : WellFiled d' := by
  have hrun : (WorkflowOp.result workflowId subjectId).run cfg d r = .ok d' := h
  have hpays := (WorkflowOp.run_turn hp.sound.desk hp.valid hrun).pays
  obtain ⟨w, hfind, -, b, -, ⟨-, rfl⟩ | ⟨-, -, q, -, hdone⟩⟩ := resultForSubmission_spec h
  · exact hf
  · have hpaid : Filed (payouts d'.db).submissions d.workflows.rows d.links.rows := Filed.pays hf hpays hp.valid
    unfold WellFiled
    rw [hdone.links]
    rcases hdone.workflows with ⟨-, hsame⟩ | ⟨w', hw', -, hreplace⟩
    · rw [hsame]
      exact hpaid
    · rw [hreplace]
      exact hpaid.replaceWorkflow (Table.find?_eq_some.mp hfind).1 hw'

lemma WorkflowOp.run_filed {r : Readings} {op : WorkflowOp} (hf : WellFiled d) (hp : Payable cfg d.db)
    (h : op.run cfg d r = .ok d') : WellFiled d' := by
  cases op with
  | openRequest request =>
    simp only [WorkflowOp.run, bind_eq_ok, Except.ok.injEq] at h
    obtain ⟨requests, -, rfl⟩ := h
    exact hf
  | create => exact createWorkflow_filed hf hp.valid h
  | publish => exact publishWorkflow_filed hf hp h
  | submitPublic =>
    simp only [WorkflowOp.run, submitPublic, bind_eq_ok] at h
    obtain ⟨-, -, workflow, hworkflow, h⟩ := h
    exact submitTo_filed hf hp.valid (Table.find?_eq_some.mp (workflowRow_spec hworkflow).1).1 h
  | submitInbound =>
    simp only [WorkflowOp.run, submitInbound, bind_eq_ok] at h
    obtain ⟨workflow, hworkflow, h⟩ := h
    exact submitTo_filed hf hp.valid (Table.find?_eq_some.mp (workflowRow_spec hworkflow).1).1 h
  | decide => exact decideEvidence_filed hf hp.valid h
  | resolveIncident =>
    simp only [WorkflowOp.run, resolveIncident, bind_eq_ok] at h
    obtain ⟨actor, -, row, -, h⟩ := h
    split at h
    · obtain ⟨_, -, h⟩ := bind_eq_ok.mp h
      cases h
      exact hf
    · simp only [RewardDb.updateIncident, bind_eq_ok, Except.ok.injEq] at h
      obtain ⟨-, -, rfl⟩ := h
      exact hf
  | resume =>
    simp only [WorkflowOp.run, resumeWorkflow, bind_eq_ok] at h
    obtain ⟨actor, -, reason, -, row, hrow, -, -, -, -, h⟩ := h
    exact hf.transitioned (Table.find?_eq_some.mp (workflowRow_spec hrow).1).1 (transitionWorkflow_transitioned h)
  | result => exact resultForSubmission_filed hf hp h
  | incident =>
    obtain ⟨w, hfind, -, hstopped⟩ := executionIncident_stopped h
    exact hf.stopped (Table.find?_eq_some.mp hfind).1 hstopped

lemma WellFiled.reachable {s : RewardSys} (h : (rewardMachine cfg).Reachable s) : WellFiled s.tables := by
  have hall : Payable cfg s.sys.db ∧ WellFiled s.tables := by
    refine Machine.ReachableUnder.invariant (I := fun s => Payable cfg s.sys.db ∧ WellFiled s.tables) ?_ ?_ h
    · rintro s rfl
      refine ⟨⟨.empty, .empty, .initial⟩, List.nodup_nil, List.nodup_nil, fun l hl => ?_⟩
      cases hl
    · rintro s a ⟨hp, hf⟩ _
      refine ⟨hp.step, ?_⟩
      cases a with
      | wallet a => exact hf.pays hp.valid (step_pays hp.sound hp.valid)
      | workflow r op =>
        change WellFiled (rewardStep cfg s (.workflow r op)).tables
        simp only [rewardStep]
        split
        · next d hrun => exact WorkflowOp.run_filed hf hp hrun
        · exact hf
  exact hall.2

end Noyra.Wallet.Proofs
