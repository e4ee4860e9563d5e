import Noyra.Proofs.Envelope

/-!
# Funds that may have moved

An order fails because the chain says so, or because every attempt was refused before it was broadcast.
The second holds as long as a refusal without a receipt is recorded while the first attempt is the only
one: `_mark_failed` does not check which attempt the refusal belongs to.
-/

namespace Noyra.Wallet.Proofs
open Noyra.Lib

variable {cfg : Config} {db db' : DB}

theorem queryReceipts_valid {e : ExecutionRow} {reply : String → ReceiptReply} {receipt : WalletReceipt} :
    ∀ {hashes : List String} {error error' : Option String},
      queryReceipts cfg e reply hashes error = (some receipt, error') →
        ∃ tx ∈ hashes, reply tx = .receipt receipt ∧ validReceipt cfg receipt e tx = true := by
  intro hashes
  induction hashes with
  | nil =>
    intro error error' h
    simp [queryReceipts] at h
  | cons tx hashes ih =>
    intro error error' h
    unfold queryReceipts at h
    split at h
    · next found hreply =>
      split at h
      · next hvalid =>
        obtain rfl : found = receipt := by simpa using congrArg Prod.fst h
        exact ⟨tx, List.mem_cons_self, hreply, hvalid⟩
      · obtain ⟨y, hy, hrest⟩ := ih h
        exact ⟨y, List.mem_cons_of_mem _ hy, hrest⟩
    · obtain ⟨y, hy, hrest⟩ := ih h
      exact ⟨y, List.mem_cons_of_mem _ hy, hrest⟩

theorem lookupReceipt_valid {e : ExecutionRow} {reply : String → ReceiptReply} {receipt : WalletReceipt}
    {found : Option WalletReceipt × Option String} (h : lookupReceipt cfg db e reply = .ok found)
    (hr : found.1 = some receipt) :
    ∃ hashes, lookupHashes cfg db e = .ok hashes ∧ ∃ tx ∈ hashes, validReceipt cfg receipt e tx = true := by
  simp only [lookupReceipt, bind_eq_ok, Except.ok.injEq] at h
  obtain ⟨hashes, hhashes, hquery⟩ := h
  obtain ⟨tx, htx, -, hvalid⟩ := queryReceipts_valid (hquery.trans (Prod.ext hr rfl : found = (some receipt, found.2)))
  exact ⟨hashes, hhashes, tx, htx, hvalid⟩

theorem validReceipt_confirmations {receipt : WalletReceipt} {e : ExecutionRow} {tx : String}
    (h : validReceipt cfg receipt e tx = true) :
    (receipt.status = 0 ∨ receipt.status = 1) ∧ cfg.minConfirmations ≤ receipt.confirmations := by
  simp only [validReceipt, Bool.and_eq_true, Bool.or_eq_true, beq_iff_eq, decide_eq_true_eq] at h
  exact ⟨h.1.1.1.1.1.2, h.1.1.2⟩

/-- A lookup has returned a confirmed receipt of a failed transaction. -/
def SawFailure (cfg : Config) (s : Sys) (executionId : Id) (receipt : WalletReceipt) : Prop :=
  (executionId, receipt) ∈ s.receipts ∧ receipt.status = 0 ∧ cfg.minConfirmations ≤ receipt.confirmations

/-- Such a receipt, for a transaction recorded on an attempt of the execution. -/
def ProvenFailed (cfg : Config) (s : Sys) (e : ExecutionRow) : Prop :=
  ∃ receipt tx, SawFailure cfg s e.executionId receipt ∧ txHash receipt.txHash = some tx ∧
    ∃ a ∈ s.db.attempts, a.executionId = e.executionId ∧ a.txHash = some tx

/-- Every attempt was refused before it was broadcast. -/
def AllRefused (s : Sys) (e : ExecutionRow) : Prop :=
  ∀ a ∈ s.db.attempts, a.executionId = e.executionId → (e.executionId, a.requestId) ∈ s.rejected

/-- The call is about the first attempt, unless it is a retry. -/
def FirstRequest (s : Sys) (d : Dispatch) : Prop :=
  d.retry = false → ∃ e ∈ s.db.executions, d.request = (e.executionId, requestIdOf e.orderId 1)

/-- The first attempt was refused. -/
def FirstRefused (s : Sys) (executionId : Id) : Prop :=
  ∃ e ∈ s.db.executions, e.executionId = executionId ∧ (executionId, requestIdOf e.orderId 1) ∈ s.rejected

/-- What a call in progress rests on. -/
def CallSound (cfg : Config) (s : Sys) : Call → Prop
  | .signing d => FirstRequest s d
  | .handed d => FirstRequest s d
  | .deciding executionId _ _ (.failed _ (some receipt)) => SawFailure cfg s executionId receipt
  | .deciding executionId _ _ (.failed _ none) => FirstRefused s executionId
  | _ => True

structure Funded (cfg : Config) (s : Sys) : Prop where
  calls : ∀ c ∈ s.calls, CallSound cfg s c
  kept : ∀ e ∈ s.db.executions, e.status = .failed → AllRefused s e ∨ ProvenFailed cfg s e

/-- Finishes that do not fail the execution. -/
def noFailure : Permit :=
  { Permit.all with
    finish := fun _ _ f => f.status ≠ .failed
    reconcile := fun _ _ _ => nofun
    recovered := fun _ _ _ => nofun }

/-- A failed execution was failed before, with the same attempts. -/
theorem Effect.failed_before {r : Readings} (h : Effect cfg noFailure r db db') {e : ExecutionRow}
    (he : e ∈ db'.executions) (hf : e.status = .failed) :
    e ∈ db.executions ∧ ∀ a, a.executionId = e.executionId → (a ∈ db'.attempts ↔ a ∈ db.attempts) := by
  have hsame : SameExecutions db db' → e ∈ db.executions ∧
      ∀ a, a.executionId = e.executionId → (a ∈ db'.attempts ↔ a ∈ db.attempts) :=
    fun hx => ⟨hx.executions ▸ he, fun a _ => by rw [hx.attempts]⟩
  cases h with
  | desk h => exact hsame h.aside.executions
  | policy h => exact hsame h.aside.executions
  | opened h => exact hsame h.rest.executions
  | decided h => exact hsame h.executions
  | started h =>
    rcases (mem_inserted h.executions).mp he with he | rfl
    · refine ⟨he, fun a hk => ?_⟩
      rw [mem_inserted h.attempts, or_iff_left_iff_imp]
      rintro rfl
      exact absurd hk.symm ((Table.insert?_eq_some.mp h.executions).1 e he)
    · rw [h.opening.1] at hf
      cases hf
  | @restarted o x p attemptId now settled h =>
    have hx := (Table.find?_eq_some.mp h.found).1
    have hid : p.execution.executionId = x.executionId := by rw [h.prepared]; rfl
    rcases (mem_replaced h.executions ⟨x, hx, hid.symm⟩).mp he with rfl | ⟨he, hne⟩
    · rw [h.prepared] at hf
      cases hf
    · refine ⟨he, fun a hk => ?_⟩
      rw [mem_inserted h.attempts, or_iff_left_iff_imp]
      rintro rfl
      exact absurd hk.symm hne
  | @finished o x a f now settled h _ _ hpermit =>
    rcases h.mem_executions.mp he with rfl | ⟨he, hne⟩
    · exact absurd hf hpermit
    · exact ⟨he, fun b hk => h.other_attempts (hk ▸ hne)⟩

theorem Effects.failed_before {r : Readings} (h : Effects cfg noFailure r db db') :
    ∀ e ∈ db'.executions, e.status = .failed →
      e ∈ db.executions ∧ ∀ a, a.executionId = e.executionId → (a ∈ db'.attempts ↔ a ∈ db.attempts) := by
  induction h with
  | refl => exact fun e he _ => ⟨he, fun _ _ => Iff.rfl⟩
  | tail _ heff ih =>
    intro e he hf
    obtain ⟨he, hatt⟩ := heff.failed_before he hf
    obtain ⟨he, hatt'⟩ := ih e he hf
    exact ⟨he, fun a hk => (hatt a hk).trans (hatt' a hk)⟩

/-- What the outside world knows only grows. -/
structure Grows (cfg : Config) (s s' : Sys) : Prop where
  executions : ∀ e ∈ s.db.executions, ∃ e' ∈ s'.db.executions, Continues e e'
  rejected : s.rejected ⊆ s'.rejected
  receipts : s.receipts ⊆ s'.receipts

theorem SawFailure.grows {s s' : Sys} {executionId : Id} {receipt : WalletReceipt} (hg : Grows cfg s s')
    (h : SawFailure cfg s executionId receipt) : SawFailure cfg s' executionId receipt :=
  ⟨hg.receipts h.1, h.2⟩

theorem FirstRequest.grows {s s' : Sys} {d : Dispatch} (hg : Grows cfg s s') (h : FirstRequest s d) :
    FirstRequest s' d := by
  intro hd
  obtain ⟨e, he, hreq⟩ := h hd
  obtain ⟨e', he', hcont⟩ := hg.executions e he
  exact ⟨e', he', by rw [hreq, hcont.executionId, hcont.order]⟩

theorem FirstRefused.grows {s s' : Sys} {executionId : Id} (hg : Grows cfg s s') (h : FirstRefused s executionId) :
    FirstRefused s' executionId := by
  obtain ⟨e, he, hid, hrej⟩ := h
  obtain ⟨e', he', hcont⟩ := hg.executions e he
  exact ⟨e', he', hcont.executionId.trans hid, hcont.order ▸ hg.rejected hrej⟩

theorem CallSound.grows {s s' : Sys} (hg : Grows cfg s s') {c : Call} (h : CallSound cfg s c) : CallSound cfg s' c := by
  unfold CallSound at h ⊢
  split at h
  · exact FirstRequest.grows hg h
  · exact FirstRequest.grows hg h
  · exact SawFailure.grows hg h
  · exact FirstRefused.grows hg h
  · trivial

theorem callSound_set {s : Sys} {calls : List Call} {i : Nat} {x : Call} (hx : CallSound cfg s x) :
    ∀ c ∈ calls.set i x, c ∈ calls ∨ CallSound cfg s c := by
  intro c hc
  rcases List.mem_or_eq_of_mem_set hc with hc | rfl
  · exact .inl hc
  · exact .inr hx

/-- A step that fails no execution. -/
theorem Funded.mono {r : Readings} {s s' : Sys} (hj : Funded cfg s) (heff : Effects cfg noFailure r s.db s'.db)
    (hrej : s.rejected ⊆ s'.rejected) (hrec : s.receipts ⊆ s'.receipts)
    (hcalls : ∀ c ∈ s'.calls, c ∈ s.calls ∨ CallSound cfg s' c) : Funded cfg s' := by
  have hg : Grows cfg s s' := ⟨fun e he => heff.continues he, hrej, hrec⟩
  refine ⟨fun c hc => (hcalls c hc).elim (fun hc => (hj.calls c hc).grows hg) id, ?_⟩
  intro e he hf
  obtain ⟨he, hatt⟩ := heff.failed_before e he hf
  rcases hj.kept e he hf with hall | ⟨receipt, tx, hsaw, htx, a, ha, hk, hhash⟩
  · exact .inl (fun a ha hk => hrej (hall a ((hatt a hk).mp ha) hk))
  · exact .inr ⟨receipt, tx, hsaw.grows hg, htx, a, (hatt a hk).mpr ha, hk, hhash⟩

/-- A step that commits nothing. -/
theorem Funded.steady {s s' : Sys} (hj : Funded cfg s) (hdb : s'.db = s.db) (hrej : s.rejected ⊆ s'.rejected)
    (hrec : s.receipts ⊆ s'.receipts) (hcalls : ∀ c ∈ s'.calls, c ∈ s.calls ∨ CallSound cfg s' c) : Funded cfg s' :=
  hj.mono (r := fun _ => ⟨0, 0, "", false⟩) (hdb ▸ .refl) hrej hrec hcalls

/-- The execution of which an action records a refusal without a receipt. -/
def refusing? (s : Sys) : Action → Option Id
  | .answer i _ answer =>
    match s.calls[i]? with
    | some (.handed d) =>
      match markFor d answer with
      | some (.failed _ none) => some d.prepared.execution.executionId
      | _ => none
    | _ => none
  | .mark i _ =>
    match s.calls[i]? with
    | some (.deciding executionId _ _ (.failed _ none)) => some executionId
    | _ => none
  | _ => none

/-- A refusal without a receipt is recorded while the first attempt is the only one. -/
def RefusesFirst (s : Sys) (a : Action) : Prop :=
  ∀ executionId ∈ refusing? s a, ∀ e ∈ s.db.executions.rows, e.executionId = executionId →
    e.status ∈ [ExecutionStatus.signing, .broadcast, .unknown] → e.attemptCount = 1

instance (s : Sys) (a : Action) : Decidable (RefusesFirst s a) :=
  inferInstanceAs (Decidable (∀ executionId ∈ refusing? s a, ∀ e ∈ s.db.executions.rows,
    e.executionId = executionId → e.status ∈ [ExecutionStatus.signing, .broadcast, .unknown] → e.attemptCount = 1))

/-- The only attempt of an execution. -/
theorem Chained.only_attempt (hc : Chained cfg db) {e : ExecutionRow} (he : e ∈ db.executions)
    (hcount : e.attemptCount = 1) {a : AttemptRow} (ha : a ∈ db.attempts) (hk : a.executionId = e.executionId) :
    a.requestId = requestIdOf e.orderId 1 := by
  obtain ⟨x, hx, hid, -, hreq⟩ := hc.belongs a ha
  have hxe : x = e := Table.eq_of_key hx he (hid.trans hk)
  have hn := hc.attempt_range he ha hk
  have hone : a.attemptNumber = 1 := by omega
  rw [hreq, hxe, hone]

/-- What a failing mark may rest on. -/
def FailureSound (cfg : Config) (s : Sys) (executionId : Id) : Option WalletReceipt → Prop
  | some receipt => SawFailure cfg s executionId receipt
  | none => FirstRefused s executionId ∧ ∀ e ∈ s.db.executions, e.executionId = executionId →
      e.status ∈ actsOn (.failed "" none) → e.attemptCount = 1

theorem Funded.failed {s : Sys} {db' : DB} {calls : List Call} {o : OrderRow} {e : ExecutionRow} {a : AttemptRow}
    {tx : Option String} {code : String} {receipt : Option WalletReceipt} {now settled : Time} (hs : Sound cfg s.db)
    (hj : Funded cfg s) (h : Finished cfg s.db db' o e a (failedFinish tx code receipt) now settled)
    (hacts : e.status ∈ actsOn (.failed code receipt)) (htx : failureHash e receipt = .ok tx)
    (hsound : FailureSound cfg s e.executionId receipt) (hcalls : ∀ c ∈ calls, CallSound cfg s c) :
    Funded cfg { s with db := db', calls := calls } := by
  have hg : Grows cfg s { s with db := db', calls := calls } :=
    ⟨fun x hx => h.continues hx, fun _ h => h, fun _ h => h⟩
  refine ⟨fun c hc => (hcalls c hc).grows hg, ?_⟩
  intro x hx hf
  rcases h.mem_executions.mp hx with rfl | ⟨hx, hne⟩
  · cases receipt with
    | some receipt =>
      simp only [failureHash, bind_eq_ok, orRaise_eq_ok, Except.ok.injEq] at htx
      obtain ⟨value, hvalue, rfl⟩ := htx
      exact .inr ⟨receipt, value, SawFailure.grows hg hsound, hvalue, _, h.mem_attempts.mpr (.inl rfl),
        h.latest.2.1, rfl⟩
    | none =>
      left
      obtain ⟨⟨y, hy, hid, hrej⟩, hcount⟩ := hsound
      have hye : y = e := Table.eq_of_key hy h.mem hid
      subst hye
      have hcount := hcount y hy rfl hacts
      have hchain := hs.chained.finished h (.mark hacts (.failed htx))
      intro b hb hk
      rw [hchain.only_attempt hx hcount hb hk]
      exact hrej
  · rcases hj.kept x hx hf with hall | ⟨receipt, tx, hsaw, htx, b, hb, hk, hhash⟩
    · exact .inl (fun b hb hk => hall b ((h.other_attempts (hk ▸ hne)).mp hb) hk)
    · exact .inr ⟨receipt, tx, hsaw.grows hg, htx, b, (h.other_attempts (hk ▸ hne)).mpr hb, hk, hhash⟩

/-- Recording a mark, whatever it is. -/
theorem Funded.mark {s : Sys} {r : Readings} {i : Nat} {executionId subjectId : Id} {actor : String} {mark : Mark}
    {row : ExecutionRow} {db' : DB} (hs : Sound cfg s.db) (hj : Funded cfg s)
    (h : mark.apply cfg s.db r executionId subjectId actor = .ok (row, db'))
    (hsound : ∀ code receipt, mark = .failed code receipt → FailureSound cfg s executionId receipt) :
    Funded cfg { s with db := db', calls := s.calls.set i .done } := by
  have hdone : ∀ c ∈ s.calls.set i .done, CallSound cfg s c := fun c hc =>
    (callSound_set (x := .done) trivial c hc).elim (hj.calls c) id
  by_cases hfail : ∃ code receipt, mark = .failed code receipt
  · obtain ⟨code, receipt, rfl⟩ := hfail
    obtain ⟨e, he, hid, -, now, settled, ⟨-, rfl⟩ | ⟨hacts, -, o, a, f, hw, hf⟩⟩ := Mark.apply_ok hs.paired h
    · exact ⟨hdone, hj.kept⟩
    · cases hw with
      | failed htx => exact hj.failed hs hf hacts htx (hid ▸ hsound code receipt rfl) hdone
  · have heff : Effects cfg noFailure r s.db db' := by
      refine Mark.apply_effects hs.paired ?_ h
      intro e he hid hacts f hw
      cases hw with
      | failed => exact absurd ⟨_, _, rfl⟩ hfail
      | _ => nofun
    exact hj.mono heff (fun _ h => h) (fun _ h => h) (callSound_set trivial)

/-! ### Whole runs -/

theorem prepare_first {r : Readings} {orderId subjectId : Id} {actor : String} {attempt : Attempt} {p : Prepared}
    {policyVersion : Nat} {s' : Sys} (h : prepare cfg db r orderId subjectId actor attempt = .ok (p, s'.db)) :
    FirstRequest s' ⟨attempt.retry, p, policyVersion, actor⟩ := by
  intro hretry
  cases attempt with
  | further reason => simp [Attempt.retry] at hretry
  | first q =>
    obtain ⟨o, policy, asset, source, -, -, -, hstart⟩ := prepareFirst_ok h
    refine ⟨p.execution, (mem_inserted hstart.executions).mpr (.inr rfl), ?_⟩
    simp [Dispatch.request, hstart.requestId, ← hstart.pair.order]

/-- A refusal is recorded as a failure for the first attempt only. -/
theorem markFor_failed {d : Dispatch} {answer : SignerAnswer} {code : String} {receipt : Option WalletReceipt}
    (h : markFor d answer = some (.failed code receipt)) :
    receipt = none ∧ d.retry = false ∧ answer.rejects = true := by
  unfold markFor at h
  split at h
  · simp at h
  · split at h <;> simp at h
  · simp at h
  · split at h
    · simp at h
    · next hd =>
      simp only [Option.some.injEq, Mark.failed.injEq] at h
      exact ⟨h.2.symm, by simpa using hd, rfl⟩
  · simp at h
  · split at h
    · simp at h
    · next hd =>
      simp only [Option.some.injEq, Mark.failed.injEq] at h
      exact ⟨h.2.symm, by simpa using hd, rfl⟩
  · simp at h
  · simp at h

theorem FirstRequest.refused {s s' : Sys} {d : Dispatch} (h : FirstRequest s d) (hd : d.retry = false)
    (hdb : s'.db = s.db) (hrej : d.request ∈ s'.rejected) : FirstRefused s' d.prepared.execution.executionId := by
  obtain ⟨e, he, hreq⟩ := h hd
  have hid : d.prepared.execution.executionId = e.executionId := congrArg Prod.fst hreq
  rw [hreq] at hrej
  exact ⟨e, hdb ▸ he, hid.symm, hid ▸ hrej⟩

theorem decide_sound {s s' : Sys} {d : Dispatch} {answer : SignerAnswer} (h : FirstRequest s d) (hdb : s'.db = s.db)
    (hrej : answer.rejects = true → d.request ∈ s'.rejected) : CallSound cfg s' (d.decide answer) := by
  unfold Dispatch.decide
  split
  · next mark hmark =>
    cases mark with
    | failed code receipt =>
      obtain ⟨rfl, hd, hans⟩ := markFor_failed hmark
      exact h.refused hd hdb (hrej hans)
    | _ => trivial
  · trivial

theorem afterError_sound {s : Sys} (executionId subjectId : Id) (actor : String) (mark : Mark) (error : PyError) :
    CallSound cfg s (afterError executionId subjectId actor mark error) := by
  unfold afterError
  split <;> trivial

theorem receiptMark_sound {s : Sys} {executionId subjectId : Id} {actor : String} {receipt : WalletReceipt}
    (hmem : (executionId, receipt) ∈ s.receipts) (hst : receipt.status = 0 ∨ receipt.status = 1)
    (hconf : cfg.minConfirmations ≤ receipt.confirmations) :
    CallSound cfg s (.deciding executionId subjectId actor (receiptMark receipt)) := by
  unfold receiptMark
  split
  · trivial
  · next hne => exact ⟨hmem, hst.resolve_right hne, hconf⟩

theorem afterLookup_sound {s s' : Sys} {e : ExecutionRow} {actor : String} {retry : Option (String × Nat)}
    {clock : Time} {reply : String → ReceiptReply} {found : Option WalletReceipt × Option String}
    (h : lookupReceipt cfg s.db e reply = .ok found)
    (hrec : ∀ receipt, found.1 = some receipt → (e.executionId, receipt) ∈ s'.receipts) :
    CallSound cfg s' (afterLookup cfg e actor retry clock found) := by
  obtain ⟨receipt, error⟩ := found
  cases receipt with
  | some receipt =>
    obtain ⟨hashes, -, tx, -, hvalid⟩ := lookupReceipt_valid h rfl
    obtain ⟨hst, hconf⟩ := validReceipt_confirmations hvalid
    have hsound : ∀ subjectId, CallSound cfg s' (.deciding e.executionId subjectId actor (receiptMark receipt)) :=
      fun _ => receiptMark_sound (hrec receipt rfl) hst hconf
    cases retry with
    | none => exact hsound e.subjectId
    | some retry => exact hsound e.subjectId
  | none =>
    cases retry with
    | some retry => trivial
    | none =>
      cases error with
      | some error =>
        simp only [afterLookup, pollMark]
        split <;> trivial
      | none =>
        simp only [afterLookup, pollMark]
        split <;> trivial

theorem hear_grows (s : Sys) (d : Dispatch) (answer : SignerAnswer) : s.rejected ⊆ (s.hear d answer).rejected := by
  intro x hx
  simp only [Sys.hear]
  split
  · exact List.mem_append_left _ hx
  · exact hx

theorem Funded.hear {s : Sys} (hj : Funded cfg s) (d : Dispatch) (answer : SignerAnswer) :
    Funded cfg (s.hear d answer) :=
  hj.steady rfl (hear_grows s d answer) (fun _ h => h) (fun _ hc => .inl hc)

theorem hear_rejected {s : Sys} {d : Dispatch} {answer : SignerAnswer} (h : answer.rejects = true) :
    d.request ∈ (s.hear d answer).rejected := by
  simp [Sys.hear, h]

/-- The guard at a mark without a receipt. -/
theorem RefusesFirst.sound {s s' : Sys} {a : Action} {executionId : Id} (hg : RefusesFirst s a)
    (ha : refusing? s a = some executionId) (hdb : s'.db = s.db) (hfirst : FirstRefused s' executionId) :
    FailureSound cfg s' executionId none :=
  ⟨hfirst, fun e he hid hacts => hg executionId ha e (hdb ▸ he) hid hacts⟩

theorem reachable_funded {s : Sys} (h : (machine cfg).ReachableUnder RefusesFirst s) : Funded cfg s := by
  have hstart : Funded cfg .start := ⟨fun c hc => (by cases hc), fun e he => (by cases he)⟩
  refine (system_invariant hstart ?_ h).2
  intro s a s' hs hg hev heff hj
  cases hev with
  | idle => exact hj
  | store hrun =>
    refine hj.mono (StoreOp.run_effects hs.desk ?_ hrun) (fun _ h => h) (fun _ h => h) (fun c hc => .inl hc)
    exact Permit.all_admits _
  | called hopen =>
    refine hj.steady rfl (fun _ h => h) (fun _ h => h) (fun c hc => ?_)
    rcases List.mem_append.mp hc with hc | hc
    · exact .inl hc
    · rw [List.mem_singleton] at hc
      subst hc
      cases hopen <;> exact .inr trivial
  | ended => exact hj.steady rfl (fun _ h => h) (fun _ h => h) (callSound_set trivial)
  | prepared hi hprep =>
    exact hj.mono (.one (prepare_effects hprep)) (fun _ h => h) (fun _ h => h) (callSound_set (prepare_first hprep))
  | handed hi =>
    have hfirst := hj.calls _ (List.mem_of_getElem? hi)
    exact hj.steady rfl (fun _ h => h) (fun _ h => h) (callSound_set hfirst)
  | @withheld _ i d answer hi hans =>
    have hfirst := hj.calls _ (List.mem_of_getElem? hi)
    exact hj.steady rfl (hear_grows s d answer) (fun _ h => h)
      (callSound_set (decide_sound hfirst rfl (fun hr => hear_rejected (s := s) hr)))
  | @lost i r d answer hi hmark =>
    exact (hj.hear d answer).steady rfl (fun _ h => h) (fun _ h => h) (callSound_set trivial)
  | @answered i r d answer mark row db' hi hmark happly =>
    refine Funded.mark (s := s.hear d answer) hs (hj.hear d answer) happly ?_
    rintro code receipt rfl
    obtain ⟨rfl, hd, hans⟩ := markFor_failed hmark
    have hfirst : FirstRequest s d := hj.calls _ (List.mem_of_getElem? hi)
    exact hg.sound (by simp [refusing?, hi, hmark]) rfl (hfirst.refused hd rfl (hear_rejected hans))
  | @unanswered i r d answer mark error hi hmark happly =>
    exact (hj.hear d answer).steady rfl (fun _ h => h) (fun _ h => h) (callSound_set (afterError_sound ..))
  | @looked i clock reply e actor retry found hi hlook =>
    refine hj.steady rfl (fun _ h => h) (fun _ h => List.mem_append_left _ h)
      (callSound_set (afterLookup_sound hlook ?_))
    intro receipt hr
    simp [hr]
  | @marked i r executionId subjectId actor mark row db' hi happly =>
    refine hj.mark hs happly ?_
    rintro code receipt rfl
    have hcall := hj.calls _ (List.mem_of_getElem? hi)
    cases receipt with
    | some receipt => exact hcall
    | none => exact hg.sound (by simp [refusing?, hi]) rfl hcall
  | unmarked =>
    exact hj.steady rfl (fun _ h => h) (fun _ h => h) (callSound_set (afterError_sound ..))
  | crashed => exact hj.steady rfl (fun _ h => h) (fun _ h => h) (fun c hc => by cases hc)

/-- An order with an attempt that was not refused fails, and is refunded, on the word of the chain only. -/
def FundsKept (cfg : Config) (s : Sys) : Prop :=
  ∀ o ∈ s.db.orders, o.status = .failed ∨ o.status = .refunded →
    ∀ e ∈ s.db.executions, e.orderId = o.orderId →
      ∀ a ∈ s.db.attempts, a.executionId = e.executionId → (e.executionId, a.requestId) ∉ s.rejected →
        ProvenFailed cfg s e

/-- Funds that may have moved are not released, in every run that records refusals without a receipt while
the first attempt is the only one. -/
theorem funds_kept_of_first_refusals {s : Sys} (h : (machine cfg).ReachableUnder RefusesFirst s) : FundsKept cfg s := by
  have hs := reachable_sound h.reachable
  intro o ho hstatus e he horder a ha hk hnot
  have hfailed : e.status = .failed := by
    rcases (hs.paired.matches ho he horder.symm).status with heq | ⟨-, hf⟩
    · rcases hstatus with hst | hst
      · exact order_injective (y := .failed) (heq.symm.trans hst)
      · exact absurd (heq.symm.trans hst) (order_ne _).2
    · exact hf
  rcases (reachable_funded h).kept e he hfailed with hall | hproven
  · exact absurd (hall a ha hk) hnot
  · exact hproven

/-- The chain reports that the broadcast transaction failed, and the order is refunded. -/
def sampleFailure : List Action := sampleAttempt ++
  [.answer 0 (readingsAt 2100 "k") (.returned (some ⟨sampleHash 7, 1, 0, "2100"⟩)),
    .poll "wallet_exec_j2" "subject-1" "operator",
    .lookup 1 2200 (fun tx => .receipt (sampleReceipt tx 0)),
    .mark 1 (readingsAt 2300 "l"),
    .store (readingsAt 2400 "m") (.refundOrder "payorder_i2" "subject-1" "operator" "failed")]

theorem funds_kept_after_failed_receipt :
    (sampleState sampleFailure).db.orders.rows.map OrderRow.status = [.refunded] ∧
      FundsKept .sample (sampleState sampleFailure) :=
  ⟨by decide +kernel, funds_kept_of_first_refusals (sampleState_reachableUnder (by decide +kernel))⟩

/-- A restart fences the first attempt, the retry is broadcast, and then the refusal of the first attempt
arrives. -/
def sampleLateRefusal : List Action := sampleAttempt ++
  [.store (readingsAt 2100 "k") (.recoverExecution "wallet_exec_j2" "subject-1" "system"),
    .retry "payorder_i2" "subject-1" "operator" "restarted",
    .lookup 1 2200 (fun _ => .pending),
    .prepare 1 (readingsAt 2300 "l"),
    .dispatch 1 ⟨2400, 2400, "", true⟩,
    .answer 1 (readingsAt 2500 "m") (.returned (some ⟨sampleHash 7, 1, 0, "2500"⟩)),
    .answer 0 (readingsAt 2600 "n") (.signerError "signer_rejected")]

/-- The late refusal fails an order whose retry is on the chain. -/
theorem funds_released_by_late_refusal :
    ¬∀ (cfg : Config) (s : Sys), (machine cfg).Reachable s → FundsKept cfg s := by
  intro h
  have hfound : ∃ o ∈ (sampleState sampleLateRefusal).db.orders.rows, o.status = .failed ∧
      ∃ e ∈ (sampleState sampleLateRefusal).db.executions.rows, e.orderId = o.orderId ∧
        ∃ a ∈ (sampleState sampleLateRefusal).db.attempts.rows, a.executionId = e.executionId ∧
          (e.executionId, a.requestId) ∉ (sampleState sampleLateRefusal).rejected ∧
          (sampleState sampleLateRefusal).receipts = [] := by
    decide +kernel
  obtain ⟨o, ho, hstatus, e, he, horder, a, ha, hk, hnot, hnone⟩ := hfound
  obtain ⟨receipt, tx, ⟨hmem, -⟩, -⟩ :=
    h .sample _ (sampleState_reachable sampleLateRefusal) o ho (.inl hstatus) e he horder a ha hk hnot
  rw [hnone] at hmem
  cases hmem

end Noyra.Wallet.Proofs
