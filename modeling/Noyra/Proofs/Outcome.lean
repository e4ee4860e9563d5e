import Noyra.Proofs.Reorganization

/-!
# What the signer says is recorded

Once an attempt is prepared, the mark of the signer's answer commits unless the reported hash belongs to
another execution: the unique index then refuses the row, and the attempt stays in `signing`.
-/

namespace Noyra.Wallet.Proofs
open Noyra.Lib

variable {cfg : Config} {db db' : DB}

/-- No other execution of the subject on the network carries the hash. -/
def HashFree (db : DB) (e : ExecutionRow) (tx : String) : Prop :=
  ∀ x ∈ db.executions, x.executionId ≠ e.executionId → x.subjectId = e.subjectId → x.networkId = e.networkId →
    x.txHash ≠ some tx

theorem Paired.own_hash_free (hp : Paired cfg db) {e : ExecutionRow} (he : e ∈ db.executions) {tx : String}
    (htx : e.txHash = some tx) : HashFree db e tx := by
  intro x hx hne hsub hnet hxtx
  have hclear := hp.separate e he x hx hne
  simp [DB.indexConflict, hsub, hnet, hxtx, htx] at hclear

/-- The index refuses a finish exactly when its hash belongs to another execution. -/
theorem Paired.clear_iff (hp : Paired cfg db) {e : ExecutionRow} (he : e ∈ db.executions) (hs : e.status = .signing)
    (f : Finish) (now : Time) : Clear db (finishedRow cfg e f now) ↔ ∀ tx ∈ f.txHash, HashFree db e tx := by
  constructor
  · intro hclear tx htx x hx hne hsub hnet hxtx
    have hno := hclear x hx hne
    have htx' : (finishedRow cfg e f now).txHash = some tx := htx
    simp [DB.indexConflict, finishedRow, hsub, hnet, hxtx] at hno
    exact hno.2 htx'.symm
  · intro hfree x hx hne
    have hold := hp.separate e he x hx hne
    have howns : e.ownsNonce = true := by simp [ExecutionRow.ownsNonce, hs]
    by_contra hconf
    rw [Bool.not_eq_false] at hconf
    simp only [DB.indexConflict, Bool.and_eq_true, Bool.or_eq_true, beq_iff_eq] at hconf
    obtain ⟨⟨hsub, hnet⟩, ⟨⟨⟨hsrc, hnonce⟩, hxo⟩, -⟩ | ⟨hsome, htx⟩⟩ := hconf
    · have hsub' : x.subjectId = e.subjectId := hsub
      have hnet' : x.networkId = e.networkId := hnet
      have hsrc' : x.sourceAddress = e.sourceAddress := hsrc
      have hnonce' : x.nonce = e.nonce := hnonce
      simp [DB.indexConflict, hsub', hnet', hsrc', hnonce', hxo, howns] at hold
    · obtain ⟨tx, hxtx⟩ := Option.isSome_iff_exists.mp hsome
      exact hfree tx (htx.symm.trans hxtx) x hx hne hsub hnet hxtx

/-- Statuses an open attempt may end in. -/
def endStatus : List ExecutionStatus := [.broadcast, .unknown, .failed]

/-- The writes of a marking transaction succeed on an open attempt. -/
theorem finish_success {r : Readings} {o : OrderRow} {e : ExecutionRow} {f : Finish} {now : Time} {db₀ : DB}
    (hs : Sound cfg db) (h₀ : LogOnly db db₀) (ho : db.orders.find? o.orderId = some o) (howns : o.orderId = e.orderId)
    (he : e ∈ db.executions) (hst : e.status = .signing) (hf : f.status ∈ endStatus)
    (hclear : Clear db (finishedRow cfg e f now)) (actor reason : String) :
    ∃ db₁, transitionOrder cfg db₀ r o f.status.order actor reason = .ok db₁ ∧
      ∃ db₂, db₁.updateExecution (finishedRow cfg e f now) = .ok db₂ ∧
        ∃ db₃, finishAttempt cfg db₂ e f.status f.txHash f.errorCode now = .ok db₃ := by
  have hom := (Table.find?_eq_some.mp ho).1
  have host : o.status = .signing := (hs.paired.status_iff .signing hom he howns (by decide)).mpr hst
  have hallowed : f.status.order ∈ orderTransitions o.status ∧ f.status ∈ executionTransitions .signing ∧
      f.status ∈ attemptTransitions .signing := by
    rw [host]
    revert hf
    cases f.status <;> simp [endStatus, orderTransitions, executionTransitions, attemptTransitions,
      ExecutionStatus.order]
  obtain ⟨db₁, h₁⟩ : ∃ db₁, transitionOrder cfg db₀ r o f.status.order actor reason = .ok db₁ :=
    (transitionOrder_eq_ok (h₀.orders ▸ ho)).mpr hallowed.1
  obtain ⟨-, -, hf₁⟩ := transitionOrder_ok h₁
  obtain ⟨hx₁, ha₁⟩ : SameExecutions db db₁ := h₀.executions.trans hf₁.executions
  have hfind : db₁.executions.find? (finishedRow cfg e f now).executionId = some e := by
    rw [hx₁]
    exact Table.find?_key he
  obtain ⟨db₂, h₂⟩ := updateExecution_success hfind (by rw [hst]; exact hallowed.2.1)
    (by simpa [Clear, hx₁] using hclear)
  obtain ⟨-, -, -, hf₂⟩ := updateExecution_ok hfind h₂
  have ha₂ : db₂.attempts = db.attempts := hf₂.attempts.trans ha₁
  obtain ⟨a, hlatest⟩ := hs.chained.latest_exists he
  have hast : a.status = .signing := (hs.chained.latest e he a hlatest.1 hlatest.2.1 hlatest.2.2).trans hst
  refine ⟨db₁, h₁, db₂, h₂, finishAttempt_success (a := a) ?_ ?_ (by rw [hast]; exact hallowed.2.2)⟩
  · rw [Latest, ha₂]
    exact hlatest
  · rw [ha₂]
    intro x hx hxe hxn
    exact hs.chained.attempt_unique he hx hlatest.1 hxe hlatest.2.1 (hxn.trans hlatest.2.2.symm)

section
variable {r : Readings} {e : ExecutionRow} {actor : String}

/-- The order of an execution, as the marking transactions read it. -/
theorem Paired.orderRow_of (hp : Paired cfg db) (he : e ∈ db.executions) :
    ∃ o, db.orderRow e.orderId e.subjectId = .ok o ∧ db.orders.find? o.orderId = some o ∧ o.orderId = e.orderId := by
  obtain ⟨o, ho, hm⟩ := hp.order_of e he
  have hfind : db.orders.find? o.orderId = some o := Table.find?_key ho
  exact ⟨o, orderRow_eq_ok.mpr ⟨hm.order ▸ hfind, hm.subject⟩, hfind, hm.order⟩

theorem markUnknown_success {tx : Option String} {code : String} (hs : Sound cfg db) (he : e ∈ db.executions)
    (hst : e.status = .signing) (hfree : ∀ value ∈ (unknownHash e tx code).1, HashFree db e value) :
    ∃ row db', markUnknown cfg db r e.executionId e.subjectId actor tx code = .ok (row, db') := by
  obtain ⟨o, horow, ho, howns⟩ := hs.paired.orderRow_of he
  have host : o.status = .signing :=
    (hs.paired.status_iff .signing (Table.find?_eq_some.mp ho).1 he howns (by decide)).mpr hst
  have hclear := (hs.paired.clear_iff he hst (unknownFinish e tx code) (r 3).utc).mpr hfree
  obtain ⟨db₁, h₁, db₂, h₂, db₃, h₃⟩ := finish_success (r := r.drop 1) (f := unknownFinish e tx code) hs
    (audit_logOnly db (r 0) e.subjectId "wallet_payment_unknown" actor (.obj [("order_id", .str e.orderId),
      ("tx_hash", .opt .str (unknownHash e tx code).1), ("error_code", .str (unknownHash e tx code).2)]))
    ho howns he hst (by simp [endStatus, unknownFinish]) hclear actor (unknownHash e tx code).2
  have hopen : o.status ∈ [OrderStatus.signing, .broadcast] := by simp [host]
  apply Exists.intro
  refine ⟨db₃, bind_eq_ok.mpr ⟨e, executionRow_of_mem he, bind_eq_ok.mpr ⟨o, horow, ?_⟩⟩⟩
  rw [if_neg (not_not.mpr hopen)]
  refine bind_eq_ok.mpr ⟨db₁, h₁, bind_eq_ok.mpr ⟨db₂, (congrArg db₁.updateExecution ?_).trans h₂,
    bind_eq_ok.mpr ⟨db₃, h₃, rfl⟩⟩⟩
  obtain ⟨-, hreceipt⟩ := hs.paired.quiet e he (.inl hst)
  simp only [finishedRow, unknownFinish, hreceipt]
  rfl

theorem markFailed_success {code : String} (hs : Sound cfg db) (he : e ∈ db.executions) (hst : e.status = .signing) :
    ∃ row db', markFailed cfg db r e.executionId e.subjectId actor code none = .ok (row, db') := by
  obtain ⟨o, horow, ho, howns⟩ := hs.paired.orderRow_of he
  have host : o.status = .signing :=
    (hs.paired.status_iff .signing (Table.find?_eq_some.mp ho).1 he howns (by decide)).mpr hst
  have hclear := (hs.paired.clear_iff he hst (failedFinish e.txHash code none) (r 3).utc).mpr
    (fun tx htx => hs.paired.own_hash_free he htx)
  obtain ⟨db₁, h₁, db₂, h₂, db₃, h₃⟩ := finish_success (r := r.drop 1) (f := failedFinish e.txHash code none) hs
    (audit_logOnly db (r 0) e.subjectId "wallet_payment_failed" actor (.obj [("order_id", .str e.orderId),
      ("error_code", .str code)])) ho howns he hst (by simp [endStatus, failedFinish]) hclear actor code
  have hopen : o.status ∈ [OrderStatus.signing, .broadcast, .unknown] := by simp [host]
  apply Exists.intro
  refine ⟨db₃, bind_eq_ok.mpr ⟨e, executionRow_of_mem he, bind_eq_ok.mpr ⟨o, horow, ?_⟩⟩⟩
  rw [if_neg (not_not.mpr hopen)]
  exact bind_eq_ok.mpr ⟨e.txHash, rfl, bind_eq_ok.mpr ⟨db₁, h₁, bind_eq_ok.mpr ⟨db₂, h₂,
    bind_eq_ok.mpr ⟨db₃, h₃, rfl⟩⟩⟩⟩

theorem markBroadcast_success {result : WalletBroadcastResult} {tx : String} (hs : Sound cfg db)
    (he : e ∈ db.executions) (hst : e.status = .signing) (hchain : result.chainId = e.chainId)
    (hnonce : result.nonce = e.nonce) (htx : txHash result.txHash = some tx) (hfree : HashFree db e tx) :
    ∃ row db', markBroadcast cfg db r e.executionId e.subjectId actor result = .ok (row, db') := by
  obtain ⟨o, horow, ho, howns⟩ := hs.paired.orderRow_of he
  have host : o.status = .signing :=
    (hs.paired.status_iff .signing (Table.find?_eq_some.mp ho).1 he howns (by decide)).mpr hst
  have hclear := (hs.paired.clear_iff he hst (broadcastFinish tx) (r 3).utc).mpr
    (fun x hx => Option.some.inj (show some tx = some x from hx) ▸ hfree)
  obtain ⟨db₁, h₁, db₂, h₂, db₃, h₃⟩ := finish_success (r := r.drop 1) (f := broadcastFinish tx) hs
    (audit_logOnly db (r 0) e.subjectId "wallet_payment_broadcast" actor (.obj [("order_id", .str e.orderId),
      ("tx_hash", .str tx), ("nonce", .int result.nonce)])) ho howns he hst (by simp [endStatus, broadcastFinish])
    hclear actor "signer broadcast accepted"
  have hsame : ¬(result.chainId ≠ e.chainId ∨ result.nonce ≠ e.nonce) := by simp [hchain, hnonce]
  have hunused : ¬∃ x ∈ db.executions.rows, x.subjectId = e.subjectId ∧ x.networkId = e.networkId ∧
      x.txHash = some tx ∧ x.executionId ≠ e.executionId := by
    rintro ⟨x, hx, hsub, hnet, hxtx, hne⟩
    exact hfree x hx hne hsub hnet hxtx
  apply Exists.intro
  refine ⟨db₃, bind_eq_ok.mpr ⟨e, executionRow_of_mem he, bind_eq_ok.mpr ⟨o, horow, ?_⟩⟩⟩
  rw [if_neg (not_not.mpr host)]
  refine bind_eq_ok.mpr ⟨tx, orRaise_eq_ok.mpr htx, bind_eq_ok.mpr ⟨(), raiseIf_neg hsame, bind_eq_ok.mpr ⟨(),
    raiseIf_neg hunused, bind_eq_ok.mpr ⟨db₁, h₁, bind_eq_ok.mpr ⟨db₂, (congrArg db₁.updateExecution ?_).trans h₂,
    bind_eq_ok.mpr ⟨db₃, h₃, rfl⟩⟩⟩⟩⟩⟩
  obtain ⟨herror, hreceipt⟩ := hs.paired.quiet e he (.inl hst)
  simp only [finishedRow, broadcastFinish, herror, hreceipt]

end

/-! ### The mark of an answer -/

/-- The order, its execution and the latest attempt have left `signing` together. -/
def Recorded (db : DB) (orderId : Id) : Prop :=
  ∃ x ∈ db.executions, x.orderId = orderId ∧ x.status ∈ endStatus ∧
    (∃ o ∈ db.orders, o.orderId = orderId ∧ o.status = x.status.order) ∧
    ∃ a, Latest db x a ∧ a.status = x.status

theorem not_recorded_of_signing {e : ExecutionRow} (hp : Paired cfg db) (he : e ∈ db.executions)
    (hst : e.status = .signing) : ¬Recorded db e.orderId := by
  rintro ⟨x, hx, hid, hend, -⟩
  have hxe : x = e := hp.one_execution e he x hx hid
  simp [hxe, hst, endStatus] at hend

theorem Finished.recorded {o : OrderRow} {e : ExecutionRow} {a : AttemptRow} {f : Finish} {now settled : Time}
    (h : Finished cfg db db' o e a f now settled) (hf : f.status ∈ endStatus) : Recorded db' e.orderId :=
  ⟨finishedRow cfg e f now, h.mem_executions.mpr (.inl rfl), rfl, hf,
    ⟨_, h.moved.mem_orders.mpr (.inl rfl), h.owns, rfl⟩,
    finishedAttempt cfg a f.status f.txHash f.errorCode now,
    ⟨h.mem_attempts.mpr (.inl rfl), h.latest.2.1, h.latest.2.2⟩, rfl⟩

/-- A mark that commits on an open attempt ends it, and its hash was free. -/
theorem mark_recorded {r : Readings} {e row : ExecutionRow} {actor : String} {mark : Mark} (hs : Sound cfg db)
    (he : e ∈ db.executions) (hst : e.status = .signing) (hacts : .signing ∈ actsOn mark)
    (h : mark.apply cfg db r e.executionId e.subjectId actor = .ok (row, db')) :
    Recorded db' e.orderId ∧ ∃ f, Writes e mark f ∧ ∀ tx ∈ f.txHash, HashFree db e tx := by
  obtain ⟨x, hx, hid, -, now, settled, ⟨hnot, -⟩ | ⟨-, -, o, a, f, hw, hf⟩⟩ := Mark.apply_ok hs.paired h
  · have hxe : x = e := Table.eq_of_key hx he hid
    exact absurd hacts (hst ▸ hxe ▸ hnot)
  · have hxe : x = e := Table.eq_of_key hx he hid
    subst hxe
    refine ⟨hf.recorded ?_, f, hw, (hs.paired.clear_iff he hst f now).mp hf.clear⟩
    cases hw with
    | confirmed => simp [actsOn] at hacts
    | broadcast => simp [broadcastFinish, endStatus]
    | unknown => simp [unknownFinish, endStatus]
    | failed => simp [failedFinish, endStatus]

section
variable {r : Readings} {d : Dispatch} {ends : SignerAnswer}

theorem recordAnswer_of_ok {mark : Mark} {row : ExecutionRow} (hmark : markFor d ends = some mark)
    (h : mark.apply cfg db r d.prepared.execution.executionId d.prepared.execution.subjectId d.actor = .ok (row, db')) :
    (recordAnswer cfg db r d ends).2 = db' := by
  simp only [recordAnswer, hmark, h]

/-- Nothing is written when neither the mark nor the mark that replaces a refused broadcast commits. -/
theorem recordAnswer_of_refused
    (h : ∀ mark, markFor d ends = some mark → (∀ row db', mark.apply cfg db r d.prepared.execution.executionId
        d.prepared.execution.subjectId d.actor ≠ .ok (row, db')) ∧
      ∀ result, mark = .broadcast result → ∀ row db', (Mark.unknown (some result.txHash)
        "signer_response_invalid").apply cfg db (r.drop 4) d.prepared.execution.executionId
        d.prepared.execution.subjectId d.actor ≠ .ok (row, db')) :
    (recordAnswer cfg db r d ends).2 = db := by
  unfold recordAnswer
  cases hmark : markFor d ends with
  | none => rfl
  | some mark =>
    obtain ⟨hrefused, hunknown⟩ := h mark hmark
    cases happly : mark.apply cfg db r d.prepared.execution.executionId d.prepared.execution.subjectId d.actor with
    | ok p => exact absurd happly (hrefused p.1 p.2)
    | error error =>
      simp only [happly]
      split
      · next heq => cases heq
      · next result _ _ =>
        split
        · next row' db' hok => exact absurd hok (hunknown _ rfl row' db')
        · rfl
      · rfl

theorem unknown_free {e : ExecutionRow} {tx : Option String} {code : String} (hs : Sound cfg db)
    (he : e ∈ db.executions) (h : ∀ value ∈ tx, ∀ t, txHash value = some t → HashFree db e t) :
    ∀ value ∈ (unknownHash e tx code).1, HashFree db e value := by
  intro value hvalue
  unfold unknownHash at hvalue
  split at hvalue
  · exact hs.paired.own_hash_free he hvalue
  · next v =>
    split at hvalue
    · next t ht =>
      obtain rfl : t = value := by simpa using hvalue
      exact h v rfl t ht
    · exact hs.paired.own_hash_free he hvalue

/-- The own hash of an execution passes. -/
theorem own_free {e : ExecutionRow} (hs : Sound cfg db) (he : e ∈ db.executions) :
    ∀ value ∈ e.txHash, ∀ t, txHash value = some t → HashFree db e t := by
  intro value hvalue t ht
  rw [hs.chained.execution_hash he value hvalue, Option.some.injEq] at ht
  exact hs.paired.own_hash_free he (ht ▸ hvalue)

/-- The mark of every answer but a process exit acts on an open attempt. -/
theorem markFor_acts (hbase : ends ≠ .baseException) :
    ∃ mark, markFor d ends = some mark ∧ .signing ∈ actsOn mark := by
  cases ends with
  | baseException => exact absurd rfl hbase
  | returned result =>
    cases result with
    | none => exact ⟨_, rfl, by simp [actsOn]⟩
    | some result =>
      simp only [markFor]
      split <;> exact ⟨_, rfl, by simp [actsOn]⟩
  | operationInvalidated => exact ⟨_, rfl, by simp [actsOn]⟩
  | broadcastUnknown => exact ⟨_, rfl, by simp [actsOn]⟩
  | exception => exact ⟨_, rfl, by simp [actsOn]⟩
  | dispatchDenied =>
    simp only [markFor]
    split <;> exact ⟨_, rfl, by simp [actsOn]⟩
  | signerError =>
    simp only [markFor]
    split <;> exact ⟨_, rfl, by simp [actsOn]⟩

variable {e : ExecutionRow}

/-- Every answer whose hash is free has a mark that commits. -/
theorem markFor_succeeds (hs : Sound cfg db) (he : e ∈ db.executions) (hd : d.prepared.execution = e)
    (hst : e.status = .signing) (hchain : d.prepared.transfer.chainId = e.chainId)
    (hnonce : d.prepared.transfer.nonce = e.nonce) (hfree : ∀ tx ∈ reportedHash d ends, HashFree db e tx)
    {mark : Mark} (hmark : markFor d ends = some mark) :
    ∃ row db', mark.apply cfg db r e.executionId e.subjectId d.actor = .ok (row, db') := by
  have hnone : ∀ code, ∃ row db', markUnknown cfg db r e.executionId e.subjectId d.actor none code = .ok (row, db') :=
    fun code => markUnknown_success hs he hst (unknown_free hs he nofun)
  have hown : ∀ code, ∃ row db', markUnknown cfg db r e.executionId e.subjectId d.actor e.txHash code =
      .ok (row, db') := fun code => markUnknown_success hs he hst (unknown_free hs he (own_free hs he))
  have hfail : ∀ code, ∃ row db', markFailed cfg db r e.executionId e.subjectId d.actor code none = .ok (row, db') :=
    fun code => markFailed_success hs he hst
  subst hd
  cases ends with
  | baseException => simp [markFor] at hmark
  | exception =>
    cases hmark
    exact hnone _
  | returned result =>
    cases result with
    | none =>
      cases hmark
      exact hnone _
    | some result =>
      simp only [markFor] at hmark
      split at hmark
      · next hvalid =>
        cases hmark
        have hv := hvalid
        simp only [validBroadcastResult, Bool.and_eq_true, decide_eq_true_eq] at hv
        have htx : txHash result.txHash = some (lower result.txHash) := by simp [txHash, hv.1.1.2]
        refine markBroadcast_success hs he hst ?_ ?_ htx (hfree _ ?_)
        · rw [hv.1.1.1.1, hchain]
        · rw [hv.1.1.1.2, hnonce]
        · simp [reportedHash, hvalid, htx]
      · cases hmark
        exact hnone _
  | operationInvalidated =>
    cases hmark
    simp only [Mark.apply]
    split
    · exact hown _
    · exact hnone _
  | dispatchDenied =>
    simp only [markFor] at hmark
    split at hmark
    · cases hmark
      exact hown _
    · cases hmark
      exact hfail _
  | signerError code =>
    simp only [markFor] at hmark
    split at hmark
    · cases hmark
      exact hown _
    · cases hmark
      exact hfail _
  | broadcastUnknown tx =>
    cases hmark
    refine markUnknown_success hs he hst (unknown_free hs he ?_)
    intro value hvalue t ht
    rw [Option.mem_def] at hvalue
    subst hvalue
    exact hfree t ht

/-- An answer whose hash belongs to another execution has no mark that commits. -/
theorem markFor_refused (hs : Sound cfg db) (he : e ∈ db.executions) (hst : e.status = .signing) {tx : String}
    (htx : reportedHash d ends = some tx) (htaken : ¬HashFree db e tx)
    {mark : Mark} (hmark : markFor d ends = some mark) :
    (∀ row db', mark.apply cfg db r e.executionId e.subjectId d.actor ≠ .ok (row, db')) ∧
      ∀ result, mark = .broadcast result → ∀ row db', (Mark.unknown (some result.txHash)
        "signer_response_invalid").apply cfg db (r.drop 4) e.executionId e.subjectId d.actor ≠ .ok (row, db') := by
  have hunknown : ∀ value code r row db', txHash value = some tx →
      (Mark.unknown (some value) code).apply cfg db r e.executionId e.subjectId d.actor ≠ .ok (row, db') := by
    intro value code r row db' hvalue hok
    obtain ⟨-, f, hw, hfree⟩ := mark_recorded hs he hst (by simp [actsOn]) hok
    cases hw
    exact htaken (hfree tx (by simp [unknownFinish, unknownHash, hvalue]))
  cases ends with
  | returned result =>
    cases result with
    | none => simp [reportedHash] at htx
    | some result =>
      simp only [reportedHash] at htx
      split at htx
      · next hvalid =>
        simp only [markFor, hvalid, if_true, Option.some.injEq] at hmark
        subst hmark
        refine ⟨?_, ?_⟩
        · intro row db' hok
          obtain ⟨-, f, hw, hfree⟩ := mark_recorded hs he hst (by simp [actsOn]) hok
          cases hw with
          | broadcast hvalue =>
            rw [htx, Option.some.injEq] at hvalue
            exact htaken (hfree tx (by simp [broadcastFinish, hvalue]))
        · intro result' heq row db'
          cases heq
          exact hunknown _ _ _ _ _ htx
      · cases htx
  | broadcastUnknown value =>
    cases value with
    | none => simp [reportedHash] at htx
    | some value =>
      cases hmark
      exact ⟨fun row db' => hunknown _ _ _ _ _ htx, fun _ h => by cases h⟩
  | _ => simp [reportedHash] at htx

/-- The end of a call, given how `_sign_and_broadcast` has ended. -/
theorem recordAnswer_recorded_iff (hs : Sound cfg db) (he : d.prepared.execution ∈ db.executions)
    (hst : d.prepared.execution.status = .signing)
    (hchain : d.prepared.transfer.chainId = d.prepared.execution.chainId)
    (hnonce : d.prepared.transfer.nonce = d.prepared.execution.nonce) :
    Recorded (recordAnswer cfg db r d ends).2 d.prepared.execution.orderId ↔
      ends ≠ .baseException ∧ ∀ tx ∈ reportedHash d ends, HashFree db d.prepared.execution tx := by
  constructor
  · intro hrec
    have hstuck : (recordAnswer cfg db r d ends).2 ≠ db := by
      intro heq
      rw [heq] at hrec
      exact not_recorded_of_signing hs.paired he hst hrec
    refine ⟨?_, ?_⟩
    · rintro rfl
      exact hstuck rfl
    · intro tx htx
      by_contra htaken
      exact hstuck (recordAnswer_of_refused (fun mark hmark => markFor_refused hs he hst htx htaken hmark))
  · rintro ⟨hbase, hfree⟩
    obtain ⟨mark, hmark, hacts⟩ := markFor_acts (d := d) hbase
    obtain ⟨row, db', hok⟩ := markFor_succeeds (r := r) hs he rfl hst hchain hnonce hfree hmark
    rw [recordAnswer_of_ok hmark hok]
    exact (mark_recorded hs he hst hacts hok).1

end

/-! ### Whole calls -/

theorem buildTransfer_fixed {i : WalletTransferIntent} {t : WalletUnsignedTransfer} (h : buildTransfer i = .ok t) :
    t.chainId = i.chainId ∧ t.nonce = i.nonce := by
  simp only [buildTransfer, bind_eq_ok] at h
  obtain ⟨v, hv, h⟩ := h
  simp only [WalletTransferIntent.validate, bind_eq_ok, Except.ok.injEq] at hv
  obtain ⟨-, -, contract, -, source, -, recipient, -, -, -, -, -, -, -, -, -, -, -, -, -, -, -, -, -, -, -, rfl⟩ := hv
  simp only [EVMTransferAdapter.build, bind_eq_ok, Except.ok.injEq] at h
  obtain ⟨-, -, rfl⟩ := h
  split <;> exact ⟨rfl, rfl⟩

/-- What `_prepare` has committed. -/
theorem prepare_opens {r : Readings} {orderId subjectId : Id} {actor : String} {attempt : Attempt} {p : Prepared}
    (h : prepare cfg db r orderId subjectId actor attempt = .ok (p, db')) :
    p.execution ∈ db'.executions ∧ p.execution.status = .signing ∧ p.execution.orderId = orderId ∧
      buildTransfer p.execution.intent = .ok p.transfer := by
  cases attempt with
  | first q =>
    obtain ⟨o, policy, asset, source, ho, -, -, hstart⟩ := prepareFirst_ok h
    exact ⟨(mem_inserted hstart.executions).mpr (.inr rfl), hstart.opening.1, hstart.pair.order.symm.trans ho,
      hstart.envelope⟩
  | further reason =>
    obtain ⟨o, e, policy, source, ho, -, -, hstart⟩ := prepareRetry_ok h
    have he := (Table.find?_eq_some.mp hstart.found).1
    have hid : p.execution.executionId = e.executionId := by rw [hstart.prepared]; rfl
    refine ⟨(mem_replaced hstart.executions ⟨e, he, hid.symm⟩).mpr (.inl rfl), ?_, ?_, ?_⟩
    · rw [hstart.prepared]; rfl
    · rw [hstart.prepared]; exact hstart.owns.symm.trans ho
    · rw [hstart.prepared]; exact hstart.envelope

/-- The dispatch gate refuses, or the signer ends without leaving the process and reports no hash of another
execution. -/
def Recordable (cfg : Config) (db : DB) (r : Reading) (d : Dispatch) (answer : SignerAnswer) : Prop :=
  authorize cfg db r d = .ok () →
    answer ≠ .baseException ∧ ∀ tx ∈ reportedHash d answer, HashFree db d.prepared.execution tx

theorem attemptOrder_recorded_iff {s : Sys} (hs : Sound cfg s.db) {r : Readings} {orderId subjectId : Id}
    {actor : String} {attempt : Attempt} {p : Prepared} {db' : DB} (policyVersion : Nat) (answer : SignerAnswer)
    (h : prepare cfg s.db r orderId subjectId actor attempt = .ok (p, db')) :
    Recorded (attemptOrder cfg s.db r orderId subjectId actor policyVersion attempt answer).2 orderId ↔
      Recordable cfg db' (r 7) ⟨attempt.retry, p, policyVersion, actor⟩ answer := by
  have heff : Effect cfg .all r s.db db' := prepare_effects h
  have hs' : Sound cfg db' := hs.effect heff
  obtain ⟨he, hst, horder, hbuild⟩ := prepare_opens h
  obtain ⟨hchain, hnonce⟩ := buildTransfer_fixed hbuild
  have hiff : ∀ ends : SignerAnswer,
      Recorded (recordAnswer cfg db' (r.drop 8) ⟨attempt.retry, p, policyVersion, actor⟩ ends).2 orderId ↔
        ends ≠ .baseException ∧
          ∀ tx ∈ reportedHash ⟨attempt.retry, p, policyVersion, actor⟩ ends, HashFree db' p.execution tx := by
    intro ends
    rw [← horder]
    exact recordAnswer_recorded_iff hs' he hst hchain hnonce
  have hrun : attemptOrder cfg s.db r orderId subjectId actor policyVersion attempt answer =
      recordAnswer cfg db' (r.drop 8) ⟨attempt.retry, p, policyVersion, actor⟩
        (signAndBroadcast cfg db' (r 7) ⟨attempt.retry, p, policyVersion, actor⟩ answer) := by
    simp only [attemptOrder, h]
  rw [hrun, hiff, Recordable, signAndBroadcast]
  cases hauth : authorize cfg db' (r 7) ⟨attempt.retry, p, policyVersion, actor⟩ with
  | ok u => simp
  | error error =>
    -- a refused hand-over reports nothing
    cases error <;> simp [reportedHash]

/-- Once `_prepare` has committed, `execute_order` and `retry_unknown` record the outcome exactly when the gate
refuses, or the signer ends without leaving the process and reports no hash of another execution. -/
theorem outcome_recorded_iff {s : Sys} (h : (machine cfg).Reachable s) (r : Readings) (orderId subjectId : Id)
    (answer : SignerAnswer) :
    (∀ actor q actor' policyVersion p db', callTerms s.db subjectId actor = .ok (actor', policyVersion) →
      prepare cfg s.db r orderId subjectId actor' (.first q) = .ok (p, db') →
        (Recorded (executeOrder cfg s.db r orderId subjectId actor q answer).2 orderId ↔
          Recordable cfg db' (r 7) ⟨false, p, policyVersion, actor'⟩ answer)) ∧
    (∀ actor reason reason' reply actor' policyVersion p db',
      retryTerms s.db subjectId actor reason = .ok (reason', actor', policyVersion) →
      retryLookup cfg s.db orderId subjectId reply = .ok none →
      prepare cfg s.db r orderId subjectId actor' (.further reason') = .ok (p, db') →
        (Recorded (retryUnknown cfg s.db r orderId subjectId actor reason reply answer).2 orderId ↔
          Recordable cfg db' (r 7) ⟨true, p, policyVersion, actor'⟩ answer)) := by
  have hs := reachable_sound h
  refine ⟨?_, ?_⟩
  · intro actor q actor' policyVersion p db' hterms hprep
    rw [executeOrder, hterms]
    exact attemptOrder_recorded_iff hs policyVersion answer hprep
  · intro actor reason reason' reply actor' policyVersion p db' hterms hlook hprep
    simp only [retryUnknown, hterms, hlook]
    exact attemptOrder_recorded_iff hs policyVersion answer hprep

/-- What the sample call spends on its first attempt. -/
def sampleFirst (nonce : Nat) : FirstAttempt := ⟨none, none, none, some nonce, .quote 21000 (some 1)⟩

/-- The first order is broadcast, and a second submission is accepted. -/
def sampleSecond : List Action := sampleAttempt ++
  [.answer 0 (readingsAt 2100 "k") (.returned (some ⟨sampleHash 7, 1, 0, "2100"⟩)),
    .store (readingsAt 2200 "l") (.submitToBounty "bounty_f1" "subject-1"
      { sampleSubmission with idempotencyKey := "submission-2", key := second_key }),
    .store (readingsAt 2300 "m") (.decideSubmission "submission_l4" "subject-1" true "good" "operator")]

theorem sampleSecond_prepared :
    callTerms (sampleState sampleSecond).db "subject-1" "operator" = .ok ("operator", 2) ∧
      (prepare .sample (sampleState sampleSecond).db (readingsAt 2400 "n") "payorder_m2" "subject-1" "operator"
        (.first (sampleFirst 1))).toBool = true := by
  decide +kernel

theorem exists_of_toBool {α : Type} {x : Except PyError α} (h : x.toBool = true) : ∃ a, x = .ok a := by
  cases x with
  | ok a => exact ⟨a, rfl⟩
  | error e => cases h

theorem outcome_recorded_of_rejection :
    Recorded (executeOrder .sample (sampleState sampleSecond).db (readingsAt 2400 "n") "payorder_m2" "subject-1"
      "operator" (sampleFirst 1) (.signerError "signer_rejected")).2 "payorder_m2" := by
  obtain ⟨hterms, hprep⟩ := sampleSecond_prepared
  obtain ⟨⟨p, db'⟩, hprep⟩ := exists_of_toBool hprep
  have hiff := (outcome_recorded_iff (sampleState_reachable sampleSecond) (readingsAt 2400 "n") "payorder_m2"
    "subject-1" (.signerError "signer_rejected")).1 "operator" (sampleFirst 1) _ _ p db' hterms hprep
  exact hiff.mpr (fun _ => ⟨nofun, nofun⟩)

/-- A signer that reports the hash of another order leaves the attempt in `signing`. -/
theorem outcome_unrecorded_on_collision :
    ¬∀ (cfg : Config) (s : Sys), (machine cfg).Reachable s → ∀ r orderId subjectId actor q answer actor' version p db',
      callTerms s.db subjectId actor = .ok (actor', version) →
      prepare cfg s.db r orderId subjectId actor' (.first q) = .ok (p, db') →
        Recorded (executeOrder cfg s.db r orderId subjectId actor q answer).2 orderId := by
  intro h
  obtain ⟨hterms, hprep⟩ := sampleSecond_prepared
  obtain ⟨⟨p, db'⟩, hprep⟩ := exists_of_toBool hprep
  obtain ⟨x, hx, horder, hend, -⟩ := h .sample _ (sampleState_reachable sampleSecond) (readingsAt 2400 "n")
    "payorder_m2" "subject-1" "operator" (sampleFirst 1) (.returned (some ⟨sampleHash 7, 1, 1, "2400"⟩)) _ _ p db'
    hterms hprep
  have hstuck : ∀ x ∈ (executeOrder .sample (sampleState sampleSecond).db (readingsAt 2400 "n") "payorder_m2"
      "subject-1" "operator" (sampleFirst 1) (.returned (some ⟨sampleHash 7, 1, 1, "2400"⟩))).2.executions.rows,
      x.orderId = "payorder_m2" → x.status = .signing := by
    decide +kernel
  rw [hstuck x hx horder] at hend
  simp [endStatus] at hend

end Noyra.Wallet.Proofs
