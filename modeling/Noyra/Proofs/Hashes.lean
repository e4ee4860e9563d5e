import Noyra.Proofs.Outcome

/-!
# Reported transactions

Every attempt row keeps one hash, and `_lookup_receipt` asks about all of them. A hash is lost when a mark
overwrites the hash of the latest attempt, when an answer arrives after its attempt was closed, or when the
index refuses the row; in runs without these steps every reported hash is asked about.
-/

namespace Noyra.Wallet.Proofs
open Noyra.Lib

variable {cfg : Config} {db db' : DB}

theorem collectHashes_ok {attempts : List AttemptRow} (hseal : ∀ a ∈ attempts, a.Sealed cfg)
    (hwf : ∀ a ∈ attempts, ∀ tx ∈ a.txHash, txHash tx = some tx) (hashes : List String) :
    ∃ out, collectHashes cfg attempts hashes = .ok out ∧ hashes ⊆ out ∧
      ∀ a ∈ attempts, ∀ tx ∈ a.txHash, tx ∈ out := by
  induction attempts generalizing hashes with
  | nil => exact ⟨hashes, rfl, fun _ h => h, nofun⟩
  | cons a rest ih =>
    have ih := ih (fun x hx => hseal x (List.mem_cons_of_mem _ hx)) (fun x hx => hwf x (List.mem_cons_of_mem _ hx))
    have hok : a.stateHash = attemptHash cfg a := hseal a List.mem_cons_self
    cases htx : a.txHash with
    | none =>
      obtain ⟨out, hout, hsub, hmem⟩ := ih hashes
      refine ⟨out, ?_, hsub, ?_⟩
      · simpa [collectHashes, hok, htx] using hout
      · intro x hx tx hxt
        rcases List.mem_cons.mp hx with rfl | hx
        · simp [htx] at hxt
        · exact hmem x hx tx hxt
    | some value =>
      have hvalue := hwf a List.mem_cons_self value htx
      obtain ⟨out, hout, hsub, hmem⟩ := ih (if value ∈ hashes then hashes else hashes ++ [value])
      refine ⟨out, ?_, ?_, ?_⟩
      · simpa [collectHashes, hok, htx, hvalue] using hout
      · intro x hx
        refine hsub ?_
        split
        · exact hx
        · exact List.mem_append_left _ hx
      · intro x hx tx hxt
        rcases List.mem_cons.mp hx with rfl | hx
        · obtain rfl : value = tx := by simpa [htx] using hxt
          refine hsub ?_
          split
          · next hin => exact hin
          · simp
        · exact hmem x hx tx hxt

/-- The lookup covers all attempts: there are never more than it reads. -/
theorem Chained.lookupHashes_ok (hc : Chained cfg db) {e : ExecutionRow} (he : e ∈ db.executions) :
    ∃ hashes, lookupHashes cfg db e = .ok hashes ∧
      ∀ a ∈ db.attempts, a.executionId = e.executionId → ∀ tx ∈ a.txHash, tx ∈ hashes := by
  have hlen : (db.attempts.rows.filter (fun a => a.executionId = e.executionId)).length ≤ 32 := by
    have hcount := congrArg List.length (hc.numbered e he)
    simp only [attemptNumbers, List.length_map, List.length_range'] at hcount
    exact hcount ▸ (hc.bounded e he).2
  have hall : (((db.attempts.rows.filter (fun a => a.executionId = e.executionId ∧
      a.subjectId = e.subjectId)).insertionSort (fun a b => b.attemptNumber ≤ a.attemptNumber)).take 32) =
      (db.attempts.rows.filter (fun a => a.executionId = e.executionId ∧
        a.subjectId = e.subjectId)).insertionSort (fun a b => b.attemptNumber ≤ a.attemptNumber) := by
    refine List.take_of_length_le ?_
    rw [List.length_insertionSort]
    refine le_trans (List.Sublist.length_le ?_) hlen
    exact List.monotone_filter_right _ (fun a ha => by simp_all)
  have hmem : ∀ a, a ∈ (db.attempts.rows.filter (fun a => a.executionId = e.executionId ∧
      a.subjectId = e.subjectId)).insertionSort (fun a b => b.attemptNumber ≤ a.attemptNumber) ↔
      a ∈ db.attempts ∧ a.executionId = e.executionId ∧ a.subjectId = e.subjectId := by
    intro a
    rw [List.mem_insertionSort, List.mem_filter, decide_eq_true_eq]
    rfl
  obtain ⟨out, hout, -, hfound⟩ := collectHashes_ok (fun a ha => hc.attempt_sealed a ((hmem a).mp ha).1)
    (fun a ha => hc.well_formed a ((hmem a).mp ha).1) e.txHash.toList
  refine ⟨out, ?_, ?_⟩
  · rw [lookupHashes, hall]
    exact hout
  · intro a ha hk tx htx
    obtain ⟨x, hx, hid, hsub, -⟩ := hc.belongs a ha
    have hxe : x = e := Table.eq_of_key hx he (hid.trans hk)
    exact hfound a ((hmem a).mpr ⟨ha, hk, hxe ▸ hsub.symm⟩) tx htx

/-- A lookup that is told of a valid receipt returns one. -/
theorem queryReceipts_found {e : ExecutionRow} {reply : String → ReceiptReply} {tx : String} {receipt : WalletReceipt}
    (hreply : reply tx = .receipt receipt) (hvalid : validReceipt cfg receipt e tx = true) :
    ∀ {hashes : List String} (error : Option String), tx ∈ hashes →
      ∃ found, queryReceipts cfg e reply hashes error = (some found, none) := by
  intro hashes
  induction hashes with
  | nil => exact fun _ h => (by cases h)
  | cons x rest ih =>
    intro error h
    unfold queryReceipts
    rcases List.mem_cons.mp h with rfl | h
    · exact ⟨receipt, by rw [hreply]; exact if_pos hvalid⟩
    · split
      · split
        · exact ⟨_, rfl⟩
        · exact ih _ h
      · exact ih _ h

/-- An open attempt has no hash yet; a closed one shares the hash of the execution. -/
def HashOfLatest (db : DB) : Prop :=
  ∀ e ∈ db.executions, ∀ a, Latest db e a →
    (e.status = .signing → a.txHash = none) ∧ (e.status ≠ .signing → a.txHash = e.txHash)

theorem HashOfLatest.effect {permit : Permit} {r : Readings} (hs : Sound cfg db) (hl : HashOfLatest db)
    (h : Effect cfg permit r db db') : HashOfLatest db' := by
  have hsame : SameExecutions db db' → HashOfLatest db' := by
    rintro ⟨he, ha⟩
    simpa only [HashOfLatest, Latest, he, ha] using hl
  cases h with
  | desk h => exact hsame h.aside.executions
  | policy h => exact hsame h.aside.executions
  | opened h => exact hsame h.rest.executions
  | decided h => exact hsame h.executions
  | @started o p attemptId now settled h =>
    rintro x hx a ⟨ha, hk, hn⟩
    rcases (mem_inserted h.executions).mp hx with hx | rfl <;> rcases (mem_inserted h.attempts).mp ha with ha | rfl
    · exact hl x hx a ⟨ha, hk, hn⟩
    · exact absurd hk.symm ((Table.insert?_eq_some.mp h.executions).1 x hx)
    · exact absurd (hn.trans h.opening.2.2.2.2) (h.fresh a ha hk)
    · exact ⟨fun _ => rfl, fun hns => absurd h.opening.1 hns⟩
  | @restarted o e p attemptId now settled h =>
    have he := (Table.find?_eq_some.mp h.found).1
    have hid : p.execution.executionId = e.executionId := by rw [h.prepared]; rfl
    have hcount : p.execution.attemptCount = e.attemptCount + 1 := by rw [h.prepared]; rfl
    have hst : p.execution.status = .signing := by rw [h.prepared]; rfl
    rintro x hx a ⟨ha, hk, hn⟩
    rcases (mem_replaced h.executions ⟨e, he, hid.symm⟩).mp hx with rfl | ⟨hx, hne⟩ <;>
      rcases (mem_inserted h.attempts).mp ha with ha | rfl
    · exact absurd (hn.trans hcount) (h.fresh a ha (hk.trans hid))
    · exact ⟨fun _ => rfl, fun hns => absurd hst hns⟩
    · exact hl x hx a ⟨ha, hk, hn⟩
    · exact absurd hk.symm hne
  | @finished o e a f now settled h hof =>
    rintro x hx b ⟨hb, hk, hn⟩
    rcases h.mem_executions.mp hx with rfl | ⟨hx, hne⟩ <;> rcases h.mem_attempts.mp hb with rfl | ⟨hb, hbne⟩
    · exact ⟨fun hs => absurd hs hof.quiet.1, fun _ => rfl⟩
    · have hba : b = a := hs.chained.attempt_unique h.mem hb h.latest.1 hk h.latest.2.1 (hn.trans h.latest.2.2.symm)
      exact absurd (congrArg AttemptRow.attemptId hba) hbne
    · exact absurd (hk.symm.trans h.latest.2.1) hne
    · exact hl x hx b ⟨hb, hk, hn⟩

/-- An attempt of the execution carries the hash. -/
def Known (db : DB) (executionId : Id) (tx : String) : Prop :=
  ∃ a ∈ db.attempts.rows, a.executionId = executionId ∧ a.txHash = some tx

/-- The execution has failed, or an attempt of it carries the hash. -/
def Kept (db : DB) (executionId : Id) (tx : String) : Prop :=
  ∃ e ∈ db.executions.rows, e.executionId = executionId ∧ (e.status = .failed ∨ Known db executionId tx)

/-- The hash is on an attempt of the execution other than the latest. -/
def Elsewhere (db : DB) (e : ExecutionRow) (tx : String) : Prop :=
  ∃ a ∈ db.attempts.rows, a.executionId = e.executionId ∧ a.attemptNumber ≠ e.attemptCount ∧ a.txHash = some tx

/-- Finishes that overwrite no hash of a closed attempt, unless another attempt carries it too. -/
def sparing : Permit :=
  { Permit.all with
    finish := fun db e f => f.status = .failed ∨ e.status = .signing ∨
      ∀ tx ∈ e.txHash, f.txHash = some tx ∨ Elsewhere db e tx
    reconcile := fun _ _ _ => .inr (.inr (fun _ htx => .inl htx))
    recovered := fun _ _ hs => .inr (.inl hs) }

theorem not_failed_of_transition {e : ExecutionRow} {x : ExecutionStatus} (h : x ∈ executionTransitions e.status) :
    e.status ≠ .failed := by
  intro hf
  rw [hf] at h
  simp [executionTransitions] at h

theorem Finished.known {o : OrderRow} {e : ExecutionRow} {a : AttemptRow} {f : Finish} {now settled : Time}
    (h : Finished cfg db db' o e a f now settled) {tx : String} (hf : f.txHash = some tx) :
    Known db' e.executionId tx :=
  ⟨_, h.mem_attempts.mpr (.inl rfl), h.latest.2.1, hf⟩

theorem Finished.kept {o : OrderRow} {e : ExecutionRow} {a : AttemptRow} {f : Finish} {now settled : Time}
    (hl : HashOfLatest db) (h : Finished cfg db db' o e a f now settled) (hpermit : sparing.finish db e f) {tx : String}
    (hk : Known db e.executionId tx) : Kept db' e.executionId tx := by
  refine ⟨finishedRow cfg e f now, h.mem_executions.mpr (.inl rfl), rfl, ?_⟩
  obtain ⟨b, hb, hbe, hbtx⟩ := hk
  by_cases hid : b.attemptId = a.attemptId
  · -- the latest attempt: its hash is the hash of the execution
    have hba : b = a := Table.eq_of_key hb h.latest.1 hid
    subst hba
    have hclosed : e.status ≠ .signing := by
      intro hs
      rw [(hl e h.mem b h.latest).1 hs] at hbtx
      cases hbtx
    have hetx : e.txHash = some tx := ((hl e h.mem b h.latest).2 hclosed).symm.trans hbtx
    rcases hpermit with hf | hs | hspare
    · exact .inl hf
    · exact absurd hs hclosed
    · right
      rcases hspare tx hetx with hf | ⟨c, hc, hce, hcn, hctx⟩
      · exact h.known hf
      · refine ⟨c, h.mem_attempts.mpr (.inr ⟨hc, fun hca => hcn ?_⟩), hce, hctx⟩
        rw [Table.eq_of_key hc hb hca]
        exact h.latest.2.2
  · exact .inr ⟨b, h.mem_attempts.mpr (.inr ⟨hb, hid⟩), hbe, hbtx⟩

theorem Kept.effect {r : Readings} (hl : HashOfLatest db) {executionId : Id} {tx : String}
    (hk : Kept db executionId tx) (h : Effect cfg sparing r db db') : Kept db' executionId tx := by
  obtain ⟨x, hx, rfl, hkept⟩ := hk
  have hsame : SameExecutions db db' → Kept db' x.executionId tx := by
    rintro ⟨he, ha⟩
    exact ⟨x, he ▸ hx, rfl, by simpa only [Known, ha] using hkept⟩
  cases h with
  | desk h => exact hsame h.aside.executions
  | policy h => exact hsame h.aside.executions
  | opened h => exact hsame h.rest.executions
  | decided h => exact hsame h.executions
  | started h =>
    refine ⟨x, (mem_inserted h.executions).mpr (.inl hx), rfl, hkept.imp_right ?_⟩
    rintro ⟨a, ha, hrest⟩
    exact ⟨a, (mem_inserted h.attempts).mpr (.inl ha), hrest⟩
  | @restarted o e p attemptId now settled h =>
    have he := (Table.find?_eq_some.mp h.found).1
    have hid : p.execution.executionId = e.executionId := by rw [h.prepared]; rfl
    have hknown : Known db x.executionId tx → Known db' x.executionId tx := by
      rintro ⟨a, ha, hrest⟩
      exact ⟨a, (mem_inserted h.attempts).mpr (.inl ha), hrest⟩
    by_cases hxe : x.executionId = e.executionId
    · have hxe' : x = e := Table.eq_of_key hx he hxe
      subst hxe'
      exact ⟨p.execution, (mem_replaced h.executions ⟨x, he, hid.symm⟩).mpr (.inl rfl), hid,
        .inr (hknown (hkept.resolve_left (not_failed_of_transition h.allowed)))⟩
    · exact ⟨x, (mem_replaced h.executions ⟨e, he, hid.symm⟩).mpr (.inr ⟨hx, fun hk => hxe (hk.trans hid)⟩), rfl,
        hkept.imp_right hknown⟩
  | @finished o e a f now settled h hof _ hpermit =>
    by_cases hxe : x.executionId = e.executionId
    · have hxe' : x = e := Table.eq_of_key hx h.mem hxe
      subst hxe'
      exact h.kept hl hpermit (hkept.resolve_left (not_failed_of_transition h.allowed))
    · refine ⟨x, h.mem_executions.mpr (.inr ⟨hx, hxe⟩), rfl, hkept.imp_right ?_⟩
      rintro ⟨b, hb, hbe, hbtx⟩
      exact ⟨b, (h.other_attempts (hbe ▸ hxe)).mpr hb, hbe, hbtx⟩

/-! ### Runs that lose no hash -/

/-- The hash a mark writes on an execution that it does not fail. -/
def markHash (e : ExecutionRow) : Mark → Option String
  | .broadcast result => txHash result.txHash
  | .unknown tx code => (unknownHash e tx code).1
  | .failed .. => e.txHash
  | .confirmed receipt => txHash receipt.txHash

/-- The mark keeps the hash of a closed attempt, or another attempt carries it too. -/
def Spares (db : DB) (e : ExecutionRow) (mark : Mark) : Prop :=
  e.status = .signing ∨ ∀ tx ∈ e.txHash, markHash e mark = some tx ∨ Elsewhere db e tx

theorem Spares.finish {e : ExecutionRow} {mark : Mark} {f : Finish} (h : Spares db e mark) (hw : Writes e mark f) :
    sparing.finish db e f := by
  rcases h with h | h
  · exact .inr (.inl h)
  · cases hw with
    | broadcast htx => exact .inr (.inr (fun tx he => (h tx he).imp_left (fun hm => htx.symm.trans hm)))
    | unknown => exact .inr (.inr h)
    | failed _ => exact .inl rfl
    | confirmed htx => exact .inr (.inr (fun tx he => (h tx he).imp_left (fun hm => htx.symm.trans hm)))

/-- The mark an action tries to record. -/
def marking? (s : Sys) : Action → Option (Id × Mark)
  | .answer i _ answer =>
    match s.calls[i]? with
    | some (.handed d) => (markFor d answer).map (fun mark => (d.prepared.execution.executionId, mark))
    | _ => none
  | .mark i _ =>
    match s.calls[i]? with
    | some (.deciding executionId _ _ mark) => some (executionId, mark)
    | _ => none
  | _ => none

/-- The attempt and the hash that an action reports. -/
def reporting? (s : Sys) : Action → Option (Dispatch × String)
  | .answer i _ answer =>
    match s.calls[i]? with
    | some (.handed d) => (reportedHash d answer).map (fun tx => (d, tx))
    | _ => none
  | _ => none

/-- The attempt is still open, and no other execution carries the hash. -/
def Attributed (db : DB) (d : Dispatch) (tx : String) : Prop :=
  d.prepared.execution ∈ db.executions.rows ∧ HashFree db d.prepared.execution tx

/-- Marks spare the hashes of closed attempts, and every report is about the open attempt, or is nothing new. -/
def KeepsHashes (s : Sys) (a : Action) : Prop :=
  (∀ p ∈ marking? s a, ∀ e ∈ s.db.executions.rows, e.executionId = p.1 → e.status ∈ actsOn p.2 → Spares s.db e p.2) ∧
    ∀ p ∈ reporting? s a, Attributed s.db p.1 p.2 ∨ Kept s.db p.1.prepared.execution.executionId p.2

instance (db : DB) (e : ExecutionRow) (tx : String) : Decidable (HashFree db e tx) :=
  inferInstanceAs (Decidable (∀ x ∈ db.executions.rows, x.executionId ≠ e.executionId → x.subjectId = e.subjectId →
    x.networkId = e.networkId → x.txHash ≠ some tx))

instance (db : DB) (executionId : Id) (tx : String) : Decidable (Known db executionId tx) :=
  inferInstanceAs (Decidable (∃ a ∈ db.attempts.rows, a.executionId = executionId ∧ a.txHash = some tx))

instance (db : DB) (executionId : Id) (tx : String) : Decidable (Kept db executionId tx) :=
  inferInstanceAs (Decidable (∃ e ∈ db.executions.rows, e.executionId = executionId ∧
    (e.status = .failed ∨ Known db executionId tx)))

instance (db : DB) (e : ExecutionRow) (tx : String) : Decidable (Elsewhere db e tx) :=
  inferInstanceAs (Decidable (∃ a ∈ db.attempts.rows, a.executionId = e.executionId ∧
    a.attemptNumber ≠ e.attemptCount ∧ a.txHash = some tx))

instance (db : DB) (e : ExecutionRow) (mark : Mark) : Decidable (Spares db e mark) :=
  inferInstanceAs (Decidable (e.status = .signing ∨ ∀ tx ∈ e.txHash, markHash e mark = some tx ∨ Elsewhere db e tx))

instance (db : DB) (d : Dispatch) (tx : String) : Decidable (Attributed db d tx) :=
  inferInstanceAs (Decidable (d.prepared.execution ∈ db.executions.rows ∧ HashFree db d.prepared.execution tx))

instance (s : Sys) (a : Action) : Decidable (KeepsHashes s a) :=
  inferInstanceAs (Decidable ((∀ p ∈ marking? s a, ∀ e ∈ s.db.executions.rows, e.executionId = p.1 →
    e.status ∈ actsOn p.2 → Spares s.db e p.2) ∧
    ∀ p ∈ reporting? s a, Attributed s.db p.1 p.2 ∨ Kept s.db p.1.prepared.execution.executionId p.2))

/-- An attempt in progress comes from `_prepare`. -/
def FromPrepare : Call → Prop
  | .signing d => d.prepared.execution.status = .signing ∧
      buildTransfer d.prepared.execution.intent = .ok d.prepared.transfer
  | .handed d => d.prepared.execution.status = .signing ∧
      buildTransfer d.prepared.execution.intent = .ok d.prepared.transfer
  | _ => True

structure Recollects (s : Sys) : Prop where
  latest : HashOfLatest s.db
  calls : ∀ c ∈ s.calls, FromPrepare c
  reported : ∀ p ∈ s.reported, Kept s.db p.1 p.2

theorem Recollects.mono {r : Readings} {s s' : Sys} (hs : Sound cfg s.db) (hj : Recollects s)
    (heff : Effects cfg sparing r s.db s'.db) (hcalls : ∀ c ∈ s'.calls, c ∈ s.calls ∨ FromPrepare c)
    (hrep : ∀ p ∈ s'.reported, p ∈ s.reported ∨ Kept s'.db p.1 p.2) : Recollects s' := by
  have hkeep := (Effects.invariant (I := fun db => HashOfLatest db ∧ ∀ p ∈ s.reported, Kept db p.1 p.2)
    (fun _ _ hs hi h => ⟨hi.1.effect hs h, fun p hp => (hi.2 p hp).effect hi.1 h⟩) hs ⟨hj.latest, hj.reported⟩ heff).2
  exact ⟨hkeep.1, fun c hc => (hcalls c hc).elim (hj.calls c) id, fun p hp => (hrep p hp).elim (hkeep.2 p) id⟩

/-- A step that commits nothing. -/
theorem Recollects.steady {s s' : Sys} (hs : Sound cfg s.db) (hj : Recollects s) (hdb : s'.db = s.db)
    (hcalls : ∀ c ∈ s'.calls, c ∈ s.calls ∨ FromPrepare c)
    (hrep : ∀ p ∈ s'.reported, p ∈ s.reported ∨ Kept s'.db p.1 p.2) : Recollects s' :=
  hj.mono (r := fun _ => ⟨0, 0, "", false⟩) hs (hdb ▸ .refl) hcalls hrep

/-- The mark of a report closes an open attempt with the reported hash. -/
theorem reported_mark {d : Dispatch} {answer : SignerAnswer} {tx : String} {mark : Mark}
    (htx : reportedHash d answer = some tx) (hmark : markFor d answer = some mark) :
    .signing ∈ actsOn mark ∧ ∀ e f, Writes e mark f → f.txHash = some tx := by
  cases answer with
  | returned result =>
    cases result with
    | none => simp [reportedHash] at htx
    | some result =>
      simp only [reportedHash] at htx
      split at htx
      · next hvalid =>
        simp only [markFor, hvalid, if_true, Option.some.injEq] at hmark
        subst hmark
        refine ⟨by simp [actsOn], ?_⟩
        rintro e f ⟨hvalue⟩
        exact hvalue.symm.trans htx
      · cases htx
  | broadcastUnknown value =>
    cases value with
    | none => simp [reportedHash] at htx
    | some value =>
      cases hmark
      refine ⟨by simp [actsOn], ?_⟩
      rintro e f ⟨⟩
      have hvalue : txHash value = some tx := htx
      simp [unknownFinish, unknownHash, hvalue]
  | _ => simp [reportedHash] at htx

theorem fromPrepare_set {calls : List Call} {i : Nat} {x : Call} (hx : FromPrepare x) :
    ∀ c ∈ calls.set i x, c ∈ calls ∨ FromPrepare c := by
  intro c hc
  rcases List.mem_or_eq_of_mem_set hc with hc | rfl
  · exact .inl hc
  · exact .inr hx

theorem decide_fromPrepare (d : Dispatch) (answer : SignerAnswer) : FromPrepare (d.decide answer) := by
  unfold Dispatch.decide
  split <;> trivial

theorem afterError_fromPrepare (executionId subjectId : Id) (actor : String) (mark : Mark) (error : PyError) :
    FromPrepare (afterError executionId subjectId actor mark error) := by
  unfold afterError
  split <;> trivial

theorem afterLookup_fromPrepare (e : ExecutionRow) (actor : String) (retry : Option (String × Nat)) (clock : Time)
    (found : Option WalletReceipt × Option String) : FromPrepare (afterLookup cfg e actor retry clock found) := by
  unfold afterLookup
  cases retry with
  | none => cases pollMark cfg e clock found <;> trivial
  | some retry => cases found.1 <;> trivial

/-- The answer of a handed attempt: what it reports is on the attempt afterwards. -/
theorem answer_kept {s : Sys} {i : Nat} {r : Readings} {d : Dispatch} {answer : SignerAnswer} {mark : Mark}
    {tx : String} (hs : Sound cfg s.db) (hj : Recollects s) (hi : s.calls[i]? = some (.handed d))
    (hmark : markFor d answer = some mark) (htx : reportedHash d answer = some tx) (hatt : Attributed s.db d tx) :
    ∃ row db', mark.apply cfg s.db r d.prepared.execution.executionId d.prepared.execution.subjectId d.actor =
        .ok (row, db') ∧ Kept db' d.prepared.execution.executionId tx := by
  obtain ⟨he, hfree⟩ := hatt
  obtain ⟨hst, hbuild⟩ := hj.calls _ (List.mem_of_getElem? hi)
  obtain ⟨hchain, hnonce⟩ := buildTransfer_fixed hbuild
  have hfree' : ∀ value ∈ reportedHash d answer, HashFree s.db d.prepared.execution value := by
    rintro value hvalue
    rw [htx, Option.mem_some_iff] at hvalue
    exact hvalue ▸ hfree
  obtain ⟨row, db', hok⟩ := markFor_succeeds (r := r) hs he rfl hst hchain hnonce hfree' hmark
  obtain ⟨hacts, hwrites⟩ := reported_mark htx hmark
  obtain ⟨e, hem, hid, -, now, settled, ⟨hnot, -⟩ | ⟨-, -, o, a, f, hw, hf⟩⟩ := Mark.apply_ok hs.paired hok
  · have hee : e = d.prepared.execution := Table.eq_of_key hem he hid
    exact absurd hacts (hst ▸ hee ▸ hnot)
  · have hee : e = d.prepared.execution := Table.eq_of_key hem he hid
    subst hee
    exact ⟨row, db', hok, _, hf.mem_executions.mpr (.inl rfl), rfl, .inr (hf.known (hwrites _ f hw))⟩

theorem mem_hear {s : Sys} {d : Dispatch} {answer : SignerAnswer} {p : Id × String}
    (h : p ∈ (s.hear d answer).reported) :
    p ∈ s.reported ∨ ∃ tx, reportedHash d answer = some tx ∧ p = (d.prepared.execution.executionId, tx) := by
  rcases List.mem_append.mp h with h | h
  · exact .inl h
  · right
    obtain ⟨tx, htx, rfl⟩ := Option.map_eq_some_iff.mp (Option.mem_toList.mp h)
    exact ⟨tx, htx, rfl⟩

theorem reachable_recollects {s : Sys} (h : (machine cfg).ReachableUnder KeepsHashes s) : Recollects s := by
  have hstart : Recollects .start := ⟨fun e he => (by cases he), fun c hc => (by cases hc), fun p hp => (by cases hp)⟩
  refine (system_invariant hstart ?_ h).2
  intro s a s' hs hg hev heff hj
  cases hev with
  | idle => exact hj
  | store hrun =>
    refine hj.mono hs (StoreOp.run_effects hs.desk ?_ hrun) (fun c hc => .inl hc) (fun p hp => .inl hp)
    exact Permit.all_admits _
  | called hopen =>
    refine hj.steady hs rfl (fun c hc => ?_) (fun p hp => .inl hp)
    rcases List.mem_append.mp hc with hc | hc
    · exact .inl hc
    · rw [List.mem_singleton] at hc
      subst hc
      cases hopen <;> exact .inr trivial
  | ended => exact hj.steady hs rfl (fromPrepare_set trivial) (fun p hp => .inl hp)
  | prepared hi hprep =>
    obtain ⟨-, hst, -, hbuild⟩ := prepare_opens hprep
    exact hj.mono hs (.one (prepare_effects hprep)) (fromPrepare_set ⟨hst, hbuild⟩) (fun p hp => .inl hp)
  | handed hi =>
    have hcall := hj.calls _ (List.mem_of_getElem? hi)
    exact hj.steady hs rfl (fromPrepare_set hcall) (fun p hp => .inl hp)
  | withheld => exact hj.steady hs rfl (fromPrepare_set (decide_fromPrepare ..)) (fun p hp => .inl hp)
  | @lost i r d answer hi hmark =>
    refine hj.steady hs rfl (fromPrepare_set trivial) (fun p hp => .inl ?_)
    refine (mem_hear hp).resolve_right ?_
    rintro ⟨tx, htx, -⟩
    cases answer <;> simp [markFor, reportedHash] at hmark htx
    split at hmark <;> simp_all
  | @answered i r d answer mark row db' hi hmark happly =>
    have hmarks := hg.1 (d.prepared.execution.executionId, mark) (by simp [marking?, hi, hmark])
    have heff' : Effects cfg sparing r s.db db' :=
      Mark.apply_effects hs.paired (fun e he hid hacts f hw => (hmarks e he hid hacts).finish hw) happly
    refine hj.mono hs heff'
      (fromPrepare_set trivial) (fun p hp => ?_)
    rcases mem_hear hp with hp | ⟨tx, htx, rfl⟩
    · exact .inl hp
    right
    rcases hg.2 (d, tx) (by simp [reporting?, hi, htx]) with hatt | hkept
    · obtain ⟨row', db'', hok, hk⟩ := answer_kept (r := r) hs hj hi hmark htx hatt
      rw [happly, Except.ok.injEq, Prod.mk.injEq] at hok
      exact hok.2 ▸ hk
    · exact (Effects.invariant (I := fun db => HashOfLatest db ∧ Kept db d.prepared.execution.executionId tx)
        (fun _ _ hs hi h => ⟨hi.1.effect hs h, hi.2.effect hi.1 h⟩) hs ⟨hj.latest, hkept⟩ heff').2.2
  | @unanswered i r d answer mark error hi hmark happly =>
    refine hj.steady hs rfl (fromPrepare_set (afterError_fromPrepare ..)) (fun p hp => ?_)
    rcases mem_hear hp with hp | ⟨tx, htx, rfl⟩
    · exact .inl hp
    right
    rcases hg.2 (d, tx) (by simp [reporting?, hi, htx]) with hatt | hkept
    · obtain ⟨row', db'', hok, -⟩ := answer_kept (r := r) hs hj hi hmark htx hatt
      rw [happly] at hok
      cases hok
    · exact hkept
  | looked => exact hj.steady hs rfl (fromPrepare_set (afterLookup_fromPrepare ..)) (fun p hp => .inl hp)
  | @marked i r executionId subjectId actor mark row db' hi happly =>
    have hmarks := hg.1 (executionId, mark) (by simp [marking?, hi])
    exact hj.mono hs (Mark.apply_effects hs.paired
      (fun e he hid hacts f hw => (hmarks e he hid hacts).finish hw) happly) (fromPrepare_set trivial)
      (fun p hp => .inl hp)
  | unmarked => exact hj.steady hs rfl (fromPrepare_set (afterError_fromPrepare ..)) (fun p hp => .inl hp)
  | crashed => exact hj.steady hs rfl (fun c hc => by cases hc) (fun p hp => .inl hp)

/-! ### Reported hashes are remembered -/

/-- Every hash reported for a broadcast or unknown execution is asked about, so a valid receipt for it ends the
lookup with a receipt. -/
def Remembers (cfg : Config) (s : Sys) : Prop :=
  ∀ e ∈ s.db.executions, e.status = .broadcast ∨ e.status = .unknown → ∀ tx, (e.executionId, tx) ∈ s.reported →
    (∃ hashes, lookupHashes cfg s.db e = .ok hashes ∧ tx ∈ hashes) ∧
      ∀ reply receipt, reply tx = .receipt receipt → validReceipt cfg receipt e tx = true →
        ∃ found, lookupReceipt cfg s.db e reply = .ok (some found, none)

/-- In every run whose marks spare recorded hashes and whose reports are about open attempts, no reported
transaction is forgotten. -/
theorem reported_hashes_remembered {s : Sys} (h : (machine cfg).ReachableUnder KeepsHashes s) : Remembers cfg s := by
  have hj := reachable_recollects h
  have hs := reachable_sound h.reachable
  intro e he hst tx hrep
  obtain ⟨x, hx, hid, hkept⟩ := hj.reported _ hrep
  have hxe : x = e := Table.eq_of_key hx he hid
  subst hxe
  have hopen : x.status ≠ .failed := by
    rcases hst with hst | hst <;> simp [hst]
  obtain ⟨a, ha, hk, htx⟩ := hkept.resolve_left hopen
  obtain ⟨hashes, hlook, hall⟩ := hs.chained.lookupHashes_ok hx
  have hmem := hall a ha hk tx htx
  refine ⟨⟨hashes, hlook, hmem⟩, ?_⟩
  intro reply receipt hreply hvalid
  obtain ⟨found, hfound⟩ := queryReceipts_found hreply hvalid none hmem
  exact ⟨found, bind_eq_ok.mpr ⟨hashes, hlook, congrArg Except.ok hfound⟩⟩

/-- Two attempts report a hash each. -/
def sampleHashes : List Action := sampleAttempt ++
  [.answer 0 (readingsAt 2100 "k") (.broadcastUnknown (some (sampleHash 7))),
    .retry "payorder_i2" "subject-1" "operator" "no answer",
    .lookup 1 2200 (fun _ => .pending),
    .prepare 1 (readingsAt 2300 "l"),
    .dispatch 1 ⟨2400, 2400, "", true⟩,
    .answer 1 (readingsAt 2500 "m") (.returned (some ⟨sampleHash 8, 1, 0, "2500"⟩))]

theorem reported_hashes_remembered_after_retry : Remembers .sample (sampleState sampleHashes) :=
  reported_hashes_remembered (sampleState_reachableUnder (by decide +kernel))

/-- The receipt of the first attempt confirms the order, and a reorganization reopens it. -/
def sampleForgotten : List Action := sampleHashes ++
  [.poll "wallet_exec_j2" "subject-1" "operator",
    .lookup 2 2600 (fun tx => if tx = sampleHash 7 then .receipt (sampleReceipt tx 1) else .pending),
    .mark 2 (readingsAt 2700 "n"),
    .store (readingsAt 2800 "o") (.markReconcileRequired "wallet_exec_j2" "subject-1" "operator" "reorganized")]

/-- The receipt of the first attempt has overwritten the hash of the second. -/
theorem reported_hash_forgotten_after_confirmation :
    ¬∀ (cfg : Config) (s : Sys), (machine cfg).Reachable s → Remembers cfg s := by
  intro h
  have hlost : ∃ e ∈ (sampleState sampleForgotten).db.executions.rows, e.status = .unknown ∧
      (e.executionId, sampleHash 8) ∈ (sampleState sampleForgotten).reported ∧
      lookupHashes .sample (sampleState sampleForgotten).db e = .ok [sampleHash 7] := by
    decide +kernel
  obtain ⟨e, he, hst, hrep, hlook⟩ := hlost
  obtain ⟨⟨hashes, hlook', hmem⟩, -⟩ :=
    h .sample _ (sampleState_reachable sampleForgotten) e he (.inr hst) (sampleHash 8) hrep
  rw [hlook, Except.ok.injEq] at hlook'
  subst hlook'
  exact absurd hmem (by decide)

end Noyra.Wallet.Proofs
