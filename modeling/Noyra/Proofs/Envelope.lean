import Noyra.Proofs.Ledger

/-!
# One envelope per order

Every attempt of an order hands the same envelope to the signer, under its own request. The nonce index
keeps two executions from sharing a nonce, so a chain that mines one transaction per nonce pays an order
at most once.
-/

namespace Noyra.Wallet.Proofs
open Noyra.Lib

variable {cfg : Config} {db db' : DB}

/-- The envelope belongs to an attempt of the order. -/
def Requests (db : DB) (orderId : Id) (requestId : String) (transfer : WalletUnsignedTransfer) : Prop :=
  ∃ e ∈ db.executions, e.orderId = orderId ∧ buildTransfer e.intent = .ok transfer ∧
    ∃ k, 1 ≤ k ∧ k ≤ e.attemptCount ∧ requestId = requestIdOf orderId k

theorem Requests.effects {permit : Permit} {r : Readings} {orderId : Id} {requestId : String}
    {transfer : WalletUnsignedTransfer} (h : Requests db orderId requestId transfer)
    (heff : Effects cfg permit r db db') : Requests db' orderId requestId transfer := by
  obtain ⟨e, he, hord, hbuild, k, h1, hk, hid⟩ := h
  obtain ⟨e', he', hcont⟩ := heff.continues he
  exact ⟨e', he', hcont.order.trans hord, hcont.intent ▸ hbuild, k, h1, hk.trans hcont.attempts, hid⟩

/-- The attempt a call is about to hand over. -/
def atGate? : Call → Option Dispatch
  | .signing d => some d
  | _ => none

/-- The attempts that wait for the dispatch gate. -/
def pending (calls : List Call) : List Dispatch := calls.filterMap atGate?

def dispatchKey (d : Dispatch) : Id × String := (d.prepared.execution.orderId, d.prepared.requestId)

def handedKey (h : Handed) : Id × String := (h.orderId, h.requestId)

/-- Envelopes handed over or waiting for the gate belong to attempts, no two of them to the same one. -/
structure Enveloped (s : Sys) : Prop where
  handed : ∀ h ∈ s.handed, Requests s.db h.orderId h.requestId h.transfer
  waiting : ∀ d ∈ pending s.calls, Requests s.db d.prepared.execution.orderId d.prepared.requestId d.prepared.transfer
  distinct : (s.handed.map handedKey ++ (pending s.calls).map dispatchKey).Nodup

/-- No new attempt reaches the gate. -/
theorem Enveloped.mono {permit : Permit} {r : Readings} {s s' : Sys} (hj : Enveloped s)
    (heff : Effects cfg permit r s.db s'.db) (hh : s'.handed = s.handed)
    (hsub : (pending s'.calls).Sublist (pending s.calls)) : Enveloped s' := by
  refine ⟨?_, ?_, ?_⟩
  · rw [hh]
    exact fun h hm => (hj.handed h hm).effects heff
  · exact fun d hd => (hj.waiting d (hsub.subset hd)).effects heff
  · rw [hh]
    exact hj.distinct.sublist ((List.Sublist.refl _).append (hsub.map _))

theorem pending_set {calls : List Call} {i : Nat} {c : Call} (hc : atGate? c = none) :
    (pending (calls.set i c)).Sublist (pending calls) := by
  induction calls generalizing i with
  | nil => exact .refl _
  | cons x calls ih =>
    cases i with
    | zero =>
      simp only [pending, List.set_cons_zero, List.filterMap_cons, hc]
      cases atGate? x with
      | none => exact .refl _
      | some d => exact List.sublist_cons_self ..
    | succ i =>
      simp only [pending, List.set_cons_succ, List.filterMap_cons]
      cases atGate? x with
      | none => exact ih
      | some d => exact ih.cons_cons _

theorem decide_atGate? (d : Dispatch) (answer : SignerAnswer) : atGate? (d.decide answer) = none := by
  unfold Dispatch.decide
  split <;> rfl

theorem afterError_atGate? (executionId subjectId : Id) (actor : String) (mark : Mark) (error : PyError) :
    atGate? (afterError executionId subjectId actor mark error) = none := by
  unfold afterError
  split <;> rfl

theorem afterLookup_atGate? (e : ExecutionRow) (actor : String) (retry : Option (String × Nat)) (clock : Time)
    (found : Option WalletReceipt × Option String) : atGate? (afterLookup cfg e actor retry clock found) = none := by
  unfold afterLookup
  cases retry with
  | none => cases pollMark cfg e clock found <;> rfl
  | some retry => cases hf : found.1 <;> simp [atGate?]

theorem Opening.atGate? {c : Call} (h : Opening db c) : atGate? c = none := by
  cases h <;> rfl

/-- The attempt that `_prepare` has committed is new to the order. -/
theorem prepare_requests {r : Readings} {orderId subjectId : Id} {actor : String} {attempt : Attempt} {p : Prepared}
    (hs : Sound cfg db) (h : prepare cfg db r orderId subjectId actor attempt = .ok (p, db')) :
    Requests db' p.execution.orderId p.requestId p.transfer ∧
      ∀ t, ¬Requests db p.execution.orderId p.requestId t := by
  cases attempt with
  | first q =>
    obtain ⟨o, policy, asset, source, -, -, -, hstart⟩ := prepareFirst_ok h
    obtain ⟨-, -, -, -, hcount⟩ := hstart.opening
    have hord : o.orderId = p.execution.orderId := hstart.pair.order
    refine ⟨⟨p.execution, (mem_inserted hstart.executions).mpr (.inr rfl), rfl, hstart.envelope, 1, le_rfl,
      by omega, hord ▸ hstart.requestId⟩, ?_⟩
    rintro t ⟨e, he, hk, -⟩
    exact hstart.absent e he hk
  | further reason =>
    obtain ⟨o, e, policy, source, -, -, -, hstart⟩ := prepareRetry_ok h
    have he := (Table.find?_eq_some.mp hstart.found).1
    have hord : p.execution.orderId = e.orderId := by rw [hstart.prepared]; rfl
    have hid : p.execution.executionId = e.executionId := by rw [hstart.prepared]; rfl
    have hcount : p.execution.attemptCount = e.attemptCount + 1 := by rw [hstart.prepared]; rfl
    have hreq : p.requestId = requestIdOf p.execution.orderId (e.attemptCount + 1) := by
      rw [hstart.requestId, hord, hstart.owns]
    refine ⟨⟨p.execution, (mem_replaced hstart.executions ⟨e, he, hid.symm⟩).mpr (.inl rfl), rfl, ?_,
      e.attemptCount + 1, by omega, by omega, hreq⟩, ?_⟩
    · rw [hstart.prepared]
      exact hstart.envelope
    · -- earlier requests carry numbers up to the attempt count
      rintro t ⟨x, hx, hk, -, k, -, hle, hreq'⟩
      have hxe : x = e := hs.paired.one_execution e he x hx (hk.trans hord)
      rw [hreq] at hreq'
      have := stem_injective _ hreq'
      subst hxe
      omega

theorem Enveloped.prepared {permit : Permit} {r : Readings} {s : Sys} {i : Nat} {c : Call} {d : Dispatch} {db' : DB}
    (hj : Enveloped s) (hi : s.calls[i]? = some c) (hc : atGate? c = none) (heff : Effects cfg permit r s.db db')
    (hnew : Requests db' d.prepared.execution.orderId d.prepared.requestId d.prepared.transfer)
    (hfresh : ∀ t, ¬Requests s.db d.prepared.execution.orderId d.prepared.requestId t) :
    Enveloped { s with db := db', calls := s.calls.set i (.signing d) } := by
  obtain ⟨before, after, hcalls, hset⟩ := split_set hi
  have hold : pending s.calls = pending before ++ pending after := by
    simp only [pending, hcalls, List.filterMap_append, List.filterMap_cons, hc]
  have hpend : pending (s.calls.set i (.signing d)) = pending before ++ d :: pending after := by
    simp only [pending, hset, List.filterMap_append, List.filterMap_cons, atGate?]
  refine ⟨fun h hm => (hj.handed h hm).effects heff, ?_, ?_⟩
  · intro x hx
    rw [hpend, List.mem_append, List.mem_cons] at hx
    rcases hx with hx | rfl | hx
    · exact (hj.waiting x (hold ▸ List.mem_append_left _ hx)).effects heff
    · exact hnew
    · exact (hj.waiting x (hold ▸ List.mem_append_right _ hx)).effects heff
  · have hdistinct := hj.distinct
    rw [hold] at hdistinct
    have hnot : dispatchKey d ∉ s.handed.map handedKey ++ (pending before ++ pending after).map dispatchKey := by
      rw [List.mem_append, List.mem_map, List.mem_map]
      rintro (⟨h, hm, hk⟩ | ⟨x, hx, hk⟩)
      · obtain ⟨ho, hr⟩ := Prod.mk.inj hk
        have := hj.handed h hm
        rw [ho, hr] at this
        exact hfresh _ this
      · obtain ⟨ho, hr⟩ := Prod.mk.inj hk
        have := hj.waiting x (hold ▸ hx)
        rw [ho, hr] at this
        exact hfresh _ this
    have hcons : (dispatchKey d :: (s.handed.map handedKey ++ (pending before ++ pending after).map
        dispatchKey)).Nodup := List.nodup_cons.mpr ⟨hnot, hdistinct⟩
    change (s.handed.map handedKey ++ (pending (s.calls.set i (.signing d))).map dispatchKey).Nodup
    rw [hpend, List.map_append, List.map_cons, ← List.append_assoc]
    refine List.perm_middle.nodup_iff.mpr ?_
    rwa [List.append_assoc, ← List.map_append]

theorem Enveloped.handed_over {s : Sys} {i : Nat} {d : Dispatch} (hj : Enveloped s)
    (hi : s.calls[i]? = some (.signing d)) :
    Enveloped { s with
      calls := s.calls.set i (.handed d)
      handed := s.handed ++ [⟨d.prepared.execution.orderId, d.prepared.requestId, d.prepared.transfer⟩] } := by
  obtain ⟨before, after, hcalls, hset⟩ := split_set hi
  have hold : pending s.calls = pending before ++ d :: pending after := by
    simp only [pending, hcalls, List.filterMap_append, List.filterMap_cons, atGate?]
  have hpend : pending (s.calls.set i (.handed d)) = pending before ++ pending after := by
    simp only [pending, hset, List.filterMap_append, List.filterMap_cons, atGate?]
  refine ⟨?_, ?_, ?_⟩
  · intro h hm
    rcases List.mem_append.mp hm with hm | hm
    · exact hj.handed h hm
    · rw [List.mem_singleton] at hm
      subst hm
      exact hj.waiting d (hold ▸ List.mem_append_right _ List.mem_cons_self)
  · intro x hx
    refine hj.waiting x (hold ▸ ?_)
    rw [hpend, List.mem_append] at hx
    rw [List.mem_append, List.mem_cons]
    exact hx.imp id .inr
  · have hdistinct := hj.distinct
    rw [hold] at hdistinct
    rw [List.map_append, List.map_cons] at hdistinct
    have hmoved := (List.perm_middle.append_left _).nodup_iff.mp hdistinct
    change ((s.handed ++ [_]).map handedKey ++ (pending (s.calls.set i (.handed d))).map dispatchKey).Nodup
    rw [hpend, List.map_append, List.map_append, List.append_assoc]
    exact hmoved

theorem Enveloped.start : Enveloped .start := by
  refine ⟨?_, ?_, List.nodup_nil⟩
  · intro h hm
    cases hm
  · intro d hd
    cases hd

theorem reachable_enveloped {s : Sys} (h : (machine cfg).Reachable s) : Enveloped s := by
  refine (system_invariant .start ?_ h).2
  intro s a s' hs _ hev heff hj
  cases hev with
  | idle => exact hj
  | store => exact hj.mono heff rfl (.refl _)
  | called hopen =>
    refine hj.mono heff rfl ?_
    simp [pending, hopen.atGate?]
  | ended => exact hj.mono heff rfl (pending_set rfl)
  | prepared hi hprep =>
    obtain ⟨hnew, hfresh⟩ := prepare_requests hs hprep
    exact hj.prepared hi rfl heff hnew hfresh
  | handed hi => exact hj.handed_over hi
  | withheld => exact hj.mono heff rfl (pending_set (decide_atGate? ..))
  | lost => exact hj.mono heff rfl (pending_set rfl)
  | answered => exact hj.mono heff rfl (pending_set rfl)
  | unanswered => exact hj.mono heff rfl (pending_set (afterError_atGate? ..))
  | looked => exact hj.mono heff rfl (pending_set (afterLookup_atGate? ..))
  | marked => exact hj.mono heff rfl (pending_set rfl)
  | unmarked => exact hj.mono heff rfl (pending_set (afterError_atGate? ..))
  | crashed => exact hj.mono heff rfl (List.nil_sublist _)

/-- Everything handed to the signer for an order. -/
def handedFor (s : Sys) (orderId : Id) : List Handed := s.handed.filter (fun h => h.orderId = orderId)

/-- The envelopes of an order are one, its requests are numbered apart, and whatever the chain mines, at
most one transaction pays the order, as long as the chain mines one transaction per sender and nonce. -/
structure PaysOnce (s : Sys) (orderId : Id) : Prop where
  same_envelope : ∀ h ∈ handedFor s orderId, ∀ x ∈ handedFor s orderId, x.transfer = h.transfer
  requests : ∃ numbers : List Nat, numbers.Nodup ∧ (∃ n, n ≤ 32 ∧ ∀ k ∈ numbers, 1 ≤ k ∧ k ≤ n) ∧
    (handedFor s orderId).map Handed.requestId = numbers.map (requestIdOf orderId)
  mined_once : ∀ mined : List WalletUnsignedTransfer,
    (mined.map (fun t => (t.sourceAddress, t.chainId, t.nonce))).Nodup →
      (mined.filter (fun t => t ∈ (handedFor s orderId).map Handed.transfer)).length ≤ 1

/-- Executions that are not over, or that carry a hash, do not share a nonce. -/
def NoncesApart (db : DB) : Prop :=
  ∀ e ∈ db.executions, ∀ x ∈ db.executions, x.subjectId = e.subjectId → x.networkId = e.networkId →
    x.sourceAddress = e.sourceAddress →
    (e.status ∈ [ExecutionStatus.signing, .broadcast, .unknown, .confirmed] ∨ e.txHash.isSome) →
    (x.status ∈ [ExecutionStatus.signing, .broadcast, .unknown, .confirmed] ∨ x.txHash.isSome) →
    x.nonce = e.nonce → x = e

theorem ownsNonce_iff {e : ExecutionRow} :
    e.ownsNonce = true ↔
      (e.status ∈ [ExecutionStatus.signing, .broadcast, .unknown, .confirmed] ∨ e.txHash.isSome) := by
  cases hs : e.status <;> simp [ExecutionRow.ownsNonce, hs]

theorem Paired.noncesApart (hp : Paired cfg db) : NoncesApart db := by
  intro e he x hx hsub hnet hsrc hoe hox hn
  by_contra hne
  have hid : x.executionId ≠ e.executionId := fun hk => hne (Table.eq_of_key hx he hk)
  have hfalse := hp.separate e he x hx hid
  rw [← ownsNonce_iff] at hoe hox
  simp [DB.indexConflict, hsub, hnet, hsrc, hn, hoe, hox] at hfalse

/-- Numbers of requests that are known to be numbered. -/
theorem exists_numbers {orderId : Id} {n : Nat} {l : List Handed}
    (h : ∀ x ∈ l, ∃ k, 1 ≤ k ∧ k ≤ n ∧ x.requestId = requestIdOf orderId k) :
    ∃ numbers : List Nat, (∀ k ∈ numbers, 1 ≤ k ∧ k ≤ n) ∧
      l.map Handed.requestId = numbers.map (requestIdOf orderId) := by
  induction l with
  | nil => exact ⟨[], nofun, rfl⟩
  | cons x l ih =>
    obtain ⟨k, h1, hk, hid⟩ := h x List.mem_cons_self
    obtain ⟨numbers, hrange, hmap⟩ := ih (fun y hy => h y (List.mem_cons_of_mem _ hy))
    refine ⟨k :: numbers, ?_, by rw [List.map_cons, List.map_cons, hid, hmap]⟩
    intro m hm
    rcases List.mem_cons.mp hm with rfl | hm
    · exact ⟨h1, hk⟩
    · exact hrange m hm

/-- The list of an order, against its only execution. -/
theorem Enveloped.execution_of {s : Sys} (hj : Enveloped s) (hs : Sound cfg s.db) {orderId : Id} {h : Handed}
    (hm : h ∈ handedFor s orderId) :
    ∃ e ∈ s.db.executions, ∀ x ∈ handedFor s orderId, buildTransfer e.intent = .ok x.transfer ∧
      ∃ k, 1 ≤ k ∧ k ≤ e.attemptCount ∧ x.requestId = requestIdOf orderId k := by
  obtain ⟨hm, horder⟩ := List.mem_filter.mp hm
  obtain ⟨e, he, hk, -⟩ := hj.handed h hm
  refine ⟨e, he, ?_⟩
  intro x hx
  obtain ⟨hx, hxorder⟩ := List.mem_filter.mp hx
  simp only [decide_eq_true_eq] at horder hxorder
  obtain ⟨y, hy, hyk, hbuild, hreq⟩ := hj.handed x hx
  have hye : y = e := hs.paired.one_execution e he y hy (hyk.trans (hxorder.trans (horder.symm.trans hk.symm)))
  subst hye
  exact ⟨hbuild, hxorder ▸ hreq⟩

theorem Enveloped.requests_nodup {s : Sys} (hj : Enveloped s) (orderId : Id) :
    ((handedFor s orderId).map Handed.requestId).Nodup := by
  have hkeys : ((handedFor s orderId).map handedKey).Nodup :=
    (List.nodup_append.mp hj.distinct).1.sublist (List.filter_sublist.map _)
  have hmap : (handedFor s orderId).map handedKey = ((handedFor s orderId).map Handed.requestId).map (orderId, ·) := by
    rw [List.map_map]
    apply List.map_congr_left
    intro h hm
    have horder : h.orderId = orderId := by simpa using (List.mem_filter.mp hm).2
    simp [handedKey, horder]
  rw [hmap] at hkeys
  exact hkeys.of_map

/-- No double payment, in every state that any run reaches. -/
theorem no_double_payment {s : Sys} (h : (machine cfg).Reachable s) :
    (∀ orderId, PaysOnce s orderId) ∧ NoncesApart s.db := by
  have hs := reachable_sound h
  have hj := reachable_enveloped h
  refine ⟨fun orderId => ?_, hs.paired.noncesApart⟩
  have hsame : ∀ h ∈ handedFor s orderId, ∀ x ∈ handedFor s orderId, x.transfer = h.transfer := by
    intro h hm x hx
    obtain ⟨e, -, hall⟩ := hj.execution_of hs hm
    exact Except.ok.inj ((hall x hx).1.symm.trans (hall h hm).1)
  refine ⟨hsame, ?_, ?_⟩
  · cases hl : handedFor s orderId with
    | nil => exact ⟨[], .nil, ⟨0, by omega, nofun⟩, rfl⟩
    | cons h l =>
      obtain ⟨e, he, hall⟩ := hj.execution_of hs (hl ▸ List.mem_cons_self : h ∈ handedFor s orderId)
      obtain ⟨numbers, hrange, hmap⟩ := exists_numbers (fun x hx => (hall x hx).2)
      refine ⟨numbers, ?_, ⟨e.attemptCount, (hs.chained.bounded e he).2, hrange⟩, hl ▸ hmap⟩
      have hnodup := hj.requests_nodup orderId
      rw [hmap] at hnodup
      exact hnodup.of_map
  · -- all mined transactions of the order carry the sender and nonce of one envelope
    intro mined hmined
    cases hl : handedFor s orderId with
    | nil => simp
    | cons h l =>
      have hh : h ∈ handedFor s orderId := hl ▸ List.mem_cons_self
      have hnodup := hmined.sublist (List.filter_sublist (p := fun t => t ∈ (h :: l).map Handed.transfer)
        |>.map (fun t => (t.sourceAddress, t.chainId, t.nonce)))
      have hconst : (mined.filter (fun t => t ∈ (h :: l).map Handed.transfer)).map
          (fun t => (t.sourceAddress, t.chainId, t.nonce)) =
          List.replicate (mined.filter (fun t => t ∈ (h :: l).map Handed.transfer)).length
            (h.transfer.sourceAddress, h.transfer.chainId, h.transfer.nonce) := by
        refine List.map_eq_replicate_iff.mpr (fun t ht => ?_)
        obtain ⟨x, hx, rfl⟩ := List.mem_map.mp (of_decide_eq_true (List.mem_filter.mp ht).2)
        rw [hsame h hh x (hl ▸ hx)]
      rw [hconst, List.nodup_replicate] at hnodup
      exact hnodup

/-- The outcome of the first attempt is lost, the retry is handed over as well. -/
def sampleRetry : List Action := sampleAttempt ++
  [.answer 0 (readingsAt 2100 "k") .exception,
    .retry "payorder_i2" "subject-1" "operator" "outcome unknown",
    .lookup 1 2200 (fun _ => .pending),
    .prepare 1 (readingsAt 2300 "l"),
    .dispatch 1 ⟨2400, 2400, "", true⟩]

theorem no_double_payment_after_retry :
    (handedFor (sampleState sampleRetry) "payorder_i2").map Handed.requestId =
        ["payorder_i2:attempt:1", "payorder_i2:attempt:2"] ∧
      PaysOnce (sampleState sampleRetry) "payorder_i2" :=
  ⟨by decide +kernel, (no_double_payment (sampleState_reachable sampleRetry)).1 "payorder_i2"⟩

end Noyra.Wallet.Proofs
