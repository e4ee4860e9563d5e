import Noyra.Lib.SlidingWindow
import Noyra.Wallet.Acquisition

/-!
# The rate of acquisitions

Every attempt was admitted by the gates, so no window exceeds the limit. The prediction only looks at the attempts of
the window and truncates the instant it finds, so it agrees with the gates exactly when an interval still running
belongs to an attempt inside the window and the instant of release is a whole millisecond.
-/

namespace Noyra.Wallet.Acquisition.Proofs
open Noyra.Lib

variable {limits : AcquisitionLimits} {s s' : AcquisitionState} {subjectId networkId : Nat}

/-- Attempts are only opened by the gates, and settled once with at most the reserved requests. -/
inductive AttemptEffect (limits : AcquisitionLimits) (s s' : AcquisitionState) : Prop
  | unchanged : s'.attempts = s.attempts → AttemptEffect limits s s'
  | opened (a : AttemptRow) : s'.attempts.rows = s.attempts.rows ++ [a] → a.status = .executing →
      a.reservedRequestCount = 2 → a.requestCount = none → gates limits s a.subjectId a.networkId a.startedAt = true →
      AttemptEffect limits s s'
  | settled (a : AttemptRow) (outcome : AttemptStatus) (count : Option Nat) : a ∈ s.attempts → a.status = .executing →
      outcome ≠ .executing → (∀ n ∈ count, n ≤ 2) →
      s'.attempts = s.attempts.replace { a with status := outcome, requestCount := count } → AttemptEffect limits s s'

lemma selectCandidate_spec {targetActive : RunRow → Bool} {current : ℤ} {rows : List RunRow} {selected : Option RunRow}
    (h : selectCandidate limits targetActive subjectId current rows s = (s', selected)) :
    s'.attempts = s.attempts ∧ ∀ r ∈ selected, gates limits s subjectId r.networkId current = true := by
  induction rows generalizing s with
  | nil =>
    cases h
    exact ⟨rfl, fun r hr => by cases hr⟩
  | cons candidate rest ih =>
    unfold selectCandidate at h
    split at h
    · have hrest := ih h
      exact hrest
    · split at h
      · exact ih h
      · next hgates =>
        cases h
        refine ⟨rfl, fun r hr => ?_⟩
        cases hr
        exact eq_true_of_ne_false hgates

lemma claimDue_effect {targetActive : RunRow → Bool} {owner : String} {token attemptId : Nat} {current : ℤ}
    (h : claimDue limits targetActive subjectId owner token attemptId current s = .ok s') :
    AttemptEffect limits s s' := by
  unfold claimDue at h
  split at h
  · cases h
    exact .unchanged rfl
  · cases hselect : selectCandidate limits targetActive subjectId current (candidates s subjectId current) s with
    | mk s₁ selected =>
      obtain ⟨hattempts, hgates⟩ := selectCandidate_spec hselect
      rw [hselect] at h
      cases selected with
      | none =>
        cases h
        exact .unchanged hattempts
      | some selected =>
        obtain ⟨_, -, h⟩ := bind_eq_ok.mp h
        obtain ⟨attempts, hinsert, h⟩ := bind_eq_ok.mp h
        cases h
        obtain ⟨-, hrows⟩ := Table.insert?_eq_some.mp (orRaise_eq_ok.mp hinsert)
        rw [hattempts] at hrows
        exact .opened _ hrows rfl rfl rfl (hgates selected rfl)

lemma claimRow_spec {runId token : Nat} {owner : String} {now : ℤ} {row : RunRow} {attempt : AttemptRow}
    (h : claimRow runId subjectId token owner now s = .ok (row, attempt)) :
    attempt ∈ s.attempts ∧ attempt.status = .executing := by
  obtain ⟨_, -, h⟩ := bind_eq_ok.mp h
  obtain ⟨_, -, h⟩ := bind_eq_ok.mp h
  obtain ⟨found, hfound, h⟩ := bind_eq_ok.mp h
  obtain ⟨_, -, h⟩ := bind_eq_ok.mp h
  cases h
  have hfound := orRaise_eq_ok.mp hfound
  have hsome := List.find?_some hfound
  simp only [Bool.and_eq_true, decide_eq_true_eq] at hsome
  exact ⟨List.mem_of_find?_eq_some hfound, hsome.2⟩

lemma recoverRunning_effect {row : RunRow} (h : recoverRunning row s = .ok s') : AttemptEffect limits s s' := by
  obtain ⟨_, -, h⟩ := bind_eq_ok.mp h
  obtain ⟨_, -, h⟩ := bind_eq_ok.mp h
  obtain ⟨found, hfound, h⟩ := bind_eq_ok.mp h
  obtain ⟨_, -, h⟩ := bind_eq_ok.mp h
  cases h
  have hfound := orRaise_eq_ok.mp hfound
  have hsome := List.find?_some hfound
  simp only [Bool.and_eq_true, decide_eq_true_eq] at hsome
  exact .settled found .unknown none (List.mem_of_find?_eq_some hfound) hsome.2 (by decide) (by simp) rfl

lemma run_effect {a : AcquisitionAction} (h : run limits s a = .ok s') : AttemptEffect limits s s' := by
  cases a with
  | enqueue runId subjectId networkId assetId addressId key maxAttempts dueAt =>
    obtain ⟨_, -, h⟩ := bind_eq_ok.mp h
    split at h
    · obtain ⟨_, -, h⟩ := bind_eq_ok.mp h
      cases h
      exact .unchanged rfl
    · obtain ⟨_, -, h⟩ := bind_eq_ok.mp h
      obtain ⟨_, -, h⟩ := bind_eq_ok.mp h
      cases h
      exact .unchanged rfl
  | claimDue targetActive subjectId owner token attemptId current => exact claimDue_effect h
  | completeSuccess runId subjectId token owner now =>
    obtain ⟨⟨row, attempt⟩, hclaim, h⟩ := bind_eq_ok.mp h
    cases h
    obtain ⟨hmem, hstatus⟩ := claimRow_spec hclaim
    exact .settled attempt .succeeded (some 2) hmem hstatus (by decide) (by simp) rfl
  | fail runId subjectId token owner requestCount shouldRetry now =>
    obtain ⟨_, hcount, h⟩ := bind_eq_ok.mp h
    obtain ⟨⟨row, attempt⟩, hclaim, h⟩ := bind_eq_ok.mp h
    obtain ⟨hmem, hstatus⟩ := claimRow_spec hclaim
    have hle : ∀ n ∈ some requestCount, n ≤ 2 := by
      intro n hn
      cases hn
      exact Nat.not_lt.mp (raiseIf_eq_ok.mp hcount)
    dsimp only at h
    split at h
    · cases h
      exact .settled attempt .failed (some requestCount) hmem hstatus (by decide) hle rfl
    · cases h
      exact .settled attempt .failed (some requestCount) hmem hstatus (by decide) hle rfl
  | markUnknown runId subjectId token owner now =>
    obtain ⟨⟨row, attempt⟩, hclaim, h⟩ := bind_eq_ok.mp h
    cases h
    obtain ⟨hmem, hstatus⟩ := claimRow_spec hclaim
    exact .settled attempt .unknown none hmem hstatus (by decide) (by simp) rfl
  | recoverExpired runId subjectId current =>
    obtain ⟨_, -, h⟩ := bind_eq_ok.mp h
    obtain ⟨_, -, h⟩ := bind_eq_ok.mp h
    exact recoverRunning_effect h
  | recoverInterrupted runId subjectId =>
    obtain ⟨_, -, h⟩ := bind_eq_ok.mp h
    obtain ⟨_, -, h⟩ := bind_eq_ok.mp h
    exact recoverRunning_effect h
  | renew runId subjectId token owner now =>
    obtain ⟨_, -, h⟩ := bind_eq_ok.mp h
    split at h
    · cases h
      exact .unchanged rfl
    · cases h
      exact .unchanged rfl
  | retryUnknown runId subjectId dueAt =>
    obtain ⟨_, -, h⟩ := bind_eq_ok.mp h
    obtain ⟨_, -, h⟩ := bind_eq_ok.mp h
    obtain ⟨_, -, h⟩ := bind_eq_ok.mp h
    obtain ⟨_, -, h⟩ := bind_eq_ok.mp h
    obtain ⟨_, -, h⟩ := bind_eq_ok.mp h
    cases h
    exact .unchanged rfl
  | cancel runId subjectId =>
    obtain ⟨_, -, h⟩ := bind_eq_ok.mp h
    obtain ⟨_, -, h⟩ := bind_eq_ok.mp h
    obtain ⟨_, -, h⟩ := bind_eq_ok.mp h
    cases h
    exact .unchanged rfl

/-- The start of an attempt in microseconds. -/
def startMicros (a : AttemptRow) : ℤ := a.startedAt * 1000

/-- At this instant both rules admit another attempt. -/
def Clear (limits : AcquisitionLimits) (rows : List AttemptRow) (t : ℤ) : Prop :=
  (∀ interval ∈ limits.minInterval, ∀ a ∈ rows, startMicros a + interval ≤ t) ∧
    load startMicros AttemptRow.cost limits.window rows t + 2 ≤ limits.requestLimitPerWindow

lemma inWindow_iff {a : AttemptRow} {now : ℤ} :
    after now (-limits.window) < a.startedAt ↔ now * 1000 < startMicros a + limits.window := by
  unfold after startMicros
  omega

lemma load_inWindow (rows : List AttemptRow) (now : ℤ) :
    ((inWindow limits rows now).map AttemptRow.cost).sum = load startMicros AttemptRow.cost limits.window rows
      (now * 1000) := by
  unfold inWindow load
  simp only [inWindow_iff]

lemma earlier_iff {a b : AttemptRow} :
    earlier a b = true ↔ a.startedAt < b.startedAt ∨ a.startedAt = b.startedAt ∧ a.attemptId ≤ b.attemptId := by
  unfold earlier
  rw [Bool.or_eq_true, Bool.and_eq_true, decide_eq_true_eq, decide_eq_true_eq, decide_eq_true_eq]

lemma byStart_sorted (rows : List AttemptRow) : (byStart rows).Pairwise (fun a b => startMicros a ≤ startMicros b) := by
  have htotal : Std.Total (fun a b : AttemptRow => earlier a b = true) := ⟨by
    intro a b
    rw [earlier_iff, earlier_iff]
    omega⟩
  have htrans : IsTrans AttemptRow (fun a b => earlier a b = true) := ⟨by
    intro a b c
    rw [earlier_iff, earlier_iff, earlier_iff]
    omega⟩
  have hsorted : (byStart rows).Pairwise (fun a b => earlier a b = true) := List.pairwise_insertionSort _ _
  refine hsorted.imp fun {a b} h => ?_
  rw [earlier_iff] at h
  unfold startMicros
  omega

lemma byStart_perm (rows : List AttemptRow) : (byStart rows).Perm rows := List.perm_insertionSort _ _

/-- The last row in the order of the starts is a latest one. -/
lemma le_last {rows : List AttemptRow} {last : AttemptRow} (h : (byStart rows).getLast? = some last) :
    last ∈ rows ∧ ∀ a ∈ rows, startMicros a ≤ startMicros last := by
  obtain ⟨initial, hinitial⟩ := List.getLast?_eq_some_iff.mp h
  have hsorted := byStart_sorted rows
  have hperm := byStart_perm rows
  rw [hinitial] at hsorted hperm
  refine ⟨hperm.mem_iff.mp (by simp), fun a ha => ?_⟩
  rcases List.mem_append.mp (hperm.mem_iff.mpr ha) with ha | ha
  · exact (List.pairwise_append.mp hsorted).2.2 a ha last (List.mem_singleton_self last)
  · rw [List.mem_singleton.mp ha]

lemma byStart_getLast?_eq_none {rows : List AttemptRow} : (byStart rows).getLast? = none ↔ rows = [] := by
  rw [List.getLast?_eq_none_iff]
  exact ⟨fun h => List.Perm.eq_nil (h ▸ (byStart_perm rows).symm), fun h => by rw [h]; rfl⟩

lemma networkDueAllowed_iff {now : ℤ} :
    networkDueAllowed limits s subjectId networkId now = true ↔
      ∀ interval ∈ limits.minInterval, ∀ a ∈ attemptsOf s subjectId networkId, startMicros a + interval ≤
        now * 1000 := by
  unfold networkDueAllowed
  cases limits.minInterval with
  | none => simp
  | some interval =>
    simp only [Option.mem_some_iff, forall_eq']
    cases hlast : (byStart (attemptsOf s subjectId networkId)).getLast? with
    | none =>
      rw [byStart_getLast?_eq_none.mp hlast]
      simp
    | some latest =>
      obtain ⟨hmem, hle⟩ := le_last hlast
      rw [decide_eq_true_eq]
      constructor
      · intro h a ha
        have := hle a ha
        unfold startMicros at *
        omega
      · intro h
        exact h latest hmem

lemma gates_iff {now : ℤ} :
    gates limits s subjectId networkId now = true ↔ Clear limits (attemptsOf s subjectId networkId) (now * 1000) := by
  unfold gates requestBudgetAllowed Clear
  rw [Bool.and_eq_true, networkDueAllowed_iff, decide_eq_true_eq, load_inWindow]

/-- What the database promises of every attempt, and the pace of every network. -/
structure Kept (limits : AcquisitionLimits) (s : AcquisitionState) : Prop where
  reserved : ∀ a ∈ s.attempts, a.reservedRequestCount = 2
  uncounted : ∀ a ∈ s.attempts, a.status = .executing → a.requestCount = none
  paced : ∀ subjectId networkId, Paced startMicros AttemptRow.cost limits.window limits.requestLimitPerWindow 2
    (attemptsOf s subjectId networkId)

lemma kept_opened {a : AttemptRow} (h : Kept limits s) (hrows : s'.attempts.rows = s.attempts.rows ++ [a])
    (hreserved : a.reservedRequestCount = 2) (hcount : a.requestCount = none)
    (hgates : gates limits s a.subjectId a.networkId a.startedAt = true) : Kept limits s' := by
  have hmem : ∀ x, x ∈ s'.attempts ↔ x ∈ s.attempts ∨ x = a := by
    intro x
    rw [Table.mem_def, hrows, List.mem_append, List.mem_singleton]
    rfl
  refine ⟨?_, ?_, fun subjectId networkId => ?_⟩
  · intro x hx
    rcases (hmem x).mp hx with hx | rfl
    · exact h.reserved x hx
    · exact hreserved
  · intro x hx hstatus
    rcases (hmem x).mp hx with hx | rfl
    · exact h.uncounted x hx hstatus
    · exact hcount
  · unfold attemptsOf
    rw [hrows, List.filter_append]
    by_cases hown : a.subjectId = subjectId ∧ a.networkId = networkId
    · obtain ⟨rfl, rfl⟩ := hown
      have hone : [a].filter (fun x => x.subjectId = a.subjectId && x.networkId = a.networkId) = [a] := by simp
      rw [hone]
      refine .snoc (h.paced _ _) (gates_iff.mp hgates).2 ?_
      unfold AttemptRow.cost
      rw [hcount, hreserved]
      exact Nat.le_refl 2
    · have hnone : [a].filter (fun x => x.subjectId = subjectId && x.networkId = networkId) = [] := by
        rw [List.filter_eq_nil_iff]
        intro x hx
        rw [List.mem_singleton.mp hx, Bool.and_eq_true, decide_eq_true_eq, decide_eq_true_eq]
        exact hown
      rw [hnone, List.append_nil]
      exact h.paced _ _

lemma kept_settled {a : AttemptRow} {outcome : AttemptStatus} {count : Option Nat} (h : Kept limits s)
    (ha : a ∈ s.attempts)
    (hstatus : a.status = .executing) (houtcome : outcome ≠ .executing) (hcount : ∀ n ∈ count, n ≤ 2)
    (hrows : s'.attempts = s.attempts.replace { a with status := outcome, requestCount := count }) :
    Kept limits s' := by
  have hmem : ∀ x ∈ s'.attempts, x = { a with status := outcome, requestCount := count } ∨ x ∈ s.attempts := by
    intro x hx
    rw [hrows, Table.mem_replace] at hx
    exact hx.imp And.left And.left
  refine ⟨?_, ?_, fun subjectId networkId => ?_⟩
  · intro x hx
    rcases hmem x hx with rfl | hx
    · exact h.reserved a ha
    · exact h.reserved x hx
  · intro x hx hexecuting
    rcases hmem x hx with rfl | hx
    · exact absurd hexecuting houtcome
    · exact h.uncounted x hx hexecuting
  · -- the settled attempt keeps its start and its network, and costs no more than was reserved
    let settled : AttemptRow → AttemptRow := fun x =>
      if x.attemptId = a.attemptId then { a with status := outcome, requestCount := count } else x
    have hsettled : ∀ x ∈ s.attempts.rows, startMicros (settled x) = startMicros x ∧ (settled x).cost ≤ x.cost ∧
        (settled x).subjectId = x.subjectId ∧ (settled x).networkId = x.networkId := by
      intro x hx
      by_cases hkey : x.attemptId = a.attemptId
      · have heq : x = a := Table.eq_of_key hx ha hkey
        subst heq
        have hcost : x.cost = 2 := by
          unfold AttemptRow.cost
          rw [h.uncounted x hx hstatus]
          exact h.reserved x hx
        have hle : count.getD x.reservedRequestCount ≤ 2 := by
          cases count with
          | none => exact (h.reserved x hx).le
          | some n => exact hcount n rfl
        have hnew : settled x = { x with status := outcome, requestCount := count } := if_pos rfl
        rw [hnew, hcost]
        exact ⟨rfl, hle, rfl, rfl⟩
      · have hold : settled x = x := if_neg hkey
        rw [hold]
        exact ⟨rfl, Nat.le_refl _, rfl, rfl⟩
    have hmap : attemptsOf s' subjectId networkId = (attemptsOf s subjectId networkId).map settled := by
      unfold attemptsOf
      rw [hrows]
      change (s.attempts.rows.map settled).filter _ = _
      rw [List.filter_map]
      refine congrArg _ (List.filter_congr fun x hx => ?_)
      obtain ⟨-, -, hsubject, hnetwork⟩ := hsettled x hx
      simp only [Function.comp_apply, hsubject, hnetwork]
    rw [hmap]
    refine (h.paced subjectId networkId).map fun x hx => ?_
    have hx' := hsettled x (List.mem_of_mem_filter hx)
    exact ⟨hx'.1, hx'.2.1⟩

lemma kept_step {a : AcquisitionAction} (h : Kept limits s) : Kept limits (step limits s a) := by
  unfold step
  cases hrun : run limits s a with
  | error e => exact h
  | ok s' =>
    cases run_effect hrun with
    | unchanged hrows =>
      refine ⟨by rw [hrows]; exact h.reserved, by rw [hrows]; exact h.uncounted, fun subjectId networkId => ?_⟩
      unfold attemptsOf
      rw [hrows]
      exact h.paced subjectId networkId
    | opened a hrows _ hreserved hcount hgates => exact kept_opened h hrows hreserved hcount hgates
    | settled a outcome count ha hstatus houtcome hcount hrows => exact kept_settled h ha hstatus houtcome hcount hrows

lemma kept_reachable (h : (ledger limits).Reachable s) : Kept limits s := by
  refine h.invariant (I := Kept limits) ?_ (fun _ _ hs _ => kept_step hs)
  rintro s rfl
  refine ⟨?_, ?_, fun _ _ => .nil⟩
  · intro a ha
    cases ha
  · intro a ha
    cases ha

/-! ### The prediction -/

lemma budgetRow_eq (limit outstanding : Nat) (rows : List AttemptRow) :
    budgetRow limit outstanding rows = release AttemptRow.cost limit 2 outstanding rows := by
  induction rows generalizing outstanding with
  | nil => rfl
  | cons row rest ih =>
    unfold budgetRow release
    rw [ih]

lemma used_add_reserved (rows : List AttemptRow) :
    (rows.filterMap AttemptRow.requestCount).sum +
      ((rows.filter (fun a => a.requestCount.isNone)).map AttemptRow.reservedRequestCount).sum =
        (rows.map AttemptRow.cost).sum := by
  induction rows with
  | nil => rfl
  | cons a rows ih =>
    have hcost : a.cost = a.requestCount.getD a.reservedRequestCount := rfl
    rw [List.map_cons, List.sum_cons, hcost, List.filterMap_cons, List.filter_cons]
    cases a.requestCount with
    | none =>
      simp only [Option.isNone_none, if_true, List.map_cons, List.sum_cons, Option.getD_none]
      omega
    | some n =>
      simp only [Option.isNone_some, Bool.false_eq_true, if_false, List.sum_cons, Option.getD_some]
      omega

/-- The predicted instant in microseconds. -/
def dueMicros (limits : AcquisitionLimits) (rows : List AttemptRow) (now : ℤ) : Option ℤ :=
  nextAllowed limits (byStart (inWindow limits rows now)) ((byStart (inWindow limits rows now)).map AttemptRow.cost).sum

lemma nextAllowedAt_eq (now : ℤ) :
    (budgetStatus limits s subjectId networkId now).nextAllowedAt =
      (dueMicros limits (attemptsOf s subjectId networkId) now).map (· / 1000) := by
  unfold dueMicros
  rw [← used_add_reserved]
  rfl

/-- While the interval runs, some attempt is still inside the window. -/
def Seen (limits : AcquisitionLimits) (rows : List AttemptRow) (now : ℤ) : Prop :=
  (∃ interval ∈ limits.minInterval, ∃ a ∈ rows, now * 1000 < startMicros a + interval) →
    ∃ a ∈ rows, now * 1000 < startMicros a + limits.window

lemma mem_inWindow {rows : List AttemptRow} {now : ℤ} {a : AttemptRow} :
    a ∈ inWindow limits rows now ↔ a ∈ rows ∧ now * 1000 < startMicros a + limits.window := by
  unfold inWindow
  rw [List.mem_filter, decide_eq_true_eq, inWindow_iff]

/-- From `now` on only the attempts of the window are charged. -/
lemma load_later {rows : List AttemptRow} {now t : ℤ} (h : now * 1000 ≤ t) :
    load startMicros AttemptRow.cost limits.window rows t =
      load startMicros AttemptRow.cost limits.window (byStart (inWindow limits rows now)) t := by
  rw [load_perm (byStart_perm _)]
  unfold load inWindow
  rw [List.filter_filter]
  refine congrArg (fun l => (l.map AttemptRow.cost).sum) (List.filter_congr fun a _ => ?_)
  rw [← Bool.decide_and, decide_eq_decide, inWindow_iff]
  omega

/-- The budget alone: the instant from which two more requests fit, unless they fit already. -/
def budgetDue (limits : AcquisitionLimits) (rows : List AttemptRow) (outstanding : Nat) : Option ℤ :=
  if limits.requestLimitPerWindow < outstanding + 2 then
    (budgetRow limits.requestLimitPerWindow outstanding rows).map (fun row => row.startedAt * 1000 + limits.window)
  else none

/-- The interval alone. -/
def intervalDue (limits : AcquisitionLimits) (rows : List AttemptRow) : Option ℤ :=
  limits.minInterval.bind (fun interval => rows.getLast?.map (fun last => last.startedAt * 1000 + interval))

/-- Nothing is due before the later of the two instants. -/
lemma nextAllowed_le_iff (rows : List AttemptRow) (outstanding : Nat) (t : ℤ) :
    (∀ due ∈ nextAllowed limits rows outstanding, due ≤ t) ↔
      (∀ due ∈ intervalDue limits rows, due ≤ t) ∧ ∀ due ∈ budgetDue limits rows outstanding, due ≤ t := by
  unfold nextAllowed budgetDue intervalDue
  by_cases hfull : limits.requestLimitPerWindow < outstanding + 2
  · simp only [if_pos hfull]
    cases budgetRow limits.requestLimitPerWindow outstanding rows with
    | none => cases limits.minInterval <;> cases rows.getLast? <;> simp
    | some row => cases limits.minInterval <;> cases rows.getLast? <;> simp
  · simp only [if_neg hfull]
    cases limits.minInterval <;> cases rows.getLast? <;> simp

lemma budgetDue_spec {rows : List AttemptRow} {now t : ℤ} (h : now * 1000 ≤ t) :
    (∀ due ∈ budgetDue limits (byStart (inWindow limits rows now))
      ((byStart (inWindow limits rows now)).map AttemptRow.cost).sum,
      due ≤ t) ↔ load startMicros AttemptRow.cost limits.window rows t + 2 ≤ limits.requestLimitPerWindow := by
  rw [load_later h]
  unfold budgetDue
  by_cases hfull : limits.requestLimitPerWindow < ((byStart (inWindow limits rows now)).map AttemptRow.cost).sum + 2
  · obtain ⟨row, -, hrelease, hiff⟩ := release_spec limits.budget.1 (byStart_sorted (inWindow limits rows now)) hfull
    rw [if_pos hfull, budgetRow_eq, hrelease, hiff]
    simp [startMicros]
  · rw [if_neg hfull]
    have htotal : load startMicros AttemptRow.cost limits.window (byStart (inWindow limits rows now)) t ≤
      ((byStart (inWindow limits rows now)).map AttemptRow.cost).sum := load_le_total _ t
    simp only [Option.not_mem_none, false_implies, implies_true, true_iff]
    omega

lemma intervalDue_spec {rows : List AttemptRow} {now t : ℤ} (hseen : Seen limits rows now) (h : now * 1000 ≤ t) :
    (∀ due ∈ intervalDue limits (byStart (inWindow limits rows now)), due ≤ t) ↔
      ∀ interval ∈ limits.minInterval, ∀ a ∈ rows, startMicros a + interval ≤ t := by
  unfold intervalDue
  cases hmin : limits.minInterval with
  | none => simp
  | some interval =>
    simp only [Option.mem_some_iff, forall_eq', Option.bind_some]
    cases hlast : (byStart (inWindow limits rows now)).getLast? with
    | none =>
      -- nothing is inside the window, so no interval runs
      have hempty : inWindow limits rows now = [] := byStart_getLast?_eq_none.mp hlast
      simp only [Option.map_none, Option.not_mem_none, false_implies, implies_true, true_iff]
      intro a ha
      by_contra hrun
      obtain ⟨b, hb, hinside⟩ := hseen ⟨interval, hmin, a, ha, by omega⟩
      have hmem : b ∈ inWindow limits rows now := mem_inWindow.mpr ⟨hb, hinside⟩
      rw [hempty] at hmem
      cases hmem
    | some last =>
      obtain ⟨hmem, hle⟩ := le_last hlast
      obtain ⟨hrow, hinside⟩ := mem_inWindow.mp hmem
      simp only [Option.map_some, Option.mem_some_iff, forall_eq']
      constructor
      · intro hdue a ha
        have hlate : startMicros a ≤ startMicros last := by
          by_cases hin : now * 1000 < startMicros a + limits.window
          · exact hle a (mem_inWindow.mpr ⟨ha, hin⟩)
          · omega
        unfold startMicros at *
        omega
      · intro hall
        exact hall last hrow

/-- The predicted instant is the first at which both rules admit an attempt. -/
lemma dueMicros_spec {rows : List AttemptRow} {now t : ℤ} (hseen : Seen limits rows now) (h : now * 1000 ≤ t) :
    Clear limits rows t ↔ ∀ due ∈ dueMicros limits rows now, due ≤ t := by
  unfold dueMicros Clear
  rw [nextAllowed_le_iff, intervalDue_spec hseen h, budgetDue_spec h]

/-- The prediction agrees with the gates, and names the first time at which they admit an attempt. -/
structure PredictedExactly (limits : AcquisitionLimits) (s : AcquisitionState) (subjectId networkId : Nat) (now : ℤ) :
    Prop where
  agrees : gates limits s subjectId networkId now = true ↔
    ∀ next ∈ (budgetStatus limits s subjectId networkId now).nextAllowedAt, next ≤ now
  first : ∀ next ∈ (budgetStatus limits s subjectId networkId now).nextAllowedAt, now < next →
    gates limits s subjectId networkId next = true ∧ ∀ t, now ≤ t → t < next →
      gates limits s subjectId networkId t = false

/-- The interval that runs is one the window still shows, and no rule is lifted within a millisecond. -/
structure ReleasedOnTime (limits : AcquisitionLimits) (rows : List AttemptRow) (now : ℤ) : Prop where
  seen : Seen limits rows now
  whole : ∀ t, now * 1000 ≤ t → Clear limits rows t → Clear limits rows (t / 1000 * 1000)

lemma seen_of_predicted {now : ℤ} (h : PredictedExactly limits s subjectId networkId now) :
    Seen limits (attemptsOf s subjectId networkId) now := by
  rintro ⟨interval, hinterval, a, ha, hruns⟩
  by_contra hnone
  have hempty : inWindow limits (attemptsOf s subjectId networkId) now = [] := by
    refine List.eq_nil_iff_forall_not_mem.mpr fun b hb => ?_
    exact hnone ⟨b, (mem_inWindow.mp hb).1, (mem_inWindow.mp hb).2⟩
  have hdue : dueMicros limits (attemptsOf s subjectId networkId) now = none := by
    have hfits : ¬limits.requestLimitPerWindow < 0 + 2 := by
      have := limits.budget.1
      omega
    unfold dueMicros
    rw [hempty]
    unfold byStart nextAllowed
    simp only [List.insertionSort_nil, List.getLast?_nil, List.map_nil, List.sum_nil]
    rw [if_neg hfits]
    cases limits.minInterval <;> rfl
  have hadmits := h.agrees.mpr (by rw [nextAllowedAt_eq, hdue]; simp)
  have := (gates_iff.mp hadmits).1 interval hinterval a ha
  omega

theorem predictedExactly_iff {now : ℤ} :
    PredictedExactly limits s subjectId networkId now ↔
    ReleasedOnTime limits (attemptsOf s subjectId networkId) now := by
  by_cases hseen : Seen limits (attemptsOf s subjectId networkId) now
  swap
  · exact ⟨fun h => absurd (seen_of_predicted h) hseen, fun h => absurd h.seen hseen⟩
  have hgates : ∀ t, now ≤ t → (gates limits s subjectId networkId t = true ↔
      ∀ due ∈ dueMicros limits (attemptsOf s subjectId networkId) now, due ≤ t * 1000) := by
    intro t ht
    rw [gates_iff, dueMicros_spec hseen (by omega)]
  have hclear : ∀ t, now * 1000 ≤ t → (Clear limits (attemptsOf s subjectId networkId) t ↔
      ∀ due ∈ dueMicros limits (attemptsOf s subjectId networkId) now, due ≤ t) := fun t ht => dueMicros_spec hseen ht
  have hnext : (budgetStatus limits s subjectId networkId now).nextAllowedAt =
    (dueMicros limits (attemptsOf s subjectId networkId) now).map (· / 1000) := nextAllowedAt_eq now
  cases hdue : dueMicros limits (attemptsOf s subjectId networkId) now with
  | none =>
    rw [hdue] at hgates hclear hnext
    simp only [Option.not_mem_none, false_implies, implies_true, iff_true] at hgates hclear
    rw [Option.map_none] at hnext
    refine ⟨fun _ => ⟨hseen, fun t ht _ => hclear _ (by omega)⟩, fun _ => ⟨?_, ?_⟩⟩
    · rw [hnext]
      simp [hgates now (by omega)]
    · rw [hnext]
      simp
  | some due =>
    rw [hdue] at hgates hclear hnext
    simp only [Option.mem_some_iff, forall_eq'] at hgates hclear
    rw [Option.map_some] at hnext
    constructor
    · intro h
      have hagrees := h.agrees
      have hfirst := h.first
      rw [hnext, hgates now (by omega)] at hagrees
      rw [hnext] at hfirst
      simp only [Option.mem_some_iff, forall_eq'] at hagrees hfirst
      refine ⟨hseen, fun t ht hrelease => ?_⟩
      rw [hclear t ht] at hrelease
      rw [hclear _ (by omega)]
      by_cases hlater : now < due / 1000
      · have hexact := (hgates _ (by omega)).mp (hfirst hlater).1
        omega
      · omega
    · intro h
      have hwhole := h.whole (max due (now * 1000)) (by omega)
      rw [hclear _ (by omega), hclear _ (by omega)] at hwhole
      have hfloor := hwhole (by omega)
      refine ⟨?_, ?_⟩
      · rw [hnext, hgates now (by omega)]
        simp only [Option.mem_some_iff, forall_eq']
        omega
      · rw [hnext]
        intro next heq hlater
        rw [← Option.mem_some_iff.mp heq] at hlater ⊢
        refine ⟨(hgates _ (by omega)).mpr (by omega), fun t ht hlt => ?_⟩
        rw [← Bool.not_eq_true, hgates t ht]
        omega

/-- With whole milliseconds and an interval within the window every prediction is exact. -/
lemma releasedOnTime_of_whole (hwindow : limits.window % 1000 = 0)
    (hinterval : ∀ interval ∈ limits.minInterval, interval % 1000 = 0 ∧ interval ≤ limits.window)
    (rows : List AttemptRow) (now : ℤ) : ReleasedOnTime limits rows now := by
  have hseen : Seen limits rows now := by
    rintro ⟨interval, hmem, a, ha, hruns⟩
    have hle := (hinterval interval hmem).2
    exact ⟨a, ha, by omega⟩
  refine ⟨hseen, fun t ht hclear => ⟨fun interval hmem a ha => ?_, ?_⟩⟩
  · have hstart := hclear.1 interval hmem a ha
    have hround := (hinterval interval hmem).1
    unfold startMicros at *
    omega
  · have hload : load startMicros AttemptRow.cost limits.window rows (t / 1000 * 1000) =
        load startMicros AttemptRow.cost limits.window rows t := by
      unfold load
      refine congrArg (fun l => (l.map AttemptRow.cost).sum) (List.filter_congr fun a _ => ?_)
      rw [decide_eq_decide]
      unfold startMicros
      omega
    rw [hload]
    exact hclear.2

/-- No window exceeds the limit, and the gates are predicted exactly when they are released on time. -/
theorem rate_limited_and_predicted_iff {limits : AcquisitionLimits} {s : AcquisitionState}
    (h : (ledger limits).Reachable s) (subjectId networkId : Nat) :
    (∀ t, windowLoad startMicros AttemptRow.cost limits.window (attemptsOf s subjectId networkId) t ≤
      limits.requestLimitPerWindow) ∧
    ∀ now, PredictedExactly limits s subjectId networkId now ↔
    ReleasedOnTime limits (attemptsOf s subjectId networkId) now :=
  ⟨((kept_reachable h).paced subjectId networkId).windowLoad_le, fun _ => predictedExactly_iff⟩

def halfMinuteApart : AcquisitionLimits where
  maxConcurrent := 2
  minInterval := some 30000000
  window := 60000000
  requestLimitPerWindow := 4
  lease := 60000000
  retryDelay := fun _ => 2000000
  concurrency := by decide
  interval := by simp
  windowBounds := by decide
  budget := by decide
  leaseBounds := by decide

/-- Two queued runs are claimed half a minute apart; a claim a millisecond earlier is refused. -/
def twoAttempts : List AcquisitionAction :=
  [.enqueue 1 1 1 1 1 "key" 5 0, .enqueue 2 1 1 1 2 "other" 5 0, .claimDue (fun _ => true) 1 "worker" 1 1 0,
    .claimDue (fun _ => true) 1 "worker" 2 2 29999, .claimDue (fun _ => true) 1 "worker" 3 3 30000]

def afterTwo : AcquisitionState := twoAttempts.foldl (step halfMinuteApart) ⟨.empty, .empty⟩

/-- Two attempts fill the window; a second later the end of the first one's minute is predicted, and the gates open
then. -/
theorem rate_limited_and_predicted_two_attempts :
    (∀ t, windowLoad startMicros AttemptRow.cost 60000000 (attemptsOf afterTwo 1 1) t ≤ 4) ∧
    ReleasedOnTime halfMinuteApart (attemptsOf afterTwo 1 1) 31000 ∧
    PredictedExactly halfMinuteApart afterTwo 1 1 31000 ∧
    (budgetStatus halfMinuteApart afterTwo 1 1 31000).nextAllowedAt = some 60000 ∧
    (attemptsOf afterTwo 1 1).map (fun a => (a.startedAt, a.cost)) = [(0, 2), (30000, 2)] := by
  have hkept := rate_limited_and_predicted_iff (@Machine.reachable_foldl _ _ (ledger halfMinuteApart) ⟨.empty, .empty⟩
      rfl twoAttempts) 1 1
  have hreleased : ReleasedOnTime halfMinuteApart (attemptsOf afterTwo 1 1) 31000 := by
    apply releasedOnTime_of_whole
    · decide
    · intro interval hinterval
      cases hinterval
      decide
  refine ⟨hkept.1, hreleased, (hkept.2 31000).mpr hreleased, ?_, ?_⟩
  · decide +kernel
  · decide +kernel

/-! ### An interval longer than the window -/

def twoMinutesApart : AcquisitionLimits where
  maxConcurrent := 2
  minInterval := some 120000000
  window := 60000000
  requestLimitPerWindow := 30
  lease := 60000000
  retryDelay := fun _ => 2000000
  concurrency := by decide
  interval := by simp
  windowBounds := by decide
  budget := by decide
  leaseBounds := by decide

/-- One run is queued and claimed at the origin of time. -/
def oneAttempt : List AcquisitionAction :=
  [.enqueue 1 1 1 1 1 "key" 5 0, .claimDue (fun _ => true) 1 "worker" 1 1 0]

lemma oneAttempt_reachable : (ledger twoMinutesApart).Reachable
    (oneAttempt.foldl (step twoMinutesApart) ⟨.empty, .empty⟩) :=
  Machine.reachable_foldl rfl oneAttempt

/-- After the window has passed nothing is predicted, and the gates still refuse. -/
theorem attempt_outside_window_unseen :
    ¬∀ (limits : AcquisitionLimits) (s : AcquisitionState), (ledger limits).Reachable s → ∀ subjectId networkId now,
      PredictedExactly limits s subjectId networkId now := by
  intro hclaim
  have hexact := (hclaim twoMinutesApart _ oneAttempt_reachable 1 1 100000).agrees
  revert hexact
  decide

end Noyra.Wallet.Acquisition.Proofs
