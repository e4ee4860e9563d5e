import Mathlib.Data.List.TakeWhile
import Noyra.Core.ProviderHealth

/-!
# The circuit breaker

Every outstanding probe permit is the one stored in its provider's row, or it has expired. From this at most
one permit of a provider is younger than two minutes; a completion with another token finds the row fenced;
and a row in cooldown or half open always has a cooldown to wait for.
-/

namespace Noyra.Core.Proofs
open Noyra.Lib

variable {cfg : HealthConfig}

lemma check_carries {a : Attempt} {token : Option String} (h : a.check = .ok token) : token = a.carries := by
  unfold Attempt.check at h
  obtain ⟨_, -, h⟩ := bind_eq_ok.mp h
  obtain ⟨_, -, h⟩ := bind_eq_ok.mp h
  obtain ⟨_, -, h⟩ := bind_eq_ok.mp h
  unfold Attempt.carries
  cases hp : a.permit with
  | none =>
    rw [hp] at h
    exact (Except.ok.inj h).symm
  | some permit =>
    rw [hp] at h
    obtain ⟨_, -, h⟩ := bind_eq_ok.mp h
    obtain ⟨_, -, h⟩ := bind_eq_ok.mp h
    exact (Except.ok.inj h).symm

lemma nextState_spec {a : Attempt} {state : Option StateRow} {now : Stamp} {clock : Instant} {next : StateColumns}
    (h : a.nextState cfg state now clock = .ok next) :
    next.key = a.key ∧ next.probeToken = none ∧ next.probeStartedAt = none ∧ next.state ≠ .halfOpen ∧
      (next.state = .cooldown → next.cooldownUntil.isSome) := by
  unfold Attempt.nextState at h
  split at h
  · obtain ⟨cooldown, -, h⟩ := bind_eq_ok.mp h
    cases h
    simp [Attempt.completed]
  · cases h
    simp only [Attempt.completed, Attempt.stateName, true_and]
    split <;> simp

lemma countAttempt_states {db db' : HealthDb} {a : Attempt} {started : Instant}
    (h : countAttempt cfg db a started = .ok db') : db'.states = db.states := by
  unfold countAttempt at h
  obtain ⟨_, -, h⟩ := bind_eq_ok.mp h
  cases h
  rfl

lemma writeState_spec {db db' : HealthDb} {a : Attempt} {started clock : Instant}
    (h : writeState cfg db a started clock = .ok db') :
    ∃ next, a.nextState cfg (db.states.find? a.key) (utcNow started) clock = .ok next ∧
      db'.states = db.states.upsert (hashed cfg next) := by
  unfold writeState at h
  obtain ⟨next, hnext, h⟩ := bind_eq_ok.mp h
  cases h
  exact ⟨next, hnext, rfl⟩

/-- A completion leaves the state rows as they are, or writes a row without a probe; the latter never
over a probe of another token. -/
lemma recordAttempt_cases {db db' : HealthDb} {a : Attempt} {started clock : Instant}
    (h : recordAttempt cfg db a started clock = .ok db') :
    (db'.states = db.states ∧ ∃ row, db.states.find? a.key = some row ∧
        (a.outcomeUnknown = true ∨ row.probeToken.isSome ∧ row.probeToken ≠ a.carries)) ∨
      ∃ next, a.nextState cfg (db.states.find? a.key) (utcNow started) clock = .ok next ∧
        db'.states = db.states.upsert (hashed cfg next) ∧
        ∀ row, db.states.find? a.key = some row →
          a.outcomeUnknown = false ∧ (row.probeToken = none ∨ row.probeToken = a.carries) := by
  unfold recordAttempt at h
  obtain ⟨token, htoken, h⟩ := bind_eq_ok.mp h
  obtain rfl := check_carries htoken
  obtain ⟨db₁, hcount, h⟩ := bind_eq_ok.mp h
  rw [← countAttempt_states hcount]
  cases hrow : db₁.states.find? a.key with
  | none =>
    simp only [hrow] at h
    obtain ⟨next, hnext, hstates⟩ := writeState_spec h
    exact .inr ⟨next, hrow ▸ hnext, hstates, by simp⟩
  | some row =>
    simp only [hrow] at h
    obtain ⟨_, -, h⟩ := bind_eq_ok.mp h
    split at h
    · next hother =>
      cases h
      exact .inl ⟨rfl, row, rfl, .inr hother⟩
    · next hsame =>
      split at h
      · next hunknown =>
        cases h
        exact .inl ⟨rfl, row, rfl, .inl hunknown⟩
      · next hknown =>
        obtain ⟨next, hnext, hstates⟩ := writeState_spec h
        refine .inr ⟨next, hrow ▸ hnext, hstates, ?_⟩
        intro row' hrow'
        cases hrow'
        refine ⟨by simpa using hknown, ?_⟩
        cases htok : row.probeToken with
        | none => exact .inl rfl
        | some t =>
          rw [htok] at hsame
          exact .inr (by simpa using hsame)

/-- The probe stored in the row, if any, has expired by `now`. -/
def ExpiredBy (row : StateRow) (now : Instant) : Prop :=
  ∀ started, row.probeToken.isSome → row.probeStartedAt = some started → started.micros + 2 * minute ≤ now.micros

lemma probePending_eq_false {row : StateRow} {now : Instant} :
    probePending row now = .ok false ↔ ExpiredBy row now := by
  unfold probePending ExpiredBy
  cases htoken : row.probeToken with
  | none => simp
  | some token =>
    cases hstarted : row.probeStartedAt with
    | none => simp
    | some started =>
      constructor
      · intro h t _ ht
        cases ht
        obtain ⟨expires, hexp, h⟩ := bind_eq_ok.mp h
        have hm := Instant.micros_of_add? (orRaise_eq_ok.mp hexp)
        have hle : ¬now < expires := by simpa using Except.ok.inj h
        rw [Instant.lt_def] at hle
        omega
      · intro h
        have hle := h started rfl rfl
        obtain ⟨expires, hexp, hm⟩ := Instant.add?_of_le hle
        have hnot : ¬now < expires := by
          rw [Instant.lt_def]
          omega
        simp [hexp, hnot]

-- The update compares texts, the test before it instants: they agree, so the update never finds the row taken.
lemma claimable_of_expired {row : StateRow} {now : Instant} (hnull : row.probeToken.isNone = row.probeStartedAt.isNone)
    (h : ExpiredBy row now) : claimable row now = true := by
  unfold claimable
  cases htoken : row.probeToken with
  | none => rfl
  | some token =>
    cases hstarted : row.probeStartedAt with
    | none => simp [htoken, hstarted] at hnull
    | some started =>
      have hle := h started (by simp [htoken]) hstarted
      simp only [decide_eq_true_eq]
      rw [Instant.isoformat_le, Instant.le_def]
      change started.micros ≤ now.micros - 2 * minute
      omega

/-- A claim leaves the store as it is and hands out no probe, or it claims the probe of an expired row. -/
lemma claimRoute_cases {db db' : HealthDb} {key : ProviderKey} {now : Instant} {token : String}
    {permit : Option RoutePermit} (h : claimRoute cfg db key now token = .ok (permit, db')) :
    (db' = db ∧ permit.any (fun p => p.probeToken.isSome) = false) ∨
      ∃ row, db.states.find? key = some row ∧ ExpiredBy row now ∧ row.cooldownUntil.isSome ∧
        permit.any (fun p => p.probeToken.isSome) = true ∧
        db' = { db with states := db.states.replace (hashed cfg (probeClaim row token now)) } := by
  unfold claimRoute at h
  cases hrow : db.states.find? key with
  | none =>
    rw [hrow] at h
    obtain ⟨_, -, h⟩ := bind_eq_ok.mp h
    cases h
    exact .inl ⟨rfl, rfl⟩
  | some row =>
    rw [hrow] at h
    obtain ⟨_, -, h⟩ := bind_eq_ok.mp h
    split at h
    · cases h
      exact .inl ⟨rfl, rfl⟩
    · obtain ⟨pending, hpending, h⟩ := bind_eq_ok.mp h
      split at h
      · cases h
        exact .inl ⟨rfl, rfl⟩
      · next hfalse =>
        have hexp : ExpiredBy row now := by
          rw [← probePending_eq_false, hpending]
          simpa using hfalse
        split at h
        · cases h
          exact .inl ⟨rfl, rfl⟩
        · next cooldown hcool =>
          split at h
          · cases h
            exact .inl ⟨rfl, rfl⟩
          · split at h
            · cases h
              exact .inr ⟨row, rfl, hexp, by simp [hcool], rfl, rfl⟩
            · cases h
              exact .inl ⟨rfl, rfl⟩

/-- What the store's own writes keep true of a state row. -/
structure RowOk (cfg : HealthConfig) (row : StateRow) : Prop where
  hash : row.stateHash = stateHash cfg row.toStateColumns
  paired : row.probeToken.isNone = row.probeStartedAt.isNone
  claimed : ∀ token, row.probeToken = some token → row.state = .halfOpen ∧ strip token ≠ ""
  cooling : row.state ≠ .healthy → row.state ≠ .degraded → row.cooldownUntil.isSome

lemma RowOk.verifies {row : StateRow} (h : RowOk cfg row) : verifyState cfg row = .ok () := by
  unfold verifyState
  apply raiseIf_neg
  rintro (⟨hhash, -⟩ | hpair | ⟨hsome, hbad⟩)
  · exact hhash h.hash
  · exact hpair h.paired
  · obtain ⟨token, htoken⟩ := Option.isSome_iff_exists.mp hsome
    have := h.claimed token htoken
    rw [htoken] at hbad
    simp_all

lemma RowOk.hashed_next {a : Attempt} {state : Option StateRow} {now : Stamp} {clock : Instant} {next : StateColumns}
    (h : a.nextState cfg state now clock = .ok next) : RowOk cfg (hashed cfg next) := by
  obtain ⟨-, htoken, hstarted, hopen, hcool⟩ := nextState_spec h
  constructor
  · rfl
  · simp [hashed, htoken, hstarted]
  · intro token ht
    simp [hashed, htoken] at ht
  · intro h1 h2
    apply hcool
    simp only [hashed] at h1 h2
    cases hs : next.state <;> simp_all

lemma strip_newProbeId (hex : String) : strip (newProbeId hex) ≠ "" := by
  have hlist : (newProbeId hex).toList = 'p' :: ("robe_".toList ++ hex.toList) := by
    simp [newProbeId, String.toList_append]
  intro h
  unfold strip at h
  split at h
  · have : (newProbeId hex).toList = [] := by rw [h]; rfl
    simp [hlist] at this
  · have hnil : ((((newProbeId hex).toList.dropWhile isSpace).reverse.dropWhile isSpace).reverse) = [] := by
      have := congrArg String.toList h
      simpa using this
    rw [hlist, List.dropWhile_cons_of_neg (by decide), List.reverse_eq_nil_iff, List.dropWhile_eq_nil_iff] at hnil
    have := hnil 'p' (by simp)
    exact absurd this (by decide)

lemma RowOk.probe {row : StateRow} {hex : String} {now : Instant} (hcool : row.cooldownUntil.isSome) :
    RowOk cfg (hashed cfg (probeClaim row (newProbeId hex) now)) := by
  constructor
  · rfl
  · rfl
  · intro token ht
    cases ht
    exact ⟨rfl, strip_newProbeId hex⟩
  · intro _ _
    exact hcool

/-- The stored probe of a provider is `p`. -/
def Stored (db : HealthDb) (p : Probe) : Prop :=
  ∃ row, db.states.find? p.key = some row ∧ row.probeToken = some p.token ∧ row.probeStartedAt = some p.startedAt

structure BreakerInv (cfg : HealthConfig) (s : Breaker) : Prop where
  rows : ∀ key row, s.db.states.find? key = some row → RowOk cfg row
  covered : ∀ p ∈ s.outstanding, Stored s.db p ∨ p.startedAt.micros + 2 * minute ≤ s.clock.micros
  distinct : (s.outstanding.map Probe.token).Nodup
  drawn : ∀ p ∈ s.outstanding, p.token ∈ s.drawn

lemma BreakerInv.init {s : Breaker} (h : (breakerMachine cfg).init s) : BreakerInv cfg s := by
  obtain ⟨clock, rfl⟩ := h
  constructor
  · intro key row hrow
    cases hrow
  · intro p hp
    cases hp
  · exact List.nodup_nil
  · intro p hp
    cases hp

lemma BreakerInv.tick {s : Breaker} {now : Instant} (h : BreakerInv cfg s) (hle : s.clock ≤ now) :
    BreakerInv cfg { s with clock := now } := by
  refine ⟨h.rows, ?_, h.distinct, h.drawn⟩
  intro p hp
  rw [Instant.le_def] at hle
  rcases h.covered p hp with hst | hexp
  · exact .inl hst
  · refine .inr ?_
    simp only
    omega

lemma BreakerInv.claim {s : Breaker} {key : ProviderKey} {readAt : Instant} {hex : String} (h : BreakerInv cfg s)
    (hle : readAt ≤ s.clock) (hfresh : newProbeId hex ∉ s.drawn) :
    BreakerInv cfg (s.claim cfg key readAt (newProbeId hex)) := by
  rw [Instant.le_def] at hle
  unfold Breaker.claim
  cases hclaim : claimRoute cfg s.db key readAt (newProbeId hex) with
  | error e => exact h
  | ok result =>
    obtain ⟨permit, db'⟩ := result
    simp only
    rcases claimRoute_cases hclaim with ⟨rfl, hnone⟩ | ⟨row, hrow, hexp, hcool, hsome, rfl⟩
    · rw [if_neg (by simp [hnone])]
      exact h
    · rw [if_pos hsome]
      have hkey : row.key = key := (Table.find?_eq_some.mp hrow).2
      have hfind : ∀ k, (s.db.states.replace (hashed cfg (probeClaim row (newProbeId hex) readAt))).find? k =
          if k = row.key then some (hashed cfg (probeClaim row (newProbeId hex) readAt))
          else s.db.states.find? k :=
        Table.find?_replace (hkey ▸ hrow)
      constructor
      · intro key' row' hrow'
        simp only [hfind] at hrow'
        split at hrow'
        · cases hrow'
          exact RowOk.probe hcool
        · exact h.rows key' row' hrow'
      · intro p hp
        rcases List.mem_cons.mp hp with rfl | hp
        · refine .inl ⟨hashed cfg (probeClaim row (newProbeId hex) readAt), ?_, rfl, rfl⟩
          simp only [hfind]
          exact if_pos hkey.symm
        · rcases h.covered p hp with ⟨row', hrow', htoken, hstarted⟩ | hdone
          · by_cases hk : p.key = row.key
            · -- the stored probe had expired when the clock was read
              refine .inr ?_
              rw [hk, hkey, hrow] at hrow'
              cases hrow'
              have := hexp p.startedAt (by simp [htoken]) hstarted
              simp only
              omega
            · refine .inl ⟨row', ?_, htoken, hstarted⟩
              simp only [hfind]
              exact (if_neg hk).trans hrow'
          · exact .inr hdone
      · rw [List.map_cons, List.nodup_cons]
        refine ⟨?_, h.distinct⟩
        intro hmem
        obtain ⟨p, hp, htoken⟩ := List.mem_map.mp hmem
        have hdrawn := h.drawn p hp
        rw [htoken] at hdrawn
        exact hfresh hdrawn
      · intro p hp
        rcases List.mem_cons.mp hp with rfl | hp
        · exact List.mem_cons_self
        · exact List.mem_cons_of_mem _ (h.drawn p hp)

lemma BreakerInv.record {s : Breaker} {a : Attempt} {readAt : Instant} (h : BreakerInv cfg s) :
    BreakerInv cfg (s.record cfg a readAt) := by
  unfold Breaker.record
  cases hrec : recordAttempt cfg s.db a readAt s.clock with
  | error e => exact h
  | ok db' =>
    simp only
    have hsub : ∀ p ∈ s.outstanding.filter (fun p => !a.completes p), p ∈ s.outstanding :=
      fun p hp => (List.mem_filter.mp hp).1
    have hdistinct : ((s.outstanding.filter (fun p => !a.completes p)).map Probe.token).Nodup :=
      h.distinct.sublist (List.filter_sublist.map _)
    rcases recordAttempt_cases hrec with ⟨hsame, -⟩ | ⟨next, hnext, hstates, hfree⟩
    · refine ⟨?_, ?_, hdistinct, fun p hp => h.drawn p (hsub p hp)⟩
      · simpa [hsame] using h.rows
      · intro p hp
        simpa [Stored, hsame] using h.covered p (hsub p hp)
    · have hkey : (hashed cfg next).key = a.key := (nextState_spec hnext).1
      refine ⟨?_, ?_, hdistinct, fun p hp => h.drawn p (hsub p hp)⟩
      · intro key row hrow
        simp only [hstates, Table.find?_upsert] at hrow
        split at hrow
        · cases hrow
          exact RowOk.hashed_next hnext
        · exact h.rows key row hrow
      · intro p hp
        obtain ⟨hp, hkept⟩ := List.mem_filter.mp hp
        rcases h.covered p hp with ⟨row, hrow, htoken, hstarted⟩ | hdone
        · by_cases hk : p.key = a.key
          · -- the completion owns the stored probe, so it ends `p` or its outcome is unknown
            exfalso
            rw [hk] at hrow
            obtain ⟨hknown, hfree⟩ := hfree row hrow
            rw [htoken] at hfree
            have hcarries : some p.token = a.carries := by simpa using hfree
            simp [Attempt.completes, hk, hknown, ← hcarries] at hkept
          · refine .inl ⟨row, ?_, htoken, hstarted⟩
            simp only [hstates, Table.find?_upsert, hkey, if_neg hk]
            exact hrow
        · exact .inr hdone

lemma BreakerInv.step {s : Breaker} {action : BreakerAction} (h : BreakerInv cfg s) (hfresh : freshProbeIds s action) :
    BreakerInv cfg (s.step cfg action) := by
  cases action with
  | tick now =>
    simp only [Breaker.step]
    split
    · next hle => exact h.tick hle
    · exact h
  | claimRoute key readAt hex =>
    simp only [Breaker.step]
    split
    · next hle => exact h.claim hle hfresh
    · exact h
  | recordAttempt a readAt =>
    simp only [Breaker.step]
    split
    · exact h.record
    · exact h

lemma BreakerInv.reachable {s : Breaker} (h : (breakerMachine cfg).ReachableUnder freshProbeIds s) :
    BreakerInv cfg s :=
  h.invariant (fun _ => BreakerInv.init) (fun _ _ hi hg => hi.step hg)

/-- The probe permits of a provider that are outstanding and younger than two minutes. -/
def youngProbes (s : Breaker) (key : ProviderKey) : List Probe :=
  s.outstanding.filter (fun p => p.key = key ∧ s.clock.micros < p.startedAt.micros + 2 * minute)

lemma length_le_one {α β : Type} {f : α → β} {l : List α} (hn : (l.map f).Nodup)
    (h : ∀ x ∈ l, ∀ y ∈ l, f x = f y) : l.length ≤ 1 := by
  match l with
  | [] => simp
  | [_] => simp
  | x :: y :: l =>
    rw [List.map_cons, List.nodup_cons] at hn
    have hxy := h x (by simp) y (by simp)
    exact absurd (by simp [hxy]) hn.1

lemma BreakerInv.youngProbes_le_one {s : Breaker} (h : BreakerInv cfg s) (key : ProviderKey) :
    (youngProbes s key).length ≤ 1 := by
  have hstored : ∀ p ∈ youngProbes s key, ∃ row, s.db.states.find? key = some row ∧ row.probeToken = some p.token := by
    intro p hp
    obtain ⟨hp, hyoung⟩ := List.mem_filter.mp hp
    simp only [decide_eq_true_eq] at hyoung
    rcases h.covered p hp with ⟨row, hrow, htoken, -⟩ | hdone
    · exact ⟨row, hyoung.1 ▸ hrow, htoken⟩
    · omega
  apply length_le_one (h.distinct.sublist (List.filter_sublist.map _))
  intro p hp q hq
  obtain ⟨row, hrow, htoken⟩ := hstored p hp
  obtain ⟨row', hrow', htoken'⟩ := hstored q hq
  rw [hrow] at hrow'
  cases hrow'
  exact Option.some.inj (htoken.symm.trans htoken')

/-- A completion that does not carry the stored token leaves the row. -/
lemma find?_record {s : Breaker} {a : Attempt} {readAt : Instant} {row : StateRow} {token : String}
    (hrow : s.db.states.find? row.key = some row) (htoken : row.probeToken = some token)
    (hother : a.carries ≠ some token) : (s.record cfg a readAt).db.states.find? row.key = some row := by
  unfold Breaker.record
  cases hrec : recordAttempt cfg s.db a readAt s.clock with
  | error e => exact hrow
  | ok db' =>
    simp only
    rcases recordAttempt_cases hrec with ⟨hsame, -⟩ | ⟨next, hnext, hstates, hfree⟩
    · rw [hsame]
      exact hrow
    · have hkey : (hashed cfg next).key = a.key := (nextState_spec hnext).1
      have hne : row.key ≠ a.key := by
        intro hk
        obtain ⟨-, hnone | hcarries⟩ := hfree row (hk ▸ hrow)
        · simp [htoken] at hnone
        · exact hother (hcarries.symm.trans htoken)
      rw [hstates, Table.find?_upsert, hkey, if_neg hne]
      exact hrow

/-- An expired row whose cooldown is over is claimed. -/
lemma claimRoute_grants {db : HealthDb} {row : StateRow} {cooldown now : Instant} (token : String)
    (hrow : db.states.find? row.key = some row) (hok : RowOk cfg row) (hhealthy : row.state ≠ .healthy)
    (hdegraded : row.state ≠ .degraded) (hcool : row.cooldownUntil = some cooldown) (hover : cooldown ≤ now)
    (hexp : ExpiredBy row now) :
    ∃ permit db', claimRoute cfg db row.key now token = .ok (some permit, db') ∧ permit.probeToken = some token := by
  have hnot : ¬now < cooldown := by
    rw [Instant.le_def] at hover
    rw [Instant.lt_def]
    omega
  have hstate : ¬(row.state = .healthy ∨ row.state = .degraded) := by
    simp [hhealthy, hdegraded]
  unfold claimRoute
  simp only [hrow, hok.verifies, ok_bind, if_neg hstate, probePending_eq_false.mpr hexp, hcool, if_neg hnot,
    if_pos (claimable_of_expired hok.paired hexp)]
  exact ⟨_, _, rfl, rfl⟩

/-- `route_eligible` answers whether a claim would be granted. -/
theorem routeEligible_iff {s : Breaker} (h : (breakerMachine cfg).ReachableUnder freshProbeIds s) (key : ProviderKey)
    (now : Instant) (token : String) :
    routeEligible cfg s.db key now = .ok true ↔
      ∃ permit db', claimRoute cfg s.db key now token = .ok (some permit, db') := by
  unfold routeEligible claimRoute
  cases hrow : s.db.states.find? key with
  | none => by_cases hb : s.db.buckets.rows.any (fun b => b.key = key) = true <;> simp [raiseIf, hb]
  | some row =>
    have hok := (BreakerInv.reachable h).rows key row hrow
    simp only [hok.verifies, ok_bind]
    split
    · simp
    · cases hpending : probePending row now with
      | error e => simp
      | ok pending =>
        cases pending with
        | true => simp
        | false =>
          have hclaim := claimable_of_expired hok.paired (probePending_eq_false.mp hpending)
          cases hcool : row.cooldownUntil with
          | none => simp
          | some cooldown =>
            by_cases hover : now < cooldown
            · have : ¬cooldown ≤ now := by
                rw [Instant.lt_def] at hover
                rw [Instant.le_def]
                omega
              simp [hover, this]
            · have : cooldown ≤ now := by
                rw [Instant.lt_def] at hover
                rw [Instant.le_def]
                omega
              simp [hover, this, hclaim]

/-- In every interleaving of claims and completions with a clock that does not go back: at most one probe permit
of a provider is outstanding and younger than two minutes; a completion with another token, or with none, leaves a
row that stores one as it is; and a row that is neither healthy nor degraded has a cooldown, after which, and two
minutes after its probe started, a claim is granted. -/
theorem circuit_breaker {s : Breaker} (h : (breakerMachine cfg).ReachableUnder freshProbeIds s) :
    (∀ key, (youngProbes s key).length ≤ 1) ∧
      (∀ row ∈ s.db.states, ∀ token, row.probeToken = some token → ∀ a readAt, a.carries ≠ some token →
        row ∈ (s.step cfg (.recordAttempt a readAt)).db.states) ∧
      ∀ row ∈ s.db.states, row.state ≠ .healthy → row.state ≠ .degraded →
        ∃ cooldown, row.cooldownUntil = some cooldown ∧ ∀ now hex, cooldown ≤ now →
          (∀ started, row.probeStartedAt = some started → started.micros + 2 * minute ≤ now.micros) →
          ∃ permit db', claimRoute cfg s.db row.key now (newProbeId hex) = .ok (some permit, db') ∧
            permit.probeToken = some (newProbeId hex) := by
  have hinv := BreakerInv.reachable h
  refine ⟨hinv.youngProbes_le_one, ?_, ?_⟩
  · intro row hmem token htoken a readAt hother
    simp only [Breaker.step]
    split
    · exact (Table.find?_eq_some.mp (find?_record (Table.find?_key hmem) htoken hother)).1
    · exact hmem
  · intro row hmem hhealthy hdegraded
    have hrow := Table.find?_key hmem
    have hok := hinv.rows row.key row hrow
    obtain ⟨cooldown, hcool⟩ := Option.isSome_iff_exists.mp (hok.cooling hhealthy hdegraded)
    refine ⟨cooldown, hcool, ?_⟩
    intro now hex hover hexp
    exact claimRoute_grants _ hrow hok hhealthy hdegraded hcool hover (fun started _ hs => hexp started hs)

section Sample

def sampleHealth : HealthConfig := ⟨fun _ => "hash", id, 1, by decide⟩

def sampleProvider : ProviderKey := ⟨"subject", "model", "group"⟩

/-- A failure that starts a cooldown of a minute. -/
def sampleFailure : Attempt := ⟨sampleProvider, "attempt", false, 20, some "http_503", 60, none, none, false⟩

def atSecond (n : Nat) (h : (Date.ofDays (n * second / day)).year ≤ 9999) : Instant := ⟨n * second, h⟩

/-- A failure, a probe after its cooldown, and the late failure of another request. -/
def sampleCalls : List BreakerAction :=
  [.recordAttempt sampleFailure (atSecond 600 (by decide)), .tick (atSecond 700 (by decide)),
    .claimRoute sampleProvider (atSecond 700 (by decide)) "0a", .tick (atSecond 705 (by decide)),
    .claimRoute sampleProvider (atSecond 705 (by decide)) "0b",
    .recordAttempt sampleFailure (atSecond 705 (by decide))]

def sampleStart : Breaker := ⟨⟨.empty, .empty⟩, atSecond 600 (by decide), [], []⟩

def sampleBreaker : Breaker := sampleCalls.foldl (breakerMachine sampleHealth).step sampleStart

instance (s : Breaker) (action : BreakerAction) : Decidable (freshProbeIds s action) :=
  match action with
  | .claimRoute _ _ hex => inferInstanceAs (Decidable (newProbeId hex ∉ s.drawn))
  | .tick _ => inferInstanceAs (Decidable True)
  | .recordAttempt _ _ => inferInstanceAs (Decidable True)

theorem sampleBreaker_one_probe : (youngProbes sampleBreaker sampleProvider).length = 1 ∧
    (youngProbes sampleBreaker sampleProvider).length ≤ 1 := by
  have hinit : (breakerMachine sampleHealth).init sampleStart := ⟨_, rfl⟩
  have hreach : (breakerMachine sampleHealth).ReachableUnder freshProbeIds sampleBreaker :=
    Machine.reachableUnder_foldl hinit sampleCalls (by decide)
  have hone := (circuit_breaker hreach).1
  exact ⟨by decide, hone sampleProvider⟩

end Sample

end Noyra.Core.Proofs
