import Noyra.Migration.Authentication

/-!
# No request is accepted twice

The file of an accepted request outlives its timestamp: it is written no earlier than 300 s before the timestamp and
kept for 600 s, and from 300 s after the timestamp on no request of that timestamp is accepted.
-/

namespace Noyra.Migration.Proofs
open Noyra.Lib

variable {cfg : AgentConfig}

lemma verifyRequest_recent {headers : Headers} {body : Bytes} {current : ℚ} {r : SignedRequest}
    (h : verifyRequest cfg headers body current = .ok r) : |current - r.timestamp| ≤ clockSkewSeconds := by
  unfold verifyRequest at h
  obtain ⟨_, -, h⟩ := bind_eq_ok.mp h
  obtain ⟨_, -, h⟩ := bind_eq_ok.mp h
  obtain ⟨_, -, h⟩ := bind_eq_ok.mp h
  obtain ⟨_, -, h⟩ := bind_eq_ok.mp h
  obtain ⟨_, hskew, h⟩ := bind_eq_ok.mp h
  obtain ⟨_, -, h⟩ := bind_eq_ok.mp h
  obtain ⟨_, -, h⟩ := bind_eq_ok.mp h
  cases h
  exact not_lt.mp (raiseIf_eq_ok.mp hskew)

lemma mem_cleanupNonces {files : NonceStore} {now : ℚ} {stuck : String → Bool} {f : NonceFile} :
    f ∈ cleanupNonces files now stuck ↔ f ∈ files ∧ (stuck f.path = true ∨ now - f.mtime ≤ nonceTtlSeconds) := by
  unfold cleanupNonces
  rw [Table.mem_keepRows, Bool.or_eq_true, decide_eq_true_eq]

/-- The part under the lock refuses and leaves the files, with or without cleanup, or adds the file of the nonce. -/
lemma persistNonce_cases (files : NonceStore) (r : SignedRequest) (current : ℚ) (answers : FileAnswers) :
    (∃ e, persistNonce cfg files r current answers = (.error e, files)) ∨
      (∃ e, persistNonce cfg files r current answers = (.error e, cleanupNonces files current answers.stuck)) ∨
      ∃ written, (cleanupNonces files current answers.stuck).insert?
          ⟨noncePath cfg r.nonce, current + answers.delay, r.timestampText⟩ = some written ∧
        persistNonce cfg files r current answers = (.ok (), written) := by
  unfold persistNonce
  by_cases hdirectory : answers.directory = false
  · rw [if_pos hdirectory]
    exact .inl ⟨_, rfl⟩
  · rw [if_neg hdirectory]
    by_cases hfull : nonceLimit ≤ (cleanupNonces files current answers.stuck).rows.length
    · simp only [if_pos hfull]
      exact .inr (.inl ⟨_, rfl⟩)
    · simp only [if_neg hfull]
      cases hinsert : (cleanupNonces files current answers.stuck).insert?
          ⟨noncePath cfg r.nonce, current + answers.delay, r.timestampText⟩ with
      | none => exact .inr (.inl ⟨_, rfl⟩)
      | some written =>
        cases hwritten : answers.written with
        | true => exact .inr (.inr ⟨written, rfl, rfl⟩)
        | false => exact .inr (.inl ⟨_, rfl⟩)

/-- A call keeps the files that cleanup keeps. -/
lemma persistNonce_files (files : NonceStore) (r : SignedRequest) (current : ℚ) (answers : FileAnswers) {f : NonceFile}
    (hf : f ∈ cleanupNonces files current answers.stuck) : f ∈ (persistNonce cfg files r current answers).2 := by
  rcases persistNonce_cases files r current answers with ⟨e, h⟩ | ⟨e, h⟩ | ⟨written, hinsert, h⟩
  · rw [h]
    exact (mem_cleanupNonces.mp hf).1
  · rw [h]
    exact hf
  · rw [h, Table.mem_def, (Table.insert?_eq_some.mp hinsert).2]
    exact List.mem_append_left _ hf

lemma persistNonce_ok {files : NonceStore} {r : SignedRequest} {current : ℚ} {answers : FileAnswers}
    (h : (persistNonce cfg files r current answers).1 = .ok ()) :
    (∀ f ∈ cleanupNonces files current answers.stuck, f.path ≠ noncePath cfg r.nonce) ∧
      ∃ f ∈ (persistNonce cfg files r current answers).2, f.path = noncePath cfg r.nonce ∧ current ≤ f.mtime := by
  rcases persistNonce_cases files r current answers with ⟨e, he⟩ | ⟨e, he⟩ | ⟨written, hinsert, hw⟩
  · rw [he] at h
    cases h
  · rw [he] at h
    cases h
  · obtain ⟨hfresh, hrows⟩ := Table.insert?_eq_some.mp hinsert
    refine ⟨hfresh, ⟨noncePath cfg r.nonce, current + answers.delay, r.timestampText⟩, ?_, rfl, ?_⟩
    · rw [hw, Table.mem_def, hrows]
      exact List.mem_append_right _ List.mem_cons_self
    · exact le_add_of_nonneg_right answers.delay.2

/-- The request cannot be accepted again: its nonce has a file that is kept while its timestamp is recent, or its
timestamp is stale. -/
def Spent (cfg : AgentConfig) (s : AgentState) (r : SignedRequest) : Prop :=
  (∃ f ∈ s.files, f.path = noncePath cfg r.nonce ∧ r.timestamp - clockSkewSeconds ≤ f.mtime) ∨
    r.timestamp + clockSkewSeconds < s.clock

/-- The same nonce under the same timestamp. -/
def SameRequest (a b : SignedRequest) : Prop := a.nonce = b.nonce ∧ a.timestamp = b.timestamp

structure Distinct (cfg : AgentConfig) (s : AgentState) : Prop where
  spent : ∀ r ∈ s.accepted, Spent cfg s r
  pairwise : s.accepted.Pairwise (fun a b => ¬SameRequest a b)

lemma Spent.of_files {s s' : AgentState} {r : SignedRequest} (h : Spent cfg s r) (stuck : String → Bool)
    (hclock : s.clock ≤ s'.clock) (hfiles : ∀ f ∈ cleanupNonces s.files s'.clock stuck, f ∈ s'.files) :
    Spent cfg s' r := by
  rcases h with ⟨f, hf, hpath, hmtime⟩ | hstale
  · by_cases hkept : s'.clock - f.mtime ≤ nonceTtlSeconds
    · exact .inl ⟨f, hfiles f (mem_cleanupNonces.mpr ⟨hf, .inr hkept⟩), hpath, hmtime⟩
    · -- 600 s after a file of 300 s before the timestamp
      refine .inr ?_
      unfold clockSkewSeconds nonceTtlSeconds at *
      linarith
  · exact .inr (lt_of_lt_of_le hstale hclock)

lemma distinct_step {s : AgentState} (a : AgentAction) (h : Distinct cfg s) : Distinct cfg (agentStep cfg s a) := by
  cases a with
  | cleanup elapsed stuck =>
    have hclock : s.clock ≤ s.clock + elapsed := le_add_of_nonneg_right elapsed.2
    exact ⟨fun r hr => (h.spent r hr).of_files _ hclock (fun _ hf => hf), h.pairwise⟩
  | request headers body elapsed answers =>
    have hclock : s.clock ≤ s.clock + elapsed := le_add_of_nonneg_right elapsed.2
    cases hverify : verifyRequest cfg headers body (s.clock + elapsed) with
    | error e =>
      have hstep : agentStep cfg s (.request headers body elapsed answers) =
          ⟨s.files, s.clock + elapsed, s.accepted⟩ := by
        simp only [agentStep, authenticateRequest, hverify]
      rw [hstep]
      exact ⟨fun r hr => (h.spent r hr).of_files (fun _ => true) hclock
        (fun f hf => (mem_cleanupNonces.mp hf).1), h.pairwise⟩
    | ok request =>
      have hkept : ∀ f ∈ cleanupNonces s.files (s.clock + elapsed) answers.stuck,
          f ∈ (persistNonce cfg s.files request (s.clock + elapsed) answers).2 :=
        fun f hf => persistNonce_files s.files request _ answers hf
      rcases hpersist : persistNonce cfg s.files request (s.clock + elapsed) answers with ⟨answer, files⟩
      rw [hpersist] at hkept
      cases answer with
      | error e =>
        have hstep : agentStep cfg s (.request headers body elapsed answers) =
            ⟨files, s.clock + elapsed, s.accepted⟩ := by
          simp only [agentStep, authenticateRequest, hverify, hpersist, Except.map]
        rw [hstep]
        exact ⟨fun r hr => (h.spent r hr).of_files _ hclock hkept, h.pairwise⟩
      | ok u =>
        have hstep : agentStep cfg s (.request headers body elapsed answers) =
            ⟨files, s.clock + elapsed, request :: s.accepted⟩ := by
          simp only [agentStep, authenticateRequest, hverify, hpersist, Except.map]
        rw [hstep]
        obtain ⟨hfresh, f, hf, hpath, hmtime⟩ := persistNonce_ok (congrArg Prod.fst hpersist)
        rw [hpersist] at hf
        have hrecent := abs_le.mp (verifyRequest_recent hverify)
        constructor
        · intro r hr
          rcases List.mem_cons.mp hr with rfl | hr
          · refine .inl ⟨f, hf, hpath, ?_⟩
            linarith [hrecent.1]
          · exact (h.spent r hr).of_files _ hclock hkept
        · refine List.pairwise_cons.mpr ⟨?_, h.pairwise⟩
          rintro r hr ⟨hnonce, htimestamp⟩
          -- a file of the nonce would still be there after cleanup
          have hspent : Spent cfg ⟨cleanupNonces s.files (s.clock + elapsed) answers.stuck, s.clock + elapsed,
              s.accepted⟩ r :=
            (h.spent r hr).of_files _ hclock (fun _ hf => hf)
          rcases hspent with ⟨f', hf', hpath', -⟩ | hstale
          · exact hfresh f' hf' (hpath'.trans (by rw [hnonce]))
          · rw [← htimestamp] at hstale
            simp only at hstale
            linarith [hrecent.2]

lemma distinct_initial {s : AgentState} (h : s.accepted = []) : Distinct cfg s := by
  constructor
  · intro r hr
    rw [h] at hr
    cases hr
  · rw [h]
    exact .nil

/-- No two accepted requests carry the same nonce and timestamp. -/
theorem accepted_once {s : AgentState} (h : (agentMachine cfg).Reachable s) :
    s.accepted.Pairwise (fun a b => ¬SameRequest a b) := by
  have hdistinct : Distinct cfg s := h.invariant (I := Distinct cfg)
    (fun _ hinit => distinct_initial hinit) (fun _ a hs _ => distinct_step a hs)
  exact hdistinct.pairwise

/-- The hashes of an empty body and of one nonce, and the signature under one token. -/
def sampleAgent : AgentConfig where
  sessionToken := some "session-token"
  dataRoot := true
  sha256Hex bytes := if bytes = [] then "e3b0c44298fc1c149afbf4c8996fb92427ae41e4649b934ca495991b7852b855"
    else "6ed303a43deb5852b15d79439aedc76e09b37ffadfbdeb56d514e214bf629bed"
  hmacSha256 _ _ := [87, 48, 248, 148, 225, 176, 148, 60, 181, 248, 135, 202, 145, 207, 217, 12, 155, 187, 255, 45,
    119, 6, 51, 23, 143, 233, 203, 247, 227, 244, 12, 107]
  urlsafeB64decode _ := some [87, 48, 248, 148, 225, 176, 148, 60, 181, 248, 135, 202, 145, 207, 217, 12, 155, 187,
    255, 45, 119, 6, 51, 23, 143, 233, 203, 247, 227, 244, 12, 107]
  encode s := s.toList.map (fun c => UInt8.ofNat c.toNat)

def signedHeaders : Headers :=
  [("Authorization", "Noyra-HMAC VzD4lOGwlDy1-IfKkc_ZDJu7_y13BjMXj-nL9-P0DGs"), ("X-Noyra-Timestamp", "1000"),
    ("X-Noyra-Nonce", "nonce-0000000001"),
    ("X-Noyra-Body-SHA256", "e3b0c44298fc1c149afbf4c8996fb92427ae41e4649b934ca495991b7852b855")]

def freshFile : FileAnswers := ⟨true, fun _ => false, true, 0⟩

/-- A request 300 s before its timestamp and the same one 300 s after it. -/
def replayed : List AgentAction := [.request signedHeaders [] 0 freshFile, .request signedHeaders [] 600 freshFile]

theorem accepted_once_replayed :
    (replayed.foldl (agentStep sampleAgent) ⟨.empty, 700, []⟩).accepted = [⟨"nonce-0000000001", "1000"⟩] ∧
      (replayed.foldl (agentStep sampleAgent) ⟨.empty, 700, []⟩).clock = 1300 ∧
      (replayed.foldl (agentStep sampleAgent) ⟨.empty, 700, []⟩).accepted.Pairwise (fun a b => ¬SameRequest a b) := by
  have hinit : (agentMachine sampleAgent).init ⟨.empty, 700, []⟩ := rfl
  exact ⟨by decide +kernel, by decide +kernel, accepted_once (Machine.reachable_foldl hinit replayed)⟩

end Noyra.Migration.Proofs
