import Mathlib.Data.List.Count
import Mathlib.Data.List.Nodup
import Mathlib.Data.List.Perm.Subperm
import Mathlib.Tactic.Lemma

/-!
# Bounties and what they pay

What the economy is for, in its own terms: a bounty has a number of reward slots and a bound on the
submissions under consideration; a submission is open until it is accepted or dropped; accepting one opens
the one payment that it ever gets.
-/

namespace Noyra.Wallet.Payouts

/-- The terms of a bounty that never change. -/
structure Bounty (ι : Type) where
  id : ι
  network : String
  asset : String
  reward : ℕ
  slots : ℕ
  limit : ℕ

inductive Standing
  | submitted | accepted | dropped
  deriving DecidableEq

structure Submission (ι : Type) where
  id : ι
  bounty : ι
  recipient : String
  standing : Standing

structure Payment (ι : Type) where
  bounty : ι
  submission : ι
  network : String
  asset : String
  recipient : String
  amount : ℕ

structure State (ι : Type) where
  bounties : List (Bounty ι)
  submissions : List (Submission ι)
  payments : List (Payment ι)

variable {ι : Type} [DecidableEq ι]

namespace State

def initial : State ι := ⟨[], [], []⟩

def accepted (s : State ι) (bounty : ι) : ℕ :=
  s.submissions.countP (fun x => x.bounty = bounty ∧ x.standing = .accepted)

/-- Submissions that count against the limit. -/
def considered (s : State ι) (bounty : ι) : ℕ :=
  s.submissions.countP (fun x => x.bounty = bounty ∧ (x.standing = .submitted ∨ x.standing = .accepted))

end State

/-- Move one submission. -/
def decideIn (l : List (Submission ι)) (id : ι) (standing : Standing) : List (Submission ι) :=
  l.map (fun x => if x.id = id then { x with standing } else x)

def paymentFor (b : Bounty ι) (x : Submission ι) : Payment ι :=
  ⟨b.id, x.id, b.network, b.asset, x.recipient, b.reward⟩

inductive Step : State ι → State ι → Prop
  | offer (s : State ι) (b : Bounty ι) : (∀ x ∈ s.bounties, x.id ≠ b.id) →
      Step s { s with bounties := s.bounties ++ [b] }
  | submit (s : State ι) (b : Bounty ι) (x : Submission ι) : b ∈ s.bounties → x.bounty = b.id →
      x.standing = .submitted → (∀ y ∈ s.submissions, y.id ≠ x.id) → s.considered b.id < b.limit →
      Step s { s with submissions := s.submissions ++ [x] }
  | drop (s : State ι) (x : Submission ι) : x ∈ s.submissions → x.standing = .submitted →
      Step s { s with submissions := decideIn s.submissions x.id .dropped }
  | accept (s : State ι) (b : Bounty ι) (x : Submission ι) : b ∈ s.bounties → x ∈ s.submissions → x.bounty = b.id →
      x.standing = .submitted → s.accepted b.id < b.slots →
      Step s { s with
        submissions := decideIn s.submissions x.id .accepted, payments := s.payments ++ [paymentFor b x] }

/-- What holds along every run. -/
structure Valid (s : State ι) : Prop where
  bounty_ids : (s.bounties.map Bounty.id).Nodup
  submission_ids : (s.submissions.map Submission.id).Nodup
  slots : ∀ b ∈ s.bounties, s.accepted b.id ≤ b.slots
  limits : ∀ b ∈ s.bounties, s.considered b.id ≤ b.limit
  known : ∀ x ∈ s.submissions, ∃ b ∈ s.bounties, b.id = x.bounty
  payment_ids : (s.payments.map Payment.submission).Nodup
  paid : ∀ x ∈ s.submissions, x.standing = .accepted → ∃ b ∈ s.bounties, b.id = x.bounty ∧ paymentFor b x ∈ s.payments
  earned : ∀ p ∈ s.payments, ∃ x ∈ s.submissions, x.id = p.submission ∧ x.standing = .accepted

namespace Valid

lemma initial : Valid (State.initial : State ι) := by
  constructor <;> simp [State.initial]

lemma offer {s : State ι} {b : Bounty ι} (h : Valid s) (hnew : ∀ x ∈ s.bounties, x.id ≠ b.id) :
    Valid { s with bounties := s.bounties ++ [b] } := by
  have hnone : ∀ x ∈ s.submissions, x.bounty ≠ b.id := by
    intro x hx he
    obtain ⟨y, hy, hid⟩ := h.known x hx
    exact hnew y hy (hid.trans he)
  have hzero : s.considered b.id = 0 := by
    unfold State.considered
    rw [List.countP_eq_zero]
    intro x hx
    simp [hnone x hx]
  have hacc : s.accepted b.id = 0 := by
    unfold State.accepted
    rw [List.countP_eq_zero]
    intro x hx
    simp [hnone x hx]
  constructor
  · rw [List.map_append, List.nodup_append]
    refine ⟨h.bounty_ids, by simp, ?_⟩
    intro a ha c hc
    obtain ⟨x, hx, rfl⟩ := List.mem_map.mp ha
    simp only [List.map_cons, List.map_nil, List.mem_singleton] at hc
    exact hc ▸ hnew x hx
  · exact h.submission_ids
  · intro x hx
    rcases List.mem_append.mp hx with hx | hx
    · exact h.slots x hx
    · rw [List.mem_singleton.mp hx]
      change s.accepted b.id ≤ b.slots
      omega
  · intro x hx
    rcases List.mem_append.mp hx with hx | hx
    · exact h.limits x hx
    · rw [List.mem_singleton.mp hx]
      change s.considered b.id ≤ b.limit
      omega
  · intro x hx
    obtain ⟨y, hy, hid⟩ := h.known x hx
    exact ⟨y, List.mem_append_left _ hy, hid⟩
  · exact h.payment_ids
  · intro x hx hs
    obtain ⟨y, hy, hid, hp⟩ := h.paid x hx hs
    exact ⟨y, List.mem_append_left _ hy, hid, hp⟩
  · exact h.earned

lemma submit {s : State ι} {b : Bounty ι} {x : Submission ι} (h : Valid s) (hb : b ∈ s.bounties)
    (hx : x.bounty = b.id) (hs : x.standing = .submitted) (hnew : ∀ y ∈ s.submissions, y.id ≠ x.id)
    (hroom : s.considered b.id < b.limit) : Valid { s with submissions := s.submissions ++ [x] } := by
  constructor
  · exact h.bounty_ids
  · rw [List.map_append, List.nodup_append]
    refine ⟨h.submission_ids, by simp, ?_⟩
    intro a ha c hc
    obtain ⟨y, hy, rfl⟩ := List.mem_map.mp ha
    simp only [List.map_cons, List.map_nil, List.mem_singleton] at hc
    exact hc ▸ hnew y hy
  · intro c hc
    have := h.slots c hc
    simpa [State.accepted, List.countP_append, hs] using this
  · intro c hc
    have hle := h.limits c hc
    unfold State.considered at *
    simp only [List.countP_append, List.countP_singleton, hs, true_or, and_true, decide_eq_true_eq]
    by_cases hcb : x.bounty = c.id
    · have hbc : b = c := List.inj_on_of_nodup_map h.bounty_ids hb hc (hx.symm.trans hcb)
      rw [if_pos hcb, ← hbc]
      omega
    · rw [if_neg hcb]
      omega
  · intro y hy
    rcases List.mem_append.mp hy with hy | hy
    · exact h.known y hy
    · rw [List.mem_singleton.mp hy]
      exact ⟨b, hb, hx.symm⟩
  · exact h.payment_ids
  · intro y hy hacc
    rcases List.mem_append.mp hy with hy | hy
    · exact h.paid y hy hacc
    · rw [List.mem_singleton.mp hy, hs] at hacc
      cases hacc
  · intro p hp
    obtain ⟨y, hy, hid, hacc⟩ := h.earned p hp
    exact ⟨y, List.mem_append_left _ hy, hid, hacc⟩

end Valid

@[simp] lemma map_id_decideIn (l : List (Submission ι)) (id : ι) (standing : Standing) :
    (decideIn l id standing).map Submission.id = l.map Submission.id := by
  unfold decideIn
  rw [List.map_map]
  apply List.map_congr_left
  intro x _
  by_cases hx : x.id = id <;> simp [hx]

lemma mem_decideIn {l : List (Submission ι)} {id : ι} {standing : Standing} {y : Submission ι}
    (h : y ∈ decideIn l id standing) :
    ∃ x ∈ l, y.id = x.id ∧ y.bounty = x.bounty ∧ y.recipient = x.recipient ∧
      y.standing = if x.id = id then standing else x.standing := by
  obtain ⟨x, hx, rfl⟩ := List.mem_map.mp h
  refine ⟨x, hx, ?_⟩
  split <;> simp

/-- Counting after one submission has moved. -/
lemma countP_decideIn {l : List (Submission ι)} (hn : (l.map Submission.id).Nodup) {x : Submission ι} (hx : x ∈ l)
    (standing : Standing) (p : Submission ι → Bool) :
    (decideIn l x.id standing).countP p + (p x).toNat = l.countP p + (p { x with standing }).toNat := by
  induction l with
  | nil => cases hx
  | cons y l ih =>
    rw [List.map_cons, List.nodup_cons] at hn
    simp only [decideIn, List.map_cons, List.countP_cons] at ih ⊢
    rcases List.mem_cons.mp hx with rfl | hx
    · have hrest : l.map (fun y => if y.id = x.id then { y with standing } else y) = l := by
        conv_rhs => rw [← List.map_id l]
        apply List.map_congr_left
        intro y hy
        have hne : y.id ≠ x.id := fun he => hn.1 (he ▸ List.mem_map_of_mem hy)
        simp [hne]
      rw [hrest, if_pos rfl]
      cases p x <;> cases p { x with standing } <;> simp
    · have hne : y.id ≠ x.id := fun he => hn.1 (he ▸ List.mem_map_of_mem hx)
      have := ih hn.2 hx
      rw [if_neg hne]
      omega

namespace Valid

/-- A submission that is dropped gives its place back. -/
lemma drop {s : State ι} {x : Submission ι} (h : Valid s) (hx : x ∈ s.submissions) (hs : x.standing = .submitted) :
    Valid { s with submissions := decideIn s.submissions x.id .dropped } := by
  have hacc : ∀ y ∈ s.submissions, y.standing = .accepted → y.id ≠ x.id := by
    intro y hy ha he
    have := List.inj_on_of_nodup_map h.submission_ids hy hx he
    rw [this, hs] at ha
    cases ha
  constructor
  · exact h.bounty_ids
  · simpa using h.submission_ids
  · intro b hb
    have hle := h.slots b hb
    have := countP_decideIn h.submission_ids hx .dropped (fun y => y.bounty = b.id ∧ y.standing = .accepted)
    simp only [hs, reduceCtorEq, and_false, decide_false, Bool.toNat_false] at this
    unfold State.accepted at *
    simp only
    omega
  · intro b hb
    have hle := h.limits b hb
    have := countP_decideIn h.submission_ids hx .dropped
      (fun y => y.bounty = b.id ∧ (y.standing = .submitted ∨ y.standing = .accepted))
    simp only [reduceCtorEq, or_self, and_false, decide_false, Bool.toNat_false] at this
    unfold State.considered at *
    simp only
    omega
  · intro y hy
    obtain ⟨z, hz, -, hb, -, -⟩ := mem_decideIn hy
    rw [hb]
    exact h.known z hz
  · exact h.payment_ids
  · intro y hy ha
    obtain ⟨z, hz, hid, hb, hr, hst⟩ := mem_decideIn hy
    rw [ha] at hst
    split at hst
    · cases hst
    · obtain ⟨b, hbm, hbid, hp⟩ := h.paid z hz hst.symm
      refine ⟨b, hbm, hbid.trans hb.symm, ?_⟩
      simpa [paymentFor, hid, hr] using hp
  · intro p hp
    obtain ⟨y, hy, hid, ha⟩ := h.earned p hp
    refine ⟨y, List.mem_map.mpr ⟨y, hy, ?_⟩, hid, ha⟩
    simp [hacc y hy ha]

/-- An accepted submission takes a slot and gets its payment. -/
lemma accept {s : State ι} {b : Bounty ι} {x : Submission ι} (h : Valid s) (hb : b ∈ s.bounties)
    (hx : x ∈ s.submissions) (hxb : x.bounty = b.id) (hs : x.standing = .submitted)
    (hroom : s.accepted b.id < b.slots) :
    Valid { s with
      submissions := decideIn s.submissions x.id .accepted, payments := s.payments ++ [paymentFor b x] } := by
  have hunpaid : ∀ p ∈ s.payments, p.submission ≠ x.id := by
    intro p hp he
    obtain ⟨y, hy, hid, ha⟩ := h.earned p hp
    have := List.inj_on_of_nodup_map h.submission_ids hy hx (hid.trans he)
    rw [this, hs] at ha
    cases ha
  constructor
  · exact h.bounty_ids
  · simpa using h.submission_ids
  · intro c hc
    have hle := h.slots c hc
    have := countP_decideIn h.submission_ids hx .accepted (fun y => y.bounty = c.id ∧ y.standing = .accepted)
    simp only [hs, reduceCtorEq, and_false, decide_false, Bool.toNat_false, and_true] at this
    unfold State.accepted at *
    simp only
    by_cases hcb : x.bounty = c.id
    · have hbc : b = c := List.inj_on_of_nodup_map h.bounty_ids hb hc (hxb.symm.trans hcb)
      subst hbc
      simp only [hcb, decide_true, Bool.toNat_true] at this
      omega
    · simp only [hcb, decide_false, Bool.toNat_false] at this
      omega
  · intro c hc
    have hle := h.limits c hc
    have := countP_decideIn h.submission_ids hx .accepted
      (fun y => y.bounty = c.id ∧ (y.standing = .submitted ∨ y.standing = .accepted))
    simp only [hs, reduceCtorEq, or_false, or_true] at this
    unfold State.considered at *
    simp only
    omega
  · intro y hy
    obtain ⟨z, hz, -, hzb, -, -⟩ := mem_decideIn hy
    rw [hzb]
    exact h.known z hz
  · rw [List.map_append, List.nodup_append]
    refine ⟨h.payment_ids, by simp, ?_⟩
    intro a ha c hc
    obtain ⟨p, hp, rfl⟩ := List.mem_map.mp ha
    simp only [List.map_cons, List.map_nil, List.mem_singleton] at hc
    exact hc ▸ hunpaid p hp
  · intro y hy ha
    obtain ⟨z, hz, hid, hzb, hr, hst⟩ := mem_decideIn hy
    by_cases hzx : z.id = x.id
    · have hzx' := List.inj_on_of_nodup_map h.submission_ids hz hx hzx
      subst hzx'
      refine ⟨b, hb, (hzb.trans hxb).symm, List.mem_append_right _ (List.mem_singleton.mpr ?_)⟩
      simp [paymentFor, hid, hr]
    · rw [if_neg hzx, ha] at hst
      obtain ⟨c, hc, hcid, hp⟩ := h.paid z hz hst.symm
      refine ⟨c, hc, hcid.trans hzb.symm, List.mem_append_left _ ?_⟩
      simpa [paymentFor, hid, hr] using hp
  · intro p hp
    rcases List.mem_append.mp hp with hp | hp
    · obtain ⟨y, hy, hid, ha⟩ := h.earned p hp
      refine ⟨y, List.mem_map.mpr ⟨y, hy, ?_⟩, hid, ha⟩
      have hne : y.id ≠ x.id := fun he => hunpaid p hp (hid.symm.trans he)
      simp [hne]
    · rw [List.mem_singleton.mp hp]
      exact ⟨{ x with standing := .accepted }, List.mem_map.mpr ⟨x, hx, by simp⟩, rfl, rfl⟩

theorem step {s s' : State ι} (h : Valid s) (hstep : Step s s') : Valid s' := by
  cases hstep with
  | offer b hnew => exact h.offer hnew
  | submit b x hb hx hs hnew hroom => exact h.submit hb hx hs hnew hroom
  | drop x hx hs => exact h.drop hx hs
  | accept b x hb hx hxb hs hroom => exact h.accept hb hx hxb hs hroom

/-- A payment is the one its submission has earned. -/
lemma payment_eq {s : State ι} (h : Valid s) {p : Payment ι} (hp : p ∈ s.payments) :
    ∃ x ∈ s.submissions, x.standing = .accepted ∧ ∃ b ∈ s.bounties, b.id = x.bounty ∧ p = paymentFor b x := by
  obtain ⟨x, hx, hid, ha⟩ := h.earned p hp
  obtain ⟨b, hb, hbx, hpay⟩ := h.paid x hx ha
  exact ⟨x, hx, ha, b, hb, hbx, List.inj_on_of_nodup_map h.payment_ids hp hpay hid.symm⟩

/-- A bounty has no more payments than slots. -/
lemma payments_le {s : State ι} (h : Valid s) {b : Bounty ι} (hb : b ∈ s.bounties) :
    (s.payments.filter (fun p => p.bounty = b.id)).length ≤ b.slots := by
  have hsub : (s.payments.filter (fun p => p.bounty = b.id)).map Payment.submission ⊆
      (s.submissions.filter (fun x => x.bounty = b.id ∧ x.standing = .accepted)).map Submission.id := by
    intro id hid
    obtain ⟨p, hp, rfl⟩ := List.mem_map.mp hid
    obtain ⟨hp, hpb⟩ := List.mem_filter.mp hp
    obtain ⟨x, hx, ha, c, -, hcx, rfl⟩ := h.payment_eq hp
    have hcb : c.id = b.id := of_decide_eq_true hpb
    refine List.mem_map.mpr ⟨x, List.mem_filter.mpr ⟨hx, ?_⟩, rfl⟩
    simp [ha, ← hcx, hcb]
  have hnodup : ((s.payments.filter (fun p => p.bounty = b.id)).map Payment.submission).Nodup :=
    h.payment_ids.sublist (List.filter_sublist.map _)
  have hlen := (List.subperm_of_subset hnodup hsub).length_le
  have hslots := h.slots b hb
  unfold State.accepted at hslots
  rw [List.countP_eq_length_filter] at hslots
  simp only [List.length_map] at hlen
  omega

end Valid

end Noyra.Wallet.Payouts
