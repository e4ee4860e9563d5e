import Mathlib.Tactic.Lemma
import Mathlib.Data.List.Basic
import Noyra.Archive.Queue

/-!
# Payloads of the transfer queue

A step of a worker is first read as one of a few effects on rows, files and phases. The invariant says what
each phase may rely on; while a worker is inside a transaction that spans a file operation, no other worker
changes a row, and a file of a row that still needs it is only removed by an unlink after an upload.
-/

namespace Noyra.Archive.Proofs
open Noyra.Lib

variable {cfg : QueueConfig} {s s' : QueueState} {db db' : QueueTables}

lemma keyParts_injective {a b : String} (h : keyParts a = keyParts b) : a = b := by
  unfold keyParts at h
  have hof : Function.Injective String.ofList := by
    intro x y hxy
    simpa using congrArg String.toList hxy
  have hsplit : a.toList.splitOn '/' = b.toList.splitOn '/' := (List.map_injective_iff.mpr hof) h
  have ha : ['/'].intercalate (a.toList.splitOn '/') = a.toList := List.intercalate_splitOn '/'
  have hlist : a.toList = b.toList := by
    rw [← ha, hsplit, List.intercalate_splitOn '/']
  exact String.toList_injective hlist

lemma queuedPayloadPath_under {parts path : Path} (h : queuedPayloadPath cfg (cfg.queueRoot ++ parts) = .ok path) :
    path = cfg.queueRoot ++ parts := by
  have hrel : relativeTo cfg.queueRoot (cfg.queueRoot ++ parts) = some parts := by
    simp [relativeTo]
  unfold queuedPayloadPath at h
  rw [hrel, Option.some_or, orRaise_some, ok_bind] at h
  obtain ⟨_, -, h⟩ := bind_eq_ok.mp h
  cases h
  rfl

/-- The columns that identify a transfer and its content. -/
def SameTransfer (a b : TransferRow) : Prop :=
  a.transferId = b.transferId ∧ a.storageClass = b.storageClass ∧ a.objectKey = b.objectKey ∧
    a.payloadPath = b.payloadPath ∧ a.byteSize = b.byteSize ∧ a.contentHash = b.contentHash

lemma SameTransfer.refl (a : TransferRow) : SameTransfer a a := ⟨rfl, rfl, rfl, rfl, rfl, rfl⟩

lemma SameTransfer.trans {a b c : TransferRow} (h : SameTransfer a b) (h' : SameTransfer b c) : SameTransfer a c := by
  obtain ⟨h1, h2, h3, h4, h5, h6⟩ := h
  obtain ⟨k1, k2, k3, k4, k5, k6⟩ := h'
  exact ⟨h1.trans k1, h2.trans k2, h3.trans k3, h4.trans k4, h5.trans k5, h6.trans k6⟩

lemma SameTransfer.matches_iff {a b : TransferRow} (h : SameTransfer a b) (payload : Bytes) :
    a.Matches cfg payload ↔ b.Matches cfg payload := by
  obtain ⟨-, -, -, -, hsize, hhash⟩ := h
  unfold TransferRow.Matches
  rw [hsize, hhash]

/-- A row that needs its payload. -/
def Needed (row : TransferRow) : Prop := row.status = .queued ∨ row.status = .failed ∨ row.status = .uploading

instance (row : TransferRow) : Decidable (Needed row) := inferInstanceAs (Decidable (_ ∨ _ ∨ _))

/-- What a worker in phase `p` does to one row. -/
inductive RowChange (p : Phase) (token : Nat) : TransferRow → TransferRow → Prop
  | recovered {d : DrainInput} {now n : Nat} {row : TransferRow} : p = .recovering d now n → row.expired now →
      RowChange p token row (row.recovered now)
  | claimed {d : DrainInput} {now : Nat} {row : TransferRow} : row.due now →
      RowChange p token row (row.claimed d token now)
  | renewed {d : DrainInput} {c : Claim} {now : Nat} {row : TransferRow} : p.claim? = some c → row.heldBy c d →
      RowChange p token row (row.renewed d now)
  | failed {d : DrainInput} {c : Claim} {error : ArchiveError} {now clock : Nat} {row : TransferRow} :
      p.claim? = some c → c.row.transferId = row.transferId → row.heldBy c d →
      RowChange p token row (row.afterError d c error now clock)
  | completed {d : DrainInput} {rest : List Nat} {c : Claim} {path : Path} {now : Nat} {row : TransferRow} :
      p = .completing d rest c path → c.row.transferId = row.transferId → row.heldBy c d →
      RowChange p token row (row.completed now)

lemma RowChange.same {p : Phase} {token : Nat} {row row' : TransferRow} (h : RowChange p token row row') :
    SameTransfer row' row := by
  cases h <;> exact SameTransfer.refl row

lemma heldBy_iff {row : TransferRow} {c : Claim} {d : DrainInput} :
    row.heldBy c d = true ↔ row.status = .uploading ∧ row.claimToken = some c.token ∧
    row.leaseOwner = some d.owner := by
  simp [TransferRow.heldBy, and_assoc]

/-- A changed row that needs its payload needed it before. -/
lemma RowChange.needed {p : Phase} {token : Nat} {row row' : TransferRow} (h : RowChange p token row row')
    (hn : Needed row') : Needed row := by
  cases h with
  | recovered _ hx =>
    simp only [TransferRow.expired, Bool.and_eq_true, decide_eq_true_eq] at hx
    exact .inr (.inr hx.1)
  | claimed hx =>
    simp only [TransferRow.due, Bool.and_eq_true, Bool.or_eq_true, decide_eq_true_eq] at hx
    obtain ⟨h | h, -⟩ := hx
    · exact .inl h
    · exact .inr (.inl h)
  | renewed _ hx => exact .inr (.inr (heldBy_iff.mp hx).1)
  | failed _ _ hx => exact .inr (.inr (heldBy_iff.mp hx).1)
  | completed _ _ hx => exact .inr (.inr (heldBy_iff.mp hx).1)

/-- The rows after a worker in phase `p` has changed one of them. -/
def Changes (p : Phase) (token : Nat) (db db' : QueueTables) (row row' : TransferRow) : Prop :=
  row ∈ db.transfers ∧ RowChange p token row row' ∧ db'.transfers = db.transfers.replace row'

lemma recoverLease_changes {d : DrainInput} {now n clock token : Nat}
    (h : recoverLease db d.providerId now clock = .ok (some db')) :
    ∃ row, Changes (.recovering d now n) token db db' row (row.recovered now) := by
  unfold recoverLease at h
  split at h
  · cases h
  · next row hrow =>
    have hmem : row ∈ (db.transfers.rows.filter (fun row => row.expired now)).mergeSort leaseBefore :=
      List.mem_of_mem_head? hrow
    rw [List.mem_mergeSort, List.mem_filter] at hmem
    refine ⟨row, hmem.1, .recovered rfl hmem.2, ?_⟩
    split at h
    · cases h
      rfl
    · split at h
      · obtain ⟨moved, -, h⟩ := bind_eq_ok.mp h
        cases h
        rfl
      · cases h
        rfl

lemma claimTransfer_changes {d : DrainInput} {p : Phase} {transferId token replicaId now clock : Nat} {c : Claim}
    (h : claimTransfer db d transferId token replicaId now clock = .ok (some (c, db'))) :
    ∃ row, Changes p token db db' row c.row ∧ c.token = token := by
  unfold claimTransfer at h
  split at h
  · cases h
  · next row hrow =>
    split at h
    · next hdue =>
      have hmem := (Table.find?_eq_some.mp hrow).1
      split at h
      · cases h
        exact ⟨row, ⟨hmem, .claimed hdue, rfl⟩, rfl⟩
      · obtain ⟨held, -, h⟩ := bind_eq_ok.mp h
        cases h
        exact ⟨row, ⟨hmem, .claimed hdue, rfl⟩, rfl⟩
    · cases h

lemma renewClaim_changes {d : DrainInput} {p : Phase} {c : Claim} {now token : Nat} (hc : p.claim? = some c)
    (h : renewClaim db d c now = (true, db')) : ∃ row row', Changes p token db db' row row' := by
  unfold renewClaim at h
  split at h
  · cases h
  · next row hrow =>
    split at h
    · next hheld =>
      rw [Bool.and_eq_true] at hheld
      cases h
      exact ⟨row, _, (Table.find?_eq_some.mp hrow).1, .renewed hc hheld.1, rfl⟩
    · cases h

lemma renewClaim_refused {d : DrainInput} {c : Claim} {now : Nat} (h : renewClaim db d c now = (false, db')) :
    db' = db := by
  unfold renewClaim at h
  split at h
  · cases h
    rfl
  · split at h
    · cases h
    · cases h
      rfl

lemma failTransfer_changes {d : DrainInput} {p : Phase} {c : Claim} {error : ArchiveError} {now clock token : Nat}
    (hc : p.claim? = some c) (h : failTransfer db d c error now clock = .ok db') :
    db' = db ∨ ∃ row row', Changes p token db db' row row' := by
  unfold failTransfer at h
  split at h
  · cases h
    exact .inl rfl
  · next row hrow =>
    obtain ⟨hmem, hid⟩ := Table.find?_eq_some.mp hrow
    split at h
    · next hheld =>
      obtain ⟨replicas, -, h⟩ := bind_eq_ok.mp h
      cases h
      exact .inr ⟨row, _, hmem, .failed hc hid.symm hheld, rfl⟩
    · cases h
      exact .inl rfl

lemma completeTransfer_changes {d : DrainInput} {rest : List Nat} {c : Claim} {path : Path} {now clock token : Nat}
    (h : completeTransfer db d c now clock = .ok (true, db')) :
    ∃ row, Changes (.completing d rest c path) token db db' row (row.completed now) := by
  unfold completeTransfer at h
  split at h
  · cases h
  · next row hrow =>
    obtain ⟨hmem, hid⟩ := Table.find?_eq_some.mp hrow
    split at h
    · next hheld =>
      rw [Bool.and_eq_true] at hheld
      obtain ⟨replicas, -, h⟩ := bind_eq_ok.mp h
      cases h
      exact ⟨row, hmem, .completed rfl hid.symm hheld.1, rfl⟩
    · cases h

lemma completeTransfer_refused {d : DrainInput} {c : Claim} {now clock : Nat}
    (h : completeTransfer db d c now clock = .ok (false, db')) : db' = db := by
  unfold completeTransfer at h
  split at h
  · cases h
    rfl
  · split at h
    · obtain ⟨replicas, -, h⟩ := bind_eq_ok.mp h
      cases h
    · cases h
      rfl

/-! ### Effects -/

/-- Inside a transaction that spans a file operation. -/
def Inside : Phase → Prop
  | .staging _ => True
  | .staged _ => True
  | .removing _ _ => True
  | _ => False

def Completing : Phase → Prop
  | .completing _ _ _ _ => True
  | _ => False

/-- The worker that acts. -/
def actor : QueueAction → Nat
  | .enqueue i _ _ => i
  | .drain i _ _ => i
  | .cleanupUploadedPayloads i _ => i
  | .advance i _ => i
  | .crash i => i

def StagedAt (path : Path) : Phase → Prop
  | .staged g => g.path = path
  | _ => False

/-- No row needs the file at the path, and no `enqueue` has just written it. -/
def Clear (s : QueueState) (path : Path) : Prop :=
  (∀ row ∈ s.db.transfers.rows, row.payloadPath = path → ¬Needed row) ∧ ∀ p ∈ s.phases, ¬StagedAt path p

/-- The payload that a step unlinks after an upload. -/
def unlinked (s : QueueState) : QueueAction → Option Path
  | .advance i x =>
    match s.phases[i]?, x.raised with
    | some (.unlinking _ _ path), none => some path
    | _, _ => none
  | _ => none

/-- A worker unlinks the payload of its upload only while nobody needs the file again. -/
def Undisturbed (s : QueueState) (a : QueueAction) : Prop := ∀ path, unlinked s a = some path → Clear s path

instance (path : Path) : ∀ p, Decidable (StagedAt path p)
  | .staged g => inferInstanceAs (Decidable (g.path = path))
  | .idle | .staging _ | .recovering _ _ _ | .selecting _ _ | .draining _ _ | .reading _ _ _ | .putting _ _ _ _
  | .renewing _ _ _ _ _ | .verifying _ _ _ _ _ | .failing _ _ _ _ | .completing _ _ _ _ | .unlinking _ _ _
  | .collecting _ | .cleaning _ | .removing _ _ => .isFalse id

instance (s : QueueState) (path : Path) : Decidable (Clear s path) := inferInstanceAs (Decidable (_ ∧ _))

instance (s : QueueState) (a : QueueAction) : Decidable (Undisturbed s a) :=
  match h : unlinked s a with
  | none => .isTrue (fun path hp => by rw [h] at hp; cases hp)
  | some path => decidable_of_iff (Clear s path) (by simp [Undisturbed, h])

/-- What a step does. -/
inductive Effect (cfg : QueueConfig) (s : QueueState) (a : QueueAction) : QueueState → Prop
  | stay : Effect cfg s a s
  | move {p p' : Phase} : s.phases[actor a]? = some p → ¬Inside p → ¬Inside p' →
      (∀ c, p'.claim? = some c → p.claim? = some c) → ¬Completing p' → Effect cfg s a (s.goto (actor a) p')
  | readBack {d : DrainInput} {rest : List Nat} {c : Claim} {path : Path} {digest : String} {stored : Bytes} :
      s.phases[actor a]? = some (.verifying d rest c path digest) → c.row.Matches cfg stored →
      Effect cfg s a { s.goto (actor a) (.completing d rest c path) with
        readbacks := s.readbacks ++ [⟨c.token, c.row.objectKey, stored⟩] }
  | change {p p' : Phase} {db' : QueueTables} {row row' : TransferRow} {n : Nat} : s.lock = none →
      s.phases[actor a]? = some p → ¬Inside p' → ¬Completing p' → Changes p s.nextId s.db db' row row' →
      s.nextId ≤ n →
      (∀ c, p'.claim? = some c → p.claim? = some c ∨ (c.row = row' ∧ c.token = s.nextId ∧ s.nextId < n)) →
      Effect cfg s a { s.goto (actor a) p' with db := db', nextId := n }
  | begin {input : EnqueueInput} {now : Nat} {g : Staging} : s.lock = none →
      enqueueRead cfg s.db input now = .ok (some g) →
      Effect cfg s a { s.goto (actor a) (.staging g) with lock := some (actor a) }
  | store {g : Staging} : s.phases[actor a]? = some (.staging g) →
      Effect cfg s a ((s.write g.path (some g.input.payload)).goto (actor a) (.staged g))
  | commit {g : Staging} {db' : QueueTables} : s.phases[actor a]? = some (.staged g) →
      enqueueWrite cfg s.db g s.nextId = .ok db' →
      Effect cfg s a { (s.release (actor a)).goto (actor a) .idle with db := db', nextId := s.nextId + 1 }
  | abandon {p' : Phase} : p'.claim? = none → ¬Inside p' → Effect cfg s a ((s.release (actor a)).goto (actor a) p')
  | unlink {d : DrainInput} {rest : List Nat} {path : Path} :
      s.phases[actor a]? = some (.unlinking d rest path) → (Undisturbed s a → Clear s path) →
      Effect cfg s a ((s.write path none).goto (actor a) (.draining d rest))
  | open {t : Nat} {recorded path : Path} {rows : List (Nat × Path)} : s.lock = none →
      queuedPayloadPath cfg recorded = .ok path → stillUploaded s.db t recorded →
      Effect cfg s a { s.goto (actor a) (.removing path rows) with lock := some (actor a) }
  | remove {path : Path} {rows : List (Nat × Path)} : s.phases[actor a]? = some (.removing path rows) →
      Effect cfg s a (((s.write path none).release (actor a)).goto (actor a) (.cleaning rows))

/-- A worker outside a spanning transaction goes on without its claim, or with none. -/
lemma effect_goto {a : QueueAction} {p p' : Phase} (hp : s.phases[actor a]? = some p) (hin : ¬Inside p)
    (hin' : ¬Inside p')
    (hclaim : p'.claim? = none) (hcomp : ¬Completing p') : Effect cfg s a (s.goto (actor a) p') :=
  .move hp hin hin' (fun c hc => absurd hc (by rw [hclaim]; simp)) hcomp

/-- A worker goes on under its claim. -/
lemma effect_keep {a : QueueAction} {p p' : Phase} (hp : s.phases[actor a]? = some p) (hin : ¬Inside p)
    (hin' : ¬Inside p')
    (hclaim : p'.claim? = p.claim?) (hcomp : ¬Completing p') : Effect cfg s a (s.goto (actor a) p') :=
  .move hp hin hin' (fun c hc => by rwa [hclaim] at hc) hcomp

lemma effect_transact {a : QueueAction} {next : QueueState} (h : s.lock = none → Effect cfg s a next) :
    Effect cfg s a (s.transact next) := by
  unfold QueueState.transact
  split
  · next hl => exact h hl
  · exact .stay

lemma effect_recover {i : Nat} {d : DrainInput} {now n : Nat} {x : Reading}
    (hp : s.phases[i]? = some (.recovering d now n)) (hl : s.lock = none) :
    Effect cfg s (.advance i x) (recover s i d now n x) := by
  unfold recover
  split
  · split
    · exact effect_goto hp id id rfl id
    · next db' h =>
      obtain ⟨row, hchange⟩ := recoverLease_changes h
      exact .change hl hp id id hchange le_rfl (fun c hc => by cases hc)
    · exact effect_goto hp id id rfl id
  · exact effect_goto hp id id rfl id

lemma effect_claim {i : Nat} {d : DrainInput} {t : Nat} {rest : List Nat} {x : Reading}
    (hp : s.phases[i]? = some (.draining d (t :: rest))) (hl : s.lock = none) :
    Effect cfg s (.advance i x) (claim s i d t rest x) := by
  unfold claim
  split
  · exact effect_goto hp id id rfl id
  · next c db' h =>
    obtain ⟨row, hchange, htoken⟩ := claimTransfer_changes h
    refine .change hl hp id id hchange (by omega) ?_
    intro c' hc'
    cases hc'
    exact .inr ⟨rfl, htoken, by omega⟩
  · exact effect_goto hp id id rfl id

lemma effect_renew {i : Nat} {d : DrainInput} {rest : List Nat} {c : Claim} {path : Path} {digest : String}
    {x : Reading} (hp : s.phases[i]? = some (.renewing d rest c path digest)) (hl : s.lock = none) :
    Effect cfg s (.advance i x) (renew s i d rest c path digest x) := by
  unfold renew
  cases hr : renewClaim s.db d c x.now with
  | mk ok db' =>
    cases ok with
    | true =>
      have hc : (Phase.renewing d rest c path digest).claim? = some c := rfl
      obtain ⟨row, row', hchange⟩ := renewClaim_changes hc hr
      exact .change hl hp id id hchange le_rfl (fun c' hc' => .inl hc')
    | false =>
      rw [renewClaim_refused hr]
      exact effect_goto hp id id rfl id

lemma effect_verify {i : Nat} {d : DrainInput} {rest : List Nat} {c : Claim} {path : Path} {digest : String}
    {x : Reading} (hp : s.phases[i]? = some (.verifying d rest c path digest)) :
    Effect cfg s (.advance i x) (verify cfg s i d rest c path digest x) := by
  unfold verify
  split
  · next h =>
    unfold checkReadback at h
    obtain ⟨_, -, h⟩ := bind_eq_ok.mp h
    obtain ⟨_, -, h⟩ := bind_eq_ok.mp h
    obtain ⟨_, -, h⟩ := bind_eq_ok.mp h
    exact .readBack hp (not_not.mp (raiseIf_eq_ok.mp h))
  · exact effect_keep hp id id rfl id

lemma effect_fail {i : Nat} {d : DrainInput} {rest : List Nat} {c : Claim} {error : ArchiveError} {x : Reading}
    (hp : s.phases[i]? = some (.failing d rest c error)) (hl : s.lock = none) :
    Effect cfg s (.advance i x) (fail s i d rest c error x) := by
  unfold fail
  split
  · next db' h =>
    have hc : (Phase.failing d rest c error).claim? = some c := rfl
    rcases failTransfer_changes hc h with rfl | ⟨row, row', hchange⟩
    · exact effect_goto hp id id rfl id
    · exact .change hl hp id id hchange le_rfl (fun c' hc' => by cases hc')
  · exact effect_goto hp id id rfl id

lemma effect_complete {i : Nat} {d : DrainInput} {rest : List Nat} {c : Claim} {path : Path} {x : Reading}
    (hp : s.phases[i]? = some (.completing d rest c path)) (hl : s.lock = none) :
    Effect cfg s (.advance i x) (complete s i d rest c path x) := by
  unfold complete
  split
  · next db' h =>
    obtain ⟨row, hchange⟩ := completeTransfer_changes h
    exact .change hl hp id id hchange le_rfl (fun c' hc' => by cases hc')
  · next db' h =>
    rw [completeTransfer_refused h]
    exact effect_goto hp id id rfl id
  · exact effect_goto hp id id rfl id

lemma effect_beginRemoval {i t : Nat} {x : Reading} {recorded : Path} {rows rows' : List (Nat × Path)}
    (hp : s.phases[i]? = some (.cleaning rows')) (hl : s.lock = none) :
    Effect cfg s (.advance i x) (beginRemoval cfg s i t recorded rows) := by
  unfold beginRemoval
  split
  · next path h =>
    split
    · next hstill => exact .open hl h hstill
    · exact effect_goto hp id id rfl id
  · exact effect_goto hp id id rfl id

lemma effect_endEnqueue {i : Nat} {x : Reading} {g : Staging} (hp : s.phases[i]? = some (.staged g)) :
    Effect cfg s (.advance i x) (endEnqueue cfg s i g) := by
  unfold endEnqueue
  split
  · next db' h => exact .commit hp h
  · exact .abandon rfl id

lemma effect_advance (i : Nat) (x : Reading) : Effect cfg s (.advance i x) (advance cfg s i x) := by
  unfold advance
  split
  · exact .stay
  · exact .stay
  · next hp _ => exact .store hp
  · exact .abandon rfl id
  · next hp _ => exact effect_endEnqueue hp
  · exact .abandon rfl id
  · next hp _ => exact effect_transact (effect_recover hp)
  · next hp _ => exact effect_goto hp id id rfl id
  · next hp _ => exact effect_goto hp id id rfl id
  · next hp _ => exact effect_transact (effect_claim hp)
  · next hp _ =>
    split
    · exact effect_keep hp id id rfl id
    · exact effect_keep hp id id rfl id
  · next hp _ => exact effect_keep hp id id rfl id
  · next hp _ => exact effect_keep hp id id rfl id
  · next hp _ => exact effect_keep hp id id rfl id
  · next hp _ => exact effect_transact (effect_renew hp)
  · next hp _ => exact effect_keep hp id id rfl id
  · next hp _ => exact effect_verify hp
  · next hp _ => exact effect_keep hp id id rfl id
  · next hp _ => exact effect_transact (effect_fail hp)
  · next hp _ => exact effect_transact (effect_complete hp)
  · next hp hx =>
    refine .unlink hp (fun hg => hg _ ?_)
    simp only [unlinked, hp, hx]
  · next hp _ => exact effect_goto hp id id rfl id
  · next hp _ => exact effect_goto hp id id rfl id
  · next hp _ => exact effect_goto hp id id rfl id
  · next hp _ => exact effect_transact (effect_beginRemoval hp)
  · next hp _ => exact effect_goto hp id id rfl id
  · next hp _ => exact .remove hp
  · exact .abandon rfl id
  · next p _ _ hstaging hstaged _ _ _ _ _ _ hremoving hp _ =>
    have hin : ¬Inside p := by
      intro h
      cases p with
      | staging g => exact hstaging g rfl
      | staged g => exact hstaged g rfl
      | removing path rows => exact hremoving path rows rfl
      | _ => exact h
    exact effect_goto hp hin id rfl id

theorem effect_step (a : QueueAction) : Effect cfg s a (queueStep cfg s a) := by
  cases a with
  | enqueue i input now =>
    simp only [queueStep]
    split
    · next hp =>
      apply effect_transact
      intro hl
      unfold beginEnqueue
      split
      · next g h => exact .begin hl h
      · exact .stay
    · exact .stay
  | drain i d now =>
    simp only [queueStep]
    split
    · next hp =>
      unfold beginDrain
      split
      · exact effect_goto hp id id rfl id
      · exact .stay
    · exact .stay
  | cleanupUploadedPayloads i limit =>
    simp only [queueStep]
    split
    · next hp => exact effect_goto hp id id rfl id
    · exact .stay
  | advance i x => exact effect_advance i x
  | crash i => exact .abandon rfl id

/-! ### The invariant -/

/-- The transaction of `enqueue` has read the row of its key. -/
structure Staging.Ready (cfg : QueueConfig) (db : QueueTables) (g : Staging) : Prop where
  path : g.path = cfg.queueRoot ++ keyParts g.input.objectKey
  existing : g.existing = db.transferOf g.input.objectKey
  content : ∀ row, g.existing = some row → row.Matches cfg g.input.payload
  unclaimed : ∀ row, g.existing = some row → row.status ≠ .uploading

/-- A worker's claim is on a row of the queue. -/
def ClaimOk (s : QueueState) (c : Claim) : Prop :=
  c.token < s.nextId ∧ ∃ row ∈ s.db.transfers, SameTransfer row c.row

/-- The provider was read back under the claim and returned the recorded content. -/
def ReadBack (cfg : QueueConfig) (s : QueueState) (token : Nat) (row : TransferRow) : Prop :=
  ∃ r ∈ s.readbacks, r.token = token ∧ r.objectKey = row.objectKey ∧ row.Matches cfg r.stored

/-- What worker `i` may rely on in a phase. -/
def PhaseOk (cfg : QueueConfig) (s : QueueState) (i : Nat) : Phase → Prop
  | .staging g => s.lock = some i ∧ Staging.Ready cfg s.db g
  | .staged g => s.lock = some i ∧ Staging.Ready cfg s.db g ∧ s.files g.path = some g.input.payload
  | .removing path _ => s.lock = some i ∧ ∀ row ∈ s.db.transfers, row.payloadPath = path → ¬Needed row
  | .completing _ _ c _ => ClaimOk s c ∧ ReadBack cfg s c.token c.row
  | p => ∀ c, p.claim? = some c → ClaimOk s c

/-- Rows have their own keys, and their payload lies under its key. -/
structure RowsOk (cfg : QueueConfig) (s : QueueState) : Prop where
  fresh : ∀ row ∈ s.db.transfers, row.transferId < s.nextId
  path : ∀ row ∈ s.db.transfers, row.payloadPath = cfg.queueRoot ++ keyParts row.objectKey
  key : ∀ row ∈ s.db.transfers, ∀ row' ∈ s.db.transfers, row.objectKey = row'.objectKey → row = row'

/-- Every row that is queued, failed or uploading has its payload at its path. -/
def PayloadsKept (cfg : QueueConfig) (s : QueueState) : Prop :=
  ∀ row ∈ s.db.transfers, Needed row → ∃ payload, s.files row.payloadPath = some payload ∧ row.Matches cfg payload

/-- No two workers work under one token. -/
def TokensDistinct (s : QueueState) : Prop :=
  ∀ (i j : Nat) (p q : Phase) (c c' : Claim), s.phases[i]? = some p → s.phases[j]? = some q →
    p.claim? = some c → q.claim? = some c' → c.token = c'.token → i = j

structure QueueInv (cfg : QueueConfig) (s : QueueState) : Prop where
  rows : RowsOk cfg s
  phases : ∀ i p, s.phases[i]? = some p → PhaseOk cfg s i p
  tokens : TokensDistinct s
  kept : PayloadsKept cfg s

/-- Rows keep their identity, and nothing that was read back is forgotten. -/
structure Grows (s s' : QueueState) : Prop where
  nextId : s.nextId ≤ s'.nextId
  readbacks : ∀ r ∈ s.readbacks, r ∈ s'.readbacks
  rows : ∀ row ∈ s.db.transfers, ∃ row' ∈ s'.db.transfers, SameTransfer row' row

lemma Grows.of_rows (hdb : s'.db = s.db) (hn : s.nextId ≤ s'.nextId) (hr : ∀ r ∈ s.readbacks, r ∈ s'.readbacks) :
    Grows s s' :=
  ⟨hn, hr, fun row h => ⟨row, hdb ▸ h, SameTransfer.refl row⟩⟩

lemma ClaimOk.grows {c : Claim} (h : ClaimOk s c) (hg : Grows s s') : ClaimOk s' c := by
  obtain ⟨htoken, row, hrow, hsame⟩ := h
  obtain ⟨row', hrow', hsame'⟩ := hg.rows row hrow
  exact ⟨lt_of_lt_of_le htoken hg.nextId, row', hrow', hsame'.trans hsame⟩

lemma ReadBack.grows {token : Nat} {row : TransferRow} (h : ReadBack cfg s token row) (hg : Grows s s') :
    ReadBack cfg s' token row := by
  obtain ⟨r, hr, h⟩ := h
  exact ⟨r, hg.readbacks r hr, h⟩

lemma PhaseOk.claim {i : Nat} {p : Phase} {c : Claim} (h : PhaseOk cfg s i p) (hc : p.claim? = some c) :
    ClaimOk s c := by
  cases p with
  | completing d rest c' path =>
    cases hc
    exact h.1
  | staging g => cases hc
  | staged g => cases hc
  | removing path rows => cases hc
  | _ => exact h c hc

lemma PhaseOk.lock {i : Nat} {p : Phase} (h : PhaseOk cfg s i p) (hin : Inside p) : s.lock = some i := by
  cases p with
  | staging g => exact h.1
  | staged g => exact h.1
  | removing path rows => exact h.1
  | _ => exact hin.elim

/-- A phase outside the spanning transactions relies on its claim only. -/
lemma PhaseOk.of_claim {i : Nat} {p : Phase} (hin : ¬Inside p) (hcomp : ¬Completing p)
    (h : ∀ c, p.claim? = some c → ClaimOk s c) : PhaseOk cfg s i p := by
  cases p with
  | completing d rest c path => exact (hcomp trivial).elim
  | staging g => exact (hin trivial).elim
  | staged g => exact (hin trivial).elim
  | removing path rows => exact (hin trivial).elim
  | _ => exact h

/-- What other workers may rely on survives a step. -/
lemma PhaseOk.grows {j : Nat} {q : Phase} (h : PhaseOk cfg s j q) (hg : Grows s s')
    (hin : Inside q → s'.lock = s.lock ∧ s'.db = s.db)
    (hfile : ∀ g, q = .staged g → s'.files g.path = s.files g.path) : PhaseOk cfg s' j q := by
  cases q with
  | staging g =>
    obtain ⟨hl, hdb⟩ := hin trivial
    exact ⟨hl ▸ h.1, hdb ▸ h.2⟩
  | staged g =>
    obtain ⟨hl, hdb⟩ := hin trivial
    exact ⟨hl ▸ h.1, hdb ▸ h.2.1, (hfile g rfl).trans h.2.2⟩
  | removing path rows =>
    obtain ⟨hl, hdb⟩ := hin trivial
    exact ⟨hl ▸ h.1, hdb ▸ h.2⟩
  | completing d rest c path => exact ⟨h.1.grows hg, h.2.grows hg⟩
  | _ => exact fun c hc => (h c hc).grows hg

lemma phases_set {ps : List Phase} {i j : Nat} {p q : Phase} (h : (ps.set i p)[j]? = some q) :
    (j = i ∧ q = p ∧ ∃ old, ps[i]? = some old) ∨ (j ≠ i ∧ ps[j]? = some q) := by
  rw [List.getElem?_set] at h
  split at h
  · next hij =>
    subst hij
    split at h
    · next hlt => exact .inl ⟨rfl, (Option.some.inj h).symm, ps[i], List.getElem?_eq_getElem hlt⟩
    · cases h
  · next hij => exact .inr ⟨fun he => hij he.symm, h⟩

lemma TokensDistinct.set {i : Nat} {p : Phase} (h : TokensDistinct s) (hphases : s'.phases = s.phases.set i p)
    (hp : ∀ c, p.claim? = some c → (∃ old, s.phases[i]? = some old ∧ old.claim? = some c) ∨
      ∀ (j : Nat) (q : Phase) (c' : Claim), s.phases[j]? = some q → q.claim? = some c' → c'.token ≠ c.token) :
    TokensDistinct s' := by
  intro a b x y c c' ha hb hc hc' he
  rw [hphases] at ha hb
  rcases phases_set ha with ⟨hai, hx, -⟩ | ⟨hne, ha'⟩
  · rcases phases_set hb with ⟨hbi, hy, -⟩ | ⟨hne', hb'⟩
    · exact hai.trans hbi.symm
    · rcases hp c (hx ▸ hc) with ⟨old, hold, holdc⟩ | hfresh
      · exact hai.trans (h i b old y c c' hold hb' holdc hc' he)
      · exact absurd he.symm (hfresh b y c' hb' hc')
  · rcases phases_set hb with ⟨hbi, hy, -⟩ | ⟨hne', hb'⟩
    · rcases hp c' (hy ▸ hc') with ⟨old, hold, holdc⟩ | hfresh
      · exact (h a i x old c c' ha' hold hc holdc he).trans hbi.symm
      · exact absurd he (hfresh a x c ha' hc)
    · exact h a b x y c c' ha' hb' hc hc' he

/-- A step of worker `i`: what it may rely on afterwards, and that the other workers are not disturbed. -/
lemma QueueInv.step {i : Nat} {p : Phase} (h : QueueInv cfg s) (hg : Grows s s')
    (hphases : s'.phases = s.phases.set i p) (hmine : ∀ old, s.phases[i]? = some old → PhaseOk cfg s' i p)
    (hlock : ∀ j, j ≠ i → s.lock = some j → s'.lock = s.lock ∧ s'.db = s.db)
    (hfile : ∀ (j : Nat) (g : Staging), j ≠ i → s.phases[j]? = some (.staged g) → s'.files g.path = s.files g.path)
    (hclaim : ∀ c, p.claim? = some c → (∃ old, s.phases[i]? = some old ∧ old.claim? = some c) ∨ s.nextId ≤ c.token)
    (hrows : RowsOk cfg s') (hkept : PayloadsKept cfg s') : QueueInv cfg s' where
  rows := hrows
  phases := by
    intro j q hj
    rw [hphases] at hj
    rcases phases_set hj with ⟨rfl, rfl, old, hold⟩ | ⟨hne, hj⟩
    · exact hmine old hold
    · have hok := h.phases j q hj
      exact hok.grows hg (fun hin => hlock j hne (hok.lock hin)) (fun g hgq => hfile j g hne (hgq ▸ hj))
  tokens := by
    refine h.tokens.set hphases ?_
    intro c hc
    rcases hclaim c hc with hold | hfresh
    · exact .inl hold
    · refine .inr ?_
      intro j q c' hj hc' he
      have := ((h.phases j q hj).claim hc').1
      omega
  kept := hkept

/-! ### Each effect keeps the invariant -/

lemma RowsOk.of_db (h : RowsOk cfg s) (hdb : s'.db = s.db) (hn : s.nextId ≤ s'.nextId) : RowsOk cfg s' where
  fresh := by
    intro row hrow
    have := h.fresh row (hdb ▸ hrow)
    omega
  path := by rw [hdb]; exact h.path
  key := by rw [hdb]; exact h.key

lemma PayloadsKept.of_files (h : PayloadsKept cfg s) (hdb : s'.db = s.db) (hfiles : s'.files = s.files) :
    PayloadsKept cfg s' := by
  unfold PayloadsKept
  rw [hdb, hfiles]
  exact h

/-- Two rows with one payload path are one row. -/
lemma RowsOk.eq_of_path (h : RowsOk cfg s) {row row' : TransferRow} (hrow : row ∈ s.db.transfers)
    (hrow' : row' ∈ s.db.transfers) (he : row.payloadPath = row'.payloadPath) : row = row' := by
  rw [h.path row hrow, h.path row' hrow'] at he
  exact h.key row hrow row' hrow' (keyParts_injective (List.append_cancel_left he))

lemma release_fields (s : QueueState) (i : Nat) :
    (s.release i).db = s.db ∧ (s.release i).files = s.files ∧ (s.release i).phases = s.phases ∧
      (s.release i).nextId = s.nextId ∧ (s.release i).readbacks = s.readbacks := by
  unfold QueueState.release
  split <;> simp

lemma release_lock {i j : Nat} (hne : j ≠ i) (h : s.lock = some j) : (s.release i).lock = s.lock := by
  unfold QueueState.release
  rw [if_neg]
  rw [h]
  intro he
  exact hne (Option.some.inj he)

lemma inv_move {i : Nat} {p p' : Phase} (h : QueueInv cfg s) (hp : s.phases[i]? = some p) (hin : ¬Inside p')
    (hclaim : ∀ c, p'.claim? = some c → p.claim? = some c) (hcomp : ¬Completing p') : QueueInv cfg (s.goto i p') := by
  have hg : Grows s (s.goto i p') := Grows.of_rows rfl le_rfl (fun _ h => h)
  refine h.step hg rfl ?_ (fun _ _ _ => ⟨rfl, rfl⟩) (fun _ _ _ _ => rfl) ?_ (h.rows.of_db rfl le_rfl)
    (h.kept.of_files rfl rfl)
  · intro old hold
    apply PhaseOk.of_claim hin hcomp
    intro c hc
    exact ((h.phases i p hp).claim (hclaim c hc)).grows hg
  · intro c hc
    exact .inl ⟨p, hp, hclaim c hc⟩

lemma inv_readBack {i : Nat} {d : DrainInput} {rest : List Nat} {c : Claim} {path : Path} {digest : String}
    {stored : Bytes} (h : QueueInv cfg s) (hp : s.phases[i]? = some (.verifying d rest c path digest))
    (hm : c.row.Matches cfg stored) :
    QueueInv cfg { s.goto i (.completing d rest c path) with
      readbacks := s.readbacks ++ [⟨c.token, c.row.objectKey, stored⟩] } := by
  have hc : (Phase.verifying d rest c path digest).claim? = some c := rfl
  refine h.step (Grows.of_rows rfl le_rfl (fun r hr => List.mem_append_left _ hr)) rfl ?_ (fun _ _ _ => ⟨rfl, rfl⟩)
    (fun _ _ _ _ => rfl) ?_ (h.rows.of_db rfl le_rfl) (h.kept.of_files rfl rfl)
  · intro old hold
    refine ⟨((h.phases i _ hp).claim hc).grows (Grows.of_rows rfl le_rfl (fun r hr => List.mem_append_left _ hr)), ?_⟩
    exact ⟨⟨c.token, c.row.objectKey, stored⟩, List.mem_append_right _ List.mem_cons_self, rfl, rfl, hm⟩
  · intro c' hc'
    exact .inl ⟨_, hp, hc'⟩

/-- The rows after one of them changed. -/
lemma mem_changes {p : Phase} {token : Nat} {row row' x : TransferRow} (h : Changes p token db db' row row')
    (hx : x ∈ db'.transfers) : x = row' ∨ (x ∈ db.transfers ∧ x.transferId ≠ row'.transferId) := by
  rw [h.2.2, Table.mem_replace] at hx
  rcases hx with ⟨rfl, -⟩ | hx
  · exact .inl rfl
  · exact .inr hx

lemma mem_changed {p : Phase} {token : Nat} {row row' : TransferRow} (h : Changes p token db db' row row') :
    row' ∈ db'.transfers := by
  rw [h.2.2, Table.mem_replace]
  exact .inl ⟨rfl, row, h.1, h.2.1.same.1.symm⟩

/-- Every row after a change has the identity of a row before it. -/
lemma exists_before {p : Phase} {token : Nat} {row row' x : TransferRow} (h : Changes p token db db' row row')
    (hx : x ∈ db'.transfers) : ∃ y ∈ db.transfers, SameTransfer x y ∧ (Needed x → Needed y) := by
  rcases mem_changes h hx with rfl | ⟨hx, -⟩
  · exact ⟨row, h.1, h.2.1.same, h.2.1.needed⟩
  · exact ⟨x, hx, SameTransfer.refl x, id⟩

lemma exists_after {p : Phase} {token : Nat} {row row' x : TransferRow} (h : Changes p token db db' row row')
    (hx : x ∈ db.transfers) : ∃ y ∈ db'.transfers, SameTransfer y x := by
  by_cases hid : x.transferId = row.transferId
  · have hrow : x = row := Table.eq_of_key hx h.1 hid
    exact ⟨row', mem_changed h, hrow ▸ h.2.1.same⟩
  · refine ⟨x, ?_, SameTransfer.refl x⟩
    rw [h.2.2, Table.mem_replace]
    exact .inr ⟨hx, fun he => hid (he.trans h.2.1.same.1)⟩

lemma inv_change {i n : Nat} {p p' : Phase} {row row' : TransferRow} (h : QueueInv cfg s) (hl : s.lock = none)
    (hp : s.phases[i]? = some p) (hin : ¬Inside p') (hcomp : ¬Completing p')
    (hc : Changes p s.nextId s.db db' row row') (hn : s.nextId ≤ n)
    (hclaim : ∀ c, p'.claim? = some c → p.claim? = some c ∨ (c.row = row' ∧ c.token = s.nextId ∧ s.nextId < n)) :
    QueueInv cfg { s.goto i p' with db := db', nextId := n } := by
  have hg : Grows s { s.goto i p' with db := db', nextId := n } := ⟨hn, fun _ h => h, fun x hx => exists_after hc hx⟩
  have hlock : ∀ j, j ≠ i → s.lock = some j →
      ({ s.goto i p' with db := db', nextId := n } : QueueState).lock = s.lock ∧ db' = s.db := by
    intro j _ hj
    rw [hl] at hj
    cases hj
  refine h.step hg rfl ?_ hlock (fun _ _ _ _ => rfl) ?_ ?_ ?_
  · intro old hold
    apply PhaseOk.of_claim hin hcomp
    intro c hpc
    rcases hclaim c hpc with hold | ⟨hrow, htoken, hlt⟩
    · exact ((h.phases i p hp).claim hold).grows hg
    · exact ⟨htoken ▸ hlt, row', mem_changed hc, hrow ▸ SameTransfer.refl row'⟩
  · intro c hpc
    rcases hclaim c hpc with hold | ⟨-, htoken, -⟩
    · exact .inl ⟨p, hp, hold⟩
    · exact .inr (le_of_eq htoken.symm)
  · constructor
    · intro x hx
      obtain ⟨y, hy, hsame, -⟩ := exists_before hc hx
      have := h.rows.fresh y hy
      have hid := hsame.1
      change x.transferId < n
      omega
    · intro x hx
      obtain ⟨y, hy, ⟨-, -, hkey, hpath, -, -⟩, -⟩ := exists_before hc hx
      rw [hpath, hkey]
      exact h.rows.path y hy
    · intro x hx x' hx' he
      obtain ⟨y, hy, hsame, -⟩ := exists_before hc hx
      obtain ⟨y', hy', hsame', -⟩ := exists_before hc hx'
      have hkey : y.objectKey = y'.objectKey := by rw [← hsame.2.2.1, ← hsame'.2.2.1, he]
      have hyy := h.rows.key y hy y' hy' hkey
      apply Table.eq_of_key hx hx'
      rw [hsame.1, hsame'.1, hyy]
  · intro x hx hneed
    obtain ⟨y, hy, hsame, hneed'⟩ := exists_before hc hx
    obtain ⟨payload, hfile, hm⟩ := h.kept y hy (hneed' hneed)
    exact ⟨payload, hsame.2.2.2.1 ▸ hfile, (hsame.matches_iff payload).mpr hm⟩

/-- What `enqueue` has read is consistent with the row of its key. -/
lemma enqueueRead_ready {input : EnqueueInput} {now : Nat} {g : Staging} (hr : RowsOk cfg s)
    (h : enqueueRead cfg s.db input now = .ok (some g)) : Staging.Ready cfg s.db g := by
  unfold enqueueRead at h
  obtain ⟨_, -, h⟩ := bind_eq_ok.mp h
  split at h
  · next hnone =>
    cases h
    refine ⟨rfl, hnone.symm, ?_, ?_⟩
    · intro row hrow
      cases hrow
    · intro row hrow
      cases hrow
  · next existing hsome =>
    obtain ⟨_, hmatch, h⟩ := bind_eq_ok.mp h
    rw [raiseIf_eq_ok, not_or, not_not, not_not] at hmatch
    split at h
    · cases h
    · next hstatus =>
      obtain ⟨path, hpath, h⟩ := bind_eq_ok.mp h
      cases h
      have hmem : existing ∈ s.db.transfers := List.mem_of_find?_eq_some hsome
      have hkey : existing.objectKey = input.objectKey := by simpa using List.find?_some hsome
      rw [hr.path existing hmem] at hpath
      refine ⟨?_, hsome.symm, ?_, ?_⟩
      · rw [queuedPayloadPath_under hpath, hkey]
      · intro row hrow
        cases hrow
        exact hmatch.2
      · intro row hrow
        cases hrow
        exact hstatus

lemma inv_begin {i : Nat} {input : EnqueueInput} {now : Nat} {g : Staging} (h : QueueInv cfg s) (hl : s.lock = none)
    (hread : enqueueRead cfg s.db input now = .ok (some g)) :
    QueueInv cfg { s.goto i (.staging g) with lock := some i } := by
  have hready := enqueueRead_ready h.rows hread
  refine h.step (Grows.of_rows rfl le_rfl (fun _ h => h)) rfl ?_ ?_ (fun _ _ _ _ => rfl) ?_ (h.rows.of_db rfl le_rfl)
    (h.kept.of_files rfl rfl)
  · intro old _
    exact ⟨rfl, hready⟩
  · intro j _ hj
    rw [hl] at hj
    cases hj
  · intro c hc
    cases hc

/-- The file that `enqueue` writes belongs to no other row. -/
lemma kept_store {g : Staging} (h : QueueInv cfg s) (hready : Staging.Ready cfg s.db g) :
    PayloadsKept cfg (s.write g.path (some g.input.payload)) := by
  intro row hrow hneed
  by_cases hpath : row.payloadPath = g.path
  · refine ⟨g.input.payload, by simp [QueueState.write, hpath], ?_⟩
    have hkey : row.objectKey = g.input.objectKey := by
      rw [h.rows.path row hrow, hready.path] at hpath
      exact keyParts_injective (List.append_cancel_left hpath)
    apply hready.content
    rw [hready.existing]
    cases hfind : s.db.transferOf g.input.objectKey with
    | none =>
      have := List.find?_eq_none.mp hfind row hrow
      simp [hkey] at this
    | some row' =>
      have hmem : row' ∈ s.db.transfers := List.mem_of_find?_eq_some hfind
      have hkey' : row'.objectKey = g.input.objectKey := by simpa using List.find?_some hfind
      rw [h.rows.key row' hmem row hrow (hkey'.trans hkey.symm)]
  · obtain ⟨payload, hfile, hm⟩ := h.kept row hrow hneed
    exact ⟨payload, by simpa [QueueState.write, hpath] using hfile, hm⟩

lemma inv_store {i : Nat} {g : Staging} (h : QueueInv cfg s) (hp : s.phases[i]? = some (.staging g)) :
    QueueInv cfg ((s.write g.path (some g.input.payload)).goto i (.staged g)) := by
  obtain ⟨hl, hready⟩ := h.phases i _ hp
  refine h.step (Grows.of_rows rfl le_rfl (fun _ h => h)) rfl ?_ (fun _ _ _ => ⟨rfl, rfl⟩) ?_ ?_
    (h.rows.of_db rfl le_rfl) (kept_store h hready)
  · intro old _
    exact ⟨hl, hready, by simp [QueueState.write, QueueState.goto]⟩
  · intro j g' hne hj
    have hlock : s.lock = some j := (h.phases j _ hj).1
    rw [hl] at hlock
    exact absurd (Option.some.inj hlock).symm hne
  · intro c hc
    cases hc

lemma inv_abandon {i : Nat} {p' : Phase} (h : QueueInv cfg s) (hclaim : p'.claim? = none) (hin : ¬Inside p') :
    QueueInv cfg ((s.release i).goto i p') := by
  obtain ⟨hdb, hfiles, hphases, hnext, hread⟩ := release_fields s i
  have hcomp : ¬Completing p' := by
    intro hc
    cases p' with
    | completing d rest c path => cases hclaim
    | _ => exact hc
  have hg : Grows s ((s.release i).goto i p') := Grows.of_rows hdb hnext.ge (fun r hr => hread.symm ▸ hr)
  refine h.step hg (congrArg (fun l => l.set i p') hphases) ?_ ?_ ?_ ?_ (h.rows.of_db hdb hnext.ge)
    (h.kept.of_files hdb hfiles)
  · intro old _
    apply PhaseOk.of_claim hin hcomp
    intro c hc
    rw [hclaim] at hc
    cases hc
  · intro j hne hj
    exact ⟨release_lock hne hj, hdb⟩
  · intro j g _ _
    exact congrFun hfiles g.path
  · intro c hc
    rw [hclaim] at hc
    cases hc

/-- Removing a file that nobody needs. -/
lemma kept_clear {path : Path} (h : PayloadsKept cfg s)
    (hclear : ∀ row ∈ s.db.transfers, row.payloadPath = path → ¬Needed row) :
    PayloadsKept cfg (s.write path none) := by
  intro row hrow hneed
  obtain ⟨payload, hfile, hm⟩ := h row hrow hneed
  have hne : row.payloadPath ≠ path := fun he => hclear row hrow he hneed
  exact ⟨payload, by simpa [QueueState.write, hne] using hfile, hm⟩

lemma inv_unlink {i : Nat} {d : DrainInput} {rest : List Nat} {path : Path} (h : QueueInv cfg s)
    (hclear : Clear s path) : QueueInv cfg ((s.write path none).goto i (.draining d rest)) := by
  refine h.step (Grows.of_rows rfl le_rfl (fun _ h => h)) rfl ?_ (fun _ _ _ => ⟨rfl, rfl⟩) ?_ ?_
    (h.rows.of_db rfl le_rfl) (kept_clear h.kept hclear.1)
  · intro old _ c hc
    cases hc
  · intro j g _ hj
    have hne : g.path ≠ path := hclear.2 _ (List.mem_of_getElem? hj)
    simp [QueueState.write, QueueState.goto, hne]
  · intro c hc
    cases hc

lemma inv_open {i t : Nat} {recorded path : Path} {rows : List (Nat × Path)} (h : QueueInv cfg s) (hl : s.lock = none)
    (hpath : queuedPayloadPath cfg recorded = .ok path) (hstill : stillUploaded s.db t recorded) :
    QueueInv cfg { s.goto i (.removing path rows) with lock := some i } := by
  refine h.step (Grows.of_rows rfl le_rfl (fun _ h => h)) rfl ?_ ?_ (fun _ _ _ _ => rfl) ?_ (h.rows.of_db rfl le_rfl)
    (h.kept.of_files rfl rfl)
  · intro old _
    refine ⟨rfl, ?_⟩
    intro row hrow hrp
    unfold stillUploaded at hstill
    rw [Option.any_eq_true] at hstill
    obtain ⟨row', hfind, hup⟩ := hstill
    simp only [Bool.and_eq_true, decide_eq_true_eq] at hup
    have hmem : row' ∈ s.db.transfers := (Table.find?_eq_some.mp hfind).1
    rw [← hup.2, h.rows.path row' hmem] at hpath
    have hpath' : row'.payloadPath = path := by rw [queuedPayloadPath_under hpath, h.rows.path row' hmem]
    have heq : row = row' := h.rows.eq_of_path hrow hmem (hrp.trans hpath'.symm)
    simp [Needed, heq, hup.1]
  · intro j _ hj
    rw [hl] at hj
    cases hj
  · intro c hc
    cases hc

lemma inv_remove {i : Nat} {path : Path} {rows : List (Nat × Path)} (h : QueueInv cfg s)
    (hp : s.phases[i]? = some (.removing path rows)) :
    QueueInv cfg (((s.write path none).release i).goto i (.cleaning rows)) := by
  obtain ⟨hl, hclear⟩ := h.phases i _ hp
  obtain ⟨hdb, hfiles, hphases, hnext, hread⟩ := release_fields (s.write path none) i
  refine h.step (Grows.of_rows hdb hnext.ge (fun r hr => hread.symm ▸ hr))
    (congrArg (fun l => l.set i (.cleaning rows)) hphases) ?_ ?_ ?_ ?_ (h.rows.of_db hdb hnext.ge)
    ((kept_clear h.kept hclear).of_files hdb hfiles)
  · intro old _ c hc
    cases hc
  · intro j hne hj
    rw [hl] at hj
    exact absurd (Option.some.inj hj).symm hne
  · intro j g hne hj
    have hlock : s.lock = some j := (h.phases j _ hj).1
    rw [hl] at hlock
    exact absurd (Option.some.inj hlock).symm hne
  · intro c hc
    cases hc

/-- The rows after `enqueue`: one of its key, queued with the content written, and the other rows. -/
lemma enqueueWrite_rows {g : Staging} (hr : RowsOk cfg s) (hready : Staging.Ready cfg s.db g)
    (h : enqueueWrite cfg s.db g s.nextId = .ok db') :
    ∃ row, row ∈ db'.transfers ∧ row.objectKey = g.input.objectKey ∧ row.payloadPath = g.path ∧
      row.Matches cfg g.input.payload ∧ row.transferId < s.nextId + 1 ∧ row.status = .queued ∧
      (∀ x ∈ s.db.transfers, x.transferId = row.transferId → x.status ≠ .uploading) ∧
      (∀ x ∈ db'.transfers, x = row ∨ (x ∈ s.db.transfers ∧ x.objectKey ≠ g.input.objectKey)) ∧
      ∀ x ∈ s.db.transfers, ∃ y ∈ db'.transfers, SameTransfer y x := by
  unfold enqueueWrite at h
  cases hex : g.existing with
  | some existing =>
    simp only [hex, Except.ok.injEq] at h
    subst h
    have hfind : s.db.transferOf g.input.objectKey = some existing := hready.existing.symm.trans hex
    have hmem : existing ∈ s.db.transfers := List.mem_of_find?_eq_some hfind
    have hkey : existing.objectKey = g.input.objectKey := by simpa using List.find?_some hfind
    have hnew : existing.requeued g.now ∈ s.db.transfers.replace (existing.requeued g.now) :=
      Table.mem_replace.mpr (.inl ⟨rfl, existing, hmem, rfl⟩)
    refine ⟨existing.requeued g.now, hnew, hkey, ?_, hready.content existing hex, ?_, rfl, ?_, ?_, ?_⟩
    · change existing.payloadPath = g.path
      rw [hr.path existing hmem, hready.path, hkey]
    · exact Nat.lt_succ_of_lt (hr.fresh existing hmem)
    · intro x hx hid
      have hxe : x = existing := Table.eq_of_key hx hmem hid
      exact hxe ▸ hready.unclaimed existing hex
    · intro x hx
      rcases Table.mem_replace.mp hx with ⟨rfl, -⟩ | ⟨hx, hne⟩
      · exact .inl rfl
      · refine .inr ⟨hx, ?_⟩
        intro he
        apply hne
        rw [hr.key x hx existing hmem (he.trans hkey.symm)]
        rfl
    · intro x hx
      by_cases hid : x.transferId = existing.transferId
      · have hxe : x = existing := Table.eq_of_key hx hmem hid
        exact ⟨existing.requeued g.now, hnew, hxe ▸ SameTransfer.refl existing⟩
      · exact ⟨x, Table.mem_replace.mpr (.inr ⟨hx, hid⟩), SameTransfer.refl x⟩
  | none =>
    simp only [hex] at h
    obtain ⟨transfers, hins, h⟩ := bind_eq_ok.mp h
    cases h
    rw [orRaise_eq_ok, Table.insert?_eq_some] at hins
    have hnone : s.db.transferOf g.input.objectKey = none := hready.existing.symm.trans hex
    have hmem : ∀ x, x ∈ transfers ↔ x ∈ s.db.transfers ∨ x = g.newRow cfg s.nextId := by
      intro x
      rw [Table.mem_def, hins.2, List.mem_append, List.mem_singleton]
      rfl
    refine ⟨g.newRow cfg s.nextId, (hmem _).mpr (.inr rfl), rfl, rfl, ⟨rfl, rfl⟩, Nat.lt_succ_self _, rfl, ?_, ?_, ?_⟩
    · intro x hx hid
      exact absurd hid (Nat.ne_of_lt (hr.fresh x hx))
    · intro x hx
      rcases (hmem x).mp hx with hx | rfl
      · refine .inr ⟨hx, ?_⟩
        intro he
        have := List.find?_eq_none.mp hnone x hx
        simp [he] at this
      · exact .inl rfl
    · intro x hx
      exact ⟨x, (hmem x).mpr (.inl hx), SameTransfer.refl x⟩

lemma inv_commit {i : Nat} {g : Staging} (h : QueueInv cfg s) (hp : s.phases[i]? = some (.staged g))
    (hw : enqueueWrite cfg s.db g s.nextId = .ok db') :
    QueueInv cfg { (s.release i).goto i .idle with db := db', nextId := s.nextId + 1 } := by
  obtain ⟨hl, hready, hfile⟩ := h.phases i _ hp
  obtain ⟨-, hfiles, hphases, -, hread⟩ := release_fields s i
  obtain ⟨row, hrow, hkey, hpath, hm, hid, -, -, hrows, hafter⟩ := enqueueWrite_rows h.rows hready hw
  refine h.step ⟨Nat.le_succ _, fun r hr => hread.symm ▸ hr, hafter⟩ (congrArg (fun l => l.set i .idle) hphases) ?_ ?_
    ?_
    ?_ ?_ ?_
  · intro old _ c hc
    cases hc
  · intro j hne hj
    rw [hl] at hj
    exact absurd (Option.some.inj hj).symm hne
  · intro j g' _ _
    exact congrFun hfiles g'.path
  · intro c hc
    cases hc
  · constructor
    · intro x hx
      rcases hrows x hx with rfl | ⟨hx, -⟩
      · exact hid
      · exact Nat.lt_succ_of_lt (h.rows.fresh x hx)
    · intro x hx
      rcases hrows x hx with rfl | ⟨hx, -⟩
      · rw [hpath, hready.path, hkey]
      · exact h.rows.path x hx
    · intro x hx y hy he
      rcases hrows x hx with rfl | ⟨hx', hxk⟩ <;> rcases hrows y hy with rfl | ⟨hy', hyk⟩
      · rfl
      · exact absurd (he.symm.trans hkey) hyk
      · exact absurd (he.trans hkey) hxk
      · exact h.rows.key x hx' y hy' he
  · intro x hx hneed
    change ∃ payload, (s.release i).files x.payloadPath = some payload ∧ x.Matches cfg payload
    rw [hfiles]
    rcases hrows x hx with rfl | ⟨hx, -⟩
    · exact ⟨g.input.payload, hpath ▸ hfile, hm⟩
    · exact h.kept x hx hneed

/-! ### Runs -/

theorem inv_step {a : QueueAction} (h : QueueInv cfg s) (hg : Undisturbed s a) : QueueInv cfg (queueStep cfg s a) := by
  generalize hs' : queueStep cfg s a = s'
  have he : Effect cfg s a s' := hs' ▸ effect_step a
  cases he with
  | stay => exact h
  | move hp _ hin hclaim hcomp => exact inv_move h hp hin hclaim hcomp
  | readBack hp hm => exact inv_readBack h hp hm
  | change hl hp hin hcomp hc hn hclaim => exact inv_change h hl hp hin hcomp hc hn hclaim
  | begin hl hread => exact inv_begin h hl hread
  | store hp => exact inv_store h hp
  | commit hp hw => exact inv_commit h hp hw
  | abandon hclaim hin => exact inv_abandon h hclaim hin
  | unlink _ hclear => exact inv_unlink h (hclear hg)
  | «open» hl hpath hstill => exact inv_open h hl hpath hstill
  | remove hp => exact inv_remove h hp

lemma inv_initial (h : s.Initial) : QueueInv cfg s := by
  obtain ⟨hrows, hlock, -, hidle⟩ := h
  have hnone : ∀ row ∈ s.db.transfers, False := by
    intro row hrow
    rw [Table.mem_def, hrows] at hrow
    cases hrow
  have hphase : ∀ (i : Nat) (p : Phase), s.phases[i]? = some p → p = .idle :=
    fun i p hp => hidle p (List.mem_of_getElem? hp)
  refine ⟨⟨?_, ?_, ?_⟩, ?_, ?_, ?_⟩
  · exact fun row hrow => (hnone row hrow).elim
  · exact fun row hrow => (hnone row hrow).elim
  · exact fun row hrow => (hnone row hrow).elim
  · intro i p hp
    rw [hphase i p hp]
    intro c hc
    cases hc
  · intro i j p q c c' hp hq hc
    rw [hphase i p hp] at hc
    cases hc
  · exact fun row hrow => (hnone row hrow).elim

theorem inv_reachable (h : (queue cfg).ReachableUnder Undisturbed s) : QueueInv cfg s :=
  h.invariant (fun _ => inv_initial) (fun _ _ hi hg => inv_step hi hg)

/-- Out of `uploading` a row is moved by the worker that holds its current token, or by the recovery of its
expired lease. -/
def HolderSettles (cfg : QueueConfig) (s : QueueState) : Prop :=
  ∀ a, ∀ row ∈ s.db.transfers, ∀ row' ∈ (queueStep cfg s a).db.transfers, row'.transferId = row.transferId →
    row.status = .uploading → row'.status ≠ .uploading →
    (∃ p c, s.phases[actor a]? = some p ∧ p.claim? = some c ∧ c.row.transferId = row.transferId ∧
      row.claimToken = some c.token) ∨
    ∃ d now n, s.phases[actor a]? = some (.recovering d now n) ∧ row.expired now

/-- A row becomes `uploaded` from `uploading`, after a readback under its current token returned the recorded
content. -/
def UploadedAfterReadback (cfg : QueueConfig) (s : QueueState) : Prop :=
  ∀ a, ∀ row' ∈ (queueStep cfg s a).db.transfers, row'.status = .uploaded →
    (∃ row ∈ s.db.transfers, row.transferId = row'.transferId ∧ row.status = .uploaded) ∨
    ∃ row ∈ s.db.transfers, row.transferId = row'.transferId ∧ row.status = .uploading ∧
      ∃ r ∈ s.readbacks, row.claimToken = some r.token ∧ r.objectKey = row.objectKey ∧ row.Matches cfg r.stored

/-- What an effect does to the rows. -/
lemma effect_rows {a : QueueAction} (h : QueueInv cfg s) (he : Effect cfg s a s') :
    s'.db = s.db ∨
    (∃ p row row', s.phases[actor a]? = some p ∧ Changes p s.nextId s.db s'.db row row') ∨
    ∃ row, row.status = .queued ∧ (∀ x ∈ s.db.transfers, x.transferId = row.transferId → x.status ≠ .uploading) ∧
      ∀ x ∈ s'.db.transfers, x = row ∨ x ∈ s.db.transfers := by
  cases he with
  | change hl hp hin hcomp hc hn hclaim => exact .inr (.inl ⟨_, _, _, hp, hc⟩)
  | commit hp hw =>
    obtain ⟨-, hready, -⟩ := h.phases _ _ hp
    obtain ⟨row, -, -, -, -, -, hqueued, hunclaimed, hrows, -⟩ := enqueueWrite_rows h.rows hready hw
    exact .inr (.inr ⟨row, hqueued, hunclaimed, fun x hx => (hrows x hx).imp id And.left⟩)
  | abandon => exact .inl (release_fields s _).1
  | remove => exact .inl (release_fields _ _).1
  | _ => exact .inl rfl

lemma QueueInv.holderSettles (h : QueueInv cfg s) : HolderSettles cfg s := by
  intro a row hrow row' hrow' hid hstatus hstatus'
  rcases effect_rows h (effect_step a) with hdb | ⟨p, old, new, hp, hc⟩ | ⟨new, hqueued, hunclaimed, hrows⟩
  · rw [hdb] at hrow'
    rw [Table.eq_of_key hrow' hrow hid] at hstatus'
    exact absurd hstatus hstatus'
  · rcases mem_changes hc hrow' with rfl | ⟨hmem, -⟩
    · have hold : row = old := Table.eq_of_key hrow hc.1 (hid.symm.trans hc.2.1.same.1)
      subst hold
      cases hc.2.1 with
      | recovered hphase hexpired => exact .inr ⟨_, _, _, hphase ▸ hp, hexpired⟩
      | claimed hdue => exact absurd rfl hstatus'
      | renewed hclaim hheld => exact absurd hstatus hstatus'
      | failed hclaim hsame hheld => exact .inl ⟨p, _, hp, hclaim, hsame, (heldBy_iff.mp hheld).2.1⟩
      | completed hphase hsame hheld =>
        exact .inl ⟨p, _, hp, hphase ▸ rfl, hsame, (heldBy_iff.mp hheld).2.1⟩
    · rw [Table.eq_of_key hmem hrow hid] at hstatus'
      exact absurd hstatus hstatus'
  · rcases hrows row' hrow' with rfl | hmem
    · exact absurd hstatus (hunclaimed row hrow hid.symm)
    · rw [Table.eq_of_key hmem hrow hid] at hstatus'
      exact absurd hstatus hstatus'

lemma QueueInv.uploadedAfterReadback (h : QueueInv cfg s) : UploadedAfterReadback cfg s := by
  intro a row' hrow' hstatus
  rcases effect_rows h (effect_step a) with hdb | ⟨p, old, new, hp, hc⟩ | ⟨new, hqueued, hunclaimed, hrows⟩
  · exact .inl ⟨row', hdb ▸ hrow', rfl, hstatus⟩
  · rcases mem_changes hc hrow' with rfl | ⟨hmem, -⟩
    · cases hc.2.1 with
      | recovered hphase hexpired => cases hstatus
      | claimed hdue => cases hstatus
      | renewed hclaim hheld => exact .inl ⟨old, hc.1, rfl, hstatus⟩
      | failed hclaim hsame hheld =>
        simp only [TransferRow.afterError] at hstatus
        split at hstatus <;> cases hstatus
      | completed hphase hsame hheld =>
        subst hphase
        obtain ⟨⟨-, row, hrow, hrc⟩, r, hr, htoken, hkey, hm⟩ := h.phases _ _ hp
        have hold : row = old := Table.eq_of_key hrow hc.1 (hrc.1.trans hsame)
        subst hold
        obtain ⟨huploading, hclaim, -⟩ := heldBy_iff.mp hheld
        refine .inr ⟨row, hrow, rfl, huploading, r, hr, htoken ▸ hclaim, ?_, (hrc.matches_iff r.stored).mpr hm⟩
        exact hkey.trans hrc.2.2.1.symm
    · exact .inl ⟨row', hmem, rfl, hstatus⟩
  · rcases hrows row' hrow' with rfl | hmem
    · rw [hqueued] at hstatus
      cases hstatus
    · exact .inl ⟨row', hmem, rfl, hstatus⟩

/-- In a run in which a worker unlinks its uploaded payload only while nobody needs the file again, the
payloads survive, and claims are settled by their holders after a matching readback. -/
theorem transferQueue_sound (h : (queue cfg).ReachableUnder Undisturbed s) :
    PayloadsKept cfg s ∧ TokensDistinct s ∧ HolderSettles cfg s ∧ UploadedAfterReadback cfg s := by
  have hi := inv_reachable h
  exact ⟨hi.kept, hi.tokens, hi.holderSettles, hi.uploadedAfterReadback⟩

/-- SHA-256 at the payload of the run. -/
def sampleQueue : QueueConfig where
  sha256 payload :=
    if payload = [1, 2, 3] then "039058c6f2c0cb492c533b0a4d14ef77cc0f78abccced5287d84a1a2011cfb81" else hexText payload
  queueRoot := ["srv", "archive_queue", "k1"]
  legacyRoot := ["srv", "archive_queue", "noyra"]

def sampleInput : EnqueueInput := ⟨"snapshots/a.zlib", [1, 2, 3], .cloud⟩

def sampleDrain : DrainInput := ⟨"s3", 4, 5, 900, "archive-worker"⟩

/-- Two workers. -/
def sampleStart : QueueState :=
  ⟨⟨.empty, .empty, []⟩, fun _ => none, none, [.idle, .idle], 0, []⟩

lemma sampleStart_initial : (queue sampleQueue).init sampleStart := by
  refine ⟨rfl, rfl, rfl, ?_⟩
  simp [sampleStart]

/-- A step at `now` that raises nothing; the provider stores and returns the payload. -/
def faithful (now : Nat) : Reading :=
  ⟨now, now, none, "039058c6f2c0cb492c533b0a4d14ef77cc0f78abccced5287d84a1a2011cfb81", [1, 2, 3]⟩

/-- Worker 0 enqueues the payload. -/
def sampleEnqueue (now : Nat) : List QueueAction :=
  [.enqueue 0 sampleInput now, .advance 0 (faithful now), .advance 0 (faithful now)]

/-- Worker 1 drains the queue up to the unlink of the payload. -/
def sampleUpload : List QueueAction :=
  .drain 1 sampleDrain 10 :: List.replicate 8 (.advance 1 (faithful 10))

/-- The key is enqueued again between the committed upload and the unlink. -/
def sampleLoss : List QueueAction :=
  sampleEnqueue 0 ++ sampleUpload ++ sampleEnqueue 20 ++ [.advance 1 (faithful 30)]

/-- The key is enqueued again after the unlink. -/
def sampleRequeue : List QueueAction :=
  sampleEnqueue 0 ++ sampleUpload ++ [.advance 1 (faithful 10)] ++ sampleEnqueue 20

/-- A payload uploaded, unlinked and queued again is there. -/
theorem transferQueue_sound_requeued :
    ∃ s, ((queue sampleQueue).ReachableUnder Undisturbed s ∧ s.db.transfers.rows.length = 1) ∧
      PayloadsKept sampleQueue s ∧ TokensDistinct s ∧ HolderSettles sampleQueue s ∧
      UploadedAfterReadback sampleQueue s := by
  have hr : (queue sampleQueue).ReachableUnder Undisturbed (sampleRequeue.foldl (queueStep sampleQueue) sampleStart) :=
    Machine.reachableUnder_foldl sampleStart_initial sampleRequeue (by decide +kernel)
  exact ⟨_, ⟨hr, by decide +kernel⟩, transferQueue_sound hr⟩

/-- After the late unlink a queued row has no payload. -/
theorem queued_payload_lost : ∃ s, (queue sampleQueue).Reachable s ∧ ¬PayloadsKept sampleQueue s := by
  refine ⟨sampleLoss.foldl (queueStep sampleQueue) sampleStart,
    Machine.reachable_foldl sampleStart_initial sampleLoss, ?_⟩
  have hlost : (sampleLoss.foldl (queueStep sampleQueue) sampleStart).db.transfers.rows.any (fun row =>
      row.status = .queued && (((sampleLoss.foldl (queueStep sampleQueue) sampleStart).files row.payloadPath).isNone)) =
      true := by
    decide +kernel
  obtain ⟨row, hrow, hq⟩ := List.any_eq_true.mp hlost
  rw [Bool.and_eq_true, decide_eq_true_eq, Option.isNone_iff_eq_none] at hq
  intro hkept
  obtain ⟨payload, hfile, -⟩ := hkept row hrow (.inl hq.1)
  rw [hq.2] at hfile
  cases hfile

end Noyra.Archive.Proofs
