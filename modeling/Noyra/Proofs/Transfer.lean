import Noyra.Lib.Digest
import Noyra.Migration.Transfer

/-!
# Transfers that are resumed and streams that are refused

A stopped transfer that is resumed ends as an uninterrupted one. The encrypted stream is read back, and of all other
streams only those are not refused that announce more bytes for the last chunk than the stream still has.
-/

namespace Noyra.Migration.Transfer.Proofs
open Noyra.Lib Noyra.Lib.Stream

variable {cfg : TransferConfig}

lemma sendLoop_none (chunks : List Bytes) (index : Nat) (hashes : List String) (written : Bytes) :
    (index + chunks.length ≤ maxChunks → sendLoop cfg none chunks index hashes written =
      ⟨.finished, index + chunks.length, hashes ++ chunks.map cfg.sha256, written ++ chunks.flatten⟩) ∧
    (maxChunks < index + chunks.length → index ≤ maxChunks → (sendLoop cfg none chunks index hashes written).ending =
      .tooMany) := by
  induction chunks generalizing index hashes written with
  | nil =>
    constructor
    · intro _
      simp [sendLoop]
    · intro h h'
      rw [List.length_nil] at h
      omega
  | cons chunk rest ih =>
    rw [List.length_cons]
    constructor
    · intro h
      rw [sendLoop, if_neg (by omega), if_neg (by simp), (ih _ _ _).1 (by omega), List.map_cons, List.flatten_cons,
        List.append_assoc, List.append_assoc, List.singleton_append, Nat.add_assoc, Nat.add_comm 1]
    · intro h h'
      rw [sendLoop]
      by_cases hmany : maxChunks < index + 1
      · rw [if_pos hmany]
      · rw [if_neg hmany, if_neg (by simp)]
        exact (ih _ _ _).2 (by omega) (by omega)

/-- A stop after the last chunk changes nothing. -/
lemma sendLoop_beyond {n : Nat} (chunks : List Bytes) (index : Nat) (hashes : List String) (written : Bytes)
    (h : index + chunks.length < n) : sendLoop cfg (some n) chunks index hashes written =
      sendLoop cfg none chunks index hashes written := by
  induction chunks generalizing index hashes written with
  | nil => rfl
  | cons chunk rest ih =>
    rw [List.length_cons] at h
    rw [sendLoop, sendLoop]
    by_cases hmany : maxChunks < index + 1
    · rw [if_pos hmany, if_pos hmany]
    · rw [if_neg hmany, if_neg hmany, if_neg (by simp; omega), if_neg (by simp)]
      exact ih _ _ _ (by omega)

/-- A stop at or before the last chunk. -/
lemma sendLoop_some {n : Nat} (chunks : List Bytes) (index : Nat) (hashes : List String) (written : Bytes)
    (hn : index < n) (h : n ≤ index + chunks.length) :
    (n ≤ maxChunks → sendLoop cfg (some n) chunks index hashes written =
      ⟨.stopped, n, hashes ++ (chunks.take (n - index)).map cfg.sha256, written ++ (chunks.take (n - index)).flatten⟩) ∧
    (maxChunks < n → index ≤ maxChunks → (sendLoop cfg (some n) chunks index hashes written).ending = .tooMany) := by
  induction chunks generalizing index hashes written with
  | nil =>
    rw [List.length_nil] at h
    omega
  | cons chunk rest ih =>
    rw [List.length_cons] at h
    rw [sendLoop]
    by_cases hlast : n = index + 1
    · constructor
      · intro hle
        rw [if_neg (by omega), if_pos (by simp [hlast]), hlast, Nat.add_sub_cancel_left]
        simp
      · intro hlt _
        rw [if_pos (by omega)]
    · have hstep : n - index = n - (index + 1) + 1 := by omega
      constructor
      · intro hle
        rw [if_neg (by omega), if_neg (by simp; omega), (ih _ _ _ (by omega) (by omega)).1 hle, hstep,
          List.take_succ_cons,
          List.map_cons, List.flatten_cons, List.append_assoc, List.append_assoc, List.singleton_append]
      · intro hlt hindex
        by_cases hmany : maxChunks < index + 1
        · rw [if_pos hmany]
        · rw [if_neg hmany, if_neg (by simp; omega)]
          exact (ih _ _ _ (by omega) (by omega)).2 hlt (by omega)

lemma resumeLoop_eq (chunks : List Bytes) (hashes : List String) (written : Bytes) :
    (hashes.length + chunks.length ≤ maxChunks → resumeLoop cfg chunks hashes written =
      ⟨.finished, hashes.length + chunks.length, hashes ++ chunks.map cfg.sha256, written ++ chunks.flatten⟩) ∧
    (maxChunks < hashes.length + chunks.length → hashes.length ≤ maxChunks →
      (resumeLoop cfg chunks hashes written).ending = .tooMany) := by
  induction chunks generalizing hashes written with
  | nil =>
    constructor
    · intro _
      simp [resumeLoop]
    · intro h h'
      rw [List.length_nil] at h
      omega
  | cons chunk rest ih =>
    have hlength : (hashes ++ [cfg.sha256 chunk]).length = hashes.length + 1 := by simp
    rw [List.length_cons, resumeLoop]
    constructor
    · intro h
      rw [if_neg (by omega), (ih _ _).1 (by rw [hlength]; omega), hlength, List.map_cons, List.flatten_cons,
        List.append_assoc, List.append_assoc, List.singleton_append, Nat.add_assoc, Nat.add_comm 1]
    · intro h h'
      by_cases hmany : maxChunks ≤ hashes.length
      · rw [if_pos hmany]
      · rw [if_neg hmany]
        exact (ih _ _).2 (by rw [hlength]; omega) (by rw [hlength]; omega)

/-- The prefix that was sent is recognised. -/
lemma prefixMatches_reads {n : Nat} (hn : 0 < n) (k : Nat) (data : Bytes) :
    TransferReceipt.prefixMatches cfg n (((reads n data).take k).map cfg.sha256) data (data.take (k * n)) = true := by
  induction k generalizing data with
  | zero => rfl
  | succ k ih =>
    by_cases h : data = []
    · rw [h, reads_nil, List.take_nil]
      rfl
    · have hmul : (k + 1) * n = k * n + n := Nat.succ_mul k n
      have htake : (data.take ((k + 1) * n)).take (data.take n).length = data.take n := by
        rw [List.length_take, List.take_take, List.take_eq_take_iff]
        omega
      have hdrop : (data.take ((k + 1) * n)).drop (data.take n).length = (data.drop n).take (k * n) := by
        by_cases hle : n ≤ data.length
        · rw [List.length_take, Nat.min_eq_left hle, List.drop_take, hmul, Nat.add_sub_cancel]
        · rw [List.drop_eq_nil_of_le (by rw [List.length_take, List.length_take]; omega),
            List.drop_eq_nil_of_le (by omega), List.take_nil]
      rw [reads_of_ne_nil hn h, List.take_succ_cons, List.map_cons, TransferReceipt.prefixMatches]
      simp only [htake, hdrop, ih, decide_true, Bool.and_true]

/-- The receipt of an uninterrupted transfer. -/
def fullReceipt (cfg : TransferConfig) (session : TransferSession) (source destination : Path) (data : Bytes) :
    TransferReceipt :=
  ⟨source, destination, data.length, session.chunkBytes, (reads session.chunkBytes data).length,
    (reads session.chunkBytes data).map cfg.sha256, cfg.sha256 data, true⟩

section
variable {session : TransferSession} {source destination : Path} {fs : Files} {data : Bytes}

lemma chunkBytes_pos (session : TransferSession) : 0 < session.chunkBytes := by
  have h := session.lower
  omega

lemma checkSend_eq_ok {stop : Option Int} :
    TransferSession.checkSend source destination stop fs = .ok data ↔
      validatePaths source destination = .ok () ∧ fs source = some data ∧ data.length ≤ maxArtifactBytes ∧
        stop.any (fun n => n < 1) = false := by
  unfold TransferSession.checkSend
  constructor
  · intro h
    obtain ⟨_, hpaths, h⟩ := bind_eq_ok.mp h
    obtain ⟨data', hdata, h⟩ := bind_eq_ok.mp h
    obtain ⟨_, hsize, h⟩ := bind_eq_ok.mp h
    obtain ⟨_, hstop, h⟩ := bind_eq_ok.mp h
    cases h
    exact ⟨hpaths, orRaise_eq_ok.mp hdata, not_lt.mp (raiseIf_eq_ok.mp hsize),
      Bool.eq_false_iff.mpr (raiseIf_eq_ok.mp hstop)⟩
  · rintro ⟨hpaths, hdata, hsize, hstop⟩
    rw [hpaths, ok_bind, hdata, orRaise_some, ok_bind, raiseIf_neg (not_lt.mpr hsize), ok_bind,
      raiseIf_neg (Bool.eq_false_iff.mp hstop), ok_bind]

lemma ne_of_validatePaths (h : validatePaths source destination = .ok ()) : source ≠ destination := by
  unfold validatePaths at h
  obtain ⟨_, _, h⟩ := bind_eq_ok.mp h
  obtain ⟨_, hne, _⟩ := bind_eq_ok.mp h
  exact raiseIf_eq_ok.mp hne

/-- An uninterrupted transfer copies the file, or the file has too many chunks. -/
lemma send_none (h : TransferSession.checkSend source destination none fs = .ok data) :
    ((reads session.chunkBytes data).length ≤ maxChunks →
      session.send cfg source destination none fs =
        (.ok (fullReceipt cfg session source destination data), Function.update fs destination (some data))) ∧
    (maxChunks < (reads session.chunkBytes data).length → ∃ e, (session.send cfg source destination none fs).1 =
      .error e) := by
  have hloop := @sendLoop_none cfg (reads session.chunkBytes data) 0 [] []
  rw [Nat.zero_add, List.nil_append, List.nil_append, flatten_reads (chunkBytes_pos session)] at hloop
  unfold TransferSession.send
  rw [h]
  dsimp only
  rw [Option.map_none]
  constructor
  · intro hle
    rw [hloop.1 hle]
    rfl
  · intro hlt
    rw [hloop.2 hlt (Nat.zero_le _)]
    exact ⟨_, rfl⟩

/-- Resuming after any number of chunks completes the copy. -/
lemma resume_begins {receipt : TransferReceipt} {k : Nat} (hpaths : validatePaths source destination = .ok ())
    (hdata : fs source = some data) (hsize : data.length ≤ maxArtifactBytes)
    (hk : k ≤ (reads session.chunkBytes data).length)
    (hmany : k ≤ maxChunks) (hsource : receipt.source = source) (hdestination : receipt.destination = destination)
    (hbytes : receipt.byteSize = data.length) (hchunk : receipt.chunkBytes = session.chunkBytes)
    (hnext : receipt.nextChunk = k)
    (hhashes : receipt.chunkHashes = ((reads session.chunkBytes data).take k).map cfg.sha256) :
    ((reads session.chunkBytes data).length ≤ maxChunks →
      receipt.resume cfg (Function.update fs destination (some (data.take (k * session.chunkBytes)))) =
        (.ok (fullReceipt cfg session source destination data), Function.update fs destination (some data))) ∧
    (maxChunks < (reads session.chunkBytes data).length →
      ∃ e, (receipt.resume cfg (Function.update fs destination (some (data.take (k * session.chunkBytes))))).1 =
        .error e) := by
  have hpos := chunkBytes_pos session
  have hcount := length_reads hpos data
  have hne := ne_of_validatePaths hpaths
  have hexpected : receipt.expectedPrefix = min (k * session.chunkBytes) data.length := by
    unfold TransferReceipt.expectedPrefix
    rw [hnext, hchunk, hbytes]
  have hcheck : receipt.checkResume cfg (Function.update fs destination (some (data.take (k * session.chunkBytes)))) =
      .ok (data, data.take (k * session.chunkBytes)) := by
    unfold TransferReceipt.checkResume
    rw [hsource, hdestination, hpaths, ok_bind, Function.update_of_ne hne, hdata, orRaise_some, ok_bind, raiseIf_neg,
      ok_bind,
      raiseIf_neg (by rw [hbytes]; exact not_not.mpr rfl), ok_bind, raiseIf_neg, ok_bind, Function.update_self,
        orRaise_some,
      ok_bind, raiseIf_neg (by rw [List.length_take, hexpected]; exact not_not.mpr rfl), ok_bind, raiseIf_neg, ok_bind]
    · rw [hchunk, hhashes, prefixMatches_reads hpos]
      decide
    · rw [hchunk, hbytes, hnext]
      have hlower := session.lower
      have hupper := session.upper
      omega
    · rw [hnext, hhashes, List.length_map, List.length_take]
      omega
  have hdrop : data.drop receipt.expectedPrefix = data.drop (k * session.chunkBytes) := by
    rw [hexpected]
    by_cases hle : k * session.chunkBytes ≤ data.length
    · rw [Nat.min_eq_left hle]
    · rw [Nat.min_eq_right (by omega), List.drop_length, List.drop_eq_nil_of_le (by omega)]
  have hlength : receipt.chunkHashes.length = k := by
    rw [hhashes, List.length_map, List.length_take]
    omega
  have hloop := @resumeLoop_eq cfg ((reads session.chunkBytes data).drop k) receipt.chunkHashes
      (data.take (k * session.chunkBytes))
  have hall : k + ((reads session.chunkBytes data).drop k).length = (reads session.chunkBytes data).length := by
    rw [List.length_drop]
    omega
  have hjoin : data.take (k * session.chunkBytes) ++ ((reads session.chunkBytes data).drop k).flatten = data := by
    rw [← flatten_take_reads hpos, ← List.flatten_append, List.take_append_drop, flatten_reads hpos]
  rw [hlength, hall, hjoin, hhashes, ← List.map_append, List.take_append_drop] at hloop
  unfold TransferReceipt.resume
  rw [hcheck]
  dsimp only
  rw [hdrop, hchunk, reads_drop hpos, hhashes]
  constructor
  · intro hle
    rw [hloop.1 hle, flatten_reads hpos, hdestination, Function.update_idem]
    cases receipt
    subst hsource hdestination hbytes hchunk
    rfl
  · intro hlt
    rw [hloop.2 hlt hmany]
    exact ⟨_, rfl⟩

lemma checkSend_some {n : Int} (hn : 1 ≤ n) :
    TransferSession.checkSend source destination (some n) fs = TransferSession.checkSend source destination none
      fs := by
  unfold TransferSession.checkSend
  have hstop : (some n).any (fun n => n < 1) = (none : Option Int).any (fun n => n < 1) := by
    simp only [Option.any_some, Option.any_none, decide_eq_false_iff_not]
    omega
  rw [hstop]

/-- A stopped transfer that is resumed ends as the uninterrupted one does. -/
theorem sendAndResume_spec {n : Int} (hn : 1 ≤ n)
    (h : TransferSession.checkSend source destination none fs = .ok data) :
    ((reads session.chunkBytes data).length ≤ maxChunks →
      session.sendAndResume cfg source destination n fs =
        (.ok (fullReceipt cfg session source destination data), Function.update fs destination (some data))) ∧
    (maxChunks < (reads session.chunkBytes data).length →
      ∃ e, (session.sendAndResume cfg source destination n fs).1 = .error e) := by
  obtain ⟨hpaths, hdata, hsize, -⟩ := checkSend_eq_ok.mp h
  have hpos := chunkBytes_pos session
  have hall : data.take ((reads session.chunkBytes data).length * session.chunkBytes) = data := by
    rw [← flatten_take_reads hpos, List.take_length, flatten_reads hpos]
  by_cases hbeyond : (reads session.chunkBytes data).length < n.toNat
  · -- the stop lies beyond the file: the receipt is complete, and resuming it appends nothing
    have hsame : session.send cfg source destination (some n) fs = session.send cfg source destination none fs := by
      unfold TransferSession.send
      rw [checkSend_some hn, h]
      dsimp only
      rw [Option.map_some, Option.map_none, sendLoop_beyond _ _ _ _ (by rwa [Nat.zero_add])]
    unfold TransferSession.sendAndResume
    rw [hsame]
    constructor
    · intro hle
      rw [(send_none h).1 hle]
      have hresume := @resume_begins cfg session source destination fs data
          (fullReceipt cfg session source destination data)
        (reads session.chunkBytes data).length hpaths hdata hsize le_rfl hle rfl rfl rfl rfl rfl
          (by rw [List.take_length]; rfl)
      rw [hall] at hresume
      exact hresume.1 hle
    · intro hlt
      obtain ⟨e, he⟩ := (@send_none cfg _ _ _ _ _ h).2 hlt
      refine ⟨e, ?_⟩
      obtain ⟨result, after, hsend⟩ : ∃ result after, session.send cfg source destination none fs = (result, after) :=
        ⟨_, _, rfl⟩
      rw [hsend] at he ⊢
      cases he
      rfl
  · have hloop := @sendLoop_some cfg n.toNat (reads session.chunkBytes data) 0 [] [] (by omega) (by omega)
    rw [Nat.sub_zero, List.nil_append, List.nil_append, flatten_take_reads hpos] at hloop
    have hsend : n.toNat ≤ maxChunks → session.send cfg source destination (some n) fs =
        (.ok ⟨source, destination, data.length, session.chunkBytes, n.toNat,
          ((reads session.chunkBytes data).take n.toNat).map cfg.sha256, "", false⟩,
          Function.update fs destination (some (data.take (n.toNat * session.chunkBytes)))) := by
      intro hle
      unfold TransferSession.send
      rw [checkSend_some hn, h]
      dsimp only
      rw [Option.map_some, hloop.1 hle]
    have hfail : maxChunks < n.toNat → ∃ e, (session.sendAndResume cfg source destination n fs).1 = .error e := by
      intro hlt
      unfold TransferSession.sendAndResume TransferSession.send
      rw [checkSend_some hn, h]
      dsimp only
      rw [Option.map_some, hloop.2 hlt (Nat.zero_le _)]
      exact ⟨_, rfl⟩
    have hresume : n.toNat ≤ maxChunks → _ := fun hle =>
      @resume_begins cfg session source destination fs data
        ⟨source, destination, data.length, session.chunkBytes, n.toNat,
          ((reads session.chunkBytes data).take n.toNat).map cfg.sha256, "", false⟩
        n.toNat hpaths hdata hsize (by omega) hle rfl rfl rfl rfl rfl rfl
    constructor
    · intro hle
      have hmany : n.toNat ≤ maxChunks := by omega
      unfold TransferSession.sendAndResume
      rw [hsend hmany]
      exact (hresume hmany).1 hle
    · intro hlt
      by_cases hmany : n.toNat ≤ maxChunks
      · unfold TransferSession.sendAndResume
        rw [hsend hmany]
        exact (hresume hmany).2 hlt
      · exact hfail (by omega)

lemma checkResume_eq_ok {receipt : TransferReceipt} {written : Bytes}
    (h : receipt.checkResume cfg fs = .ok (data, written)) :
    validatePaths receipt.source receipt.destination = .ok () ∧ fs receipt.source = some data ∧
    fs receipt.destination = some written ∧
      receipt.nextChunk = receipt.chunkHashes.length ∧ receipt.nextChunk ≤ maxChunks ∧ data.length = receipt.byteSize ∧
      4096 ≤ receipt.chunkBytes ∧ receipt.chunkBytes ≤ 64 * 1024 * 1024 ∧ receipt.byteSize ≤ maxArtifactBytes ∧
      receipt.nextChunk ≤ (receipt.byteSize + receipt.chunkBytes - 1) / receipt.chunkBytes ∧
      written.length = receipt.expectedPrefix ∧
      TransferReceipt.prefixMatches cfg receipt.chunkBytes receipt.chunkHashes data written = true := by
  unfold TransferReceipt.checkResume at h
  obtain ⟨_, hpaths, h⟩ := bind_eq_ok.mp h
  obtain ⟨data', hdata, h⟩ := bind_eq_ok.mp h
  obtain ⟨_, hnext, h⟩ := bind_eq_ok.mp h
  obtain ⟨_, hsize, h⟩ := bind_eq_ok.mp h
  obtain ⟨_, hbounds, h⟩ := bind_eq_ok.mp h
  obtain ⟨written', hwritten, h⟩ := bind_eq_ok.mp h
  obtain ⟨_, hlength, h⟩ := bind_eq_ok.mp h
  obtain ⟨_, hprefix, h⟩ := bind_eq_ok.mp h
  cases h
  have hnext := raiseIf_eq_ok.mp hnext
  have hbounds := raiseIf_eq_ok.mp hbounds
  refine ⟨hpaths, orRaise_eq_ok.mp hdata, orRaise_eq_ok.mp hwritten, by omega, by omega,
    not_not.mp (raiseIf_eq_ok.mp hsize),
    by omega, by omega, by omega, by omega, not_not.mp (raiseIf_eq_ok.mp hlength), ?_⟩
  exact Bool.eq_true_of_not_eq_false (raiseIf_eq_ok.mp hprefix)

/-- What the check of the prefix accepts: the hashes are those of the first chunks, and the destination begins with
these chunks. -/
lemma prefixMatches_sound {n : Nat} (hn : 0 < n) (hashes : List String) {data written : Bytes}
    (hcount : hashes.length ≤ (reads n data).length)
    (h : TransferReceipt.prefixMatches cfg n hashes data written = true) :
    hashes = ((reads n data).take hashes.length).map cfg.sha256 ∧ data.take (hashes.length * n) <+: written := by
  induction hashes generalizing data written with
  | nil => exact ⟨rfl, by rw [List.length_nil, Nat.zero_mul, List.take_zero]; exact List.nil_prefix⟩
  | cons hash rest ih =>
    by_cases hdata : data = []
    · rw [hdata, reads_nil, List.length_nil, List.length_cons] at hcount
      omega
    · rw [reads_of_ne_nil hn hdata] at hcount ⊢
      rw [List.length_cons, List.length_cons] at hcount
      rw [TransferReceipt.prefixMatches, Bool.and_eq_true, Bool.and_eq_true, decide_eq_true_eq, decide_eq_true_eq] at h
      obtain ⟨⟨hhash, hchunk⟩, hrest⟩ := h
      obtain ⟨hhashes, hprefix⟩ := ih (by omega) hrest
      constructor
      · rw [List.length_cons, List.take_succ_cons, List.map_cons, hhash, ← hhashes]
      · have hsplit : data.take ((rest.length + 1) * n) = data.take n ++ (data.drop n).take (rest.length * n) := by
          rw [Nat.succ_mul, Nat.add_comm, List.take_add]
        obtain ⟨tail, htail⟩ := hprefix
        refine ⟨tail, ?_⟩
        calc data.take ((rest.length + 1) * n) ++ tail
            = data.take n ++ ((data.drop n).take (rest.length * n) ++ tail) := by rw [hsplit, List.append_assoc]
          _ = written.take (data.take n).length ++ written.drop (data.take n).length := by rw [htail, hchunk]
          _ = written := List.take_append_drop _ _

/-- The loop only appends, and only what is left of the source. -/
lemma resumeLoop_appends (chunks : List Bytes) (hashes : List String) (written : Bytes) :
    written <+: (resumeLoop cfg chunks hashes written).written ∧
      (resumeLoop cfg chunks hashes written).written <+: written ++ chunks.flatten := by
  induction chunks generalizing hashes written with
  | nil =>
    rw [List.flatten_nil, List.append_nil]
    exact ⟨List.prefix_rfl, List.prefix_rfl⟩
  | cons chunk rest ih =>
    rw [resumeLoop]
    by_cases hmany : maxChunks ≤ hashes.length
    · rw [if_pos hmany]
      exact ⟨List.prefix_rfl, List.prefix_append _ _⟩
    · rw [if_neg hmany, List.flatten_cons, ← List.append_assoc]
      obtain ⟨hbefore, hafter⟩ := ih (hashes ++ [cfg.sha256 chunk]) (written ++ chunk)
      exact ⟨(List.prefix_append written chunk).trans hbefore, hafter⟩

/-- What an accepted receipt says of the files. -/
lemma written_of_checkResume {receipt : TransferReceipt} {written : Bytes}
    (h : receipt.checkResume cfg fs = .ok (data, written)) :
    receipt.chunkHashes = ((reads receipt.chunkBytes data).take receipt.nextChunk).map cfg.sha256 ∧
      receipt.nextChunk ≤ (reads receipt.chunkBytes data).length ∧ written = data.take
        (receipt.nextChunk * receipt.chunkBytes) := by
  obtain ⟨-, -, -, hnext, -, hsize, hlower, -, -, hcount, hlength, hprefix⟩ := checkResume_eq_ok h
  have hpos : 0 < receipt.chunkBytes := by omega
  have hreads : receipt.nextChunk ≤ (reads receipt.chunkBytes data).length := by
    rw [length_reads hpos, hsize]
    exact hcount
  obtain ⟨hhashes, tail, htail⟩ := prefixMatches_sound hpos receipt.chunkHashes (hnext ▸ hreads) hprefix
  rw [← hnext] at hhashes htail
  refine ⟨hhashes, hreads, ?_⟩
  have htotal := congrArg List.length htail
  rw [List.length_append, List.length_take, hlength, hsize] at htotal
  unfold TransferReceipt.expectedPrefix at htotal
  have hnil : tail = [] := List.length_eq_zero_iff.mp (by omega)
  rw [← htail, hnil, List.append_nil]

/-- Resuming changes the destination only, and there only by appending what is left of the source. -/
lemma resume_files (receipt : TransferReceipt) (fs : Files) :
    (receipt.resume cfg fs).2 = fs ∨ ∃ data before after, fs receipt.source = some data ∧
    fs receipt.destination = some before ∧
      (receipt.resume cfg fs).2 = Function.update fs receipt.destination (some after) ∧ before <+: after ∧
      after <+: data := by
  unfold TransferReceipt.resume
  cases hcheck : receipt.checkResume cfg fs with
  | error e => exact .inl rfl
  | ok files =>
    obtain ⟨data, written⟩ := files
    obtain ⟨-, hdata, hdestination, -, -, hsize, hlower, -, -, -, -, -⟩ := checkResume_eq_ok hcheck
    obtain ⟨-, -, hwritten⟩ := written_of_checkResume hcheck
    have hpos : 0 < receipt.chunkBytes := by omega
    obtain ⟨hbefore, hafter⟩ := @resumeLoop_appends cfg (reads receipt.chunkBytes (data.drop receipt.expectedPrefix))
        receipt.chunkHashes written
    have hall : written ++ (reads receipt.chunkBytes (data.drop receipt.expectedPrefix)).flatten = data := by
      have htake : data.take (receipt.nextChunk * receipt.chunkBytes) = data.take receipt.expectedPrefix := by
        unfold TransferReceipt.expectedPrefix
        rw [← hsize, List.take_eq_take_iff]
        omega
      rw [flatten_reads hpos, hwritten, htake, List.take_append_drop]
    rw [hall] at hafter
    refine .inr ⟨data, written, _, hdata, hdestination, ?_, hbefore, hafter⟩
    dsimp only
    split
    · rfl
    · rfl

/-- A resumed transfer is the complete copy. -/
lemma resume_eq_ok {receipt receipt' : TransferReceipt} {fs : Files} (h : (receipt.resume cfg fs).1 = .ok receipt') :
    ∃ data, ∃ session : TransferSession, validatePaths receipt.source receipt.destination = .ok () ∧
    fs receipt.source = some data ∧
      data.length ≤ maxArtifactBytes ∧ (reads session.chunkBytes data).length ≤ maxChunks ∧
      receipt.resume cfg fs = (.ok (fullReceipt cfg session receipt.source receipt.destination data),
        Function.update fs receipt.destination (some data)) := by
  cases hcheck : receipt.checkResume cfg fs with
  | error e =>
    unfold TransferReceipt.resume at h
    rw [hcheck] at h
    cases h
  | ok files =>
    obtain ⟨data, written⟩ := files
    obtain ⟨hpaths, hdata, hdestination, -, hmany, hsize, hlower, hupper, hartifact, -, -, -⟩ :=
      checkResume_eq_ok hcheck
    obtain ⟨hhashes, hreads, hwritten⟩ := written_of_checkResume hcheck
    have hbegins := @resume_begins cfg ⟨receipt.chunkBytes, hlower, hupper⟩ receipt.source receipt.destination fs data
        receipt receipt.nextChunk
      hpaths hdata (by omega) hreads hmany rfl rfl hsize.symm rfl rfl hhashes
    dsimp only at hbegins
    rw [← hwritten, ← hdestination, Function.update_eq_self] at hbegins
    by_cases hle : (reads receipt.chunkBytes data).length ≤ maxChunks
    · exact ⟨data, ⟨receipt.chunkBytes, hlower, hupper⟩, hpaths, hdata, by omega, hle, hbegins.1 hle⟩
    · obtain ⟨e, he⟩ := hbegins.2 (by omega)
      rw [he] at h
      cases h

/-- Whatever the receipt says and whatever the files hold: resuming changes no file but the destination, appends to
it only what is left of the source, and where it returns the copy is complete, is verified, and resuming again
changes nothing. -/
theorem resume_sound (cfg : TransferConfig) (receipt : TransferReceipt) (fs : Files) :
    ((receipt.resume cfg fs).2 = fs ∨ ∃ data before after, fs receipt.source = some data ∧
      fs receipt.destination = some before ∧
      (receipt.resume cfg fs).2 = Function.update fs receipt.destination (some after) ∧ before <+: after ∧
      after <+: data) ∧
    ∀ receipt', (receipt.resume cfg fs).1 = .ok receipt' →
      (receipt.resume cfg fs).2 receipt.destination = fs receipt.source ∧ receipt'.verify cfg
        (receipt.resume cfg fs).2 = .ok () ∧
        receipt'.resume cfg (receipt.resume cfg fs).2 = receipt.resume cfg fs := by
  refine ⟨resume_files receipt fs, fun receipt' h => ?_⟩
  obtain ⟨data, session, hpaths, hdata, hsize, hmany, hresume⟩ := resume_eq_ok h
  have hpos := chunkBytes_pos session
  have hne := ne_of_validatePaths hpaths
  rw [hresume] at h ⊢
  cases h
  dsimp only
  refine ⟨by rw [Function.update_self, hdata], ?_, ?_⟩
  · unfold TransferReceipt.verify fullReceipt
    dsimp only
    rw [raiseIf_neg (by decide), ok_bind, Function.update_self, orRaise_some, ok_bind, raiseIf_neg (not_not.mpr rfl),
      ok_bind, raiseIf_neg (not_not.mpr rfl)]
  · have hagain := @resume_begins cfg session receipt.source receipt.destination fs data
      (fullReceipt cfg session receipt.source receipt.destination data) (reads session.chunkBytes data).length hpaths
        hdata hsize le_rfl hmany
      rfl rfl rfl rfl rfl (by rw [List.take_length]; rfl)
    rw [← flatten_take_reads hpos, List.take_length, flatten_reads hpos] at hagain
    exact hagain.1 hmany

end

section
variable {session : EncryptedTransferSession} {manifestDigest : String} {noncePrefix : Bytes}

/-- A chunk behind its length. -/
def frame (session : EncryptedTransferSession) (manifestDigest : String) (noncePrefix : Bytes) (index : Nat)
    (chunk : Bytes) : Bytes :=
  be32 (chunk.length + 16) ++ session.sealChunk manifestDigest noncePrefix index chunk

def frames (session : EncryptedTransferSession) (manifestDigest : String) (noncePrefix : Bytes) :
    Nat → List Bytes → Bytes
  | _, [] => []
  | index, chunk :: rest =>
    frame session manifestDigest noncePrefix index chunk ++ frames session manifestDigest noncePrefix (index + 1) rest

/-- The stream of a file. -/
def streamOf (session : EncryptedTransferSession) (manifestDigest : String) (noncePrefix data : Bytes) : Bytes :=
  session.header noncePrefix ++ frames session manifestDigest noncePrefix 0 (reads session.chunkBytes data)

lemma length_sealChunk (index : Nat) (chunk : Bytes) :
    (session.sealChunk manifestDigest noncePrefix index chunk).length = chunk.length + 16 :=
  session.cipher.length_encrypt _ _ _

lemma encryptLoop_eq (chunks : List Bytes) (index : Nat) (hashes : List String) (written : Bytes) :
    (index + chunks.length ≤ maxChunks → session.encryptLoop cfg manifestDigest noncePrefix chunks index hashes
      written =
      ⟨.finished, index + chunks.length, hashes ++ chunks.map cfg.sha256,
        written ++ frames session manifestDigest noncePrefix index chunks⟩) ∧
    (maxChunks < index + chunks.length → index ≤ maxChunks →
      (session.encryptLoop cfg manifestDigest noncePrefix chunks index hashes written).ending = .tooMany) := by
  induction chunks generalizing index hashes written with
  | nil =>
    constructor
    · intro _
      simp [EncryptedTransferSession.encryptLoop, frames]
    · intro h h'
      rw [List.length_nil] at h
      omega
  | cons chunk rest ih =>
    rw [List.length_cons, EncryptedTransferSession.encryptLoop]
    dsimp only
    constructor
    · intro h
      rw [if_neg (by omega), (ih _ _ _).1 (by omega), List.map_cons, frames, frame, length_sealChunk, List.append_assoc,
        List.append_assoc, List.append_assoc, List.singleton_append, Nat.add_assoc, Nat.add_comm 1, List.append_assoc]
    · intro h h'
      by_cases hmany : maxChunks ≤ index
      · rw [if_pos hmany]
      · rw [if_neg hmany]
        exact (ih _ _ _).2 (by omega) (by omega)

/-- The rest of a stream whose last chunk announces more bytes than there are. -/
def Overstated (session : EncryptedTransferSession) (manifestDigest : String) (noncePrefix : Bytes) (index : Nat)
    (chunks : List Bytes) (source : Bytes) : Prop :=
  ∃ before last length, chunks = before ++ [last] ∧ last.length + 16 < length ∧ length ≤ session.chunkBytes + 16 ∧
    source = frames session manifestDigest noncePrefix index before ++ be32 length ++
      session.sealChunk manifestDigest noncePrefix (index + before.length) last

/-- One chunk is read back. -/
lemma decryptLoop_cons {index n : Nat} {chunk tail written : Bytes} {hashes : List String} (hlower : 16 ≤ n)
    (hupper : n ≤ session.chunkBytes + 16)
    (htake : (session.sealChunk manifestDigest noncePrefix index chunk ++ tail).take n =
      session.sealChunk manifestDigest noncePrefix index chunk) :
    session.decryptLoop cfg manifestDigest noncePrefix session.chunkBytes (cfg.sha256 chunk :: hashes) index
        (be32 n ++ (session.sealChunk manifestDigest noncePrefix index chunk ++ tail)) written =
      session.decryptLoop cfg manifestDigest noncePrefix session.chunkBytes hashes (index + 1)
        ((session.sealChunk manifestDigest noncePrefix index chunk ++ tail).drop n) (written ++ chunk) := by
  have hbound := session.upper
  have hfirst : ∀ rest : Bytes, (be32 n ++ rest).take 4 = be32 n := fun rest => List.take_left' (length_be32 n)
  have hrest : ∀ rest : Bytes, (be32 n ++ rest).drop 4 = rest := fun rest => List.drop_left' (length_be32 n)
  have hopen : session.cipher.decrypt (noncePrefix ++ be32 index)
      (session.sealChunk manifestDigest noncePrefix index chunk)
      (associatedData manifestDigest index) = some chunk := session.cipher.decrypt_encrypt _ _ _
  rw [EncryptedTransferSession.decryptLoop, hfirst, raiseIf_neg (by rw [length_be32]; exact not_not.mpr rfl), ok_bind,
    unbe32_be32 (by omega), orRaise_some, ok_bind, raiseIf_neg (by omega), ok_bind, hrest, htake]
  dsimp only
  rw [hopen, orRaise_some, ok_bind, raiseIf_neg (not_not.mpr rfl), ok_bind]

/-- What the loop reads when it takes one chunk. -/
lemma decryptLoop_cons_ok {index : Nat} {chunk source written data : Bytes} {hashes : List String}
    (h : session.decryptLoop cfg manifestDigest noncePrefix session.chunkBytes (cfg.sha256 chunk :: hashes) index
      source written = .ok data) :
    ∃ n tail, n ≤ session.chunkBytes + 16 ∧ chunk.length + 16 ≤ n ∧ (chunk.length + 16 < n → tail = []) ∧
      source = be32 n ++ (session.sealChunk manifestDigest noncePrefix index chunk ++ tail) ∧
      session.decryptLoop cfg manifestDigest noncePrefix session.chunkBytes hashes (index + 1) tail
        (written ++ chunk) = .ok data := by
  rw [EncryptedTransferSession.decryptLoop] at h
  obtain ⟨_, hfour, h⟩ := bind_eq_ok.mp h
  obtain ⟨n, hn, h⟩ := bind_eq_ok.mp h
  obtain ⟨_, hrange, h⟩ := bind_eq_ok.mp h
  obtain ⟨opened, hopened, h⟩ := bind_eq_ok.mp h
  obtain ⟨_, hhash, hloop⟩ := bind_eq_ok.mp h
  have hrange := raiseIf_eq_ok.mp hrange
  have hsame : opened = chunk := cfg.sha256_injective (not_not.mp (raiseIf_eq_ok.mp hhash))
  subst hsame
  have hsealed : (source.drop 4).take n = session.sealChunk manifestDigest noncePrefix index opened :=
    session.cipher.encrypt_of_decrypt _ _ _ _ (orRaise_eq_ok.mp hopened)
  have hlength := congrArg List.length hsealed
  rw [length_sealChunk, List.length_take] at hlength
  refine ⟨n, (source.drop 4).drop n, by omega, by omega, ?_, ?_, hloop⟩
  · intro hlt
    exact List.drop_eq_nil_of_le (by omega)
  · rw [← hsealed, List.take_append_drop, ← (be32_of_unbe32 (orRaise_eq_ok.mp hn)).1, List.take_append_drop]

/-- What the loop of `receive` accepts. -/
theorem decryptLoop_eq_ok_iff (chunks : List Bytes) (hchunks : ∀ c ∈ chunks, c.length ≤ session.chunkBytes)
    (index : Nat) (source written data : Bytes) :
    session.decryptLoop cfg manifestDigest noncePrefix session.chunkBytes
      (chunks.map cfg.sha256) index source written = .ok data ↔
      data = written ++ chunks.flatten ∧ (source = frames session manifestDigest noncePrefix index chunks ∨
        Overstated session manifestDigest noncePrefix index chunks source) := by
  induction chunks generalizing index source written with
  | nil =>
    have hnone : ¬ Overstated session manifestDigest noncePrefix index [] source := by
      rintro ⟨before, last, _, hnil, -⟩
      cases before <;> cases hnil
    rw [List.map_nil, EncryptedTransferSession.decryptLoop, List.flatten_nil, List.append_nil, frames,
      or_iff_left hnone]
    constructor
    · intro h
      obtain ⟨_, hsource, h⟩ := bind_eq_ok.mp h
      cases h
      exact ⟨rfl, not_not.mp (raiseIf_eq_ok.mp hsource)⟩
    · rintro ⟨rfl, rfl⟩
      rfl
  | cons chunk rest ih =>
    have hchunk := hchunks chunk List.mem_cons_self
    have ih := ih (fun c hc => hchunks c (List.mem_cons_of_mem _ hc))
    rw [List.map_cons, List.flatten_cons, ← List.append_assoc]
    constructor
    · intro h
      obtain ⟨n, tail, hupper, hlower, hshort, rfl, hloop⟩ := decryptLoop_cons_ok h
      obtain ⟨hdata, hsource⟩ := (ih _ _ _).mp hloop
      refine ⟨hdata, ?_⟩
      by_cases hexact : n = chunk.length + 16
      · subst hexact
        rcases hsource with rfl | ⟨before, last, length, rfl, hover, hmost, rfl⟩
        · left
          rw [frames, frame, List.append_assoc]
        · right
          refine ⟨chunk :: before, last, length, rfl, hover, hmost, ?_⟩
          rw [frames, frame, List.length_cons, Nat.add_assoc index, Nat.add_comm 1]
          simp only [List.append_assoc]
      · -- the last chunk: nothing is left behind it
        have hempty := hshort (by omega)
        subst hempty
        rcases hsource with hnil | ⟨before, last, length, -, -, -, hnil⟩
        · cases rest with
          | nil => exact .inr ⟨[], chunk, n, rfl, by omega, hupper, by rw [List.append_nil]; rfl⟩
          | cons next more =>
            have hzero := congrArg List.length hnil
            rw [frames, frame, List.length_append, List.length_append, length_be32, List.length_nil] at hzero
            omega
        · have hzero := congrArg List.length hnil
          rw [List.length_append, List.length_append, length_be32, List.length_nil] at hzero
          omega
    · rintro ⟨rfl, hsource⟩
      have hexact : ∀ tail : Bytes, (session.sealChunk manifestDigest noncePrefix index chunk ++ tail).take
          (chunk.length + 16) =
          session.sealChunk manifestDigest noncePrefix index chunk := fun tail => List.take_left' (length_sealChunk _ _)
      have hrest : ∀ tail : Bytes, (session.sealChunk manifestDigest noncePrefix index chunk ++ tail).drop
          (chunk.length + 16) = tail :=
        fun tail => List.drop_left' (length_sealChunk _ _)
      rcases hsource with rfl | ⟨before, last, length, heq, hover, hmost, rfl⟩
      · rw [frames, frame, List.append_assoc, decryptLoop_cons (by omega) (by omega) (hexact _), hrest]
        exact (ih _ _ _).mpr ⟨rfl, .inl rfl⟩
      · cases before with
        | nil =>
          rw [List.nil_append, List.cons.injEq] at heq
          obtain ⟨rfl, rfl⟩ := heq
          have hall : (session.sealChunk manifestDigest noncePrefix index chunk ++ []).length ≤ length := by
            rw [List.append_nil, length_sealChunk]
            omega
          have hstep := @decryptLoop_cons cfg session manifestDigest noncePrefix index length chunk [] written
            (List.map cfg.sha256 []) (by omega) hmost (by rw [List.take_of_length_le hall, List.append_nil])
          rw [List.append_nil] at hstep hall
          rw [frames, List.nil_append, List.length_nil, Nat.add_zero, hstep, List.drop_eq_nil_of_le hall]
          exact (ih _ _ _).mpr ⟨rfl, .inl rfl⟩
        | cons first before =>
          rw [List.cons_append, List.cons.injEq] at heq
          obtain ⟨rfl, rfl⟩ := heq
          rw [frames, frame, List.append_assoc, List.append_assoc, List.append_assoc,
            decryptLoop_cons (by omega) (by omega) (hexact _),
            hrest]
          refine (ih _ _ _).mpr ⟨rfl, .inr ⟨before, last, length, rfl, hover, hmost, ?_⟩⟩
          rw [List.length_cons, Nat.add_assoc index, Nat.add_comm 1, List.append_assoc]

end

/-! ### The encrypted session -/

section
variable {session : EncryptedTransferSession} {source destination target : Path} {manifestDigest : String}
  {noncePrefix : NoncePrefix} {fs after : Files} {receipt : EncryptedTransferReceipt} {data stream : Bytes}

/-- The stream is the one of the file, with more bytes announced for the last chunk. -/
def Overstates (session : EncryptedTransferSession) (manifestDigest : String) (noncePrefix data stream : Bytes) :
    Prop :=
  ∃ rest, stream = session.header noncePrefix ++ rest ∧
    Overstated session manifestDigest noncePrefix 0 (reads session.chunkBytes data) rest

/-- What a transfer of the file leaves. -/
structure Transferred (cfg : TransferConfig) (session : EncryptedTransferSession) (source destination : Path)
    (manifestDigest : String)
    (noncePrefix : NoncePrefix) (fs after : Files) (receipt : EncryptedTransferReceipt) (data : Bytes) : Prop where
  digest : validateDigest manifestDigest = .ok ()
  stored : fs source = some data
  size : data.length ≤ maxArtifactBytes
  count : (reads session.chunkBytes data).length ≤ maxChunks
  receipt_eq : receipt = ⟨source, destination, data.length, session.chunkBytes, (reads session.chunkBytes data).length,
    (reads session.chunkBytes data).map cfg.sha256, cfg.sha256 data, manifestDigest, noncePrefix.1, true⟩
  after_eq : after = Function.update fs destination (some (streamOf session manifestDigest noncePrefix.1 data))

lemma send_eq_ok (h : session.send cfg source destination manifestDigest noncePrefix fs = (.ok receipt, after)) :
    ∃ data, Transferred cfg session source destination manifestDigest noncePrefix fs after receipt data := by
  have hpos : 0 < session.chunkBytes := by
    have hlower := session.lower
    omega
  unfold EncryptedTransferSession.send at h
  cases hcheck : EncryptedTransferSession.checkSend source destination manifestDigest fs with
  | error e =>
    rw [hcheck] at h
    cases h
  | ok data =>
    rw [hcheck] at h
    dsimp only at h
    unfold EncryptedTransferSession.checkSend at hcheck
    obtain ⟨_, hdigest, hcheck⟩ := bind_eq_ok.mp hcheck
    obtain ⟨_, _, hcheck⟩ := bind_eq_ok.mp hcheck
    obtain ⟨data', hdata, hcheck⟩ := bind_eq_ok.mp hcheck
    obtain ⟨_, hsize, hcheck⟩ := bind_eq_ok.mp hcheck
    cases hcheck
    have hloop := @encryptLoop_eq cfg session manifestDigest noncePrefix.1 (reads session.chunkBytes data) 0 []
      (session.header noncePrefix.1)
    rw [Nat.zero_add, List.nil_append] at hloop
    by_cases hcount : (reads session.chunkBytes data).length ≤ maxChunks
    · rw [hloop.1 hcount, flatten_reads hpos] at h
      cases h
      exact ⟨data, hdigest, orRaise_eq_ok.mp hdata, not_lt.mp (raiseIf_eq_ok.mp hsize), hcount, rfl, rfl⟩
    · rw [hloop.2 (by omega) (Nat.zero_le _)] at h
      cases h

lemma Transferred.send_eq
    (h : Transferred cfg session source destination manifestDigest noncePrefix fs after receipt data)
    (hpaths : validatePaths source destination = .ok ()) :
    session.send cfg source destination manifestDigest noncePrefix fs = (.ok receipt, after) := by
  have hpos : 0 < session.chunkBytes := by
    have hlower := session.lower
    omega
  have hcheck : EncryptedTransferSession.checkSend source destination manifestDigest fs = .ok data := by
    unfold EncryptedTransferSession.checkSend
    rw [h.digest, ok_bind, hpaths, ok_bind, h.stored, orRaise_some, ok_bind, raiseIf_neg (not_lt.mpr h.size), ok_bind]
  have hloop := (@encryptLoop_eq cfg session manifestDigest noncePrefix.1 (reads session.chunkBytes data) 0 []
    (session.header noncePrefix.1)).1 (by rw [Nat.zero_add]; exact h.count)
  rw [Nat.zero_add, List.nil_append] at hloop
  unfold EncryptedTransferSession.send
  rw [hcheck]
  dsimp only
  rw [hloop, flatten_reads hpos, h.receipt_eq, h.after_eq]
  rfl

lemma length_header (session : EncryptedTransferSession) (noncePrefix : NoncePrefix) :
    (session.header noncePrefix.1).length = 22 := by
  unfold EncryptedTransferSession.header
  rw [List.length_append, List.length_append, length_be32, noncePrefix.2]
  rfl

lemma length_frames {noncePrefix : Bytes} (index : Nat) (chunks : List Bytes) :
    (frames session manifestDigest noncePrefix index chunks).length = chunks.flatten.length + 20 * chunks.length := by
  induction chunks generalizing index with
  | nil => rfl
  | cons chunk rest ih =>
    rw [frames, frame, List.length_append, List.length_append, ih, length_be32, length_sealChunk, List.flatten_cons,
      List.length_append, List.length_cons]
    omega

lemma length_overstated {noncePrefix : Bytes} {index : Nat} {chunks : List Bytes} {rest : Bytes}
    (h : Overstated session manifestDigest noncePrefix index chunks rest) :
    rest.length = chunks.flatten.length + 20 * chunks.length := by
  obtain ⟨before, last, length, rfl, -, -, rfl⟩ := h
  rw [List.length_append, List.length_append, length_frames, length_be32, length_sealChunk, List.flatten_append,
    List.length_append, List.length_append, List.flatten_singleton, List.length_singleton]
  omega

/-- The streams that decrypt: the one of the file, and those that overstate its last chunk. -/
lemma Transferred.decryptStream_eq_ok_iff
    (h : Transferred cfg session source destination manifestDigest noncePrefix fs after receipt data)
    {result : Bytes} : session.decryptStream cfg receipt manifestDigest stream = .ok result ↔
      result = data ∧ (stream = streamOf session manifestDigest noncePrefix.1 data ∨
        Overstates session manifestDigest noncePrefix.1 data stream) := by
  have hpos : 0 < session.chunkBytes := by
    have hlower := session.lower
    omega
  have hbound := session.upper
  have hchunks : ∀ c ∈ reads session.chunkBytes data, c.length ≤ session.chunkBytes :=
    fun c hc => (length_of_mem_reads hpos hc).2
  have hflat := flatten_reads hpos data
  rw [h.receipt_eq]
  constructor
  · intro hok
    unfold EncryptedTransferSession.decryptStream at hok
    dsimp only at hok
    obtain ⟨_, hmagic, hok⟩ := bind_eq_ok.mp hok
    obtain ⟨n, hn, hok⟩ := bind_eq_ok.mp hok
    obtain ⟨_, hsize, hok⟩ := bind_eq_ok.mp hok
    obtain ⟨_, hnonce, hok⟩ := bind_eq_ok.mp hok
    obtain ⟨plain, hloop, hok⟩ := bind_eq_ok.mp hok
    obtain ⟨_, _, hok⟩ := bind_eq_ok.mp hok
    obtain ⟨_, _, hok⟩ := bind_eq_ok.mp hok
    cases hok
    have hmagic := not_not.mp (raiseIf_eq_ok.mp hmagic)
    have hsize := not_not.mp (raiseIf_eq_ok.mp hsize)
    have hnonce := not_not.mp (raiseIf_eq_ok.mp hnonce)
    subst hsize
    have hstream : stream = session.header noncePrefix.1 ++ stream.drop 22 := by
      unfold EncryptedTransferSession.header
      rw [← hmagic, ← (be32_of_unbe32 (orRaise_eq_ok.mp hn)).1, ← hnonce, List.append_assoc, List.append_assoc]
      have h22 : stream.drop 22 = (stream.drop 14).drop 8 := by rw [List.drop_drop]
      have h14 : stream.drop 14 = (stream.drop 10).drop 4 := by rw [List.drop_drop]
      rw [h22, List.take_append_drop, h14, List.take_append_drop, List.take_append_drop]
    obtain ⟨hresult, hrest⟩ := (decryptLoop_eq_ok_iff _ hchunks 0 _ _ _).mp hloop
    rw [List.nil_append, hflat] at hresult
    refine ⟨hresult, ?_⟩
    rcases hrest with hrest | hrest
    · left
      rw [hstream, hrest]
      rfl
    · exact .inr ⟨_, hstream, hrest⟩
  · rintro ⟨rfl, hstream⟩
    obtain ⟨rest, rfl, hrest⟩ : ∃ rest, stream = session.header noncePrefix.1 ++ rest ∧
        (rest = frames session manifestDigest noncePrefix.1 0 (reads session.chunkBytes result) ∨
          Overstated session manifestDigest noncePrefix.1 0 (reads session.chunkBytes result) rest) := by
      rcases hstream with rfl | ⟨rest, rfl, hrest⟩
      · exact ⟨_, rfl, .inl rfl⟩
      · exact ⟨rest, rfl, .inr hrest⟩
    have hloop := (@decryptLoop_eq_ok_iff cfg session manifestDigest noncePrefix.1 _ hchunks 0 rest [] result).mpr
      ⟨by rw [List.nil_append, hflat], hrest⟩
    have hdrop22 : (session.header noncePrefix.1 ++ rest).drop 22 = rest :=
      List.drop_left' (length_header session noncePrefix)
    have hdrop10 : (session.header noncePrefix.1 ++ rest).drop 10 = be32 session.chunkBytes ++
        (noncePrefix.1 ++ rest) := by
      unfold EncryptedTransferSession.header
      rw [List.append_assoc, List.append_assoc]
      exact List.drop_left' rfl
    have hdrop14 : (session.header noncePrefix.1 ++ rest).drop 14 = noncePrefix.1 ++ rest := by
      have hstep : (session.header noncePrefix.1 ++ rest).drop 14 =
          ((session.header noncePrefix.1 ++ rest).drop 10).drop 4 := by
        rw [List.drop_drop]
      rw [hstep, hdrop10]
      exact List.drop_left' (length_be32 _)
    have htake10 : (session.header noncePrefix.1 ++ rest).take 10 = encryptedMagic := by
      unfold EncryptedTransferSession.header
      rw [List.append_assoc, List.append_assoc]
      exact List.take_left' rfl
    unfold EncryptedTransferSession.decryptStream
    rw [raiseIf_neg (by rw [htake10]; exact not_not.mpr rfl), ok_bind, hdrop10, List.take_left' (length_be32 _),
      unbe32_be32 (by omega), orRaise_some, ok_bind, raiseIf_neg (not_not.mpr rfl), ok_bind, hdrop14,
        List.take_left' noncePrefix.2,
      raiseIf_neg (not_not.mpr rfl), ok_bind, hdrop22, hloop, ok_bind, raiseIf_neg (not_not.mpr rfl), ok_bind,
      raiseIf_neg (not_not.mpr rfl), ok_bind]

/-- What `receive` makes of a stream in the place of the transferred one. -/
lemma Transferred.receive_eq
    (h : Transferred cfg session source destination manifestDigest noncePrefix fs after receipt data)
    {g : Files} (hstream : g destination = some stream) (hpaths : validatePaths destination target = .ok ()) :
    (stream = streamOf session manifestDigest noncePrefix.1 data ∨
      Overstates session manifestDigest noncePrefix.1 data stream →
      session.receive cfg receipt target manifestDigest g = (.ok (), Function.update g target (some data))) ∧
    (¬(stream = streamOf session manifestDigest noncePrefix.1 data ∨
      Overstates session manifestDigest noncePrefix.1 data stream) →
      ∃ e, session.receive cfg receipt target manifestDigest g = (.error e, g)) := by
  have hpos : 0 < session.chunkBytes := by
    have hlower := session.lower
    omega
  have hcheck : EncryptedTransferSession.checkReceive receipt target manifestDigest g =
      if maxArtifactBytes * 2 < stream.length then .error (.valueError "encrypted transfer source is unavailable")
        else .ok stream := by
    have hcount := h.count
    unfold EncryptedTransferSession.checkReceive
    rw [h.digest, ok_bind, h.receipt_eq]
    dsimp only
    rw [raiseIf_neg (by simp), ok_bind, raiseIf_neg (by rw [List.length_map]; omega), ok_bind, hstream, orRaise_some,
      ok_bind, hpaths]
    by_cases hlong : maxArtifactBytes * 2 < stream.length
    · rw [raiseIf, if_pos hlong, if_pos hlong]
      rfl
    · rw [raiseIf_neg hlong, if_neg hlong]
      rfl
  constructor
  · intro hgood
    have hlength : stream.length = 22 + (data.length + 20 * (reads session.chunkBytes data).length) := by
      rcases hgood with rfl | ⟨rest, rfl, hrest⟩
      · rw [streamOf, List.length_append, length_header, length_frames, flatten_reads hpos]
      · rw [List.length_append, length_header, length_overstated hrest, flatten_reads hpos]
    have hshort : ¬ maxArtifactBytes * 2 < stream.length := by
      have hcount := h.count
      have hsize := h.size
      unfold maxChunks at hcount
      unfold maxArtifactBytes at hsize ⊢
      omega
    unfold EncryptedTransferSession.receive
    rw [hcheck, if_neg hshort]
    dsimp only
    rw [h.decryptStream_eq_ok_iff.mpr ⟨rfl, hgood⟩]
  · intro hbad
    unfold EncryptedTransferSession.receive
    rw [hcheck]
    by_cases hlong : maxArtifactBytes * 2 < stream.length
    · rw [if_pos hlong]
      exact ⟨_, rfl⟩
    · rw [if_neg hlong]
      dsimp only
      cases hrun : session.decryptStream cfg receipt manifestDigest stream with
      | error e => exact ⟨_, rfl⟩
      | ok result => exact absurd (h.decryptStream_eq_ok_iff.mp hrun).2 hbad

end

/-! ### Both sessions -/

/-- Stopping and resuming does not show; the encrypted stream of a file is read back; and another stream is refused,
with the destination as it was, exactly when it does not overstate the last chunk. -/
theorem sessions_faithful_iff (cfg : TransferConfig) (plain : TransferSession) (session : EncryptedTransferSession)
    (source destination target : Path) (fs : Files) :
    (∀ n : Int, 1 ≤ n → ∀ receipt after, plain.sendAndResume cfg source destination n fs = (.ok receipt, after) ↔
      plain.send cfg source destination none fs = (.ok receipt, after)) ∧
    ∀ manifestDigest noncePrefix receipt after,
      session.send cfg source destination manifestDigest noncePrefix fs = (.ok receipt, after) →
      ∃ data, fs source = some data ∧ ∀ g : Files, validatePaths destination target = .ok () →
        (g destination = after destination →
          session.receive cfg receipt target manifestDigest g = (.ok (), Function.update g target (some data))) ∧
        ∀ stream, g destination = some stream → g destination ≠ after destination →
          ((∃ e, session.receive cfg receipt target manifestDigest g = (.error e, g)) ↔
            ¬ Overstates session manifestDigest noncePrefix.1 data stream) := by
  constructor
  · intro n hn receipt after
    cases h : TransferSession.checkSend source destination none fs with
    | error e =>
      have hsend : ∀ stop, TransferSession.checkSend source destination stop fs = .error e →
          plain.send cfg source destination stop fs = (.error e, fs) := by
        intro stop hstop
        unfold TransferSession.send
        rw [hstop]
      rw [hsend none h, TransferSession.sendAndResume, hsend (some n) (by rw [checkSend_some hn, h])]
    | ok data =>
      have hresumed := @sendAndResume_spec cfg plain _ _ _ _ _ hn h
      have hwhole := @send_none cfg plain _ _ _ _ h
      by_cases hcount : (reads plain.chunkBytes data).length ≤ maxChunks
      · rw [hresumed.1 hcount, hwhole.1 hcount]
      · obtain ⟨e, he⟩ := hresumed.2 (by omega)
        obtain ⟨e', he'⟩ := hwhole.2 (by omega)
        constructor
        · intro hok
          rw [hok] at he
          cases he
        · intro hok
          rw [hok] at he'
          cases he'
  · intro manifestDigest noncePrefix receipt after hsend
    obtain ⟨data, h⟩ := send_eq_ok hsend
    refine ⟨data, h.stored, fun g hpaths => ⟨?_, ?_⟩⟩
    · intro hsame
      rw [h.after_eq, Function.update_self] at hsame
      exact (h.receive_eq hsame hpaths).1 (.inl rfl)
    · intro stream hstream hother
      have hne : stream ≠ streamOf session manifestDigest noncePrefix.1 data := by
        rintro rfl
        rw [h.after_eq, Function.update_self] at hother
        exact hother hstream
      constructor
      · rintro ⟨e, he⟩ hover
        rw [(h.receive_eq hstream hpaths).1 (.inr hover)] at he
        cases he
      · intro hover
        apply (h.receive_eq hstream hpaths).2
        rintro (heq | hbad)
        · exact hne heq
        · exact hover hbad

/-- Bytes that depend on the nonce, what is sealed and the associated data. -/
def sampleTag (nonce body aad : Bytes) : Bytes :=
  (List.range 16).map (fun i => UInt8.ofNat (Digest.checksum ((nonce ++ aad ++ body).map UInt8.toNat) / 256 ^ i))

def sampleMask (nonce data : Bytes) : Bytes := data.map (· ^^^ UInt8.ofNat (Digest.checksum (nonce.map UInt8.toNat)))

lemma length_sampleTag (nonce body aad : Bytes) : (sampleTag nonce body aad).length = 16 := by
  unfold sampleTag
  rw [List.length_map, List.length_range]

lemma sampleMask_sampleMask (nonce data : Bytes) : sampleMask nonce (sampleMask nonce data) = data := by
  unfold sampleMask
  rw [List.map_map]
  refine List.map_id'' (fun b => ?_) data
  simp only [Function.comp_apply, UInt8.xor_assoc, UInt8.xor_self, UInt8.xor_zero]

/-- A stand-in for ChaCha20-Poly1305: masked bytes and a tag. -/
def sampleCipher : Cipher where
  encrypt nonce data aad := sampleMask nonce data ++ sampleTag nonce (sampleMask nonce data) aad
  decrypt nonce sealed aad :=
    if sealed.drop (sealed.length - 16) = sampleTag nonce (sealed.take (sealed.length - 16)) aad then
      some (sampleMask nonce (sealed.take (sealed.length - 16)))
    else none
  decrypt_encrypt nonce data aad := by
    have hlength : (sampleMask nonce data ++ sampleTag nonce (sampleMask nonce data) aad).length - 16 =
        (sampleMask nonce data).length := by
      rw [List.length_append, length_sampleTag, Nat.add_sub_cancel]
    rw [hlength, List.take_left, List.drop_left, if_pos rfl, sampleMask_sampleMask]
  encrypt_of_decrypt nonce sealed aad data h := by
    split at h
    case isTrue htag =>
      cases h
      rw [sampleMask_sampleMask, ← htag, List.take_append_drop]
    case isFalse => cases h
  length_encrypt nonce data aad := by
    rw [List.length_append, length_sampleTag, sampleMask, List.length_map]

def sampleSession : EncryptedTransferSession := ⟨sampleCipher, 4096, by decide, by decide⟩

def sampleConfig : TransferConfig where
  sha256 := Digest.raw
  sha256_injective := Digest.raw_injective

def sampleDigest : String := String.ofList (List.replicate 64 '0')

def sampleNonce : NoncePrefix := ⟨List.replicate 8 0, rfl⟩

def sampleFiles (data : Bytes) : Files := Function.update (fun _ => none) ["artifact"] (some data)

/-- The files after the transfer. -/
def sentFiles (data : Bytes) : Files :=
  Function.update (sampleFiles data) ["stream"] (some (streamOf sampleSession sampleDigest sampleNonce.1 data))

def sampleReceipt (data : Bytes) : EncryptedTransferReceipt :=
  ⟨["artifact"], ["stream"], data.length, 4096, (reads 4096 data).length, (reads 4096 data).map sampleConfig.sha256,
    sampleConfig.sha256 data, sampleDigest, sampleNonce.1, true⟩

/-- A short file is transferred. -/
lemma sample_transferred {data : Bytes} (hshort : data.length ≤ 8192) :
    Transferred sampleConfig sampleSession ["artifact"] ["stream"] sampleDigest sampleNonce (sampleFiles data)
      (sentFiles data) (sampleReceipt data)
      data where
  digest := by
    unfold validateDigest
    rw [raiseIf_neg]
    unfold isHexDigest sampleDigest
    rw [String.toList_ofList]
    decide
  stored := Function.update_self ..
  size := Nat.le_trans hshort (by decide)
  count := by
    rw [show sampleSession.chunkBytes = 4096 from rfl, length_reads (by decide)]
    unfold maxChunks
    omega
  receipt_eq := rfl
  after_eq := rfl

lemma sample_reads : reads sampleSession.chunkBytes ([7] : Bytes) = [[7]] := reads_single (by decide) (by decide)

/-- The stream of one byte, whose length field says 18 in the place of 17. -/
def raisedStream : Bytes :=
  sampleSession.header sampleNonce.1 ++ (be32 18 ++ sampleSession.sealChunk sampleDigest sampleNonce.1 0 [7])

lemma raisedStream_overstates : Overstates sampleSession sampleDigest sampleNonce.1 [7] raisedStream :=
  ⟨_, rfl, [], [7], 18, by rw [sample_reads, List.nil_append], by decide, by decide, rfl⟩

lemma raisedStream_ne : raisedStream ≠ streamOf sampleSession sampleDigest sampleNonce.1 [7] := by
  unfold raisedStream streamOf
  rw [sample_reads]
  intro h
  have htake := congrArg (List.take 4) (List.append_cancel_left h)
  exact absurd htake (by decide)

/-- The altered stream recreates the file. -/
theorem raised_length_accepted :
    ∃ receipt after, sampleSession.send sampleConfig ["artifact"] ["stream"] sampleDigest sampleNonce
      (sampleFiles [7]) = (.ok receipt, after) ∧ after ["stream"] ≠ some raisedStream ∧
      sampleSession.receive sampleConfig receipt ["copy"] sampleDigest
        (Function.update after ["stream"] (some raisedStream)) =
        (.ok (), Function.update (Function.update after ["stream"] (some raisedStream)) ["copy"] (some [7])) := by
  have hsent := sample_transferred (show ([7] : Bytes).length ≤ 8192 by decide)
  refine ⟨_, _, hsent.send_eq (by decide), ?_, ?_⟩
  · rw [sentFiles, Function.update_self]
    intro h
    exact raisedStream_ne (Option.some.inj h).symm
  · exact (hsent.receive_eq (Function.update_self ..) (by decide)).1 (.inr raisedStream_overstates)

def firstChunk : Bytes := List.replicate 4096 7

def twoChunks : Bytes := firstChunk ++ [8]

lemma two_reads : reads 4096 twoChunks = [firstChunk, [8]] := by
  have hlength : firstChunk.length = 4096 := List.length_replicate
  unfold twoChunks
  rw [reads_of_ne_nil (by decide) (by simp), List.take_left' hlength, List.drop_left' hlength,
    reads_single (by decide) (by decide)]

/-- The stream of the file with its two chunks exchanged. -/
def swappedStream : Bytes :=
  sampleSession.header sampleNonce.1 ++
    (frame sampleSession sampleDigest sampleNonce.1 1 [8] ++ frame sampleSession sampleDigest sampleNonce.1 0
      firstChunk)

/-- It does not begin with the first chunk. -/
lemma swapped_first {tail : Bytes} :
    swappedStream ≠ sampleSession.header sampleNonce.1 ++
      (frame sampleSession sampleDigest sampleNonce.1 0 firstChunk ++ tail) := by
  intro h
  have htake := congrArg (List.take 4) (List.append_cancel_left h)
  have hlength : firstChunk.length = 4096 := List.length_replicate
  unfold frame at htake
  rw [List.append_assoc, List.append_assoc, List.take_left' (length_be32 _), List.take_left' (length_be32 _),
    hlength] at htake
  exact absurd htake (by decide)

lemma swapped_ne : swappedStream ≠ streamOf sampleSession sampleDigest sampleNonce.1 twoChunks := by
  unfold streamOf
  rw [show sampleSession.chunkBytes = 4096 from rfl, two_reads]
  exact swapped_first

lemma swapped_not_overstates : ¬ Overstates sampleSession sampleDigest sampleNonce.1 twoChunks swappedStream := by
  rintro ⟨rest, hrest, before, chunk, length, hreads, -, -, rfl⟩
  rw [show sampleSession.chunkBytes = 4096 from rfl, two_reads] at hreads
  obtain ⟨hbefore, -⟩ := List.append_inj' (show [firstChunk] ++ [[8]] = before ++ [chunk] from hreads) rfl
  rw [← hbefore, frames, List.append_assoc, List.append_assoc] at hrest
  exact swapped_first hrest

/-- A file of two chunks is sent, resumed and received, and its stream with the chunks exchanged is refused. -/
theorem sessions_faithful_two_chunks :
    ((⟨4096, by decide, by decide⟩ : TransferSession).sendAndResume sampleConfig ["artifact"] ["stream"]
      1 (sampleFiles twoChunks) =
      (.ok (fullReceipt sampleConfig ⟨4096, by decide, by decide⟩ ["artifact"] ["stream"] twoChunks),
        Function.update (sampleFiles twoChunks) ["stream"] (some twoChunks))) ∧
    sampleSession.receive sampleConfig (sampleReceipt twoChunks) ["copy"] sampleDigest (sentFiles twoChunks) =
      (.ok (), Function.update (sentFiles twoChunks) ["copy"] (some twoChunks)) ∧
    ∃ e, sampleSession.receive sampleConfig (sampleReceipt twoChunks) ["copy"] sampleDigest
      (Function.update (sentFiles twoChunks) ["stream"] (some swappedStream)) =
        (.error e, Function.update (sentFiles twoChunks) ["stream"] (some swappedStream)) := by
  have hfaithful := sessions_faithful_iff sampleConfig ⟨4096, by decide, by decide⟩ sampleSession ["artifact"]
      ["stream"] ["copy"]
    (sampleFiles twoChunks)
  have hshort : twoChunks.length ≤ 8192 := by
    unfold twoChunks firstChunk
    rw [List.length_append, List.length_replicate]
    decide
  obtain ⟨data, hdata, hreceive⟩ := hfaithful.2 _ _ _ _ ((sample_transferred hshort).send_eq (by decide))
  have hsame : data = twoChunks := by
    rw [sampleFiles, Function.update_self] at hdata
    exact (Option.some.inj hdata).symm
  rw [hsame] at hreceive
  refine ⟨(hfaithful.1 1 (by decide) _ _).mpr ?_, (hreceive (sentFiles twoChunks) (by decide)).1 rfl, ?_⟩
  · have hcheck : TransferSession.checkSend ["artifact"] ["stream"] none (sampleFiles twoChunks) = .ok twoChunks :=
      checkSend_eq_ok.mpr ⟨by decide, Function.update_self .., Nat.le_trans hshort (by decide), rfl⟩
    exact (send_none hcheck).1 (by rw [two_reads]; decide)
  · apply ((hreceive (Function.update (sentFiles twoChunks) ["stream"] (some swappedStream)) (by decide)).2
      swappedStream
      (Function.update_self ..) _).mpr
    · exact swapped_not_overstates
    · rw [Function.update_self, sentFiles, Function.update_self]
      intro h
      exact swapped_ne (Option.some.inj h)

end Noyra.Migration.Transfer.Proofs
