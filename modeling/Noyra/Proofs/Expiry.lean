import Noyra.Wallet.Expiry

/-!
# The three expiry paths

The paths agree on a bounty unless it expires exactly at a clock reading of a whole second: `now.isoformat()` then has
no fraction, and sorts before the stored text of the same instant.
-/

namespace Noyra.Wallet.Proofs
open Noyra.Lib

variable {table : Table BountyExpiry.bountyId} {subjectId : Id} {clock : CanonicalTime} {row : BountyExpiry}

lemma parseTimestamp_text (t : CanonicalTime) : parseTimestamp t.text = .ok t.moment :=
  orRaise_eq_ok.mpr (fromisoformat_isoformatMillis t.whole)

lemma text_lt_iff {t u : CanonicalTime} : t.text < u.text ↔ t.moment.micros < u.moment.micros :=
  Moment.isoformatMillis_lt t.whole u.whole

lemma text_le_iff {t u : CanonicalTime} : t.text ≤ u.text ↔ t.moment.micros ≤ u.moment.micros := by
  rw [← not_lt, text_lt_iff, Nat.not_lt]

lemma isoTextLe_iff (a b : Nat) : isoTextLe a b = true ↔
    a / 1000 < b / 1000 ∨ (a / 1000 = b / 1000 ∧ b % 1000 ≠ 0) ∧ a % 1000 ≤ b % 1000 := by
  unfold isoTextLe
  rw [Bool.or_eq_true, Bool.and_eq_true, Bool.and_eq_true, decide_eq_true_eq, decide_eq_true_eq, beq_iff_eq, bne_iff_ne]

/-- The text order of the maintenance query is the one that the millisecond model has. -/
theorem isoTextLe_eq (t u : CanonicalTime) :
    isoTextLe (t.moment.micros / 1000) (u.moment.micros / 1000) = decide (t.text ≤ u.moment.isoformat) := by
  rw [Bool.eq_iff_iff, decide_eq_true_eq]
  unfold CanonicalTime.text
  rw [Moment.isoformatMillis_le_isoformat t.whole u.whole]
  obtain ⟨a, ha⟩ : ∃ a, t.moment.micros = a * 1000 := ⟨t.moment.micros / 1000, by have := t.whole; omega⟩
  obtain ⟨b, hb⟩ : ∃ b, u.moment.micros = b * 1000 := ⟨u.moment.micros / 1000, by have := u.whole; omega⟩
  rw [ha, hb, Nat.mul_div_cancel _ (by omega), Nat.mul_div_cancel _ (by omega), isoTextLe_iff, second]
  omega

lemma effectiveStatus_eq (hlive : row.status.expires = true) :
    row.effectiveStatus clock = .ok .expired ↔ row.expiresAt.moment.micros ≤ clock.moment.micros := by
  unfold BountyExpiry.effectiveStatus
  rw [if_pos hlive, parseTimestamp_text, parseTimestamp_text]
  simp only [ok_bind]
  split
  · next h => exact iff_of_true rfl h
  · next h =>
    refine iff_of_false ?_ h
    intro hexpired
    cases hstatus : row.status with
    | expired =>
      rw [hstatus] at hlive
      cases hlive
    | _ =>
      rw [hstatus] at hexpired
      cases hexpired

/-- The row is among those that `list_bounties` reports as expired. -/
def Listed (table : Table BountyExpiry.bountyId) (subjectId : Id) (limit : Nat) (clock : CanonicalTime)
    (row : BountyExpiry) :
    Prop :=
  ∃ records, listBounties table subjectId (some .expired) limit none clock = .ok records ∧
    ∃ r ∈ records, r.bountyId = row.bountyId

/-- The row is one of those that `maintain_expired_bounties` makes expired. -/
def Advanced (table : Table BountyExpiry.bountyId) (subjectId : Id) (limit : Nat) (clock : CanonicalTime)
    (row : BountyExpiry) :
    Prop :=
  ∃ after, maintainExpired table subjectId limit clock = .ok after ∧
    ∃ r ∈ after, r.bountyId = row.bountyId ∧ r.status = .expired

/-- The value of `_effective_bounty_status`. -/
def effective (clock : CanonicalTime) (row : BountyExpiry) : BountyStatus :=
  if row.status.expires = true ∧ row.expiresAt.moment.micros ≤ clock.moment.micros then .expired else row.status

lemma effectiveStatus_ok (row : BountyExpiry) (clock : CanonicalTime) :
    row.effectiveStatus clock = .ok (effective clock row) := by
  unfold BountyExpiry.effectiveStatus effective
  by_cases hlive : row.status.expires = true
  · rw [if_pos hlive, parseTimestamp_text, parseTimestamp_text]
    simp only [ok_bind, hlive, true_and]
  · rw [if_neg hlive, if_neg (fun h => hlive h.1)]

lemma mapM_ok {α β : Type} {f : α → Except PyError β} {g : α → β} (h : ∀ a, f a = .ok (g a)) (l : List α) :
    l.mapM f = .ok (l.map g) := by
  induction l with
  | nil => rfl
  | cons a l ih =>
    rw [List.mapM_cons, h a, ok_bind, ih, ok_bind]
    rfl

lemma mem_listedRows : row ∈ listedRows table subjectId (some .expired) none clock ↔
    row ∈ table ∧ row.subjectId = subjectId ∧
      (row.status = .expired ∨ row.status.expires = true ∧ row.expiresAt.moment.micros ≤ clock.moment.micros) := by
  unfold listedRows
  rw [List.mem_insertionSort, List.mem_filter]
  simp only [BountyExpiry.listed, BountyExpiry.before, Option.all_none, Bool.and_true, Bool.and_eq_true,
    Bool.or_eq_true, decide_eq_true_eq, text_le_iff]
  rfl

lemma listed_iff {limit : Nat} (hlimit : 1 ≤ limit ∧ limit ≤ 1000) (hsubject : validateSubjectId subjectId = .ok ())
    (hfits : (listedRows table subjectId (some .expired) none clock).length ≤ limit) (hrow : row ∈ table)
    (hown : row.subjectId = subjectId) (hlive : row.status.expires = true) :
    Listed table subjectId limit clock row ↔ row.expiresAt.moment.micros ≤ clock.moment.micros := by
  have hlist : listBounties table subjectId (some .expired) limit none clock =
      .ok (((listedRows table subjectId (some .expired) none clock).map
        (fun r => { r with status := effective clock r })).filter (fun r => r.status = .expired)) := by
    have hmap := mapM_ok (f := fun r : BountyExpiry => do
        let status ← r.effectiveStatus clock
        Except.ok { r with status }) (g := fun r => { r with status := effective clock r })
      (fun r => by rw [effectiveStatus_ok, ok_bind]) (listedRows table subjectId (some .expired) none clock)
    unfold listBounties
    rw [raiseIf_neg (by omega), ok_bind, hsubject, ok_bind, raiseIf_neg (by simp), ok_bind,
      List.take_of_length_le hfits, hmap, ok_bind]
  unfold Listed
  rw [hlist]
  constructor
  · rintro ⟨records, hrecords, r, hr, hid⟩
    cases hrecords
    obtain ⟨hr, hexpired⟩ := List.mem_filter.mp hr
    obtain ⟨r', hr', rfl⟩ := List.mem_map.mp hr
    have hmem := (mem_listedRows.mp hr').1
    have heq : r' = row := Table.eq_of_key hmem hrow hid
    subst heq
    rcases (mem_listedRows.mp hr').2.2 with hstatus | ⟨-, hle⟩
    · rw [hstatus] at hlive
      cases hlive
    · exact hle
  · intro hle
    refine ⟨_, rfl, { row with status := effective clock row }, ?_, rfl⟩
    rw [List.mem_filter]
    refine ⟨List.mem_map.mpr ⟨row, mem_listedRows.mpr ⟨hrow, hown, .inr ⟨hlive, hle⟩⟩, rfl⟩, ?_⟩
    rw [decide_eq_true_eq]
    exact if_pos ⟨hlive, hle⟩

/-- Some row of the table with this identifier is expired. -/
def ExpiredIn (table : Table BountyExpiry.bountyId) (id : Id) : Prop :=
  ∃ r ∈ table, r.bountyId = id ∧ r.status = .expired

lemma expireDue_ok (now : Moment) (rows : List BountyExpiry)
    (hkeys : ∀ r ∈ rows, ∃ old ∈ table, old.bountyId = r.bountyId) :
    ∃ after, expireDue now table rows = .ok after ∧ ∀ id, ExpiredIn after id ↔
      ExpiredIn table id ∨ ∃ r ∈ rows, r.bountyId = id ∧ r.expiresAt.moment.micros ≤ now.micros := by
  induction rows generalizing table with
  | nil => exact ⟨table, rfl, fun id => by simp⟩
  | cons row rows ih =>
    unfold expireDue
    rw [parseTimestamp_text, ok_bind]
    split
    · next hdue =>
      obtain ⟨old, hold, hkey⟩ := hkeys row List.mem_cons_self
      have hexpired : ∀ id, ExpiredIn (table.replace { row with status := .expired }) id ↔
          ExpiredIn table id ∨ row.bountyId = id := by
        intro id
        constructor
        · rintro ⟨r, hr, hid, hstatus⟩
          rcases Table.mem_replace.mp hr with ⟨rfl, -⟩ | ⟨hr, -⟩
          · exact .inr hid
          · exact .inl ⟨r, hr, hid, hstatus⟩
        · intro h
          by_cases hid : row.bountyId = id
          · exact ⟨_, Table.mem_replace.mpr (.inl ⟨rfl, old, hold, hkey⟩), hid, rfl⟩
          · rcases h with ⟨r, hr, hrid, hstatus⟩ | h
            · exact ⟨r, Table.mem_replace.mpr (.inr ⟨hr, fun h => hid (h.symm.trans hrid)⟩), hrid, hstatus⟩
            · exact absurd h hid
      obtain ⟨after, hafter, hspec⟩ := @ih (table.replace { row with status := .expired }) (by
        intro r hr
        obtain ⟨o, ho, hok⟩ := hkeys r (List.mem_cons_of_mem _ hr)
        by_cases hrow : o.bountyId = row.bountyId
        · exact ⟨_, Table.mem_replace.mpr (.inl ⟨rfl, o, ho, hrow⟩), hrow.symm.trans hok⟩
        · exact ⟨o, Table.mem_replace.mpr (.inr ⟨ho, hrow⟩), hok⟩)
      refine ⟨after, hafter, fun id => ?_⟩
      rw [hspec id, hexpired id, or_assoc, List.exists_mem_cons_iff]
      simp [hdue]
    · next hdue =>
      obtain ⟨after, hafter, hspec⟩ := ih (fun r hr => hkeys r (List.mem_cons_of_mem _ hr))
      refine ⟨after, hafter, fun id => ?_⟩
      rw [hspec id, List.exists_mem_cons_iff]
      simp [hdue]

lemma mem_dueRows {now : Moment} : row ∈ dueRows table subjectId now ↔
    row ∈ table ∧ row.subjectId = subjectId ∧ row.status.expires = true ∧ row.expiresAt.text ≤ now.isoformat := by
  unfold dueRows
  rw [List.mem_insertionSort, List.mem_filter, Bool.and_eq_true, Bool.and_eq_true, decide_eq_true_eq,
    decide_eq_true_eq, and_assoc]
  rfl

lemma advanced_iff {limit : Nat} (hlimit : 1 ≤ limit ∧ limit ≤ 1000)
    (hfits : (dueRows table subjectId clock.moment).length ≤ limit) (hrow : row ∈ table)
    (hown : row.subjectId = subjectId) (hlive : row.status.expires = true) :
    Advanced table subjectId limit clock row ↔ row.expiresAt.moment.micros ≤ clock.moment.micros ∧
      ¬(row.expiresAt = clock ∧ clock.moment.micros % second = 0) := by
  obtain ⟨after, hafter, hspec⟩ := @expireDue_ok table clock.moment (dueRows table subjectId clock.moment)
    (fun r hr => ⟨r, (mem_dueRows.mp hr).1, rfl⟩)
  have hrun : maintainExpired table subjectId limit clock = .ok after := by
    unfold maintainExpired
    rw [raiseIf_neg (by omega), ok_bind, parseTimestamp_text, ok_bind, List.take_of_length_le hfits]
    exact hafter
  have hbefore : ¬ExpiredIn table row.bountyId := by
    rintro ⟨r, hr, hid, hstatus⟩
    rw [Table.eq_of_key hr hrow hid] at hstatus
    rw [hstatus] at hlive
    cases hlive
  have hadvanced : Advanced table subjectId limit clock row ↔ ExpiredIn after row.bountyId := by
    constructor
    · rintro ⟨after', hrun', r, hr, hid, hstatus⟩
      cases hrun.symm.trans hrun'
      exact ⟨r, hr, hid, hstatus⟩
    · rintro ⟨r, hr, hid, hstatus⟩
      exact ⟨after, hrun, r, hr, hid, hstatus⟩
  have htext : row.expiresAt.text ≤ clock.moment.isoformat ↔ row.expiresAt.moment.micros < clock.moment.micros ∨
      row.expiresAt.moment.micros = clock.moment.micros ∧ clock.moment.micros % second ≠ 0 :=
    Moment.isoformatMillis_le_isoformat row.expiresAt.whole clock.whole
  have hsame : row.expiresAt = clock ↔ row.expiresAt.moment.micros = clock.moment.micros := by
    constructor
    · intro h
      rw [h]
    · intro h
      have hmoment := Moment.micros_inj h
      cases hexpiry : row.expiresAt
      cases clock
      rw [hexpiry] at hmoment
      cases hmoment
      rfl
  rw [hadvanced, hspec row.bountyId, or_iff_right hbefore, hsame]
  constructor
  · rintro ⟨r, hr, hid, hle⟩
    have heq : r = row := Table.eq_of_key (mem_dueRows.mp hr).1 hrow hid
    subst heq
    have hdue := htext.mp (mem_dueRows.mp hr).2.2.2
    omega
  · intro h
    exact ⟨row, mem_dueRows.mpr ⟨hrow, hown, hlive, htext.mpr (by omega)⟩, rfl, h.1⟩

/-- The three paths say the same of every bounty that can expire. -/
def PathsAgree (table : Table BountyExpiry.bountyId) (subjectId : Id) (limit listLimit : Nat) (clock : CanonicalTime) :
    Prop :=
  ∀ row ∈ table, row.subjectId = subjectId → row.status.expires = true →
    (Advanced table subjectId limit clock row ↔ Listed table subjectId listLimit clock row) ∧
      (Listed table subjectId listLimit clock row ↔ row.effectiveStatus clock = .ok .expired)

/-- The paths agree unless a bounty expires exactly at a clock reading of a whole second. -/
theorem expiry_paths_agree_iff {limit listLimit : Nat} (hlimit : 1 ≤ limit ∧ limit ≤ 1000)
    (hlist : 1 ≤ listLimit ∧ listLimit ≤ 1000) (hsubject : validateSubjectId subjectId = .ok ())
    (hfits : (dueRows table subjectId clock.moment).length ≤ limit)
    (hlistFits : (listedRows table subjectId (some .expired) none clock).length ≤ listLimit) :
    PathsAgree table subjectId limit listLimit clock ↔
      ∀ row ∈ table, row.subjectId = subjectId → row.status.expires = true →
        ¬(row.expiresAt = clock ∧ clock.moment.micros % second = 0) := by
  unfold PathsAgree
  refine forall₄_congr ?_
  intro row hrow hown hlive
  rw [advanced_iff hlimit hfits hrow hown hlive, listed_iff hlist hsubject hlistFits hrow hown hlive,
    effectiveStatus_eq hlive]
  constructor
  · rintro ⟨h, -⟩ ⟨hsame, hwhole⟩
    exact (h.mpr (by rw [hsame])).2 ⟨hsame, hwhole⟩
  · intro h
    exact ⟨⟨fun hle => hle.1, fun hle => ⟨hle, h⟩⟩, Iff.rfl⟩

lemma dayTwo_year {millis : Nat} (h : millis < 86400000) :
    (Date.after ⟨1, 1, 1⟩ ((day + millis * 1000) / day)).year ≤ 9999 := by
  have hday : (day + millis * 1000) / day = 1 := by
    simp only [day, hour, minute, second]
    omega
  rw [hday]
  decide

lemma dayTwo_whole (millis : Nat) : (day + millis * 1000) % 1000 = 0 := by
  simp only [day, hour, minute, second]
  omega

/-- Milliseconds after the first day. -/
def onDayTwo (millis : Nat) (h : millis < 86400000) : CanonicalTime :=
  ⟨⟨day + millis * 1000, dayTwo_year h⟩, dayTwo_whole millis⟩

/-- One bounty that expires at ten o'clock. -/
def tenOClockBounty : Table BountyExpiry.bountyId :=
  ⟨[⟨"bounty_1", "subject_1", .published, onDayTwo 36000000 (by decide), onDayTwo 0 (by decide)⟩], by decide⟩

theorem expiry_paths_agree_later : PathsAgree tenOClockBounty "subject_1" 100 100 (onDayTwo 36000001 (by decide)) := by
  refine (expiry_paths_agree_iff (by decide) (by decide) (by decide) (by decide) (by decide)).mpr ?_
  decide

def tenOClockRow : BountyExpiry :=
  ⟨"bounty_1", "subject_1", .published, onDayTwo 36000000 (by decide), onDayTwo 0 (by decide)⟩

/-- At ten o'clock the bounty is listed as expired and reported as expired, and maintenance leaves it published. -/
theorem maintenance_misses_whole_second :
    tenOClockRow ∈ tenOClockBounty ∧ Listed tenOClockBounty "subject_1" 100 tenOClockRow.expiresAt tenOClockRow ∧
      tenOClockRow.effectiveStatus tenOClockRow.expiresAt = .ok .expired ∧
      ¬Advanced tenOClockBounty "subject_1" 100 tenOClockRow.expiresAt tenOClockRow ∧
      ¬PathsAgree tenOClockBounty "subject_1" 100 100 tenOClockRow.expiresAt := by
  have hrow : tenOClockRow ∈ tenOClockBounty := List.mem_cons_self
  have hlisted : Listed tenOClockBounty "subject_1" 100 tenOClockRow.expiresAt tenOClockRow ↔
      tenOClockRow.expiresAt.moment.micros ≤ tenOClockRow.expiresAt.moment.micros :=
    listed_iff (by decide) (by decide) (by decide) hrow rfl rfl
  have hmissed : Advanced tenOClockBounty "subject_1" 100 tenOClockRow.expiresAt tenOClockRow ↔
      tenOClockRow.expiresAt.moment.micros ≤ tenOClockRow.expiresAt.moment.micros ∧
        ¬(tenOClockRow.expiresAt = tenOClockRow.expiresAt ∧ tenOClockRow.expiresAt.moment.micros % second = 0) :=
    advanced_iff (by decide) (by decide) hrow rfl rfl
  have hnot : ¬Advanced tenOClockBounty "subject_1" 100 tenOClockRow.expiresAt tenOClockRow := fun h =>
    (hmissed.mp h).2 ⟨rfl, by decide⟩
  refine ⟨hrow, hlisted.mpr (Nat.le_refl _), (effectiveStatus_eq rfl).mpr (Nat.le_refl _), hnot, ?_⟩
  intro h
  exact hnot ((h tenOClockRow hrow rfl rfl).1.mpr (hlisted.mpr (Nat.le_refl _)))

end Noyra.Wallet.Proofs
