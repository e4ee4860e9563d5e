import Noyra.Capability.Store

/-!
# Capability enforcement

Every use is charged to a grant that permits it, and the hour before a use is counted by comparing texts. Where the
texts are spelled in the format of `utc_now`, or with whole seconds, the count is the number of uses in that hour.
-/

namespace Noyra.Capability.Proofs
open Noyra.Lib

variable {cfg : CapabilityConfig}

/-- The instant that `_parse_time` reads in a text. -/
def readTime (cfg : CapabilityConfig) (text : Timestamp) : Option Moment := (cfg.parseTime text).toOption

lemma readTime_eq_some {text : Timestamp} {t : Moment} : readTime cfg text = some t ↔ cfg.parseTime text = .ok t := by
  unfold readTime
  cases cfg.parseTime text with
  | error e =>
    constructor
    · intro h
      cases h
    · intro h
      cases h
  | ok u => exact ⟨fun h => congrArg Except.ok (Option.some.inj h), fun h => congrArg some (Except.ok.inj h)⟩

/-- The grant permits the use at the instant, its rate limit apart. -/
structure Permits (cfg : CapabilityConfig) (q : UseRequest) (t : Moment) (row : GrantRow) : Prop where
  subject : row.subjectId = q.subjectId
  type : row.capabilityType = q.capabilityType
  active : row.status = .active
  unexpired : ∀ text, row.expiresAt = some text → ∃ e, readTime cfg text = some e ∧ t.micros < e.micros
  sideEffect : q.sideEffect = true → row.sideEffect = true
  scope : scopeMatches q.view row.capabilityType row.scope q.resource = .ok true

lemma expired_eq_false {t : Moment} {row : GrantRow} (h : expired cfg t row = .ok false) (text : Timestamp)
    (ht : row.expiresAt = some text) : ∃ e, readTime cfg text = some e ∧ t.micros < e.micros := by
  unfold expired at h
  rw [ht] at h
  obtain ⟨e, he, h⟩ := bind_eq_ok.mp h
  cases hle : decide (e.micros ≤ t.micros) with
  | true =>
    rw [hle] at h
    cases h
  | false => exact ⟨e, readTime_eq_some.mpr he, Nat.not_le.mp (of_decide_eq_false hle)⟩

lemma expired_eq_true {t : Moment} {row : GrantRow} (h : expired cfg t row = .ok true) :
    ∃ text e, row.expiresAt = some text ∧ readTime cfg text = some e ∧ e.micros ≤ t.micros := by
  unfold expired at h
  cases ht : row.expiresAt with
  | none =>
    rw [ht] at h
    cases h
  | some text =>
    rw [ht] at h
    obtain ⟨e, he, h⟩ := bind_eq_ok.mp h
    cases hle : decide (e.micros ≤ t.micros) with
    | true => exact ⟨text, e, rfl, readTime_eq_some.mpr he, of_decide_eq_true hle⟩
    | false =>
      rw [hle] at h
      cases h

lemma authorizes_eq_true {s : CapabilityState} {q : UseRequest} {t : Moment} {row : GrantRow}
    (h : authorizes cfg s q t row = .ok true) :
    expired cfg t row = .ok false ∧ (q.sideEffect = true → row.sideEffect = true) ∧ row.requiresApproval = false ∧
      scopeMatches q.view row.capabilityType row.scope q.resource = .ok true ∧ withinRate s t row = .ok true := by
  unfold authorizes at h
  obtain ⟨_, -, h⟩ := bind_eq_ok.mp h
  obtain ⟨e, he, h⟩ := bind_eq_ok.mp h
  cases e with
  | true => cases h
  | false =>
    rw [if_neg (by decide)] at h
    split at h
    · cases h
    · next hside =>
      split at h
      · cases h
      · next happroval =>
        obtain ⟨m, hm, h⟩ := bind_eq_ok.mp h
        cases m with
        | false => cases h
        | true =>
          refine ⟨he, ?_, Bool.not_eq_true _ ▸ happroval, hm, h⟩
          intro hq
          simpa [hq] using hside

lemma authorizes_eq_false {s : CapabilityState} {q : UseRequest} {t : Moment} {row : GrantRow}
    (h : authorizes cfg s q t row = .ok false) :
    expired cfg t row = .ok true ∨ (q.sideEffect = true ∧ row.sideEffect = false) ∨ row.requiresApproval = true ∨
      scopeMatches q.view row.capabilityType row.scope q.resource = .ok false ∨ withinRate s t row = .ok false := by
  unfold authorizes at h
  obtain ⟨_, -, h⟩ := bind_eq_ok.mp h
  obtain ⟨e, he, h⟩ := bind_eq_ok.mp h
  cases e with
  | true => exact .inl he
  | false =>
    rw [if_neg (by decide)] at h
    split at h
    · next hside =>
      rw [Bool.and_eq_true, Bool.not_eq_true'] at hside
      exact .inr (.inl hside)
    · split at h
      · next happroval => exact .inr (.inr (.inl happroval))
      · obtain ⟨m, hm, h⟩ := bind_eq_ok.mp h
        cases m with
        | false => exact .inr (.inr (.inr (.inl hm)))
        | true => exact .inr (.inr (.inr (.inr h)))

lemma selectLoop_some {s : CapabilityState} {q : UseRequest} {t : Moment} {rows : List GrantRow} {row : GrantRow}
    (h : selectLoop cfg s q t rows = .ok (some row)) : row ∈ rows ∧ authorizes cfg s q t row = .ok true := by
  induction rows with
  | nil => cases h
  | cons x rows ih =>
    unfold selectLoop at h
    obtain ⟨b, hb, h⟩ := bind_eq_ok.mp h
    cases b with
    | true =>
      cases h
      exact ⟨List.mem_cons_self, hb⟩
    | false =>
      obtain ⟨hmem, hauth⟩ := ih h
      exact ⟨List.mem_cons_of_mem _ hmem, hauth⟩

lemma selectLoop_none {s : CapabilityState} {q : UseRequest} {t : Moment} {rows : List GrantRow}
    (h : selectLoop cfg s q t rows = .ok none) : ∀ row ∈ rows, authorizes cfg s q t row = .ok false := by
  induction rows with
  | nil => exact fun row hrow => by cases hrow
  | cons x rows ih =>
    unfold selectLoop at h
    obtain ⟨b, hb, h⟩ := bind_eq_ok.mp h
    cases b with
    | true => cases h
    | false =>
      intro row hrow
      rcases List.mem_cons.mp hrow with rfl | hrow
      · exact hb
      · exact ih h row hrow

lemma mem_candidates {s : CapabilityState} {q : UseRequest} {row : GrantRow} :
    row ∈ candidates s q ↔ row ∈ s.grants ∧ row.subjectId = q.subjectId ∧ row.capabilityType = q.capabilityType ∧
      row.status = .active := by
  unfold candidates
  rw [List.mem_insertionSort, List.mem_filter, Bool.and_eq_true, Bool.and_eq_true, decide_eq_true_eq, decide_eq_true_eq,
    decide_eq_true_eq, and_assoc]
  rfl

/-- The grant that `_select_connection` gives permits the use. -/
lemma permits_of_select {s : CapabilityState} {q : UseRequest} {t : Moment} {row : GrantRow}
    (h : selectConnection cfg s q t = .ok (some row)) :
    row ∈ s.grants ∧ Permits cfg q t row ∧ withinRate s t row = .ok true := by
  obtain ⟨hmem, hauth⟩ := selectLoop_some h
  obtain ⟨hgrant, hsubject, htype, hactive⟩ := mem_candidates.mp hmem
  obtain ⟨hexpired, hside, -, hscope, hrate⟩ := authorizes_eq_true hauth
  exact ⟨hgrant, ⟨hsubject, htype, hactive, expired_eq_false hexpired, hside, hscope⟩, hrate⟩

/-- Where it gives none, every grant that permits the use has no use left. -/
lemma exhausted_of_select {s : CapabilityState} {q : UseRequest} {t : Moment}
    (h : selectConnection cfg s q t = .ok none)
    {row : GrantRow} (hmem : row ∈ s.grants) (happroval : row.requiresApproval = false) (hp : Permits cfg q t row) :
    withinRate s t row = .ok false := by
  have hauth := selectLoop_none h row (mem_candidates.mpr ⟨hmem, hp.subject, hp.type, hp.active⟩)
  rcases authorizes_eq_false hauth with hexpired | ⟨hq, hside⟩ | hrequires | hscope | hrate
  · obtain ⟨text, e, htext, he, hle⟩ := expired_eq_true hexpired
    obtain ⟨e', he', hlt⟩ := hp.unexpired text htext
    have heq : e' = e := Option.some.inj (he'.symm.trans he)
    subst heq
    omega
  · rw [hp.sideEffect hq] at hside
    cases hside
  · rw [happroval] at hrequires
    cases hrequires
  · rw [hp.scope] at hscope
    cases hscope
  · exact hrate

/-- An error that is no denial. -/
def NotDenied {α : Type} (r : Except CapabilityError α) : Prop := ∀ e, r = .error e → e.isDenial = false

lemma NotDenied.bind {α β : Type} {r : Except CapabilityError α} {f : α → Except CapabilityError β} (h : NotDenied r)
    (hf : ∀ a, NotDenied (f a)) : NotDenied (r >>= f) := by
  intro e he
  cases r with
  | error e' =>
    cases he
    exact h _ rfl
  | ok a => exact hf a e he

lemma notDenied_ok {α : Type} (a : α) : NotDenied (.ok a) := fun _ h => by cases h

lemma notDenied_orRaise {α : Type} (o : Option α) {e : CapabilityError} (h : e.isDenial = false) :
    NotDenied (orRaise o e) := by
  unfold orRaise
  intro e' he
  split at he
  · cases he
  · cases he
    exact h

lemma notDenied_fromRow (row : GrantRow) : NotDenied (fromRow cfg row) := by
  unfold fromRow raiseIf
  intro e he
  split at he
  · cases he
    rfl
  · split at he
    · cases he
      rfl
    · cases he

lemma notDenied_parseTime (text : Timestamp) : NotDenied (cfg.parseTime text) := by
  unfold CapabilityConfig.parseTime
  apply (notDenied_orRaise _ rfl).bind
  intro parsed
  exact (notDenied_orRaise _ rfl).bind (fun _ => notDenied_orRaise _ rfl)

lemma notDenied_expired (t : Moment) (row : GrantRow) : NotDenied (expired cfg t row) := by
  unfold expired
  split
  · exact notDenied_ok _
  · exact (notDenied_parseTime _).bind (fun _ => notDenied_ok _)

lemma notDenied_scopeMatches (view : ResourceView) (type : CapabilityType) (scope : Scope) (resource : String) :
    NotDenied (scopeMatches view type scope resource) := by
  unfold scopeMatches
  intro e he
  split at he
  · cases he
    rfl
  · cases he

lemma notDenied_withinRate (s : CapabilityState) (t : Moment) (row : GrantRow) : NotDenied (withinRate s t row) := by
  unfold withinRate
  split
  · exact (notDenied_orRaise _ rfl).bind (fun _ => notDenied_ok _)
  · exact notDenied_ok _

lemma notDenied_authorizes (s : CapabilityState) (q : UseRequest) (t : Moment) (row : GrantRow) :
    NotDenied (authorizes cfg s q t row) := by
  unfold authorizes
  apply (notDenied_fromRow row).bind
  intro _
  apply (notDenied_expired t row).bind
  intro e
  split
  · exact notDenied_ok _
  · split
    · exact notDenied_ok _
    · split
      · exact notDenied_ok _
      · apply (notDenied_scopeMatches _ _ _ _).bind
        intro m
        split
        · exact notDenied_withinRate s t row
        · exact notDenied_ok _

lemma notDenied_selectLoop (s : CapabilityState) (q : UseRequest) (t : Moment) (rows : List GrantRow) :
    NotDenied (selectLoop cfg s q t rows) := by
  induction rows with
  | nil => exact notDenied_ok _
  | cons row rows ih =>
    unfold selectLoop
    refine (notDenied_authorizes s q t row).bind (fun b => ?_)
    split
    · exact notDenied_ok _
    · exact ih

lemma use_ok {q : UseRequest} {s s' : CapabilityState} {row : GrantRow} (h : use cfg q s = .ok (s', row)) :
    ∃ t, readTime cfg q.timestamp = some t ∧ selectConnection cfg s q t = .ok (some row) ∧
      s' = { s with uses := s.uses ++ [chargedUse s q row], nextId := s.nextId + 1 } := by
  unfold use at h
  obtain ⟨_, -, h⟩ := bind_eq_ok.mp h
  obtain ⟨t, ht, h⟩ := bind_eq_ok.mp h
  obtain ⟨selected, hselected, h⟩ := bind_eq_ok.mp h
  obtain ⟨row', hrow, h⟩ := bind_eq_ok.mp h
  obtain ⟨_, -, h⟩ := bind_eq_ok.mp h
  cases h
  exact ⟨t, readTime_eq_some.mpr ht, orRaise_eq_ok.mp hrow ▸ hselected, rfl⟩

/-- The use names no action, or one of its subject. -/
def ownAction (q : UseRequest) : Bool := q.actionId = none || q.actionSubject = some q.subjectId

lemma ownAction_checked {q : UseRequest} (h : ownAction q = true) {e : CapabilityError} :
    raiseIf (q.actionId ≠ none ∧ q.actionSubject ≠ some q.subjectId) e = .ok () := by
  apply raiseIf_neg
  rw [ownAction, Bool.or_eq_true, decide_eq_true_eq, decide_eq_true_eq] at h
  rintro ⟨hid, hsubject⟩
  rcases h with h | h
  · exact hid h
  · exact hsubject h

lemma use_denied {q : UseRequest} {s : CapabilityState} {t : Moment} (ht : readTime cfg q.timestamp = some t)
    (hown : ownAction q = true) {e : CapabilityError} (h : use cfg q s = .error e) (hdenial : e.isDenial = true) :
    selectConnection cfg s q t = .ok none := by
  unfold use at h
  rw [readTime_eq_some.mp ht] at h
  by_cases hblank : strip q.resource = ""
  · have hraise : raiseIf (strip q.resource = "") (CapabilityError.valueError "capability resource cannot be blank") =
        .error (.valueError "capability resource cannot be blank") := if_pos hblank
    rw [hraise] at h
    cases h
    cases hdenial
  · rw [raiseIf_neg hblank, ok_bind, ok_bind] at h
    cases hselect : selectConnection cfg s q t with
    | error e' =>
      rw [hselect] at h
      cases h
      rw [notDenied_selectLoop s q t _ _ hselect] at hdenial
      cases hdenial
    | ok selected =>
      cases selected with
      | none => rfl
      | some row =>
        rw [hselect] at h
        simp only [ok_bind, orRaise_some, ownAction_checked hown] at h
        cases h

/-- `allows` says what `use` does. -/
lemma allows_iff {q : UseRequest} {s : CapabilityState} (hown : ownAction q = true) :
    allows cfg q s = .ok true ↔ ∃ r, use cfg q s = .ok r := by
  constructor
  · intro h
    unfold allows at h
    split at h
    · cases h
    · next hblank =>
      obtain ⟨t, ht, h⟩ := bind_eq_ok.mp h
      obtain ⟨selected, hselected, h⟩ := bind_eq_ok.mp h
      cases selected with
      | none => cases h
      | some row =>
        refine ⟨({ s with uses := s.uses ++ [chargedUse s q row], nextId := s.nextId + 1 }, row), ?_⟩
        unfold use
        rw [raiseIf_neg hblank, ok_bind, ht, ok_bind, hselected, ok_bind, orRaise_some, ok_bind,
          ownAction_checked hown, ok_bind]
  · rintro ⟨⟨s', row⟩, h⟩
    have hblank : ¬strip q.resource = "" := by
      unfold use at h
      obtain ⟨_, hblank, -⟩ := bind_eq_ok.mp h
      exact raiseIf_eq_ok.mp hblank
    obtain ⟨t, ht, hselected, -⟩ := use_ok h
    unfold allows
    rw [if_neg hblank, readTime_eq_some.mp ht, ok_bind, hselected]
    rfl

lemma grant_ok {subjectId : Nat} {p : CapabilityGrant} {actor : String} {clock : Moment} {s s' : CapabilityState}
    (h : grant cfg subjectId p actor clock s = .ok s') :
    ∃ row table, s.grants.insert? row = some table ∧ row.requiresApproval = false ∧
      s' = { s with grants := table, nextId := s.nextId + 1 } := by
  unfold grant at h
  obtain ⟨_, -, h⟩ := bind_eq_ok.mp h
  obtain ⟨_, -, h⟩ := bind_eq_ok.mp h
  obtain ⟨_, happroval, h⟩ := bind_eq_ok.mp h
  obtain ⟨_, -, h⟩ := bind_eq_ok.mp h
  obtain ⟨_, -, h⟩ := bind_eq_ok.mp h
  obtain ⟨table, htable, h⟩ := bind_eq_ok.mp h
  obtain ⟨_, -, h⟩ := bind_eq_ok.mp h
  cases h
  exact ⟨_, table, orRaise_eq_ok.mp htable, Bool.not_eq_true _ ▸ raiseIf_eq_ok.mp happroval, rfl⟩

lemma revoke_ok {grantId subjectId : Nat} {reason actor : String} {clock : Moment} {s s' : CapabilityState}
    (h : revoke cfg grantId reason actor subjectId clock s = .ok s') :
    s' = s ∨ ∃ row new, s.grants.find? new.grantId = some row ∧ new.rateLimitPerHour = row.rateLimitPerHour ∧
      new.requiresApproval = row.requiresApproval ∧ s' = { s with grants := s.grants.replace new } := by
  unfold revoke at h
  obtain ⟨_, -, h⟩ := bind_eq_ok.mp h
  obtain ⟨row, hrow, h⟩ := bind_eq_ok.mp h
  obtain ⟨hfind, -⟩ := Option.filter_eq_some_iff.mp (orRaise_eq_ok.mp hrow)
  have hid := (Table.find?_eq_some.mp hfind).2
  split at h
  · obtain ⟨_, -, h⟩ := bind_eq_ok.mp h
    cases h
    exact .inl rfl
  · obtain ⟨_, -, h⟩ := bind_eq_ok.mp h
    cases h
    let revoked : GrantRow := { row with
      status := .revoked
      stateHash := cfg.stateHash row.subjectId row.proposal .revoked row.createdAt (some clock.isoformatMillis)
        (some reason)
      revokedAt := some clock.isoformatMillis
      revokeReason := some reason }
    exact .inr ⟨row, revoked, hid ▸ hfind, rfl, rfl, rfl⟩

/-- The text spells the instant as `utc_now` does, or with whole seconds. -/
def Spelled (text : Timestamp) (t : Moment) : Prop :=
  t.micros % 1000 = 0 ∧ text = t.isoformatMillis ∨ t.micros % second = 0 ∧ text = t.isoformatSeconds

instance (text : Timestamp) (t : Moment) : Decidable (Spelled text t) := inferInstanceAs (Decidable (_ ∨ _))

lemma Spelled.whole {text : Timestamp} {t : Moment} (h : Spelled text t) : t.micros % 1000 = 0 := by
  rcases h with ⟨h, -⟩ | ⟨h, -⟩
  · exact h
  · unfold second at h
    omega

lemma Spelled.lt_iff {text : Timestamp} {t c : Moment} (h : Spelled text t) (hc : c.micros % 1000 = 0) :
    c.isoformatMillis < text ↔ c.micros < t.micros := by
  rcases h with ⟨ht, rfl⟩ | ⟨ht, rfl⟩
  · exact Moment.isoformatMillis_lt hc ht
  · exact Moment.isoformatMillis_lt_isoformatSeconds ht

/-- An instant of the hour that ends at another one. -/
def inHour (t v : Moment) : Bool := decide (t.micros < v.micros + hour) && decide (v.micros ≤ t.micros)

lemma inHour_iff {t v : Moment} : inHour t v = true ↔ t.micros < v.micros + hour ∧ v.micros ≤ t.micros := by
  rw [inHour, Bool.and_eq_true, decide_eq_true_eq, decide_eq_true_eq]

/-- The uses of a grant in the hour that ends at an instant. -/
def usedIn (cfg : CapabilityConfig) (s : CapabilityState) (grantId : Nat) (t : Moment) : Nat :=
  s.uses.countP (fun u => u.grantId = grantId && (readTime cfg u.createdAt).any (inHour t))

/-- No use was recorded at a later instant. -/
def latest (cfg : CapabilityConfig) (s : CapabilityState) (t : Moment) : Bool :=
  s.uses.all (fun u => (readTime cfg u.createdAt).all (fun v => v.micros ≤ t.micros))

/-- The instants of uses do not decrease, their texts are spelled in one of the two formats, and their actions are the
subject's own. -/
def attentive (cfg : CapabilityConfig) (s : CapabilityState) : CapabilityAction → Bool
  | .use q => ownAction q && (readTime cfg q.timestamp).all (fun t => latest cfg s t && decide (Spelled q.timestamp t))
  | _ => true

lemma of_attentive {s : CapabilityState} {q : UseRequest} {t : Moment} (h : attentive cfg s (.use q) = true)
    (ht : readTime cfg q.timestamp = some t) : ownAction q = true ∧ latest cfg s t = true ∧ Spelled q.timestamp t := by
  rw [attentive, ht, Option.all_some, Bool.and_eq_true, Bool.and_eq_true, decide_eq_true_eq] at h
  exact h

/-- What every state keeps. -/
structure Kept (cfg : CapabilityConfig) (s : CapabilityState) : Prop where
  approval : ∀ g ∈ s.grants, g.requiresApproval = false
  known : ∀ u ∈ s.uses, ∃ g ∈ s.grants, g.grantId = u.grantId
  spelled : ∀ u ∈ s.uses, ∃ v, readTime cfg u.createdAt = some v ∧ Spelled u.createdAt v
  limited : ∀ g ∈ s.grants, 0 < g.rateLimitPerHour → ∀ t, usedIn cfg s g.grantId t ≤ g.rateLimitPerHour

lemma of_latest {s : CapabilityState} {t : Moment} (h : latest cfg s t = true) {u : UseRow} (hu : u ∈ s.uses)
    {v : Moment} (hv : readTime cfg u.createdAt = some v) : v.micros ≤ t.micros := by
  have hall := List.all_eq_true.mp h u hu
  rw [hv, Option.all_some, decide_eq_true_eq] at hall
  exact hall

/-- The texts count the uses of the hour. -/
lemma usedAfter_eq {s : CapabilityState} (h : Kept cfg s) {t c : Moment} (ht : t.micros % 1000 = 0)
    (hc : t.sub? hour = some c) (hlatest : latest cfg s t = true) (grantId : Nat) :
    usedAfter s grantId c.isoformatMillis = usedIn cfg s grantId t := by
  obtain ⟨hhour, hmicros⟩ := Moment.sub?_eq_some hc
  have hwhole : c.micros % 1000 = 0 := by
    simp only [hour, minute, second] at hhour hmicros
    omega
  unfold usedAfter usedIn
  apply List.countP_congr
  intro u hu
  obtain ⟨v, hv, hspelled⟩ := h.spelled u hu
  have hle := of_latest hlatest hu hv
  rw [hv, Option.any_some, Bool.and_eq_true, Bool.and_eq_true, decide_eq_true_eq, decide_eq_true_eq, inHour_iff,
    hspelled.lt_iff hwhole]
  constructor
  · rintro ⟨hg, hlt⟩
    exact ⟨hg, by omega, hle⟩
  · rintro ⟨hg, hlt, -⟩
    exact ⟨hg, by omega⟩

/-- A later hour holds no more of the uses so far. -/
lemma usedIn_le {s : CapabilityState} {t t' : Moment} (hlatest : latest cfg s t = true) (hle : t.micros ≤ t'.micros)
    (grantId : Nat) : usedIn cfg s grantId t' ≤ usedIn cfg s grantId t := by
  apply List.countP_mono_left
  intro u hu hcount
  rw [Bool.and_eq_true] at hcount ⊢
  obtain ⟨hg, hany⟩ := hcount
  obtain ⟨v, hv, hin⟩ := (Option.any_eq_true _ _).mp hany
  have hbefore := of_latest hlatest hu hv
  have hbounds := inHour_iff.mp hin
  exact ⟨hg, (Option.any_eq_true _ _).mpr ⟨v, hv, inHour_iff.mpr ⟨by omega, hbefore⟩⟩⟩

lemma usedIn_lt_of_withinRate {s : CapabilityState} (h : Kept cfg s) {t : Moment} (ht : t.micros % 1000 = 0)
    (hlatest : latest cfg s t = true) {row : GrantRow} (hpos : 0 < row.rateLimitPerHour) {b : Bool}
    (hrate : withinRate s t row = .ok b) : b = decide (usedIn cfg s row.grantId t < row.rateLimitPerHour) := by
  unfold withinRate at hrate
  rw [if_pos hpos] at hrate
  obtain ⟨c, hc, hrate⟩ := bind_eq_ok.mp hrate
  rw [usedAfter_eq h ht (orRaise_eq_ok.mp hc) hlatest] at hrate
  cases hrate
  rfl

lemma kept_grant {subjectId : Nat} {p : CapabilityGrant} {actor : String} {clock : Moment} {s s' : CapabilityState}
    (h : Kept cfg s) (hok : grant cfg subjectId p actor clock s = .ok s') : Kept cfg s' := by
  obtain ⟨row, table, hinsert, happroval, rfl⟩ := grant_ok hok
  obtain ⟨hfresh, hrows⟩ := Table.insert?_eq_some.mp hinsert
  have hmem : ∀ g, g ∈ table → g ∈ s.grants ∨ g = row := by
    intro g hg
    rw [Table.mem_def, hrows, List.mem_append, List.mem_singleton] at hg
    exact hg
  refine ⟨?_, ?_, h.spelled, ?_⟩
  · intro g hg
    rcases hmem g hg with hg | rfl
    · exact h.approval g hg
    · exact happroval
  · intro u hu
    obtain ⟨g, hg, hid⟩ := h.known u hu
    refine ⟨g, ?_, hid⟩
    rw [Table.mem_def, hrows]
    exact List.mem_append_left _ hg
  · intro g hg hpos t
    rcases hmem g hg with hg | rfl
    · exact h.limited g hg hpos t
    · -- no use refers to a grant that was just given
      have hzero : usedIn cfg { s with grants := table, nextId := s.nextId + 1 } g.grantId t = 0 := by
        unfold usedIn
        rw [List.countP_eq_zero]
        intro u hu hcount
        rw [Bool.and_eq_true, decide_eq_true_eq] at hcount
        obtain ⟨g', hg', hid⟩ := h.known u hu
        exact hfresh g' hg' (hid.trans hcount.1)
      omega

lemma kept_revoke {grantId subjectId : Nat} {reason actor : String} {clock : Moment} {s s' : CapabilityState}
    (h : Kept cfg s) (hok : revoke cfg grantId reason actor subjectId clock s = .ok s') : Kept cfg s' := by
  rcases revoke_ok hok with rfl | ⟨row, new, hfind, hrate, happroval, rfl⟩
  · exact h
  · obtain ⟨hmem, hid⟩ := Table.find?_eq_some.mp hfind
    refine ⟨?_, ?_, h.spelled, ?_⟩
    · intro g hg
      rcases Table.mem_replace.mp hg with ⟨rfl, -⟩ | ⟨hg, -⟩
      · exact happroval.trans (h.approval row hmem)
      · exact h.approval g hg
    · intro u hu
      obtain ⟨g, hg, hgu⟩ := h.known u hu
      by_cases hk : g.grantId = new.grantId
      · exact ⟨new, Table.mem_replace.mpr (.inl ⟨rfl, g, hg, hk⟩), hk.symm.trans hgu⟩
      · exact ⟨g, Table.mem_replace.mpr (.inr ⟨hg, hk⟩), hgu⟩
    · intro g hg hpos t
      rcases Table.mem_replace.mp hg with ⟨rfl, -⟩ | ⟨hg, -⟩
      · rw [hrate] at hpos ⊢
        have hlimited := h.limited row hmem hpos t
        rw [hid] at hlimited
        exact hlimited
      · exact h.limited g hg hpos t

lemma kept_use {q : UseRequest} {s s' : CapabilityState} {row : GrantRow} (h : Kept cfg s)
    (ha : attentive cfg s (.use q) = true) (hok : use cfg q s = .ok (s', row)) : Kept cfg s' := by
  obtain ⟨t, ht, hselect, rfl⟩ := use_ok hok
  obtain ⟨hgrant, -, hrate⟩ := permits_of_select hselect
  obtain ⟨-, hlatest, hspelled⟩ := of_attentive ha ht
  refine ⟨h.approval, ?_, ?_, ?_⟩
  · intro u hu
    rcases List.mem_append.mp hu with hu | hu
    · exact h.known u hu
    · rw [List.mem_singleton.mp hu]
      exact ⟨row, hgrant, rfl⟩
  · intro u hu
    rcases List.mem_append.mp hu with hu | hu
    · exact h.spelled u hu
    · rw [List.mem_singleton.mp hu]
      exact ⟨t, ht, hspelled⟩
  · intro g hg hpos t'
    have hold := h.limited g hg hpos t'
    have hcount : usedIn cfg { s with uses := s.uses ++ [chargedUse s q row], nextId := s.nextId + 1 } g.grantId t' =
        usedIn cfg s g.grantId t' + if row.grantId = g.grantId ∧ inHour t' t = true then 1 else 0 := by
      have hnew : (decide ((chargedUse s q row).grantId = g.grantId) &&
          (readTime cfg (chargedUse s q row).createdAt).any (inHour t')) = true ↔
            row.grantId = g.grantId ∧ inHour t' t = true := by
        change (decide (row.grantId = g.grantId) && (readTime cfg q.timestamp).any (inHour t')) = true ↔ _
        rw [ht, Option.any_some, Bool.and_eq_true, decide_eq_true_eq]
      unfold usedIn
      rw [List.countP_append, List.countP_singleton]
      simp only [hnew]
    rw [hcount]
    split
    · next hnew =>
      -- the hour holds no more uses than the one that ends with this use
      have heq : row = g := Table.eq_of_key hgrant hg hnew.1
      subst heq
      have hlt := of_decide_eq_true (usedIn_lt_of_withinRate h hspelled.whole hlatest hpos hrate).symm
      have hle := usedIn_le hlatest (inHour_iff.mp hnew.2).2 row.grantId
      omega
    · exact hold

lemma kept_step {s : CapabilityState} {a : CapabilityAction} (h : Kept cfg s) (ha : attentive cfg s a = true) :
    Kept cfg (capabilityStep cfg s a) := by
  cases a with
  | grant subjectId p actor clock =>
    change Kept cfg ((grant cfg subjectId p actor clock s).toOption.getD s)
    cases hok : grant cfg subjectId p actor clock s with
    | error e => exact h
    | ok s' => exact kept_grant h hok
  | revoke grantId reason actor subjectId clock =>
    change Kept cfg ((revoke cfg grantId reason actor subjectId clock s).toOption.getD s)
    cases hok : revoke cfg grantId reason actor subjectId clock s with
    | error e => exact h
    | ok s' => exact kept_revoke h hok
  | use q =>
    change Kept cfg (((use cfg q s).toOption.map Prod.fst).getD s)
    cases hok : use cfg q s with
    | error e => exact h
    | ok r => exact kept_use h ha hok
  | allows q => exact h

lemma kept_initial {s : CapabilityState} (h : s.grants.rows = [] ∧ s.uses = []) : Kept cfg s := by
  have hnone : ∀ g, g ∉ s.grants := by
    intro g hg
    rw [Table.mem_def, h.1] at hg
    cases hg
  refine ⟨fun g hg => absurd hg (hnone g), ?_, ?_, fun g hg => absurd hg (hnone g)⟩
  · intro u hu
    rw [h.2] at hu
    cases hu
  · intro u hu
    rw [h.2] at hu
    cases hu

/-- What the store enforces in a state: uses are charged to grants that permit them, grants keep their rate, a denial
means that every such grant has none left, and `allows` says what `use` would do. -/
structure Enforced (cfg : CapabilityConfig) (s : CapabilityState) : Prop where
  charged : ∀ a, ∀ u ∈ (capabilityStep cfg s a).uses, u ∈ s.uses ∨ ∃ q t g, a = .use q ∧
    readTime cfg q.timestamp = some t ∧ g ∈ s.grants ∧ Permits cfg q t g ∧ u = chargedUse s q g
  limited : ∀ g ∈ s.grants, 0 < g.rateLimitPerHour → ∀ t, usedIn cfg s g.grantId t ≤ g.rateLimitPerHour
  denied : ∀ q t, readTime cfg q.timestamp = some t → attentive cfg s (.use q) = true →
    ∀ e, use cfg q s = .error e → e.isDenial = true → ∀ g ∈ s.grants, Permits cfg q t g →
      0 < g.rateLimitPerHour ∧ g.rateLimitPerHour ≤ usedIn cfg s g.grantId t
  allowed : ∀ q, ownAction q = true → (allows cfg q s = .ok true ↔ ∃ r, use cfg q s = .ok r)

lemma charged_step {s : CapabilityState} (a : CapabilityAction) {u : UseRow} (hu : u ∈ (capabilityStep cfg s a).uses) :
    u ∈ s.uses ∨ ∃ q t g, a = .use q ∧ readTime cfg q.timestamp = some t ∧ g ∈ s.grants ∧ Permits cfg q t g ∧
      u = chargedUse s q g := by
  cases a with
  | grant subjectId p actor clock =>
    change u ∈ ((grant cfg subjectId p actor clock s).toOption.getD s).uses at hu
    cases hok : grant cfg subjectId p actor clock s with
    | error e =>
      rw [hok] at hu
      exact .inl hu
    | ok s' =>
      rw [hok] at hu
      obtain ⟨_, _, -, -, rfl⟩ := grant_ok hok
      exact .inl hu
  | revoke grantId reason actor subjectId clock =>
    change u ∈ ((revoke cfg grantId reason actor subjectId clock s).toOption.getD s).uses at hu
    cases hok : revoke cfg grantId reason actor subjectId clock s with
    | error e =>
      rw [hok] at hu
      exact .inl hu
    | ok s' =>
      rw [hok] at hu
      rcases revoke_ok hok with rfl | ⟨_, _, -, -, -, rfl⟩
      · exact .inl hu
      · exact .inl hu
  | use q =>
    change u ∈ (((use cfg q s).toOption.map Prod.fst).getD s).uses at hu
    cases hok : use cfg q s with
    | error e =>
      rw [hok] at hu
      exact .inl hu
    | ok r =>
      rw [hok] at hu
      obtain ⟨t, ht, hselect, hs'⟩ := use_ok hok
      obtain ⟨hgrant, hp, -⟩ := permits_of_select hselect
      change u ∈ r.1.uses at hu
      rw [hs'] at hu
      rcases List.mem_append.mp hu with hu | hu
      · exact .inl hu
      · exact .inr ⟨q, t, r.2, rfl, ht, hgrant, hp, List.mem_singleton.mp hu⟩
  | allows q => exact .inl hu

/-- Runs of calls whose instants do not decrease, whose texts are spelled in one of the two formats and whose actions
are the subject's own. -/
theorem capability_enforced {s : CapabilityState}
    (h : (capabilityMachine cfg).ReachableUnder (fun s a => attentive cfg s a = true) s) : Enforced cfg s := by
  have hkept : Kept cfg s := h.invariant (I := Kept cfg) (fun _ => kept_initial) (fun _ _ hs ha => kept_step hs ha)
  refine ⟨fun a u hu => charged_step a hu, hkept.limited, ?_, fun q hown => allows_iff hown⟩
  intro q t ht ha e herror hdenial g hg hp
  obtain ⟨hown, hlatest, hspelled⟩ := of_attentive ha ht
  have hrate := exhausted_of_select (use_denied ht hown herror hdenial) hg (hkept.approval g hg) hp
  have hpos : 0 < g.rateLimitPerHour := by
    by_contra hzero
    unfold withinRate at hrate
    rw [if_neg hzero] at hrate
    cases hrate
  have hfull := of_decide_eq_false (usedIn_lt_of_withinRate hkept hspelled.whole hlatest hpos hrate).symm
  exact ⟨hpos, Nat.not_lt.mp hfull⟩

lemma secondDay_year {minutes : Nat} (h : minutes < 1440) :
    (Date.after ⟨1, 1, 1⟩ ((day + minutes * minute) / day)).year ≤ 9999 := by
  have hday : (day + minutes * minute) / day = 1 := by
    simp only [day, hour, minute, second]
    omega
  rw [hday]
  decide

/-- An instant of the second day. -/
def onSecondDay (minutes : Nat) (h : minutes < 1440) : Moment := ⟨day + minutes * minute, secondDay_year h⟩

def tenOClock : Moment := onSecondDay 600 (by decide)

def halfPastTen : Moment := onSecondDay 630 (by decide)

/-- `datetime.fromisoformat` of the texts below. -/
def readSample (text : Timestamp) : Option DateTime :=
  [("0001-01-02T10:00:00.000+00:00".toList, ⟨tenOClock, some 0⟩),
    ("0001-01-02T05:00:00-05:00".toList, ⟨onSecondDay 300 (by decide), some (-(5 * hour : Nat))⟩),
    ("0001-01-02T10:30:00.000+00:00".toList, ⟨halfPastTen, some 0⟩),
    ("0001-01-02T10:30:00+00:00".toList, ⟨halfPastTen, some 0⟩)].lookup text

def sampleStore : CapabilityConfig := ⟨readSample, fun _ _ _ _ _ _ => "hash"⟩

def oneAnHour : CapabilityGrant :=
  ⟨.message, [("exact", .items [.text "channel"])], "operator", 1, true, false, none⟩

def noView : ResourceView := ⟨fun _ => none, fun _ => none, fun _ => none, fun _ => none, fun s => s⟩

def useAt (text : String) : UseRequest :=
  ⟨0, .message, "channel", true, none, some text.toList, tenOClock, noView, none⟩

def emptyStore : CapabilityState := ⟨⟨[], by decide⟩, [], 0⟩

def utcUses : List CapabilityAction :=
  [.grant 0 oneAnHour "operator" tenOClock, .use (useAt "0001-01-02T10:00:00.000+00:00"),
    .use (useAt "0001-01-02T10:30:00+00:00")]

theorem capability_enforced_utc :
    (utcUses.foldl (capabilityStep sampleStore) emptyStore).uses.map UseRow.createdAt =
        ["0001-01-02T10:00:00.000+00:00".toList] ∧
      Enforced sampleStore (utcUses.foldl (capabilityStep sampleStore) emptyStore) := by
  refine ⟨by decide, ?_⟩
  apply capability_enforced
  have hinit : (capabilityMachine sampleStore).init emptyStore := ⟨rfl, rfl⟩
  exact Machine.reachableUnder_foldl hinit utcUses (by decide)

/-- A use whose text is the local time of New York. -/
def localUses : List CapabilityAction :=
  [.grant 0 oneAnHour "operator" tenOClock, .use (useAt "0001-01-02T05:00:00-05:00"),
    .use (useAt "0001-01-02T10:30:00.000+00:00")]

/-- The instants do not decrease, and two uses of one hour are charged to a grant of one use an hour. -/
theorem local_time_exceeds_rate :
    (capabilityMachine sampleStore).Reachable (localUses.foldl (capabilityStep sampleStore) emptyStore) ∧
      latest sampleStore (localUses.foldl (capabilityStep sampleStore) emptyStore) halfPastTen = true ∧
      (localUses.foldl (capabilityStep sampleStore) emptyStore).grants.rows.map GrantRow.rateLimitPerHour = [1] ∧
      usedIn sampleStore (localUses.foldl (capabilityStep sampleStore) emptyStore) 0 halfPastTen = 2 ∧
      ¬Enforced sampleStore (localUses.foldl (capabilityStep sampleStore) emptyStore) := by
  have htwo : usedIn sampleStore (localUses.foldl (capabilityStep sampleStore) emptyStore) 0 halfPastTen = 2 := by
    decide
  have hinit : (capabilityMachine sampleStore).init emptyStore := ⟨rfl, rfl⟩
  refine ⟨Machine.reachable_foldl hinit localUses, by decide, by decide, htwo, ?_⟩
  intro h
  have hall : ∀ g ∈ (localUses.foldl (capabilityStep sampleStore) emptyStore).grants.rows, g.grantId = 0 ∧
      g.rateLimitPerHour = 1 := by
    decide
  obtain ⟨g, hg⟩ : ∃ g, g ∈ (localUses.foldl (capabilityStep sampleStore) emptyStore).grants.rows :=
    List.exists_mem_of_length_pos (by decide)
  obtain ⟨hid, hrate⟩ := hall g hg
  have hle := h.limited g hg (by omega) halfPastTen
  rw [hid, hrate, htwo] at hle
  omega

end Noyra.Capability.Proofs
