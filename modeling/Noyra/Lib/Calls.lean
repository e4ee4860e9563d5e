import Noyra.Lib.Machine

/-!
# Calls that interleave over one store

A call is a sequence of commands. Each command is one transaction of a store: it commits or raises, and the
call goes on with what it returned or raised. Calls in progress interleave freely; a section between `enter`
and `leave` excludes the other such sections. A crash forgets the calls and frees the section, and the store
keeps what was committed. The machine also remembers the commands that have committed.
-/

namespace Noyra.Lib

/-- A call; the result of a command has the type the command promises. -/
inductive Call {κ : Type} (ρ : κ → Type) (ε α : Type)
  | done (result : Except ε α)
  | perform (command : κ) (next : Except ε (ρ command) → Call ρ ε α)
  | enter (next : Bool → Call ρ ε α)
  | leave (next : Call ρ ε α)

namespace Call

variable {κ : Type} {ρ : κ → Type} {ε α β : Type}

/-- Go on however the call ends. -/
def andThen : Call ρ ε α → (Except ε α → Call ρ ε β) → Call ρ ε β
  | done r, f => f r
  | perform c k, f => perform c (fun x => (k x).andThen f)
  | enter k, f => enter (fun x => (k x).andThen f)
  | leave k, f => leave (k.andThen f)

def onReturn (f : α → Call ρ ε β) : Except ε α → Call ρ ε β
  | .ok a => f a
  | .error e => done (.error e)

instance : Monad (Call ρ ε) where
  pure a := done (.ok a)
  bind p f := p.andThen (onReturn f)

/-- One command; what it raises is raised. -/
def command (c : κ) : Call ρ ε (ρ c) := perform c done

def raise (e : ε) : Call ρ ε α := done (.error e)

/-- A check that commits nothing. -/
def check (r : Except ε α) : Call ρ ε α := done r

/-- `try: body except Exception: cleanup; raise`. -/
def onRaise (body : Call ρ ε α) (cleanup : Call ρ ε Unit) : Call ρ ε α :=
  body.andThen (fun
    | .ok a => done (.ok a)
    | .error e => cleanup.andThen (fun _ => done (.error e)))

/-- The body in the exclusive section; `busy` is raised when another call is in it. -/
def exclusively (busy : ε) (body : Call ρ ε α) : Call ρ ε α :=
  enter (fun
    | true => body.andThen (fun r => leave (done r))
    | false => done (.error busy))

/-- Every command the call can come to run meets the condition. -/
def All (P : κ → Prop) : Call ρ ε α → Prop
  | done _ => True
  | perform c k => P c ∧ ∀ r, (k r).All P
  | enter k => ∀ free, (k free).All P
  | leave k => k.All P

variable {P : κ → Prop}

theorem All.andThen {call : Call ρ ε α} {f : Except ε α → Call ρ ε β} (h : call.All P) (hf : ∀ r, (f r).All P) :
    (call.andThen f).All P := by
  induction call with
  | done r => exact hf r
  | perform c k ih => exact ⟨h.1, fun r => ih r (h.2 r)⟩
  | enter k ih => exact fun free => ih free (h free)
  | leave k ih => exact ih h

theorem All.bind {call : Call ρ ε α} {f : α → Call ρ ε β} (h : call.All P) (hf : ∀ a, (f a).All P) :
    (call >>= f).All P := by
  apply h.andThen
  intro r
  cases r with
  | ok a => exact hf a
  | error e => trivial

theorem all_command {c : κ} (h : P c) : (command c : Call ρ ε (ρ c)).All P := ⟨h, fun _ => trivial⟩

theorem all_ite {c : Prop} [Decidable c] {call other : Call ρ ε α} (h : call.All P) (h' : other.All P) :
    (if c then call else other).All P := by
  split
  · exact h
  · exact h'

theorem All.exclusively {busy : ε} {body : Call ρ ε α} (h : body.All P) : (exclusively busy body).All P := by
  intro free
  cases free with
  | true => exact h.andThen (fun _ => trivial)
  | false => trivial

theorem All.onRaise {body : Call ρ ε α} {cleanup : Call ρ ε Unit} (h : body.All P) (hc : cleanup.All P) :
    (body.onRaise cleanup).All P := by
  apply h.andThen
  intro r
  cases r with
  | ok a => trivial
  | error e => exact hc.andThen (fun _ => trivial)

end Call

/-- A store: what each command does to a state, given what it reads from outside. -/
structure Store (σ η : Type) {κ : Type} (ρ : κ → Type) (ε : Type) where
  exec : (c : κ) → η → σ → Except ε (ρ c × σ)

namespace Store

variable {σ η ι κ : Type} {ρ : κ → Type} {ε α β : Type} (S : Store σ η ρ ε)

/-- The state, the calls in progress, the call in the exclusive section and the commands committed so far,
latest last. -/
structure Running (σ η : Type) {κ : Type} (ρ : κ → Type) (ε : Type) where
  state : σ
  calls : List (Call ρ ε Unit)
  holder : Option Nat
  history : List (κ × η)

inductive Move (ι η : Type)
  | start (entry : ι)
  | advance (i : Nat) (reading : η)
  | crash

/-- The command a move would run, with its reading. -/
def pending (s : Running σ η ρ ε) : Move ι η → Option (κ × η)
  | .advance i x =>
    match s.calls[i]? with
    | some (.perform c _) => some (c, x)
    | _ => none
  | _ => none

/-- One step of the call `i`. -/
def advance (s : Running σ η ρ ε) (i : Nat) (x : η) : Running σ η ρ ε :=
  match s.calls[i]? with
  | some (.perform c k) =>
    match S.exec c x s.state with
    | .ok (r, state) => { s with state, calls := s.calls.set i (k (.ok r)), history := s.history ++ [(c, x)] }
    | .error e => { s with calls := s.calls.set i (k (.error e)) }
  | some (.enter k) =>
    if s.holder = none then { s with calls := s.calls.set i (k true), holder := some i }
    else { s with calls := s.calls.set i (k false) }
  | some (.leave k) =>
    { s with calls := s.calls.set i k, holder := if s.holder = some i then none else s.holder }
  | _ => s

def step (entry : ι → Call ρ ε Unit) (s : Running σ η ρ ε) : Move ι η → Running σ η ρ ε
  | .start p => { s with calls := s.calls ++ [entry p] }
  | .advance i x => S.advance s i x
  | .crash => { s with calls := [], holder := none }

/-- Calls of the given entry points from a state that meets `init`. -/
def machine (init : σ → Prop) (entry : ι → Call ρ ε Unit) : Machine (Running σ η ρ ε) (Move ι η) where
  init s := init s.state ∧ s.calls = [] ∧ s.holder = none ∧ s.history = []
  step := S.step entry

/-- Every command run meets the condition in the state it is run from. -/
def Guarded (guard : κ → η → σ → Prop) (s : Running σ η ρ ε) (m : Move ι η) : Prop :=
  ∀ c x, pending s m = some (c, x) → guard c x s.state

instance Guarded.decidable (guard : κ → η → σ → Prop) [∀ c x s, Decidable (guard c x s)] (s : Running σ η ρ ε)
    (m : Move ι η) : Decidable (Guarded guard s m) :=
  match h : pending s m with
  | none => .isTrue (fun c x hp => by simp [h] at hp)
  | some (c, x) =>
    decidable_of_iff (guard c x s.state)
      ⟨fun hg c' x' hp => by
        rw [h] at hp
        cases hp
        exact hg, fun hg => hg c x h⟩

/-- A move commits the pending command or leaves the state alone. -/
theorem step_cases (entry : ι → Call ρ ε Unit) (s : Running σ η ρ ε) (m : Move ι η) :
    ((S.step entry s m).state = s.state ∧ (S.step entry s m).history = s.history) ∨
    ∃ c x r, pending s m = some (c, x) ∧ S.exec c x s.state = .ok (r, (S.step entry s m).state) ∧
      (S.step entry s m).history = s.history ++ [(c, x)] := by
  cases m with
  | start p => exact .inl ⟨rfl, rfl⟩
  | crash => exact .inl ⟨rfl, rfl⟩
  | advance i x =>
    simp only [step, advance, pending]
    cases hc : s.calls[i]? with
    | none => exact .inl ⟨rfl, rfl⟩
    | some call =>
      cases call with
      | done r => exact .inl ⟨rfl, rfl⟩
      | perform c k =>
        cases he : S.exec c x s.state with
        | error e => simp [he]
        | ok rs =>
          simp only [he]
          exact .inr ⟨c, x, rs.1, rfl, he, rfl⟩
      | enter k => by_cases hn : s.holder = none <;> simp [hn]
      | leave k => exact .inl ⟨rfl, rfl⟩

/-- The pending command commits. -/
theorem step_state {entry : ι → Call ρ ε Unit} {s : Running σ η ρ ε} {m : Move ι η} {c : κ} {x : η} {r : ρ c} {s' : σ}
    (hp : pending s m = some (c, x)) (he : S.exec c x s.state = .ok (r, s')) : (S.step entry s m).state = s' := by
  cases m with
  | start p => exact absurd hp (by simp [pending])
  | crash => exact absurd hp (by simp [pending])
  | advance i y =>
    simp only [pending] at hp
    split at hp
    · next c' k hc =>
      cases hp
      simp only [step, advance, hc, he]
    · cases hp

/-! ### Commands of a restricted form -/

section
variable {S} {entry : ι → Call ρ ε Unit} {init : σ → Prop} {P : κ → Prop}

/-- Where every entry point runs only such commands, so does every call in progress. -/
theorem all_of_reachable (hentry : ∀ p, (entry p).All P) {s : Running σ η ρ ε}
    (hs : (S.machine init entry).Reachable s) : ∀ call ∈ s.calls, call.All P := by
  apply hs.invariant
  · rintro s ⟨-, hcalls, -⟩
    simp [hcalls]
  · intro s m h _
    have hset : ∀ i call, call.All P → ∀ other ∈ s.calls.set i call, other.All P := by
      intro i call hc other hother
      rcases List.mem_or_eq_of_mem_set hother with hmem | rfl
      · exact h other hmem
      · exact hc
    cases m with
    | start p =>
      intro call hc
      rcases List.mem_append.mp hc with hmem | hnew
      · exact h call hmem
      · rw [List.mem_singleton.mp hnew]
        exact hentry p
    | crash => simp [machine, step]
    | advance i x =>
      change ∀ call ∈ (S.advance s i x).calls, call.All P
      unfold advance
      cases hc : s.calls[i]? with
      | none => exact h
      | some call =>
        have hcall := h call (List.mem_of_getElem? hc)
        cases call with
        | done r => exact h
        | perform c k =>
          cases he : S.exec c x s.state with
          | error e =>
            simp only [he]
            exact hset i _ (hcall.2 (.error e))
          | ok rs =>
            simp only [he]
            exact hset i _ (hcall.2 (.ok rs.1))
        | enter k =>
          by_cases hn : s.holder = none
          · simp only [hn, if_true]
            exact hset i _ (hcall true)
          · simp only [hn, if_false]
            exact hset i _ (hcall false)
        | leave k => exact hset i _ hcall

theorem pending_all (hentry : ∀ p, (entry p).All P) {s : Running σ η ρ ε} (hs : (S.machine init entry).Reachable s)
    {m : Move ι η} {c : κ} {x : η} (hp : pending s m = some (c, x)) : P c := by
  cases m with
  | start p => exact absurd hp (by simp [pending])
  | crash => exact absurd hp (by simp [pending])
  | advance i y =>
    simp only [pending] at hp
    split at hp
    · next c' k hc =>
      cases hp
      exact (all_of_reachable hentry hs _ (List.mem_of_getElem? hc)).1
    · cases hp

/-- The run rule for a property of the state and of the commands committed before it. -/
theorem history_of_reachable (hentry : ∀ p, (entry p).All P) {J : σ → List (κ × η) → Prop}
    (hinit : ∀ s, init s → J s [])
    (hexec : ∀ c x s r s' past, P c → J s past → S.exec c x s = .ok (r, s') → J s' (past ++ [(c, x)]))
    {s : Running σ η ρ ε} (hs : (S.machine init entry).Reachable s) : J s.state s.history := by
  obtain ⟨ms, hrun⟩ := hs
  induction hrun with
  | start h0 =>
    obtain ⟨hi, -, -, hh⟩ := h0
    rw [hh]
    exact hinit _ hi
  | @next ms s m hrun hg ih =>
    change J (S.step entry s m).state (S.step entry s m).history
    rcases step_cases S entry s m with ⟨hst, hh⟩ | ⟨c, x, r, hp, he, hh⟩
    · rw [hst, hh]
      exact ih
    · rw [hh]
      exact hexec c x s.state r _ _ (pending_all hentry ⟨ms, hrun⟩ hp) ih he

end

/-! ### Reasoning about interleaved calls

The rely of a call outside the section is `rely`, the one of the call in the section is `sectionRely`: what
the other calls may do to the state. A call *fits* when every command it can come to run meets its
precondition, whatever the others do in between. -/

section
variable (guard : κ → η → σ → Prop) (inv : σ → Prop) (pre : Bool → κ → σ → Prop) (rely sectionRely : σ → σ → Prop)

/-- What the other calls may do to a call inside or outside the section. -/
def relyOf (held : Bool) : σ → σ → Prop := if held then sectionRely else rely

/-- Every command the call can come to run meets its precondition; `post` is what holds when it ends. -/
def Fits (post : Bool → Except ε α → σ → Prop) : Bool → Call ρ ε α → σ → Prop
  | held, .done r, s => ∀ s', relyOf rely sectionRely held s s' → inv s' → post held r s'
  | held, .perform c k, s => ∀ s', relyOf rely sectionRely held s s' → inv s' →
      pre held c s' ∧
      (∀ x r s'', guard c x s' → S.exec c x s' = .ok (r, s'') → inv s'' → Fits post held (k (.ok r)) s'') ∧
      (∀ e, Fits post held (k (.error e)) s')
  | held, .enter k, s => ∀ s', relyOf rely sectionRely held s s' → inv s' →
      held = false ∧ Fits post true (k true) s' ∧ Fits post false (k false) s'
  | held, .leave k, s => ∀ s', relyOf rely sectionRely held s s' → inv s' → Fits post false k s'

/-- The commands keep the invariant and what the other calls rely on. -/
structure Sound : Prop where
  rely_refl : ∀ s, rely s s
  rely_trans : ∀ {s t u}, rely s t → rely t u → rely s u
  section_refl : ∀ s, sectionRely s s
  section_trans : ∀ {s t u}, sectionRely s t → sectionRely t u → sectionRely s u
  exec : ∀ {held c x s r s'}, inv s → pre held c s → guard c x s → S.exec c x s = .ok (r, s') →
    inv s' ∧ rely s s' ∧ (held = false → sectionRely s s')

end

section
variable {S} {guard : κ → η → σ → Prop} {inv : σ → Prop} {pre : Bool → κ → σ → Prop}
  {rely sectionRely : σ → σ → Prop} {entry : ι → Call ρ ε Unit} {init : σ → Prop}

/-- A postcondition about what a call returns. -/
def returning (mid : Bool → α → σ → Prop) (held : Bool) : Except ε α → σ → Prop
  | .ok a, s => mid held a s
  | .error _, _ => True

theorem fits_mono {post post' : Bool → Except ε α → σ → Prop}
    (hp : ∀ held r s, inv s → post held r s → post' held r s) {held : Bool} {call : Call ρ ε α} {s : σ}
    (hf : S.Fits guard inv pre rely sectionRely post held call s) :
    S.Fits guard inv pre rely sectionRely post' held call s := by
  induction call generalizing held s with
  | done r => exact fun s' hr hi => hp held r s' hi (hf s' hr hi)
  | perform c k ih =>
    intro s' hr hi
    obtain ⟨hpre, hok, herr⟩ := hf s' hr hi
    exact ⟨hpre, fun x r s'' hg he hi' => ih _ (hok x r s'' hg he hi'), fun e => ih _ (herr e)⟩
  | enter k ih =>
    intro s' hr hi
    obtain ⟨hh, htrue, hfalse⟩ := hf s' hr hi
    exact ⟨hh, ih _ htrue, ih _ hfalse⟩
  | leave k ih => exact fun s' hr hi => ih (hf s' hr hi)

namespace Sound

theorem relyOf_refl (h : S.Sound guard inv pre rely sectionRely) (held : Bool) (s : σ) :
    relyOf rely sectionRely held s s := by
  cases held
  · exact h.rely_refl s
  · exact h.section_refl s

theorem relyOf_trans (h : S.Sound guard inv pre rely sectionRely) {held : Bool} {s t u : σ}
    (h₁ : relyOf rely sectionRely held s t) (h₂ : relyOf rely sectionRely held t u) :
    relyOf rely sectionRely held s u := by
  cases held
  · exact h.rely_trans h₁ h₂
  · exact h.section_trans h₁ h₂

/-- What the others do leaves a call fitting. -/
theorem stable (h : S.Sound guard inv pre rely sectionRely) {post : Bool → Except ε α → σ → Prop} {held : Bool}
    {call : Call ρ ε α} {s s' : σ} (hf : S.Fits guard inv pre rely sectionRely post held call s)
    (hr : relyOf rely sectionRely held s s') : S.Fits guard inv pre rely sectionRely post held call s' := by
  cases call <;> exact fun u hu hi => hf u (h.relyOf_trans hr hu) hi

/-- The sequence rule. -/
theorem fits_andThen (h : S.Sound guard inv pre rely sectionRely) {post : Bool → Except ε β → σ → Prop}
    {f : Except ε α → Call ρ ε β} {held : Bool} {call : Call ρ ε α} {s : σ} (hi : inv s)
    (hf : S.Fits guard inv pre rely sectionRely
      (fun held r s => S.Fits guard inv pre rely sectionRely post held (f r) s) held call s) :
    S.Fits guard inv pre rely sectionRely post held (call.andThen f) s := by
  induction call generalizing held s with
  | done r => exact hf s (h.relyOf_refl held s) hi
  | perform c k ih =>
    intro s' hr hi'
    obtain ⟨hpre, hok, herr⟩ := hf s' hr hi'
    exact ⟨hpre, fun x r s'' hg he hi'' => ih _ hi'' (hok x r s'' hg he hi''), fun e => ih _ hi' (herr e)⟩
  | enter k ih =>
    intro s' hr hi'
    obtain ⟨hh, htrue, hfalse⟩ := hf s' hr hi'
    exact ⟨hh, ih _ hi' htrue, ih _ hi' hfalse⟩
  | leave k ih => exact fun s' hr hi' => ih hi' (hf s' hr hi')

/-- The frame rule: what neither the others nor the call's own commands destroy still holds when it ends. -/
theorem fits_frame (h : S.Sound guard inv pre rely sectionRely) {P : σ → Prop} (hrely : ∀ s s', rely s s' → P s → P s')
    (hsection : ∀ s s', sectionRely s s' → P s → P s') {post : Bool → Except ε α → σ → Prop} {held : Bool}
    {call : Call ρ ε α} {s : σ} (hs : P s) (hf : S.Fits guard inv pre rely sectionRely post held call s) :
    S.Fits guard inv pre rely sectionRely (fun held r s => post held r s ∧ P s) held call s := by
  have hof : ∀ {held : Bool} {s s' : σ}, relyOf rely sectionRely held s s' → P s → P s' := by
    intro held s s' hr hP
    cases held
    · exact hrely s s' hr hP
    · exact hsection s s' hr hP
  induction call generalizing held s with
  | done r => exact fun s' hr hi => ⟨hf s' hr hi, hof hr hs⟩
  | perform c k ih =>
    intro s' hr hi
    obtain ⟨hpre, hok, herr⟩ := hf s' hr hi
    refine ⟨hpre, ?_, fun e => ih _ (hof hr hs) (herr e)⟩
    intro x r s'' hg he hi'
    exact ih _ (hrely s' s'' (h.exec hi hpre hg he).2.1 (hof hr hs)) (hok x r s'' hg he hi')
  | enter k ih =>
    intro s' hr hi
    obtain ⟨hh, htrue, hfalse⟩ := hf s' hr hi
    exact ⟨hh, ih _ (hof hr hs) htrue, ih _ (hof hr hs) hfalse⟩
  | leave k ih => exact fun s' hr hi => ih (hof hr hs) (hf s' hr hi)

end Sound

/-- A command at the end of its call. -/
theorem fits_command {c : κ} {post : Bool → Except ε (ρ c) → σ → Prop} {held : Bool} {s : σ}
    (hp : ∀ held e s, post held (.error e) s)
    (hpre : ∀ s', relyOf rely sectionRely held s s' → inv s' → pre held c s')
    (hok : ∀ s' x r s'', relyOf rely sectionRely held s s' → inv s' → guard c x s' → S.exec c x s' = .ok (r, s'') →
      ∀ u, relyOf rely sectionRely held s'' u → inv u → post held (.ok r) u) :
    S.Fits guard inv pre rely sectionRely post held (Call.command c) s := by
  intro s' hr hi
  exact ⟨hpre s' hr hi, fun x r s'' hg he _ => hok s' x r s'' hr hi hg he, fun e s'' _ _ => hp held e s''⟩

/-- The call in the exclusive section. -/
theorem fits_exclusively (h : S.Sound guard inv pre rely sectionRely) {post : Bool → Except ε α → σ → Prop} {busy : ε}
    {body : Call ρ ε α} {s : σ} (hp : ∀ r s, post false r s)
    (hb : ∀ s', rely s s' → inv s' → S.Fits guard inv pre rely sectionRely (fun _ _ _ => True) true body s') :
    S.Fits guard inv pre rely sectionRely post false (Call.exclusively busy body) s := by
  intro s' hr hi
  refine ⟨rfl, h.fits_andThen hi ?_, fun u _ _ => hp _ u⟩
  refine fits_mono ?_ (hb s' hr hi)
  intro held r u _ _ u' _ _ v _ _
  exact hp r v

/-! ### Runs -/

/-- The calls in progress fit, and the section is held by one of them. -/
structure Healthy (S : Store σ η ρ ε) (guard : κ → η → σ → Prop) (inv : σ → Prop) (pre : Bool → κ → σ → Prop)
    (rely sectionRely : σ → σ → Prop) (s : Running σ η ρ ε) : Prop where
  state : inv s.state
  calls : ∀ i call, s.calls[i]? = some call →
    S.Fits guard inv pre rely sectionRely (fun _ _ _ => True) (decide (s.holder = some i)) call s.state
  holder : ∀ i, s.holder = some i → i < s.calls.length

/-- Replacing one call, when the others keep their place in the section and rely on no more than happened. -/
theorem Healthy.set (h : S.Sound guard inv pre rely sectionRely) {s : Running σ η ρ ε}
    (hs : Healthy S guard inv pre rely sectionRely s) {i : Nat} {call : Call ρ ε Unit} {state : σ} {holder : Option Nat}
    {history : List (κ × η)} (hi : inv state) (hlt : i < s.calls.length)
    (hcall : S.Fits guard inv pre rely sectionRely (fun _ _ _ => True) (decide (holder = some i)) call state)
    (hrely : rely s.state state) (hsection : s.holder ≠ some i → sectionRely s.state state)
    (hother : ∀ j, j ≠ i → (holder = some j ↔ s.holder = some j)) :
    Healthy S guard inv pre rely sectionRely ⟨state, s.calls.set i call, holder, history⟩ := by
  refine ⟨hi, ?_, ?_⟩
  · intro j other hj
    by_cases hji : j = i
    · subst hji
      rw [List.getElem?_set_self hlt] at hj
      cases hj
      exact hcall
    · have hj' : s.calls[j]? = some other := by
        rwa [List.getElem?_set_ne (fun he => hji he.symm)] at hj
      have hf := hs.calls j other hj'
      have hheld : decide (holder = some j) = decide (s.holder = some j) := by
        rw [decide_eq_decide]
        exact hother j hji
      simp only [hheld]
      apply h.stable hf
      by_cases hh : s.holder = some j
      · have hne : s.holder ≠ some i := fun he => hji (Option.some.inj (hh.symm.trans he))
        simp only [hh, decide_true]
        exact hsection hne
      · simp only [hh, decide_false]
        exact hrely
  · intro j hj
    simp only [List.length_set]
    by_cases hji : j = i
    · exact hji ▸ hlt
    · exact hs.holder j ((hother j hji).mp hj)

theorem Healthy.advance (h : S.Sound guard inv pre rely sectionRely) {s : Running σ η ρ ε}
    (hs : Healthy S guard inv pre rely sectionRely s) {i : Nat} {x : η}
    (hg : ∀ c k, s.calls[i]? = some (.perform c k) → guard c x s.state) :
    Healthy S guard inv pre rely sectionRely (S.advance s i x) := by
  unfold Store.advance
  cases hc : s.calls[i]? with
  | none => exact hs
  | some call =>
    have hlt : i < s.calls.length := (List.getElem?_eq_some_iff.mp hc).1
    have hf := hs.calls i call hc
    cases call with
    | done r => exact hs
    | perform c k =>
      obtain ⟨hpre, hok, herr⟩ := hf s.state (h.relyOf_refl _ _) hs.state
      cases he : S.exec c x s.state with
      | error e =>
        simp only [he]
        exact hs.set h hs.state hlt (herr e) (h.rely_refl _) (fun _ => h.section_refl _) (fun _ _ => Iff.rfl)
      | ok rs =>
        obtain ⟨hi, hrely, hsection⟩ := h.exec hs.state hpre (hg c k hc) he
        simp only [he]
        refine hs.set h hi hlt (hok x rs.1 rs.2 (hg c k hc) he hi) hrely ?_ (fun _ _ => Iff.rfl)
        intro hne
        exact hsection (by simp [hne])
    | enter k =>
      obtain ⟨hheld, htrue, hfalse⟩ := hf s.state (h.relyOf_refl _ _) hs.state
      have hne : s.holder ≠ some i := by simpa using hheld
      by_cases hnone : s.holder = none
      · simp only [hnone, if_true]
        refine hs.set h hs.state hlt ?_ (h.rely_refl _) (fun _ => h.section_refl _) ?_
        · simpa using htrue
        · intro j hj
          simp [hnone, hj.symm]
      · simp only [hnone, if_false]
        refine hs.set h hs.state hlt ?_ (h.rely_refl _) (fun _ => h.section_refl _) (fun _ _ => Iff.rfl)
        simpa [hne] using hfalse
    | leave k =>
      have hk := hf s.state (h.relyOf_refl _ _) hs.state
      refine hs.set h hs.state hlt ?_ (h.rely_refl _) (fun _ => h.section_refl _) ?_
      · by_cases hh : s.holder = some i <;> simpa [hh] using hk
      · intro j hj
        by_cases hh : s.holder = some i
        · simp [hh, hj.symm]
        · simp [hh]

/-- The run rule: where every command keeps the invariant and what the other calls rely on, every state
reached is healthy. -/
theorem healthy_of_reachable (h : S.Sound guard inv pre rely sectionRely) (hinit : ∀ s, init s → inv s)
    (hentry : ∀ p s, inv s → S.Fits guard inv pre rely sectionRely (fun _ _ _ => True) false (entry p) s)
    {s : Running σ η ρ ε} (hs : (S.machine init entry).ReachableUnder (Guarded guard) s) :
    Healthy S guard inv pre rely sectionRely s := by
  apply hs.invariant
  · rintro s ⟨hi, hcalls, hholder, -⟩
    exact ⟨hinit _ hi, by simp [hcalls], by simp [hholder]⟩
  · intro s m hh hg
    cases m with
    | start p =>
      refine ⟨hh.state, ?_, ?_⟩
      · intro i call hc
        change (s.calls ++ [entry p])[i]? = some call at hc
        change S.Fits guard inv pre rely sectionRely _ (decide (s.holder = some i)) call s.state
        rcases Nat.lt_or_ge i s.calls.length with hlt | hge
        · rw [List.getElem?_append_left hlt] at hc
          exact hh.calls i call hc
        · have hne : s.holder ≠ some i := fun he => absurd (hh.holder i he) (by omega)
          rw [List.getElem?_append_right hge] at hc
          have hcall : call = entry p := by
            rcases hd : i - s.calls.length with - | n
            · rw [hd] at hc
              exact (Option.some.inj hc).symm
            · rw [hd] at hc
              simp at hc
          subst hcall
          simpa [hne] using hentry p s.state hh.state
      · intro i hi
        change i < (s.calls ++ [entry p]).length
        have := hh.holder i hi
        simp only [List.length_append]
        omega
    | advance i x =>
      apply hh.advance h
      intro c k hc
      apply hg c x
      simp [pending, hc]
    | crash => exact ⟨hh.state, by simp [machine, step], by simp [machine, step]⟩

end

/-- The call run to its end with nothing in between and the section free; `x n` is what its `n`-th command reads. -/
def complete : Call ρ ε α → (Nat → η) → σ → Except ε α × σ
  | .done r, _, s => (r, s)
  | .perform c k, x, s =>
    match S.exec c (x 0) s with
    | .ok (r, s') => complete (k (.ok r)) (fun n => x (n + 1)) s'
    | .error e => complete (k (.error e)) (fun n => x (n + 1)) s
  | .enter k, x, s => complete (k true) x s
  | .leave k, x, s => complete k x s

variable {S}

/-- A command that succeeds, followed by the rest of the call. -/
theorem complete_ok {c : κ} {f : ρ c → Call ρ ε α} {x : Nat → η} {s s' : σ} {r : ρ c}
    (h : S.exec c (x 0) s = .ok (r, s')) :
    S.complete (Call.command c >>= f) x s = S.complete (f r) (fun n => x (n + 1)) s' := by
  change S.complete (.perform c _) x s = _
  simp only [complete, h]
  rfl

/-- The same for a command that begins a call of its own. -/
theorem complete_ok_bind {γ : Type} {c : κ} {g : ρ c → Call ρ ε α} {f : α → Call ρ ε γ} {x : Nat → η} {s s' : σ}
    {r : ρ c} (h : S.exec c (x 0) s = .ok (r, s')) :
    S.complete ((Call.command c >>= g) >>= f) x s = S.complete (g r >>= f) (fun n => x (n + 1)) s' := by
  change S.complete (.perform c _) x s = _
  simp only [complete, h]
  rfl

/-- A check that passes. -/
theorem complete_check {r : Except ε α} {a : α} {f : α → Call ρ ε β} {x : Nat → η} {s : σ} (h : r = .ok a) :
    S.complete (Call.check r >>= f) x s = S.complete (f a) x s := by
  rw [h]
  rfl

/-- A call on its own finds the section free. -/
theorem complete_exclusively {busy : ε} {body : Call ρ ε α} {x : Nat → η} {s : σ} :
    S.complete (Call.exclusively busy body) x s = S.complete body x s := by
  change S.complete (body.andThen (fun r => .leave (.done r))) x s = S.complete body x s
  induction body generalizing x s with
  | done r => rfl
  | perform c k ih =>
    simp only [Call.andThen, complete]
    split
    · exact ih _
    · exact ih _
  | enter k ih => exact ih true
  | leave k ih => exact ih

/-- A command that raises ends the call. -/
theorem complete_error {c : κ} {f : ρ c → Call ρ ε α} {x : Nat → η} {s : σ} {e : ε}
    (h : S.exec c (x 0) s = .error e) : S.complete (Call.command c >>= f) x s = (.error e, s) := by
  change S.complete (.perform c _) x s = _
  simp only [complete, h]
  rfl

theorem complete_error_bind {γ : Type} {c : κ} {g : ρ c → Call ρ ε α} {f : α → Call ρ ε γ} {x : Nat → η} {s : σ} {e : ε}
    (h : S.exec c (x 0) s = .error e) : S.complete ((Call.command c >>= g) >>= f) x s = (.error e, s) := by
  change S.complete (.perform c _) x s = _
  simp only [complete, h]
  rfl

/-- A call that returns has returned from its parts. -/
theorem complete_bind {call : Call ρ ε α} {f : α → Call ρ ε β} {x : Nat → η} {s s' : σ} {b : β}
    (h : S.complete (call >>= f) x s = (.ok b, s')) :
    ∃ a s₁ y, S.complete call x s = (.ok a, s₁) ∧ S.complete (f a) y s₁ = (.ok b, s') := by
  induction call generalizing x s with
  | done r =>
    cases r with
    | ok a => exact ⟨a, s, x, rfl, h⟩
    | error e => cases h
  | perform c k ih =>
    change S.complete (.perform c (fun r => k r >>= f)) x s = _ at h
    simp only [complete] at h ⊢
    cases he : S.exec c (x 0) s with
    | ok rs =>
      rw [he] at h
      exact ih _ h
    | error e =>
      rw [he] at h
      exact ih _ h
  | enter k ih => exact ih true h
  | leave k ih => exact ih h

theorem complete_command {c : κ} {x : Nat → η} {s s' : σ} {r : ρ c}
    (h : S.complete (Call.command c) x s = (.ok r, s')) :
    S.exec c (x 0) s = .ok (r, s') := by
  change S.complete (.perform c .done) x s = _ at h
  simp only [complete] at h
  cases he : S.exec c (x 0) s with
  | ok rs =>
    rw [he] at h
    cases h
    rfl
  | error e =>
    rw [he] at h
    cases h

end Store

end Noyra.Lib
