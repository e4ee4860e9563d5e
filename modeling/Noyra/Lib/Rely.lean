import Mathlib.Tactic.Lemma
import Noyra.Lib.Calls
import Noyra.Lib.Outcome

/-!
# Calls under interference

Between two commands of a call other calls may run. What they may do to the state is bounded by a relation, the rely;
each command keeps an invariant and stays within the same relation. A call proved against the rely keeps its promise
in every run.
-/

namespace Noyra.Lib

section
variable {ε α β : Type} {P : ε → Prop}

theorem mapError_eq_ok {ε' : Type} {g : ε → ε'} {r : Except ε α} {a : α} : r.mapError g = .ok a ↔ r = .ok a := by
  cases r with
  | ok b =>
    constructor
    · intro h
      cases h
      rfl
    · intro h
      cases h
      rfl
  | error e =>
    constructor
    · intro h
      cases h
    · intro h
      cases h

/-- Whatever is raised meets the condition. -/
def Raises (P : ε → Prop) (r : Except ε α) : Prop := ∀ e, r = .error e → P e

theorem raises_ok (a : α) : Raises P (.ok a) := fun _ h => by cases h

theorem raises_error {e : ε} (h : P e) : Raises P (.error e : Except ε α) := by
  intro e' he
  cases he
  exact h

theorem raises_raiseIf {c : Prop} [Decidable c] {e : ε} (h : P e) : Raises P (raiseIf c e) := by
  unfold raiseIf
  split
  · exact raises_error h
  · exact raises_ok ()

theorem raises_orRaise {x : Option α} {e : ε} (h : P e) : Raises P (orRaise x e) := by
  cases x with
  | none => exact raises_error h
  | some a => exact raises_ok a

theorem Raises.bind {r : Except ε α} {f : α → Except ε β} (hr : Raises P r) (hf : ∀ a, r = .ok a → Raises P (f a)) :
    Raises P (r >>= f) := by
  cases r with
  | ok a => exact hf a rfl
  | error e => exact raises_error (hr e rfl)

theorem Raises.mapError {ε' : Type} {P : ε' → Prop} {g : ε → ε'} {r : Except ε α} (h : Raises (fun e => P (g e)) r) :
    Raises P (r.mapError g) := by
  cases r with
  | ok a => exact raises_ok a
  | error e => exact raises_error (h e rfl)

theorem raises_forM {l : List α} {f : α → Except ε PUnit} (h : ∀ a, Raises P (f a)) : Raises P (l.forM f) := by
  induction l with
  | nil => exact raises_ok _
  | cons a l ih => exact (h a).bind (fun _ _ => ih)

theorem raises_foldlM {σ : Type} {f : σ → α → Except ε σ} (h : ∀ s a, Raises P (f s a)) {l : List α} {s : σ} :
    Raises P (l.foldlM f s) := by
  induction l generalizing s with
  | nil => exact raises_ok s
  | cons a l ih => exact (h s a).bind (fun _ _ => ih)

theorem raises_mapM {l : List α} {f : α → Except ε β} (h : ∀ a, Raises P (f a)) : Raises P (l.mapM f) := by
  induction l with
  | nil => exact raises_ok []
  | cons a l ih =>
    rw [List.mapM_cons]
    exact (h a).bind (fun b _ => ih.bind (fun bs _ => raises_ok _))

end

/-- What commands keep, and what they may change. -/
structure Contract (σ : Type) where
  inv : σ → Prop
  rely : σ → σ → Prop
  refl : ∀ s, rely s s
  trans : ∀ {s s' s''}, rely s s' → rely s' s'' → rely s s''

variable {σ η κ : Type} {ρ : κ → Type} {ε α β : Type}

/-- From `s` on, with interference, the call keeps the contract and ends as promised. -/
def Call.Given (S : Store σ η ρ ε) (K : Contract σ) (guard : κ → η → σ → Prop) (Q : Except ε α → σ → Prop) :
    Call ρ ε α → σ → Prop
  | .done r, s => ∀ s', K.rely s s' → Q r s'
  | .perform c k, s => ∀ s' x, K.rely s s' → K.inv s' → guard c x s' →
      (∀ r s'', S.exec c x s' = .ok (r, s'') → K.inv s'' ∧ K.rely s' s'' ∧ (k (.ok r)).Given S K guard Q s'') ∧
      ∀ e, S.exec c x s' = .error e → (k (.error e)).Given S K guard Q s'
  | .enter k, s => ∀ free, (k free).Given S K guard Q s
  | .leave k, s => k.Given S K guard Q s

namespace Call

variable {S : Store σ η ρ ε} {K : Contract σ} {guard : κ → η → σ → Prop} {s s' : σ}

/-- What others do does not break a promise. -/
theorem Given.stable {Q : Except ε α → σ → Prop} {call : Call ρ ε α} (h : call.Given S K guard Q s) (hs : K.rely s s') :
    call.Given S K guard Q s' := by
  induction call with
  | done r => exact fun s'' hs' => h s'' (K.trans hs hs')
  | perform c k ih => exact fun s'' x hs' => h s'' x (K.trans hs hs')
  | enter k ih => exact fun free => ih free (h free)
  | leave k ih => exact ih h

theorem Given.andThen {Q : Except ε β → σ → Prop} {call : Call ρ ε α} {f : Except ε α → Call ρ ε β}
    (h : call.Given S K guard (fun r s => (f r).Given S K guard Q s) s) : (call.andThen f).Given S K guard Q s := by
  induction call generalizing s with
  | done r => exact h s (K.refl s)
  | perform c k ih =>
    intro s' x hs hinv hguard
    obtain ⟨hok, herror⟩ := h s' x hs hinv hguard
    refine ⟨fun r s'' hexec => ?_, fun e hexec => ih _ (herror e hexec)⟩
    obtain ⟨hinv', hrely, hnext⟩ := hok r s'' hexec
    exact ⟨hinv', hrely, ih _ hnext⟩
  | enter k ih => exact fun free => ih free (h free)
  | leave k ih => exact ih h

theorem Given.mono {Q Q' : Except ε α → σ → Prop} {call : Call ρ ε α} (h : call.Given S K guard Q s)
    (hQ : ∀ r s', K.rely s s' → Q r s' → Q' r s') :
    call.Given S K guard Q' s := by
  induction call generalizing s with
  | done r => exact fun s' hs => hQ r s' hs (h s' hs)
  | perform c k ih =>
    intro s' x hs hinv hguard
    obtain ⟨hok, herror⟩ := h s' x hs hinv hguard
    refine ⟨fun r s'' hexec => ?_, fun e hexec => ih _ (herror e hexec) (fun r s'' hs' => hQ r s'' (K.trans hs hs'))⟩
    obtain ⟨hinv', hrely, hnext⟩ := hok r s'' hexec
    exact ⟨hinv', hrely, ih _ hnext (fun r s₃ hs' => hQ r s₃ (K.trans hs (K.trans hrely hs')))⟩
  | enter k ih => exact fun free => ih free (h free) hQ
  | leave k ih => exact ih h hQ

/-- The sequence rule: what the first part raises is raised. -/
theorem Given.bind {Q : Except ε β → σ → Prop} {call : Call ρ ε α} {f : α → Call ρ ε β}
    (h : call.Given S K guard (fun
      | .ok a, s => (f a).Given S K guard Q s
      | .error e, s => ∀ s', K.rely s s' → Q (.error e) s') s) : (call >>= f).Given S K guard Q s := by
  apply Given.andThen
  apply h.mono
  intro r s' _ hr
  cases r with
  | ok a => exact hr
  | error e => exact hr

theorem given_pure {Q : Except ε α → σ → Prop} {a : α} (h : ∀ s', K.rely s s' → Q (.ok a) s') :
    (pure a : Call ρ ε α).Given S K guard Q s := h

theorem given_check_bind {Q : Except ε β → σ → Prop} {r : Except ε α} {f : α → Call ρ ε β}
    (hok : ∀ a, r = .ok a → (f a).Given S K guard Q s)
    (herror : ∀ e, r = .error e → ∀ s', K.rely s s' → Q (.error e) s') : (check r >>= f).Given S K guard Q s := by
  cases r with
  | ok a => exact hok a rfl
  | error e => exact herror e rfl

/-- `for x in xs: body(x)`, carrying a value. -/
def loop (body : β → α → Call ρ ε β) : List α → β → Call ρ ε β
  | [], b => pure b
  | x :: xs, b => body b x >>= loop body xs

/-- The loop rule for what is raised. -/
theorem given_loop {P : ε → Prop} {body : β → α → Call ρ ε β} {s : σ}
    (hbody : ∀ b x s', K.rely s s' → (body b x).Given S K guard (fun r _ => Raises P r) s') (xs : List α) (b : β) :
    (loop body xs b).Given S K guard (fun r _ => Raises P r) s := by
  induction xs generalizing s b with
  | nil => exact fun s' _ => raises_ok b
  | cons x xs ih =>
    apply Given.bind
    refine (hbody b x s (K.refl s)).mono (fun r s' hs hr => ?_)
    cases r with
    | ok b' => exact ih (fun b'' x' s'' hs' => hbody b'' x' s'' (K.trans hs hs')) b'
    | error e => exact fun s'' _ => raises_error (hr e rfl)

end Call

namespace Store

variable {ι : Type} {S : Store σ η ρ ε} {K : Contract σ} {guard : κ → η → σ → Prop} {entry : ι → Call ρ ε Unit}
  {init : σ → Prop}
  {Q : Except ε Unit → σ → Prop}

/-- The run rule: where every call is proved against the rely, every state reached meets the invariant and every call
in progress still keeps its promise. -/
theorem given_of_reachable (hinit : ∀ s, init s → K.inv s) (hentry : ∀ p s, K.inv s → (entry p).Given S K guard Q s)
    {s : Running σ η ρ ε} (hs : (S.machine init entry).ReachableUnder (Guarded guard) s) :
    K.inv s.state ∧ ∀ call ∈ s.calls, call.Given S K guard Q s.state := by
  refine hs.invariant (I := fun s => K.inv s.state ∧ ∀ call ∈ s.calls, call.Given S K guard Q s.state) ?_ ?_
  · rintro s ⟨hi, hcalls, -⟩
    refine ⟨hinit _ hi, ?_⟩
    rw [hcalls]
    exact fun call hc => by cases hc
  · intro s m h hg
    have hset : ∀ i call s', K.rely s.state s' → call.Given S K guard Q s' →
        ∀ other ∈ s.calls.set i call, other.Given S K guard Q s' := by
      intro i call s' hrely hc other hother
      rcases List.mem_or_eq_of_mem_set hother with hmem | rfl
      · exact (h.2 other hmem).stable hrely
      · exact hc
    cases m with
    | start p =>
      refine ⟨h.1, fun call hc => ?_⟩
      rcases List.mem_append.mp hc with hmem | hnew
      · exact h.2 call hmem
      · rw [List.mem_singleton.mp hnew]
        exact hentry p s.state h.1
    | crash => exact ⟨h.1, fun call hc => by cases hc⟩
    | advance i x =>
      change K.inv (S.advance s i x).state ∧ ∀ call ∈ (S.advance s i x).calls, call.Given S K guard Q
        (S.advance s i x).state
      unfold advance
      cases hc : s.calls[i]? with
      | none => exact h
      | some call =>
        have hcall := h.2 call (List.mem_of_getElem? hc)
        cases call with
        | done r => exact h
        | perform c k =>
          have hguard : guard c x s.state := hg c x (by unfold pending; dsimp only; rw [hc])
          obtain ⟨hok, herror⟩ := hcall s.state x (K.refl _) h.1 hguard
          cases he : S.exec c x s.state with
          | error e =>
            simp only [he]
            exact ⟨h.1, hset i _ _ (K.refl _) (herror e he)⟩
          | ok rs =>
            simp only [he]
            obtain ⟨hinv, hrely, hnext⟩ := hok rs.1 rs.2 he
            exact ⟨hinv, hset i _ _ hrely hnext⟩
        | enter k =>
          dsimp only
          by_cases hn : s.holder = none
          · rw [if_pos hn]
            exact ⟨h.1, hset i _ _ (K.refl _) (hcall true)⟩
          · rw [if_neg hn]
            exact ⟨h.1, hset i _ _ (K.refl _) (hcall false)⟩
        | leave k => exact ⟨h.1, hset i _ _ (K.refl _) hcall⟩

end Store

end Noyra.Lib
