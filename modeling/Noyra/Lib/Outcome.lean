import Mathlib.Logic.Basic

/-!
# Fallible computations

A raised exception ends a transaction, so a successful one is read back as the conjunction of
the successes of its parts.
-/

namespace Noyra.Lib

variable {ε α β : Type}

/-- Raise `e` when the condition holds. -/
def raiseIf (c : Prop) [Decidable c] (e : ε) : Except ε Unit := if c then .error e else .ok ()

@[simp] theorem raiseIf_eq_ok {c : Prop} [Decidable c] {e : ε} {u : Unit} :
    raiseIf c e = .ok u ↔ ¬c := by
  unfold raiseIf
  split <;> simp_all

theorem raiseIf_neg {c : Prop} [Decidable c] {e : ε} (h : ¬c) : raiseIf c e = .ok () := by
  simp [h]

/-- A missing row is an exception. -/
def orRaise (x : Option α) (e : ε) : Except ε α :=
  match x with
  | some a => .ok a
  | none => .error e

@[simp] theorem orRaise_eq_ok {x : Option α} {e : ε} {a : α} : orRaise x e = .ok a ↔ x = some a := by
  cases x <;> simp [orRaise]

@[simp] theorem orRaise_some (a : α) (e : ε) : orRaise (some a) e = .ok a := rfl

theorem bind_eq_ok {x : Except ε α} {f : α → Except ε β} {b : β} :
    (x >>= f) = .ok b ↔ ∃ a, x = .ok a ∧ f a = .ok b := by
  cases x <;> simp [Bind.bind, Except.bind]

/-- A loop of checks passes when every check does. -/
theorem forM_eq_ok {l : List α} {f : α → Except ε PUnit} (h : ∀ a ∈ l, f a = .ok ⟨⟩) : l.forM f = .ok ⟨⟩ := by
  induction l with
  | nil => rfl
  | cons a l ih =>
    change (f a >>= fun _ => l.forM f) = .ok ⟨⟩
    rw [h a List.mem_cons_self]
    exact ih (fun x hx => h x (List.mem_cons_of_mem a hx))

/-- A loop of checks that passes has passed every check. -/
theorem of_forM_eq_ok {l : List α} {f : α → Except ε Unit} (h : l.forM f = .ok ()) : ∀ a ∈ l, f a = .ok () := by
  induction l with
  | nil => exact fun a ha => by cases ha
  | cons b l ih =>
    change (f b >>= fun _ => l.forM f) = .ok () at h
    obtain ⟨_, hb, hl⟩ := bind_eq_ok.mp h
    intro a ha
    rcases List.mem_cons.mp ha with rfl | ha
    · exact hb
    · exact ih hl a ha

/-- What every step of a loop that succeeds preserves holds after the loop. -/
theorem foldlM_preserves {σ : Type} {f : σ → α → Except ε σ} {P : σ → Prop} {l : List α} {s s' : σ}
    (hstep : ∀ a ∈ l, ∀ x y, P x → f x a = .ok y → P y) (h : l.foldlM f s = .ok s') (hs : P s) : P s' := by
  induction l generalizing s with
  | nil =>
    cases h
    exact hs
  | cons a l ih =>
    rw [List.foldlM_cons] at h
    obtain ⟨x, hx, h⟩ := bind_eq_ok.mp h
    exact ih (fun b hb => hstep b (List.mem_cons_of_mem a hb)) h (hstep a List.mem_cons_self s x hs hx)

/-- A loop that collects results succeeds when every step does. -/
theorem mapM_exists {l : List α} {f : α → Except ε β} (h : ∀ a ∈ l, ∃ b, f a = .ok b) : ∃ bs, l.mapM f = .ok bs := by
  induction l with
  | nil => exact ⟨[], rfl⟩
  | cons a l ih =>
    obtain ⟨b, hb⟩ := h a List.mem_cons_self
    obtain ⟨bs, hbs⟩ := ih (fun x hx => h x (List.mem_cons_of_mem a hx))
    refine ⟨b :: bs, ?_⟩
    rw [List.mapM_cons, hb]
    change (l.mapM f >>= fun rest => pure (b :: rest)) = _
    rw [hbs]
    rfl

/-- The collected results are those of the steps. -/
theorem mapM_eq_ok_cons {a : α} {l : List α} {f : α → Except ε β} {bs : List β} (h : (a :: l).mapM f = .ok bs) :
    ∃ b rest, f a = .ok b ∧ l.mapM f = .ok rest ∧ bs = b :: rest := by
  rw [List.mapM_cons] at h
  obtain ⟨b, hb, h⟩ := bind_eq_ok.mp h
  obtain ⟨rest, hrest, h⟩ := bind_eq_ok.mp h
  exact ⟨b, rest, hb, hrest, (Except.ok.inj h).symm⟩

theorem mem_of_mapM {l : List α} {f : α → Except ε β} {bs : List β} (h : l.mapM f = .ok bs) {b : β} :
    b ∈ bs ↔ ∃ a ∈ l, f a = .ok b := by
  induction l generalizing bs with
  | nil =>
    cases h
    simp
  | cons a l ih =>
    obtain ⟨b', rest, hb', hrest, rfl⟩ := mapM_eq_ok_cons h
    rw [List.mem_cons, ih hrest]
    constructor
    · rintro (rfl | ⟨x, hx, hb⟩)
      · exact ⟨a, List.mem_cons_self, hb'⟩
      · exact ⟨x, List.mem_cons_of_mem a hx, hb⟩
    · rintro ⟨x, hx, hb⟩
      rcases List.mem_cons.mp hx with rfl | hx
      · exact .inl (Except.ok.inj (hb.symm.trans hb'))
      · exact .inr ⟨x, hx, hb⟩

theorem of_mapM_eq_ok {l : List α} {f : α → Except ε β} {bs : List β} (h : l.mapM f = .ok bs) :
    ∀ a ∈ l, ∃ b, f a = .ok b := by
  induction l generalizing bs with
  | nil => exact fun a ha => by cases ha
  | cons a l ih =>
    obtain ⟨b, rest, hb, hrest, -⟩ := mapM_eq_ok_cons h
    intro x hx
    rcases List.mem_cons.mp hx with rfl | hx
    · exact ⟨b, hb⟩
    · exact ih hrest x hx

/-- What each step keeps of its argument, the results keep of the list. -/
theorem map_of_mapM {γ : Type} {l : List α} {f : α → Except ε β} {bs : List β} {g : α → γ} {k : β → γ}
    (hstep : ∀ a b, f a = .ok b → k b = g a) (h : l.mapM f = .ok bs) : bs.map k = l.map g := by
  induction l generalizing bs with
  | nil =>
    cases h
    rfl
  | cons a l ih =>
    obtain ⟨b, rest, hb, hrest, rfl⟩ := mapM_eq_ok_cons h
    rw [List.map_cons, List.map_cons, hstep a b hb, ih hrest]

/-- Whether a computation is refused can be seen by running it. -/
instance decidableRefused (r : Except ε α) : Decidable (∀ a, r ≠ .ok a) :=
  match r with
  | .ok a => .isFalse (fun h => h a rfl)
  | .error _ => .isTrue (fun _ h => by cases h)

@[simp] theorem ok_bind (a : α) (f : α → Except ε β) : (Except.ok a >>= f) = f a := rfl

@[simp] theorem error_bind (e : ε) (f : α → Except ε β) : (Except.error e >>= f) = .error e := rfl

end Noyra.Lib
