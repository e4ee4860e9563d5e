import Mathlib.Logic.Basic

/-!
# Interactive programs that may be stopped at any command

A program performs commands one at a time and goes on with their replies; it ends by returning or
by raising. `Safe` is its weakest precondition for a postcondition and a crash condition: the crash
condition holds after every command, whatever the environment does, so it holds wherever the
program is stopped.
-/

namespace Noyra.Lib

/-- Commands `κ` answered by replies `ρ`; the program returns an `α` or raises an `ε`. -/
inductive Program (κ ρ ε α : Type)
  | done (result : Except ε α)
  | perform (command : κ) (next : ρ → Program κ ρ ε α)

namespace Program

variable {κ ρ ε α β : Type}

/-- Go on however the program ends. -/
def andThen : Program κ ρ ε α → (Except ε α → Program κ ρ ε β) → Program κ ρ ε β
  | done r, f => f r
  | perform c k, f => perform c (fun x => (k x).andThen f)

def onReturn (f : α → Program κ ρ ε β) : Except ε α → Program κ ρ ε β
  | .ok a => f a
  | .error e => done (.error e)

instance : Monad (Program κ ρ ε) where
  pure a := done (.ok a)
  bind p f := p.andThen (onReturn f)

def raise (e : ε) : Program κ ρ ε α := done (.error e)

/-- `try: body except e: handler(e)`. -/
def tryExcept (body : Program κ ρ ε α) (handler : ε → Program κ ρ ε α) : Program κ ρ ε α :=
  body.andThen (fun
    | .ok a => done (.ok a)
    | .error e => handler e)

section
-- `exec c x s` is the state after the command `c` from `s`, with its reply; `x` is what the
-- environment chose.
variable {σ η : Type} (exec : κ → η → σ → σ × ρ) (crash : σ → Prop)

/-- The weakest precondition of a program for the postcondition `post`, with `crash` after every command. -/
def Safe (post : Except ε α → σ → Prop) : Program κ ρ ε α → σ → Prop
  | done r, s => post r s
  | perform c k, s => ∀ x, crash (exec c x s).1 ∧ Safe post (k (exec c x s).2) (exec c x s).1

variable {exec crash} {post post' : Except ε α → σ → Prop} {s : σ}

theorem Safe.mono {p : Program κ ρ ε α} (h : p.Safe exec crash post s) (hp : ∀ r s, post r s → post' r s) :
    p.Safe exec crash post' s := by
  induction p generalizing s with
  | done r => exact hp r s h
  | perform c k ih =>
    intro x
    exact ⟨(h x).1, ih _ (h x).2⟩

theorem safe_andThen {post : Except ε β → σ → Prop} {p : Program κ ρ ε α}
    {f : Except ε α → Program κ ρ ε β} :
    (p.andThen f).Safe exec crash post s ↔ p.Safe exec crash (fun r s => (f r).Safe exec crash post s) s := by
  induction p generalizing s with
  | done r => rfl
  | perform c k ih =>
    constructor
    · intro h x
      exact ⟨(h x).1, (ih _).mp (h x).2⟩
    · intro h x
      exact ⟨(h x).1, (ih _).mpr (h x).2⟩

/-- The sequence rule: what a program raises is raised by the sequence. -/
theorem Safe.bind {post : Except ε β → σ → Prop} {Q : Except ε α → σ → Prop} {p : Program κ ρ ε α}
    {f : α → Program κ ρ ε β} (hp : p.Safe exec crash Q s)
    (hok : ∀ a s, Q (.ok a) s → (f a).Safe exec crash post s)
    (herr : ∀ e s, Q (.error e) s → post (.error e) s) : (p >>= f).Safe exec crash post s := by
  refine safe_andThen.mpr (hp.mono ?_)
  rintro (e | a) s h
  · exact herr e s h
  · exact hok a s h

theorem Safe.tryExcept {Q : Except ε α → σ → Prop} {p : Program κ ρ ε α} {handler : ε → Program κ ρ ε α}
    (hp : p.Safe exec crash Q s) (hok : ∀ a s, Q (.ok a) s → post (.ok a) s)
    (herr : ∀ e s, Q (.error e) s → (handler e).Safe exec crash post s) :
    (p.tryExcept handler).Safe exec crash post s := by
  refine safe_andThen.mpr (hp.mono ?_)
  rintro (e | a) s h
  · exact herr e s h
  · exact hok a s h

variable (exec) in
/-- Run a program on what the environment chooses, a command at a time; it is stopped where the choices end. -/
def run : Program κ ρ ε α → List η → σ → σ × Option (Except ε α)
  | done r, _, s => (s, some r)
  | perform _ _, [], s => (s, none)
  | perform c k, x :: xs, s => run (k (exec c x s).2) xs (exec c x s).1

/-- A safe program run to its end meets its postcondition; stopped before, the crash condition. -/
theorem Safe.run {p : Program κ ρ ε α} (h : p.Safe exec crash post s) (hs : crash s) (choices : List η) :
    match p.run exec choices s with
    | (s', none) => crash s'
    | (s', some r) => post r s' := by
  induction p generalizing s choices with
  | done r => exact h
  | perform c k ih =>
    cases choices with
    | nil => exact hs
    | cons x xs => exact ih _ (h x).2 (h x).1 xs

end

end Program

end Noyra.Lib
