import Mathlib.Algebra.BigOperators.Group.List.Basic
import Mathlib.Algebra.Group.Basic
import Mathlib.Tactic.Abel
import SexySelfies.Runs

/-!
# Programs of atomic operations, alone and interleaved

An asynchronous request handler performs atomic operations on a shared store and does pure
computation in between. `Proc Res ρ` is the free program over operations; `exec` is their meaning.

- **alone** - `run` to the end, or as a `Solo` machine that shows every state in between, may stop
  a program anywhere, and lets others write to parts of the store;
- **interleaved** - a `Pool` of programs over one store, run by any list of labels "a request
  starts its handler" and "thread `i` performs its next operation".

Two predicates carry the proofs, relative to a *rely* `R` (what others may do to the store) and a
condition `G` on the operations: `Keeps`, that every operation satisfies `Q` (and `Leads`, which
also says how it ends), and `Moves φ x`, that the program changes the quantity `φ` by `x` in total.
-/

namespace Interleave

open Runs List

/-! ## Programs -/

/-- A program of atomic operations, ending in an answer. -/
inductive Proc {Op : Type} (Res : Op → Type) (ρ : Type) where
  | ret (r : ρ)
  | call (o : Op) (k : Res o → Proc Res ρ)

variable {σ Op ι ρ τ : Type} {Res : Op → Type}

def Proc.bind : Proc Res ρ → (ρ → Proc Res τ) → Proc Res τ
  | .ret r, f => f r
  | .call o k, f => .call o fun x => (k x).bind f

instance : Monad (Proc Res) where
  pure := .ret
  bind := .bind

def perform (o : Op) : Proc Res (Res o) := .call o .ret

variable {r : ρ}

@[simp] theorem pure_eq_ret : (pure r : Proc Res ρ) = .ret r := rfl

variable {f : ρ → Proc Res τ}

@[simp] theorem ret_bind : (Proc.ret r : Proc Res ρ) >>= f = f r := rfl

variable {o : Op} {k : Res o → Proc Res ρ}

@[simp] theorem call_bind : Proc.call o k >>= f = .call o fun x => k x >>= f := rfl

@[simp] theorem perform_bind (f : Res o → Proc Res τ) :
    (perform o : Proc Res (Res o)) >>= f = .call o f := rfl

def Proc.done : Proc Res ρ → Bool
  | .ret _ => true
  | .call _ _ => false

/-! ## A program alone -/

def Proc.run (exec : (o : Op) → σ → σ × Res o) : Proc Res ρ → σ → σ × ρ
  | .ret r, s => (s, r)
  | .call o k, s => (k (exec o s).2).run exec (exec o s).1

variable {exec : (o : Op) → σ → σ × Res o} {s : σ}

@[simp] theorem run_ret : (Proc.ret r : Proc Res ρ).run exec s = (s, r) := rfl

@[simp] theorem run_call :
    (Proc.call o k).run exec s = (k (exec o s).2).run exec (exec o s).1 := rfl

theorem run_bind (p : Proc Res ρ)
    (s : σ) : (p >>= f).run exec s = (f (p.run exec s).2).run exec (p.run exec s).1 := by
  induction p generalizing s with
  | ret => rfl
  | call o k ih => exact ih (exec o s).2 (exec o s).1

/-- Whatever its operations result in, the program's answer satisfies `P`. -/
def Proc.Answers (P : ρ → Prop) : Proc Res ρ → Prop
  | .ret r => P r
  | .call _ k => ∀ x, (k x).Answers P

variable {P : ρ → Prop} {o : Op}

theorem answers_perform {f : Res o → Proc Res ρ} (h : ∀ x, (f x).Answers P) :
    (perform o >>= f).Answers P := h

theorem answers_ite {c : Prop} [Decidable c] {p q : Proc Res ρ} (hp : c → p.Answers P)
    (hq : ¬c → q.Answers P) : (if c then p else q).Answers P :=
  iteInduction (motive := fun p : Proc Res ρ => p.Answers P) hp hq

variable {p : Proc Res ρ}

theorem run_answers (h : p.Answers P) (s : σ) : P (p.run exec s).2 := by
  induction p generalizing s with
  | ret => exact h
  | call o k ih => exact ih (exec o s).2 (h (exec o s).2) (exec o s).1

/-! ## Rely and guarantee -/

section

variable (exec : (o : Op) → σ → σ × Res o) (R : σ → σ → Prop) (G : σ → Op → Prop)

/-- Started in `s`, whatever the others do within `R` in between, and as long as its operations
meet `G`, the program only performs operations that satisfy `Q`. -/
def Keeps (Q : σ → Op → Prop) : σ → Proc Res ρ → Prop
  | _, .ret _ => True
  | s, .call o k => ∀ s', R s s' → G s' o →
      Q s' o ∧ Keeps Q (exec o s').1 (k (exec o s').2)

/-- Started in `s`, under the same assumptions, the program's own
operations change `φ` by `x` in total by the time it has answered. -/
def Moves {M : Type} [AddCommGroup M] (φ : σ → M) : M → σ → Proc Res ρ → Prop
  | x, _, .ret _ => x = 0
  | x, s, .call o k => ∀ s', R s s' → G s' o →
      Moves φ (x - (φ (exec o s').1 - φ s')) (exec o s').1 (k (exec o s').2)

variable {exec R G}

theorem Keeps.mono {Q : σ → Op → Prop} (htr : ∀ a b c, R a b → R b c → R a c) {s s' : σ}
    (hR : R s s') (h : Keeps exec R G Q s p) : Keeps exec R G Q s' p := by
  cases p with
  | ret => trivial
  | call =>
    intro t hst hG
    exact h t (htr _ _ _ hR hst) hG

theorem Moves.mono {M : Type} [AddCommGroup M] {φ : σ → M} {x : M}
    (htr : ∀ a b c, R a b → R b c → R a c) {s s' : σ} (hR : R s s')
    (h : Moves exec R G φ x s p) : Moves exec R G φ x s' p := by
  cases p with
  | ret => exact h
  | call =>
    intro t hst hG
    exact h t (htr _ _ _ hR hst) hG

theorem keeps_perform {Q : σ → Op → Prop} {s : σ} {f : Res o → Proc Res ρ}
    (h : ∀ s', R s s' → G s' o → Q s' o ∧ Keeps exec R G Q (exec o s').1 (f (exec o s').2)) :
    Keeps exec R G Q s (perform o >>= f) := h

theorem keeps_perform_of {P : Op → Prop} {s : σ} {f : Res o → Proc Res ρ} (ho : P o)
    (h : ∀ s' x, Keeps exec R G (fun _ o => P o) s' (f x)) :
    Keeps exec R G (fun _ o => P o) s (perform o >>= f) := fun _ _ _ => ⟨ho, h _ _⟩

theorem keeps_ite {Q : σ → Op → Prop} {s : σ} {c : Prop} [Decidable c] {q : Proc Res ρ}
    (hp : c → Keeps exec R G Q s p) (hq : ¬c → Keeps exec R G Q s q) :
    Keeps exec R G Q s (if c then p else q) :=
  iteInduction (motive := fun p => Keeps exec R G Q s p) hp hq

theorem keeps_guard {Q : σ → Op → Prop} {s : σ} {c : Prop} [Decidable c] {r : ρ}
    (h : ¬c → Keeps exec R G Q s p) : Keeps exec R G Q s (if c then .ret r else p) :=
  keeps_ite (fun _ => trivial) h

theorem keeps_bind {Q : σ → Op → Prop} {f : ρ → Proc Res τ} (hf : ∀ s r, Keeps exec R G Q s (f r))
    {s : σ} (h : Keeps exec R G Q s p) : Keeps exec R G Q s (p >>= f) := by
  induction p generalizing s with
  | ret r => exact hf s r
  | call o k ih =>
    intro s' hR hG
    obtain ⟨hQ, hk⟩ := h s' hR hG
    exact ⟨hQ, ih _ hk⟩

/-- `Keeps`, and the program answers in a state and with an answer that
satisfy `P`. -/
def Leads (exec : (o : Op) → σ → σ × Res o) (R : σ → σ → Prop) (G Q : σ → Op → Prop)
    (P : σ → ρ → Prop) : σ → Proc Res ρ → Prop
  | s, .ret r => P s r
  | s, .call o k => ∀ s', R s s' → G s' o →
      Q s' o ∧ Leads exec R G Q P (exec o s').1 (k (exec o s').2)

theorem leads_bind {Q : σ → Op → Prop} {P : σ → ρ → Prop} {P' : σ → τ → Prop} {f : ρ → Proc Res τ}
    (hf : ∀ s r, P s r → Leads exec R G Q P' s (f r)) {s : σ} (h : Leads exec R G Q P s p) :
    Leads exec R G Q P' s (p >>= f) := by
  induction p generalizing s with
  | ret r => exact hf s r h
  | call o k ih =>
    intro s' hR hG
    obtain ⟨hQ, hk⟩ := h s' hR hG
    exact ⟨hQ, ih _ hk⟩

theorem keeps_of_leads {Q : σ → Op → Prop} {P : σ → ρ → Prop} {s : σ} (h : Leads exec R G Q P s p) :
    Keeps exec R G Q s p := by
  induction p generalizing s with
  | ret => trivial
  | call o k ih =>
    intro s' hR hG
    obtain ⟨hQ, hk⟩ := h s' hR hG
    exact ⟨hQ, ih _ hk⟩

theorem Keeps.alone {Q : σ → Op → Prop} (hre : ∀ s, R s s) {s : σ} (h : Keeps exec R G Q s p) :
    Keeps exec Eq G Q s p := by
  induction p generalizing s with
  | ret => trivial
  | call o k ih =>
    rintro s' rfl hG
    obtain ⟨hQ, hk⟩ := h s (hre s) hG
    exact ⟨hQ, ih _ hk⟩

/-- What a program's operations preserve, when nobody else writes, holds when
it has answered. -/
theorem run_of_keeps {I : σ → Prop} {Q : σ → Op → Prop} (hop : ∀ s o, I s → Q s o → I (exec o s).1)
    {s : σ} (hs : I s) (h : Keeps exec Eq (fun _ _ => True) Q s p) : I (p.run exec s).1 := by
  induction p generalizing s with
  | ret => exact hs
  | call o k ih =>
    obtain ⟨hQ, hk⟩ := h s rfl trivial
    exact ih _ (hop s o hs hQ) hk

variable {M : Type} [AddCommGroup M] {φ : σ → M} {x y : M} {s : σ}

theorem moves_perform {f : Res o → Proc Res ρ}
    (hφ : ∀ s', R s s' → G s' o → φ (exec o s').1 = φ s' + y)
    (h : ∀ s', R s s' → G s' o → Moves exec R G φ (x - y) (exec o s').1 (f (exec o s').2)) :
    Moves exec R G φ x s (perform o >>= f) := by
  intro s' hR hG
  rw [hφ s' hR hG, add_sub_cancel_left]
  exact h s' hR hG

theorem moves_perform_of_eq {f : Res o → Proc Res ρ} (hφ : ∀ s', φ (exec o s').1 = φ s')
    (h : ∀ s', R s s' → G s' o → Moves exec R G φ x (exec o s').1 (f (exec o s').2)) :
    Moves exec R G φ x s (perform o >>= f) := by
  refine moves_perform (y := 0) (fun s' _ _ => ?_) fun s' hR hG => ?_
  · rw [hφ s', add_zero]
  · rw [sub_zero]
    exact h s' hR hG

theorem moves_ite {c : Prop} [Decidable c] {q : Proc Res ρ} (hp : c → Moves exec R G φ x s p)
    (hq : ¬c → Moves exec R G φ x s q) : Moves exec R G φ x s (if c then p else q) :=
  iteInduction (motive := fun p => Moves exec R G φ x s p) hp hq

theorem moves_of_keeps {Q : σ → Op → Prop} (hφ : ∀ s o, G s o → Q s o → φ (exec o s).1 = φ s)
    (h : Keeps exec R G Q s p) : Moves exec R G φ 0 s p := by
  induction p generalizing s with
  | ret => rfl
  | call o k ih =>
    intro s' hR hG
    obtain ⟨hQ, hk⟩ := h s' hR hG
    rw [hφ s' o hG hQ, sub_self, sub_zero]
    exact ih _ hk

theorem moves_bind {f : ρ → Proc Res τ} (hf : ∀ s r, Moves exec R G φ 0 s (f r))
    (h : Moves exec R G φ x s p) : Moves exec R G φ x s (p >>= f) := by
  induction p generalizing x s with
  | ret r =>
    obtain rfl := h
    exact hf s r
  | call o k ih =>
    intro s' hR hG
    exact ih _ (h s' hR hG)

end

/-! ## One program at a time -/

/-- A store and the one program running on it, if any. Starting a program
abandons what is left of the one before. -/
structure Solo {Op : Type} (Res : Op → Type) (ρ σ : Type) where
  store : σ
  current : Option (Proc Res ρ)

/-- What happens next: a handler starts, the running one performs its next
operation, or somebody else writes to the store. -/
inductive Turn (ι ε : Type) where
  | start (req : ι)
  | step
  | outside (e : ε)

def Solo.next {ε : Type} (exec : (o : Op) → σ → σ × Res o) (handler : ι → Proc Res ρ)
    (env : σ → ε → σ) (c : Solo Res ρ σ) : Turn ι ε → Solo Res ρ σ
  | .start req => { c with current := some (handler req) }
  | .step =>
    match c.current with
    | some (.call o k) =>
      { store := (exec o c.store).1, current := some (k (exec o c.store).2) }
    | _ => c
  | .outside e => { c with store := env c.store e }

/-- The operation the turn performs, if any, meets `Q`. -/
def Solo.Fires {ε : Type} (Q : σ → Op → Prop) (c : Solo Res ρ σ) : Turn ι ε → Prop
  | .step =>
    match c.current with
    | some (.call o _) => Q c.store o
    | _ => True
  | _ => True

variable {ε : Type} {exec : (o : Op) → σ → σ × Res o} {handler : ι → Proc Res ρ}
  {env : σ → ε → σ} {R : σ → σ → Prop} {Q : σ → Op → Prop} {I : σ → Prop} {c : Solo Res ρ σ}

theorem solo_next_store {T : σ → σ → Prop} (hre : ∀ s, T s s)
    (hop : ∀ s o, Q s o → T s (exec o s).1) (henv : ∀ s e, T s (env s e)) {t : Turn ι ε}
    (hQ : c.Fires Q t) : T c.store (c.next exec handler env t).store := by
  obtain ⟨s, p⟩ := c
  cases t with
  | start => exact hre s
  | step =>
    match p, hQ with
    | none, _ | some (.ret r), _ => exact hre s
    | some (.call o k), hQ => exact hop s o hQ
  | outside e => exact henv s e

variable {t : Turn ι ε}

theorem solo_fires_of_keeps (hre : ∀ s, R s s) (hI : I c.store)
    (hk : ∀ p ∈ c.current, Keeps exec R (fun s _ => I s) Q c.store p) : c.Fires Q t := by
  obtain ⟨s, p⟩ := c
  cases t with
  | start => trivial
  | step =>
    match p, hk with
    | none, _ | some (.ret r), _ => trivial
    | some (.call o k), hk => exact (hk _ rfl s (hre s) hI).1
  | outside => trivial

theorem solo_keeps_next (hre : ∀ s, R s s) (htr : ∀ a b c, R a b → R b c → R a c)
    (henv : ∀ s e, R s (env s e)) (hh : ∀ req s, Keeps exec R (fun s _ => I s) Q s (handler req))
    (hI : I c.store) (hk : ∀ p ∈ c.current, Keeps exec R (fun s _ => I s) Q c.store p) :
    ∀ p ∈ (c.next exec handler env t).current,
      Keeps exec R (fun s _ => I s) Q (c.next exec handler env t).store p := by
  obtain ⟨s, p⟩ := c
  intro q hq
  cases t with
  | start req =>
    cases hq
    exact hh req s
  | step =>
    match p, hk, hq with
    | none, _, hq => cases hq
    | some (.ret r), hk, hq => exact hk q hq
    | some (.call o k), hk, hq =>
      cases hq
      exact (hk _ rfl s (hre s) hI).2
  | outside e => exact (hk q hq).mono htr (henv s e)

/-- If every handler keeps `Q` against the writes from outside, then every operation of a run
meets `Q`. The handlers may count on an invariant `I`. -/
theorem solo_every_of_keeps (hre : ∀ s, R s s) (htr : ∀ a b c, R a b → R b c → R a c)
    (henv : ∀ s e, R s (env s e)) (hen : ∀ s e, I s → I (env s e))
    (hop : ∀ s o, I s → Q s o → I (exec o s).1)
    (hh : ∀ req s, Keeps exec R (fun s _ => I s) Q s (handler req)) {ts : List (Turn ι ε)}
    (hI : I c.store) (hk : ∀ p ∈ c.current, Keeps exec R (fun s _ => I s) Q c.store p) :
    Every (Solo.next exec handler env) (Solo.Fires Q) c ts := by
  induction ts generalizing c with
  | nil => trivial
  | cons t ts ih =>
    have hQ : c.Fires Q t := solo_fires_of_keeps hre hI hk
    have hsto : I c.store → I (c.next exec handler env t).store :=
      solo_next_store (T := fun s s' => I s → I s') (fun _ h => h)
        (fun s o hQ h => hop s o h hQ) (fun s e h => hen s e h) hQ
    exact ⟨hQ, ih (hsto hI) (solo_keeps_next hre htr henv hh hI hk)⟩

/-! ## Pools -/

/-- A store and the programs running on it; a finished one stays listed. -/
structure Pool {Op : Type} (Res : Op → Type) (ρ σ : Type) where
  store : σ
  threads : List (Proc Res ρ)

inductive Label (ι : Type) where
  | start (req : ι)
  | step (i : Nat)
deriving DecidableEq

/-- Requests one after another, each with the number of its operations. -/
def oneByOne (reqs : List (ι × Nat)) : List (Label ι) :=
  reqs.zipIdx.flatMap fun x => .start x.1.1 :: List.replicate x.1.2 (.step x.2)

/-- The operation thread `i` is about to perform. -/
def Pool.pending (c : Pool Res ρ σ) (i : Nat) : Option Op :=
  match c.threads[i]? with
  | some (.call o _) => some o
  | _ => none

def Pool.next (exec : (o : Op) → σ → σ × Res o) (handler : ι → Proc Res ρ)
    (c : Pool Res ρ σ) : Label ι → Pool Res ρ σ
  | .start req => { c with threads := c.threads ++ [handler req] }
  | .step i =>
    match c.threads[i]? with
    | some (.call o k) =>
      { store := (exec o c.store).1
        threads := c.threads.set i (k (exec o c.store).2) }
    | _ => c

/-- No thread is in flight. -/
def Pool.Idle (c : Pool Res ρ σ) : Prop := ∀ p ∈ c.threads, p.done = true

instance (c : Pool Res ρ σ) : Decidable c.Idle :=
  inferInstanceAs (Decidable (∀ p ∈ c.threads, p.done = true))

/-- The operation a label performs, if any, meets `G` in the current store. -/
def Fires (G : σ → Op → Prop) (c : Pool Res ρ σ) : Label ι → Prop
  | .start _ => True
  | .step i =>
    match c.pending i with
    | some o => G c.store o
    | none => True

instance {G : σ → Op → Prop} [∀ s o, Decidable (G s o)] (c : Pool Res ρ σ) :
    ∀ l : Label ι, Decidable (Fires G c l)
  | .start _ => .isTrue trivial
  | .step i =>
    match h : c.pending i with
    | none => .isTrue (by simp only [Fires, h])
    | some o => decidable_of_iff (G c.store o) (by simp only [Fires, h])

section

variable {G : σ → Op → Prop} {c : Pool Res ρ σ}

theorem fires_step_iff {i : Nat} {k : Res o → Proc Res ρ} (hi : c.threads[i]? = some (.call o k)) :
    Fires G c (.step i : Label ι) ↔ G c.store o := by simp only [Fires, Pool.pending, hi]

theorem fires_of_forall (h : ∀ s o, G s o) (l : Label ι) : Fires G c l := by
  cases l with
  | start => trivial
  | step i =>
    cases hp : c.pending i with
    | none => simp only [Fires, hp]
    | some o =>
      simp only [Fires, hp]
      exact h c.store o

variable {l : Label ι}

theorem fires_and (hG : Fires G c l) (hQ : Fires Q c l) : Fires (fun s o => G s o ∧ Q s o) c l := by
  cases l with
  | start => trivial
  | step i =>
    cases hp : c.pending i with
    | none => simp only [Fires, hp]
    | some =>
      simp only [Fires, hp] at hG hQ ⊢
      exact ⟨hG, hQ⟩

variable {ls : List (Label ι)}

theorem every_fires_of_forall (h : ∀ s o, G s o) :
    Every (Pool.next exec handler) (Fires G) c ls := by
  induction ls generalizing c with
  | nil => trivial
  | cons l ls ih => exact ⟨fires_of_forall h l, ih⟩

theorem every_fires_true : Every (Pool.next exec handler) (Fires fun _ _ => True) c ls :=
  every_fires_of_forall fun _ _ => trivial

theorem next_step {i : Nat} {k : Res o → Proc Res ρ} (hi : c.threads[i]? = some (.call o k)) :
    c.next exec handler (.step i)
      = { store := (exec o c.store).1, threads := c.threads.set i (k (exec o c.store).2) } := by
  simp only [Pool.next, hi]

/-- What one label can do: nothing, start a handler, or perform the pending
operation of one thread. -/
theorem next_cases (exec : (o : Op) → σ → σ × Res o) (handler : ι → Proc Res ρ)
    (c : Pool Res ρ σ) (l : Label ι) :
    (∃ i, l = .step i ∧ c.pending i = none ∧ c.next exec handler l = c)
    ∨ (∃ req, l = .start req ∧
      c.next exec handler l = { c with threads := c.threads ++ [handler req] })
    ∨ (∃ i o k, l = .step i ∧ c.threads[i]? = some (.call o k) ∧ c.next exec handler l =
        { store := (exec o c.store).1, threads := c.threads.set i (k (exec o c.store).2) }) := by
  cases l with
  | start req => exact .inr (.inl ⟨req, rfl, rfl⟩)
  | step i =>
    cases hi : c.threads[i]? with
    | none =>
      refine .inl ⟨i, rfl, ?_, ?_⟩
      · simp only [Pool.pending, hi]
      · simp only [Pool.next, hi]
    | some p =>
      cases p with
      | ret =>
        refine .inl ⟨i, rfl, ?_, ?_⟩
        · simp only [Pool.pending, hi]
        · simp only [Pool.next, hi]
      | call o k => exact .inr (.inr ⟨i, o, k, rfl, hi, next_step hi⟩)

theorem next_store_of_fires (hop : ∀ s o, I s → G s o → I (exec o s).1) (c : Pool Res ρ σ)
    (l : Label ι) (hI : I c.store) (hG : Fires G c l) : I (c.next exec handler l).store := by
  rcases next_cases exec handler c l with
    ⟨i, -, -, heq⟩ | ⟨req, -, heq⟩ | ⟨i, o, k, rfl, hi, heq⟩
  · rw [heq]; exact hI
  · rw [heq]; exact hI
  · rw [heq]
    exact hop c.store o hI ((fires_step_iff hi).mp hG)

theorem always_store_of_fires (hop : ∀ s o, I s → G s o → I (exec o s).1) (hI : I c.store)
    (h : Every (Pool.next exec handler) (Fires G) c ls) :
    Always (Pool.next exec handler) (fun c => I c.store) c ls :=
  always_of_every (next_store_of_fires hop) hI h

theorem every_fires_within (hop : ∀ s o, I s → G s o → I (exec o s).1) (hI : I c.store)
    (h : Every (Pool.next exec handler) (Fires G) c ls) :
    Every (Pool.next exec handler) (Fires fun s o => I s ∧ G s o) c ls := by
  induction ls generalizing c with
  | nil => trivial
  | cons l ls ih =>
    obtain ⟨hG, hr⟩ := h
    refine ⟨?_, ih (next_store_of_fires hop c l hI hG) hr⟩
    cases l with
    | start => trivial
    | step i =>
      cases hp : c.pending i with
      | none => simp only [Fires, hp]
      | some =>
        simp only [Fires, hp] at hG ⊢
        exact ⟨hI, hG⟩

/-- A store property that an operation preserves exactly when it meets `G`
holds throughout a run exactly when all its operations meet `G`. -/
theorem always_store_iff_fires (hop : ∀ s o, I s → (I (exec o s).1 ↔ G s o)) (hI : I c.store) :
    Always (Pool.next exec handler) (fun c => I c.store) c ls ↔
      Every (Pool.next exec handler) (Fires G) c ls := by
  refine always_iff_every (fun c l hc => ?_) hI
  rcases next_cases exec handler c l with
    ⟨i, rfl, hp, heq⟩ | ⟨req, rfl, heq⟩ | ⟨i, o, k, rfl, hi, heq⟩
  · rw [heq]
    simp only [Fires, hp]
    exact ⟨fun _ => trivial, fun _ => hc⟩
  · rw [heq]
    exact ⟨fun _ => trivial, fun _ => hc⟩
  · rw [heq, fires_step_iff hi]
    exact hop c.store o hc

theorem next_rely (hre : ∀ s, R s s) (hR : ∀ s o, G s o → Q s o → R s (exec o s).1)
    (hG : Fires G c l) (hQ : Fires Q c l) : R c.store (c.next exec handler l).store := by
  rcases next_cases exec handler c l with
    ⟨i, -, -, heq⟩ | ⟨req, -, heq⟩ | ⟨i, o, k, rfl, hi, heq⟩
  · rw [heq]; exact hre _
  · rw [heq]; exact hre _
  · rw [heq]
    exact hR _ _ ((fires_step_iff hi).mp hG) ((fires_step_iff hi).mp hQ)

theorem fires_of_keeps (handler : ι → Proc Res ρ) (hre : ∀ s, R s s)
    (hc : ∀ p ∈ c.threads, Keeps exec R G Q c.store p) (hG : Fires G c l) : Fires Q c l := by
  rcases next_cases exec handler c l with
    ⟨i, rfl, hp, -⟩ | ⟨req, rfl, -⟩ | ⟨i, o, k, rfl, hi, -⟩
  · simp only [Fires, hp]
  · trivial
  · have hke := hc _ (mem_of_getElem? hi)
    have hGo : G c.store o := (fires_step_iff hi).mp hG
    exact (fires_step_iff hi).mpr (hke c.store (hre _) hGo).1

/-- After a label every thread still keeps `Q`: the one that has moved by what
it kept, a new one as a handler, the others within the rely. -/
theorem keeps_next (hre : ∀ s, R s s) (htr : ∀ a b c, R a b → R b c → R a c)
    (hR : ∀ s o, G s o → Q s o → R s (exec o s).1) (hh : ∀ req s, Keeps exec R G Q s (handler req))
    (hc : ∀ p ∈ c.threads, Keeps exec R G Q c.store p) (hG : Fires G c l) :
    ∀ p ∈ (c.next exec handler l).threads, Keeps exec R G Q (c.next exec handler l).store p := by
  have hrel : R c.store (c.next exec handler l).store :=
    next_rely hre hR hG (fires_of_keeps handler hre hc hG)
  intro p hp
  rcases next_cases exec handler c l with
    ⟨i, -, -, heq⟩ | ⟨req, -, heq⟩ | ⟨i, o, k, rfl, hi, heq⟩
  · rw [heq] at hp ⊢
    exact hc p hp
  · rw [heq] at hp ⊢
    rcases mem_append.mp hp with hp | hp
    · exact hc p hp
    · obtain rfl := mem_singleton.mp hp
      exact hh req c.store
  · rw [heq] at hp hrel ⊢
    rcases mem_or_eq_of_mem_set hp with hp | rfl
    · exact (hc p hp).mono htr hrel
    · have hke := hc _ (mem_of_getElem? hi)
      have hGo : G c.store o := (fires_step_iff hi).mp hG
      exact (hke c.store (hre _) hGo).2

/-- **The guarantee rule.** If every handler keeps `Q` under the rely, and operations meeting `G`
and `Q` stay within it, then operations that meet `G` also meet `Q`. -/
theorem every_of_keeps (hre : ∀ s, R s s) (htr : ∀ a b c, R a b → R b c → R a c)
    (hR : ∀ s o, G s o → Q s o → R s (exec o s).1) (hh : ∀ req s, Keeps exec R G Q s (handler req))
    (hc : ∀ p ∈ c.threads, Keeps exec R G Q c.store p)
    (h : Every (Pool.next exec handler) (Fires G) c ls) :
    Every (Pool.next exec handler) (Fires Q) c ls := by
  induction ls generalizing c with
  | nil => trivial
  | cons l ls ih =>
    obtain ⟨hG, hr⟩ := h
    have hQ : Fires Q c l := fires_of_keeps handler hre hc hG
    exact ⟨hQ, ih (keeps_next hre htr hR hh hc hG) hr⟩

theorem every_of_keeps_true {s : σ}
    (hh : ∀ req s, Keeps exec (fun _ _ => True) (fun _ _ => True) Q s (handler req)) :
    Every (Pool.next exec handler) (Fires Q) ⟨s, []⟩ ls :=
  every_of_keeps (fun _ => trivial) (fun _ _ _ _ _ => trivial) (fun _ _ _ _ => trivial) hh nofun
    every_fires_true

variable {j : Nat}

/-- A label leaves alone what it does not step: a thread that has answered, and
every other thread. -/
theorem next_threads_of_ne (hj : c.threads[j]? = some p) (hne : l ≠ .step j ∨ p.done) :
    (c.next exec handler l).threads[j]? = some p := by
  rcases next_cases exec handler c l with
    ⟨i, -, -, heq⟩ | ⟨req, -, heq⟩ | ⟨i, o, k, rfl, hi, heq⟩
  · rw [heq]; exact hj
  · rw [heq]
    exact (List.getElem?_append_left (List.getElem?_eq_some_iff.mp hj).1).trans hj
  · have hij : i ≠ j := by
      rintro rfl
      obtain rfl := Option.mem_unique hi hj
      rcases hne with hne | hdo
      · exact hne rfl
      · cases hdo
    rw [heq]
    exact (getElem?_set_ne hij).trans hj

theorem final_threads_of_done (hj : c.threads[j]? = some p) (hp : p.done)
    (ls : List (Label ι)) : (final (Pool.next exec handler) c ls).threads[j]? = some p := by
  induction ls generalizing c with
  | nil => exact hj
  | cons l ls ih => exact ih (next_threads_of_ne hj (.inr hp))

/-- A thread whose next operation, while `I` holds, makes it answer `r` has answered `r` once it
is stepped in a run throughout which `I` holds. -/
theorem answered_of_step {k : Res o → Proc Res ρ} {r : ρ} (hk : ∀ s, I s → k (exec o s).2 = .ret r)
    (hj : c.threads[j]? = some (.call o k))
    (hI : Always (Pool.next exec handler) (fun c => I c.store) c ls) (hs : .step j ∈ ls) :
    (final (Pool.next exec handler) c ls).threads[j]? = some (.ret r) := by
  induction ls generalizing c with
  | nil => cases hs
  | cons l ls ih =>
    obtain ⟨hIc, hr⟩ := hI
    by_cases hl : l = .step j
    · have hnow : (c.next exec handler l).threads[j]? = some (.ret r) := by
        rw [hl, next_step hj, hk c.store hIc]
        exact List.getElem?_set_self (List.getElem?_eq_some_iff.mp hj).1
      exact final_threads_of_done hnow rfl ls
    · have hmem : .step j ∈ ls := (List.mem_cons.mp hs).resolve_left fun h => hl h.symm
      exact ih (next_threads_of_ne hj (.inl hl)) hr hmem

end

/-! ## Moving a quantity -/

section

variable {M : Type} [AddCommGroup M] {xs : List M}

/-- Replace one entry of a list that is matched, entry by entry, with
summands: the sum changes by what the entry's summand changes by. -/
theorem forall₂_set_sum {α : Type} {P P' : M → α → Prop} (hP : ∀ x a, P x a → P' x a) {as : List α}
    (h : List.Forall₂ P xs as) {i : Nat} {a : α} (ha : as[i]? = some a) :
    ∃ x, P x a ∧ ∀ {y : M} {b : α}, P' y b →
      ∃ ys, List.Forall₂ P' ys (as.set i b) ∧ ys.sum = xs.sum - x + y := by
  induction h generalizing i with
  | nil => cases ha
  | @cons x b xs as hx hr ih =>
    cases i with
    | zero =>
      obtain rfl : b = a := by simpa using ha
      refine ⟨x, hx, fun {y c} hy => ⟨y :: xs, .cons hy (hr.imp hP), ?_⟩⟩
      simp only [sum_cons]
      abel
    | succ i =>
      have ha' : as[i]? = some a := by simpa using ha
      obtain ⟨z, hz, hset⟩ := ih ha'
      refine ⟨z, hz, fun {y c} hy => ?_⟩
      obtain ⟨ys, hys, hsum⟩ := hset hy
      refine ⟨x :: ys, .cons (hP _ _ hx) hys, ?_⟩
      simp only [sum_cons, hsum]
      abel

variable {G : σ → Op → Prop} {φ : σ → M}

/-- Every thread of the pool still has to move `φ` by its entry of `xs`. -/
def Debts (exec : (o : Op) → σ → σ × Res o) (R : σ → σ → Prop) (G : σ → Op → Prop)
    (φ : σ → M) (c : Pool Res ρ σ) (xs : List M) : Prop :=
  List.Forall₂ (fun x p => Moves exec R G φ x c.store p) xs c.threads

variable {c : Pool Res ρ σ}

/-- One label trades what `φ` moves for what is left to move. -/
theorem debts_next (hre : ∀ s, R s s) (htr : ∀ a b c, R a b → R b c → R a c)
    (hR : ∀ s o, G s o → R s (exec o s).1) (hh : ∀ req s, Moves exec R G φ 0 s (handler req))
    {l : Label ι} (hG : Fires G c l) (hd : Debts exec R G φ c xs) :
    ∃ ys, Debts exec R G φ (c.next exec handler l) ys
      ∧ φ (c.next exec handler l).store + ys.sum = φ c.store + xs.sum := by
  rcases next_cases exec handler c l with
    ⟨i, -, -, heq⟩ | ⟨req, -, heq⟩ | ⟨i, o, k, rfl, hi, heq⟩
  · rw [heq]; exact ⟨xs, hd, rfl⟩
  · rw [heq]
    refine ⟨xs ++ [0], ?_, by simp⟩
    exact rel_append hd (.cons (hh req c.store) .nil)
  · rw [heq]
    have hGo : G c.store o := (fires_step_iff hi).mp hG
    have hmo : ∀ x (p : Proc Res ρ), Moves exec R G φ x c.store p →
        Moves exec R G φ x (exec o c.store).1 p := fun x p h => h.mono htr (hR _ _ hGo)
    obtain ⟨x, hx, hset⟩ := forall₂_set_sum hmo hd hi
    obtain ⟨ys, hys, hsum⟩ := hset (hx c.store (hre _) hGo)
    refine ⟨ys, hys, ?_⟩
    rw [hsum]
    abel

theorem debts_final (hre : ∀ s, R s s) (htr : ∀ a b c, R a b → R b c → R a c)
    (hR : ∀ s o, G s o → R s (exec o s).1) (hh : ∀ req s, Moves exec R G φ 0 s (handler req))
    {ls : List (Label ι)} (h : Every (Pool.next exec handler) (Fires G) c ls)
    (hd : Debts exec R G φ c xs) : ∃ ys, Debts exec R G φ (final (Pool.next exec handler) c ls) ys
      ∧ φ (final (Pool.next exec handler) c ls).store + ys.sum = φ c.store + xs.sum := by
  induction ls generalizing c xs with
  | nil => exact ⟨xs, hd, rfl⟩
  | cons l ls ih =>
    obtain ⟨hG, hr⟩ := h
    obtain ⟨ys, hys, hsum⟩ := debts_next hre htr hR hh hG hd
    obtain ⟨zs, hzs, hsum'⟩ := ih hr hys
    exact ⟨zs, hzs, hsum'.trans hsum⟩

theorem debts_sum_of_idle (hd : Debts exec R G φ c xs) (hid : c.Idle) : xs.sum = 0 := by
  obtain ⟨s, ps⟩ := c
  change List.Forall₂ _ xs ps at hd
  induction hd with
  | nil => rfl
  | @cons x p xs ps hx hr ih =>
    have hx0 : x = 0 := by
      have hdo := hid p (mem_cons_self ..)
      cases p with
      | ret => exact hx
      | call => simp [Proc.done] at hdo
    rw [sum_cons, hx0, zero_add]
    exact ih fun q hq => hid q (mem_cons_of_mem _ hq)

/-- **The neutrality rule.** If every handler moves `φ` by nothing, then `φ` is what it was at the
start whenever no thread is in flight. -/
theorem idle_of_moves (hre : ∀ s, R s s) (htr : ∀ a b c, R a b → R b c → R a c)
    (hR : ∀ s o, G s o → R s (exec o s).1) (hh : ∀ req s, Moves exec R G φ 0 s (handler req))
    {ls : List (Label ι)} {s : σ} (h : Every (Pool.next exec handler) (Fires G) ⟨s, []⟩ ls)
    (hid : (final (Pool.next exec handler) ⟨s, []⟩ ls).Idle) :
    φ (final (Pool.next exec handler) ⟨s, []⟩ ls).store = φ s := by
  have hnil : Debts exec R G φ (⟨s, []⟩ : Pool Res ρ σ) [] := .nil
  obtain ⟨ys, hys, hsum⟩ := debts_final hre htr hR hh h hnil
  rw [debts_sum_of_idle hys hid] at hsum
  simpa using hsum

end

end Interleave
