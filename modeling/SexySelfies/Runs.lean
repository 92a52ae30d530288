import Mathlib.Data.List.Basic
import Mathlib.Data.List.Destutter

/-!
# Finite runs of a step function

A component is a step function `σ → ι → σ`, and a finite run a list of inputs.

- `Every P` - each input, seen from the state it is taken in, satisfies `P` (a condition on what
  happens);
- `Always I` - each state passed through satisfies `I` (a property of what is reached).

The two headline rules turn a statement about one step into one about whole runs: `always_of_every`
and `always_iff_every`.
-/

namespace Runs

variable {σ ι : Type*} {step : σ → ι → σ}

def final (step : σ → ι → σ) (s : σ) (ls : List ι) : σ := ls.foldl step s

/-- Every input of the run satisfies `P` in the state it is taken in. -/
def Every (step : σ → ι → σ) (P : σ → ι → Prop) : σ → List ι → Prop
  | _, [] => True
  | s, l :: ls => P s l ∧ Every step P (step s l) ls

/-- Every state of the run, first and last included, satisfies `I`. -/
def Always (step : σ → ι → σ) (I : σ → Prop) : σ → List ι → Prop
  | s, [] => I s
  | s, l :: ls => I s ∧ Always step I (step s l) ls

instance decidableEvery {P : σ → ι → Prop} [∀ s l, Decidable (P s l)] :
    ∀ (s : σ) (ls : List ι), Decidable (Every step P s ls)
  | _, [] => .isTrue trivial
  | s, l :: ls => @instDecidableAnd _ _ inferInstance (decidableEvery (step s l) ls)

instance decidableAlways {I : σ → Prop} [∀ s, Decidable (I s)] :
    ∀ (s : σ) (ls : List ι), Decidable (Always step I s ls)
  | s, [] => inferInstanceAs (Decidable (I s))
  | s, l :: ls => @instDecidableAnd _ _ inferInstance (decidableAlways (step s l) ls)

variable {s : σ}

@[simp] theorem final_nil : final step s [] = s := rfl

@[simp] theorem final_cons (l : ι) (ls : List ι) :
    final step s (l :: ls) = final step (step s l) ls := rfl

theorem final_append (ls ms : List ι) : final step s (ls ++ ms) = final step (final step s ls) ms :=
  List.foldl_append

/-! ## Conditions on the steps -/

variable {P Q : σ → ι → Prop} {ls : List ι} {s : σ}

theorem Every.and (hP : Every step P s ls) (hQ : Every step Q s ls) :
    Every step (fun s l => P s l ∧ Q s l) s ls := by
  induction ls generalizing s with
  | nil => trivial
  | cons l ls ih =>
    obtain ⟨hPl, hPre⟩ := hP
    obtain ⟨hQl, hQre⟩ := hQ
    exact ⟨⟨hPl, hQl⟩, ih hPre hQre⟩

theorem every_mono (h : ∀ s l, P s l → Q s l) (hP : Every step P s ls) : Every step Q s ls := by
  induction ls generalizing s with
  | nil => trivial
  | cons l ls ih =>
    obtain ⟨hl, hr⟩ := hP
    exact ⟨h s l hl, ih hr⟩

theorem every_congr (h : ∀ s l, P s l ↔ Q s l) : Every step P s ls ↔ Every step Q s ls :=
  ⟨every_mono fun s l => (h s l).mp, every_mono fun s l => (h s l).mpr⟩

theorem every_of_forall {Q : ι → Prop} (h : ∀ l ∈ ls, Q l) : Every step (fun _ l => Q l) s ls := by
  induction ls generalizing s with
  | nil => trivial
  | cons l ls ih => exact ⟨h l List.mem_cons_self, ih fun k hk => h k (List.mem_cons_of_mem l hk)⟩

theorem every_iff_forall {Q : ι → Prop} : Every step (fun _ l => Q l) s ls ↔ ∀ l ∈ ls, Q l := by
  refine ⟨fun h => ?_, every_of_forall⟩
  induction ls generalizing s with
  | nil => exact nofun
  | cons l ls ih => exact List.forall_mem_cons.mpr ⟨h.1, ih h.2⟩

theorem Every.append {ms : List ι} :
    Every step P s (ls ++ ms) ↔ Every step P s ls ∧ Every step P (final step s ls) ms := by
  induction ls generalizing s with
  | nil => exact ⟨fun h => ⟨trivial, h⟩, And.right⟩
  | cons l ls ih => simp only [List.cons_append, Every, final_cons, ih, and_assoc]

theorem every_map {τ : Type*} {step' : τ → ι → τ} {f : σ → τ}
    (hf : ∀ s l, f (step s l) = step' (f s) l) {P : τ → ι → Prop} :
    Every step (fun s l => P (f s) l) s ls ↔ Every step' P (f s) ls := by
  induction ls generalizing s with
  | nil => rfl
  | cons l ls ih => rw [Every, Every, ih, hf]

/-! ## Properties of the states -/

variable {I J : σ → Prop}

theorem Always.head (h : Always step I s ls) : I s := by
  cases ls with
  | nil => exact h
  | cons => exact h.1

theorem always_mono (h : ∀ s, I s → J s) (hI : Always step I s ls) : Always step J s ls := by
  induction ls generalizing s with
  | nil => exact h s hI
  | cons l ls ih =>
    obtain ⟨hs, hr⟩ := hI
    exact ⟨h s hs, ih hr⟩

theorem Always.and (hI : Always step I s ls) (hJ : Always step J s ls) :
    Always step (fun s => I s ∧ J s) s ls := by
  induction ls generalizing s with
  | nil => exact ⟨hI, hJ⟩
  | cons l ls ih =>
    obtain ⟨hIs, hIre⟩ := hI
    obtain ⟨hJs, hJre⟩ := hJ
    exact ⟨⟨hIs, hJs⟩, ih hIre hJre⟩

theorem Always.last (h : Always step I s ls) : I (final step s ls) := by
  induction ls generalizing s with
  | nil => exact h
  | cons l ls ih => exact ih h.2

theorem Always.next (h : Always step I s ls) : Every step (fun s l => I (step s l)) s ls := by
  induction ls generalizing s with
  | nil => trivial
  | cons l ls ih => exact ⟨h.2.head, ih h.2⟩

theorem always_of_prefixes (h : ∀ ls' ms, ls = ls' ++ ms → I (final step s ls')) :
    Always step I s ls := by
  induction ls generalizing s with
  | nil => exact h [] [] rfl
  | cons l ls ih =>
    refine ⟨h [] (l :: ls) rfl, ih fun ls' ms heq => ?_⟩
    exact h (l :: ls') ms (congrArg (l :: ·) heq)

/-- **The invariant rule.** What the first state satisfies and every step
meeting `P` preserves holds throughout every run whose steps meet `P`. -/
theorem always_of_every (hst : ∀ s l, I s → P s l → I (step s l)) (hs : I s)
    (h : Every step P s ls) : Always step I s ls := by
  induction ls generalizing s with
  | nil => exact hs
  | cons l ls ih =>
    obtain ⟨hl, hr⟩ := h
    exact ⟨hs, ih (hst s l hs hl) hr⟩

/-- What every step preserves holds throughout every run. -/
theorem always_of_step (hst : ∀ s l, I s → I (step s l)) (hs : I s) : Always step I s ls := by
  induction ls generalizing s with
  | nil => exact hs
  | cons l ls ih => exact ⟨hs, ih (hst s l hs)⟩

/-- **The exact rule.** If one step from a state in `I` ends in `I` exactly when it meets `P`,
then a run stays in `I` exactly when all its steps meet `P`. -/
theorem always_iff_every (hst : ∀ s l, I s → (I (step s l) ↔ P s l)) (hs : I s) :
    Always step I s ls ↔ Every step P s ls := by
  induction ls generalizing s with
  | nil => exact ⟨fun _ => trivial, fun _ => hs⟩
  | cons l ls ih =>
    constructor
    · intro h
      have hI : I (step s l) := h.2.head
      exact ⟨(hst s l hs).mp hI, (ih hI).mp h.2⟩
    · intro h
      have hI : I (step s l) := (hst s l hs).mpr h.1
      exact ⟨hs, (ih hI).mpr h.2⟩

theorem always_iff_every_within (hinv : ∀ s l, J s → J (step s l))
    (hst : ∀ s l, J s → I s → (I (step s l) ↔ P s l)) (hJ : J s) (hI : I s) :
    Always step I s ls ↔ Every step P s ls := by
  have hbo : Always step (fun s => J s ∧ I s) s ls ↔ Every step P s ls :=
    always_iff_every (fun s l hs =>
      (and_iff_right (hinv s l hs.1)).trans (hst s l hs.1 hs.2)) ⟨hJ, hI⟩
  rw [← hbo]
  exact ⟨(always_of_step hinv hJ).and, always_mono fun _ h => h.2⟩

variable {C : σ → ι → Prop}

/-- The exact rule among the steps that meet `C`: a step inside `J` that meets
`P` stays inside, and one that does not leaves `I` at once. -/
theorem always_iff_every_under (hJI : ∀ s, J s → I s)
    (hke : ∀ s l, J s → C s l → P s l → J (step s l))
    (hbre : ∀ s l, J s → C s l → ¬P s l → ¬I (step s l)) (hs : J s) (hC : Every step C s ls) :
    Always step I s ls ↔ Every step P s ls := by
  induction ls generalizing s with
  | nil => exact ⟨fun _ => trivial, fun _ => hJI s hs⟩
  | cons l ls ih =>
    obtain ⟨hl, hr⟩ := hC
    constructor
    · rintro ⟨-, hn⟩
      have hP : P s l := by
        by_contra hnot
        exact hbre s l hs hl hnot hn.head
      exact ⟨hP, (ih (hke s l hs hl hP) hr).mp hn⟩
    · rintro ⟨hP, hn⟩
      exact ⟨hJI s hs, (ih (hke s l hs hl hP) hr).mpr hn⟩

theorem every_iff_within (hinv : ∀ s l, I s → P s l → I (step s l))
    (h : ∀ s l, I s → (P s l ↔ Q s l)) (hs : I s) : Every step P s ls ↔ Every step Q s ls := by
  induction ls generalizing s with
  | nil => rfl
  | cons l ls ih =>
    constructor
    · rintro ⟨hl, hr⟩
      exact ⟨(h s l hs).mp hl, (ih (hinv s l hs hl)).mp hr⟩
    · rintro ⟨hl, hr⟩
      have hP : P s l := (h s l hs).mpr hl
      exact ⟨hP, (ih (hinv s l hs hP)).mpr hr⟩

theorem every_imp_under (hinv : ∀ s l, I s → I (step s l)) (h : ∀ s l, I s → C s l → P s l)
    (hs : I s) (hC : Every step C s ls) : Every step P s ls := by
  induction ls generalizing s with
  | nil => trivial
  | cons l ls ih => exact ⟨h s l hs hC.1, ih (hinv s l hs) hC.2⟩

theorem every_iff_under (hinv : ∀ s l, I s → I (step s l))
    (h : ∀ s l, I s → C s l → (P s l ↔ Q s l)) (hs : I s) (hC : Every step C s ls) :
    Every step P s ls ↔ Every step Q s ls := by
  constructor
  · exact fun hP => every_imp_under hinv (fun s l hI hl => (h s l hI hl.1).mp hl.2) hs (hC.and hP)
  · exact fun hQ => every_imp_under hinv (fun s l hI hl => (h s l hI hl.1).mpr hl.2) hs (hC.and hQ)

/-! ## Histories -/

def states (step : σ → ι → σ) : σ → List ι → List σ
  | s, [] => [s]
  | s, l :: ls => s :: states step (step s l) ls

variable {α : Type*}

/-- The successive values of an observation `f` that is at first undefined,
without repetitions. -/
def history [DecidableEq α] (step : σ → ι → σ) (f : σ → Option α) (s : σ) (ls : List ι) : List α :=
  ((states step s ls).filterMap f).destutter (· ≠ ·)

/-- One step of an observation: it may appear with the value `a₀`, stay, or
move along an edge of `E`. -/
def Follows (E : α → α → Prop) (a₀ : α) : Option α → Option α → Prop
  | none, none => True
  | none, some b => b = a₀
  | some _, none => False
  | some a, some b => a = b ∨ E a b

theorem states_eq_cons (step : σ → ι → σ) (s : σ) (ls : List ι) :
    ∃ t, states step s ls = s :: t := by
  cases ls with
  | nil => exact ⟨[], rfl⟩
  | cons l ls => exact ⟨states step (step s l) ls, rfl⟩

theorem history_of_some [DecidableEq α] {E : α → α → Prop} {a₀ a : α} {f : σ → Option α}
    (ha : f s = some a) (h : Every step (fun s l => Follows E a₀ (f s) (f (step s l))) s ls) :
    ∃ t, history step f s ls = a :: t ∧ (a :: t).IsChain E := by
  induction ls generalizing s a with
  | nil => exact ⟨[], by simp [history, states, ha], by simp⟩
  | cons l ls ih =>
    obtain ⟨hs, hr⟩ := h
    rw [ha] at hs
    cases hb : f (step s l) with
    | none =>
      rw [hb] at hs
      exact hs.elim
    | some b =>
      rw [hb] at hs
      obtain ⟨t, ht, hcha⟩ := ih hb hr
      obtain ⟨rest, hst⟩ := states_eq_cons step (step s l) ls
      simp only [history, hst, List.filterMap_cons, hb, List.destutter_cons'] at ht
      by_cases hab : a = b
      · subst hab
        refine ⟨t, ?_, hcha⟩
        simp [history, states, hst, ha, hb, List.destutter_cons_cons, ht]
      · refine ⟨b :: t, ?_, ?_⟩
        · simp [history, states, hst, ha, hb, List.destutter_cons_cons, ht, hab]
        · exact List.isChain_cons_cons.mpr ⟨hs.resolve_left hab, hcha⟩

/-- **The history rule.** If every step of the run moves the observation along
an edge, its history is a path from the value it appears with. -/
theorem history_of_none [DecidableEq α] {E : α → α → Prop} {a₀ : α} {f : σ → Option α}
    (hs : f s = none) (h : Every step (fun s l => Follows E a₀ (f s) (f (step s l))) s ls) :
    history step f s ls = [] ∨ ∃ t, history step f s ls = a₀ :: t ∧ (a₀ :: t).IsChain E := by
  induction ls generalizing s with
  | nil => simp [history, states, hs]
  | cons l ls ih =>
    obtain ⟨hst, hr⟩ := h
    have hdr : history step f s (l :: ls) = history step f (step s l) ls := by
      simp [history, states, hs]
    rw [hs] at hst
    rw [hdr]
    cases hb : f (step s l) with
    | none => exact ih hb hr
    | some b =>
      rw [hb] at hst
      obtain rfl : b = a₀ := hst
      exact .inr (history_of_some hb hr)

end Runs
