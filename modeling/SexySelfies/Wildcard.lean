import Mathlib.Data.List.Infix

/-!
# Patterns with wildcards

Patterns of plain characters and `*`, as they are tested through a regular expression that has `.*`
for each `*` and no anchors. So a pattern of plain characters that ends in `*` asks for an
occurrence of the characters anywhere (`test_plain_run`), not at the beginning.
-/

namespace Wildcard

open List

/-! ## Matching -/

inductive Atom where
  | char (c : Char)
  | run

/-- The characters that `.` does not match. -/
def isLineEnd (c : Char) : Bool := c.toNat ∈ [0x0A, 0x0D, 0x2028, 0x2029]

def rests : List Char → List (List Char)
  | [] => [[]]
  | x :: xs => (x :: xs) :: if isLineEnd x then [] else rests xs

def matchesHere : List Atom → List Char → Bool
  | [], _ => true
  | .char _ :: _, [] => false
  | .char c :: atoms, x :: xs => c = x && matchesHere atoms xs
  | .run :: atoms, xs => (rests xs).any (matchesHere atoms)

def test (atoms : List Atom) (text : List Char) : Bool := text.tails.any (matchesHere atoms)

def ofPattern (pattern : List Char) : List Atom :=
  pattern.map fun c => if c = '*' then .run else .char c

variable {xs : List Char}

theorem matchesHere_run : matchesHere [.run] xs := by
  cases xs with
  | nil => rfl
  | cons => simp [matchesHere, rests]

theorem matchesHere_plain (w : List Char) (atoms : List Atom) :
    matchesHere (w.map .char ++ atoms) xs
      ↔ ∃ rest, xs = w ++ rest ∧ matchesHere atoms rest := by
  induction w generalizing xs with
  | nil => exact ⟨fun h => ⟨xs, rfl, h⟩, fun ⟨rest, hr, h⟩ => hr ▸ h⟩
  | cons c w ih =>
    cases xs with
    | nil =>
      refine ⟨nofun, ?_⟩
      rintro ⟨rest, hr, -⟩
      cases hr
    | cons =>
      simp only [map_cons, cons_append, matchesHere, Bool.and_eq_true,
        decide_eq_true_eq, ih, List.cons.injEq]
      constructor
      · rintro ⟨hc, rest, hr, h⟩
        exact ⟨rest, ⟨hc.symm, hr⟩, h⟩
      · rintro ⟨rest, ⟨hc, hr⟩, h⟩
        exact ⟨hc.symm, rest, hr, h⟩

theorem test_plain_run (w : List Char) : test (w.map .char ++ [.run]) xs ↔ w <:+: xs := by
  simp only [test, any_eq_true, mem_tails, matchesHere_plain, matchesHere_run, and_true]
  constructor
  · rintro ⟨ys, ⟨front, rfl⟩, rest, rfl⟩
    exact ⟨front, rest, append_assoc front w rest⟩
  · rintro ⟨front, rest, rfl⟩
    exact ⟨w ++ rest, ⟨front, (append_assoc front w rest).symm⟩, rest, rfl⟩

theorem ofPattern_plain {w : List Char} (h : '*' ∉ w) : ofPattern w = w.map .char := by
  refine map_congr_left fun c hc => if_neg ?_
  rintro rfl
  exact h hc

theorem test_ofPattern {w : List Char} (h : '*' ∉ w) :
    test (ofPattern (w ++ ['*'])) xs ↔ w <:+: xs := by
  have hsp : ofPattern (w ++ ['*']) = ofPattern w ++ [.run] := map_append
  rw [hsp, ofPattern_plain h]
  exact test_plain_run w

/-! ## Fields -/

variable {sep : Char} {u v a : List Char} {rest : List Char}

theorem prefix_append_sep (hv : sep ∉ v) (ha : sep ∉ a) :
    v ++ [sep] <+: a ++ sep :: rest ↔ v = a := by
  constructor
  · induction v generalizing a with
    | nil =>
      intro h
      cases a with
      | nil => rfl
      | cons x a =>
        have hx : sep = x := (cons_prefix_cons.mp h).1
        exact absurd hx (ne_of_not_mem_cons ha)
    | cons y v ih =>
      intro h
      cases a with
      | nil =>
        have hy : y = sep := (cons_prefix_cons.mp h).1
        exact absurd hy.symm (ne_of_not_mem_cons hv)
      | cons =>
        obtain ⟨rfl, hta⟩ := cons_prefix_cons.mp h
        rw [ih (not_mem_of_not_mem_cons hv) (not_mem_of_not_mem_cons ha) hta]
  · rintro rfl
    exact ⟨rest, append_assoc v [sep] rest⟩

theorem prefix_iff_of_sep (hu : sep ∉ u) (ha : sep ∉ a) :
    u ++ sep :: v <+: a ++ sep :: rest ↔ u = a ∧ v <+: rest := by
  constructor
  · intro h
    have hf : u ++ [sep] <+: a ++ sep :: rest := by
      refine List.IsPrefix.trans ⟨v, ?_⟩ h
      exact append_assoc u [sep] v
    obtain rfl := (prefix_append_sep hu ha).mp hf
    exact ⟨rfl, (cons_prefix_cons.mp ((prefix_append_right_inj u).mp h)).2⟩
  · rintro ⟨rfl, h⟩
    exact (prefix_append_right_inj u).mpr (cons_prefix_cons.mpr ⟨rfl, h⟩)

/-- An occurrence of `u`, a separator and `v` crosses the first separator, or
lies behind it. -/
theorem infix_append_sep (hu : sep ∉ u) (ha : sep ∉ a) :
    u ++ sep :: v <:+: a ++ sep :: rest ↔ (u <:+ a ∧ v <+: rest) ∨ u ++ sep :: v <:+: rest := by
  induction a with
  | nil =>
    rw [nil_append, infix_cons_iff, suffix_nil]
    refine or_congr ?_ .rfl
    exact prefix_iff_of_sep hu not_mem_nil
  | cons x a ih =>
    rw [cons_append, infix_cons_iff, ih (not_mem_of_not_mem_cons ha),
      ← cons_append, prefix_iff_of_sep hu ha, suffix_cons_iff, or_and_right, or_assoc]

theorem append_sep_inj {a' b b' : List Char} (ha : sep ∉ a) (ha' : sep ∉ a')
    (h : a ++ sep :: b = a' ++ sep :: b') : a = a' ∧ b = b' := by
  have hpre : a ++ [sep] <+: a' ++ sep :: b' := ⟨b, by rw [append_assoc, ← h]; rfl⟩
  obtain rfl := (prefix_append_sep ha ha').mp hpre
  exact ⟨rfl, (List.cons.inj (append_cancel_left h)).2⟩

theorem append_sep_inj_right {a' b b' : List Char} (hb : sep ∉ b) (hb' : sep ∉ b')
    (h : a ++ sep :: b = a' ++ sep :: b') : a = a' ∧ b = b' := by
  have hre := congrArg List.reverse h
  simp only [reverse_append, reverse_cons, append_assoc, singleton_append] at hre
  obtain ⟨hf, hsec⟩ := append_sep_inj (mem_reverse.not.mpr hb) (mem_reverse.not.mpr hb') hre
  exact ⟨reverse_inj.mp hsec, reverse_inj.mp hf⟩

theorem not_infix_of_sep (ha : sep ∉ a) : ¬ u ++ sep :: v <:+: a := by
  intro h
  exact ha (h.subset (mem_append_right u mem_cons_self))

end Wildcard
