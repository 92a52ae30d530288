import SexySelfies.AnalyticsModel
import SexySelfies.Runs

/-!
# Engagement counters

The hook of `MemberInteraction.js` that runs after every save of an interaction and updates the
analytics of the member. It counts the purchase of a converted interaction whatever the save was
for. The counter it increments is named by the type of the interaction, and no type is the name of a
declared counter: strict mode drops the write.
-/

namespace SexySelfies.Engagement

open Analytics Runs Collection

inductive Kind where
  | poke | like | message | specialOffer | profileView | bulkMessage | response | purchase
  | tipReceived
deriving DecidableEq

def Kind.text : Kind → String
  | poke => "poke"
  | like => "like"
  | message => "message"
  | specialOffer => "special_offer"
  | profileView => "profile_view"
  | bulkMessage => "bulk_message"
  | response => "response"
  | purchase => "purchase"
  | tipReceived => "tip_received"

inductive Status where
  | sent | read | responded | converted

/-- `purchaseAmount` may be missing or `null`. -/
structure Interaction where
  interactionType : Kind
  resulted_in_purchase : Bool := false
  purchaseAmount : Option (Option ℚ) := none
  status : Status := .sent

inductive Method where
  | markAsRead
  | recordResponse
  | recordConversion (amount : Option (Option ℚ))

def Method.apply (d : Interaction) : Method → Interaction
  | markAsRead => { d with status := .read }
  | recordResponse => { d with status := .responded }
  | recordConversion amount =>
    { d with status := .converted, resulted_in_purchase := true, purchaseAmount := amount }

/-! ## The hook -/

structure Favorite where
  purchaseCount : ℚ
  totalSpent : Option ℚ

/-- The entry of `favoriteCreators` for the creator, and the counters of
`engagement.interactions`. -/
structure Figures where
  favorite : Option Favorite
  interactions : String → ℚ

def counterPaths : List String := ["likes", "comments", "shares", "tips", "messages"]

variable (interactions : String → ℚ)

/-- Strict mode stores declared paths only. -/
def increment (path : String) : String → ℚ :=
  if path ∈ counterPaths then Function.update interactions path (interactions path + 1)
  else interactions

/-- A sum with a missing amount is not a number; a new entry takes the
default then. -/
def credit (amount : Option (Option ℚ)) : Option Favorite → Option Favorite
  | some f => amount.map fun a => ⟨f.purchaseCount + 1, plus f.totalSpent (value a)⟩
  | none => some ⟨1, amount.getD (some 0)⟩

def afterSave (doc : Interaction) (e : Figures) : Option Figures :=
  let counted := { e with interactions := increment e.interactions doc.interactionType.text }
  if doc.resulted_in_purchase then
    (credit doc.purchaseAmount e.favorite).map fun f => { counted with favorite := some f }
  else some counted

structure State where
  documents : List Interaction
  engagement : Figures

inductive Call where
  | create (doc : Interaction)
  | on (i : Nat) (method : Method)

variable (s : State)

def Call.before : Call → Option Interaction
  | create _ => none
  | on i _ => s.documents[i]?

def Call.saved : Call → Option Interaction
  | create doc => some doc
  | on i method => s.documents[i]?.map method.apply

def State.write : Call → List Interaction
  | .create doc => s.documents ++ [doc]
  | .on i method => s.documents.modify i method.apply

def step (c : Call) : State :=
  ⟨s.write c, ((c.saved s).bind fun doc => afterSave doc s.engagement).getD s.engagement⟩

def Succeeds (c : Call) : Prop :=
  ((c.saved s).bind fun doc => afterSave doc s.engagement).isSome

def Interaction.amount (d : Interaction) : ℚ := value d.purchaseAmount.join

variable (ds : List Interaction)

def purchases : ℚ :=
  total (fun d => if d.resulted_in_purchase then 1 else 0) ds

def spent : ℚ :=
  total (fun d => if d.resulted_in_purchase then d.amount else 0) ds

def Figures.purchaseCount (e : Figures) : ℚ := (e.favorite.map (·.purchaseCount)).getD 0

def Figures.totalSpent (e : Figures) : ℚ := (e.favorite.map (value ·.totalSpent)).getD 0

def counters : List (String × Option Kind) :=
  [("likes", some .like), ("comments", none), ("shares", none), ("tips", some .tipReceived),
    ("messages", some .message)]

def ofKind (kind : Option Kind) (kinds : List Kind) : Nat := kinds.countP fun k => some k = kind

/-- The counters are those of the stored interactions. -/
structure Sound (s : State) : Prop where
  purchaseCount : s.engagement.purchaseCount = purchases s.documents
  totalSpent : s.engagement.totalSpent = spent s.documents
  counted : ∀ c ∈ counters,
    s.engagement.interactions c.1 = ofKind c.2 (s.documents.map (·.interactionType))

/-- The interaction was no purchase before the call. -/
def Unconverted (c : Call) : Prop :=
  ∀ d ∈ c.before s, d.resulted_in_purchase = false

def created (calls : List Call) : List Kind :=
  calls.filterMap fun
    | .create doc => some doc.interactionType
    | .on _ _ => none

/-! ## One call -/

variable {s : State} {c : Call} {d : Interaction} {k : Kind}

theorem text_not_counter : k.text ∉ counterPaths := by
  cases k <;> decide

theorem increment_kind : increment interactions k.text = interactions :=
  if_neg text_not_counter

theorem credit_some {amount : Option (Option ℚ)} {f : Option Favorite} {f' : Favorite}
    (h : credit amount f = some f') : f'.purchaseCount = (f.map (·.purchaseCount)).getD 0 + 1 ∧
      value f'.totalSpent = (f.map (value ·.totalSpent)).getD 0 + value amount.join := by
  rcases f with - | f
  · cases h
    rcases amount with - | a
    · exact ⟨(zero_add 1).symm, (zero_add 0).symm⟩
    · exact ⟨(zero_add 1).symm, (zero_add _).symm⟩
  · obtain ⟨a, rfl, rfl⟩ := Option.map_eq_some_iff.mp h
    exact ⟨rfl, rfl⟩

theorem afterSave_some {e e' : Figures} (h : afterSave d e = some e') :
    e'.purchaseCount = e.purchaseCount + (if d.resulted_in_purchase then 1 else 0) ∧
    e'.totalSpent = e.totalSpent + (if d.resulted_in_purchase then d.amount else 0) ∧
    e'.interactions = e.interactions := by
  rw [afterSave, increment_kind] at h
  split at h
  · rename_i hd
    obtain ⟨f, hf, rfl⟩ := Option.map_eq_some_iff.mp h
    obtain ⟨hc, hspe⟩ := credit_some hf
    rw [if_pos hd, if_pos hd]
    exact ⟨hc, hspe, rfl⟩
  · rename_i hd
    cases h
    rw [if_neg hd, if_neg hd, add_zero, add_zero]
    exact ⟨rfl, rfl, rfl⟩

theorem total_write (f : Interaction → ℚ) {doc : Interaction} (h : c.saved s = some doc) :
    total f (s.write c) = total f s.documents + (f doc - ((c.before s).map f).getD 0) := by
  rcases c with doc' | ⟨i, m⟩
  · cases h
    rw [State.write, total_concat]
    exact congrArg _ (sub_zero _).symm
  · obtain ⟨d, hd, rfl⟩ := Option.map_eq_some_iff.mp h
    rw [State.write, total_modify f hd, Call.before, hd]
    rfl

/-- The purchases counted too often after a call: one more for a call on
a converted interaction. -/
theorem step_gaps (h : Succeeds s c) :
    (step s c).engagement.purchaseCount - purchases (step s c).documents
      = s.engagement.purchaseCount - purchases s.documents
        + ((c.before s).map fun d => if d.resulted_in_purchase then 1 else 0).getD 0 ∧
    (step s c).engagement.totalSpent - spent (step s c).documents
      = s.engagement.totalSpent - spent s.documents
        + ((c.before s).map fun d => if d.resulted_in_purchase then d.amount else 0).getD 0 ∧
    (step s c).engagement.interactions = s.engagement.interactions := by
  obtain ⟨e, he⟩ := Option.isSome_iff_exists.mp h
  obtain ⟨doc, hdoc, ha⟩ := Option.bind_eq_some_iff.mp he
  obtain ⟨hc, hspe, hint⟩ := afterSave_some ha
  rw [step, he, Option.getD_some]
  simp only [purchases, spent, total_write _ hdoc, hc, hspe, hint]
  exact ⟨by ring, by ring, trivial⟩

/-! ## Whole runs -/

theorem gap_nonneg (s : State) (c : Call) :
    0 ≤ ((c.before s).map fun d => if d.resulted_in_purchase then (1 : ℚ) else 0).getD 0 := by
  rcases c.before s with - | d
  · exact le_rfl
  · simp only [Option.map_some, Option.getD_some]
    split <;> norm_num

theorem gap_eq_zero : ((c.before s).map fun d =>
    if d.resulted_in_purchase then (1 : ℚ) else 0).getD 0 = 0 ↔ Unconverted s c := by
  rw [Unconverted]
  rcases c.before s with - | d
  · simp
  · simp

variable {calls : List Call}

/-- The gap never closes, so it is empty in the end when it was at first
and no call was on a converted interaction. -/
theorem gap_final (h : Every step Succeeds s calls)
    (h0 : purchases s.documents ≤ s.engagement.purchaseCount) :
    (final step s calls).engagement.purchaseCount = purchases (final step s calls).documents ↔
      s.engagement.purchaseCount = purchases s.documents ∧ Every step Unconverted s calls := by
  induction calls generalizing s with
  | nil => simp [Every]
  | cons c calls ih =>
    obtain ⟨hc, hcal⟩ := h
    have hgap := (step_gaps hc).1
    have hnn := gap_nonneg s c
    rw [final_cons, ih hcal (by linarith), Every, ← gap_eq_zero]
    constructor
    · rintro ⟨heq, he⟩
      exact ⟨by linarith, by linarith, he⟩
    · rintro ⟨heq, hz, he⟩
      exact ⟨by linarith, he⟩

theorem spent_final (h : Every step Succeeds s calls)
    (hu : Every step Unconverted s calls) (h0 : s.engagement.totalSpent = spent s.documents) :
    (final step s calls).engagement.totalSpent = spent (final step s calls).documents := by
  induction calls generalizing s with
  | nil => exact h0
  | cons c calls ih =>
    refine ih h.2 hu.2 ?_
    have hgap := (step_gaps h.1).2.1
    have hz : ((c.before s).map fun d =>
        if d.resulted_in_purchase then d.amount else 0).getD 0 = 0 := by
      have hc := hu.1
      rw [Unconverted] at hc
      rcases hb : c.before s with - | d
      · rfl
      · simp [hc d hb]
    linarith

theorem interactions_final (h : Every step Succeeds s calls) :
    (final step s calls).engagement.interactions = s.engagement.interactions := by
  induction calls generalizing s with
  | nil => rfl
  | cons c calls ih => exact (ih h.2).trans (step_gaps h.1).2.2

theorem kinds_final (s : State) (calls : List Call) :
    (final step s calls).documents.map (·.interactionType)
      = s.documents.map (·.interactionType) ++ created calls := by
  induction calls generalizing s with
  | nil => exact (List.append_nil _).symm
  | cons c calls ih =>
    rw [final_cons, ih]
    rcases c with doc | ⟨i, m⟩
    · simp [step, State.write, created]
    · have hk : ∀ d, (m.apply d).interactionType = d.interactionType := fun d => by cases m <;> rfl
      simp [step, State.write, map_modify hk, created]

def start : State := ⟨[], none, interactions⟩

/-- The counters are right exactly when no purchase is saved again and the counts by type, which
no call changes, are those of the calls. -/
theorem sound_iff_once (interactions : String → ℚ) (calls : List Call)
    (h : Every step Succeeds (start interactions) calls) :
    Sound (final step (start interactions) calls) ↔
      Every step Unconverted (start interactions) calls ∧
        ∀ c ∈ counters, interactions c.1 = ofKind c.2 (created calls) := by
  have hgap := gap_final h le_rfl
  have hint := interactions_final h
  have hk := kinds_final (start interactions) calls
  constructor
  · rintro ⟨hc, -, hcou⟩
    rw [hint, hk] at hcou
    exact ⟨(hgap.mp hc).2, hcou⟩
  · rintro ⟨hu, hcou⟩
    refine ⟨hgap.mpr ⟨rfl, hu⟩, spent_final h hu rfl, ?_⟩
    rw [hint, hk]
    exact hcou

instance (s : State) (c : Call) : Decidable (Succeeds s c) :=
  inferInstanceAs (Decidable (_ = true))

theorem sound_poke : Sound (final step (start fun _ => 0)
    [.create ⟨.poke, false, none, .sent⟩, .on 0 (.recordConversion (some (some 20)))]) :=
  (sound_iff_once (fun _ => 0) _ (by decide +kernel)).mpr
    ⟨⟨fun _ h => (by cases h), fun d h => (by cases h; rfl), trivial⟩, by decide +kernel⟩

theorem read_after_conversion : ¬ ∀ (interactions : String → ℚ) (calls : List Call),
    Every step Succeeds (start interactions) calls →
      Sound (final step (start interactions) calls) := by
  intro h
  have hs := h (fun _ => 0) [.create ⟨.poke, false, none, .sent⟩,
    .on 0 (.recordConversion (some (some 20))), .on 0 .markAsRead] (by decide +kernel)
  exact absurd hs.purchaseCount (by decide +kernel)

end SexySelfies.Engagement
