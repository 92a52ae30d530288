import Mathlib.Tactic.Common
import SexySelfies.JsValue
import SexySelfies.Runs

/-!
# What the safety manager filters

`SafetyManager` of `utils/safetyManager.js` keeps four sets and the safety settings, writes each to
`localStorage` when it changes, and decides with `shouldFilterContent` what is left out of the feed.
A page reload constructs a new manager over the same storage. The constructor reads back neither the
hidden nor the reported content; and a blocked creator is only looked for under `creator_id`.
-/

namespace SexySelfies.Safety

open Js Runs List

/-! ## Content and settings -/

structure Creator where
  _id : Option String
  verified : Bool
  age : Number

structure Content where
  id : Option String
  _id : Option String
  creator_id : Option String
  creator : Option Creator
  explicit : Bool

def orElse (a b : Option String) : Option String :=
  if a.any (· ≠ "") then a else b

def Content.key (c : Content) : Option String := orElse c.id c._id

def Content.creatorId (c : Content) : Option String :=
  (orElse c.creator_id (c.creator.bind Creator._id)).filter (· ≠ "")

structure Settings where
  hideReportedContent : Value
  verifiedOnly : Value
  filterExplicit : Value
  minCreatorAge : Value

def getDefaultSafetySettings : Settings where
  hideReportedContent := .bool true
  verifiedOnly := .bool false
  filterExplicit := .bool false
  minCreatorAge := .num (.fin 18)

structure NewSettings where
  hideReportedContent : Option Value
  verifiedOnly : Option Value
  filterExplicit : Option Value
  minCreatorAge : Option Value

def Settings.spread (s : Settings) (n : NewSettings) : Settings where
  hideReportedContent := n.hideReportedContent.getD s.hideReportedContent
  verifiedOnly := n.verifiedOnly.getD s.verifiedOnly
  filterExplicit := n.filterExplicit.getD s.filterExplicit
  minCreatorAge := n.minCreatorAge.getD s.minCreatorAge

def written : Value → Option Value
  | .undefined => none
  | .num .nan => some .null
  | .num .negInf => some .null
  | .num .posInf => some .null
  | v => some v

def Settings.written (s : Settings) : NewSettings where
  hideReportedContent := Safety.written s.hideReportedContent
  verifiedOnly := Safety.written s.verifiedOnly
  filterExplicit := Safety.written s.filterExplicit
  minCreatorAge := Safety.written s.minCreatorAge

inductive Tracked where
  | blockedUsers
  | hiddenContent
  | reportedContent
  | reportedCreators
deriving DecidableEq

/-- The sets that the constructor reads back. -/
def Tracked.loaded : Tracked → Bool
  | blockedUsers | reportedCreators => true
  | hiddenContent | reportedContent => false

structure Manager where
  sets : Tracked → List String
  safetySettings : Settings

/-- The entries `sexyselfies_...` of `localStorage`. -/
structure Storage where
  sets : Tracked → Option (List String)
  safetySettings : Option NewSettings

structure Browser where
  manager : Manager
  storage : Storage

def loadSafetySettings (s : Storage) : Settings :=
  match s.safetySettings with
  | some stored => getDefaultSafetySettings.spread stored
  | none => getDefaultSafetySettings

def Manager.new (s : Storage) : Manager where
  sets := fun k => if k.loaded then (s.sets k).getD [] else []
  safetySettings := loadSafetySettings s

def add (x : String) (xs : List String) : List String := if x ∈ xs then xs else xs ++ [x]

def delete (x : String) (xs : List String) : List String := xs.filter (· ≠ x)

variable (k : Tracked)

def Browser.save (f : List String → List String) (b : Browser) : Browser where
  manager := { b.manager with sets := Function.update b.manager.sets k (f (b.manager.sets k)) }
  storage := { b.storage with
    sets := Function.update b.storage.sets k (some (f (b.manager.sets k))) }

/-! ## Operations -/

inductive Severity where
  | critical
  | high
  | medium
  | low
deriving DecidableEq

/-- `REPORT_CATEGORIES`. -/
inductive Category where
  | underage
  | illegal
  | non_consensual
  | harassment
  | spam
  | impersonation
  | copyright
  | other

def Category.severity : Category → Severity
  | underage | illegal => .critical
  | non_consensual | harassment => .high
  | spam | impersonation | copyright => .medium
  | other => .low

def Category.requiresDetails : Category → Bool
  | underage | illegal | non_consensual | copyright | other => true
  | harassment | spam | impersonation => false

def Category.serious (k : Category) : Bool := k.severity = .critical || k.severity = .high

structure Report where
  contentId : String
  category : Option Category
  details : String
  accepted : Bool

def Report.submitted (r : Report) : Option Category :=
  if r.contentId = "" then none
  else r.category.filter fun k =>
    !(k.requiresDetails && (Js.trim r.details.toList).isEmpty) && r.accepted

def hideContent (contentId : String) (b : Browser) : Browser :=
  b.save .hiddenContent (add contentId)

def unhideContent (contentId : String) (b : Browser) : Browser :=
  b.save .hiddenContent (delete contentId)

def reportContent (r : Report) (b : Browser) : Browser :=
  match r.submitted with
  | none => b
  | some category =>
    let b := b.save .reportedContent (add r.contentId)
    if category.serious then hideContent r.contentId b else b

/-- A request to the service about a user; without an id it is not made. -/
structure UserRequest where
  userId : String
  accepted : Bool

variable (r : UserRequest)

def UserRequest.succeeds : Bool := r.userId ≠ "" && r.accepted

variable (b : Browser)

def blockUser : Browser :=
  if r.succeeds then b.save .blockedUsers (add r.userId) else b

def unblockUser : Browser :=
  if r.succeeds then b.save .blockedUsers (delete r.userId) else b

def addReportedCreator (creatorId : String) (b : Browser) : Browser :=
  b.save .reportedCreators (add creatorId)

def removeReportedCreator (creatorId : String) (b : Browser) : Browser :=
  b.save .reportedCreators (delete creatorId)

def updateSafetySettings (n : NewSettings) (b : Browser) : Browser :=
  let safetySettings := b.manager.safetySettings.spread n
  ⟨{ b.manager with safetySettings },
    { b.storage with safetySettings := some safetySettings.written }⟩

inductive Op where
  | hideContent (contentId : String)
  | unhideContent (contentId : String)
  | reportContent (r : Report)
  | blockUser (r : UserRequest)
  | unblockUser (r : UserRequest)
  | addReportedCreator (creatorId : String)
  | removeReportedCreator (creatorId : String)
  | updateSafetySettings (n : NewSettings)
  | reload

def step : Op → Browser
  | .hideContent contentId => hideContent contentId b
  | .unhideContent contentId => unhideContent contentId b
  | .reportContent r => reportContent r b
  | .blockUser r => blockUser r b
  | .unblockUser r => unblockUser r b
  | .addReportedCreator creatorId => addReportedCreator creatorId b
  | .removeReportedCreator creatorId => removeReportedCreator creatorId b
  | .updateSafetySettings n => updateSafetySettings n b
  | .reload => { b with manager := .new b.storage }

def start : Browser :=
  let storage : Storage := ⟨fun _ => none, none⟩
  ⟨.new storage, storage⟩

def applyContentFilters (settings : Settings) (content : Content) : Bool :=
  settings.filterExplicit.truthy && content.explicit
    || settings.verifiedOnly.truthy && !content.creator.any Creator.verified
    || settings.minCreatorAge.truthy && content.creator.any fun creator =>
        creator.age.truthy && creator.age.lt settings.minCreatorAge.toNumber

def has (xs : List String) (x : Option String) : Bool := x.any (· ∈ xs)

def shouldFilterContent (m : Manager) : Option Content → Value
  | none => .bool false
  | some content =>
    if has (m.sets .hiddenContent) content.key then .bool true
    else if has (m.sets .reportedContent) content.key then m.safetySettings.hideReportedContent
    else if has (m.sets .blockedUsers) (content.creator_id.filter (· ≠ "")) then .bool true
    else if has (m.sets .reportedCreators) content.creatorId then .bool true
    else .bool (applyContentFilters m.safetySettings content)

/-! ## What was done -/

/-- Something that `on` did, and nothing since undid. -/
def Since (on off : Op → Bool) (ops : List Op) : Prop :=
  ∃ before op after, ops = before ++ op :: after ∧ on op = true ∧ ∀ o ∈ after, off o = false

def Op.isReload : Op → Bool
  | .reload => true
  | _ => false

variable (ops : List Op)

def recent : List Op :=
  ops.foldl (fun rs op => if op.isReload then [] else rs ++ [op]) []

variable (x : String)

def Op.adds : Op → Bool
  | .hideContent contentId => k = .hiddenContent && contentId = x
  | .reportContent r =>
    r.contentId = x && (k = .reportedContent && r.submitted.isSome
      || k = .hiddenContent && r.submitted.any Category.serious)
  | .blockUser r => k = .blockedUsers && r.userId = x && r.succeeds
  | .addReportedCreator creatorId => k = .reportedCreators && creatorId = x
  | _ => false

def Op.deletes : Op → Bool
  | .unhideContent contentId => k = .hiddenContent && contentId = x
  | .unblockUser r => k = .blockedUsers && r.userId = x && r.succeeds
  | .removeReportedCreator creatorId => k = .reportedCreators && creatorId = x
  | _ => false

/-- The operations, taken together, put `x` in the set. -/
def Holds : Prop :=
  Since (Op.adds k x) (Op.deletes k x) ops

/-- A content that is hidden, or reported while `hideReportedContent` is on, or
whose creator is blocked or reported. -/
def Required (settings : Settings) (content : Content) : Prop :=
  (∃ x ∈ content.key, Holds .hiddenContent ops x)
    ∨ ((∃ x ∈ content.key, Holds .reportedContent ops x)
        ∧ settings.hideReportedContent.truthy = true)
    ∨ ∃ x ∈ content.creatorId, Holds .blockedUsers ops x ∨ Holds .reportedCreators ops x

/-- Hidden since the last reload; or reported since, and the setting is on; or not reported since,
and its creator is blocked and given as `creator_id`, or reported, or the settings exclude it. -/
def Caught (settings : Settings) (content : Content) : Prop :=
  (∃ x ∈ content.key, Holds .hiddenContent (recent ops) x)
    ∨ ((∃ x ∈ content.key, Holds .reportedContent (recent ops) x)
        ∧ settings.hideReportedContent.truthy = true)
    ∨ (¬(∃ x ∈ content.key, Holds .reportedContent (recent ops) x)
        ∧ ((∃ x ∈ content.creator_id, x ≠ "" ∧ Holds .blockedUsers ops x)
          ∨ (∃ x ∈ content.creatorId, Holds .reportedCreators ops x)
          ∨ applyContentFilters settings content = true))

variable {on off : Op → Bool} {ops : List Op} {op : Op}

theorem not_since_nil : ¬Since on off [] := by
  rintro ⟨before, op, after, h, -⟩
  exact absurd h.symm (append_ne_nil_of_right_ne_nil _ (cons_ne_nil op after))

theorem since_concat :
    Since on off (ops ++ [op]) ↔ on op ∨ (Since on off ops ∧ off op = false) := by
  constructor
  · rintro ⟨before, o, after, h, ho, ha⟩
    rcases eq_nil_or_concat after with rfl | ⟨after, last, rfl⟩
    · obtain ⟨-, hl⟩ := append_inj' h rfl
      exact .inl ((List.cons.inj hl).1 ▸ ho)
    · rw [concat_eq_append] at ha
      have hsp : ops ++ [op] = (before ++ o :: after) ++ [last] := by simpa using h
      obtain ⟨rfl, hl⟩ := append_inj' hsp rfl
      obtain ⟨rfl, -⟩ := List.cons.inj hl
      refine .inr ⟨⟨before, o, after, rfl, ho, fun o' ho' => ?_⟩, ?_⟩
      · exact ha o' (mem_append_left _ ho')
      · exact ha op (mem_append_right _ mem_cons_self)
  · rintro (hon | ⟨⟨before, o, after, rfl, ho, ha⟩, hoff⟩)
    · exact ⟨ops, op, [], rfl, hon, nofun⟩
    · refine ⟨before, o, after ++ [op], by simp, ho, fun o' ho' => ?_⟩
      rcases mem_append.mp ho' with ho' | ho'
      · exact ha o' ho'
      · exact (mem_singleton.mp ho').symm ▸ hoff

theorem recent_concat : recent (ops ++ [op]) = if op.isReload then [] else recent ops ++ [op] := by
  rw [recent, foldl_append]
  rfl

theorem recent_concat_reload : recent (ops ++ [.reload]) = [] := by
  rw [recent_concat]
  rfl

/-! ## What one operation does to the sets -/

variable {b : Browser} {k : Tracked} {x : String} {y : String} {xs : List String}

theorem mem_add : x ∈ add y xs ↔ y = x ∨ x ∈ xs := by
  unfold add
  split
  · rename_i hy
    exact ⟨.inr, fun h => h.elim (fun heq => heq ▸ hy) id⟩
  · rw [mem_append, mem_singleton, or_comm, eq_comm]

theorem mem_delete : x ∈ delete y xs ↔ x ∈ xs ∧ y ≠ x := by
  rw [delete, mem_filter, decide_eq_true_eq, ne_comm]

theorem mem_save_add {j : Tracked} :
    x ∈ (b.save j (add y)).manager.sets k ↔ (k = j ∧ y = x) ∨ x ∈ b.manager.sets k := by
  by_cases hk : k = j
  · subst hk
    simp [Browser.save, mem_add]
  · simp [Browser.save, hk]

theorem mem_save_delete {j : Tracked} :
    x ∈ (b.save j (delete y)).manager.sets k ↔ x ∈ b.manager.sets k ∧ ¬(k = j ∧ y = x) := by
  by_cases hk : k = j
  · subst hk
    simp [Browser.save, mem_delete]
  · simp [Browser.save, hk]

theorem mem_step (hop : op.isReload = false) : x ∈ (step b op).manager.sets k
      ↔ op.adds k x ∨ (x ∈ b.manager.sets k ∧ op.deletes k x = false) := by
  cases op with
  | hideContent => simp [step, hideContent, mem_save_add, Op.adds, Op.deletes]
  | unhideContent => simp [step, unhideContent, mem_save_delete, Op.adds, Op.deletes]
  | reportContent r =>
    simp only [step, reportContent, Op.adds, Op.deletes]
    cases hsu : r.submitted with
    | none => simp
    | some c =>
      cases hse : c.serious with
      | true =>
        simp only [if_true, hideContent, mem_save_add, hse, Option.isSome_some,
          Option.any_some, Bool.and_true, Bool.and_eq_true, Bool.or_eq_true,
          decide_eq_true_eq, and_true]
        tauto
      | false =>
        simp only [Bool.false_eq_true, if_false, mem_save_add, hse,
          Option.isSome_some, Option.any_some, Bool.and_true, Bool.and_false,
          Bool.or_false, Bool.and_eq_true, decide_eq_true_eq, and_true]
        tauto
  | blockUser r =>
    cases hr : r.succeeds with
    | true => simp [step, blockUser, hr, mem_save_add, Op.adds, Op.deletes]
    | false => simp [step, blockUser, hr, Op.adds, Op.deletes]
  | unblockUser r =>
    cases hr : r.succeeds with
    | true => simp [step, unblockUser, hr, mem_save_delete, Op.adds, Op.deletes]
    | false => simp [step, unblockUser, hr, Op.adds, Op.deletes]
  | addReportedCreator => simp [step, addReportedCreator, mem_save_add, Op.adds, Op.deletes]
  | removeReportedCreator =>
    simp [step, removeReportedCreator, mem_save_delete, Op.adds, Op.deletes]
  | updateSafetySettings => simp [step, updateSafetySettings, Op.adds, Op.deletes]
  | reload => cases hop

/-- What is read back is what is in memory. -/
def Stored (b : Browser) : Prop :=
  ∀ k, k.loaded = true → (b.storage.sets k).getD [] = b.manager.sets k

theorem Stored.save (h : Stored b) (j : Tracked) (f : List String → List String) :
    Stored (b.save j f) := by
  intro k hk
  by_cases hkj : k = j
  · subst hkj
    simp [Browser.save]
  · simpa [Browser.save, hkj] using h k hk

theorem Stored.step (h : Stored b) (op : Op) : Stored (step b op) := by
  cases op with
  | hideContent c | unhideContent c => exact h.save _ _
  | reportContent =>
    simp only [Safety.step, reportContent]
    split
    · exact h
    · split
      · exact (h.save _ _).save _ _
      · exact h.save _ _
  | blockUser =>
    simp only [Safety.step, blockUser]
    split
    · exact h.save _ _
    · exact h
  | unblockUser =>
    simp only [Safety.step, unblockUser]
    split
    · exact h.save _ _
    · exact h
  | addReportedCreator creatorId | removeReportedCreator creatorId => exact h.save _ _
  | updateSafetySettings => exact h
  | reload =>
    intro k hk
    simp [Safety.step, Manager.new, hk]

theorem stored_final : Stored (final step start ops) := by
  have hrun : Always step Stored start ops :=
    always_of_step (fun _ op h => h.step op) fun k hk => by simp [start, Manager.new]
  exact hrun.last

def Tracked.history (k : Tracked) (ops : List Op) : List Op :=
  if k.loaded then ops else recent ops

theorem history_concat (hop : op.isReload = false) :
    k.history (ops ++ [op]) = k.history ops ++ [op] := by
  unfold Tracked.history
  split
  · rfl
  · rw [recent_concat, hop]
    rfl

theorem tracks_final : x ∈ (final step start ops).manager.sets k ↔ Holds k (k.history ops) x := by
  -- from the last operation, since what a set holds depends on what came after
  induction ops using List.reverseRecOn with
  | nil =>
    have he : k.history [] = [] := by
      unfold Tracked.history
      split <;> rfl
    rw [he]
    refine iff_of_false ?_ not_since_nil
    simp [start, Manager.new]
  | append_singleton ops op ih =>
    rw [final_append, final_cons, final_nil]
    cases hop : op.isReload with
    | false => rw [mem_step hop, ih, history_concat hop, Holds, Holds, since_concat]
    | true =>
      obtain rfl : op = .reload := by
        cases op <;> first | rfl | cases hop
      have hse : (step (final step start ops) .reload).manager.sets k
          = if k.loaded then (final step start ops).manager.sets k else [] := by
        by_cases hk : k.loaded = true
        · simp [step, Manager.new, hk, stored_final k hk]
        · simp [step, Manager.new, hk]
      rw [hse]
      by_cases hk : k.loaded = true
      · rw [if_pos hk, ih, Tracked.history, Tracked.history, if_pos hk, if_pos hk, Holds,
          Holds, since_concat]
        simp [Op.adds, Op.deletes]
      · rw [if_neg hk, Tracked.history, if_neg hk, recent_concat_reload]
        exact iff_of_false not_mem_nil not_since_nil

/-! ## What is filtered -/

theorem has_iff {key : Option String} : has xs key ↔ ∃ x ∈ key, x ∈ xs := by
  cases key with
  | none | some x => simp [has]

theorem has_filter_iff {key : Option String} :
    has xs (key.filter (· ≠ "")) = true ↔ ∃ x ∈ key, x ≠ "" ∧ x ∈ xs := by
  rw [has_iff]
  constructor
  · rintro ⟨x, hx, hmem⟩
    obtain ⟨hkey, hne⟩ := Option.filter_eq_some_iff.mp hx
    exact ⟨x, hkey, of_decide_eq_true hne, hmem⟩
  · rintro ⟨x, hx, hne, hmem⟩
    exact ⟨x, Option.filter_eq_some_iff.mpr ⟨hx, decide_eq_true hne⟩, hmem⟩

theorem shouldFilterContent_iff (m : Manager) (content : Content) :
    (shouldFilterContent m content).truthy ↔ (∃ x ∈ content.key, x ∈ m.sets .hiddenContent)
        ∨ ((∃ x ∈ content.key, x ∈ m.sets .reportedContent)
          ∧ m.safetySettings.hideReportedContent.truthy)
        ∨ (¬(∃ x ∈ content.key, x ∈ m.sets .reportedContent)
          ∧ ((∃ x ∈ content.creator_id, x ≠ "" ∧ x ∈ m.sets .blockedUsers)
            ∨ (∃ x ∈ content.creatorId, x ∈ m.sets .reportedCreators)
            ∨ applyContentFilters m.safetySettings content)) := by
  rw [shouldFilterContent, ← has_iff, ← has_iff, ← has_iff, ← has_filter_iff]
  split
  · rename_i hhid
    exact iff_of_true rfl (.inl hhid)
  · rename_i hhid
    split
    · rename_i hre
      refine ⟨fun h => .inr (.inl ⟨hre, h⟩), ?_⟩
      rintro (h | ⟨-, h⟩ | ⟨h, -⟩)
      · exact absurd h hhid
      · exact h
      · exact absurd hre h
    · rename_i hre
      split
      · rename_i hblk
        exact iff_of_true rfl (.inr (.inr ⟨hre, .inl hblk⟩))
      · rename_i hblk
        split
        · rename_i hcr
          exact iff_of_true rfl (.inr (.inr ⟨hre, .inr (.inl hcr)⟩))
        · rename_i hcr
          refine ⟨fun h => .inr (.inr ⟨hre, .inr (.inr h)⟩), ?_⟩
          rintro (h | ⟨h, -⟩ | ⟨-, h | h | h⟩)
          · exact absurd h hhid
          · exact absurd h hre
          · exact absurd h hblk
          · exact absurd h hcr
          · exact h

/-- After any operations and reloads, what should be filtered is filtered
exactly if it is caught. -/
theorem filtered_iff (ops : List Op) (content : Content) :
    let m := (final step start ops).manager
    (Required ops m.safetySettings content → (shouldFilterContent m content).truthy = true)
      ↔ (Required ops m.safetySettings content → Caught ops m.safetySettings content) := by
  intro m
  have hcau : (shouldFilterContent m content).truthy = true
      ↔ Caught ops m.safetySettings content := by
    rw [shouldFilterContent_iff]
    simp only [m, tracks_final]
    rfl
  rw [hcau]

def sampleContent : Content := ⟨some "c1", none, some "u1", none, false⟩

theorem filtered_blocked :
    let ops : List Op := [.blockUser ⟨"u1", true⟩, .reload]
    let m := (final step start ops).manager
    Required ops m.safetySettings sampleContent
      ∧ (shouldFilterContent m sampleContent).truthy = true := by
  intro ops m
  have hblo : Holds .blockedUsers ops "u1" :=
    ⟨[], _, [.reload], rfl, by decide, by simp [Op.deletes]⟩
  have hreq : Required ops m.safetySettings sampleContent := .inr (.inr ⟨"u1", rfl, .inl hblo⟩)
  refine ⟨hreq, (filtered_iff ops sampleContent).mpr (fun _ => ?_) hreq⟩
  refine .inr (.inr ⟨?_, .inl ⟨"u1", rfl, by decide, hblo⟩⟩)
  rintro ⟨x, -, hx⟩
  exact not_since_nil hx

/-- Three contents that are shown: one hidden before a reload; one of a blocked creator, given as
`creator._id`; and a reported one, while `hideReportedContent` is off. -/
theorem shown_though_required :
    (Required [.hideContent "c1", .reload] getDefaultSafetySettings
        ⟨some "c1", none, none, none, false⟩
      ∧ shouldFilterContent (final step start [.hideContent "c1", .reload]).manager
        (some ⟨some "c1", none, none, none, false⟩) = .bool false)
    ∧ (Required [.blockUser ⟨"u1", true⟩] getDefaultSafetySettings
        ⟨some "c1", none, none, some ⟨some "u1", true, .nan⟩, false⟩
      ∧ shouldFilterContent (final step start [.blockUser ⟨"u1", true⟩]).manager
        (some ⟨some "c1", none, none, some ⟨some "u1", true, .nan⟩, false⟩) = .bool false)
    ∧ (let ops : List Op := [.updateSafetySettings ⟨some (.bool false), none, none, none⟩,
        .addReportedCreator "u1", .reportContent ⟨"c1", some .spam, "", true⟩]
      let m := (final step start ops).manager
      Required ops m.safetySettings sampleContent
        ∧ shouldFilterContent m sampleContent = .bool false) := by
  refine ⟨⟨.inl ⟨"c1", rfl, ?_⟩, rfl⟩, ⟨.inr (.inr ⟨"u1", rfl, .inl ?_⟩), rfl⟩,
    .inr (.inr ⟨"u1", rfl, .inr ?_⟩), rfl⟩
  · exact ⟨[], _, [.reload], rfl, by decide, by simp [Op.deletes]⟩
  · exact ⟨[], _, [], rfl, by decide, by simp⟩
  · exact ⟨[_], _, [_], rfl, by decide, by simp [Op.deletes]⟩

end SexySelfies.Safety
