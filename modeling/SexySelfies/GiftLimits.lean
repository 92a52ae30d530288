import SexySelfies.Platform
import SexySelfies.Runs

/-!
# Gifts per day

`models/Gift.js`: a creator may give ten gifts a day, and one a day to a member. `giftedAt` is
filled in when the document is constructed; the `pre('save')` hook counts the stored gifts from
midnight on of the day on which it is saved. A gift saved on a later day is counted on neither.
-/

namespace SexySelfies.Gifts

open Js Platform List

structure LocalDays where
  startOfDay : Nat → Nat
  startOfDay_le : ∀ t, startOfDay t ≤ t
  startOfDay_eq : ∀ t u, startOfDay t ≤ u → u ≤ t → startOfDay u = startOfDay t

theorem LocalDays.ge_iff (days : LocalDays) {t now : Nat} (h : t ≤ now) :
    days.startOfDay now ≤ t ↔ days.startOfDay t = days.startOfDay now := by
  constructor
  · exact fun hle => days.startOfDay_eq now t hle h
  · intro heq
    rw [← heq]
    exact days.startOfDay_le t

def utcDays : LocalDays where
  startOfDay t := t / 86400000 * 86400000
  startOfDay_le t := Nat.div_mul_le_self t _
  startOfDay_eq t u hle hge := by omega

/-! ## Gifts -/

inductive ContentType where
  | image
  | video
  | audio
  | text

def ContentType.names : List (String × ContentType) :=
  [("image", .image), ("video", .video), ("audio", .audio), ("text", .text)]

structure Gift where
  creator : Nat
  member : Nat
  content : Nat
  contentType : ContentType
  originalPrice : Number
  message : Value
  giftedAt : Nat
  price_valid : Number.le (.fin 0) originalPrice = true
  message_valid : castsWithin 500 message = true

structure GiftInput where
  creator : Ref
  member : Ref
  content : Ref
  contentType : Value
  originalPrice : Value
  message : Value

structure Draft where
  input : GiftInput
  giftedAt : Nat

def defaultMessage : String := "Here's a special gift just for you! 🎁"

def GiftInput.messageOf (d : GiftInput) : Value :=
  match d.message with
  | .undefined => .str defaultMessage
  | v => v

def GiftInput.priceOf (d : GiftInput) : Option Number :=
  match d.originalPrice with
  | .undefined => some (.fin 0)
  | v => (castNumber v).getD none

def Draft.validated (d : Draft) : Option Gift :=
  match d.input.creator, d.input.member, d.input.content,
      (textOf d.input.contentType).bind fun s => ContentType.names.lookup s, d.input.priceOf with
  | .id creator, .id member, .id content, some contentType, some originalPrice =>
    if hprice : Number.le (.fin 0) originalPrice = true then
      if hmessage : castsWithin 500 d.input.messageOf = true then
        some
          { creator, member, content, contentType, originalPrice,
            message := d.input.messageOf, giftedAt := d.giftedAt, price_valid := hprice,
            message_valid := hmessage }
      else none
    else none
  | _, _, _, _, _ => none

theorem giftedAt_of_validated {d : Draft} {g : Gift} (h : d.validated = some g) :
    g.giftedAt = d.giftedAt := by
  unfold Draft.validated at h
  split at h
  · split at h
    · split at h
      · cases h
        rfl
      · cases h
    · cases h
  · cases h

variable (days : LocalDays)

def preSave (gifts : List Gift) (now : Nat) (g : Gift) : Option String :=
  let startOfDay := days.startOfDay now
  let todayGifts := gifts.countP fun s => s.creator = g.creator && startOfDay ≤ s.giftedAt
  if todayGifts ≥ 10 then some "Daily gift limit reached (10 gifts per day)"
  else if gifts.any fun s =>
      s.creator = g.creator && s.member = g.member && startOfDay ≤ s.giftedAt then
    some "Already sent a gift to this member today"
  else none

structure Server where
  now : Nat
  drafts : List Draft
  gifts : List Gift

inductive Event where
  | wait (duration : Nat)
  | construct (input : GiftInput)
  | save (draft : Nat)

variable (s : Server)

def Server.accepted (i : Nat) : Option Gift :=
  ((s.drafts[i]?).bind Draft.validated).filter fun g => preSave days s.gifts s.now g = none

/-- A rejected document stays as it was and may be saved again. -/
def step : Event → Server
  | .wait duration => { s with now := s.now + duration }
  | .construct input => { s with drafts := s.drafts ++ [⟨input, s.now⟩] }
  | .save i =>
    match s.accepted days i with
    | some g => { s with drafts := s.drafts.eraseIdx i, gifts := s.gifts ++ [g] }
    | none => s

def Server.start (now : Nat) : Server := ⟨now, [], []⟩

/-! ## The limits -/

def countOn (creator day : Nat) (gifts : List Gift) : Nat :=
  gifts.countP fun g => g.creator = creator && days.startOfDay g.giftedAt = day

def countTo (creator member day : Nat) (gifts : List Gift) : Nat :=
  gifts.countP fun g =>
    g.creator = creator && g.member = member && days.startOfDay g.giftedAt = day

/-- Ten gifts a day, and one to each member. -/
structure Limited (gifts : List Gift) : Prop where
  perDay : ∀ creator day, countOn days creator day gifts ≤ 10
  perMember : ∀ creator member day, countTo days creator member day gifts ≤ 1

/-- One more gift stays within the limits of its day. -/
def HasRoom (gifts : List Gift) (g : Gift) : Prop :=
  countOn days g.creator (days.startOfDay g.giftedAt) gifts < 10
    ∧ countTo days g.creator g.member (days.startOfDay g.giftedAt) gifts = 0

instance (gifts : List Gift) (g : Gift) : Decidable (HasRoom days gifts g) :=
  inferInstanceAs (Decidable (_ ∧ _))

/-- A gift that is accepted is saved on the day of its construction, or that
day has room for it. -/
def Timely : Event → Prop
  | .save i => ∀ g ∈ s.accepted days i,
      days.startOfDay g.giftedAt = days.startOfDay s.now ∨ HasRoom days s.gifts g
  | _ => True

/-- Nothing is dated in the future. -/
structure Past (s : Server) : Prop where
  drafts : ∀ d ∈ s.drafts, d.giftedAt ≤ s.now
  gifts : ∀ g ∈ s.gifts, g.giftedAt ≤ s.now

section

variable {days : LocalDays} {s : Server} {gifts : List Gift} {g : Gift}

theorem countOn_concat (creator day : Nat) :
    countOn days creator day (gifts ++ [g]) = countOn days creator day gifts
      + if g.creator = creator ∧ days.startOfDay g.giftedAt = day then 1 else 0 := by
  simp [countOn, countP_append, countP_singleton]

theorem countTo_concat (creator member day : Nat) :
    countTo days creator member day (gifts ++ [g]) = countTo days creator member day gifts
    + if g.creator = creator ∧ g.member = member ∧ days.startOfDay g.giftedAt = day
    then 1 else 0 := by simp [countTo, countP_append, countP_singleton, and_assoc]

theorem limited_concat_iff (h : Limited days gifts) :
    Limited days (gifts ++ [g]) ↔ HasRoom days gifts g := by
  constructor
  · intro hnew
    have hday := hnew.perDay g.creator (days.startOfDay g.giftedAt)
    have hmb := hnew.perMember g.creator g.member (days.startOfDay g.giftedAt)
    rw [countOn_concat, if_pos ⟨rfl, rfl⟩] at hday
    rw [countTo_concat, if_pos ⟨rfl, rfl, rfl⟩] at hmb
    exact ⟨by omega, by omega⟩
  · rintro ⟨hday, hmb⟩
    constructor
    · intro creator day
      have hbef := h.perDay creator day
      rw [countOn_concat]
      split
      · rename_i hs
        obtain ⟨rfl, rfl⟩ := hs
        omega
      · omega
    · intro creator member day
      have hbef := h.perMember creator member day
      rw [countTo_concat]
      split
      · rename_i hs
        obtain ⟨rfl, rfl, rfl⟩ := hs
        omega
      · omega

theorem room_of_preSave (hpa : ∀ g ∈ gifts, g.giftedAt ≤ s.now)
    (h : preSave days gifts s.now g = none) :
    countOn days g.creator (days.startOfDay s.now) gifts < 10
      ∧ countTo days g.creator g.member (days.startOfDay s.now) gifts = 0 := by
  simp only [preSave] at h
  split at h
  · cases h
  · rename_i hc
    split at h
    · cases h
    · rename_i hn
      constructor
      · refine lt_of_eq_of_lt (countP_congr fun t ht => ?_) (not_le.mp hc)
        simp [days.ge_iff (hpa t ht)]
      · refine countP_eq_zero.mpr fun t ht hmat => hn ?_
        refine any_eq_true.mpr ⟨t, ht, ?_⟩
        simpa [days.ge_iff (hpa t ht)] using hmat

theorem past_step (h : Past s) (e : Event) : Past (step days s e) := by
  cases e with
  | wait =>
    exact ⟨fun d hd => (h.drafts d hd).trans (Nat.le_add_right _ _),
      fun g hg => (h.gifts g hg).trans (Nat.le_add_right _ _)⟩
  | construct =>
    refine ⟨fun d hd => ?_, h.gifts⟩
    rcases mem_append.mp hd with hd | hd
    · exact h.drafts d hd
    · rw [mem_singleton.mp hd]
      exact le_rfl
  | save =>
    simp only [step]
    split
    · rename_i g hacc
      refine ⟨fun d hd => h.drafts d (mem_of_mem_eraseIdx hd), fun g' hg' => ?_⟩
      rcases mem_append.mp hg' with hg' | hg'
      · exact h.gifts g' hg'
      · rw [mem_singleton.mp hg']
        obtain ⟨hv, -⟩ := Option.filter_eq_some_iff.mp hacc
        obtain ⟨d, hd, hg⟩ := Option.bind_eq_some_iff.mp hv
        rw [giftedAt_of_validated hg]
        exact h.drafts d (mem_of_getElem? hd)
    · exact h

theorem limited_step_iff (hpas : Past s) (h : Limited days s.gifts) (e : Event) :
    Limited days (step days s e).gifts ↔ Timely days s e := by
  cases e with
  | wait d | construct input => exact iff_of_true h trivial
  | save i =>
    simp only [step, Timely]
    cases hacc : s.accepted days i with
    | none => exact iff_of_true h fun g hg => absurd hg (Option.not_mem_none g)
    | some g =>
      have hpa := (Option.filter_eq_some_iff.mp hacc).2
      have hr := room_of_preSave hpas.gifts (of_decide_eq_true hpa)
      rw [limited_concat_iff h]
      constructor
      · intro hnew g' hg'
        cases hg'
        exact .inr hnew
      · intro hti
        rcases hti g rfl with hday | hnew
        · rwa [HasRoom, hday]
        · exact hnew

/-- From an empty store, for any order of constructions, saves and waiting,
the limits hold throughout exactly when every save is timely. -/
theorem limits_kept_iff (days : LocalDays) (now : Nat) (events : List Event) :
    Runs.Always (step days) (fun s => Limited days s.gifts) (Server.start now) events ↔
      Runs.Every (step days) (Timely days) (Server.start now) events := by
  have hpast : Past (Server.start now) :=
    ⟨fun d hd => absurd hd not_mem_nil, fun g hg => absurd hg not_mem_nil⟩
  have hlimi : Limited days (Server.start now).gifts :=
    ⟨fun _ _ => Nat.zero_le _, fun _ _ _ => Nat.zero_le _⟩
  exact Runs.always_iff_every_within (fun s e hs => past_step hs e)
    (fun s e hs hlim => limited_step_iff hs hlim e) hpast hlimi

end

def sampleInput (member : Nat) : GiftInput :=
  { creator := .id 0, member := .id member, content := .id 0, contentType := .str "image",
    originalPrice := .undefined, message := .undefined }

def overMidnight : List Event :=
  [.construct (sampleInput 0), .construct (sampleInput 0), .save 0, .wait 1000, .save 0]

theorem two_gifts_of_a_day :
    ¬ Runs.Always (step utcDays) (fun s => Limited utcDays s.gifts) (Server.start 86399500)
      overMidnight := by
  intro h
  have hc := h.last.perMember 0 0 0
  have htwo : countTo utcDays 0 0 0
      (Runs.final (step utcDays) (Server.start 86399500) overMidnight).gifts = 2 := by
    decide +kernel
  omega

end SexySelfies.Gifts
