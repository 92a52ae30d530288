import SexySelfies.CivilDate
import SexySelfies.JsNumeral
import SexySelfies.Runs
import SexySelfies.SalesLimitsModel
import SexySelfies.Wildcard

/-!
# Resetting the sales limits of a creator

`resetLimits` of `salesLimits.middleware.js` deletes the keys that match `limit:<id>:*` or
`cooldown:<id>:*`. The patterns become regular expressions without anchors, so they are looked for
everywhere in a key. Among the keys that the middlewares make (`Key.Sound`) they still select
exactly those of the creator: the words `limit` and `cooldown` end no field but the first.
-/

namespace SexySelfies.SalesLimits

open Js Platform MemoryStore Runs List Wildcard

def isHexDigit (c : Char) : Bool := (digitOf 16 c).isSome

def IsId (s : String) : Prop := s.toList.length = 24 ∧ s.toList.all isHexDigit = true

instance (s : String) : Decidable (IsId s) := inferInstanceAs (Decidable (_ ∧ _))

/-- The strings that creators and dates have. The model numbers creators; the
ids of two creators differ. -/
structure Texts where
  id : Nat → String
  day : Nat → CivilDate.Date
  id_unique : ∀ c d, IsId (id c) → id c = id d → c = d
  day_injective : Function.Injective day

namespace Texts

variable (texts : Texts)

def getTodayDateString (date : Nat) : String :=
  toString (texts.day date).year ++ "-" ++ toString ((texts.day date).month + 1) ++ "-"
    ++ toString (texts.day date).day

def getCurrentHour (date hours : Nat) : String :=
  texts.getTodayDateString date ++ "-" ++ toString hours

end Texts

variable (texts : Texts)

def Key.text : Key → String
  | .daily creatorId name date =>
    "limit:" ++ texts.id creatorId ++ ":" ++ name ++ ":" ++ texts.getTodayDateString date
  | .hourly creatorId name date hours =>
    "limit:" ++ texts.id creatorId ++ ":" ++ name ++ ":hourly:"
      ++ texts.getCurrentHour date hours
  | .cooldown creatorId memberId action =>
    "cooldown:" ++ texts.id creatorId ++ ":" ++ memberId ++ ":" ++ action

def Key.creatorId : Key → Nat
  | .daily creatorId _ _ => creatorId
  | .hourly creatorId _ _ _ => creatorId
  | .cooldown creatorId _ _ => creatorId

def memoryKeys (pattern : String) (key : Key) : Bool :=
  Wildcard.test (Wildcard.ofPattern pattern.toList) (key.text texts).toList

variable (creatorId : Nat)

def resetPatterns : List String :=
  ["limit:" ++ texts.id creatorId ++ ":*", "cooldown:" ++ texts.id creatorId ++ ":*"]

def resetLimits (s : MemoryStore Key) : MemoryStore Key :=
  (resetPatterns texts creatorId).foldl (fun s pattern => s.deleteAll (memoryKeys texts pattern)) s

/-! ## Calls and resets -/

/-- The type of interaction is what a route passes when it is set up. -/
inductive Check where
  | dailyInteractionLimit (interactionType : String)
  | messageQuota
  | preventSpam
  | bulkActionLimits
  | specialOfferLimits

def Check.run (cal : Calendar) (level : Nat → Option VerificationLevel) (check : Check)
    (r : Request) (s : MemoryStore Key) : MemoryStore Key × Answer :=
  match check with
  | .dailyInteractionLimit interactionType =>
    checkDailyInteractionLimit cal level interactionType r s
  | .messageQuota => checkMessageQuota cal level r s
  | .preventSpam => SalesLimits.preventSpam r s
  | .bulkActionLimits => SalesLimits.bulkActionLimits cal level r s
  | .specialOfferLimits => checkSpecialOfferLimits cal level r s

inductive Event where
  | call (check : Check) (r : Request)
  | resetLimits (creatorId : Nat)

def Event.isCallOf : Event → Bool
  | .call _ r => r.creatorId = creatorId
  | .resetLimits _ => false

variable (cal : Calendar) (level : Nat → Option VerificationLevel) (texts : Texts)

def Event.step (s : MemoryStore Key) : Event → MemoryStore Key
  | .call check r => (check.run cal level r s).1
  | .resetLimits creatorId => SalesLimits.resetLimits texts creatorId s

def after (events : List Event) : MemoryStore Key := final (Event.step cal level texts) empty events

def answers (p : Nat → Prop) [DecidablePred p] : MemoryStore Key → List Event → List Answer
  | _, [] => []
  | s, .call check r :: events =>
    let rest := answers p (check.run cal level r s).1 events
    if p r.creatorId then (check.run cal level r s).2 :: rest else rest
  | s, .resetLimits creatorId :: events =>
    answers p (SalesLimits.resetLimits texts creatorId s) events

/-! ## The keys that are made -/

/-- A type of interaction is a word without the separator of the keys. -/
def Key.Sound : Key → Prop
  | .daily creatorId name _ => IsId (texts.id creatorId) ∧ ':' ∉ name.toList
  | .hourly creatorId name _ _ => IsId (texts.id creatorId) ∧ ':' ∉ name.toList
  | .cooldown creatorId memberId action =>
    IsId (texts.id creatorId) ∧ IsId memberId ∧ ':' ∉ action.toList

variable {key : Key}

theorem Key.Sound.isId {texts : Texts} (h : key.Sound texts) : IsId (texts.id key.creatorId) := by
  cases key with
  | daily creatorId name date | hourly creatorId name date hours
  | cooldown => exact h.1

def Event.Sound : Event → Prop
  | .call (.dailyInteractionLimit interactionType) r =>
    IsId (texts.id r.creatorId) ∧ ':' ∉ interactionType.toList
  | .call .messageQuota r => IsId (texts.id r.creatorId)
  | .call .preventSpam r => IsId (texts.id r.creatorId) ∧ IsId r.memberId
  | .call .bulkActionLimits r => IsId (texts.id r.creatorId)
  | .call .specialOfferLimits r => IsId (texts.id r.creatorId)
  | .resetLimits creatorId => IsId (texts.id creatorId)

section

variable {cal : Calendar} {level : Nat → Option VerificationLevel} {texts : Texts}
  {K : Key → Prop}

variable {r : Request}

theorem checkDailyInteractionLimit_local (i : String) (hkey : K (r.dayKey cal i)) :
    Local K (checkDailyInteractionLimit cal level i r) := by
  intro s s' h
  unfold checkDailyInteractionLimit
  split
  · exact .pure h _
  · dsimp only
    split
    · exact .pure h _
    · have hget := related_get hkey r.now h
      generalize s.get (r.dayKey cal i) r.now = p at hget ⊢
      generalize s'.get (r.dayKey cal i) r.now = p' at hget ⊢
      apply hget.bind
      intro s s' cu h
      dsimp only
      split
      · exact .pure h _
      · exact related_count hkey _ h

theorem Quota.check_local (q : Quota) (r : Request) (hho : K (r.hourKey cal q.name))
    (hday : K (r.dayKey cal q.name)) : Local K (q.check cal level r) := by
  intro s s' h
  have hhou := related_get hho r.now h
  unfold Quota.check
  generalize s.get (r.hourKey cal q.name) r.now = p at hhou ⊢
  generalize s'.get (r.hourKey cal q.name) r.now = p' at hhou ⊢
  apply hhou.bind
  intro s s' hour h
  dsimp only
  split
  · exact .pure h _
  · have hd := related_get hday r.now h
    generalize s.get (r.dayKey cal q.name) r.now = p at hd ⊢
    generalize s'.get (r.dayKey cal q.name) r.now = p' at hd ⊢
    apply hd.bind
    intro s s' d h
    dsimp only
    split
    · exact .pure h _
    · exact (related_count hho () h).bind
        (h := fun p => (p.1.count _ _ _, Answer.next none)) fun s s' _ h => related_count hday _ h

theorem preventSpam_local (hkey : ∀ pe, cooldowns r.action = some pe →
      K (.cooldown r.creatorId r.memberId r.action)) : Local K (preventSpam r) := by
  intro s s' h
  unfold preventSpam
  cases hco : cooldowns r.action with
  | none => exact .pure h _
  | some pe =>
    have hkey := hkey pe hco
    have hget := related_get hkey r.now h
    dsimp only
    generalize s.get (.cooldown r.creatorId r.memberId r.action) r.now = p at hget ⊢
    generalize s'.get (.cooldown r.creatorId r.memberId r.action) r.now = p' at hget ⊢
    apply hget.bind
    intro s s' i h
    dsimp only
    split
    · have httl := related_ttl hkey r.now h
      generalize s.ttl (.cooldown r.creatorId r.memberId r.action) r.now = p at httl ⊢
      generalize s'.ttl (.cooldown r.creatorId r.memberId r.action) r.now = p' at httl ⊢
      apply httl.bind
      intro s s' rt h
      exact .pure h _
    · exact related_set hkey _ h

theorem bulkActionLimits_local (hkey : K (r.dayKey cal "bulk")) :
    Local K (bulkActionLimits cal level r) := by
  intro s s' h
  unfold bulkActionLimits
  split
  · exact .pure h _
  · dsimp only
    split
    · exact .pure h _
    · have hget := related_get hkey r.now h
      generalize s.get (r.dayKey cal "bulk") r.now = p at hget ⊢
      generalize s'.get (r.dayKey cal "bulk") r.now = p' at hget ⊢
      apply hget.bind
      intro s s' b h
      dsimp only
      split
      · exact .pure h _
      · split
        · exact .pure h _
        · exact related_count hkey _ h

theorem cooldowns_plain {a : String} {pe : Nat} (h : cooldowns a = some pe) : ':' ∉ a.toList := by
  obtain ⟨front, back, heq, -⟩ := lookup_eq_some_iff.mp h
  have hall : [("poke", 86400), ("message", 300), ("special-offer", 3600), ("like", 60)].all
      (fun p : String × Nat => ':' ∉ p.1.toList) := by decide
  rw [heq, all_append, all_cons] at hall
  simp only [Bool.and_eq_true, decide_eq_true_eq] at hall
  exact hall.2.1

theorem Check.run_local {check : Check} {r : Request} (h : (Event.call check r).Sound texts) :
    Local (fun key => key.creatorId = r.creatorId ∧ key.Sound texts) (check.run cal level r) := by
  cases check with
  | dailyInteractionLimit i => exact checkDailyInteractionLimit_local i ⟨rfl, h⟩
  | messageQuota =>
    have hpl : ':' ∉ SalesLimits.messageQuota.name.toList := by decide
    exact SalesLimits.messageQuota.check_local r ⟨rfl, h, hpl⟩ ⟨rfl, h, hpl⟩
  | preventSpam => exact preventSpam_local fun _ hco => ⟨rfl, h.1, h.2, cooldowns_plain hco⟩
  | bulkActionLimits => exact bulkActionLimits_local ⟨rfl, h, by decide⟩
  | specialOfferLimits =>
    have hpl : ':' ∉ offerQuota.name.toList := by decide
    exact offerQuota.check_local r ⟨rfl, h, hpl⟩ ⟨rfl, h, hpl⟩

end

/-! ## What the patterns select -/

section

variable {texts : Texts}

theorem IsId.notMem {s : String} (h : IsId s) {c : Char} (hc : isHexDigit c = false) :
    c ∉ s.toList := by
  intro hmem
  have hhex := all_eq_true.mp h.2 c hmem
  rw [hc] at hhex
  exact Bool.false_ne_true hhex

theorem notMem_toString (n : Nat) {c : Char} (hc : c.isDigit = false) :
    c ∉ (toString n).toList := by
  rw [Nat.toString_eq_repr, Nat.toList_repr]
  intro hmem
  have hd := (isDigits_toDigits n).2 c hmem
  rw [hc] at hd
  exact Bool.false_ne_true hd

theorem toList_toString_negSucc (n : Nat) :
    (toString (Int.negSucc n)).toList = '-' :: (toString (n + 1)).toList := by
  simp [toString, Int.repr]

theorem notMem_toString_int (n : Int) {c : Char} (hc : c.isDigit = false) (hne : c ≠ '-') :
    c ∉ (toString n).toList := by
  cases n with
  | ofNat n => exact notMem_toString n hc
  | negSucc =>
    rw [toList_toString_negSucc]
    exact not_mem_cons_of_ne_of_not_mem hne (notMem_toString _ hc)

variable {date : Nat}

theorem toList_getTodayDateString :
    (texts.getTodayDateString date).toList = (toString (texts.day date).year).toList
      ++ '-' :: ((toString ((texts.day date).month + 1)).toList
        ++ '-' :: (toString (texts.day date).day).toList) := by
  simp [Texts.getTodayDateString]

variable {hours : Nat}

theorem toList_getCurrentHour : (texts.getCurrentHour date hours).toList
      = (texts.getTodayDateString date).toList ++ '-' :: (toString hours).toList := by
  simp [Texts.getCurrentHour]

theorem colon_notMem_date : ':' ∉ (texts.getTodayDateString date).toList := by
  rw [toList_getTodayDateString]
  simp only [mem_append, mem_cons, not_or]
  exact ⟨notMem_toString_int _ rfl (by decide), by decide, notMem_toString _ rfl, by decide,
    notMem_toString _ rfl⟩

theorem colon_notMem_hour : ':' ∉ (texts.getCurrentHour date hours).toList := by
  rw [toList_getCurrentHour]
  simp only [mem_append, mem_cons, not_or]
  exact ⟨colon_notMem_date, by decide, notMem_toString _ rfl⟩

def Key.rest (texts : Texts) : Key → String
  | .daily _ name date => name ++ ":" ++ texts.getTodayDateString date
  | .hourly _ name date hours => name ++ ":hourly:" ++ texts.getCurrentHour date hours
  | .cooldown _ memberId action => memberId ++ ":" ++ action

def Key.word : Key → String
  | .daily .. => "limit"
  | .hourly .. => "limit"
  | .cooldown .. => "cooldown"

theorem toList_text :
    (key.text texts).toList = key.word.toList ++ ':' :: ((texts.id key.creatorId).toList
      ++ ':' :: (key.rest texts).toList) := by
  cases key with
  | daily creatorId name date =>
    show ("limit:" ++ texts.id creatorId ++ ":" ++ name ++ ":"
        ++ texts.getTodayDateString date).toList
      = "limit".toList ++ ':' :: ((texts.id creatorId).toList
        ++ ':' :: (name ++ ":" ++ texts.getTodayDateString date).toList)
    simp
  | hourly creatorId name date hours =>
    show ("limit:" ++ texts.id creatorId ++ ":" ++ name ++ ":hourly:"
        ++ texts.getCurrentHour date hours).toList
      = "limit".toList ++ ':' :: ((texts.id creatorId).toList
        ++ ':' :: (name ++ ":hourly:" ++ texts.getCurrentHour date hours).toList)
    simp
  | cooldown creatorId m a =>
    show ("cooldown:" ++ texts.id creatorId ++ ":" ++ m ++ ":" ++ a).toList
      = "cooldown".toList ++ ':' :: ((texts.id creatorId).toList ++ ':' :: (m ++ ":" ++ a).toList)
    simp

variable (creatorId : Nat) (name : String) (date : Nat)

theorem toList_rest_daily : (Key.rest texts (.daily creatorId name date)).toList
    = name.toList ++ ':' :: (texts.getTodayDateString date).toList := by simp [Key.rest]

theorem toList_rest_hourly :
    (Key.rest texts (.hourly creatorId name date hours)).toList = name.toList
      ++ ':' :: ("hourly".toList ++ ':' :: (texts.getCurrentHour date hours).toList) := by
  simp [Key.rest]

theorem toList_rest_cooldown (m a : String) : (Key.rest texts (.cooldown creatorId m a)).toList
    = m.toList ++ ':' :: a.toList := by simp [Key.rest]

def IsWord (u : List Char) : Prop := u = "limit".toList ∨ u = "cooldown".toList

theorem Key.isWord (key : Key) : IsWord key.word.toList := by
  cases key with
  | daily creatorId name date | hourly creatorId name date hours => exact .inl rfl
  | cooldown => exact .inr rfl

variable {u : List Char} {v : String}

theorem IsWord.colon_notMem (hu : IsWord u) : ':' ∉ u := by
  rcases hu with rfl | rfl
  · decide
  · decide

theorem IsWord.suffix_iff {w : List Char} (hu : IsWord u) (hw : IsWord w) : u <:+ w ↔ u = w := by
  rcases hu with rfl | rfl <;> rcases hw with rfl | rfl <;> decide

theorem IsWord.not_suffix (hu : IsWord u) {s : String} (hs : IsId s) : ¬ u <:+ s.toList := by
  intro h
  rcases hu with rfl | rfl
  · exact hs.notMem (c := 't') (by decide) (h.subset (by decide))
  · exact hs.notMem (c := 'n') (by decide) (h.subset (by decide))

theorem not_prefix_of_colon_notMem {w : List Char} (hw : ':' ∉ w) : ¬ v.toList ++ [':'] <+: w := by
  intro h
  exact hw (h.subset (mem_append_right _ mem_cons_self))

theorem not_infix_rest (hu : IsWord u) (hv : IsId v) (h : key.Sound texts) :
    ¬ u ++ ':' :: (v.toList ++ [':']) <:+: (key.rest texts).toList := by
  have hcol := hu.colon_notMem
  cases key with
  | daily =>
    rw [toList_rest_daily, infix_append_sep hcol h.2]
    rintro (⟨-, hpre⟩ | hinf)
    · exact not_prefix_of_colon_notMem colon_notMem_date hpre
    · exact not_infix_of_sep colon_notMem_date hinf
  | hourly =>
    rw [toList_rest_hourly, infix_append_sep hcol h.2,
      prefix_append_sep (hv.notMem (by decide)) (by decide),
      infix_append_sep hcol (by decide)]
    rintro (⟨-, heq⟩ | ⟨-, hpre⟩ | hinf)
    · exact hv.notMem (c := 'h') (by decide) (heq ▸ by decide)
    · exact not_prefix_of_colon_notMem colon_notMem_hour hpre
    · exact not_infix_of_sep colon_notMem_hour hinf
  | cooldown =>
    obtain ⟨-, hmb, hac⟩ := h
    rw [toList_rest_cooldown, infix_append_sep hcol (hmb.notMem (by decide))]
    rintro (⟨hsu, -⟩ | hinf)
    · exact hu.not_suffix hmb hsu
    · exact not_infix_of_sep hac hinf

theorem occurs_iff (hu : IsWord u) (hv : IsId v) (h : key.Sound texts) :
    u ++ ':' :: (v.toList ++ [':']) <:+: (key.text texts).toList
      ↔ u = key.word.toList ∧ v = texts.id key.creatorId := by
  have hcol : ':' ∉ (texts.id key.creatorId).toList := h.isId.notMem (by decide)
  rw [toList_text, infix_append_sep hu.colon_notMem key.isWord.colon_notMem,
    prefix_append_sep (hv.notMem (by decide)) hcol,
    infix_append_sep hu.colon_notMem hcol, hu.suffix_iff key.isWord, String.toList_inj]
  refine or_iff_left ?_
  rintro (⟨hsu, -⟩ | hinf)
  · exact hu.not_suffix h.isId hsu
  · exact not_infix_rest hu hv h hinf

/-! ## What a reset removes -/

variable {s : MemoryStore Key} {c : Nat}

theorem memoryKeys_iff {w : String} (hu : IsWord u) (hw : w.toList = u ++ [':'])
    (hc : IsId (texts.id c)) (h : key.Sound texts) :
    memoryKeys texts (w ++ texts.id c ++ ":*") key
      ↔ u = key.word.toList ∧ key.creatorId = c := by
  have hpa : (w ++ texts.id c ++ ":*").toList
      = u ++ ':' :: ((texts.id c).toList ++ [':']) ++ ['*'] := by simp [hw]
  have hst : '*' ∉ u ++ ':' :: ((texts.id c).toList ++ [':']) := by
    have hwo : '*' ∉ u := by rcases hu with rfl | rfl <;> decide
    simp only [mem_append, mem_cons, not_mem_nil, or_false, not_or]
    exact ⟨hwo, by decide, hc.notMem (by decide), by decide⟩
  rw [memoryKeys, hpa, test_ofPattern hst, occurs_iff hu hc h]
  refine and_congr_right fun _ => ⟨fun hid => ?_, fun heq => heq ▸ rfl⟩
  exact (texts.id_unique c key.creatorId hc hid).symm

/-- Only keys that the middlewares make are stored. -/
def Stored (texts : Texts) (s : MemoryStore Key) : Prop :=
  ∀ key, s.items key ≠ none → key.Sound texts

theorem items_resetLimits (hc : IsId (texts.id c)) (hs : Stored texts s) (key : Key) :
    (resetLimits texts c s).items key = if key.creatorId = c then none else s.items key := by
  simp only [resetLimits, resetPatterns, foldl_cons, foldl_nil, items_deleteAll]
  by_cases hkey : s.items key = none
  · simp [hkey]
  · have hsd := hs key hkey
    have hl := memoryKeys_iff (w := "limit:") (.inl rfl) (by decide) hc hsd
    have hco := memoryKeys_iff (w := "cooldown:") (.inr rfl) (by decide) hc hsd
    by_cases hcr : key.creatorId = c
    · rw [if_pos hcr]
      rcases key.isWord with hwo | hwo
      · rw [if_pos (hl.mpr ⟨hwo.symm, hcr⟩), ite_self]
      · exact if_pos (hco.mpr ⟨hwo.symm, hcr⟩)
    · rw [if_neg hcr, if_neg fun h => hcr (hco.mp h).2, if_neg fun h => hcr (hl.mp h).2]

end

/-! ## Runs with a reset -/

section

variable {cal : Calendar} {level : Nat → Option VerificationLevel} {texts : Texts}
  {s s' : MemoryStore Key} {events : List Event} {c : Nat}

theorem Event.step_stored {e : Event} (he : e.Sound texts) (hs : Stored texts s) :
    Stored texts (e.step cal level texts s) := by
  intro key hkey
  cases e with
  | call =>
    by_contra hsd
    refine hsd (hs key ?_)
    rwa [← (Check.run_local he).frame s fun h => hsd h.2]
  | resetLimits creatorId =>
    rw [Event.step, items_resetLimits he hs] at hkey
    by_cases hcr : key.creatorId = creatorId
    · exact absurd (if_pos hcr) hkey
    · rw [if_neg hcr] at hkey
      exact hs key hkey

theorem after_stored (h : ∀ e ∈ events, e.Sound texts) :
    Stored texts (after cal level texts events) := by
  have hrun : Always (Event.step cal level texts) (Stored texts) empty events :=
    always_of_every (fun _ _ hs he => Event.step_stored he hs) (fun _ hkey => absurd rfl hkey)
      (every_of_forall h)
  exact hrun.last

theorem after_eq_none (h : ∀ e ∈ events, e.Sound texts)
    (hcal : ∀ e ∈ events, e.isCallOf c = false) (hkey : key.creatorId = c) :
    (after cal level texts events).items key = none := by
  refine (always_of_every (I := fun s : MemoryStore Key => s.items key = none) ?_ rfl
    (every_of_forall fun e he => And.intro (h e he) (hcal e he))).last
  rintro s e hs ⟨hsd, hc⟩
  cases e with
  | call check r =>
    have hne : ¬ (key.creatorId = r.creatorId ∧ key.Sound texts) := by
      rintro ⟨heq, -⟩
      exact of_decide_eq_false hc (heq.symm.trans hkey)
    exact ((Check.run_local hsd).frame s hne).trans hs
  | resetLimits =>
    simp [Event.step, resetLimits, resetPatterns, items_deleteAll, hs]

variable {p : Nat → Prop} [DecidablePred p]
variable (cal level) in
theorem Check.run_agree {check : Check} {r : Request} (he : (Event.call check r).Sound texts)
    (h : AgreeOn (fun key => p key.creatorId) s s') :
    AgreeOn (fun key => p key.creatorId) (check.run cal level r s).1 (check.run cal level r s').1
      ∧ (p r.creatorId → (check.run cal level r s).2 = (check.run cal level r s').2) := by
  have hloc : Local _ (check.run cal level r) := Check.run_local he
  by_cases hp : p r.creatorId
  · have hown : AgreeOn (fun key => key.creatorId = r.creatorId ∧ key.Sound texts) s s' := by
      rintro key ⟨hcr, -⟩
      exact h key (hcr.symm ▸ hp : p key.creatorId)
    have hrel := hloc s s' hown
    refine ⟨fun key hkey => ?_, fun _ => hrel.answer⟩
    by_cases hK : key.creatorId = r.creatorId ∧ key.Sound texts
    · exact hrel.agree key hK
    · rw [hloc.frame s hK, hloc.frame s' hK, h key hkey]
  · refine ⟨fun key hkey => ?_, fun h => absurd h hp⟩
    have hK : ¬ (key.creatorId = r.creatorId ∧ key.Sound texts) := by
      rintro ⟨hcr, -⟩
      exact hp (hcr ▸ hkey)
    rw [hloc.frame s hK, hloc.frame s' hK, h key hkey]

theorem answers_congr (hev : ∀ e ∈ events, e.Sound texts)
    (h : AgreeOn (fun key => p key.creatorId) s s') :
    answers cal level texts p s events = answers cal level texts p s' events := by
  induction events generalizing s s' with
  | nil => rfl
  | cons e events ih =>
    obtain ⟨he, hr⟩ := forall_mem_cons.mp hev
    cases e with
    | call check r =>
      obtain ⟨hagr, hans⟩ := Check.run_agree cal level he h
      simp only [answers, ih hr hagr]
      by_cases hp : p r.creatorId
      · rw [if_pos hp, if_pos hp, hans hp]
      · rw [if_neg hp, if_neg hp]
    | resetLimits =>
      simp only [answers, resetLimits, resetPatterns, foldl_cons, foldl_nil]
      exact ih hr ((h.deleteAll _).deleteAll _)

end

def sampleId : Nat → String
  | 0 => "64b7f0c2a1d3e4f5a6b7c8d9"
  | 1 => "64b7f0c2a1d3e4f5a6b7c8da"
  | _ + 2 => ""

theorem sampleId_unique (c d : Nat) (hc : IsId (sampleId c)) (h : sampleId c = sampleId d) :
    c = d := by
  have hdi : sampleId 0 ≠ sampleId 1 := by decide
  have hn : ∀ n, ¬ IsId (sampleId (n + 2)) := fun _ => (by decide : ¬ IsId "")
  have hd : IsId (sampleId d) := Eq.mp (congrArg IsId h) hc
  rcases c with _ | _ | c
  · rcases d with _ | _ | d
    · rfl
    · exact absurd h hdi
    · exact absurd hd (hn d)
  · rcases d with _ | _ | d
    · exact absurd h.symm hdi
    · rfl
    · exact absurd hd (hn d)
  · exact absurd hc (hn c)

theorem sampleMonth_lt : 0 < 12 := Nat.succ_pos 11

def sampleTexts : Texts where
  id := sampleId
  day date := CivilDate.firstOf date 0 sampleMonth_lt
  id_unique := sampleId_unique
  day_injective _ _ h := Int.ofNat.inj (congrArg CivilDate.Date.year h)

def pokeBy (creatorId now : Nat) : Event :=
  .call .preventSpam ⟨creatorId, now, false, .missing, "64b7f0c2a1d3e4f5a6b7c8ff", "poke", .null⟩

/-- **A reset is felt by its creator alone.** From then on the calls of the creator are answered as
if none had been made before, and those of the others as if there had been no reset. -/
theorem reset_felt_by_creator_alone (cal : Calendar) (level : Nat → Option VerificationLevel)
    (texts : Texts) (events later : List Event) (c : Nat) (hc : IsId (texts.id c))
    (hevents : ∀ e ∈ events, e.Sound texts) (hlater : ∀ e ∈ later, e.Sound texts) :
    (∀ key, (resetLimits texts c (after cal level texts events)).items key
        = if key.creatorId = c then none else (after cal level texts events).items key)
      ∧ answers cal level texts (· = c) (resetLimits texts c (after cal level texts events)) later
        = answers cal level texts (· = c)
            (after cal level texts (events.filter fun e => !e.isCallOf c)) later
      ∧ answers cal level texts (· ≠ c) (resetLimits texts c (after cal level texts events)) later
        = answers cal level texts (· ≠ c) (after cal level texts events) later := by
  have hsto : Stored texts (after cal level texts events) := after_stored hevents
  have hite := items_resetLimits hc hsto
  refine ⟨hite, answers_congr hlater fun key hkey => ?_, answers_congr hlater fun key hkey => ?_⟩
  · rw [hite, if_pos hkey]
    refine (after_eq_none (fun e he => hevents e (mem_filter.mp he).1) (fun e he => ?_) hkey).symm
    simpa using (mem_filter.mp he).2
  · rw [hite, if_neg hkey]

theorem reset_between_pokes :
    IsId (sampleTexts.id 0) ∧ (∀ e ∈ [pokeBy 0 0, pokeBy 1 1], e.Sound sampleTexts)
      ∧ (∀ e ∈ [pokeBy 0 2, pokeBy 1 3], e.Sound sampleTexts)
      ∧ answers utc (fun _ => none) sampleTexts (· = 0) (resetLimits sampleTexts 0
          (after utc (fun _ => none) sampleTexts [pokeBy 0 0, pokeBy 1 1])) [pokeBy 0 2, pokeBy 1 3]
        = answers utc (fun _ => none) sampleTexts (· = 0)
            (after utc (fun _ => none) sampleTexts [pokeBy 1 1]) [pokeBy 0 2, pokeBy 1 3] := by
  have hz : IsId (sampleTexts.id 0) := by decide
  have hone : IsId (sampleTexts.id 1) := by decide
  have hmem : IsId "64b7f0c2a1d3e4f5a6b7c8ff" := by decide
  have hs : ∀ now now', ∀ e ∈ [pokeBy 0 now, pokeBy 1 now'], e.Sound sampleTexts := by
    intro now now'
    simp only [forall_mem_cons]
    exact ⟨⟨hz, hmem⟩, ⟨hone, hmem⟩, nofun⟩
  exact ⟨hz, hs 0 1, hs 2 3, (reset_felt_by_creator_alone utc (fun _ => none) sampleTexts
    [pokeBy 0 0, pokeBy 1 1] [pokeBy 0 2, pokeBy 1 3] 0 hz (hs 0 1) (hs 2 3)).2.1⟩

end SexySelfies.SalesLimits
