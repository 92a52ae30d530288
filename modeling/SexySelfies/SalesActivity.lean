import SexySelfies.Runs
import SexySelfies.SalesActivityModel

/-!
# Daily limits of sales activity

A call of a kind should be refused for the daily limit exactly when the creator has made that many
successful calls of the kind on the same day. No call is ever successful: the handlers count it
first and then notify the member, and the notification throws (`not_notified`). They are counted on
the date of the record only. On any other date `recordInteraction` makes the total `NaN`, which
`save` rejects; what is used of the limits stays as it was.
-/

namespace SexySelfies.SalesActivity

open Js Platform Runs
open SalesLimits (Calendar utc)

/-! ## Runs -/

/-- The stored documents, the successful calls with their dates, and the calls
that were counted, whatever was answered. -/
structure Server where
  db : Db
  made : List (Kind × Nat)
  counted : List Kind

def start (record : Record) (interactions : List Interaction) : Server :=
  ⟨⟨record, interactions⟩, [], []⟩

def Server.madeOn (s : Server) (kind : Kind) (date : Nat) : Nat := s.made.count (kind, date)

def kinds : List Kind := [.pokes, .likes, .messages, .specialOffers]

def sumKinds (n : Kind → Nat) : Nat := (kinds.map n).sum

def dailyLimitMessages : List String :=
  ["Daily poke limit reached", "Daily message limit reached", "Daily offer limit reached"]

def Answer.isDailyLimit : Answer → Bool
  | .failure _ message _ => message ∈ dailyLimitMessages
  | .success _ => false

variable (cal : Calendar) (castId : String → Option Nat) (s : Server) (c : Call)

def step : Server :=
  let (db, answer) := c.run cal castId s.db
  let counted :=
    db.record.interactions.totalInteractions ≠ s.db.record.interactions.totalInteractions
  { db
    made := if answer.isSuccess then (c.kind, cal.date c.request.now) :: s.made else s.made
    counted := if counted then c.kind :: s.counted else s.counted }

def usedUp : Bool :=
  (s.db.record.limit c.kind).any fun l =>
    Number.le l.limit (.fin (s.madeOn c.kind (cal.date c.request.now)))

def Server.Exact (date : Nat) : Prop :=
  (∀ kind ∈ kinds, s.db.record.interactions.get kind = some (.fin (s.madeOn kind date))) ∧
    s.db.record.interactions.totalInteractions
      = some (.fin (sumKinds fun kind => s.madeOn kind date))

/-- The limit is answered exactly when it is used up. -/
def Limited : Prop :=
  ((c.run cal castId s.db).2.isDailyLimit = true ↔ usedUp cal s c = true) ∧
    ((c.run cal castId s.db).2.isSuccess = true →
      (step cal castId s c).Exact (cal.date c.request.now))

/-- The checks that come before the limit: for a poke a valid id and no poke in
the last day, for a message a text that is not blank, for an offer its type and
a message. -/
def Call.checked (db : Db) : Bool :=
  match c.kind with
  | .pokes => (castId c.request.memberId).any fun member => !db.recentPoke member c.request.now
  | .likes => true
  | .messages =>
    match c.request.message with
    | .str text => text ≠ "" && !(trim text.toList).isEmpty
    | _ => false
  | .specialOffers => c.request.offerType.truthy && c.request.message.truthy

/-- Where the limit is zero or less, the request is one for which it is looked
at. Where it is more, it is not looked at when as many calls of the kind have
been counted. -/
def Regular : Prop :=
  ∀ l ∈ s.db.record.limit c.kind,
    if Number.le l.limit (.fin 0) then c.checked castId s.db = true
    else c.checked castId s.db = true → Number.le l.limit (.fin (s.counted.count c.kind)) = false

instance decidableExact (s : Server) (date : Nat) : Decidable (s.Exact date) :=
  inferInstanceAs (Decidable (_ ∧ _))

instance decidableLimited (s : Server) (c : Call) : Decidable (Limited cal castId s c) :=
  inferInstanceAs (Decidable ((_ ↔ _) ∧ (_ → _)))

/-! ## What is recorded -/

/-- The counters of the record, where `n` calls of each kind were counted. -/
structure Tallies (record : Record) (n : Kind → Nat) : Prop where
  interactions : ∀ kind, record.interactions.get kind = some (.fin (n kind))
  total : record.interactions.totalInteractions = some (.fin (sumKinds n))
  used : ∀ kind, ∀ l ∈ record.limit kind, l.used = .fin (n kind)

variable {record record' : Record} {kind : Kind} {segment : Option String} {today : Nat}
  {n : Kind → Nat}

theorem tallies_new (date : Nat) (pokes messages o : Number) :
    Tallies (Record.new date pokes messages o) fun _ => 0 where
  interactions kind := by cases kind <;> rfl
  total := rfl
  used kind l hl := by
    cases kind with
    | likes => cases hl
    | pokes | messages | specialOffers =>
      cases hl
      rfl

variable {i : Interactions} {kind' : Kind}

theorem get_count : (i.count kind).get kind'
      = if kind' = kind then some ((orZero (i.get kind)).add (.fin 1)) else i.get kind' := by
  cases kind <;> cases kind' <;> rfl

theorem total_count : (i.count kind).totalInteractions = some (increment i.totalInteractions) := by
  cases kind <;> rfl

theorem engage_eq (record : Record) (segment : Option String) :
    ∃ segmentsEngaged, record.engage segment = { record with segmentsEngaged } := by
  cases segment with
  | none => exact ⟨record.segmentsEngaged, rfl⟩
  | some =>
    rw [Record.engage]
    split
    · exact ⟨_, rfl⟩
    · exact ⟨record.segmentsEngaged, rfl⟩

theorem interactions_recorded : (record.count kind segment today).interactions
      = (record.resetDay today).interactions.count kind := by
  have huse : ∀ r : Record, (r.useLimit kind).interactions = r.interactions := by
    intro r
    cases kind <;> rfl
  obtain ⟨segments, hen⟩ := engage_eq { record.resetDay today with
      interactions := (record.resetDay today).interactions.count kind } segment
  simp only [Record.count, huse, hen]

theorem limit_recorded : (record.count kind segment today).limit kind'
      = if kind' = kind then (record.limit kind').map Limit.use else record.limit kind' := by
  obtain ⟨segments, hen⟩ := engage_eq { record.resetDay today with
      interactions := (record.resetDay today).interactions.count kind } segment
  have hres : (record.resetDay today).limit kind' = record.limit kind' := by
    rw [Record.resetDay]
    split
    · rfl
    · cases kind' <;> rfl
  rw [← hres, Record.count, hen]
  cases kind <;> cases kind' <;> rfl

theorem date_recorded : (record.count kind segment today).date = today := by
  obtain ⟨segments, hen⟩ := engage_eq { record.resetDay today with
      interactions := (record.resetDay today).interactions.count kind } segment
  have hres : (record.resetDay today).date = today := by
    rw [Record.resetDay]
    split
    · assumption
    · rfl
  rw [Record.count, hen]
  cases kind <;> exact hres

theorem sumKinds_add (m : Kind → Nat) :
    (sumKinds fun kind => n kind + m kind) = sumKinds n + sumKinds m := by
  simp only [sumKinds, kinds, List.map_cons, List.map_nil, List.sum_cons, List.sum_nil]
  omega

def addOne (kind : Kind) (n : Kind → Nat) (kind' : Kind) : Nat :=
  n kind' + if kind' = kind then 1 else 0

theorem sumKinds_addOne : sumKinds (addOne kind n) = sumKinds n + 1 := by
  have hone : (sumKinds fun kind' => if kind' = kind then 1 else 0) = 1 := by
    cases kind <;> rfl
  rw [← hone]
  exact sumKinds_add _

theorem recordInteraction_of_ne (h : record.date ≠ today) :
    record.recordInteraction kind segment today = none := by
  have ht : (record.count kind segment today).interactions.totalInteractions = some .nan := by
    rw [interactions_recorded, total_count, Record.resetDay, if_neg h]
    rfl
  have hnot : (record.count kind segment today).validates kind segment = false := by
    simp [Record.validates, ht, atLeastZero, Number.le]
  rw [Record.recordInteraction, hnot]
  rfl

theorem recordInteraction_some (h : record.recordInteraction kind segment today = some record')
    (hn : Tallies record n) :
    record.date = today ∧ record'.date = today ∧ Tallies record' (addOne kind n) := by
  have hd : record.date = today := by
    by_contra hne
    rw [recordInteraction_of_ne hne] at h
    cases h
  rw [Record.recordInteraction] at h
  split at h
  · cases h
    have hres : record.resetDay today = record := if_pos hd
    refine ⟨hd, date_recorded, ?_, ?_, ?_⟩
    · intro kind'
      rw [interactions_recorded, hres, get_count, addOne]
      split
      · rename_i heq
        rw [heq, hn.interactions, orZero_fin, Number.add_fin, Nat.cast_add, Nat.cast_one]
      · exact hn.interactions kind'
    · rw [interactions_recorded, hres, total_count, hn.total, increment_fin, sumKinds_addOne]
    · intro kind' l hl
      rw [limit_recorded] at hl
      rw [addOne]
      split at hl
      · rename_i heq
        obtain ⟨l', hl', rfl⟩ := Option.mem_map.mp hl
        rw [if_pos heq, Limit.use, hn.used kind' l' hl', increment_fin]
      · rename_i hne
        rw [if_neg hne]
        exact hn.used kind' l hl
  · cases h

/-! ## What a call does -/

section

variable {cal : Calendar} {castId : String → Option Nat} {db db' : Db} {answer : Answer}
  {r : Request}

/-- The call has not succeeded, and either the record is as before or the call
was recorded. -/
def Outcome (cal : Calendar) (kind : Kind) (r : Request) (db db' : Db) (answer : Answer) : Prop :=
  answer.isSuccess = false ∧ (db'.record = db.record ∨
    ∃ segment, db.record.recordInteraction kind segment (cal.date r.now) = some db'.record)

variable {status : Nat} {limit : Option Number}

theorem outcome_failure (message : String) :
    Outcome cal kind r db db (.failure status message limit) := ⟨rfl, .inl rfl⟩

variable {member : Nat} {sent : String}

theorem outcome_interact (error : String) :
    Outcome cal kind r db (db.interact cal kind member r sent error).1
      (db.interact cal kind member r sent error).2 := by
  cases hs : r.saved with
  | false =>
    simp only [Db.interact, hs, Bool.false_eq_true, if_false]
    exact outcome_failure _
  | true =>
    simp only [Db.interact, hs, if_true, not_notified]
    split
    · exact ⟨rfl, .inl rfl⟩
    · next record hrec =>
      rw [Option.ite_none_right_eq_some] at hrec
      exact ⟨rfl, .inr ⟨_, hrec.2⟩⟩

theorem isDailyLimit_interact {error : String} (herr : error ∉ dailyLimitMessages) :
    (db.interact cal kind member r sent error).2.isDailyLimit = false := by
  have hfa : (Answer.failure 500 error none).isDailyLimit = false := decide_eq_false herr
  simp only [Db.interact]
  split
  · split
    · exact hfa
    · dsimp only
      split
      · rfl
      · exact hfa
  · exact hfa

theorem outcome_pokeMember : Outcome cal .pokes r db
    (pokeMember cal castId r db).1 (pokeMember cal castId r db).2 := by
  simp only [pokeMember]
  split
  · exact outcome_failure _
  · split
    · exact outcome_failure _
    · split
      · exact outcome_failure _
      · exact outcome_interact _

theorem outcome_likeMember : Outcome cal .likes r db
    (likeMember cal castId r db).1 (likeMember cal castId r db).2 := by
  simp only [likeMember]
  split
  · exact outcome_failure _
  · split
    · exact outcome_failure _
    · exact outcome_interact _

theorem outcome_sendMessageToMember : Outcome cal .messages r db
    (sendMessageToMember cal castId r db).1 (sendMessageToMember cal castId r db).2 := by
  simp only [sendMessageToMember]
  split
  · exact outcome_failure _
  · split
    · split
      · exact outcome_failure _
      · split
        · exact outcome_failure _
        · split
          · exact outcome_failure _
          · split
            · exact outcome_failure _
            · exact outcome_interact _
    · exact outcome_failure _

theorem outcome_sendSpecialOffer : Outcome cal .specialOffers r db
    (sendSpecialOffer cal castId r db).1 (sendSpecialOffer cal castId r db).2 := by
  simp only [sendSpecialOffer]
  split
  · exact outcome_failure _
  · split
    · exact outcome_failure _
    · split
      · exact outcome_failure _
      · split
        · exact outcome_failure _
        · exact outcome_interact _

variable {c : Call}

theorem outcome_run :
    Outcome cal c.kind c.request db (c.run cal castId db).1 (c.run cal castId db).2 := by
  obtain ⟨kind, r⟩ := c
  cases kind with
  | pokes => exact outcome_pokeMember
  | likes => exact outcome_likeMember
  | messages => exact outcome_sendMessageToMember
  | specialOffers => exact outcome_sendSpecialOffer

theorem isDailyLimit_failure {message : String} (h : message ∉ dailyLimitMessages) :
    (Answer.failure status message limit).isDailyLimit = false := decide_eq_false h

theorem isDailyLimit_check {message : String} (h : message ∈ dailyLimitMessages) (l : Limit)
    {rest : Db × Answer} (hr : rest.2.isDailyLimit = false) :
    (if l.reached then (db, .failure 429 message (some l.limit)) else rest).2.isDailyLimit
      = l.reached := by
  cases l.reached with
  | true => exact decide_eq_true h
  | false => exact hr

theorem isDailyLimit_pokeMember : (pokeMember cal castId r db).2.isDailyLimit
      = (Call.checked castId ⟨.pokes, r⟩ db && db.record.pokes.reached) := by
  cases hc : castId r.memberId with
  | none =>
    simp only [pokeMember, Call.checked, hc, Option.any_none, Bool.false_and]
    exact isDailyLimit_failure (by decide)
  | some member =>
    simp only [pokeMember, Call.checked, hc, Option.any_some]
    cases db.recentPoke member r.now with
    | true => exact isDailyLimit_failure (by decide)
    | false => exact isDailyLimit_check (by decide) _ (isDailyLimit_interact (by decide))

theorem isDailyLimit_likeMember : (likeMember cal castId r db).2.isDailyLimit = false := by
  simp only [likeMember]
  split
  · exact isDailyLimit_failure (by decide)
  · split
    · exact isDailyLimit_failure (by decide)
    · exact isDailyLimit_interact (by decide)

theorem isDailyLimit_sendMessageToMember : (sendMessageToMember cal castId r db).2.isDailyLimit
      = (Call.checked castId ⟨.messages, r⟩ db && db.record.messages.reached) := by
  have herr : (Answer.failure 500 "Error sending message" none).isDailyLimit = false :=
    isDailyLimit_failure (by decide)
  cases hmsg : r.message with
  | str text =>
    simp only [sendMessageToMember, Call.checked, hmsg, Value.truthy]
    by_cases he : text = ""
    · subst he
      exact isDailyLimit_failure (by decide)
    · simp only [he, ne_eq, not_false_eq_true, decide_true, Bool.not_true,
        Bool.false_eq_true, if_false, Bool.true_and]
      cases (trim text.toList).isEmpty with
      | true => exact isDailyLimit_failure (by decide)
      | false =>
        refine isDailyLimit_check (by decide) _ ?_
        split
        · exact herr
        · split
          · exact isDailyLimit_failure (by decide)
          · exact isDailyLimit_interact (by decide)
  | _ =>
    simp only [sendMessageToMember, Call.checked, hmsg, Bool.false_and]
    split
    · exact isDailyLimit_failure (by decide)
    · exact herr

theorem isDailyLimit_sendSpecialOffer : (sendSpecialOffer cal castId r db).2.isDailyLimit
      = (Call.checked castId ⟨.specialOffers, r⟩ db && db.record.offers.reached) := by
  simp only [sendSpecialOffer, Call.checked]
  cases r.offerType.truthy with
  | false => exact isDailyLimit_failure (by decide)
  | true =>
    cases r.message.truthy with
    | false => exact isDailyLimit_failure (by decide)
    | true =>
      refine isDailyLimit_check (by decide) _ ?_
      split
      · exact isDailyLimit_failure (by decide)
      · split
        · exact isDailyLimit_failure (by decide)
        · exact isDailyLimit_interact (by decide)

theorem isDailyLimit_run : (c.run cal castId db).2.isDailyLimit
      = (c.checked castId db && (db.record.limit c.kind).any Limit.reached) := by
  obtain ⟨kind, r⟩ := c
  cases kind with
  | pokes => exact isDailyLimit_pokeMember
  | likes => exact isDailyLimit_likeMember
  | messages => exact isDailyLimit_sendMessageToMember
  | specialOffers => exact isDailyLimit_sendSpecialOffer

end

/-- The record keeps its date, and no call was successful. -/
structure Kept (date : Nat) (s : Server) : Prop where
  date_eq : s.db.record.date = date
  tallies : Tallies s.db.record s.counted.count
  made : s.made = []

section

variable {cal : Calendar} {castId : String → Option Nat} {date : Nat} {s : Server} {c : Call}

theorem kept_start (date : Nat) (pokes messages o : Number) (int : List Interaction) :
    Kept date (start (Record.new date pokes messages o) int) :=
  ⟨rfl, tallies_new date pokes messages o, rfl⟩

theorem count_cons_eq (counted : List Kind) :
    (kind :: counted).count = addOne kind counted.count := by
  funext kind'
  rw [List.count_cons, addOne]
  simp only [beq_iff_eq, @eq_comm _ kind' kind]

theorem kept_step (h : Kept date s) : Kept date (step cal castId s c) := by
  have hout : Outcome cal c.kind c.request s.db (c.run cal castId s.db).1
      (c.run cal castId s.db).2 := outcome_run
  obtain ⟨hf, hs | ⟨segment, hrec⟩⟩ := hout
  · have hsame : (step cal castId s c).counted = s.counted := by simp [step, hs]
    refine ⟨hs ▸ h.date_eq, ?_, ?_⟩
    · rw [hsame]
      exact hs ▸ h.tallies
    · simp [step, hf, h.made]
  · obtain ⟨hd, hd', htal⟩ := recordInteraction_some hrec h.tallies
    have hne : (c.run cal castId s.db).1.record.interactions.totalInteractions
        ≠ s.db.record.interactions.totalInteractions := by
      rw [htal.total, h.tallies.total, sumKinds_addOne]
      simp
    have hcnt : (step cal castId s c).counted = c.kind :: s.counted := by simp [step, hne]
    refine ⟨hd'.trans (hd.symm.trans h.date_eq), ?_, ?_⟩
    · rw [hcnt, count_cons_eq]
      exact htal
    · simp [step, hf, h.made]

/-! ## Refusals and counters -/

theorem le_fin_mono {limit : Number} {a b : Nat} (hle : a ≤ b)
    (h : Number.le limit (.fin a)) : Number.le limit (.fin b) := by
  cases limit with
  | nan => cases h
  | negInf => rfl
  | fin =>
    simp only [Number.le, decide_eq_true_eq] at h ⊢
    exact h.trans (Nat.cast_le.mpr hle)
  | posInf => cases h

theorem Kept.usedUp_eq (h : Kept date s) :
    usedUp cal s c = (s.db.record.limit c.kind).any fun l => Number.le l.limit (.fin 0) := by
  simp [usedUp, Server.madeOn, h.made]

theorem Kept.refused_iff (h : Kept date s) :
    ((c.run cal castId s.db).2.isDailyLimit ↔ usedUp cal s c) ↔ Regular castId s c := by
  rw [isDailyLimit_run, h.usedUp_eq, Regular]
  cases hl : s.db.record.limit c.kind with
  | none => simp
  | some l =>
    have hused : l.reached = Number.le l.limit (.fin (s.counted.count c.kind)) := by
      rw [Limit.reached, h.tallies.used c.kind l hl]
    simp only [Option.any_some, Option.mem_some_iff, forall_eq', Bool.and_eq_true, hused]
    by_cases hz : Number.le l.limit (.fin 0) = true
    · have hle : Number.le l.limit (.fin (s.counted.count c.kind)) = true :=
        le_fin_mono (Nat.zero_le _) (by exact_mod_cast hz)
      simp [hz, hle]
    · simp [hz]

theorem limited_iff_regular (h : Kept date s) :
    Limited cal castId s c ↔ Regular castId s c := by
  rw [Limited, h.refused_iff]
  refine and_iff_left fun hsu => ?_
  rw [outcome_run.1] at hsu
  cases hsu

end

/-- **Daily limits.** For every local calendar, a record created on any date
with any limits, any interactions before, and every finite sequence of calls. -/
theorem daily_limits_exact_iff (cal : Calendar) (castId : String → Option Nat) (date : Nat)
    (pokes messages offers : Number) (interactions : List Interaction) (calls : List Call) :
    Every (step cal castId) (Limited cal castId)
        (start (Record.new date pokes messages offers) interactions) calls ↔
      Every (step cal castId) (Regular castId)
        (start (Record.new date pokes messages offers) interactions) calls :=
  every_iff_within (I := Kept date) (fun _ _ h _ => kept_step h)
    (fun _ _ h => limited_iff_regular h) (kept_start date pokes messages offers interactions)

def someRecord : Record := Record.new 0 (.fin 2) (.fin 2) (.fin 2)

def messageAt (now : Nat) : Call :=
  ⟨.messages, now, "m", .str "hi", .undefined, none, true, true, true, fun _ => true⟩

/-- Two messages are counted on the day of the record, and none was answered with success. The
third of that day is refused for the limit, and so is the first of the next. -/
theorem limit_reached_without_calls :
    let s := final (step utc fun _ => some 0) (start someRecord []) [messageAt 0, messageAt 0]
    s.made = [] ∧ s.counted = [.messages, .messages] ∧
      (∀ now ∈ [0, 86400000], ((messageAt now).run utc (fun _ => some 0) s.db).2
        = .failure 429 "Daily message limit reached" (some (.fin 2))) ∧
      (¬ Every (step utc fun _ => some 0) (Limited utc fun _ => some 0) (start someRecord [])
        [messageAt 0, messageAt 0, messageAt 0]) ∧
      ¬ Every (step utc fun _ => some 0) (Limited utc fun _ => some 0) (start someRecord [])
        [messageAt 0, messageAt 0, messageAt 86400000] := by
  refine ⟨?_, ?_, ?_, ?_, ?_⟩
  · decide +kernel
  · decide +kernel
  · decide +kernel
  · decide +kernel
  · decide +kernel

end SexySelfies.SalesActivity
