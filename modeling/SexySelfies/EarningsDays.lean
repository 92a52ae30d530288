import SexySelfies.SaleCompletion

/-!
# The balance record from day to day

`completeTip` and `completeMessageUnlock` add a transaction's share to four places of a creator's
record: its source, the lifetime earnings, the pending payout, and the figures of the day. These
start anew when `lastUpdated` shows another day, and only that branch writes `lastUpdated`.

For tips the four agree after every call. A message is looked up by `referenceId`, which a
transaction does not have, so its completion throws before anything is saved.
-/

namespace SexySelfies.Sales

open Js Platform CivilDate Payments List Runs

structure Days where
  dayOf : Nat → Date
  between : ∀ t u v, t ≤ u → u ≤ v → dayOf t = dayOf v → dayOf u = dayOf v

inductive CompletionKind where
  | tip
  | messageUnlock
deriving DecidableEq

structure Completion where
  kind : CompletionKind
  id : Nat
  sale : Sale
  time : Nat
  saves : Saves

variable (days : Days)

def Completion.context (c : Completion) : Context := ⟨days.dayOf c.time, c.saves⟩

def Completion.run (c : Completion) (db : Db) : Except Db Db :=
  match c.kind with
  | .tip => completeTip (c.context days) c.sale db
  | .messageUnlock => completeMessageUnlock (c.context days) c.id c.sale db

def complete (db : Db) (c : Completion) : Db := settled (c.run days db)

def Completion.Saved (db : Db) (c : Completion) : Prop :=
  match c.kind with
  | .tip => ∃ db', c.run days db = .ok db'
  | .messageUnlock => c.saves.message = true ∧ c.saves.earnings = true

def earned (cs : List Completion) : ℚ := (cs.map fun c => c.sale.creatorEarnings).sum

def ofKind (kind : CompletionKind) (cs : List Completion) : Nat :=
  cs.countP fun c => c.kind = kind

def onDay (day : Date) (cs : List Completion) : List Completion :=
  cs.filter fun c => days.dayOf c.time = day

/-- What the calls `cs` have added to the record `e`, the figures of the day
apart. -/
structure Grown (e : Earnings) (cs : List Completion) (e' : Earnings) : Prop where
  lifetime : e'.lifetimeEarnings = e.lifetimeEarnings + earned cs
  pending : ∃ p, e.pending.amount = some p ∧ e'.pending.amount = some (p + earned cs)
  sources : e'.tips.amount + e'.messages.amount = e.tips.amount + e.messages.amount + earned cs
  tips : e'.tips.count = e.tips.count + ofKind .tip cs
  messages : e'.messages.count = e.messages.count + ofKind .messageUnlock cs

/-- After the call `c`, all figures are those of the calls. -/
def Agrees (creator : Nat) (e : Earnings) (cs : List Completion) (c : Completion)
    (db : Db) : Prop :=
  ∃ e', db.earnings creator = some e' ∧ Grown e (cs ++ [c]) e'
    ∧ e'.todayEarnings.amount = earned (onDay days (days.dayOf c.time) (cs ++ [c]))
    ∧ e'.todayEarnings.transactionCount = (onDay days (days.dayOf c.time) (cs ++ [c])).length

variable {cs : List Completion}

theorem earned_concat (c : Completion) :
    earned (cs ++ [c]) = earned cs + c.sale.creatorEarnings := by simp [earned]

theorem ofKind_concat (kind : CompletionKind) (c : Completion) :
    ofKind kind (cs ++ [c]) = ofKind kind cs + if c.kind = kind then 1 else 0 := by
  simp [ofKind, countP_cons]

variable {c : Completion} {days : Days}

theorem onDay_concat_of_eq {day : Date} (h : days.dayOf c.time = day) :
    onDay days day (cs ++ [c]) = onDay days day cs ++ [c] := by simp [onDay, h]

theorem addTip_eq_some {e e' : Earnings} {x : ℚ} {today : Date} (h : e.addTip x today = some e') :
    (∃ p, e.pending.amount = some p ∧ e'.pending.amount = some (p + x))
      ∧ e'.lifetimeEarnings = e.lifetimeEarnings + x
      ∧ e'.tips = e.tips.add x ∧ e'.messages = e.messages
      ∧ e'.todayEarnings = e.todayEarnings.add x today := by
  simp only [Earnings.addTip, Earnings.credit, Earnings.addGoals, PendingPayout.add,
    Option.bind_eq_bind, Option.bind_eq_some_iff, Option.map_eq_some_iff, Option.pure_def,
    Option.some.injEq] at h
  obtain ⟨_, ⟨_, ⟨p, hp, rfl⟩, rfl⟩, _, ⟨_, _, _, _, rfl⟩, rfl⟩ := h
  exact ⟨⟨p, hp, rfl⟩, rfl, rfl, rfl, rfl⟩

theorem complete_messageUnlock (days : Days) (db : Db) (hk : c.kind = .messageUnlock) :
    complete days db c = db := by
  rw [complete, Completion.run, hk]
  exact congrArg settled completeMessageUnlock_throws

variable {creator : Nat} {e : Earnings}

theorem creditEarnings_eq_ok {c : Context} {add : Earnings → Option Earnings} {db db' : Db}
    (he : db.earnings creator = some e) (h : creditEarnings c creator add db = .ok db') :
    ∃ e', db'.earnings creator = some e' ∧ add e = some e' := by
  rw [creditEarnings, he, Option.getD_some] at h
  cases hadd : add e with
  | none =>
    rw [hadd] at h
    cases h
  | some e' =>
    rw [hadd] at h
    dsimp only at h
    split at h
    · cases h
      exact ⟨e', Function.update_self creator _ _, rfl⟩
    · cases h

theorem complete_tip {db : Db} (he : db.earnings creator = some e) (hk : c.kind = .tip)
    (hcr : c.sale.transaction.creator = creator) (hs : c.Saved days db) :
    ∃ e', (complete days db c).earnings creator = some e'
      ∧ e.addTip c.sale.creatorEarnings (days.dayOf c.time) = some e' := by
  obtain ⟨db', hrun⟩ : ∃ db', c.run days db = .ok db' := by
    rwa [Completion.Saved, hk] at hs
  have hdb' : complete days db c = db' := congrArg settled hrun
  subst hcr
  rw [Completion.run, hk] at hrun
  rw [hdb']
  exact creditEarnings_eq_ok he hrun

/-! ## Tips -/

/-- The figures of the day at every later time: on the day of `lastUpdated`
they are those of that day's calls, and on another day there were no calls. -/
def DayFigures (days : Days) (today : TodayEarnings) (cs : List Completion) : Prop :=
  ∀ t, (∀ c ∈ cs, c.time ≤ t) →
    if today.lastUpdated = days.dayOf t then
      today.amount = earned (onDay days (days.dayOf t) cs)
        ∧ today.transactionCount = (onDay days (days.dayOf t) cs).length
    else onDay days (days.dayOf t) cs = []

variable {cs : List Completion}

theorem add_figures {today : TodayEarnings} (h : DayFigures days today cs)
    (hl : ∀ d ∈ cs, d.time ≤ c.time) :
    (today.add c.sale.creatorEarnings (days.dayOf c.time)).lastUpdated = days.dayOf c.time
      ∧ (today.add c.sale.creatorEarnings (days.dayOf c.time)).amount
        = earned (onDay days (days.dayOf c.time) (cs ++ [c]))
      ∧ (today.add c.sale.creatorEarnings (days.dayOf c.time)).transactionCount
        = (onDay days (days.dayOf c.time) (cs ++ [c])).length := by
  have hnow := h c.time hl
  rw [onDay_concat_of_eq rfl, earned_concat, length_append, length_singleton]
  by_cases hs : today.lastUpdated = days.dayOf c.time
  · rw [if_pos hs] at hnow
    obtain ⟨hamt, hc⟩ := hnow
    rw [TodayEarnings.add, if_pos hs]
    exact ⟨hs, congrArg (· + _) hamt, congrArg (· + 1) hc⟩
  · rw [if_neg hs] at hnow
    rw [TodayEarnings.add, if_neg hs, hnow]
    exact ⟨rfl, (zero_add _).symm, rfl⟩

theorem dayFigures_add {today : TodayEarnings} (h : DayFigures days today cs)
    (hl : ∀ d ∈ cs, d.time ≤ c.time) :
    DayFigures days (today.add c.sale.creatorEarnings (days.dayOf c.time)) (cs ++ [c]) := by
  intro t ht
  obtain ⟨hup, hamt, hc⟩ := add_figures h hl
  have hct : c.time ≤ t := ht c (mem_append_right cs (mem_singleton.mpr rfl))
  rw [hup]
  by_cases hs : days.dayOf c.time = days.dayOf t
  · rw [if_pos hs, ← hs]
    exact ⟨hamt, hc⟩
  · -- a call on the day of `t` would put that of `c` between the two
    rw [if_neg hs, onDay, filter_eq_nil_iff]
    intro d hd hday
    have hday' : days.dayOf d.time = days.dayOf t := of_decide_eq_true hday
    rcases mem_append.mp hd with hd | hd
    · exact hs (days.between d.time c.time t (hl d hd) hct hday')
    · obtain rfl := mem_singleton.mp hd
      exact hs hday'

theorem grown_addTip {e' e'' : Earnings} {today : Date} (h : Grown e cs e') (hk : c.kind = .tip)
    (hadd : e'.addTip c.sale.creatorEarnings today = some e'') : Grown e (cs ++ [c]) e'' := by
  obtain ⟨⟨p, hp, hp'⟩, hli, hti, hms, -⟩ := addTip_eq_some hadd
  obtain ⟨q, hq, hq'⟩ := h.pending
  obtain rfl : q + earned cs = p := Option.mem_unique hq' hp
  refine ⟨?_, ⟨q, hq, ?_⟩, ?_, ?_, ?_⟩
  · rw [hli, h.lifetime, earned_concat, add_assoc]
  · rw [hp', earned_concat, add_assoc]
  · rw [hti, hms, Source.add, earned_concat, ← add_assoc, ← h.sources]
    exact add_right_comm _ _ _
  · rw [hti, Source.add, h.tips, ofKind_concat, hk]
    rfl
  · rw [hms, h.messages, ofKind_concat, hk]
    rfl

/-- The figures that agree until the next call. -/
def Kept (days : Days) (creator : Nat) (e : Earnings) (cs : List Completion) (db : Db) : Prop :=
  ∃ e', db.earnings creator = some e' ∧ Grown e cs e' ∧ DayFigures days e'.todayEarnings cs

theorem kept_nil {db : Db} (he : db.earnings creator = some e)
    (hpe : e.pending.amount.isSome)
    (hz : e.todayEarnings.amount = 0 ∧ e.todayEarnings.transactionCount = 0) :
    Kept days creator e [] db := by
  obtain ⟨p, hp⟩ := Option.isSome_iff_exists.mp hpe
  refine ⟨e, he, ⟨(add_zero _).symm, ⟨p, hp, ?_⟩, (add_zero _).symm, rfl, rfl⟩, fun t _ => ?_⟩
  · exact hp.trans (congrArg some (add_zero p).symm)
  · split
    · exact hz
    · rfl

variable {db : Db}

theorem kept_concat (h : Kept days creator e cs db) (hk : c.kind = .tip)
    (hcr : c.sale.transaction.creator = creator) (hs : c.Saved days db)
    (hl : ∀ d ∈ cs, d.time ≤ c.time) : Kept days creator e (cs ++ [c]) (complete days db c)
      ∧ Agrees days creator e cs c (complete days db c) := by
  obtain ⟨e', he', hgro, hfi⟩ := h
  obtain ⟨e'', he'', hadd⟩ := complete_tip he' hk hcr hs
  have hgro' : Grown e (cs ++ [c]) e'' := grown_addTip hgro hk hadd
  obtain ⟨-, -, -, -, htod⟩ := addTip_eq_some hadd
  obtain ⟨-, hamt, hc⟩ := add_figures hfi hl
  refine ⟨⟨e'', he'', hgro', ?_⟩, e'', he'', hgro', ?_, ?_⟩
  · rw [htod]
    exact dayFigures_add hfi hl
  · rw [htod, hamt]
  · rw [htod, hc]

theorem kept_final (h : Kept days creator e [] db) (hk : ∀ c ∈ cs, c.kind = .tip)
    (hcr : ∀ c ∈ cs, c.sale.transaction.creator = creator)
    (htim : cs.Pairwise fun c d => c.time ≤ d.time)
    (hs : Every (complete days) (fun db c => c.Saved days db) db cs) :
    Kept days creator e cs (final (complete days) db cs) := by
  induction cs using List.reverseRecOn with
  | nil => exact h
  | append_singleton cs c ih =>
    obtain ⟨hcs, -, hl⟩ := pairwise_append.mp htim
    obtain ⟨hs, hc, -⟩ := Every.append.mp hs
    have hmem : c ∈ cs ++ [c] := mem_append_right cs (mem_singleton.mpr rfl)
    have hkp := ih (fun d hd => hk d (mem_append_left [c] hd))
      (fun d hd => hcr d (mem_append_left [c] hd)) hcs hs
    rw [final_append]
    exact (kept_concat hkp (hk c hmem) (hcr c hmem) hc
      fun d hd => hl d hd c (mem_singleton.mpr rfl)).1

theorem messages_final (he : db.earnings creator = some e)
    (hcr : ∀ c ∈ cs, c.sale.transaction.creator = creator)
    (hsv : Every (complete days) (fun db c => c.Saved days db) db cs) :
    ∃ e', (final (complete days) db cs).earnings creator = some e' ∧ e'.messages = e.messages := by
  induction cs generalizing db e with
  | nil => exact ⟨e, he, rfl⟩
  | cons c cs ih =>
    obtain ⟨hc, hcs⟩ := forall_mem_cons.mp hcr
    obtain ⟨hsav, hs⟩ := hsv
    cases hk : c.kind with
    | tip =>
      obtain ⟨e₁, he₁, hadd⟩ := complete_tip he hk hc hsav
      obtain ⟨-, -, -, hms, -⟩ := addTip_eq_some hadd
      obtain ⟨e', he', hkp⟩ := ih he₁ hcs hs
      exact ⟨e', he', hkp.trans hms⟩
    | messageUnlock =>
      have hsm := complete_messageUnlock days db hk
      rw [hsm] at hs
      rw [final_cons, hsm]
      exact ih he hcs hs

theorem tip_of_agrees (he : db.earnings creator = some e)
    (hcr : ∀ d ∈ cs ++ [c], d.sale.transaction.creator = creator)
    (hs : Every (complete days) (fun db c => c.Saved days db) db (cs ++ [c]))
    (h : Agrees days creator e cs c (final (complete days) db (cs ++ [c]))) : c.kind = .tip := by
  obtain ⟨e', he', hgro, -⟩ := h
  obtain ⟨e₁, he₁, hms⟩ := messages_final he hcr hs
  obtain rfl := Option.mem_unique he' he₁
  have hc := hgro.messages
  rw [hms, ofKind_concat] at hc
  cases hk : c.kind with
  | tip => rfl
  | messageUnlock =>
    rw [if_pos hk] at hc
    omega

/-- Of completions at non-decreasing times whose saves are accepted, all figures agree after each
call exactly when no call completes a message. -/
theorem earnings_agree_iff (days : Days) (creator : Nat) (db : Db) (e : Earnings)
    (he : db.earnings creator = some e) (hpending : e.pending.amount.isSome = true)
    (hzero : e.todayEarnings.amount = 0 ∧ e.todayEarnings.transactionCount = 0)
    (calls : List Completion) (hcreator : ∀ c ∈ calls, c.sale.transaction.creator = creator)
    (htimes : calls.Pairwise fun c d => c.time ≤ d.time)
    (hsaved : Runs.Every (complete days) (fun db c => c.Saved days db) db calls) :
    (∀ cs c rest, calls = cs ++ c :: rest →
        Agrees days creator e cs c (Runs.final (complete days) db (cs ++ [c]))) ↔
      ∀ c ∈ calls, c.kind = .tip := by
  have hsp : ∀ {cs c rest}, calls = cs ++ c :: rest →
      (∀ d ∈ cs ++ [c], d ∈ calls) ∧ (∀ d ∈ cs, d.time ≤ c.time)
        ∧ cs.Pairwise (fun c d => c.time ≤ d.time)
        ∧ Every (complete days) (fun db c => c.Saved days db) db (cs ++ [c]) := by
    rintro cs c rest rfl
    obtain ⟨hcs, -, hl⟩ := pairwise_append.mp htimes
    rw [append_cons] at hsaved
    refine ⟨fun d hd => ?_, ?_, hcs, (Every.append.mp hsaved).1⟩
    · rw [append_cons]
      exact mem_append_left rest hd
    · exact fun d hd => hl d hd c mem_cons_self
  constructor
  · intro h c hc
    obtain ⟨cs, rest, heq⟩ := append_of_mem hc
    obtain ⟨hmem, -, -, hev⟩ := hsp heq
    exact tip_of_agrees he (fun d hd => hcreator d (hmem d hd)) hev (h cs c rest heq)
  · intro htips cs c rest heq
    obtain ⟨hmem, hl, hcs, hev⟩ := hsp heq
    obtain ⟨hbef, hc, -⟩ := Every.append.mp hev
    have hmemc : c ∈ calls := hmem c (mem_append_right cs (mem_singleton.mpr rfl))
    have hin : ∀ d ∈ cs, d ∈ calls := fun d hd => hmem d (mem_append_left [c] hd)
    have hk := kept_final (kept_nil he hpending hzero) (fun d hd => htips d (hin d hd))
      (fun d hd => hcreator d (hin d hd)) hcs hbef
    rw [final_append]
    exact (kept_concat hk (htips c hmemc) (hcreator c hmemc) hc hl).2

/-! ## Sample calls -/

def twoDays : Days where
  dayOf t := if t < 86400000 then newYear else newYear.nextDay
  between t u v htu huv h := by
    by_cases hv : v < 86400000
    · rw [if_pos (Nat.lt_of_le_of_lt huv hv), if_pos hv]
    · by_cases ht : t < 86400000
      · rw [if_pos ht, if_neg hv] at h
        exact absurd h (by decide)
      · rw [if_neg fun hu => ht (Nat.lt_of_le_of_lt htu hu), if_neg hv]

def tipAt (time : Nat) : Completion := ⟨.tip, 0, soldTip .completed, time, acceptingContext.saves⟩

def messageAt (time : Nat) : Completion :=
  let sale := soldTip .completed
  { kind := .messageUnlock, id := 1, time, saves := acceptingContext.saves
    sale := { sale with transaction := { sale.transaction with type := .messageUnlock } } }

def untouched : Earnings := { Earnings.new newYear with pending := ⟨some 0, none, none⟩ }

theorem earnings_agree_over_midnight : payableTipDb.earnings 0 = some untouched
    ∧ ∀ cs c rest, [tipAt 0, tipAt 5, tipAt 86400000] = cs ++ c :: rest →
      Agrees twoDays 0 untouched cs c (Runs.final (complete twoDays) payableTipDb (cs ++ [c])) := by
  refine ⟨rfl, (earnings_agree_iff twoDays 0 payableTipDb untouched rfl rfl ⟨rfl, rfl⟩
    [tipAt 0, tipAt 5, tipAt 86400000] (by decide +kernel) (by decide)
    ⟨⟨_, rfl⟩, ⟨_, rfl⟩, ⟨_, rfl⟩, trivial⟩).mpr ?_⟩
  decide +kernel

theorem earnings_miss_message :
    Runs.Every (complete twoDays) (fun db c => c.Saved twoDays db) payableTipDb
        [tipAt 0, messageAt 5]
      ∧ ((Runs.final (complete twoDays) payableTipDb [tipAt 0, messageAt 5]).earnings 0).map
        (fun e => (e.lifetimeEarnings, e.messages.count)) = some (8, 0)
      ∧ earned [tipAt 0, messageAt 5] = 16
      ∧ ¬ Agrees twoDays 0 untouched [tipAt 0] (messageAt 5)
        (Runs.final (complete twoDays) payableTipDb [tipAt 0, messageAt 5]) := by
  refine ⟨⟨⟨_, rfl⟩, ⟨rfl, rfl⟩, trivial⟩, by decide +kernel, by decide +kernel, ?_⟩
  rintro ⟨e', he', hgro, -⟩
  have hn : e'.messages.count = 0 := by
    rw [← Option.some.inj he']
    rfl
  have hone := hgro.messages
  rw [hn] at hone
  revert hone
  decide

end SexySelfies.Sales
