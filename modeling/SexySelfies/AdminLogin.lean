import SexySelfies.Runs
import SexySelfies.Windows
import SexySelfies.JsValue

/-!
# Logins of admins

`adminLogin` of `admin.auth.controller.js` up to `resetLoginAttempts`.

The lock is over when the clock reaches `lockUntil`, and the counter starts again only one tick
later; in between an attempt is compared and locks the account anew. So the attempts come in batches
of at most five, two hours apart. The clock is read more than once in an attempt.
-/

namespace SexySelfies.AdminLogin

open Js Windows List

structure Account where
  password : String
  isActive : Bool
  loginAttempts : Nat
  lockUntil : Option ℤ
  twoFactorEnabled : Bool

/-- `findOne`: `none` when the query throws. -/
structure Env where
  findOne : Value → Option (Option Nat)
  compare : String → String → Bool

structure Clock where
  checked : ℤ
  expired : ℤ
  blocked : ℤ
  locked : ℤ
  time : ℤ
  checked_le : checked ≤ expired
  expired_le : expired ≤ blocked
  blocked_le : blocked ≤ locked
  checked_le_time : checked ≤ time
  time_le : time ≤ locked

structure Attempt where
  email : Value
  password : Value
  twoFactorCode : Value
  clock : Clock

variable (a : Account)

def Account.isLocked (now : ℤ) : Bool := a.lockUntil.any fun until_ => now < until_

def maxAttempts : Nat := 5

def lockTime : ℤ := 2 * 60 * 60 * 1000

def Account.incLoginAttempts (c : Clock) : Account :=
  if a.lockUntil.any fun until_ => until_ < c.expired then
    { a with loginAttempts := 1, lockUntil := none }
  else
    { a with
      loginAttempts := a.loginAttempts + 1
      lockUntil :=
        if maxAttempts ≤ a.loginAttempts + 1 ∧ a.isLocked c.blocked = false then
          some (c.locked + lockTime)
        else a.lockUntil }

def Account.resetLoginAttempts : Account :=
  { a with loginAttempts := 0, lockUntil := none }

/-! ## The handler -/

inductive Answer where
  | refused (status : Nat) (error : String)
  | requiresTwoFactor
  | proceeds
deriving DecidableEq

def lockedMessage : String :=
  "Account is locked due to too many failed login attempts. Please try again later."

variable (env : Env) (a : Attempt)

/-- The password is compared with the stored one; only a string can be. -/
def Account.login (admin : Account) : Account × Answer :=
  match a.password with
  | .str password =>
    if env.compare password admin.password then
      if admin.twoFactorEnabled && !a.twoFactorCode.truthy then (admin, .requiresTwoFactor)
      else (admin.resetLoginAttempts, .proceeds)
    else (admin.incLoginAttempts a.clock, .refused 401 "Invalid credentials")
  | _ => (admin, .refused 500 "Server error during login")

def Account.attempt (admin : Account) : Account × Answer :=
  if admin.isLocked a.clock.checked then (admin, .refused 423 lockedMessage)
  else if !admin.isActive then
    (admin, .refused 401 "Account is deactivated. Please contact super admin.")
  else admin.login env a

def adminLogin (db : List Account) : List Account × Answer :=
  if !a.email.truthy || !a.password.truthy then
    (db, .refused 400 "Please provide an email and password")
  else
    match env.findOne a.email with
    | none => (db, .refused 500 "Server error during login")
    | some none => (db, .refused 401 "Invalid credentials")
    | some (some id) =>
      match db[id]? with
      | none => (db, .refused 401 "Invalid credentials")
      | some admin =>
        let (admin, answer) := admin.attempt env a
        (db.set id admin, answer)

/-! ## Attempts on one account -/

def Attempt.wrongFor (admin : Account) (a : Attempt) : Bool :=
  a.email.truthy && a.password.truthy &&
    match a.password with
    | .str password => !env.compare password admin.password
    | _ => false

def Attempt.compared (admin : Account) (a : Attempt) : Bool :=
  a.wrongFor env admin && !admin.isLocked a.clock.checked && admin.isActive

structure Watched where
  db : List Account
  compared : List ℤ

def Watched.step (id : Nat) (s : Watched) (a : Attempt) : Watched where
  db := (adminLogin env a s.db).1
  compared :=
    match s.db[id]? with
    | some admin => if a.compared env admin then s.compared ++ [a.clock.time] else s.compared
    | none => s.compared

/-- What the counter and the lock say of the compared attempts: without a lock they are a batch as
long as the counter, two hours after the others; a lock ends two hours after all. -/
structure Guarded (now : ℤ) (admin : Account) (compared : List ℤ) : Prop where
  sparse : Sparse lockTime maxAttempts compared
  past : ∀ x ∈ compared, x ≤ now
  unlocked : admin.lockUntil = none → ∃ old new, compared = old ++ new
    ∧ new.length = admin.loginAttempts ∧ admin.loginAttempts < maxAttempts
    ∧ Sparse lockTime maxAttempts old ∧ Apart lockTime old new ∧ ∀ x ∈ old, x + lockTime ≤ now
  locked : ∀ until_, admin.lockUntil = some until_ →
    maxAttempts ≤ admin.loginAttempts ∧ ∀ x ∈ compared, x + lockTime ≤ until_

variable {compared : List ℤ} {admin : Account}

theorem Guarded.later {now now' : ℤ} (h : Guarded now admin compared) (hle : now ≤ now') :
    Guarded now' admin compared where
  sparse := h.sparse
  past x hx := (h.past x hx).trans hle
  unlocked hn := by
    obtain ⟨old, new, heq, hlen, hfew, hsp, hapa, hold⟩ := h.unlocked hn
    exact ⟨old, new, heq, hlen, hfew, hsp, hapa, fun x hx => (hold x hx).trans hle⟩
  locked := h.locked

theorem guarded_fresh (now : ℤ) (hat : admin.loginAttempts = 0)
    (hlo : admin.lockUntil = none) : Guarded now admin [] where
  sparse := sparse_nil
  past x hx := by cases hx
  unlocked _ := by
    refine ⟨[], [], rfl, hat.symm, ?_, sparse_nil, ?_, ?_⟩
    · rw [hat]
      decide
    · intro x hx
      cases hx
    · intro x hx
      cases hx
  locked until_ h := by
    rw [hlo] at h
    cases h

variable {c : Clock}

theorem past_append (h : ∀ x ∈ compared, x ≤ c.checked) :
    ∀ x ∈ compared ++ [c.time], x ≤ c.locked := by
  have ho := And.intro c.checked_le (And.intro c.expired_le c.blocked_le)
  intro x hx
  rcases mem_append.mp hx with hx | hx
  · have hpa := h x hx
    omega
  · rw [mem_singleton.mp hx]
    exact c.time_le

theorem guarded_lock (hsp : Sparse lockTime maxAttempts (compared ++ [c.time]))
    (hpa : ∀ x ∈ compared, x ≤ c.checked) (hm : maxAttempts ≤ admin.loginAttempts)
    (hlo : admin.lockUntil = some (c.locked + lockTime)) :
    Guarded c.locked admin (compared ++ [c.time]) where
  sparse := hsp
  past := past_append hpa
  unlocked hn := by
    rw [hlo] at hn
    cases hn
  locked until_ h := by
    rw [hlo] at h
    cases h
    exact ⟨hm, fun x hx => Int.add_le_add_right (past_append hpa x hx) lockTime⟩

theorem guarded_inc_unlocked {admin : Account} (h : Guarded c.checked admin compared)
    (hn : admin.lockUntil = none) :
    Guarded c.locked (admin.incLoginAttempts c) (compared ++ [c.time]) := by
  obtain ⟨old, new, heq, hlen, hfew, hsp, hapa, hold⟩ := h.unlocked hn
  have ho := And.intro c.checked_le (And.intro c.expired_le c.blocked_le)
  have hjo : Apart lockTime old (new ++ [c.time]) :=
    hapa.append fun x hx => (hold x hx).trans c.checked_le_time
  have hlen' : (new ++ [c.time]).length = admin.loginAttempts + 1 := by
    rw [length_append, hlen]
    rfl
  have hsp' : Sparse lockTime maxAttempts (compared ++ [c.time]) := by
    rw [heq, append_assoc]
    exact hsp.append hjo (hlen'.trans_le hfew)
  have hexp : (admin.lockUntil.any fun until_ => decide (until_ < c.expired)) = false := by
    rw [hn]
    rfl
  have hblk : admin.isLocked c.blocked = false := by
    rw [Account.isLocked, hn]
    rfl
  rw [Account.incLoginAttempts, hexp, if_neg Bool.false_ne_true]
  by_cases hm : maxAttempts ≤ admin.loginAttempts + 1
  · rw [if_pos ⟨hm, hblk⟩]
    exact guarded_lock hsp' h.past hm rfl
  · rw [if_neg fun hbo => hm hbo.1]
    refine ⟨hsp', past_append h.past, fun _ => ?_, fun until_ hs => ?_⟩
    · refine ⟨old, new ++ [c.time], ?_, hlen', not_le.mp hm, hsp, hjo, ?_⟩
      · rw [heq, append_assoc]
      · intro x hx
        have hbef := hold x hx
        omega
    · rw [hn] at hs
      cases hs

theorem guarded_inc_locked {until_ : ℤ} (h : Guarded c.checked admin compared)
    (hs : admin.lockUntil = some until_) (hov : until_ ≤ c.checked) :
    Guarded c.locked (admin.incLoginAttempts c) (compared ++ [c.time]) := by
  obtain ⟨hm, hapa⟩ := h.locked until_ hs
  have ho := And.intro c.checked_le (And.intro c.expired_le c.blocked_le)
  have hbef : ∀ x ∈ compared, x + lockTime ≤ c.checked := fun x hx => (hapa x hx).trans hov
  have hbat : Apart lockTime compared [c.time] := by
    intro x hx y hy
    rw [mem_singleton.mp hy]
    exact (hbef x hx).trans c.checked_le_time
  have hone : 1 < maxAttempts := by decide
  have hsp : Sparse lockTime maxAttempts (compared ++ [c.time]) := h.sparse.append hbat hone.le
  rw [Account.incLoginAttempts, hs, Option.any_some]
  by_cases hexp : until_ < c.expired
  · rw [if_pos (decide_eq_true hexp)]
    refine ⟨hsp, past_append h.past, fun _ => ?_, fun until_ hn => by cases hn⟩
    refine ⟨compared, [c.time], rfl, rfl, hone, h.sparse, hbat, fun x hx => ?_⟩
    have hx' := hbef x hx
    omega
  · have hblk : admin.isLocked c.blocked = false := by
      rw [Account.isLocked, hs, Option.any_some]
      exact decide_eq_false (by omega)
    rw [if_neg (by simpa using hexp), if_pos ⟨hm.trans (Nat.le_succ _), hblk⟩]
    exact guarded_lock hsp h.past (hm.trans (Nat.le_succ _)) rfl

theorem guarded_incLoginAttempts (h : Guarded c.checked admin compared)
    (ho : admin.isLocked c.checked = false) :
    Guarded c.locked (admin.incLoginAttempts c) (compared ++ [c.time]) := by
  cases hlo : admin.lockUntil with
  | none => exact guarded_inc_unlocked h hlo
  | some =>
    rw [Account.isLocked, hlo, Option.any_some, decide_eq_false_iff_not, not_lt] at ho
    exact guarded_inc_locked h hlo ho

/-! ## One attempt -/

variable {env : Env} {a : Attempt} {db : List Account} {id : Nat}

theorem attempt_of_compared (h : a.compared env admin) :
    admin.attempt env a = (admin.incLoginAttempts a.clock, .refused 401 "Invalid credentials") := by
  simp only [Attempt.compared, Attempt.wrongFor, Bool.and_eq_true, Bool.not_eq_true'] at h
  obtain ⟨⟨⟨-, hpw⟩, ho⟩, hact⟩ := h
  rw [Account.attempt, ho, hact, Bool.not_true, if_neg Bool.false_ne_true,
    if_neg Bool.false_ne_true, Account.login]
  split at hpw
  · rw [Bool.not_eq_true'] at hpw
    simp [hpw]
  · cases hpw

theorem attempt_of_not_compared (hpr : (a.email.truthy && a.password.truthy) = true)
    (hact : admin.isActive) (h : a.compared env admin = false)
    (hst : (admin.attempt env a).2 ≠ .proceeds) : (admin.attempt env a).1 = admin
      ∧ (a.wrongFor env admin → (admin.attempt env a).2 = .refused 423 lockedMessage) := by
  rw [Attempt.compared, hact, Bool.and_true] at h
  unfold Account.attempt at hst ⊢
  cases hlo : admin.isLocked a.clock.checked with
  | true => exact ⟨rfl, fun _ => rfl⟩
  | false =>
    rw [hlo, hact] at hst
    rw [hlo, Bool.not_false, Bool.and_true] at h
    rw [hact]
    simp only [Bool.false_eq_true, if_false, Bool.not_true] at hst ⊢
    refine ⟨?_, fun hwro => by rw [h] at hwro; cases hwro⟩
    rw [Attempt.wrongFor, hpr, Bool.true_and] at h
    unfold Account.login at hst ⊢
    split at h
    · rename_i p hstr
      rw [Bool.not_eq_false'] at h
      simp only [hstr, h, if_true] at hst ⊢
      split
      · rfl
      · rename_i hco
        rw [if_neg hco] at hst
        exact absurd rfl hst
    · rfl

theorem adminLogin_of_provided (hpr : (a.email.truthy && a.password.truthy) = true)
    (hfor : env.findOne a.email = some (some id)) (ha : db[id]? = some admin) :
    adminLogin env a db = (db.set id (admin.attempt env a).1, (admin.attempt env a).2) := by
  rw [Bool.and_eq_true] at hpr
  simp only [adminLogin, hpr.1, hpr.2, Bool.not_true, Bool.or_self,
    Bool.false_eq_true, if_false, hfor, ha]

theorem adminLogin_of_not_provided (h : (a.email.truthy && a.password.truthy) = false) :
    adminLogin env a db = (db, .refused 400 "Please provide an email and password") := by
  rw [Bool.and_eq_false_iff] at h
  rw [adminLogin, if_pos]
  rcases h with h | h <;> simp [h]

def Watched.Guards (id : Nat) (now : ℤ) (s : Watched) : Prop :=
  ∃ admin, s.db[id]? = some admin ∧ admin.isActive = true ∧ Guarded now admin s.compared

/-- A wrong password is compared, or answered with the lock. -/
def Refused (env : Env) (id : Nat) (s : Watched) (a : Attempt) : Prop :=
  ∀ admin ∈ s.db[id]?, a.wrongFor env admin = true →
    a.compared env admin = true ∨ (adminLogin env a s.db).2 = .refused 423 lockedMessage

theorem guards_step {s : Watched} (hs : s.Guards id a.clock.checked)
    (hfor : env.findOne a.email = some (some id)) (hst : (adminLogin env a s.db).2 ≠ .proceeds) :
    (s.step env id a).Guards id a.clock.locked ∧ Refused env id s a := by
  obtain ⟨admin, ha, hact, hgrd⟩ := hs
  have hlt : id < s.db.length := (List.getElem?_eq_some_iff.mp ha).1
  have ho : a.clock.checked ≤ a.clock.locked := a.clock.checked_le_time.trans a.clock.time_le
  unfold Watched.Guards Refused Watched.step
  simp only [ha, Option.mem_some_iff, forall_eq']
  cases hcmp : a.compared env admin with
  | true =>
    have hpar := hcmp
    simp only [Attempt.compared, Attempt.wrongFor, Bool.and_eq_true, Bool.not_eq_true'] at hpar
    obtain ⟨⟨⟨⟨he, hpw⟩, -⟩, hop⟩, -⟩ := hpar
    have hpr : (a.email.truthy && a.password.truthy) = true := by
      rw [he, hpw]
      rfl
    rw [adminLogin_of_provided hpr hfor ha, attempt_of_compared hcmp, if_pos rfl]
    refine ⟨⟨admin.incLoginAttempts a.clock, getElem?_set_self hlt, ?_,
      guarded_incLoginAttempts hgrd hop⟩, fun _ => .inl rfl⟩
    unfold Account.incLoginAttempts
    split <;> exact hact
  | false =>
    rw [if_neg Bool.false_ne_true]
    cases hpr : (a.email.truthy && a.password.truthy) with
    | true =>
      rw [adminLogin_of_provided hpr hfor ha] at hst ⊢
      obtain ⟨hsm, hlo⟩ := attempt_of_not_compared hpr hact hcmp hst
      refine ⟨⟨admin, ?_, hact, hgrd.later ho⟩, ?_⟩
      · rw [hsm]
        exact getElem?_set_self hlt
      · exact fun hwro => .inr (hlo hwro)
    | false =>
      rw [adminLogin_of_not_provided hpr]
      refine ⟨⟨admin, ha, hact, hgrd.later ho⟩, fun hwro => ?_⟩
      rw [Attempt.wrongFor, hpr, Bool.false_and] at hwro
      cases hwro

/-- Each attempt is over before the next one reads the clock. -/
def InOrder (attempts : List Attempt) : Prop :=
  attempts.IsChain fun a b => a.clock.locked ≤ b.clock.checked

theorem guards_run {env : Env} {id : Nat} {attempts : List Attempt} {s : Watched} {now : ℤ}
    (hs : s.Guards id now) (hnow : ∀ a ∈ attempts.head?, now ≤ a.clock.checked)
    (ho : InOrder attempts) (hfor : ∀ a ∈ attempts, env.findOne a.email = some (some id))
    (hst : Runs.Every (Watched.step env id)
      (fun s a => (adminLogin env a s.db).2 ≠ .proceeds) s attempts) :
    (∃ now', (Runs.final (Watched.step env id) s attempts).Guards id now')
      ∧ Runs.Every (Watched.step env id) (Refused env id) s attempts := by
  induction attempts generalizing s now with
  | nil => exact ⟨⟨now, hs⟩, trivial⟩
  | cons a attempts ih =>
    obtain ⟨admin, ha, hact, hgrd⟩ := hs
    have hlat : s.Guards id a.clock.checked := ⟨admin, ha, hact, hgrd.later (hnow a rfl)⟩
    obtain ⟨hgu, href⟩ := guards_step hlat (hfor a mem_cons_self) hst.1
    obtain ⟨hfin, hr⟩ := ih hgu (isChain_cons.mp ho).1
      (isChain_cons.mp ho).2 (fun b hb => hfor b (mem_cons_of_mem a hb)) hst.2
    exact ⟨hfin, href, hr⟩

/-- From an active account without failed attempts, and as long as no login
reaches `resetLoginAttempts`, no two hours see more than five wrong passwords
compared; every other wrong attempt is answered with the lock. -/
theorem wrong_passwords_compared_at_most_five (env : Env) (id : Nat) (db : List Account)
    (admin : Account) (attempts : List Attempt) (hadmin : db[id]? = some admin)
    (hactive : admin.isActive = true) (hattempts : admin.loginAttempts = 0)
    (hlock : admin.lockUntil = none) (horder : InOrder attempts)
    (hfor : ∀ a ∈ attempts, env.findOne a.email = some (some id))
    (hstops : Runs.Every (Watched.step env id)
      (fun s a => (adminLogin env a s.db).2 ≠ .proceeds) ⟨db, []⟩ attempts) :
    (∀ s, inWindow lockTime s
        (Runs.final (Watched.step env id) ⟨db, []⟩ attempts).compared ≤ 5)
      ∧ Runs.Every (Watched.step env id) (Refused env id) ⟨db, []⟩ attempts := by
  have hs (now : ℤ) : Watched.Guards id now ⟨db, []⟩ :=
    ⟨admin, hadmin, hactive, guarded_fresh now hattempts hlock⟩
  have hrun : (∃ now', (Runs.final (Watched.step env id) ⟨db, []⟩ attempts).Guards id now')
      ∧ Runs.Every (Watched.step env id) (Refused env id) ⟨db, []⟩ attempts := by
    cases attempts with
    | nil => exact ⟨⟨0, hs 0⟩, trivial⟩
    | cons a attempts =>
      refine guards_run (hs a.clock.checked) ?_ horder hfor hstops
      rintro b ⟨⟩
      exact le_refl a.clock.checked
  obtain ⟨⟨now, _, -, -, hgua⟩, href⟩ := hrun
  exact ⟨hgua.sparse, href⟩

def Clock.instant (t : ℤ) : Clock :=
  ⟨t, t, t, t, t, le_refl t, le_refl t, le_refl t, le_refl t, le_refl t⟩

def guess (t : ℤ) : Attempt := ⟨.str "a", .str "guess", .undefined, .instant t⟩

def oneAccount : Env := ⟨fun _ => some (some 0), fun entered stored => entered = stored⟩

/-- Five guesses at once, one just before the lock ends and one as it ends. -/
def guesses : List Attempt :=
  [guess 0, guess 0, guess 0, guess 0, guess 0, guess (lockTime - 1), guess lockTime]

theorem guesses_compared :
    (Runs.final (Watched.step oneAccount 0) ⟨[⟨"secret", true, 0, none, false⟩], []⟩
        guesses).compared = [0, 0, 0, 0, 0, lockTime]
      ∧ ∀ s, inWindow lockTime s (Runs.final (Watched.step oneAccount 0)
        ⟨[⟨"secret", true, 0, none, false⟩], []⟩ guesses).compared ≤ 5 := by
  refine ⟨by decide +kernel, ?_⟩
  refine (wrong_passwords_compared_at_most_five oneAccount 0 [⟨"secret", true, 0, none, false⟩]
    ⟨"secret", true, 0, none, false⟩ guesses rfl rfl rfl rfl ?_ ?_ ?_).1
  · unfold InOrder
    decide +kernel
  · intro a _
    rfl
  · decide +kernel

end SexySelfies.AdminLogin
