import SexySelfies.AdminLogin
import SexySelfies.Platform

/-!
# The hook that hashes the password

The `pre('save')` hook of `models/Admin.js`, under the handlers that save an admin with the
password.

When the password is not modified, the hook calls `next()` and does not return. The save goes on,
and the rest of the hook hashes the stored hash and assigns the result, for the next save of the
document. `adminLogin` saves its document twice. `bcrypt` is given by its contract.
-/

namespace SexySelfies.PasswordHook

open Js Platform AdminLogin

/-- `compare` accepts exactly the hashes of the password. -/
structure Bcrypt (σ : Type) where
  hash : String → σ → String
  compare : String → String → Bool
  compare_iff : ∀ p h, compare p h = true ↔ ∃ salt, h = hash p salt

/-! ## Documents -/

structure LogEntry where
  action : String
  targetUser : Option Nat
  targetUserModel : Option String
  targetContent : Option Nat
  reason : String
  timestamp : ℤ

structure Admin where
  account : Account
  lastLogin : Option ℤ
  actionsLog : List LogEntry

inductive Change where
  | lastLogin (t : ℤ)
  | log (entry : LogEntry)
  | permissions

def keepLast (log : List LogEntry) : List LogEntry := log.drop (log.length - 1000)

def Change.run (admin : Admin) : Change → Admin
  | .lastLogin t => { admin with lastLogin := some t }
  | .log entry => { admin with actionsLog := keepLast (admin.actionsLog ++ [entry]) }
  | .permissions => admin

def applyAll (changes : List Change) (admin : Admin) : Admin := changes.foldl Change.run admin

/-- The hook after `next()`, or of a save that waits for it: before the salt
is there, and with the hash that is computed. -/
inductive Rest where
  | salting
  | hashing (hash : String)

inductive Op where
  | save (changes : List Change)
  | clearPassword

/-- A document, and what is left to do with it. `setting` is the password that
the handler has set and not saved yet. -/
structure Session where
  password : Option String
  modified : Bool
  setting : Option String
  program : List Op
  waiting : Option (List Change × Rest) := none
  background : List Rest := []

def Session.idle (s : Session) : Bool := s.program.isEmpty && s.waiting.isNone

def Session.assign (s : Session) (password : Option String) : Session :=
  { s with password, modified := s.modified || s.password ≠ password }

structure World where
  admin : Option Admin
  lastSet : Option String
  sessions : List Session

def World.empty : World := ⟨none, none, []⟩

/-! ## Requests -/

inductive Run where
  | adminLogin (a : Attempt) (ip : String) (lastLogin loggedAt : ℤ)
  | updatePassword (currentPassword newPassword : Value) (loggedAt : ℤ)
  /-- Calls of `logAction` on the document that `protectAdmin` loads, without
  its password. -/
  | logAction (entries : List LogEntry)

/-- `newPassword.length < 8`; `none` when there is no `length` to read. -/
def isShort : Value → Option Bool
  | .undefined => none
  | .null => none
  | .bool _ => some false
  | .num _ => some false
  | .str s => some (utf16Length s < 8)
  | .arr xs => some (xs.length < 8)
  | .obj fields => some (((fields.lookup "length").getD .undefined).toNumber.lt (.fin 8))

def newPassword? (numeral : Number → String) (v : Value) : Option String :=
  if isShort v = some false then
    match castString numeral v with
    | some (some text) => if 8 ≤ utf16Length text then some text else none
    | _ => none
  else none

variable {σ : Type} (bcrypt : Bcrypt σ) (findOne : Value → Option (Option Nat))
  (numeral : Number → String)

def Run.start (admin : Admin) : Run → Option (Admin × Session)
  | .adminLogin a ip lastLogin loggedAt =>
    match AdminLogin.adminLogin ⟨findOne, bcrypt.compare⟩ a [admin.account] with
    | ([account], .proceeds) =>
      some ({ admin with account },
        { password := some account.password
          modified := false
          setting := none
          program :=
            [.save [.lastLogin lastLogin],
             .save [.log ⟨"admin_login", none, none, none, "Login from IP: " ++ ip, loggedAt⟩],
             .clearPassword] })
    | _ => none
  | .updatePassword currentPassword newPassword loggedAt =>
    match currentPassword, newPassword? numeral newPassword with
    | .str entered, some password =>
      if bcrypt.compare entered admin.account.password then
        some (admin,
          { password := some password
            modified := admin.account.password ≠ password
            setting := some password
            program :=
              [.save [],
               .save [.log ⟨"password_change", none, none, none, "Admin password updated",
                 loggedAt⟩],
               .clearPassword] })
      else none
    | _, _ => none
  | .logAction entries =>
    some (admin,
      { password := none
        modified := false
        setting := none
        program := entries.map fun entry => .save [.log entry] })

/-- What `createAdmin` does with a validated password. -/
def createSession (password : String) : Session where
  password := some password
  modified := true
  setting := some password
  program := [.save [], .save [.permissions]]

def newAdmin (hash : String) : Admin := ⟨⟨hash, true, 0, none, false⟩, none, []⟩

variable (w : World)

def World.create (password : String) : World :=
  match w.admin, w.sessions with
  | none, [] => { w with sessions := [createSession password] }
  | _, _ => w

/-- A request starts when the one before it has been answered. -/
def World.start (run : Run) : World :=
  match w.admin with
  | none => w
  | some admin =>
    if w.sessions.head?.all Session.idle then
      match run.start bcrypt findOne numeral admin with
      | none => w
      | some (admin, s) => { w with admin := some admin, sessions := s :: w.sessions }
    else w

variable (s : Session)

def World.storePaths (changes : List Change) (past : List Session) :
    World :=
  ⟨w.admin.map (applyAll changes), s.setting <|> w.lastSet, { s with setting := none } :: past⟩

def World.storeHash (hash : String) (changes : List Change)
    (past : List Session) : World :=
  let admin : Admin :=
    match w.admin with
    | none => newAdmin hash
    | some admin => { admin with account := { admin.account with password := hash } }
  ⟨some (applyAll changes admin), s.setting <|> w.lastSet,
    { s with password := some hash, modified := false, setting := none, waiting := none } :: past⟩

def World.main : World :=
  match w.sessions with
  | [] => w
  | s :: past =>
    match s.waiting, s.program with
    | none, .save changes :: program =>
      if s.modified then
        { w with sessions := { s with program, waiting := some (changes, .salting) } :: past }
      else
        w.storePaths { s with program, background := s.background ++ [.salting] } changes past
    | none, .clearPassword :: program =>
      { w with sessions := { s.assign none with program } :: past }
    | _, _ => w

/-- The hook that the current request waits for moves on. Hashing no password
rejects, and the request fails. -/
def World.hook (salt : σ) : World :=
  match w.sessions with
  | [] => w
  | s :: past =>
    match s.waiting with
    | none => w
    | some (changes, .salting) =>
      match s.password with
      | none => { w with sessions := { s with waiting := none, program := [] } :: past }
      | some p =>
        { w with
          sessions := { s with waiting := some (changes, .hashing (bcrypt.hash p salt)) }
            :: past }
    | some (changes, .hashing h) => w.storeHash s h changes past

def Session.moveOn (i : Nat) (salt : σ) : Session :=
  match s.background[i]?, s.password with
  | some .salting, some p =>
    { s with background := s.background.set i (.hashing (bcrypt.hash p salt)) }
  | some .salting, none => { s with background := s.background.eraseIdx i }
  | some (.hashing h), _ => { s.assign (some h) with background := s.background.eraseIdx i }
  | none, _ => s

inductive Event (σ : Type) where
  | create (password : String)
  | start (run : Run)
  | main
  | hook (salt : σ)
  | rest (j i : Nat) (salt : σ)

def step : Event σ → World
  | .create password => w.create password
  | .start run => w.start bcrypt findOne numeral run
  | .main => w.main
  | .hook salt => w.hook bcrypt salt
  | .rest j i salt => { w with sessions := w.sessions.modify j fun s => s.moveOn bcrypt i salt }

/-! ## What is stored -/

/-- The stored hash matches the password last set. -/
def Matches {σ : Type} (bcrypt : Bcrypt σ) (w : World) : Prop :=
  ∀ p ∈ w.lastSet, ∀ admin ∈ w.admin, bcrypt.compare p admin.account.password = true

/-- A save that leaves the password alone does not follow on setting the stored hash itself, and a
hook of a handler that sets none does not end with a new hash; or what is stored happens to match.
-/
def Undisturbed {σ : Type} (bcrypt : Bcrypt σ) (w : World) : Event σ → Prop
  | .main => ∀ s ∈ w.sessions.head?, ∀ changes program, s.waiting = none →
      s.program = .save changes :: program → s.modified = false →
        ∀ p ∈ s.setting, ∀ admin ∈ w.admin, bcrypt.compare p admin.account.password = true
  | .hook _ => ∀ s ∈ w.sessions.head?, ∀ changes h, s.waiting = some (changes, .hashing h) →
      s.setting = none → ∀ p ∈ w.lastSet, bcrypt.compare p h = true
  | _ => True

structure Session.Sets {σ : Type} (bcrypt : Bcrypt σ) (p : String) (s : Session) : Prop where
  password : s.password = some p
  background : s.background = []
  next : s.waiting = none → ∃ changes program, s.program = .save changes :: program
  hashing : ∀ changes h, s.waiting = some (changes, .hashing h) → ∃ salt, h = bcrypt.hash p salt

def Sound {σ : Type} (bcrypt : Bcrypt σ) (w : World) : Prop :=
  ∀ s ∈ w.sessions.head?, ∀ p, s.setting = some p → s.Sets bcrypt p

section

variable {bcrypt : Bcrypt σ} {findOne : Value → Option (Option Nat)} {numeral : Number → String}
  {w : World}

variable {changes : List Change}

theorem applyAll_account (admin : Admin) : (applyAll changes admin).account = admin.account := by
  induction changes generalizing admin with
  | nil => rfl
  | cons change changes ih =>
    have hone : (change.run admin).account = admin.account := by
      cases change <;> simp only [Change.run]
    exact (ih (change.run admin)).trans hone

theorem attempt_password (env : Env) (a : Attempt) (account : Account) :
    (account.attempt env a).1.password = account.password := by
  unfold Account.attempt
  split
  · rfl
  · split
    · rfl
    · unfold Account.login
      split
      · split
        · split <;> rfl
        · unfold Account.incLoginAttempts
          split <;> rfl
      · rfl

theorem adminLogin_password {env : Env} {a : Attempt} {account a' : Account}
    {answer : Answer} (h : AdminLogin.adminLogin env a [account] = ([a'], answer)) :
    a'.password = account.password := by
  unfold AdminLogin.adminLogin at h
  split at h
  · cases h
    rfl
  · split at h
    · cases h
      rfl
    · cases h
      rfl
    · rename_i id _
      cases id with
      | zero =>
        cases h
        exact attempt_password env a account
      | succ =>
        cases h
        rfl

theorem start_spec {admin admin' : Admin} {run : Run} {s : Session}
    (h : run.start bcrypt findOne numeral admin = some (admin', s)) :
    admin'.account.password = admin.account.password
      ∧ ∀ p, s.setting = some p → s.Sets bcrypt p := by
  cases run with
  | adminLogin =>
    rw [Run.start] at h
    split at h
    · rename_i account hlog
      cases h
      exact ⟨adminLogin_password hlog, fun p hp => by cases hp⟩
    · cases h
  | updatePassword =>
    simp only [Run.start] at h
    split at h
    · split at h
      · cases h
        refine ⟨rfl, fun p hp => ?_⟩
        cases hp
        exact ⟨rfl, rfl, fun _ => ⟨_, _, rfl⟩, fun changes h hn => by cases hn⟩
      · cases h
    · cases h
  | logAction =>
    cases h
    exact ⟨rfl, fun p hp => by cases hp⟩

variable {s : Session} {i : Nat} {salt : σ}

theorem moveOn_setting : (s.moveOn bcrypt i salt).setting = s.setting := by
  unfold Session.moveOn
  split <;> rfl

theorem moveOn_of_sets {s : Session} {p : String} (h : s.Sets bcrypt p) :
    s.moveOn bcrypt i salt = s := by
  rw [Session.moveOn, h.background]
  rfl

theorem sound_main (h : Sound bcrypt w) : Sound bcrypt w.main := by
  unfold World.main
  split
  · exact h
  · rename_i s past hses
    have hs := h s (by rw [hses]; rfl)
    split
    · rename_i changes pr hwa hpr
      split
      · rintro s' ⟨⟩ p hp
        have hse := hs p hp
        refine ⟨hse.password, hse.background, ?_, ?_⟩
        · rintro ⟨⟩
        · rintro c' h' ⟨⟩
      · rintro s' ⟨⟩ p hp
        cases hp
    · rename_i pr hwa hpr
      rintro s' ⟨⟩ p hp
      obtain ⟨changes, p', hsv⟩ := (hs p hp).next hwa
      rw [hpr] at hsv
      cases hsv
    · exact h

theorem sound_hook (h : Sound bcrypt w) : Sound bcrypt (w.hook bcrypt salt) := by
  unfold World.hook
  split
  · exact h
  · rename_i s past hses
    have hs := h s (by rw [hses]; rfl)
    split
    · exact h
    · rename_i changes hwa
      split
      · rename_i hpw
        rintro s' ⟨⟩ p hp
        have hsm := (hs p hp).password
        rw [hpw] at hsm
        cases hsm
      · rename_i q hpw
        rintro s' ⟨⟩ p hp
        have hse := hs p hp
        refine ⟨hse.password, hse.background, ?_, ?_⟩
        · rintro ⟨⟩
        · rintro c' h' ⟨⟩
          have hsa : some q = some p := hpw.symm.trans hse.password
          cases hsa
          exact ⟨salt, rfl⟩
    · rintro s' ⟨⟩ p hp
      cases hp

theorem sound_create (h : Sound bcrypt w) (pa : String) : Sound bcrypt (w.create pa) := by
  unfold World.create
  split
  · rintro s ⟨⟩ p ⟨⟩
    exact ⟨rfl, rfl, fun _ => ⟨_, _, rfl⟩, fun changes h hn => by cases hn⟩
  · exact h

theorem sound_start (h : Sound bcrypt w) (run : Run) :
    Sound bcrypt (w.start bcrypt findOne numeral run) := by
  unfold World.start
  split
  · exact h
  · split
    · split
      · exact h
      · rename_i hs
        rintro s ⟨⟩
        exact (start_spec hs).2
    · exact h

theorem sound_rest (h : Sound bcrypt w) (j : Nat) :
    Sound bcrypt { w with sessions := w.sessions.modify j fun s => s.moveOn bcrypt i salt } := by
  cases hses : w.sessions with
  | nil =>
    intro s hs
    cases j <;> cases hs
  | cons s₀ past =>
    have hs₀ := h s₀ (by rw [hses]; rfl)
    cases j with
    | succ =>
      rintro s ⟨⟩
      exact hs₀
    | zero =>
      rintro s ⟨⟩ p hp
      have hse : s₀.setting = some p := moveOn_setting.symm.trans hp
      have hsm : s₀.moveOn bcrypt i salt = s₀ := moveOn_of_sets (hs₀ p hse)
      show (s₀.moveOn bcrypt i salt).Sets bcrypt p
      rw [hsm]
      exact hs₀ p hse

theorem sound_step (h : Sound bcrypt w) (e : Event σ) :
    Sound bcrypt (step bcrypt findOne numeral w e) := by
  cases e with
  | create p => exact sound_create h p
  | start run => exact sound_start h run
  | main => exact sound_main h
  | hook => exact sound_hook h
  | rest j i salt => exact sound_rest h j

/-! ## One step -/

theorem matches_storePaths (past : List Session) (hmat : Matches bcrypt w) :
    Matches bcrypt (w.storePaths s changes past)
      ↔ ∀ p ∈ s.setting, ∀ admin ∈ w.admin, bcrypt.compare p admin.account.password := by
  have ha : ∀ p, (∀ admin ∈ w.admin.map (applyAll changes),
      bcrypt.compare p admin.account.password)
      ↔ ∀ admin ∈ w.admin, bcrypt.compare p admin.account.password := by
    intro p
    simp [applyAll_account]
  unfold Matches World.storePaths
  dsimp only
  simp only [ha]
  cases hse : s.setting with
  | none => exact iff_of_true hmat fun p hp => by cases hp
  | some => rfl

theorem matches_main (hmat : Matches bcrypt w) :
    Matches bcrypt w.main ↔ Undisturbed bcrypt w (.main : Event σ) := by
  unfold World.main Undisturbed
  cases hse : w.sessions with
  | nil => exact iff_of_true hmat fun s hs => by cases hs
  | cons s past =>
    dsimp only [List.head?_cons]
    simp only [Option.mem_some_iff, forall_eq']
    cases hwa : s.waiting with
    | some => exact iff_of_true hmat fun changes p hn => by cases hn
    | none =>
      cases hpr : s.program with
      | nil => exact iff_of_true hmat fun changes p _ hnil => by cases hnil
      | cons op p =>
        cases op with
        | clearPassword => exact iff_of_true hmat fun changes p _ hcle => by cases hcle
        | save changes =>
          dsimp only
          cases hmo : s.modified with
          | true =>
            rw [if_pos rfl]
            exact iff_of_true hmat fun changes p _ _ hno => by cases hno
          | false =>
            rw [if_neg Bool.false_ne_true, matches_storePaths _ hmat]
            constructor
            · intro h c' p' _ _ _
              exact h
            · intro h
              exact h changes p rfl rfl rfl

theorem matches_storeHash (h : String) (past : List Session) :
    Matches bcrypt (w.storeHash s h changes past)
      ↔ ∀ p ∈ s.setting <|> w.lastSet, bcrypt.compare p h := by
  have hpw : ∀ admin ∈ (w.storeHash s h changes past).admin, admin.account.password = h := by
    rintro admin ⟨⟩
    rw [applyAll_account]
    split <;> rfl
  constructor
  · intro hmat p hp
    have hs := hmat p hp _ rfl
    rwa [hpw _ rfl] at hs
  · intro hma p hp admin ha
    rw [hpw admin ha]
    exact hma p hp

theorem matches_hook (hsd : Sound bcrypt w) (hmat : Matches bcrypt w) :
    Matches bcrypt (w.hook bcrypt salt) ↔ Undisturbed bcrypt w (.hook salt) := by
  unfold World.hook Undisturbed
  cases hse : w.sessions with
  | nil => exact iff_of_true hmat fun s hs => by cases hs
  | cons s past =>
    have hs := hsd s (by rw [hse]; rfl)
    dsimp only [List.head?_cons]
    simp only [Option.mem_some_iff, forall_eq']
    cases hwa : s.waiting with
    | none => exact iff_of_true hmat fun changes h hn => by cases hn
    | some wa =>
      obtain ⟨changes, rest⟩ := wa
      cases rest with
      | salting =>
        refine iff_of_true ?_ fun changes h hno => by cases hno
        dsimp only
        split <;> exact hmat
      | hashing h =>
        dsimp only
        rw [matches_storeHash]
        cases hset : s.setting with
        | none =>
          constructor
          · rintro hma c' h' ⟨⟩ _
            exact hma
          · intro hma
            exact hma changes h rfl rfl
        | some q =>
          refine iff_of_true ?_ fun changes h _ hn => by cases hn
          rintro p ⟨⟩
          have hha := (hs q hset).hashing changes h hwa
          exact (bcrypt.compare_iff q h).mpr hha

theorem matches_create (hmat : Matches bcrypt w) (p : String) : Matches bcrypt (w.create p) := by
  unfold World.create
  split <;> exact hmat

theorem matches_start (hmat : Matches bcrypt w) (run : Run) :
    Matches bcrypt (w.start bcrypt findOne numeral run) := by
  unfold World.start
  split
  · exact hmat
  · rename_i admin ha
    split
    · split
      · exact hmat
      · rename_i hs
        rintro p hp admin' ⟨⟩
        rw [(start_spec hs).1]
        exact hmat p hp admin ha
    · exact hmat

theorem matches_step (hs : Sound bcrypt w) (hmat : Matches bcrypt w) (e : Event σ) :
    Matches bcrypt (step bcrypt findOne numeral w e) ↔ Undisturbed bcrypt w e := by
  cases e with
  | create p => exact iff_of_true (matches_create hmat p) trivial
  | start run => exact iff_of_true (matches_start hmat run) trivial
  | main => exact matches_main hmat
  | hook => exact matches_hook hs hmat
  | rest => exact iff_of_true hmat trivial

end

/-! ## Whole runs -/

/-- From the creation of the account on, under every scheduling, the stored
hash matches the password last set exactly as long as no save is disturbed. -/
theorem stored_hash_matches_iff {σ : Type} (bcrypt : Bcrypt σ)
    (findOne : Value → Option (Option Nat)) (numeral : Number → String)
    (events : List (Event σ)) :
    Runs.Always (step bcrypt findOne numeral) (Matches bcrypt) World.empty events
      ↔ Runs.Every (step bcrypt findOne numeral) (Undisturbed bcrypt) World.empty events := by
  refine Runs.always_iff_every_within (J := Sound bcrypt) (fun w e h => sound_step h e)
    (fun w e hsd hmat => matches_step hsd hmat e) ?_ ?_
  · intro s hs
    cases hs
  · intro p hp
    cases hp

def dollar : Bcrypt Unit where
  hash p _ := "$" ++ p
  compare p h := h = "$" ++ p
  compare_iff p h := by simp

def rightAttempt : Attempt := ⟨.str "a", .str "password", .undefined, .instant 0⟩

def createThenLogin : List (Event Unit) :=
  [.create "password", .main, .hook (), .hook (), .main,
   .start (.adminLogin rightAttempt "::1" 0 0), .main, .rest 0 0 (), .rest 0 0 (),
   .main, .hook (), .hook ()]

theorem login_rehashes_hash :
    let w := Runs.final (step dollar (fun _ => some (some 0)) Number.toFixed2) World.empty
      createThenLogin
    w.lastSet = some "password" ∧ w.admin.map (·.account.password) = some "$$$password"
      ∧ ¬ Matches dollar w := by
  refine ⟨by decide +kernel, by decide +kernel, fun h => ?_⟩
  have hmat := h "password" (by decide +kernel)
  revert hmat
  decide +kernel

end SexySelfies.PasswordHook
