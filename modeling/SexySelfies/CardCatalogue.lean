import SexySelfies.CardDefaults

/-!
# The catalogue of cards

The number itself is not stored. What is compared is the type and the last four characters, with
every card of the user, removed ones included. So a card that was removed cannot be added again, and
two numbers of one type with the same ending exclude each other. An active card that expires stays
in the lists, since only a save looks at the date.
-/

namespace SexySelfies.Cards

open Js Platform CivilDate Interleave List

def endsInDigits (cs : List Char) : Bool :=
  (lastFour cs).length = 4 && (lastFour cs).all Char.isDigit

theorem isSpace_of_isDigit {c : Char} (h : c.isDigit) : isSpace c = false := by
  have hbo : 48 ≤ c.toNat ∧ c.toNat ≤ 57 := by
    simp only [Char.isDigit, Bool.and_eq_true, decide_eq_true_eq] at h
    exact ⟨h.1, h.2⟩
  simp only [isSpace, Bool.or_eq_false_iff, decide_eq_false_iff_not, mem_cons,
    not_mem_nil, or_false, Bool.and_eq_false_iff]
  omega

theorem lastFour_stripSpaces {s : String} (h : endsInDigits s.toList) :
    lastFour (stripSpaces s) = lastFour s.toList := by
  rw [endsInDigits, Bool.and_eq_true, decide_eq_true_eq, all_eq_true] at h
  obtain ⟨hlen, hdig⟩ := h
  have hsp : s.toList = s.toList.take (s.toList.length - 4) ++ lastFour s.toList :=
    (take_append_drop _ _).symm
  have hk : (lastFour s.toList).filter (fun c => !isSpace c) = lastFour s.toList :=
    filter_eq_self.mpr fun c hc => by rw [isSpace_of_isDigit (hdig c hc)]; rfl
  have hstr : stripSpaces s = (s.toList.take (s.toList.length - 4)).filter (fun c => !isSpace c)
        ++ lastFour s.toList := by
    rw [stripSpaces]
    nth_rewrite 1 [hsp]
    rw [filter_append, hk]
  rw [hstr]
  generalize (s.toList.take (s.toList.length - 4)).filter (fun c => !isSpace c) = start
  rw [lastFour, length_append, hlen, Nat.add_sub_cancel, drop_left]

/-! ## What stays of a card -/

/-- Cards are never lost: each keeps its user, its ending and its type, and
one that is inactive stays so. -/
def Grows (db db' : Db) : Prop :=
  ∀ (id : Nat) (c : Card), db[id]? = some c →
    ∃ c', db'[id]? = some c' ∧ c'.user = c.user ∧ c'.last4 = c.last4 ∧ c'.cardType = c.cardType
      ∧ (c'.isActive = true → c.isActive = true)

def Op.Deactivates : Op → Prop
  | .save _ loaded new => new.isActive = true → loaded.isActive = true
  | _ => True

theorem grows_refl (db : Db) : Grows db db := fun _ c hc => ⟨c, hc, rfl, rfl, rfl, id⟩

theorem grows_trans {a b c : Db} (hab : Grows a b) (hbc : Grows b c) : Grows a c := by
  intro id x hx
  obtain ⟨y, hy, hyu, hy4, hyt, hya⟩ := hab id x hx
  obtain ⟨z, hz, hzu, hz4, hzt, hza⟩ := hbc id y hy
  exact ⟨z, hz, hzu.trans hyu, hz4.trans hy4, hzt.trans hyt, fun h => hya (hza h)⟩

theorem isActive_write {loaded new stored : Card} (h : new.isActive = true → loaded.isActive = true)
    (hact : (loaded.write new stored).isActive = true) : stored.isActive = true := by
  have has : assign loaded.isActive new.isActive stored.isActive = true := hact
  rw [assign] at has
  split at has
  · exact has
  · rename_i hne
    exact absurd (has.trans (h has).symm) hne

theorem grows_exec {o : Op} (ho : o.Deactivates) (db : Db) : Grows db (exec o db).1 := by
  intro id c hc
  cases o with
  | find id u | findLike u last4 ct => exact grows_refl db _ c hc
  | unsetDefaults =>
    refine ⟨_, getElem?_unsetDefaults hc, ?_⟩
    split <;> exact ⟨rfl, rfl, rfl, fun h => h⟩
  | insert =>
    rw [exec]
    split
    · exact grows_refl db _ c hc
    · exact ⟨c, Collection.getElem?_concat_of_some hc, rfl, rfl, rfl, fun h => h⟩
  | save i loaded new =>
    by_cases hi : i = id
    · subst hi
      exact ⟨_, Collection.getElem?_modify_self hc _, rfl, rfl, rfl, isActive_write ho⟩
    · exact ⟨c, (getElem?_modify_ne _ _ hi).trans hc, rfl, rfl, rfl, fun h => h⟩

variable {R : Db → Db → Prop} {G : Db → Op → Prop} {db : Db} {user : Nat}

theorem keeps_ensureOneDefault (unset : Bool) (id : Option Nat) :
    Keeps exec R G (fun _ o => o.Deactivates) db (ensureOneDefault unset user id) := by
  cases unset with
  | false => trivial
  | true => exact fun _ _ _ => ⟨trivial, trivial⟩

variable {today : Date} {id : Nat}

theorem keeps_saveLoaded {loaded new : Card} (h : new.isActive → loaded.isActive) :
    Keeps exec R G (fun _ o => o.Deactivates) db (saveLoaded today id loaded new) := by
  unfold saveLoaded
  refine keeps_guard fun _ => ?_
  refine keeps_bind (fun db' _ => ?_) (keeps_ensureOneDefault _ _)
  refine fun _ _ _ => ⟨fun hact => h ?_, trivial⟩
  rw [Card.checkExpiry] at hact
  split at hact
  · cases hact
  · exact hact

variable {card : Card}

theorem keeps_setAsDefault :
    Keeps exec R G (fun _ o => o.Deactivates) db (setAsDefault today id card) :=
  fun _ _ _ => ⟨trivial, keeps_saveLoaded fun h => h⟩

theorem keeps_storeCard (card : Option Card) :
    Keeps exec R G (fun _ o => o.Deactivates) db (storeCard today card) := by
  cases card with
  | none => trivial
  | some card =>
    refine keeps_bind (fun db' saved => ?_) ?_
    · match saved with
      | none => trivial
      | some (id, card) =>
        refine keeps_ite (fun _ => ?_) fun _ => trivial
        refine keeps_bind (fun _ r => ?_) keeps_setAsDefault
        cases r <;> trivial
    · unfold saveNew
      refine keeps_guard fun _ => ?_
      refine keeps_bind (fun _ _ => ?_) (keeps_ensureOneDefault _ _)
      exact fun _ _ _ => ⟨trivial, trivial⟩

theorem keeps_withCard {user : Nat} {id : Ref} {error : String}
    {f : Nat → Card → Proc Op.Res (Response (Nat × Card))}
    (hf : ∀ db id card, Keeps exec R G (fun _ o => o.Deactivates) db (f id card)) :
    Keeps exec R G (fun _ o => o.Deactivates) db (withCard user id error f) := by
  cases id with
  | absent | malformed => trivial
  | id id =>
    refine keeps_bind (fun db' found => ?_) fun _ _ _ => ⟨trivial, trivial⟩
    cases found with
    | none => trivial
    | some card => exact hf db' id card

theorem handle_deactivates (call : Call) :
    Keeps exec R G (fun _ o => o.Deactivates) db (handle user call) := by
  cases call with
  | add =>
    rw [handle, addPaymentMethod]
    refine keeps_guard fun _ => ?_
    split
    · refine keeps_guard fun _ => ?_
      split
      · trivial
      · refine keeps_bind (fun db' found => ?_) fun _ _ _ => ⟨trivial, trivial⟩
        cases found with
        | some => trivial
        | none => exact keeps_storeCard _
    · trivial
  | remove =>
    refine keeps_withCard fun _ _ _ => keeps_bind (fun _ _ => ?_) ?_
    · trivial
    · exact keeps_saveLoaded nofun
  | setAsDefault =>
    refine keeps_withCard fun _ _ _ => keeps_bind (fun _ _ => ?_) keeps_setAsDefault
    trivial
  | markUsed =>
    refine keeps_withCard fun _ _ _ => keeps_bind (fun _ _ => ?_) ?_
    · trivial
    · exact keeps_saveLoaded fun h => h

theorem grows_run {ρ : Type} {p : Proc Op.Res ρ}
    (h : Keeps exec Eq (fun _ _ => True) (fun _ o => o.Deactivates) db p) :
    Grows db (p.run exec db).1 := by
  have hop : ∀ s (o : Op), Grows db s → o.Deactivates → Grows db (exec o s).1 :=
    fun s _ hs ho => grows_trans hs (grows_exec ho s)
  exact run_of_keeps hop (grows_refl db) h

/-- Between any two points of an interleaving no card is lost or given to another user, and none
that was inactive is active again. -/
theorem cards_kept (db : Db) (before after : List (Label (Nat × Call))) :
    let c := Runs.final (Pool.next exec fun c => handle c.1 c.2) ⟨db, []⟩ before
    Runs.Always (Pool.next exec fun c => handle c.1 c.2) (fun c' => Grows c.store c'.store) c
      after := by
  intro c
  have hdea : Runs.Every (Pool.next exec fun c : Nat × Call => handle c.1 c.2)
      (Fires fun _ o => o.Deactivates) ⟨db, []⟩ (before ++ after) :=
    every_of_keeps_true fun c _ => handle_deactivates c.2
  exact always_store_of_fires (fun s _ hs ho => grows_trans hs (grows_exec ho s))
    (grows_refl c.store) (Runs.Every.append.mp hdea).2

/-! ## Adding a card -/

variable {today : Date}

theorem valid_checkExpiry (c : Card) : (c.checkExpiry today).valid today = c.valid today := by
  unfold Card.checkExpiry
  split <;> rfl

theorem same_checkExpiry (c : Card) :
    (c.checkExpiry today).user = c.user ∧ (c.checkExpiry today).token = c.token
      ∧ (c.checkExpiry today).last4 = c.last4 ∧ (c.checkExpiry today).cardType = c.cardType := by
  unfold Card.checkExpiry
  split <;> exact ⟨rfl, rfl, rfl, rfl⟩

theorem run_ensureOneDefault (unset : Bool) (id : Option Nat) :
    (ensureOneDefault unset user id).run exec db
      = (if unset then (exec (.unsetDefaults user id) db).1 else db, ()) := by
  cases unset <;> rfl

theorem answer_saveLoaded (loaded new : Card) (h : new.valid today) :
    ((saveLoaded today id loaded new).run exec db).2 = some (new.checkExpiry today) := by
  rw [saveLoaded, if_neg (by simp [h]), run_bind]
  rfl

theorem run_saveLoaded {loaded new : Card} (hv : new.valid today)
    (hdef : new.isDefault = loaded.isDefault) : (saveLoaded today id loaded new).run exec db
      = (db.modify id (loaded.write (new.checkExpiry today)), some (new.checkExpiry today)) := by
  have huns : (new.isDefault && decide (new.isDefault ≠ loaded.isDefault)) = false := by
    rw [hdef]
    simp
  rw [saveLoaded, if_neg (by simp [hv]), run_bind, run_ensureOneDefault, huns]
  rfl

theorem token_unsetDefaults (e : Option Nat) (token : String) :
    (exec (.unsetDefaults user e) db).1.any (fun c => c.token = token)
      = db.any fun c => c.token = token := by
  rw [Bool.eq_iff_iff, any_eq_true, any_eq_true]
  constructor
  · rintro ⟨c', hc', htok⟩
    obtain ⟨i, hi⟩ := mem_iff_getElem?.mp hc'
    obtain ⟨c, hc, rfl⟩ := unsetDefaults_cases hi
    refine ⟨c, mem_of_getElem? hc, ?_⟩
    split at htok <;> exact htok
  · rintro ⟨c, hc, htok⟩
    obtain ⟨i, hi⟩ := mem_iff_getElem?.mp hc
    refine ⟨_, mem_of_getElem? (getElem?_unsetDefaults hi), ?_⟩
    split <;> exact htok

def unsetFor (card : Card) (db : Db) : Db :=
  if card.isDefault then (exec (.unsetDefaults card.user none) db).1 else db

theorem length_unsetFor : (unsetFor card db).length = db.length := by
  unfold unsetFor
  split
  · simp [exec]
  · rfl

theorem token_unsetFor (token : String) :
    (unsetFor card db).any (fun c => c.token = token) = db.any fun c => c.token = token := by
  unfold unsetFor
  split
  · exact token_unsetDefaults none token
  · rfl

variable {card : Card}

theorem run_saveNew_eq (hv : card.valid today) : (saveNew today card).run exec db
      = ((exec (.insert (card.checkExpiry today)) (unsetFor card db)).1,
        (exec (.insert (card.checkExpiry today)) (unsetFor card db)).2.map
          (·, card.checkExpiry today)) := by
  rw [saveNew, if_neg (by simp [hv]), run_bind, run_ensureOneDefault]
  rfl

theorem run_saveNew (hv : card.valid today) (hf : ∀ c ∈ db, c.token ≠ card.token) :
    (saveNew today card).run exec db = (unsetFor card db ++ [card.checkExpiry today],
        some (db.length, card.checkExpiry today)) := by
  have hn : (db.any fun c => c.token = card.token) = false := by
    rw [any_eq_false]
    exact fun c hc => decide_eq_false_iff_not.mpr (hf c hc) ▸ Bool.false_ne_true
  have hins : exec (.insert (card.checkExpiry today)) (unsetFor card db)
      = (unsetFor card db ++ [card.checkExpiry today], some db.length) := by
    rw [exec, (same_checkExpiry card).2.1, token_unsetFor, hn, if_neg Bool.false_ne_true,
      length_unsetFor]
    rfl
  rw [run_saveNew_eq hv, hins]
  rfl

theorem saveNew_refused (h : ¬ (card.valid today ∧ ∀ c ∈ db, c.token ≠ card.token)) :
    ((saveNew today card).run exec db).2 = none := by
  cases hv : card.valid today with
  | false =>
    rw [saveNew, if_pos (by rw [hv]; rfl)]
    rfl
  | true =>
    have hany : (db.any fun c => c.token = card.token) = true := by
      rw [any_eq_true]
      by_contra hno
      exact h ⟨hv, fun c hc heq => hno ⟨c, hc, decide_eq_true heq⟩⟩
    have hins : (exec (.insert (card.checkExpiry today)) (unsetFor card db)).2 = none := by
      rw [exec, (same_checkExpiry card).2.1, token_unsetFor, hany, if_pos rfl]
    rw [run_saveNew_eq hv]
    dsimp only
    rw [hins]
    rfl

theorem run_storeCard (hv : card.valid today) (hf : ∀ c ∈ db, c.token ≠ card.token) :
    ∃ db' answered stored, (storeCard today (some card)).run exec db
        = (db', .success 200 "" (some (db.length, answered)))
      ∧ db'[db.length]? = some stored ∧ stored.user = card.user ∧ stored.last4 = card.last4
      ∧ stored.cardType = card.cardType := by
  have hrun := run_saveNew hv hf
  have hl : (unsetFor card db ++ [card.checkExpiry today])[db.length]?
      = some (card.checkExpiry today) := by rw [← length_unsetFor, getElem?_concat_length]
  generalize unsetFor card db ++ [card.checkExpiry today] = db₁ at hrun hl
  obtain ⟨hus, -, hlast4, hty⟩ := same_checkExpiry card
  rw [storeCard, run_bind, hrun]
  dsimp only
  cases hdef : (card.checkExpiry today).isDefault with
  | false => exact ⟨db₁, _, _, rfl, hl, hus, hlast4, hty⟩
  | true =>
    have hgro : Grows db₁
        ((setAsDefault today db.length (card.checkExpiry today)).run exec db₁).1 :=
      grows_run keeps_setAsDefault
    obtain ⟨stored, hst, hu, h4, ht, -⟩ := hgro _ _ hl
    have hans : ((setAsDefault today db.length (card.checkExpiry today)).run exec db₁).2 = some _ :=
      answer_saveLoaded _ _ ((valid_checkExpiry card).trans hv)
    rw [if_pos rfl, run_bind, hans]
    exact ⟨_, _, stored, rfl, hst, hu.trans hus, h4.trans hlast4, ht.trans hty⟩

theorem storeCard_refused (h : ¬ (card.valid today ∧ ∀ c ∈ db, c.token ≠ card.token)) :
    ((storeCard today (some card)).run exec db).2
      = .failure 500 "PaymentMethod validation failed" := by
  rw [storeCard, run_bind, saveNew_refused h]
  rfl

/-! ## Calls -/

structure Watched where
  db : Db
  numbers : List (Nat × List Char)
  removed : List Nat

def AddRequest.digits (r : AddRequest) : List Char :=
  match r.cardData.get "cardNumber" with
  | .str cardNumber => stripSpaces cardNumber
  | _ => []

def respond (c : Nat × Call) (db : Db) : Db × Response (Nat × Card) :=
  (handle c.1 c.2).run exec db

variable (w : Watched)

def Watched.note (call : Call) (answer : Response (Nat × Card)) : Watched :=
  match call, answer with
  | .add r, .success _ _ (some x) => { w with numbers := (x.1, r.digits) :: w.numbers }
  | .remove (.id id) _, .success _ _ _ => { w with removed := id :: w.removed }
  | _, _ => w

def watch (c : Nat × Call) : Watched :=
  { w.note c.2 (respond c w.db).2 with db := (respond c w.db).1 }

/-- The token that the gateway answers is a new one. -/
def Issued (c : Nat × Call) : Prop :=
  match c.2 with
  | .add r =>
    ∃ token, r.gateway = .ok (some token) ∧ token ≠ "" ∧ ∀ card ∈ w.db, card.token ≠ token
  | _ => True

/-- The user has an active card with this very number. -/
def ActiveSame (user : Nat) (digits : List Char) : Prop :=
  ∃ id card, (id, digits) ∈ w.numbers ∧ w.db[id]? = some card ∧ card.user = user
    ∧ card.isActive = true

/-- The checks of the card number and of the date pass. -/
structure AddRequest.Accepted (r : AddRequest) (cardNumber : String) : Prop where
  number : r.cardData.get "cardNumber" = .str cardNumber
  valid : validateCardNumber cardNumber = true
  unexpired : ∃ month year, castNumber (r.cardData.get "expiryMonth") = some (some month)
    ∧ castNumber (r.cardData.get "expiryYear") = some (some year)
    ∧ Number.le (.fin 1) month = true ∧ Number.le month (.fin 12) = true
    ∧ expired r.today month year = false

/-- A valid card is added, as it was sent, exactly if it is not active yet. -/
def Answered (c : Nat × Call) : Prop :=
  match c.2 with
  | .add r =>
    ∀ cardNumber, r.Accepted cardNumber →
      ((respond c w.db).2.isSuccess = true ↔ ¬ ActiveSame w c.1 (stripSpaces cardNumber))
        ∧ ∀ status message x, (respond c w.db).2 = .success status message (some x) →
          ∃ card, (respond c w.db).1[x.1]? = some card ∧ card.user = c.1
            ∧ card.last4 = lastFour (stripSpaces cardNumber)
  | _ => True

/-- No removed or expired card is listed or the default. -/
def Listed (user : Nat) (day : Date) : Prop :=
  ∀ x, (x ∈ getUserMethods w.db user ∨ x ∈ getDefaultMethod w.db user) →
    x.1 ∉ w.removed ∧ x.2.isExpired day = false

def AddRequest.storable (r : AddRequest) : Bool :=
  r.complete && r.isDefault.isSome && r.billingCasts

def Db.hasLike (db : Db) (user : Nat) (digits : List Char) : Prop :=
  ∃ card ∈ db, card.user = user ∧ card.last4 = lastFour digits
    ∧ card.cardType = detectType digits

/-- A call that is answered as it should be: the number is there and active; or the body can be
stored, the number ends in four digits as sent, and no card of the user is like it. -/
def Careful (c : Nat × Call) : Prop :=
  match c.2 with
  | .add r =>
    ∀ cardNumber, r.Accepted cardNumber →
      ActiveSame w c.1 (stripSpaces cardNumber)
        ∨ (r.storable = true ∧ endsInDigits cardNumber.toList = true
          ∧ ¬ w.db.hasLike c.1 (stripSpaces cardNumber))
  | _ => True

/-! ## When adding succeeds -/

variable {r : AddRequest} {cardNumber token : String} {user : Nat}

theorem respond_add (h : r.Accepted cardNumber) (hgw : r.gateway = .ok (some token)) :
    respond (user, .add r) db =
      if r.complete then
        match (exec (.findLike user (lastFour cardNumber.toList)
            (detectCardType cardNumber)) db).2 with
        | some _ => (db, .failure 400 "This payment method already exists")
        | none => (storeCard r.today (r.card user cardNumber (some token))).run exec db
      else (db, .failure 400 "Missing required card information") := by
  rw [respond, handle, addPaymentMethod]
  cases r.complete with
  | false => rfl
  | true =>
    simp only [h.number, h.valid, hgw, Bool.not_true, Bool.false_eq_true, if_false, if_true,
      perform_bind, run_call]
    cases (exec (.findLike user (lastFour cardNumber.toList)
      (detectCardType cardNumber)) db).2 <;> rfl

theorem findLike_eq_none_iff (h : endsInDigits cardNumber.toList) :
    (exec (.findLike user (lastFour cardNumber.toList) (detectCardType cardNumber)) db).2 = none
      ↔ ¬ db.hasLike user (stripSpaces cardNumber) := by
  have hf : (exec (.findLike user (lastFour cardNumber.toList)
      (detectCardType cardNumber)) db).2 = none ↔ _ := Collection.findOne_eq_none
  rw [hf, Db.hasLike, lastFour_stripSpaces h]
  constructor
  · rintro hn ⟨card, hc, hu, h4, ht⟩
    have hfal := hn card hc
    rw [hu, h4, ht] at hfal
    simp [detectCardType] at hfal
  · intro hno card hc
    refine Bool.eq_false_iff.mpr fun htr => hno ⟨card, hc, ?_⟩
    rw [Bool.and_eq_true, Bool.and_eq_true] at htr
    obtain ⟨⟨hu, h4⟩, ht⟩ := htr
    exact ⟨of_decide_eq_true hu, of_decide_eq_true h4, of_decide_eq_true ht⟩

theorem endsInDigits_of_valid (h : card.valid today)
    (hlast4 : card.last4 = lastFour cardNumber.toList) : endsInDigits cardNumber.toList := by
  simp only [Card.valid, Bool.and_eq_true, hlast4] at h
  exact Bool.and_eq_true_iff.mpr h.1.1.1

theorem respond_add_cases : (respond (user, .add r) db).2.isSuccess = false
      ∨ ∃ cardNumber token card, r.cardData.get "cardNumber" = .str cardNumber
        ∧ r.card user cardNumber token = some card
        ∧ respond (user, .add r) db = (storeCard r.today (some card)).run exec db := by
  rw [respond, handle, addPaymentMethod]
  split
  · exact .inl rfl
  · split
    · rename_i cardNumber hnum
      split
      · exact .inl rfl
      · split
        · exact .inl rfl
        · rename_i token _
          rw [perform_bind, run_call]
          cases (exec (.findLike user (lastFour cardNumber.toList)
            (detectCardType cardNumber)) db).2 with
          | some x => exact .inl rfl
          | none =>
            cases hc : r.card user cardNumber token with
            | none => exact .inl rfl
            | some card => exact .inr ⟨cardNumber, token, card, hnum, hc, rfl⟩
    · exact .inl rfl

theorem add_stores {status : Nat} {message : String} {x : Nat × Card}
    (h : (respond (user, .add r) db).2 = .success status message (some x)) :
    ∃ card, (respond (user, .add r) db).1[x.1]? = some card ∧ card.user = user
      ∧ card.last4 = lastFour r.digits ∧ card.cardType = detectType r.digits := by
  rcases respond_add_cases with hfa | ⟨cardNumber, token, card, hnum, hc, heq⟩
  · rw [h] at hfa
    cases hfa
  · rw [heq] at h ⊢
    obtain ⟨hus, hlast4, hty⟩ := card_fields hc
    have hdig : r.digits = stripSpaces cardNumber := by rw [AddRequest.digits, hnum]
    by_cases hst : card.valid r.today ∧ ∀ c ∈ db, c.token ≠ card.token
    · obtain ⟨db', answered, stored, hrun, hl, hu, h4, ht⟩ := run_storeCard hst.1 hst.2
      have hen := endsInDigits_of_valid hst.1 hlast4
      rw [hrun] at h ⊢
      obtain ⟨rfl, rfl, hx⟩ := Response.success.inj h
      cases hx
      rw [hdig]
      exact ⟨stored, hl, hu.trans hus,
        (h4.trans hlast4).trans (lastFour_stripSpaces hen).symm, ht.trans hty⟩
    · rw [storeCard_refused hst] at h
      cases h

theorem card_of_accepted (h : r.Accepted cardNumber) (htok : token ≠ "") :
    ((r.isDefault.isSome && r.billingCasts) = false ∧ r.card user cardNumber (some token) = none)
      ∨ ((r.isDefault.isSome && r.billingCasts) = true
        ∧ ∃ card, r.card user cardNumber (some token) = some card
          ∧ card.valid r.today = endsInDigits cardNumber.toList ∧ card.token = token) := by
  obtain ⟨month, year, hm, hye, hone, htw, hexp⟩ := h.unexpired
  have hcu : Number.le (.fin r.today.year) year := by
    have hnan := castNumber_ne_nan hye
    rw [expired, Bool.or_eq_false_iff] at hexp
    cases year with
    | nan => exact absurd rfl hnan
    | negInf => cases hexp.1
    | posInf => rfl
    | fin =>
      rw [Number.lt_fin, decide_eq_false_iff_not] at hexp
      exact decide_eq_true (not_lt.mp hexp.1)
  simp only [AddRequest.card, hm, hye, Option.bind_eq_bind, Option.bind_some]
  cases r.isDefault with
  | none => exact .inl ⟨rfl, rfl⟩
  | some =>
    cases r.billingCasts with
    | false => exact .inl ⟨rfl, rfl⟩
    | true =>
      refine .inr ⟨rfl, ?_⟩
      simp only [Option.bind_some, Bool.true_and, htok, ne_eq, not_false_eq_true,
        decide_true, if_true]
      refine ⟨_, rfl, ?_, rfl⟩
      simp [Card.valid, endsInDigits, hone, htw, hcu]

theorem add_succeeds_iff (h : r.Accepted cardNumber) (hgw : r.gateway = .ok (some token))
    (hto : token ≠ "") (hf : ∀ card ∈ db, card.token ≠ token) :
    (respond (user, .add r) db).2.isSuccess ↔
      r.storable ∧ endsInDigits cardNumber.toList
        ∧ ¬ db.hasLike user (stripSpaces cardNumber) := by
  rw [respond_add h hgw, AddRequest.storable]
  cases r.complete with
  | false => exact iff_of_false Bool.false_ne_true fun hall => Bool.false_ne_true hall.1
  | true =>
    rw [if_pos rfl, Bool.true_and]
    rcases card_of_accepted h hto with
      ⟨hb, hc⟩ | ⟨hb, card, hc, hv, htok⟩
    · rw [hb, hc]
      refine iff_of_false ?_ fun hall => Bool.false_ne_true hall.1
      split <;> exact Bool.false_ne_true
    · rw [hb, hc]
      cases hen : endsInDigits cardNumber.toList with
      | false =>
        have hin : ¬ (card.valid r.today ∧ ∀ c ∈ db, c.token ≠ card.token) :=
          fun hbo => Bool.false_ne_true ((hv.trans hen).symm.trans hbo.1)
        refine iff_of_false ?_ fun hall => Bool.false_ne_true hall.2.1
        split
        · exact Bool.false_ne_true
        · rw [storeCard_refused hin]
          exact Bool.false_ne_true
      | true =>
        rw [← findLike_eq_none_iff hen]
        cases hfd : (exec (.findLike user (lastFour cardNumber.toList)
            (detectCardType cardNumber)) db).2 with
        | some => exact iff_of_false Bool.false_ne_true fun hall => by cases hall.2.2
        | none =>
          obtain ⟨db', answered, stored, hrun, -⟩ := run_storeCard (hv.trans hen) (htok.symm ▸ hf)
          refine iff_of_true ?_ ⟨rfl, rfl, rfl⟩
          dsimp only
          rw [hrun]
          rfl

/-! ## Whole runs -/

/-- The cards that were added have the endings and types of their digits, and
the removed ones are inactive. -/
structure Recorded (w : Watched) : Prop where
  numbers : ∀ id digits, (id, digits) ∈ w.numbers → ∃ card, w.db[id]? = some card
    ∧ card.last4 = lastFour digits ∧ card.cardType = detectType digits
  removed : ∀ id ∈ w.removed, ∃ card, w.db[id]? = some card ∧ card.isActive = false

variable {w : Watched} {c : Nat × Call}

theorem Recorded.grow (h : Recorded w) (hgro : Grows w.db db) : Recorded { w with db } := by
  constructor
  · intro id digits hmem
    obtain ⟨card, hc, h4, ht⟩ := h.numbers id digits hmem
    obtain ⟨card', hc', -, h4', ht', -⟩ := hgro id card hc
    exact ⟨card', hc', h4'.trans h4, ht'.trans ht⟩
  · intro id hmem
    obtain ⟨card, hc, hina⟩ := h.removed id hmem
    obtain ⟨card', hc', -, -, -, hact⟩ := hgro id card hc
    refine ⟨card', hc', Bool.eq_false_iff.mpr fun htr => ?_⟩
    cases hina.symm.trans (hact htr)

theorem remove_deactivates {id : Nat}
    (h : (respond (user, .remove (.id id) today) db).2.isSuccess) :
    ∃ card, (respond (user, .remove (.id id) today) db).1[id]? = some card
      ∧ card.isActive = false := by
  rw [respond, handle, removePaymentMethod, withCard, perform_bind, run_call] at h ⊢
  cases hf : (exec (.find id user) db).2 with
  | none =>
    rw [hf] at h
    cases h
  | some card =>
    rw [hf] at h
    obtain ⟨hst, -⟩ := Option.filter_eq_some_iff.mp hf
    dsimp only at h ⊢
    rw [run_bind, deactivate] at h ⊢
    cases hv : ({ card with isActive := false } : Card).valid today with
    | false =>
      rw [saveLoaded, if_pos (by rw [hv]; rfl)] at h
      cases h
    | true =>
      have hrun : (saveLoaded today id card { card with isActive := false }).run exec db = _ :=
        run_saveLoaded hv rfl
      have hmo := Collection.getElem?_modify_self hst
        (card.write (({ card with isActive := false } : Card).checkExpiry today))
      refine ⟨_, (congrArg (fun x => x.1[id]?) hrun).trans hmo, ?_⟩
      have hina :
          (({ card with isActive := false } : Card).checkExpiry today).isActive = false := by
        rw [Card.checkExpiry]
        split <;> rfl
      exact (assign_self _ _).trans hina

theorem recorded_watch (h : Recorded w) : Recorded (watch w c) := by
  obtain ⟨user, call⟩ := c
  have hgro : Recorded { w with db := (respond (user, call) w.db).1 } :=
    h.grow (grows_run (handle_deactivates call))
  unfold watch Watched.note
  split
  · rename_i r status message x hc hans
    obtain rfl : call = .add r := hc
    obtain ⟨card, hcd, -, h4, ht⟩ := add_stores hans
    refine ⟨fun id digits hmem => ?_, hgro.removed⟩
    rcases mem_cons.mp hmem with heq | hmem
    · obtain ⟨rfl, rfl⟩ := Prod.mk.inj heq
      exact ⟨card, hcd, h4, ht⟩
    · exact hgro.numbers id digits hmem
  · rename_i id today status message x hc hans
    obtain rfl : call = .remove (.id id) today := hc
    refine ⟨hgro.numbers, fun id' hmem => ?_⟩
    rcases mem_cons.mp hmem with rfl | hmem
    · exact remove_deactivates (by rw [hans]; rfl)
    · exact hgro.removed id' hmem
  · exact hgro

theorem hasLike_of_activeSame (h : Recorded w) {digits : List Char}
    (hs : ActiveSame w user digits) : w.db.hasLike user digits := by
  obtain ⟨id, card, hmem, hc, hu, -⟩ := hs
  obtain ⟨card', hc', h4, ht⟩ := h.numbers id digits hmem
  obtain rfl := Option.mem_unique hc hc'
  exact ⟨card, mem_of_getElem? hc, hu, h4, ht⟩

theorem answered_iff_careful (h : Recorded w) (his : Issued w c) : Answered w c ↔ Careful w c := by
  obtain ⟨user, call⟩ := c
  cases call with
  | add r =>
    obtain ⟨token, hgw, htok, hf⟩ := his
    refine forall_congr' fun cardNumber => forall_congr' fun hacc => ?_
    have hst : r.digits = stripSpaces cardNumber := by rw [AddRequest.digits, hacc.number]
    rw [add_succeeds_iff hacc hgw htok hf]
    constructor
    · rintro ⟨hiff, -⟩
      by_cases hs : ActiveSame w user (stripSpaces cardNumber)
      · exact .inl hs
      · exact .inr (hiff.mpr hs)
    · intro hca
      refine ⟨⟨fun hall hs => hall.2.2 (hasLike_of_activeSame h hs),
        hca.resolve_left⟩, fun status message x hans => ?_⟩
      obtain ⟨card, hc, hu, h4, -⟩ := add_stores hans
      exact ⟨card, hc, hu, hst ▸ h4⟩
  | remove id today | setAsDefault id today | markUsed id today => rfl

theorem mem_methods {p : Card → Bool} {x : Nat × Card} :
    x ∈ db.methods p ↔ db[x.1]? = some x.2 ∧ p x.2 := by
  rw [Db.methods, mem_reverse, mem_map]
  constructor
  · rintro ⟨⟨card, id⟩, hmem, rfl⟩
    obtain ⟨hzip, hp⟩ := mem_filter.mp hmem
    exact ⟨mem_zipIdx_iff_getElem?.mp hzip, hp⟩
  · rintro ⟨hx, hp⟩
    exact ⟨(x.2, x.1), mem_filter.mpr ⟨mem_zipIdx_iff_getElem?.mpr hx, hp⟩, rfl⟩

theorem mem_getUserMethods {x : Nat × Card} :
    x ∈ getUserMethods db user ↔ db[x.1]? = some x.2 ∧ x.2.user = user ∧ x.2.isActive := by
  rw [getUserMethods, mem_append, mem_methods, mem_methods, ← and_or_left]
  cases x.2.isDefault <;> simp

theorem listed_iff (h : Recorded w) (day : Date) : Listed w user day ↔
      ∀ card ∈ w.db, card.user = user → card.isActive → card.isExpired day = false := by
  constructor
  · intro hl card hmem hu hact
    obtain ⟨id, hid⟩ := mem_iff_getElem?.mp hmem
    exact (hl (id, card) (.inl (mem_getUserMethods.mpr ⟨hid, hu, hact⟩))).2
  · intro hune x hx
    obtain ⟨hid, hu, hact⟩ : w.db[x.1]? = some x.2 ∧ x.2.user = user ∧ x.2.isActive = true := by
      rcases hx with hx | hx
      · exact mem_getUserMethods.mp hx
      · obtain ⟨hid, hp⟩ := Collection.findOne_some hx
        simp only [Bool.and_eq_true, decide_eq_true_eq] at hp
        exact ⟨hid, hp.1.1, hp.2⟩
    refine ⟨fun hre => ?_, hune x.2 (mem_of_getElem? hid) hu hact⟩
    obtain ⟨card, hc, hina⟩ := h.removed x.1 hre
    obtain rfl := Option.mem_unique hc hid
    cases hina.symm.trans hact

/-- From an empty collection and with new tokens, every call is answered and the cards are listed
as they should be exactly when every call is careful and no active card has expired. -/
theorem catalogue_iff (calls : List (Nat × Call))
    (hissued : Runs.Every watch Issued ⟨[], [], []⟩ calls) (user : Nat) (day : Date) :
    (Runs.Every watch Answered ⟨[], [], []⟩ calls
        ∧ Listed (Runs.final watch ⟨[], [], []⟩ calls) user day) ↔
      Runs.Every watch Careful ⟨[], [], []⟩ calls
        ∧ ∀ card ∈ (Runs.final watch ⟨[], [], []⟩ calls).db,
          card.user = user → card.isActive = true → card.isExpired day = false := by
  have he : Recorded ⟨[], [], []⟩ := ⟨fun _ _ hmem => absurd hmem not_mem_nil, nofun⟩
  have hrec : Runs.Always watch Recorded ⟨[], [], []⟩ calls :=
    Runs.always_of_step (fun _ _ => recorded_watch) he
  refine and_congr ?_ (listed_iff hrec.last day)
  exact Runs.every_iff_under (I := Recorded) (fun _ _ => recorded_watch)
    (fun _ _ => answered_iff_careful) he hissued

/-! ## Sample calls -/

theorem accepted_sampleAdd {setAsDefault : Bool} (h : validateCardNumber cardNumber) :
    (sampleAdd cardNumber token setAsDefault).Accepted cardNumber := by
  have hune : expired (january 2026) (.fin 12) (.fin 2026) = false := by decide +kernel
  exact ⟨rfl, h, .fin 12, .fin 2026, rfl, rfl, by decide +kernel, by decide +kernel, hune⟩

theorem number_sampleAdd {number : String} {setAsDefault : Bool}
    (h : (sampleAdd cardNumber token setAsDefault).Accepted number) : number = cardNumber :=
  (Value.str.inj h.number).symm

def twoCards : List (Nat × Call) :=
  [(1, .add (sampleAdd "4111 1111 1111 1111" "t1" true)),
   (1, .add (sampleAdd "5500 0000 0000 0004" "t2" true)),
   (1, .remove (.id 0) (january 2026))]

theorem catalogue_of_two_cards :
    Runs.Every watch Answered ⟨[], [], []⟩ twoCards
      ∧ Listed (Runs.final watch ⟨[], [], []⟩ twoCards) 1 (january 2026) := by
  refine (catalogue_iff twoCards ?_ 1 (january 2026)).mpr ⟨⟨?_, ?_, trivial, trivial⟩, ?_⟩
  · exact ⟨⟨"t1", rfl, by decide, by decide +kernel⟩, ⟨"t2", rfl, by decide, by decide +kernel⟩,
      trivial, trivial⟩
  · intro number hacc
    obtain rfl := number_sampleAdd hacc
    exact .inr ⟨by decide +kernel, by decide +kernel, by unfold Db.hasLike; decide +kernel⟩
  · intro number hacc
    obtain rfl := number_sampleAdd hacc
    exact .inr ⟨by decide +kernel, by decide +kernel, by unfold Db.hasLike; decide +kernel⟩
  · decide +kernel

def addedAndRemoved : List (Nat × Call) :=
  [(1, .add (sampleAdd "4111 1111 1111 1111" "t1" false)), (1, .remove (.id 0) (january 2026))]

def addAgain : Nat × Call := (1, .add (sampleAdd "4111 1111 1111 1111" "t2" false))

/-- A card that was removed cannot be added again, and one that was not is
listed after it has expired. -/
theorem catalogue_blocks_removed :
    (respond addAgain (Runs.final watch ⟨[], [], []⟩ addedAndRemoved).db).2
        = .failure 400 "This payment method already exists"
      ∧ ¬ ActiveSame (Runs.final watch ⟨[], [], []⟩ addedAndRemoved) 1
        (stripSpaces "4111 1111 1111 1111")
      ∧ ¬ Answered (Runs.final watch ⟨[], [], []⟩ addedAndRemoved) addAgain
      ∧ ((getUserMethods (Runs.final watch ⟨[], [], []⟩ twoCards).db 1).map
        fun x => x.2.isExpired (january 2027)) = [true] := by
  have href : (respond addAgain (Runs.final watch ⟨[], [], []⟩ addedAndRemoved).db).2
      = .failure 400 "This payment method already exists" := by decide +kernel
  have hina : ∀ card ∈ (Runs.final watch ⟨[], [], []⟩ addedAndRemoved).db,
      card.isActive = false := by decide +kernel
  have hn : ¬ ActiveSame (Runs.final watch ⟨[], [], []⟩ addedAndRemoved) 1
      (stripSpaces "4111 1111 1111 1111") := by
    rintro ⟨id, card, -, hc, -, hact⟩
    have hfal := hina card (mem_of_getElem? hc)
    cases hfal.symm.trans hact
  refine ⟨href, hn, fun h => ?_, by decide +kernel⟩
  have hsuc := (h _ (accepted_sampleAdd (by decide +kernel))).1.mpr hn
  rw [href] at hsuc
  cases hsuc

end SexySelfies.Cards
