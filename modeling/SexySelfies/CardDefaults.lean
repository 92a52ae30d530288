import SexySelfies.CardModel

/-!
# One default card

Of a user's cards at most one is the default, whatever is done to them, one operation after another,
and each may fail at any point. The default is unset on the other cards in two places, by a hook of
`save` and by `setAsDefault` before it saves. Either is enough (`Lawful`).
-/

namespace SexySelfies.Cards

open Js Platform CivilDate Interleave Collection

/-- The cards of the users in `p` are the same. -/
def SameCards (p : Nat → Prop) (db db' : Db) : Prop :=
  ∀ (i : Nat) (c : Card), p c.user → (db'[i]? = some c ↔ db[i]? = some c)

structure Outside (user : Nat) where
  write : Db → Db
  same : ∀ db, SameCards (· = user) db (write db)

abbrev Machine := Solo Op.Res (Response (Nat × Card)) Db

variable (user : Nat)

def turn : Machine → Turn Call (Outside user) → Machine :=
  Solo.next exec (handle user) fun db w => w.write db

/-- The user has at most one default card. -/
def OneDefault (db : Db) : Prop :=
  Collection.Unique Card.user (fun c => c.user = user ∧ c.isDefault = true) db

def Own {user : Nat} : Turn Call (Outside user) → Prop
  | .outside _ => False
  | _ => True

/-! ## Lawful writes -/

def NoDefault (except : Option Nat) (db : Db) : Prop :=
  ∀ (j : Nat) (c : Card), some j ≠ except → db[j]? = some c → c.user = user → c.isDefault = false

/-- A card of the user only becomes the default when no other is. -/
def Lawful (db : Db) : Op → Prop
  | .unsetDefaults u _ => u = user
  | .insert card => card.user = user ∧ (card.isDefault = true → NoDefault user none db)
  | .save id loaded new =>
    ∃ c, db[id]? = some c ∧ c.user = user
      ∧ ((loaded.write new c).isDefault = true →
        c.isDefault = true ∨ NoDefault user (some id) db)
  | _ => True

variable {user : Nat} {db db' : Db} {p : Nat → Prop}

theorem sameCards_refl (db : Db) : SameCards p db db := fun _ _ _ => .rfl

theorem sameCards_trans (a b c : Db) (hab : SameCards p a b)
    (hbc : SameCards p b c) : SameCards p a c := fun i d hd => (hbc i d hd).trans (hab i d hd)

variable {except : Option Nat}

theorem NoDefault.same (h : NoDefault user except db) (hs : SameCards (· = user) db db') :
    NoDefault user except db' := by
  intro j c hj hc hu
  exact h j c hj ((hs j c hu).mp hc) hu

variable {i : Nat}

theorem mem_othersOf {c : Card} (hi : db[i]? = some c) :
    i ∈ db.othersOf user except ↔ c.user = user ∧ some i ≠ except := by
  have hlt : i < db.length := (List.getElem?_eq_some_iff.mp hi).1
  simp only [Db.othersOf, List.mem_filter, List.mem_range, hlt, true_and, hi, Option.any_some,
    Bool.and_eq_true, decide_eq_true_eq]

theorem getElem?_unsetDefaults {c : Card} (hi : db[i]? = some c) :
    (exec (.unsetDefaults user except) db).1[i]?
      = some (if c.user = user ∧ some i ≠ except then { c with isDefault := false } else c) := by
  simp [exec, getElem?_updateMany, hi, mem_othersOf hi]

theorem unsetDefaults_cases {c' : Card}
    (hi : (exec (.unsetDefaults user except) db).1[i]? = some c') : ∃ c, db[i]? = some c
      ∧ c' = if c.user = user ∧ some i ≠ except then { c with isDefault := false } else c := by
  cases hc : db[i]? with
  | none =>
    simp only [exec, getElem?_updateMany, hc, Option.map_none] at hi
    cases hi
  | some c =>
    rw [getElem?_unsetDefaults hc] at hi
    exact ⟨c, rfl, (Option.some.inj hi).symm⟩

theorem noDefault_unsetDefaults :
    NoDefault user except (exec (.unsetDefaults user except) db).1 := by
  intro j c' hj hc' hu
  obtain ⟨c, -, rfl⟩ := unsetDefaults_cases hc'
  by_cases h : c.user = user
  · rw [if_pos ⟨h, hj⟩]
  · rw [if_neg fun hbo => h hbo.1] at hu
    exact absurd hu h

theorem oneDefault_unsetDefaults (h : OneDefault user db) :
    OneDefault user (exec (.unsetDefaults user except) db).1 := by
  have hba : ∀ {i : Nat} {c' : Card}, (exec (.unsetDefaults user except) db).1[i]? = some c' →
      c'.user = user ∧ c'.isDefault → db[i]? = some c' := by
    rintro i c' hi ⟨-, hd⟩
    obtain ⟨c, hc, rfl⟩ := unsetDefaults_cases hi
    split at hd
    · cases hd
    · rename_i hnot
      rwa [if_neg hnot]
  intro i j a b hi hj ha hb hkey
  exact h i j a b (hba hi ha) (hba hj hb) ha hb hkey

theorem oneDefault_exec (h : OneDefault user db) {o : Op} (ho : Lawful user db o) :
    OneDefault user (exec o db).1 := by
  cases o with
  | find id u | findLike u last4 ct => exact h
  | unsetDefaults u except =>
    obtain rfl : u = user := ho
    exact oneDefault_unsetDefaults h
  | insert =>
    obtain ⟨hu, hno⟩ := ho
    rw [exec]
    split
    · exact h
    · refine (unique_concat_iff h).mpr fun hcd b hb hma _ => ?_
      obtain ⟨j, hj⟩ := List.mem_iff_getElem?.mp hb
      have huns := hno hcd.2 j b (by simp) hj hma.1
      rw [hma.2] at huns
      cases huns
  | save id loaded new =>
    obtain ⟨c, hc, hu, hset⟩ := ho
    refine (unique_modify_iff h hc rfl).mpr fun hma b hb hb' hkey => ?_
    obtain ⟨j, hji, hj⟩ := List.mem_eraseIdx_iff_getElem?.mp hb
    rcases hset hma.2 with hc' | hno
    · exact hji (h j id b c hj hc hb' ⟨hu, hc'⟩ hkey)
    · have huns := hno j b (fun heq => hji (Option.some.inj heq)) hj hb'.1
      rw [hb'.2] at huns
      cases huns

theorem others_exec {o : Op} (ho : Lawful user db o) : SameCards (· ≠ user) db (exec o db).1 := by
  cases o with
  | find id u | findLike u last4 ct => exact sameCards_refl db
  | unsetDefaults u except =>
    obtain rfl : u = user := ho
    intro i c hc
    constructor
    · intro hi
      obtain ⟨c₀, hc₀, rfl⟩ := unsetDefaults_cases hi
      split at hc
      · rename_i hbo
        exact absurd hbo.1 hc
      · rename_i hnot
        rwa [if_neg hnot]
    · intro hi
      rw [getElem?_unsetDefaults hi, if_neg fun hbo => hc hbo.1]
  | insert =>
    obtain ⟨hu, -⟩ := ho
    rw [exec]
    split
    · exact sameCards_refl db
    · intro i c hc
      refine ⟨fun hi => ?_, getElem?_concat_of_some⟩
      rcases getElem?_concat_cases hi with hi' | ⟨-, rfl⟩
      · exact hi'
      · exact absurd hu hc
  | save id loaded new =>
    obtain ⟨c₀, hc₀, hu, -⟩ := ho
    intro i c hc
    constructor
    · intro hi
      rcases getElem?_modify_cases hc₀ hi with ⟨-, rfl⟩ | ⟨-, hi'⟩
      · exact absurd hu hc
      · exact hi'
    · intro hi
      have hne : id ≠ i := by
        rintro rfl
        obtain rfl := Option.mem_unique hc₀ hi
        exact hc hu
      exact (List.getElem?_modify_ne _ _ hne).trans hi

/-! ## The programs that save -/

/-- `Leads` and `Keeps` of this machine. -/
abbrev Goes (user : Nat) {ρ : Type} (P : Db → ρ → Prop) (db : Db) (p : Proc Op.Res ρ) : Prop :=
  Leads exec (SameCards (· = user)) (fun _ _ => True) (Lawful user) P db p

theorem goes_ensureOneDefault (unset : Bool) (id : Option Nat) :
    Goes user (fun db' _ => (unset → NoDefault user id db')
        ∧ ∀ i c, some i = id → db[i]? = some c → c.user = user → db'[i]? = some c) db
      (ensureOneDefault unset user id) := by
  cases unset with
  | false => exact ⟨nofun, fun _ _ _ hc _ => hc⟩
  | true =>
    intro db' hs _
    refine ⟨rfl, fun _ => noDefault_unsetDefaults, fun i c hi hc hu => ?_⟩
    rw [getElem?_unsetDefaults ((hs i c hu).mpr hc), if_neg fun hbo => hbo.2 hi]

variable {today : Date}

theorem isDefault_checkExpiry (c : Card) :
    (c.checkExpiry today).isDefault = c.isDefault ∧ (c.checkExpiry today).user = c.user := by
  unfold Card.checkExpiry
  split <;> exact ⟨rfl, rfl⟩

variable {card : Card}

theorem goes_saveNew (hu : card.user = user) :
    Goes user (fun db' saved => ∀ x ∈ saved, db'[x.1]? = some x.2 ∧ x.2.user = user) db
      (saveNew today card) := by
  obtain ⟨hdef, hus⟩ := isDefault_checkExpiry card
  unfold saveNew
  split
  · exact fun x hx => by cases hx
  · rw [hu]
    refine leads_bind (fun db₁ _ h => ?_) (goes_ensureOneDefault card.isDefault none)
    intro db₂ hs _
    refine ⟨⟨hus.trans hu, fun hd => (h.1 (hdef ▸ hd)).same hs⟩, fun x hx => ?_⟩
    simp only [exec] at hx ⊢
    split at hx
    · cases hx
    · rename_i hfr
      cases hx
      exact ⟨by simp [hfr], hus.trans hu⟩

theorem goes_saveLoaded {id : Nat} {loaded new : Card}
    (hst : db[id]? = some loaded) (hu : loaded.user = user) (hnew : new.user = user) :
    Goes user (fun _ _ => True) db (saveLoaded today id loaded new) := by
  obtain ⟨hdef, -⟩ := isDefault_checkExpiry new
  unfold saveLoaded
  split
  · trivial
  · rw [hnew]
    refine leads_bind (fun db₁ _ h => ?_) (goes_ensureOneDefault _ (some id))
    intro db₂ hs _
    have hst₂ := (hs id loaded hu).mpr (h.2 id loaded rfl hst hu)
    refine ⟨⟨loaded, hst₂, hu, fun hset => ?_⟩, trivial⟩
    rw [Card.write, assign_self, hdef] at hset
    cases hlo : loaded.isDefault with
    | true => exact .inl rfl
    | false =>
      have huns : (new.isDefault && decide (new.isDefault ≠ loaded.isDefault)) = true := by
        rw [hset, hlo]
        rfl
      exact .inr ((h.1 huns).same hs)

theorem goes_setAsDefault {id : Nat} (hst : db[id]? = some card)
    (hu : card.user = user) : Goes user (fun _ _ => True) db (setAsDefault today id card) := by
  intro db' hs _
  refine ⟨hu, goes_saveLoaded ?_ hu hu⟩
  rw [getElem?_unsetDefaults ((hs id card hu).mpr hst), if_neg fun hbo => hbo.2 rfl]

theorem goes_withCard {id : Ref} {error : String}
    {f : Nat → Card → Proc Op.Res (Response (Nat × Card))}
    (hf : ∀ db id card, db[id]? = some card → card.user = user →
      Goes user (fun _ _ => True) db (f id card)) :
    Goes user (fun _ _ => True) db (withCard user id error f) := by
  cases id with
  | absent | malformed => trivial
  | id id =>
    intro db' _ _
    refine ⟨trivial, ?_⟩
    cases hfd : (exec (.find id user) db').2 with
    | none => trivial
    | some card =>
      obtain ⟨hst, hu⟩ := Option.filter_eq_some_iff.mp hfd
      exact hf _ id card hst (of_decide_eq_true hu)

theorem card_fields {r : AddRequest} {cardNumber : String} {token : Option String}
    (h : r.card user cardNumber token = some card) :
    card.user = user ∧ card.last4 = lastFour cardNumber.toList
      ∧ card.cardType = detectCardType cardNumber := by
  simp only [AddRequest.card, Option.bind_eq_bind, Option.bind_eq_some_iff] at h
  obtain ⟨_, _, _, _, _, _, _, _, _, _, _, _, h⟩ := h
  split at h
  · rw [← Option.some.inj h]
    exact ⟨rfl, rfl, rfl⟩
  · cases h

theorem goes_storeCard {card : Option Card} (hu : ∀ c ∈ card, c.user = user) :
    Goes user (fun _ _ => True) db (storeCard today card) := by
  cases card with
  | none => trivial
  | some card =>
    refine leads_bind (fun db₁ saved hs => ?_) (goes_saveNew (hu card rfl))
    match saved, hs with
    | none, _ => trivial
    | some (id, card), hs =>
      obtain ⟨hst, hc⟩ := hs (id, card) rfl
      refine iteInduction (motive := fun p => Goes user (fun _ _ => True) db₁ p)
        (fun _ => ?_) fun _ => trivial
      refine leads_bind (fun _ r _ => ?_) (goes_setAsDefault hst hc)
      cases r <;> trivial

theorem goes_addPaymentMethod (r : AddRequest) :
    Goes user (fun _ _ => True) db (addPaymentMethod user r) := by
  unfold addPaymentMethod
  split
  · trivial
  · split
    · split
      · trivial
      · split
        · trivial
        · refine leads_bind (P := fun _ _ => True) (fun db' found _ => ?_)
            fun _ _ _ => ⟨trivial, trivial⟩
          cases found with
          | some => trivial
          | none => exact goes_storeCard (fun c hc => (card_fields hc).1)
    · trivial

theorem handle_lawful (call : Call) (db : Db) :
    Keeps exec (SameCards (· = user)) (fun _ _ => True) (Lawful user) db (handle user call) := by
  refine keeps_of_leads (P := fun _ _ => True) ?_
  cases call with
  | add r => exact goes_addPaymentMethod r
  | remove id today =>
    refine goes_withCard (fun db id card hst hu => ?_)
    refine leads_bind (fun _ _ _ => ?_) (goes_saveLoaded hst hu hu)
    trivial
  | setAsDefault id today =>
    refine goes_withCard (fun db id card hst hu => ?_)
    refine leads_bind (fun _ _ _ => ?_) (goes_setAsDefault hst hu)
    trivial
  | markUsed id today =>
    refine goes_withCard (fun db id card hst hu => ?_)
    refine leads_bind (fun _ _ _ => ?_) (goes_saveLoaded hst hu hu)
    trivial

/-! ## Whole runs -/

theorem oneDefault_outside (h : OneDefault user db) (hs : SameCards (· = user) db db') :
    OneDefault user db' := by
  intro i j a b hi hj ha hb hkey
  exact h i j a b ((hs i a ha.1).mp hi) ((hs j b hb.1).mp hj) ha hb hkey

theorem every_lawful (db : Db) (turns : List (Turn Call (Outside user))) :
    Runs.Every (turn user) (Solo.Fires (Lawful user)) ⟨db, none⟩ turns :=
  solo_every_of_keeps (I := fun _ => True) sameCards_refl sameCards_trans
    (fun db w => w.same db) (fun _ _ _ => trivial) (fun _ _ _ _ => trivial)
    (fun call db => handle_lawful call db) trivial fun _ hp => by cases hp

/-- However a user's cards are changed, one operation at a time, each of which may stop anywhere:
at most one is the default, and no other user's card changes. -/
theorem one_default_card (user : Nat) (db : Db) (h : OneDefault user db)
    (turns : List (Turn Call (Outside user))) :
    Runs.Always (turn user) (fun m => OneDefault user m.store) ⟨db, none⟩ turns
      ∧ Runs.Every (turn user)
        (fun m t => Own t → SameCards (· ≠ user) m.store (turn user m t).store)
        ⟨db, none⟩ turns := by
  have hlaw := every_lawful db turns
  constructor
  · refine Runs.always_of_every (fun m t hm ht => ?_) h hlaw
    have hop : ∀ s o, Lawful user s o → OneDefault user s → OneDefault user (exec o s).1 :=
      fun _ _ ho hs => oneDefault_exec hs ho
    exact solo_next_store (T := fun s s' => OneDefault user s → OneDefault user s')
      (fun _ hs => hs) hop (fun db w hs => oneDefault_outside hs (w.same db)) ht hm
  · refine Runs.every_mono (fun m t ht hown => ?_) hlaw
    obtain ⟨s, p⟩ := m
    cases t with
    | start => exact sameCards_refl s
    | step =>
      match p, ht with
      | none, _ | some (.ret r), _ => exact sameCards_refl s
      | some (.call o k), ht => exact others_exec ht
    | outside => exact hown.elim

theorem one_default_card_taken_over :
    let turns : List (Turn Call (Outside 1)) :=
      .start (.add (sampleAdd "4111 1111 1111 1111" "t1" true)) :: List.replicate 5 .step
        ++ .start (.add (sampleAdd "5500 0000 0000 0004" "t2" true)) :: List.replicate 4 .step
    ((Runs.final (turn 1) ⟨[], none⟩ turns).store.map fun c => (c.last4, c.isDefault))
        = [("1111".toList, false), ("0004".toList, true)]
      ∧ Runs.Always (turn 1) (fun m => OneDefault 1 m.store) ⟨[], none⟩ turns
      ∧ Runs.Every (turn 1)
        (fun m t => Own t → SameCards (· ≠ 1) m.store (turn 1 m t).store) ⟨[], none⟩ turns := by
  refine ⟨by decide +kernel, one_default_card 1 [] ?_ _⟩
  intro i j a b hi
  cases hi

end SexySelfies.Cards
