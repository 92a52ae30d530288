import SexySelfies.Collection
import SexySelfies.TransactionModel

/-!
# Who sees the media of a content item

`GET /content/:id`: the route's own middleware decides whether the requester has access, and
`getContent` answers the item in full or as a preview. The preview spreads the stored document and
overrides `fullMediaUrl`, a path it does not have; the entries of `media` stay in it.

The route stands before `router.use(protect)`; `user` is what some authentication in front of it
would have set.
-/

namespace SexySelfies.ContentAccess

inductive MediaType where
  | photo
  | video
deriving DecidableEq

structure MediaEntry where
  url : Option String
  type : Option MediaType
  duration : Option Nat
  size : Option Nat
  dimensions : Option (Nat × Nat)
  cloudinaryPublicId : Option String
  originalName : Option String
deriving DecidableEq

structure Creator where
  id : Nat
  user : Nat
  username : Option String
  profileImage : Option String
  isVerified : Bool
deriving DecidableEq

/-- `creator` is null when the profile is gone; `details` are the paths that are
passed on unread. -/
structure Content (δ : Type) where
  creator : Option Creator
  thumbnail : String
  media : List MediaEntry
  price : ℚ
  views : Nat
  details : δ
deriving DecidableEq

/-- `member` and `content` are no paths of the schema: a document saved through
it has neither. -/
structure Transaction where
  memberId : Nat
  contentId : Option Nat
  type : TransactionType
  status : TransactionStatus
  member : Option Nat
  content : Option Nat

structure Db (δ : Type) where
  contents : List (Content δ)
  transactions : List Transaction

structure Env (δ : Type) where
  castId : String → Option Nat
  saves : Content δ → Bool

/-! ## The route -/

inductive Response (δ : Type) where
  | failed (status : Nat) (message : String)
  | full (data : Content δ)
  | preview (data : Content δ) (mediaUrl : String) (unlockPrice : ℚ)
deriving DecidableEq

variable {δ : Type} (db : Db δ)

/-- The middleware; `none` when it throws, reading `user` of a null creator. -/
def Db.hasAccess (id : Nat) (content : Content δ) : Option Nat → Option Bool
  | none => some false
  | some user =>
    content.creator.map fun creator => creator.user = user ||
      db.transactions.any fun t => t.member = some user && t.content = some id &&
        t.type = .contentUnlock && t.status = .completed

def Content.viewed (content : Content δ) : Content δ := { content with views := content.views + 1 }

/-- In full, or as a preview: the document is spread into either. -/
def Content.answer (content : Content δ) (access : Bool) : Response δ :=
  if access then .full content.viewed
  else .preview content.viewed content.thumbnail content.price

variable (env : Env δ)

def getContent (db : Db δ) (user : Option Nat) (contentId : String) :
    Db δ × Response δ :=
  match env.castId contentId with
  | none => (db, .failed 500 "Server error checking content access")
  | some id =>
    match db.contents[id]? with
    | none => (db, .failed 404 "Content not found")
    | some content =>
      match db.hasAccess id content user with
      | none => (db, .failed 500 "Server error checking content access")
      | some access =>
        if env.saves content.viewed then
          ({ db with contents := db.contents.set id content.viewed },
            content.answer access)
        else (db, .failed 500 "Error fetching content")

structure Requester where
  account : Option Nat
  profile : Option Nat

/-- The item's creator, or the buyer in a completed transaction. -/
def Entitled (id : Nat) (content : Content δ) (r : Requester) : Prop :=
  (∃ creator, content.creator = some creator ∧ r.account = some creator.user) ∨
    ∃ t ∈ db.transactions, (r.account = some t.memberId ∨ r.profile = some t.memberId) ∧
      t.contentId = some id ∧ t.type = .contentUnlock ∧ t.status = .completed

def Response.media : Response δ → Option (List MediaEntry)
  | .failed _ _ => none
  | .full data => some data.media
  | .preview data _ _ => some data.media

def Db.withMedia (id : Nat) (media : List MediaEntry) : Db δ :=
  { db with contents := db.contents.modify id fun content => { content with media := media } }

/-- Who is not entitled is answered the same for other media, and who is gets the
media. -/
def Confidential (db : Db δ) (user : Option Nat) (contentId : String) (id : Nat)
    (content : Content δ) (media : List MediaEntry) (r : Requester) : Prop :=
  (¬Entitled db id content r → (getContent env db user contentId).2 =
    (getContent env (db.withMedia id media) user contentId).2) ∧
  (Entitled db id content r → (getContent env db user contentId).2.media = some content.media)

def Served (user : Option Nat) (content : Content δ) : Prop :=
  (user = none ∨ content.creator.isSome = true) ∧ env.saves content.viewed = true

/-! ## What is answered -/

variable {env : Env δ} {db : Db δ} {user : Option Nat} {contentId : String} {id : Nat}
  {content : Content δ}

theorem getContent_of_stored (hid : env.castId contentId = some id)
    (hc : db.contents[id]? = some content) : (getContent env db user contentId).2 =
      match db.hasAccess id content user with
      | none => .failed 500 "Server error checking content access"
      | some a =>
        if env.saves content.viewed then content.answer a
        else .failed 500 "Error fetching content" := by
  rw [getContent, hid]
  dsimp only
  rw [hc]
  dsimp only
  cases db.hasAccess id content user with
  | none => rfl
  | some =>
    dsimp only
    split <;> rfl

theorem hasAccess_isSome_iff :
    (db.hasAccess id content user).isSome ↔ user = none ∨ content.creator.isSome := by
  cases user with
  | none | some user => simp [Db.hasAccess]

theorem media_getContent (hid : env.castId contentId = some id)
    (hc : db.contents[id]? = some content) (user : Option Nat) : (Served env user content ∧
        (getContent env db user contentId).2.media = some content.media) ∨
      (¬Served env user content ∧ (getContent env db user contentId).2.media = none) := by
  rw [getContent_of_stored hid hc, Served, ← hasAccess_isSome_iff]
  cases db.hasAccess id content user with
  | none => exact .inr ⟨fun h => Bool.false_ne_true h.1, rfl⟩
  | some a =>
    dsimp only
    split
    · rename_i hs
      exact .inl ⟨⟨rfl, hs⟩, by cases a <;> rfl⟩
    · rename_i hs
      exact .inr ⟨fun h => hs h.2, rfl⟩

theorem stored_withMedia (hc : db.contents[id]? = some content) (media : List MediaEntry) :
    (db.withMedia id media).contents[id]? = some { content with media := media } :=
  Collection.getElem?_modify_self hc _

theorem hasAccess_withMedia (media : List MediaEntry) :
    (db.withMedia id media).hasAccess id { content with media := media } user =
      db.hasAccess id content user := by
  cases user <;> rfl

theorem getContent_of_not_served (hid : env.castId contentId = some id)
    (hc : db.contents[id]? = some content) {media : List MediaEntry}
    (h : ¬Served env user content) (h' : ¬Served env user { content with media := media }) :
    (getContent env db user contentId).2 =
      (getContent env (db.withMedia id media) user contentId).2 := by
  rw [getContent_of_stored hid hc, getContent_of_stored hid (stored_withMedia hc media),
    hasAccess_withMedia]
  cases hac : db.hasAccess id content user with
  | none => rfl
  | some =>
    have ho : user = none ∨ content.creator.isSome := by
      rw [← hasAccess_isSome_iff, hac]
      rfl
    dsimp only
    rw [if_neg fun hs => h ⟨ho, hs⟩, if_neg fun hs => h' ⟨ho, hs⟩]

/-- For an item that is stored, the answers are confidential exactly when an entitled
requester is answered with data, and any other either asks about equal media
or is answered with data in neither case. -/
theorem media_confidential_iff {δ : Type} (env : Env δ) (db : Db δ) (contentId : String) (id : Nat)
    (content : Content δ) (hid : env.castId contentId = some id)
    (hc : db.contents[id]? = some content) (user : Option Nat) (media : List MediaEntry)
    (r : Requester) :
    Confidential env db user contentId id content media r ↔
      (¬Entitled db id content r → content.media = media ∨
        ¬Served env user content ∧ ¬Served env user { content with media := media }) ∧
      (Entitled db id content r → Served env user content) := by
  have hc' := stored_withMedia hc media
  have hdata := media_getContent hid hc user
  refine and_congr (imp_congr_right fun _ => ?_) (imp_congr_right fun _ => ?_)
  · constructor
    · intro heq
      have hmed := congrArg Response.media heq
      rcases hdata with ⟨-, hm⟩ | ⟨hser, hm⟩
      · rcases media_getContent hid hc' user with ⟨-, hm'⟩ | ⟨-, hm'⟩
        · exact .inl (Option.mem_unique hm (hmed.trans hm'))
        · cases hm.symm.trans (hmed.trans hm')
      · rcases media_getContent hid hc' user with ⟨-, hm'⟩ | ⟨hser', -⟩
        · cases hm.symm.trans (hmed.trans hm')
        · exact .inr ⟨hser, hser'⟩
    · rintro (rfl | ⟨hser, hser'⟩)
      · rw [getContent_of_stored hid hc, getContent_of_stored hid hc', hasAccess_withMedia]
      · exact getContent_of_not_served hid hc hser hser'
  · rcases hdata with ⟨hser, hm⟩ | ⟨hser, hm⟩
    · exact iff_of_true hm hser
    · refine iff_of_false (fun hmed => ?_) hser
      cases hm.symm.trans hmed

def Env.sample : Env Unit := ⟨fun _ => some 0, fun _ => true⟩

def secret : MediaEntry :=
  ⟨some "https://cdn/secret.jpg", some .photo, none, none, none, none, none⟩

def item : Content Unit :=
  ⟨some ⟨3, 7, none, none, true⟩, "blurred.jpg", [secret], 5, 0, ()⟩

def Db.sample : Db Unit := ⟨[item], [⟨9, some 0, .contentUnlock, .completed, none, none⟩]⟩

theorem media_confidential_buyer :
    Entitled Db.sample 0 item ⟨some 8, some 9⟩ ∧
    Confidential Env.sample Db.sample none "0" 0 item [] ⟨some 8, some 9⟩ := by
  have hbuy : Entitled Db.sample 0 item ⟨some 8, some 9⟩ :=
    .inr ⟨_, List.mem_singleton.mpr rfl, .inr rfl, rfl, rfl, rfl⟩
  refine ⟨hbuy, (media_confidential_iff Env.sample Db.sample "0" 0 _ rfl rfl none [] _).mpr ?_⟩
  exact ⟨fun h => absurd hbuy h, fun _ => ⟨.inl rfl, rfl⟩⟩

theorem stranger_sees_media :
    0 < item.price ∧ ¬Entitled Db.sample 0 item ⟨none, none⟩ ∧
    (getContent Env.sample Db.sample none "0").2 = .preview item.viewed "blurred.jpg" 5 ∧
    item.viewed.media = [secret] ∧
    ¬Confidential Env.sample Db.sample none "0" 0 item [] ⟨none, none⟩ := by
  have hstr : ¬Entitled Db.sample 0 item ⟨none, none⟩ := by
    rintro (⟨creator, -, h⟩ | ⟨t, -, h | h, -⟩)
    · cases h
    · cases h
    · cases h
  refine ⟨by decide +kernel, hstr, rfl, rfl, fun h => ?_⟩
  exact absurd (h.1 hstr) (by decide +kernel)

end SexySelfies.ContentAccess
