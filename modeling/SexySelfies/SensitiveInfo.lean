import SexySelfies.JsonTree

/-!
# E-mail addresses and phone numbers in filtered data

`hideSensitiveInfo` of `privacyFilters.js` goes through a tree and masks the fields that
`shouldHideField` accepts, by their names or because the value is an e-mail address or a phone
number. A text that is no field is never tested (`loose`). A mask is itself a text, and one made of
an address can again be an address (`Abbreviates`). And making the mask of a birth date can throw,
in which case the data is returned as it came (`Fails`).
-/

namespace SexySelfies.Privacy.Sensitive

open Js List

/-! ## The filter -/

structure Options where
  hideEmail : Bool := true
  hidePhone : Bool := true
  hidePayment : Bool := true
  hideLocation : Bool := true
  hidePersonal : Bool := true
  hideDates : Bool := false
  hideIds : Bool := false
  requesterRole : String := "public"

variable (t : Text)

/-- `/^[^\s@]+@[^\s@]+\.[^\s@]+$/`: one `@` with text before it, no white space, and
a dot inside of what follows. -/
def emailRegex : Bool :=
  match Text.split t atSign with
  | [user, domain] =>
    !user.isEmpty && (user ++ domain).all (fun u => !Text.isSpace u)
      && domain.tail.dropLast.contains 0x2E
  | _ => false

def phoneUnit (u : UInt16) : Bool :=
  Text.isDigit u || Text.isSpace u || u == 0x2D || u == 0x28 || u == 0x29

def phoneRegex : Bool :=
  let rest := if t.head? = some 0x2B then t.tail else t
  !rest.isEmpty && rest.all phoneUnit

def digits : Text := t.filter Text.isDigit

def isEmail : Json → Bool
  | .str t => emailRegex t
  | _ => false

def isPhoneNumber : Json → Bool
  | .str t => phoneRegex t && 10 ≤ (digits t).length
  | _ => false

def mentions (fieldName : Text) (words : List String) : Bool := words.any fieldName.includes

/-- The name is in lower case, so three of the names of identifiers never match. -/
def shouldHideField (fieldName : Text) (value : Json) (o : Options) : Bool :=
  o.hideEmail && (mentions fieldName ["email", "mail"] || isEmail value)
  || o.hidePhone && (mentions fieldName ["phone", "mobile", "tel"] || isPhoneNumber value)
  || o.hidePayment && mentions fieldName ["payment", "card", "bank", "stripe", "account"]
  || o.hideLocation
    && mentions fieldName ["address", "location", "city", "country", "zip", "postal"]
  || o.hidePersonal
    && (mentions fieldName ["ssn", "tax", "passport", "license", "birth"]
      || fieldName == units "age")
  || o.hideDates && mentions fieldName ["date", "time", "created", "updated"]
  || o.hideIds
    && (mentions fieldName ["id"]
      || [units "_id", units "userId", units "memberId", units "creatorId"].contains fieldName)

/-- The part of a user name that is shown; `undefined` is written for the first
character of an empty one. -/
def hint (username : Text) : Text :=
  if username.length ≤ 2 then (username.head?.map fun u => [u]).getD (units "undefined")
  else username.take 2

def maskEmail : Json → Text
  | .str email =>
    match Text.split email atSign with
    | [username, domain] => hint username ++ units "***@" ++ domain
    | _ => units "[Email Hidden]"
  | _ => units "[Email Hidden]"

def lastFour : Text := t.drop (t.length - 4)

def maskDigits (least : Nat) (start hidden : String) : Json → Text
  | .str t =>
    if least ≤ (digits t).length then units start ++ lastFour (digits t) else units hidden
  | _ => units hidden

def maskPhone : Json → Text := maskDigits 10 "***-***-" "[Phone Hidden]"

def maskCard : Json → Text := maskDigits 12 "**** **** **** " "[Card Hidden]"

/-- Some units of a text, and a fixed text for any other value. -/
def maskText (keep : Text → Text) (hidden : String) : Json → Text
  | .str t => keep t
  | _ => units hidden

def maskAddress : Json → Text := maskText (fun t => t.take 5 ++ units "...") "[Hidden]"

def maskId : Json → Text :=
  maskText (fun t => t.take 4 ++ units "..." ++ lastFour t) "[Protected]"

/-- A year that a date can be in; times are within 100 million days of the epoch. -/
abbrev Year := { y : ℤ // -271821 ≤ y ∧ y ≤ 275760 }

/-- `date.getFullYear().toString()`, without a year for an invalid date. -/
def yearText : Option Year → Text
  | none => units "NaN"
  | some y => Text.ofInt y.1

inductive Mask where
  | email
  | phone
  | card
  | number
  | year
  | address
  | identifier
  | other
  deriving DecidableEq

def isText : Json → Bool
  | .str _ => true
  | _ => false

def isLongText : Json → Bool
  | .str t => 8 < t.length
  | _ => false

def maskOf (lowerField : Text) (value : Json) : Mask :=
  if lowerField.includes "email" || isEmail value then .email
  else if lowerField.includes "phone" || isPhoneNumber value then .phone
  else if lowerField.includes "card" && isText value then .card
  else if lowerField.includes "ssn" || lowerField.includes "tax" then .number
  else if lowerField.includes "birth" && value.truthy then .year
  else if lowerField.includes "address" then .address
  else if lowerField.includes "id" && isLongText value then .identifier
  else .other

-- The year of `new Date(value)` depends on the time zone and on how the platform
-- reads dates.
variable (fullYear : Json → Option Year)

/-- `none` when it throws. -/
def maskField (fieldName : Text) (value : Json) : Option Text :=
  match maskOf fieldName.toLowerCase value with
  | .email => some (maskEmail value)
  | .phone => some (maskPhone value)
  | .card => some (maskCard value)
  | .number => some (units "***-**-****")
  | .year => if value.hasNoText then none else some (yearText (fullYear value))
  | .address => some (maskAddress value)
  | .identifier => some (maskId value)
  | .other => some (units "[Protected]")

variable (o : Options)

mutual

/-- A field that is no object is kept by the third branch of the source, which is
what processing it gives. -/
def processObject : Json → Option Json
  | .arr xs => (processElements xs).map .arr
  | .obj fields => (processFields fields).map .obj
  | v => some v

def processElements : List Json → Option (List Json)
  | [] => some []
  | x :: xs => do
      let y ← processObject x
      let ys ← processElements xs
      return y :: ys

def processFields : List (Text × Json) → Option (List (Text × Json))
  | [] => some []
  | (key, value) :: fields => do
      let processed ← (
        if shouldHideField key.toLowerCase value o then (maskField fullYear key value).map .str
        else processObject value : Option Json)
      let rest ← processFields fields
      return Json.assign key processed rest

end

variable (data : Json)

/-- The data is returned as it came to an admin and when something throws. -/
def hideSensitiveInfo : Json :=
  if o.requesterRole = "admin" then data else (processObject fullYear o data).getD data

/-! ## What the input shows -/

def sensitive : Bool := isEmail (.str t) || isPhoneNumber (.str t)

def reached (names : Text → Bool) : Json → List (Text × Json) :=
  Json.collect (fun _ => []) fun key v inner =>
    if names key then if shouldHideField key.toLowerCase v o then [(key, v)] else inner else []

def isStored (key : Text) : Bool := key ≠ units "__proto__"

/-- The texts that are the root or an element of an array, outside of hidden
fields. -/
def loose : Json → List Text :=
  Json.collect Json.text fun key v inner =>
    if !isStored key || shouldHideField key.toLowerCase v o || isText v then [] else inner

/-- Masking a birth date throws. -/
def Fails : Prop :=
  ∃ f ∈ reached o (fun _ => true) data,
    maskOf f.1.toLowerCase f.2 = .year ∧ f.2.hasNoText = true

/-- The address with which a hidden text is replaced, by the branch that masks it. -/
def Abbreviates (key : Text) (v : Json) (s : Text) : Prop :=
  match maskOf key.toLowerCase v with
  | .email => ∃ user domain, v = .str (user ++ atSign :: domain) ∧ atSign ∉ user
      ∧ atSign ∉ domain ∧ s = hint user ++ units "***@" ++ domain
  | .address => ∃ t, v = .str t ∧ s = t.take 5 ++ units "..."
  | .identifier => ∃ t, v = .str t ∧ s = t.take 4 ++ units "..." ++ lastFour t
  | _ => False

/-- When a birth date throws, no text of the data is sensitive. Otherwise no loose
one is, and no address in the data is the abbreviation of a hidden field. -/
def Guarded : Prop :=
  (Fails o data → ∀ s ∈ data.strings, sensitive s = false)
  ∧ (¬ Fails o data → (∀ s ∈ loose o data, sensitive s = false)
    ∧ ∀ f ∈ reached o isStored data, ∀ s ∈ data.strings,
      isEmail (.str s) = true → ¬ Abbreviates f.1 f.2 s)

/-! ## Masks -/

variable {t : Text}

theorem mem_of_emailRegex (h : emailRegex t) : atSign ∈ t := by
  rw [emailRegex] at h
  split at h
  · next user domain hsp =>
    rw [(Text.split_eq_pair.mp hsp).1]
    exact mem_append_right _ mem_cons_self
  · cases h

variable {u : UInt16}

theorem phoneUnit_of_phoneRegex (h : phoneRegex t) (hu : u ∈ t) :
    u = 0x2B ∨ phoneUnit u := by
  simp only [phoneRegex, Bool.and_eq_true, all_eq_true] at h
  obtain ⟨-, hall⟩ := h
  cases t with
  | nil => cases hu
  | cons v rest =>
    by_cases hpl : v = 0x2B
    · rw [hpl, head?_cons, if_pos rfl, tail_cons] at hall
      rcases mem_cons.mp hu with hv | hr
      · exact .inl (hv.trans hpl)
      · exact .inr (hall u hr)
    · rw [head?_cons, if_neg (fun h => hpl (Option.some.inj h))] at hall
      exact .inr (hall u hu)

theorem isPhoneNumber_eq_false (hu : u ∈ t) (hpl : u ≠ 0x2B) (hun : phoneUnit u = false) :
    isPhoneNumber (.str t) = false := by
  refine Bool.eq_false_iff.mpr fun h => ?_
  rw [isPhoneNumber, Bool.and_eq_true] at h
  rcases phoneUnit_of_phoneRegex h.1 hu with heq | heq
  · exact hpl heq
  · cases hun.symm.trans heq

theorem isEmail_eq_false (hat : atSign ∉ t) : isEmail (.str t) = false :=
  Bool.eq_false_iff.mpr fun h => hat (mem_of_emailRegex h)

theorem sensitive_eq_false (hu : u ∈ t) (hpl : u ≠ 0x2B) (hun : phoneUnit u = false)
    (hat : atSign ∉ t) : sensitive t = false := by
  rw [sensitive, isEmail_eq_false hat, isPhoneNumber_eq_false hu hpl hun, Bool.or_false]

theorem sensitive_maskDigits {start hidden : String} (hsta : 0x2A ∈ units start)
    (hat : atSign ∉ units start) (hhid : sensitive (units hidden) = false) (least : Nat)
    (v : Json) : sensitive (maskDigits least start hidden v) = false := by
  cases v with
  | str =>
    rw [maskDigits]
    split
    · refine sensitive_eq_false (mem_append_left _ hsta) (by decide) (by decide) ?_
      intro h
      rcases mem_append.mp h with hst | hd
      · exact hat hst
      · have hmem := (mem_filter.mp (mem_of_mem_drop hd)).2
        exact absurd hmem (by decide)
    · exact hhid
  | _ => exact hhid

theorem sensitive_yearText (year : Option Year) : sensitive (yearText year) = false := by
  cases year with
  | none => decide
  | some y =>
    obtain ⟨y, hlow, hhi⟩ := y
    have hlen : (Text.ofInt y).length ≤ 7 := Text.length_ofInt_le (by decide) (by omega)
    have hdig : (digits (Text.ofInt y)).length ≤ (Text.ofInt y).length := length_filter_le _ _
    have hat : atSign ∉ Text.ofInt y := by
      intro h
      rcases Text.mem_ofInt h with heq | heq
      · exact absurd heq (by decide)
      · exact absurd heq (by decide)
    have hfew : ¬ 10 ≤ (digits (Text.ofInt y)).length := by omega
    rw [yearText, sensitive, isEmail_eq_false hat, isPhoneNumber, decide_eq_false hfew,
      Bool.and_false, Bool.or_false]

section

variable {s : Text} (hs : sensitive s = true)

include hs

theorem ne_sensitive (ht : sensitive t = false) : t ≠ s := by
  rintro rfl
  cases ht.symm.trans hs

variable {v : Json}

theorem maskEmail_eq_iff :
    maskEmail v = s ↔ ∃ user domain, v = .str (user ++ atSign :: domain) ∧ atSign ∉ user
      ∧ atSign ∉ domain ∧ s = hint user ++ units "***@" ++ domain := by
  constructor
  · intro h
    cases v with
    | str =>
      rw [maskEmail] at h
      split at h
      · next user domain hsp =>
        obtain ⟨rfl, hu, hdom⟩ := Text.split_eq_pair.mp hsp
        exact ⟨user, domain, rfl, hu, hdom, h.symm⟩
      · exact absurd h (ne_sensitive hs (by decide))
    | _ => exact absurd h (ne_sensitive hs rfl)
  · rintro ⟨user, domain, rfl, hu, hdom, rfl⟩
    simp only [maskEmail, Text.split_append hu hdom]

theorem maskText_eq_iff {keep : Text → Text} {hidden : String}
    (hhid : sensitive (units hidden) = false) :
    maskText keep hidden v = s ↔ ∃ t, v = .str t ∧ s = keep t := by
  constructor
  · intro h
    cases v with
    | str t => exact ⟨t, rfl, h.symm⟩
    | _ => exact absurd h (ne_sensitive hs hhid)
  · rintro ⟨t, rfl, rfl⟩
    rfl

theorem sensitive_maskField_iff {fullYear : Json → Option Year} {key : Text} :
    maskField fullYear key v = some s ↔ Abbreviates key v s := by
  have hno : ∀ {t : Text}, sensitive t = false → (some t = some s ↔ False) := fun ht =>
    iff_false_intro fun h => ne_sensitive hs ht (Option.some.inj h)
  rw [maskField, Abbreviates]
  cases maskOf key.toLowerCase v with
  | email => exact Option.some_inj.trans (maskEmail_eq_iff hs)
  | phone => exact hno (sensitive_maskDigits (by decide) (by decide) (by decide) 10 v)
  | card => exact hno (sensitive_maskDigits (by decide) (by decide) (by decide) 12 v)
  | number => exact hno (by decide)
  | year =>
    dsimp only
    split
    · exact iff_false_intro (fun h => by cases h)
    · exact hno (sensitive_yearText _)
  | address | identifier => exact Option.some_inj.trans (maskText_eq_iff hs (by decide))
  | other => exact hno (by decide)

theorem isEmail_of_abbreviates {key : Text} (h : Abbreviates key v s) :
    isEmail (.str s) := by
  have hphone : isPhoneNumber (.str s) = false := by
    rw [Abbreviates] at h
    split at h
    · obtain ⟨user, d, -, -, -, rfl⟩ := h
      refine isPhoneNumber_eq_false (u := 0x2A) ?_ (by decide) (by decide)
      exact mem_append_left _ (mem_append_right _ (by decide))
    · obtain ⟨t, -, rfl⟩ := h
      exact isPhoneNumber_eq_false (u := 0x2E) (mem_append_right _ (by decide)) (by decide)
        (by decide)
    · obtain ⟨t, -, rfl⟩ := h
      refine isPhoneNumber_eq_false (u := 0x2E) ?_ (by decide) (by decide)
      exact mem_append_left _ (mem_append_right _ (by decide))
    · exact h.elim
  rwa [sensitive, hphone, Bool.or_false] at hs

end

theorem maskField_eq_none {fullYear : Json → Option Year} {key : Text} {v : Json} :
    maskField fullYear key v = none ↔ maskOf key.toLowerCase v = .year ∧ v.hasNoText := by
  rw [maskField]
  cases maskOf key.toLowerCase v with
  | year | _ => simp

/-! ## One text through the recursion -/

section

variable {o : Options} {s : Text}

/-- The text is in the result, if it is sensitive and nothing throws. -/
def Shown (o : Options) (s : Text) (v : Json) : Prop :=
  s ∈ loose o v ∨ ∃ f ∈ reached o isStored v, Abbreviates f.1 f.2 s

def ShownField (o : Options) (s : Text) (f : Text × Json) : Prop :=
  isStored f.1 = true ∧
    if shouldHideField f.1.toLowerCase f.2 o = true then Abbreviates f.1 f.2 s
    else isText f.2 = false ∧ Shown o s f.2

variable {xs : List Json}

theorem mem_loose_arr : s ∈ loose o (.arr xs) ↔ ∃ x ∈ xs, s ∈ loose o x := Json.mem_collectElements

variable {fields : List (Text × Json)}

theorem mem_loose_obj : s ∈ loose o (.obj fields) ↔ ∃ f ∈ fields, isStored f.1
      ∧ shouldHideField f.1.toLowerCase f.2 o = false ∧ isText f.2 = false ∧ s ∈ loose o f.2 := by
  refine Json.mem_collectFields.trans (exists_congr fun f => and_congr_right fun _ => ?_)
  split
  · next h =>
    refine iff_of_false not_mem_nil ?_
    rintro ⟨hst, hk, hte, -⟩
    simp [hst, hk, hte] at h
  · next h =>
    simp only [Bool.or_eq_true, Bool.not_eq_true', not_or, Bool.not_eq_false, Bool.not_eq_true] at h
    obtain ⟨⟨hst, hk⟩, hte⟩ := h
    exact ⟨fun hs => ⟨hst, hk, hte, hs⟩, fun hs => hs.2.2.2⟩

variable {names : Text → Bool} {P : Text × Json → Prop}

theorem exists_reached_arr :
    (∃ f ∈ reached o names (.arr xs), P f) ↔ ∃ x ∈ xs, ∃ f ∈ reached o names x, P f := by
  constructor
  · rintro ⟨f, hf, hP⟩
    obtain ⟨x, hx, hf⟩ := Json.mem_collectElements.mp hf
    exact ⟨x, hx, f, hf, hP⟩
  · rintro ⟨x, hx, f, hf, hP⟩
    exact ⟨f, Json.mem_collectElements.mpr ⟨x, hx, hf⟩, hP⟩

theorem mem_reached_obj {f : Text × Json} :
    f ∈ reached o names (.obj fields) ↔ ∃ g ∈ fields, names g.1
      ∧ if shouldHideField g.1.toLowerCase g.2 o = true then f = g
        else f ∈ reached o names g.2 := by
  refine Json.mem_collectFields.trans (exists_congr fun g => and_congr_right fun _ => ?_)
  split
  · next hn =>
    rw [and_iff_right hn]
    split
    · exact mem_singleton
    · rfl
  · next hn => exact iff_of_false not_mem_nil fun h => hn h.1

theorem exists_reached_obj :
    (∃ f ∈ reached o names (.obj fields), P f) ↔ ∃ g ∈ fields, names g.1
      ∧ if shouldHideField g.1.toLowerCase g.2 o = true then P g
        else ∃ f ∈ reached o names g.2, P f := by
  constructor
  · rintro ⟨f, hf, hP⟩
    obtain ⟨g, hg, hn, hf⟩ := mem_reached_obj.mp hf
    refine ⟨g, hg, hn, ?_⟩
    split at hf
    · next hhid => rwa [if_pos hhid, ← hf]
    · next hk =>
      rw [if_neg hk]
      exact ⟨f, hf, hP⟩
  · rintro ⟨g, hg, hn, h⟩
    split at h
    · next hhid => exact ⟨g, mem_reached_obj.mpr ⟨g, hg, hn, by rw [if_pos hhid]⟩, h⟩
    · next hk =>
      obtain ⟨f, hf, hP⟩ := h
      exact ⟨f, mem_reached_obj.mpr ⟨g, hg, hn, by rwa [if_neg hk]⟩, hP⟩

variable {v : Json}

theorem isText_of_mem_reached {f : Text × Json} (h : f ∈ reached o names v) : isText v = false := by
  cases v with
  | str => cases h
  | _ => rfl

theorem shown_arr : Shown o s (.arr xs) ↔ ∃ x ∈ xs, Shown o s x := by
  rw [Shown, mem_loose_arr, exists_reached_arr, ← exists_or]
  exact exists_congr fun x => and_or_left.symm

theorem shown_obj : Shown o s (.obj fields) ↔ ∃ f ∈ fields, ShownField o s f := by
  rw [Shown, mem_loose_obj, exists_reached_obj, ← exists_or]
  refine exists_congr fun g => ?_
  rw [← and_or_left, ShownField, ← and_or_left]
  refine and_congr_right fun _ => and_congr_right fun _ => ?_
  by_cases hhid : shouldHideField g.1.toLowerCase g.2 o = true
  · simp [hhid]
  · rw [if_neg hhid, if_neg hhid, Shown, and_iff_right (Bool.eq_false_iff.mpr hhid), and_or_left]
    refine or_congr_right ⟨fun h => ⟨?_, h⟩, fun h => h.2⟩
    obtain ⟨f, hf, -⟩ := h
    exact isText_of_mem_reached hf

variable {fullYear : Json → Option Year}

theorem processElements_cons {x : Json} {zs : List Json} :
    processElements fullYear o (x :: xs) = some zs ↔ ∃ y, processObject fullYear o x = some y
        ∧ ∃ ys, processElements fullYear o xs = some ys ∧ y :: ys = zs := by
  simp [processElements, Option.bind_eq_some_iff]

theorem processFields_cons {key : Text} {gs : List (Text × Json)} :
    processFields fullYear o ((key, v) :: fields) = some gs
      ↔ ∃ w, (if shouldHideField key.toLowerCase v o then (maskField fullYear key v).map .str
            else processObject fullYear o v) = some w
        ∧ ∃ rest, processFields fullYear o fields = some rest ∧ Json.assign key w rest = gs := by
  simp [processFields, Option.bind_eq_some_iff]

theorem mem_strings_processElements {ys : List Json}
    (ih : ∀ x ∈ xs, ∀ y, processObject fullYear o x = some y → (s ∈ y.strings ↔ Shown o s x))
    (h : processElements fullYear o xs = some ys) :
    s ∈ (Json.arr ys).strings ↔ ∃ x ∈ xs, Shown o s x := by
  rw [Json.mem_strings_arr]
  induction xs generalizing ys with
  | nil =>
    cases h
    simp
  | cons x xs ihxs =>
    obtain ⟨y, hy, zs, hzs, rfl⟩ := processElements_cons.mp h
    rw [exists_mem_cons_iff, exists_mem_cons_iff, ih x mem_cons_self y hy,
      ihxs (fun x hx => ih x (mem_cons_of_mem _ hx)) hzs]

variable (hemail : o.hideEmail = true) (hphone : o.hidePhone = true) (hs : sensitive s = true)

include hemail hphone hs

theorem shouldHideField_of_sensitive (f : Text) : shouldHideField f (.str s) o := by
  rw [sensitive, Bool.or_eq_true] at hs
  rcases hs with h | h
  · simp [shouldHideField, hemail, h]
  · simp [shouldHideField, hphone, h]

theorem mem_strings_processed {key : Text} {w : Json}
    (ih : ∀ w, processObject fullYear o v = some w → (s ∈ w.strings ↔ Shown o s v))
    (h : (if shouldHideField key.toLowerCase v o then (maskField fullYear key v).map .str
      else processObject fullYear o v) = some w) :
    key ≠ units "__proto__" ∧ s ∈ w.strings ↔ ShownField o s (key, v) := by
  rw [ShownField, isStored, decide_eq_true_eq]
  refine and_congr_right fun _ => ?_
  split at h
  · next hhid =>
    obtain ⟨m, hm, rfl⟩ := Option.map_eq_some_iff.mp h
    have hma : maskField fullYear key v = some s ↔ Abbreviates key v s := sensitive_maskField_iff hs
    rw [if_pos hhid, ← hma, hm, Option.some_inj]
    exact mem_singleton.trans eq_comm
  · next hk =>
    rw [if_neg hk]
    cases v with
    | str =>
      cases h
      refine iff_of_false (fun hmem => hk ?_) (fun h => Bool.noConfusion h.1)
      rw [← mem_singleton.mp hmem]
      exact shouldHideField_of_sensitive hemail hphone hs _
    | _ => exact (ih w h).trans (and_iff_right rfl).symm

theorem mem_strings_processFields {gs : List (Text × Json)}
    (ih : ∀ f ∈ fields, ∀ w, processObject fullYear o f.2 = some w →
      (s ∈ w.strings ↔ Shown o s f.2)) (h : processFields fullYear o fields = some gs) :
    s ∈ (Json.obj gs).strings ↔ ∃ f ∈ fields, ShownField o s f := by
  induction fields generalizing gs with
  | nil =>
    cases h
    simp [Json.mem_strings_obj]
  | cons f fields i =>
    obtain ⟨key, v⟩ := f
    obtain ⟨w, hw, rest, hr, rfl⟩ := processFields_cons.mp h
    rw [Json.mem_strings_assign, exists_mem_cons_iff,
      mem_strings_processed hemail hphone hs (ih (key, v) mem_cons_self) hw,
      i (fun f hf => ih f (mem_cons_of_mem _ hf)) hr]

theorem mem_strings_processObject {w : Json} (h : processObject fullYear o v = some w) :
    s ∈ w.strings ↔ Shown o s v := by
  have hle : ∀ {v : Json}, (reached o isStored v = []) → (s ∈ loose o v ↔ s ∈ v.strings) →
      (s ∈ v.strings ↔ Shown o s v) := by
    intro v hrch hloo
    rw [Shown, hrch, hloo]
    simp
  induction v using Json.induction generalizing w with
  | null | bool b | num q | str t =>
    cases h
    exact hle rfl .rfl
  | arr xs ih =>
    obtain ⟨ys, hys, rfl⟩ := Option.map_eq_some_iff.mp h
    rw [mem_strings_processElements (fun x hx y => ih x hx) hys, shown_arr]
  | obj fields ih =>
    obtain ⟨gs, hgs, rfl⟩ := Option.map_eq_some_iff.mp h
    rw [mem_strings_processFields hemail hphone hs (fun f hf w => ih f hf) hgs, shown_obj]

end

/-! ## What throws -/

section

variable {o : Options}

theorem fails_arr {xs : List Json} : Fails o (.arr xs) ↔ ∃ x ∈ xs, Fails o x := exists_reached_arr

theorem fails_obj {fields : List (Text × Json)} : Fails o (.obj fields) ↔ ∃ f ∈ fields,
    if shouldHideField f.1.toLowerCase f.2 o = true then
    maskOf f.1.toLowerCase f.2 = .year ∧ f.2.hasNoText = true else Fails o f.2 :=
  exists_reached_obj.trans (exists_congr fun _ => and_congr_right fun _ => and_iff_right rfl)

variable {fullYear : Json → Option Year}

theorem processElements_eq_none {xs : List Json} :
    processElements fullYear o xs = none ↔ ∃ x ∈ xs, processObject fullYear o x = none := by
  induction xs with
  | nil => simp [processElements]
  | cons x xs ih =>
    rw [exists_mem_cons_iff, ← ih, processElements]
    cases processObject fullYear o x with
    | none => simp
    | some => cases processElements fullYear o xs <;> simp

theorem processFields_eq_none {fields : List (Text × Json)} :
    processFields fullYear o fields = none ↔ ∃ f ∈ fields,
      (if shouldHideField f.1.toLowerCase f.2 o = true then
        (maskField fullYear f.1 f.2).map Json.str else processObject fullYear o f.2) = none := by
  induction fields with
  | nil => simp [processFields]
  | cons f fields ih =>
    rw [exists_mem_cons_iff, ← ih, processFields]
    cases (if shouldHideField f.1.toLowerCase f.2 o = true then
      (maskField fullYear f.1 f.2).map Json.str else processObject fullYear o f.2) with
    | none => simp
    | some => cases processFields fullYear o fields <;> simp

theorem processObject_eq_none {v : Json} : processObject fullYear o v = none ↔ Fails o v := by
  have hle : ∀ {v : Json}, reached o (fun _ => true) v = [] → (some v = none ↔ Fails o v) := by
    intro v hrch
    rw [Fails, hrch]
    simp
  induction v using Json.induction with
  | null | bool b | num q | str t => exact hle rfl
  | arr xs ih =>
    rw [processObject, Option.map_eq_none_iff, processElements_eq_none, fails_arr]
    exact exists_congr fun x => and_congr_right fun hx => ih x hx
  | obj fields ih =>
    rw [processObject, Option.map_eq_none_iff, processFields_eq_none, fails_obj]
    refine exists_congr fun f => and_congr_right fun hf => ?_
    split
    · rw [Option.map_eq_none_iff, maskField_eq_none]
    · exact ih f hf

end

/-! ## Addresses and phone numbers in the result -/

theorem mem_strings_of_mem_loose {o : Options} {s : Text} {v : Json} (h : s ∈ loose o v) :
    s ∈ v.strings := by
  induction v using Json.induction with
  | arr xs ih =>
    obtain ⟨x, hx, hs⟩ := mem_loose_arr.mp h
    exact Json.mem_strings_arr.mpr ⟨x, hx, ih x hx hs⟩
  | obj fields ih =>
    obtain ⟨f, hf, -, -, -, hs⟩ := mem_loose_obj.mp h
    exact Json.mem_strings_obj.mpr ⟨f, hf, ih f hf hs⟩
  | _ => exact h

theorem sensitive_of_isEmail {s : Text} (h : isEmail (.str s)) : sensitive s := by
  rw [sensitive, h, Bool.true_or]

section

variable {fullYear : Json → Option Year} {o : Options} {data : Json}

theorem mem_strings_hideSensitiveInfo {s : Text} (hr : o.requesterRole ≠ "admin")
    (hemail : o.hideEmail) (hphone : o.hidePhone) (hs : sensitive s)
    (hno : ¬ Fails o data) : s ∈ (hideSensitiveInfo fullYear o data).strings ↔ Shown o s data := by
  have hsm : processObject fullYear o data ≠ none := fun h => hno (processObject_eq_none.mp h)
  obtain ⟨w, hw⟩ := Option.ne_none_iff_exists'.mp hsm
  rw [hideSensitiveInfo, if_neg hr, hw, Option.getD_some]
  exact mem_strings_processObject hemail hphone hs hw

end

/-- Without the role of an admin and with what is hidden by default, no e-mail
address and no phone number of the data is in the result exactly when the data
is `Guarded`. -/
theorem contacts_hidden_iff (fullYear : Json → Option Year) (role : String) (hrole : role ≠ "admin")
    (data : Json) :
    (∀ s ∈ (hideSensitiveInfo fullYear { requesterRole := role } data).strings,
      s ∈ data.strings → sensitive s = false)
      ↔ Guarded { requesterRole := role } data := by
  by_cases hfl : Fails { requesterRole := role } data
  · rw [hideSensitiveInfo, processObject_eq_none.mpr hfl, Option.getD_none, ite_self]
    constructor
    · intro h
      exact ⟨fun _ s hs => h s hs hs, fun hno => absurd hfl hno⟩
    · intro h s hs _
      exact h.1 hfl s hs
  · have hshow : ∀ {s : Text}, sensitive s = true →
        (s ∈ (hideSensitiveInfo fullYear { requesterRole := role } data).strings
          ↔ Shown { requesterRole := role } s data) := fun hs =>
      mem_strings_hideSensitiveInfo hrole rfl rfl hs hfl
    constructor
    · intro h
      refine ⟨fun h => absurd h hfl, fun _ => ⟨?_, ?_⟩⟩
      · intro s hs
        by_contra hsen
        rw [Bool.not_eq_false] at hsen
        have hfal := h s ((hshow hsen).mpr (.inl hs)) (mem_strings_of_mem_loose hs)
        cases hfal.symm.trans hsen
      · intro f hf s hs hemail hsho
        have hsen := sensitive_of_isEmail hemail
        have hfal := h s ((hshow hsen).mpr (.inr ⟨f, hf, hsho⟩)) hs
        cases hfal.symm.trans hsen
    · intro h s hs hdata
      obtain ⟨hloo, hshor⟩ := h.2 hfl
      by_contra hsen
      rw [Bool.not_eq_false] at hsen
      rcases (hshow hsen).mp hs with hmem | ⟨f, hf, hsho⟩
      · cases (hloo s hmem).symm.trans hsen
      · exact hshor f hf s hdata (isEmail_of_abbreviates hsen hsho) hsho

def sampleProfile : Json :=
  .obj [(units "name", .str (units "Anna")), (units "email", .str (units "anna@site.com"))]

theorem sampleProfile_hidden :
    "member" ≠ "admin" ∧ ∀ s ∈ (hideSensitiveInfo (fun _ => none) { requesterRole := "member" }
      sampleProfile).strings, s ∈ sampleProfile.strings → sensitive s = false := by
  have hr : "member" ≠ "admin" := by decide
  refine ⟨hr, (contacts_hidden_iff _ "member" hr sampleProfile).mpr ⟨?_, fun _ => ⟨?_, ?_⟩⟩⟩
  · rintro ⟨f, hf, hyear, -⟩
    obtain rfl := mem_singleton.mp hf
    exact absurd hyear (by decide +kernel)
  · intro s hs
    cases hs
  · intro f hf s hs hemail habb
    obtain rfl := mem_singleton.mp hf
    have hmask : maskField (fun _ => none) (units "email") (.str (units "anna@site.com"))
        = some s := (sensitive_maskField_iff (sensitive_of_isEmail hemail)).mpr habb
    have hv : maskField (fun _ => none) (units "email") (.str (units "anna@site.com"))
        = some (units "an***@site.com") := by decide +kernel
    obtain rfl := Option.mem_unique hmask hv
    exact absurd hs (by decide +kernel)

def sampleContacts : Json := .obj [(units "contacts", .arr [.str (units "anna@site.com")])]

theorem element_of_array_shown :
    ¬ ∀ s ∈ (hideSensitiveInfo (fun _ => none) {} sampleContacts).strings,
      s ∈ sampleContacts.strings → sensitive s = false := by
  intro h
  have hsho := h (units "anna@site.com") (by decide +kernel) (by decide +kernel)
  exact absurd hsho (by decide +kernel)

end SexySelfies.Privacy.Sensitive
