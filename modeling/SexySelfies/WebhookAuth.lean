import SexySelfies.DataLinkWebhook

/-!
# Who may deliver to the DataLink webhook

A delivery should change the store only if it carries the configured user and password, and should
be accepted whenever it does. The check misses both: a request without Basic credentials is
accepted, and the credentials are compared by their first two parts between colons, in seven bits.
-/

namespace SexySelfies.Sales

open Js Platform Payments List

variable {α : Type} [DecidableEq α] {sep : α} {l a b : List α}

theorem splitOn_head_iff :
    (l.splitOn sep)[0]? = some a ↔ sep ∉ a ∧ (l = a ∨ ∃ t, l = a ++ sep :: t) := by
  constructor
  · intro h
    by_cases hsep : sep ∈ l
    · obtain ⟨a', t, rfl, ha'⟩ := eq_append_cons_of_mem hsep
      rw [splitOn_append_cons_self_of_not_mem ha', getElem?_cons_zero] at h
      cases h
      exact ⟨ha', .inr ⟨t, rfl⟩⟩
    · rw [splitOn_eq_singleton hsep, getElem?_cons_zero] at h
      cases h
      exact ⟨hsep, .inl rfl⟩
  · rintro ⟨ha, rfl | ⟨t, rfl⟩⟩
    · rw [splitOn_eq_singleton ha, getElem?_cons_zero]
    · rw [splitOn_append_cons_self_of_not_mem ha, getElem?_cons_zero]

/-- The first two parts are `a` and `b` exactly when the list is `a`, `b` with
one separator between them, and nothing or another separator behind. -/
theorem splitOn_pair_iff (ha : sep ∉ a) :
    ((l.splitOn sep)[0]? = some a ∧ (l.splitOn sep)[1]? = some b) ↔
      sep ∉ b ∧ (l = a ++ sep :: b ∨ ∃ t, l = a ++ sep :: (b ++ sep :: t)) := by
  constructor
  · rintro ⟨hf, hsec⟩
    rcases (splitOn_head_iff.mp hf).2 with rfl | ⟨t, rfl⟩
    · rw [splitOn_eq_singleton ha] at hsec
      cases hsec
    · rw [splitOn_append_cons_self_of_not_mem ha, getElem?_cons_succ] at hsec
      obtain ⟨hb, rfl | ⟨u, rfl⟩⟩ := splitOn_head_iff.mp hsec
      · exact ⟨hb, .inl rfl⟩
      · exact ⟨hb, .inr ⟨u, rfl⟩⟩
  · rintro ⟨hb, rfl | ⟨t, rfl⟩⟩
    · rw [splitOn_append_cons_self_of_not_mem ha, getElem?_cons_succ]
      exact ⟨rfl, splitOn_head_iff.mpr ⟨hb, .inl rfl⟩⟩
    · rw [splitOn_append_cons_self_of_not_mem ha, getElem?_cons_succ]
      exact ⟨rfl, splitOn_head_iff.mpr ⟨hb, .inr ⟨t, rfl⟩⟩⟩

/-! ## The configured pair -/

def Env.pair (env : Env) : List Char := env.datalinkUser.toList ++ ':' :: env.datalinkPass.toList

variable (text : List Char)

def utf8 : List UInt8 := text.flatMap String.utf8EncodeChar

def IsAscii : Prop := ∀ c ∈ text, c.toNat < 128

/-- The headers carry Basic credentials equal to the configured pair. -/
def Carries (env : Env) (headers : Headers) : Prop :=
  ∃ base64 ∈ headers.basic, env.decodeBase64 base64 = utf8 env.pair

def Env.begins (env : Env) (text : List Char) : Prop :=
  text = env.pair ∨ ∃ rest, text = env.pair ++ ':' :: rest

variable {env : Env}

theorem matches_iff :
    env.matches text ↔ ':' ∉ env.datalinkPass.toList ∧ env.begins text := by
  rw [Env.matches, Bool.and_eq_true, decide_eq_true_eq, decide_eq_true_eq,
    splitOn_pair_iff env.user_noColon, Env.begins, Env.pair]
  simp

theorem isAscii_asciiText (bytes : List UInt8) : IsAscii (asciiText bytes) := by
  intro c hc
  obtain ⟨b, -, rfl⟩ := mem_map.mp hc
  have hch : ∀ n < 128, (Char.ofNat n).toNat < 128 := by decide
  exact hch _ (Nat.mod_lt _ (by omega))

theorem utf8EncodeChar_of_lt {c : Char} (h : c.toNat < 128) :
    String.utf8EncodeChar c = [UInt8.ofNat c.toNat] := by
  have hle : c.val.toNat ≤ 127 := Nat.le_of_lt_succ h
  simp only [String.utf8EncodeChar, hle, if_true]
  rfl

theorem asciiText_utf8 {text : List Char} (h : IsAscii text) : asciiText (utf8 text) = text := by
  induction text with
  | nil => rfl
  | cons c text ih =>
    have hc : c.toNat < 128 := h c mem_cons_self
    have hr : IsAscii text := fun x hx => h x (mem_cons_of_mem _ hx)
    have hby : (UInt8.ofNat c.toNat).toNat % 128 = c.toNat := by
      rw [UInt8.toNat_ofNat']
      omega
    have hta := ih hr
    rw [asciiText, utf8] at hta
    rw [asciiText, utf8, flatMap_cons, utf8EncodeChar_of_lt hc, map_append, hta,
      map_cons, map_nil, hby, Char.ofNat_toNat]
    rfl

theorem matches_pair_iff : env.matches (asciiText (utf8 env.pair)) ↔
      ':' ∉ env.datalinkPass.toList ∧ IsAscii env.pair := by
  rw [matches_iff]
  refine and_congr_right fun _ => ⟨fun h => ?_, fun h => ?_⟩
  · have hasc := isAscii_asciiText (utf8 env.pair)
    rcases h with heq | ⟨rest, heq⟩
    · rwa [heq] at hasc
    · rw [heq] at hasc
      exact fun c hc => hasc c (mem_append_left _ hc)
  · exact .inl (asciiText_utf8 h)

/-! ## Safe headers -/

/-- Under these headers, whatever the body and the store, the store changes
only if the pair is carried, and a request that carries it is accepted. -/
def Secure (env : Env) (headers : Headers) : Prop :=
  (∀ c body db, (handleCCBillWebhook env c ⟨headers, body⟩ db).1 ≠ db → Carries env headers)
    ∧ (Carries env headers →
      ∀ c body db, (handleCCBillWebhook env c ⟨headers, body⟩ db).2 ≠ 401)

/-- There are Basic credentials. If they are the pair, it has no second colon
and is in ASCII; if they are not, they do not begin with the pair when read in
seven bits. -/
def OnlyThePair (env : Env) (headers : Headers) : Prop :=
  ∃ base64 ∈ headers.basic,
    if env.decodeBase64 base64 = utf8 env.pair then
      ':' ∉ env.datalinkPass.toList ∧ IsAscii env.pair
    else ':' ∈ env.datalinkPass.toList ∨ ¬ env.begins (asciiText (env.decodeBase64 base64))

variable {env : Env} {headers : Headers}

theorem verify_of_basic {base64 : String} (h : headers.basic = some base64) :
    verifyCCBillWebhook env headers = env.matches (asciiText (env.decodeBase64 base64)) := by
  rw [verifyCCBillWebhook, h]

theorem verify_of_none (env : Env) (h : headers.basic = none) :
    verifyCCBillWebhook env headers := by
  rw [verifyCCBillWebhook, h]
  exact ite_self true

variable {c : Context} {db : Db}

theorem handle_of_verify {body : Value} (h : verifyCCBillWebhook env headers)
    (hb : body.isNullish = false) :
    handleCCBillWebhook env c ⟨headers, body⟩ db = (settled (handleEvent env c body db), 200) := by
  rw [handleCCBillWebhook, if_neg (by simp [hb]), if_pos h]

theorem handle_of_refused {body : Value} (h : verifyCCBillWebhook env headers = false)
    (hb : body.isNullish = false) : handleCCBillWebhook env c ⟨headers, body⟩ db = (db, 401) := by
  rw [handleCCBillWebhook, if_neg (by simp [hb]), if_neg (by simp [h])]

variable {body : Value}

theorem handle_fst_of_refused (h : verifyCCBillWebhook env headers = false) :
    (handleCCBillWebhook env c ⟨headers, body⟩ db).1 = db := by
  cases hb : body.isNullish with
  | true => rw [handleCCBillWebhook, if_pos hb]
  | false => rw [handle_of_refused h hb]

theorem handle_snd_of_verify (h : verifyCCBillWebhook env headers) :
    (handleCCBillWebhook env c ⟨headers, body⟩ db).2 = 200 := by
  cases hb : body.isNullish with
  | true => rw [handleCCBillWebhook, if_pos hb]
  | false => rw [handle_of_verify h hb]

def soldTipDb : Db :=
  { sales := [soldTip .completed], earnings := fun _ => none, contents := [], messages := [] }

def bareRefund : Value := .obj [("eventType", .str "Refund")]

theorem changed_of_verify (h : verifyCCBillWebhook env headers) :
    (handleCCBillWebhook env acceptingContext ⟨headers, bareRefund⟩ soldTipDb).1 ≠ soldTipDb := by
  intro heq
  rw [handle_of_verify h rfl] at heq
  have hst := congrArg (fun db : Db => db.sales.map (·.transaction.status)) heq
  cases hst

/-! ## Which headers are safe -/

theorem secure_iff_verify :
    Secure env headers ↔ (verifyCCBillWebhook env headers ↔ Carries env headers) := by
  constructor
  · rintro ⟨hch, hac⟩
    refine ⟨fun h => hch _ _ _ (changed_of_verify h), fun h => ?_⟩
    by_contra href
    have hans := hac h acceptingContext bareRefund soldTipDb
    rw [handle_of_refused (Bool.eq_false_iff.mpr href) rfl] at hans
    exact hans rfl
  · intro hiff
    refine ⟨fun c body db hne => ?_, fun h c body db => ?_⟩
    · by_contra hnot
      have href := Bool.eq_false_iff.mpr (mt hiff.mp hnot)
      exact hne (handle_fst_of_refused href)
    · rw [handle_snd_of_verify (hiff.mpr h)]
      decide

/-- The webhook is secure exactly for the headers that `OnlyThePair` describes. -/
theorem secure_iff (env : Env) (headers : Headers) :
    Secure env headers ↔ OnlyThePair env headers := by
  rw [secure_iff_verify]
  cases hbas : headers.basic with
  | none =>
    have hnot : ¬ OnlyThePair env headers := by
      rintro ⟨base64, hmem, -⟩
      rw [hbas] at hmem
      cases hmem
    have hcar : ¬ Carries env headers := by
      rintro ⟨base64, hmem, -⟩
      rw [hbas] at hmem
      cases hmem
    have hver := verify_of_none env hbas
    exact ⟨fun h => absurd (h.mp hver) hcar, fun h => absurd h hnot⟩
  | some base64 =>
    have hcar : Carries env headers ↔ env.decodeBase64 base64 = utf8 env.pair := by
      rw [Carries, hbas]
      simp only [Option.mem_some_iff, exists_eq_left']
    have honly : OnlyThePair env headers ↔
        if env.decodeBase64 base64 = utf8 env.pair then
          ':' ∉ env.datalinkPass.toList ∧ IsAscii env.pair
        else ':' ∈ env.datalinkPass.toList
          ∨ ¬ env.begins (asciiText (env.decodeBase64 base64)) := by
      rw [OnlyThePair, hbas]
      simp only [Option.mem_some_iff, exists_eq_left']
    rw [hcar, honly, verify_of_basic hbas]
    by_cases hp : env.decodeBase64 base64 = utf8 env.pair
    · rw [if_pos hp, hp, matches_pair_iff]
      exact ⟨fun h => h.mpr rfl, fun h => ⟨fun _ => rfl, fun _ => h⟩⟩
    · rw [if_neg hp, matches_iff]
      have hiff := iff_false_intro hp
      rw [hiff, iff_false, not_and_or, not_not]

theorem secure_fails_without_header : ¬ Secure sampleEnv ⟨none, none⟩ := by
  rintro ⟨hcha, -⟩
  obtain ⟨base64, hmem, -⟩ := hcha _ _ _ (changed_of_verify rfl)
  cases hmem

end SexySelfies.Sales
