import Mathlib.Data.List.Basic
import Mathlib.Tactic.Common

/-!
# What a webhook signature binds

`verifyWebhookSignature` of `ccbill.service.js` compares the signature of a delivery with the HMAC
of its timestamp and body. Both are run together into one text without a separator, so the signature
binds that text and not the pair. `hmac secret message` is the hexadecimal digest under a secret.
-/

namespace SexySelfies.Webhooks

/-- `crypto.timingSafeEqual`: it throws on unequal lengths. -/
def timingSafeEqual (a b : ByteArray) : Option Bool :=
  if a.size = b.size then some (a.data = b.data) else none

section

variable (hmac : String → String → String) (secret : String)

/-- The headers may be missing. In the text of the message a missing timestamp
reads `undefined`; without a signature `Buffer.from` throws. What is thrown is
answered with `false`. -/
def verifyWebhookSignature (signature timestamp : Option String) (body : String) : Bool :=
  let message := timestamp.getD "undefined" ++ body
  let expectedSignature := hmac secret message
  ((signature.bind fun s => timingSafeEqual s.toUTF8 expectedSignature.toUTF8)).getD false

variable {hmac secret}

theorem timingSafeEqual_iff {s t : String} :
    (timingSafeEqual s.toUTF8 t.toUTF8).getD false ↔ s = t := by
  rw [timingSafeEqual, ← String.toByteArray_inj, String.toUTF8_eq_toByteArray,
    String.toUTF8_eq_toByteArray]
  split
  · rw [Option.getD_some, decide_eq_true_iff, ByteArray.ext_iff]
  · rename_i hsi
    constructor
    · exact nofun
    · exact fun h => absurd (congrArg ByteArray.size h) hsi

theorem verifyWebhookSignature_iff {s t body : String} :
    verifyWebhookSignature hmac secret (some s) (some t) body ↔
    s = hmac secret (t ++ body) := timingSafeEqual_iff

theorem split_eq_iff {t₁ b₁ t₂ b₂ : String} (h : t₁ ++ b₁ = t₂ ++ b₂) :
    (t₁ = t₂ ∧ b₁ = b₂) ↔ t₁.length = t₂.length := by
  have hl : t₁.toList ++ b₁.toList = t₂.toList ++ b₂.toList := by
    rw [← String.toList_append, ← String.toList_append, h]
  constructor
  · rintro ⟨rfl, -⟩
    rfl
  · intro hlen
    obtain ⟨ht, hb⟩ := List.append_inj hl (by rwa [String.length_toList, String.length_toList])
    exact ⟨String.toList_inj.mp ht, String.toList_inj.mp hb⟩

/-- No signature is accepted for two different pairs exactly when the pairs, if they run together
to one text, have timestamps of one length. -/
theorem signature_binds_iff (hinj : ∀ secret, Function.Injective (hmac secret))
    (secret t₁ b₁ t₂ b₂ : String) :
    (∀ signature, verifyWebhookSignature hmac secret (some signature) (some t₁) b₁ = true →
        verifyWebhookSignature hmac secret (some signature) (some t₂) b₂ = true →
        t₁ = t₂ ∧ b₁ = b₂) ↔ (t₁ ++ b₁ = t₂ ++ b₂ → t₁.length = t₂.length) := by
  simp only [verifyWebhookSignature_iff]
  constructor
  · intro h hs
    have hboth := h (hmac secret (t₁ ++ b₁)) rfl (by rw [hs])
    exact (split_eq_iff hs).mp hboth
  · rintro h signature h₁ h₂
    have hs : t₁ ++ b₁ = t₂ ++ b₂ := hinj secret (h₁.symm.trans h₂)
    exact (split_eq_iff hs).mpr (h hs)

end

/-! ## A signed delivery -/

/-- The digest of `1700000000{}` under the secret `datalink`. -/
def sampleDigest : String := "4c586b0622c9e647cc6441a81f60df698172d06c3fd9f7335b864bfcdb156dcc"

def sampleHmac (secret message : String) : String :=
  if secret = "datalink" ∧ message = "1700000000\x7b\x7d" then sampleDigest else "-" ++ message

theorem marked_ne_sampleDigest (message : String) : "-" ++ message ≠ sampleDigest := by
  intro h
  have hhe := congrArg (fun s => s.toList.head?) h
  rw [String.toList_append] at hhe
  have hcha : '-' = '4' := Option.some.inj hhe
  exact absurd hcha (by decide)

theorem sampleHmac_injective (secret : String) : Function.Injective (sampleHmac secret) := by
  intro m n h
  unfold sampleHmac at h
  split at h
  · rename_i hm
    split at h
    · rename_i hn
      exact hm.2.trans hn.2.symm
    · exact absurd h.symm (marked_ne_sampleDigest n)
  · split at h
    · exact absurd h (marked_ne_sampleDigest m)
    · exact (String.append_right_inj "-").mp h

theorem sampleDigest_accepted :
    verifyWebhookSignature sampleHmac "datalink" (some sampleDigest) (some "1700000000")
    "\x7b\x7d" := verifyWebhookSignature_iff.mpr (if_pos ⟨rfl, by decide⟩).symm

theorem signature_binds_fixed_length :
    verifyWebhookSignature sampleHmac "datalink" (some sampleDigest) (some "1700000000")
        "\x7b\x7d" = true
      ∧ ¬ verifyWebhookSignature sampleHmac "datalink" (some sampleDigest) (some "1700000001")
        "\x7b\x7d" = true := by
  refine ⟨sampleDigest_accepted, fun h => ?_⟩
  have hbin := (signature_binds_iff sampleHmac_injective "datalink" "1700000000" "\x7b\x7d"
    "1700000001" "\x7b\x7d").mpr fun _ => by decide
  exact absurd (hbin _ sampleDigest_accepted h).1 (by decide)

/-- The signature of a delivery at 1700000000 is also one of a delivery at
170000000 whose body begins with the missing zero. -/
theorem signature_fits_two_pairs :
    verifyWebhookSignature sampleHmac "datalink" (some sampleDigest) (some "1700000000")
        "\x7b\x7d" = true
      ∧ verifyWebhookSignature sampleHmac "datalink" (some sampleDigest) (some "170000000")
        "0\x7b\x7d" = true ∧ ("1700000000", "\x7b\x7d") ≠ ("170000000", "0\x7b\x7d") :=
  ⟨sampleDigest_accepted, verifyWebhookSignature_iff.mpr (if_pos ⟨rfl, by decide⟩).symm, by decide⟩

end SexySelfies.Webhooks
