import Mathlib.Data.Int.Notation
import Mathlib.Logic.Function.Basic

/-!
# A store of counters that expire

A map from keys to counters, each with an optional time of expiry. Nothing removes an item when its
time is up: it is dropped by the next access that finds it expired. `valueAt` is what a key is worth
at a given time, and the operations are described by what they do to it.

Times are in milliseconds, lifetimes in seconds. A time of expiry of zero is no time of expiry.
-/

structure MemoryStore.Item where
  value : Nat
  expiry : Option Nat
deriving DecidableEq

structure MemoryStore (κ : Type) where
  items : κ → Option MemoryStore.Item

namespace MemoryStore

def empty {κ : Type} : MemoryStore κ := ⟨fun _ => none⟩

def lapsed (expiry now : Nat) : Bool := expiry ≠ 0 && expiry < now

def Item.expired (item : Item) (now : Nat) : Bool := item.expiry.any fun e => lapsed e now

variable {now t : Nat}

theorem Item.expired_mono {item : Item} (hle : now ≤ t) (h : item.expired now) :
    item.expired t := by
  simp only [expired, lapsed, Option.any_eq_true, Bool.and_eq_true, decide_eq_true_eq] at h ⊢
  obtain ⟨e, he, hne, hlt⟩ := h
  exact ⟨e, he, hne, Nat.lt_of_lt_of_le hlt hle⟩

variable {κ : Type} [DecidableEq κ]

/-! ## Operations -/

variable (s : MemoryStore κ)

def delete (key : κ) : MemoryStore κ :=
  ⟨Function.update s.items key none⟩

def put (key : κ) (item : Item) : MemoryStore κ :=
  ⟨Function.update s.items key (some item)⟩

def get (key : κ) (now : Nat) : MemoryStore κ × Option Nat :=
  match s.items key with
  | none => (s, none)
  | some item => if item.expired now then (s.delete key, none) else (s, some item.value)

def set (key : κ) (value ttlSeconds now : Nat) : MemoryStore κ :=
  s.put key ⟨value, if ttlSeconds = 0 then none else some (now + ttlSeconds * 1000)⟩

def incr (key : κ) (now : Nat) : MemoryStore κ × Nat :=
  let (s, current) := s.get key now
  let newValue := match current with
    | some value => value + 1
    | none => 1
  let expiry := ((s.items key).bind Item.expiry).filter (· ≠ 0)
  (s.put key ⟨newValue, expiry⟩, newValue)

def expire (key : κ) (ttlSeconds now : Nat) : MemoryStore κ :=
  match s.items key with
  | some item => s.put key { item with expiry := some (now + ttlSeconds * 1000) }
  | none => s

/-- `-1` without a time of expiry, `-2` when it is over. -/
def ttl (key : κ) (now : Nat) : MemoryStore κ × ℤ :=
  match (s.items key).bind fun item => item.expiry.filter (· ≠ 0) with
  | none => (s, -1)
  | some e => if e < now then (s.delete key, -2) else (s, ((e - now) / 1000 : Nat))

/-- One more under the key, which now lives for `ttlSeconds`. -/
def count (key : κ) (ttlSeconds now : Nat) : MemoryStore κ :=
  (s.incr key now).1.expire key ttlSeconds now

variable {item : Item}

theorem items_put_self (s : MemoryStore κ) (key : κ) : (s.put key item).items key = some item := by
  simp [put]

variable {key' : κ} {key : κ}

theorem items_put_of_ne (s : MemoryStore κ) (h : key' ≠ key) :
    (s.put key item).items key' = s.items key' := by simp only [put, Function.update_of_ne h]

variable {s : MemoryStore κ}

theorem items_delete_self : (s.delete key).items key = none := by
  simp [delete]

theorem items_delete_of_ne (h : key' ≠ key) : (s.delete key).items key' = s.items key' := by
  simp only [delete, Function.update_of_ne h]

variable {item : Item}

theorem put_put (item' : Item) : (s.put key item).put key item' = s.put key item' := by
  simp [put]

theorem items_get_of_ne (s : MemoryStore κ) (h : key' ≠ key) :
    (s.get key now).1.items key' = s.items key' := by
  cases hkey : s.items key with
  | none => simp only [get, hkey]
  | some item =>
    simp only [get, hkey]
    by_cases hexp : item.expired now = true
    · rw [if_pos hexp]
      exact items_delete_of_ne h
    · rw [if_neg hexp]

/-! ## What a key is worth -/

def valueAt (s : MemoryStore κ) (key : κ) (t : Nat) : Nat :=
  match s.items key with
  | some item => if item.expired t then 0 else item.value
  | none => 0

omit [DecidableEq κ] in
@[simp] theorem valueAt_empty : (empty : MemoryStore κ).valueAt key t = 0 := rfl

theorem valueAt_put_self :
    (s.put key item).valueAt key t = if item.expired t then 0 else item.value := by
  rw [valueAt, items_put_self]

theorem valueAt_put_of_ne (h : key' ≠ key) :
    (s.put key item).valueAt key' t = s.valueAt key' t := by
  rw [valueAt, items_put_of_ne s h, valueAt]

@[simp] theorem get_value : (s.get key now).2.getD 0 = s.valueAt key now := by
  cases hkey : s.items key with
  | none => simp [get, valueAt, hkey]
  | some item =>
    simp only [get, valueAt, hkey]
    by_cases h : item.expired now = true
    · rw [if_pos h, if_pos h, Option.getD_none]
    · rw [if_neg h, if_neg h, Option.getD_some]

theorem valueAt_delete_expired {s : MemoryStore κ} {item : Item} (hkey : s.items key = some item)
    (h : item.expired now) (hle : now ≤ t) (key' : κ) :
    (s.delete key).valueAt key' t = s.valueAt key' t := by
  by_cases heq : key' = key
  · subst heq
    rw [valueAt, items_delete_self, valueAt, hkey]
    exact (if_pos (Item.expired_mono hle h)).symm
  · rw [valueAt, items_delete_of_ne heq, valueAt]

theorem valueAt_get (s : MemoryStore κ) (key key' : κ) (hle : now ≤ t) :
    (s.get key now).1.valueAt key' t = s.valueAt key' t := by
  cases hkey : s.items key with
  | none => simp only [get, hkey]
  | some item =>
    simp only [get, hkey]
    by_cases h : item.expired now = true
    · rw [if_pos h]
      exact valueAt_delete_expired hkey h hle key'
    · rw [if_neg h]

theorem valueAt_ttl (hle : now ≤ t) : (s.ttl key now).1.valueAt key' t = s.valueAt key' t := by
  cases hex : (s.items key).bind fun item => item.expiry.filter (· ≠ 0) with
  | none => simp only [ttl, hex]
  | some e =>
    simp only [ttl, hex]
    by_cases hlt : e < now
    · rw [if_pos hlt]
      obtain ⟨item, hkey, he⟩ := Option.bind_eq_some_iff.mp hex
      obtain ⟨he, hne⟩ := Option.filter_eq_some_iff.mp he
      refine valueAt_delete_expired hkey ?_ hle key'
      simpa [Item.expired, lapsed, he, hlt] using hne
    · rw [if_neg hlt]

variable {value ttlSeconds : Nat}

theorem valueAt_set (h : ttlSeconds ≠ 0) : (s.set key value ttlSeconds now).valueAt key t
      = if lapsed (now + ttlSeconds * 1000) t then 0 else value := by
  rw [set, if_neg h, valueAt_put_self]
  rfl

theorem valueAt_set_of_ne (h : key' ≠ key) :
    (s.set key value ttlSeconds now).valueAt key' t = s.valueAt key' t := valueAt_put_of_ne h

theorem count_eq_put : s.count key ttlSeconds now = ((s.get key now).1.put key
      ⟨s.valueAt key now + 1, some (now + ttlSeconds * 1000)⟩) := by
  have hv : (match (s.get key now).2 with
      | some value => value + 1
      | none => 1) = s.valueAt key now + 1 := by
    rw [← get_value]
    cases (s.get key now).2 with
    | none | some value => rfl
  simp only [count, incr, expire, items_put_self, put_put, hv]

theorem valueAt_count : (s.count key ttlSeconds now).valueAt key t
      = if lapsed (now + ttlSeconds * 1000) t then 0 else s.valueAt key now + 1 := by
  rw [count_eq_put, valueAt_put_self]
  rfl

theorem valueAt_count_of_ne (s : MemoryStore κ) (h : key' ≠ key) (t : Nat) :
    (s.count key ttlSeconds now).valueAt key' t = s.valueAt key' t := by
  rw [count_eq_put, valueAt_put_of_ne h, valueAt, items_get_of_ne s h, valueAt]

/-- What a key is worth that was counted at the given times, the latest first,
with the lifetime in seconds that a count at that time gives it. -/
def worth (lifetime : Nat → Nat) : List Nat → Nat → Nat
  | [], _ => 0
  | u :: earlier, t => if lapsed (u + lifetime u * 1000) t then 0 else worth lifetime earlier u + 1

theorem not_lapsed {expiry : Nat} (h : t ≤ expiry) : lapsed expiry t = false := by
  simp only [lapsed, Bool.and_eq_false_iff, decide_eq_false_iff_not]
  exact .inr (Nat.not_lt.mpr h)

/-- As long as no count has outlived its key, all of them are in it. -/
theorem worth_eq_length {lifetime : Nat → Nat} {times : List Nat} {last : Nat}
    (h : ∀ u ∈ times, u ≤ last ∧ last ≤ u + lifetime u * 1000) (hle : t ≤ last) :
    worth lifetime times t = times.length := by
  induction times generalizing t with
  | nil => rfl
  | cons u earlier ih =>
    obtain ⟨hu, hlast⟩ := h u List.mem_cons_self
    rw [worth, not_lapsed (Nat.le_trans hle hlast), if_neg Bool.false_ne_true,
      ih (fun v hv => h v (List.mem_cons_of_mem _ hv)) hu, List.length_cons]

theorem lt_of_worth_eq_zero {lifetime : Nat → Nat} {times : List Nat} {seconds : Nat}
    (hlife : ∀ u, lifetime u = seconds) (hsorted : times.Pairwise fun u v => v ≤ u)
    (h : worth lifetime times t = 0) : ∀ u ∈ times, u + seconds * 1000 < t := by
  cases times with
  | nil => exact fun _ hno => absurd hno List.not_mem_nil
  | cons v earlier =>
    intro u hu
    have hle : u ≤ v := by
      rcases List.mem_cons.mp hu with rfl | hu
      · exact Nat.le_refl _
      · exact (List.pairwise_cons.mp hsorted).1 u hu
    rw [worth, hlife] at h
    split at h
    · rename_i hl
      simp only [lapsed, Bool.and_eq_true, decide_eq_true_eq] at hl
      omega
    · cases h

/-! ## Footprints -/

section

def deleteAll (s : MemoryStore κ) (p : κ → Bool) : MemoryStore κ :=
  ⟨fun key => if p key then none else s.items key⟩

omit [DecidableEq κ] in
theorem items_deleteAll (p : κ → Bool) :
    (s.deleteAll p).items key = if p key then none else s.items key := rfl

/-- The stores have the same items under the keys in `K`. -/
def AgreeOn (K : κ → Prop) (s s' : MemoryStore κ) : Prop :=
  ∀ key, K key → s.items key = s'.items key

omit [DecidableEq κ] in
theorem AgreeOn.deleteAll {K : κ → Prop} {s s' : MemoryStore κ} (h : AgreeOn K s s')
    (p : κ → Bool) : AgreeOn K (s.deleteAll p) (s'.deleteAll p) := by
  intro key hkey
  rw [items_deleteAll, items_deleteAll, h key hkey]

section

variable {K : κ → Prop} {α β : Type} {s s' : MemoryStore κ}

/-- Two runs of a program, from `s` to `p` and from `s'` to `p'`, that return
the same, agree afterwards, and have changed nothing outside `K`. -/
structure Related (K : κ → Prop) (s s' : MemoryStore κ) (p p' : MemoryStore κ × α) : Prop where
  answer : p.2 = p'.2
  agree : AgreeOn K p.1 p'.1
  frame : AgreeOn (fun key => ¬ K key) p.1 s
  frame' : AgreeOn (fun key => ¬ K key) p'.1 s'

/-- The program touches only the items under the keys in `K`. -/
def Local (K : κ → Prop) (f : MemoryStore κ → MemoryStore κ × α) : Prop :=
  ∀ s s', AgreeOn K s s' → Related K s s' (f s) (f s')

omit [DecidableEq κ] in
theorem Local.frame {f : MemoryStore κ → MemoryStore κ × α} (hf : Local K f)
    (s : MemoryStore κ) (hkey : ¬ K key) : (f s).1.items key = s.items key :=
  (hf s s fun _ _ => rfl).frame key hkey

omit [DecidableEq κ] in
theorem Related.pure (h : AgreeOn K s s') (a : α) : Related K s s' (s, a) (s', a) :=
  ⟨rfl, h, fun _ _ => rfl, fun _ _ => rfl⟩

omit [DecidableEq κ] in
theorem Related.bind {p p' : MemoryStore κ × α} {h : MemoryStore κ × α → MemoryStore κ × β}
    (hp : Related K s s' p p')
    (hr : ∀ t t' a, AgreeOn K t t' → Related K t t' (h (t, a)) (h (t', a))) :
    Related K s s' (h p) (h p') := by
  obtain ⟨t, a⟩ := p
  obtain ⟨t', a'⟩ := p'
  obtain ⟨rfl, hagr, hfra, hfra'⟩ := hp
  have hn := hr t t' a hagr
  refine ⟨hn.answer, hn.agree, fun key hkey => ?_, fun key hkey => ?_⟩
  · exact (hn.frame key hkey).trans (hfra key hkey)
  · exact (hn.frame' key hkey).trans (hfra' key hkey)

theorem Local.of_item {f : MemoryStore κ → MemoryStore κ × α} (hkey : K key)
    (hfra : ∀ s key', key' ≠ key → (f s).1.items key' = s.items key')
    (hrea : ∀ s s', s.items key = s'.items key →
      (f s).2 = (f s').2 ∧ (f s).1.items key = (f s').1.items key) : Local K f := by
  intro s s' h
  obtain ⟨hans, hit⟩ := hrea s s' (h key hkey)
  have hne : ∀ key', ¬ K key' → key' ≠ key := by
    rintro key' hkey' rfl
    exact hkey' hkey
  refine ⟨hans, fun key' hkey' => ?_, fun key' hkey' => ?_, fun key' hkey' => ?_⟩
  · by_cases heq : key' = key
    · rw [heq, hit]
    · rw [hfra s key' heq, hfra s' key' heq, h key' hkey']
  · exact hfra s key' (hne key' hkey')
  · exact hfra s' key' (hne key' hkey')

theorem get_congr (h : s.items key = s'.items key) : (s.get key now).2 = (s'.get key now).2
      ∧ (s.get key now).1.items key = (s'.get key now).1.items key := by
  cases hit : s'.items key with
  | none => simp [get, h, hit]
  | some item =>
    simp only [get, h, hit]
    by_cases hexp : item.expired now = true
    · rw [if_pos hexp, if_pos hexp]
      exact ⟨rfl, items_delete_self.trans items_delete_self.symm⟩
    · rw [if_neg hexp, if_neg hexp]
      exact ⟨rfl, h⟩

theorem related_get (hkey : K key) (now : Nat) (h : AgreeOn K s s') :
    Related K s s' (s.get key now) (s'.get key now) :=
  Local.of_item hkey (fun s _ hne => items_get_of_ne s hne) (fun _ _ heq => get_congr heq) s s' h

theorem related_ttl (hkey : K key) (now : Nat) (h : AgreeOn K s s') :
    Related K s s' (s.ttl key now) (s'.ttl key now) := by
  refine Local.of_item (f := fun s => s.ttl key now) hkey (fun s key' hne => ?_)
    (fun s s' heq => ?_) s s' h
  · unfold ttl
    split
    · rfl
    · split
      · exact items_delete_of_ne hne
      · rfl
  · unfold ttl
    rw [heq]
    split
    · exact ⟨rfl, heq⟩
    · split
      · exact ⟨rfl, items_delete_self.trans items_delete_self.symm⟩
      · exact ⟨rfl, heq⟩

variable {ttlSeconds : Nat} {a : α}

theorem related_set (hkey : K key) (value : Nat) (h : AgreeOn K s s') :
    Related K s s' (s.set key value ttlSeconds now, a) (s'.set key value ttlSeconds now, a) :=
  Local.of_item (f := fun s => (s.set key value ttlSeconds now, a)) hkey
    (fun s _ hne => items_put_of_ne s hne)
    (fun s s' _ => ⟨rfl, (items_put_self s key).trans (items_put_self s' key).symm⟩) s s' h

theorem related_count (hkey : K key) (a : α) (h : AgreeOn K s s') :
    Related K s s' (s.count key ttlSeconds now, a) (s'.count key ttlSeconds now, a) := by
  refine Local.of_item (f := fun s => (s.count key ttlSeconds now, a)) hkey
    (fun s key' hne => ?_) (fun s s' heq => ⟨rfl, ?_⟩) s s' h
  · dsimp only
    rw [count_eq_put, items_put_of_ne _ hne, items_get_of_ne s hne]
  · dsimp only
    rw [count_eq_put, count_eq_put, items_put_self, items_put_self, valueAt, valueAt, heq]

end

end

end MemoryStore
