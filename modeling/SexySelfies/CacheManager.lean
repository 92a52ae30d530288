import SexySelfies.Collection
import SexySelfies.Ranking
import SexySelfies.Runs

/-!
# The memory cache of the frontend

`CacheManager` of `utils/cache.js`, as far as it keeps values in memory. Setting a key that is there
adds the new size and does not subtract the old one.
-/

namespace SexySelfies.CacheManager

open List Runs Collection

structure Item (α : Type) where
  value : α
  expires : ℕ
  lastAccessed : ℕ
  size : ℕ

abbrev Entry (α : Type) := String × Item α

variable {α : Type} {key : String} {item : Item α} {l : List (Entry α)} {e : Entry α}

def lookup (key : String) (l : List (Entry α)) : Option (ℕ × Entry α) := findOne (·.1 = key) l

/-- `map.set(key, item)`: a key that is there keeps its place. -/
def put (key : String) (item : Item α) (l : List (Entry α)) : List (Entry α) :=
  match lookup key l with
  | some (i, _) => l.modify i fun e => (e.1, item)
  | none => l ++ [(key, item)]

theorem lookup_some {x : ℕ × Entry α} (h : lookup key l = some x) :
    l[x.1]? = some x.2 ∧ x.2.1 = key := by
  simpa using findOne_some h

theorem nodup_put (h : (l.map Prod.fst).Nodup) : ((put key item l).map Prod.fst).Nodup := by
  unfold put
  split
  · have hmo := fun i => map_modify (g := Prod.fst) (f := fun e => (e.1, item)) (fun _ => rfl) l i
    rwa [hmo]
  · rename_i hno
    have hke : ∀ e ∈ l, e.1 ≠ key := by simpa using findOne_eq_none.mp hno
    rw [map_append, map_singleton, nodup_append_comm, singleton_append, nodup_cons]
    refine ⟨fun hm => ?_, h⟩
    obtain ⟨e, he, heq⟩ := mem_map.mp hm
    exact hke e he heq

/-- `memoryCache`, in the order of insertion, and `currentMemoryUsage`. -/
structure Memory (α : Type) where
  entries : List (Entry α)
  usage : ℤ
  nodup : (entries.map Prod.fst).Nodup

def Memory.empty : Memory α := ⟨[], 0, nodup_nil⟩

def removeMemory (m : Memory α) (key : String) : Memory α :=
  match lookup key m.entries with
  | some (_, e) => ⟨m.entries.filter (·.1 ≠ key), m.usage - e.2.size,
      m.nodup.sublist (filter_sublist.map _)⟩
  | none => m

def evictLRU (m : Memory α) : Memory α :=
  ((Ranking.sortBy (·.2.lastAccessed) m.entries).take (m.entries.length / 5)).foldl
    (fun m e => removeMemory m e.1) m

def makeRoom (size : ℕ) (m : Memory α) : Memory α :=
  if 50 * 1024 * 1024 < m.usage + size then evictLRU m else m

variable (getObjectSize : α → ℕ) {m : Memory α} (now : ℕ)

def setMemory (key : String) (value : α) (ttl : ℕ) (m : Memory α) : Memory α :=
  let size := getObjectSize value
  let m := makeRoom size m
  ⟨put key ⟨value, now + ttl, now, size⟩ m.entries, m.usage + size, nodup_put m.nodup⟩

def getMemory (key : String) (m : Memory α) : Memory α × Option α :=
  match lookup key m.entries with
  | none => (m, none)
  | some (_, e) =>
    if e.2.expires < now then (removeMemory m key, none)
    else (⟨put key { e.2 with lastAccessed := now } m.entries, m.usage, nodup_put m.nodup⟩,
      some e.2.value)

/-! ## Eviction -/

theorem entries_remove : (removeMemory m key).entries = m.entries.filter (·.1 ≠ key) := by
  unfold removeMemory
  split
  · rfl
  · rename_i hno
    refine (filter_eq_self.mpr fun e he => ?_).symm
    simpa using findOne_eq_none.mp hno e he

theorem entries_foldl_remove (es : List (Entry α)) :
    (es.foldl (fun m e => removeMemory m e.1) m).entries
      = m.entries.filter (·.1 ∉ es.map Prod.fst) := by
  induction es generalizing m with
  | nil => simp
  | cons e es ih =>
    rw [foldl_cons, ih, entries_remove, filter_filter]
    refine filter_congr fun x _ => ?_
    rw [Bool.eq_iff_iff]
    simp [and_comm]

theorem sublist_evict : (evictLRU m).entries <+ m.entries := by
  rw [evictLRU, entries_foldl_remove]
  exact filter_sublist

/-- A fifth of the entries is removed, none of them accessed after one that is kept. -/
theorem evictLRU_oldest (m : Memory α) :
    (evictLRU m).entries <+ m.entries
    ∧ (evictLRU m).entries.length = m.entries.length - m.entries.length / 5
    ∧ ∀ e ∈ m.entries, e ∉ (evictLRU m).entries →
      ∀ e' ∈ (evictLRU m).entries, e.2.lastAccessed ≤ e'.2.lastAccessed := by
  obtain ⟨s, hs⟩ : ∃ s, s = Ranking.sortBy (·.2.lastAccessed) m.entries := ⟨_, rfl⟩
  have hpe : s.Perm m.entries := hs ▸ Ranking.perm_sortBy _ _
  have hso : s.Pairwise (·.2.lastAccessed ≤ ·.2.lastAccessed) := hs ▸ Ranking.pairwise_sortBy _ _
  obtain ⟨k, hk⟩ : ∃ k, k = m.entries.length / 5 := ⟨_, rfl⟩
  have hev : (evictLRU m).entries = m.entries.filter (·.1 ∉ (s.take k).map Prod.fst) := by
    rw [evictLRU, entries_foldl_remove, ← hs, ← hk]
  have hnd : ((s.take k ++ s.drop k).map Prod.fst).Nodup := by
    rw [take_append_drop]
    exact (hpe.map _).nodup_iff.mpr m.nodup
  rw [map_append, nodup_append] at hnd
  have hdr : s.filter (·.1 ∉ (s.take k).map Prod.fst) = s.drop k := by
    conv_lhs => rw [← take_append_drop k s, filter_append]
    rw [take_append_drop, filter_eq_nil_iff.mpr, filter_eq_self.mpr, nil_append]
    · exact fun e he => decide_eq_true fun hx => hnd.2.2 _ hx _ (mem_map_of_mem he) rfl
    · exact fun e he h => of_decide_eq_true h (mem_map_of_mem he)
  have hke : (evictLRU m).entries.Perm (s.drop k) := by
    rw [hev, ← hdr]
    exact (hpe.filter _).symm
  refine ⟨sublist_evict, ?_, fun e he hno e' he' => ?_⟩
  · rw [hke.length_eq, length_drop, hpe.length_eq, hk]
  · rw [← take_append_drop k s, pairwise_append] at hso
    have hes : e ∈ s.take k ++ s.drop k := by
      rw [take_append_drop]
      exact hpe.mem_iff.mpr he
    rcases mem_append.mp hes with ht | hd
    · exact hso.2.2 e ht e' (hke.mem_iff.mp he')
    · exact absurd (hke.mem_iff.mpr hd) hno

/-! ## The usage -/

def itemSize (e : Entry α) : ℤ := e.2.size

/-- What `currentMemoryUsage` has in excess of the sizes of the entries. -/
def gap (m : Memory α) : ℤ := m.usage - total itemSize m.entries

def oldSize (key : String) (l : List (Entry α)) : ℤ := (lookup key l).elim 0 fun x => itemSize x.2

theorem total_filter_key (hnd : (l.map Prod.fst).Nodup) (he : e ∈ l) :
    total itemSize (l.filter (·.1 ≠ e.1)) = total itemSize l - itemSize e := by
  induction l with
  | nil => cases he
  | cons a l ih =>
    rw [map_cons, nodup_cons] at hnd
    rcases mem_cons.mp he with rfl | he
    · have hot : l.filter (·.1 ≠ e.1) = l :=
        filter_eq_self.mpr fun x hx => decide_eq_true fun hxe => hnd.1 (hxe ▸ mem_map_of_mem hx)
      rw [filter_cons_of_neg (by simp), hot, total_cons]
      omega
    · have hae : a.1 ≠ e.1 := fun hae => hnd.1 (hae ▸ mem_map_of_mem he)
      rw [filter_cons_of_pos (by simpa using hae), total_cons, total_cons, ih hnd.2 he]
      omega

theorem gap_remove : gap (removeMemory m key) = gap m := by
  unfold removeMemory
  split
  · rename_i i e h
    obtain ⟨hi, rfl⟩ := lookup_some h
    simp only [gap, total_filter_key m.nodup (mem_of_getElem? hi), itemSize]
    omega
  · rfl

theorem gap_makeRoom (size : ℕ) : gap (makeRoom size m) = gap m := by
  unfold makeRoom
  split
  · exact foldlRecOn (motive := fun m' => gap m' = gap m) _ _ rfl
      fun _ h _ _ => gap_remove.trans h
  · rfl

theorem total_put :
    total itemSize (put key item l) = total itemSize l + item.size - oldSize key l := by
  unfold put oldSize
  cases h : lookup key l with
  | some x =>
    simp only [total_modify itemSize (lookup_some h).1, Option.elim_some, itemSize]
    omega
  | none => simp [itemSize]

inductive Call (α : Type) where
  | set (now : ℕ) (key : String) (value : α) (ttl : ℕ)
  | get (now : ℕ) (key : String)
  | remove (key : String)
  | clear

def step (m : Memory α) : Call α → Memory α
  | .set now key value ttl => setMemory getObjectSize now key value ttl m
  | .get now key => (getMemory now key m).1
  | .remove key => removeMemory m key
  | .clear => .empty

/-- What a call sets is not there yet, or takes no place there. -/
def Fresh (m : Memory α) : Call α → Prop
  | .set _ key value _ => oldSize key (makeRoom (getObjectSize value) m).entries = 0
  | _ => True

theorem gap_get : gap (getMemory now key m).1 = gap m := by
  unfold getMemory
  split
  · rfl
  · rename_i i e h
    split
    · exact gap_remove
    · simp [gap, total_put, oldSize, h, itemSize]

theorem gap_set (value : α) (ttl : ℕ) :
    gap (setMemory getObjectSize now key value ttl m)
      = gap m + oldSize key (makeRoom (getObjectSize value) m).entries := by
  rw [← gap_makeRoom (m := m) (getObjectSize value)]
  simp only [setMemory, gap, total_put]
  omega

theorem oldSize_nonneg : 0 ≤ oldSize key l := by
  unfold oldSize
  cases lookup key l with
  | none => exact le_rfl
  | some => exact Int.natCast_nonneg _

/-- The usage never falls below what is stored, and is exact throughout a run exactly when no item
is set under a key that is there. -/
theorem usage_exact_iff (calls : List (Call α)) :
    Always (step getObjectSize) (fun m => 0 ≤ gap m) .empty calls
    ∧ (Always (step getObjectSize) (fun m => gap m = 0) .empty calls
      ↔ Every (step getObjectSize) (Fresh getObjectSize) .empty calls) := by
  refine ⟨always_of_step (fun m c h => ?_) le_rfl, always_iff_every (fun m c h => ?_) rfl⟩
  · cases c with
    | set =>
      rw [step, gap_set]
      exact add_nonneg h oldSize_nonneg
    | get => rwa [step, gap_get]
    | remove => rwa [step, gap_remove]
    | clear => exact le_rfl
  · cases c with
    | set => rw [step, gap_set, h, zero_add, Fresh]
    | get => simp [step, gap_get, h, Fresh]
    | remove => simp [step, gap_remove, h, Fresh]
    | clear => exact ⟨fun _ => trivial, fun _ => rfl⟩

/-! ## Answers -/

/-- The values with their times of expiry, without any limit on the memory. -/
abbrev Values (α : Type) := String → Option (α × ℕ)

variable (f : Values α)

def Values.step : Call α → Values α
  | .set now key value ttl => Function.update f key (some (value, now + ttl))
  | .get _ _ => f
  | .remove key => Function.update f key none
  | .clear => fun _ => none

def Values.answer (now : ℕ) (key : String) : Option α :=
  (f key).bind fun x => if x.2 < now then none else some x.1

/-- Each entry has the value and the expiry of its key. -/
def Holds (l : List (Entry α)) : Prop :=
  ∀ e ∈ l, f e.1 = some (e.2.value, e.2.expires)

variable {f : Values α} {now : ℕ}

theorem holds_put (h : ∀ e ∈ l, e.1 ≠ key → f e.1 = some (e.2.value, e.2.expires))
    (hn : f key = some (item.value, item.expires)) (hnd : (l.map Prod.fst).Nodup) :
    Holds f (put key item l) := by
  intro e he
  obtain ⟨j, hj⟩ := mem_iff_getElem?.mp he
  unfold put at hj
  cases hl : lookup key l with
  | none =>
    rw [hl] at hj
    rcases getElem?_concat_cases hj with hj | ⟨-, rfl⟩
    · have hke : e.1 ≠ key := by simpa using findOne_eq_none.mp hl e (mem_of_getElem? hj)
      exact h e (mem_of_getElem? hj) hke
    · exact hn
  | some x =>
    rw [hl] at hj
    obtain ⟨hx, rfl⟩ := lookup_some hl
    rcases getElem?_modify_cases hx hj with ⟨-, rfl⟩ | ⟨hne, hj⟩
    · exact hn
    · refine h e (mem_of_getElem? hj) fun heq => hne ?_
      have hjk : (l.map Prod.fst)[j]? = (l.map Prod.fst)[x.1]? := by simp [hj, hx, heq]
      refine (List.getElem?_inj ?_ hnd).mp hjk
      simpa using (List.getElem?_eq_some_iff.mp hj).1

theorem holds_get (h : Holds f m.entries) : Holds f (getMemory now key m).1.entries
    ∧ ((getMemory now key m).2 = none ∨ (getMemory now key m).2 = f.answer now key) := by
  unfold getMemory
  split
  · exact ⟨h, .inl rfl⟩
  · rename_i i e hl
    obtain ⟨hi, rfl⟩ := lookup_some hl
    have he := h _ (mem_of_getElem? hi)
    split
    · refine ⟨fun x hx => h x ?_, .inl rfl⟩
      rw [entries_remove] at hx
      exact mem_of_mem_filter hx
    · rename_i hle
      refine ⟨holds_put (fun x hx _ => h x hx) he m.nodup, .inr ?_⟩
      rw [Values.answer, he, Option.bind_some, if_neg hle]

theorem holds_step (h : Holds f m.entries) (c : Call α) :
    Holds (f.step c) (step getObjectSize m c).entries := by
  cases c with
  | set now key value ttl =>
    refine holds_put (fun e he hne => ?_) (Function.update_self ..) (makeRoom _ m).nodup
    rw [Values.step, Function.update_of_ne hne]
    unfold makeRoom at he
    split at he
    · exact h e (sublist_evict.subset he)
    · exact h e he
  | get => exact (holds_get h).1
  | remove key =>
    intro e he
    rw [step, entries_remove, mem_filter, decide_eq_true_eq] at he
    rw [Values.step, Function.update_of_ne he.2]
    exact h e he.1
  | clear => exact nofun

/-- What is not evicted is answered as from a map without a limit. -/
theorem answers_refine (calls : List (Call α)) (now : ℕ) (key : String) :
    (getMemory now key (final (step getObjectSize) .empty calls)).2 = none
    ∨ (getMemory now key (final (step getObjectSize) .empty calls)).2
      = (final Values.step (fun _ => none) calls).answer now key := by
  have hal : ∀ (m : Memory α) (f : Values α), Holds f m.entries →
      Holds (final Values.step f calls) (final (step getObjectSize) m calls).entries := by
    induction calls with
    | nil => exact fun m f h => h
    | cons c calls ih => exact fun m f h => ih _ _ (holds_step getObjectSize h c)
  exact (holds_get (hal .empty _ nofun)).2

end SexySelfies.CacheManager
