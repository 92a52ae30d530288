import SexySelfies.MemberScores
import SexySelfies.Ranking

/-!
# Members of high potential

`identifyHighPotential` of `memberScoring.service.js` looks for three groups of members, puts what
it finds one after the other, has each entry scored and answers the best ones. A rising star can be
a whale or an engaged newcomer as well, and nothing removes the second entry.

Each query takes a third of `limit`, so that the last cut leaves all of them. Only when that third
is less than one, which the database takes for no limit, are there more entries than `limit`.
-/

namespace SexySelfies.Analytics

open Ranking List

inductive Group where
  | whales
  | risingStars
  | engagedNew
deriving DecidableEq

def Group.criteria (now : ℚ) (r : Record) : Group → Bool
  | .whales => r.tier = some .whale || r.tier = some .vip
  | .risingStars => r.trend = some .increasing && r.last30Days.any (50 ≤ ·)
  | .engagedNew =>
      r.tier = some .new && (r.level = some .active || r.level = some .veryActive)
        && now - 30 * day ≤ r.createdAt

def Group.reason : Group → String
  | .whales => "High spender"
  | .risingStars => "Rising spender"
  | .engagedNew => "Engaged newcomer"

def Group.priority : Group → String
  | .whales => "critical"
  | .risingStars => "high"
  | .engagedNew => "medium"

structure Search where
  limit : ℚ := 20
  minScore : ℚ := 60
  includeNew : Bool := true
  includeRising : Bool := true
  includeWhales : Bool := true

def Group.included (o : Search) : Group → Bool
  | .whales => o.includeWhales
  | .risingStars => o.includeRising
  | .engagedNew => o.includeNew

/-- An entry of the answer, with `reason` and `priority` of its group. -/
structure Entry where
  record : Record
  group : Group
  score : ℤ
deriving DecidableEq

def Record.visibleTo (creatorId : Nat) (r : Record) : Bool :=
  r.discoverable = some true && !r.blockedCreators.contains creatorId

/-- What a call meets: one record of each member, in an order for each query, and the answers of
the scoring calls, `none` when one rejects. As these save the record, the two scores of a member
may differ. -/
structure Situation where
  now : ℚ
  population : List Record
  one_each : (population.map (·.member)).Nodup
  stored : Group → List Record
  stored_perm : ∀ g, (stored g).Perm population
  calculateMemberScore : Group → Record → Option ℤ

variable (w : Situation) (creatorId : Nat) (o : Search)

def Situation.matching (g : Group) (r : Record) : Bool :=
  g.criteria w.now r && r.visibleTo creatorId

/-- A query with a limit of zero has no limit. -/
def find (g : Group) : List Record :=
  let found := (w.stored g).filter (w.matching creatorId g)
  let limit := ⌊o.limit / 3⌋.toNat
  if !g.included o then [] else if limit = 0 then found else found.take limit

def highPotentialMembers : List (Group × Record) :=
  [Group.whales, .risingStars, .engagedNew].flatMap fun g =>
    (find w creatorId o g).map fun r => (g, r)

/-- The call answers nothing when one of the scores rejects. -/
def scoredMembers : List Entry :=
  let members := highPotentialMembers w creatorId o
  if members.all fun m => (w.calculateMemberScore m.1 m.2).isSome then
    members.filterMap fun m => (w.calculateMemberScore m.1 m.2).map (⟨m.2, m.1, ·⟩)
  else []

def qualified : List Entry :=
  (scoredMembers w creatorId o).filter fun e => o.minScore ≤ e.score

def identifyHighPotential : List Entry :=
  (sortBy (fun e => -e.score) (qualified w creatorId o)).take ⌊o.limit⌋.toNat

/-- What the caller may expect of the answer. -/
structure Promising (creatorId : Nat) (o : Search) (answer : List Entry) : Prop where
  length : (answer.length : ℚ) ≤ o.limit
  ordered : answer.Pairwise fun a b => b.score ≤ a.score
  distinct : (answer.map (·.record.member)).Nodup
  visible : ∀ e ∈ answer, e.record.discoverable = some true ∧ creatorId ∉ e.record.blockedCreators
  minScore : ∀ e ∈ answer, o.minScore ≤ e.score

/-! ## Candidates -/

/-- The query of the group comes to the record: it is asked for, the record matches it, and the
query's limit is not used up by matching records that it comes to before. -/
structure Found (g : Group) (r : Record) : Prop where
  included : g.included o = true
  stored : r ∈ w.population
  criteria : g.criteria w.now r = true
  visible : r.visibleTo creatorId = true
  place : ⌊o.limit / 3⌋.toNat = 0 ∨ ((w.stored g).takeWhile (· ≠ r)).countP
    (w.matching creatorId g) < ⌊o.limit / 3⌋.toNat

/-- A record that is found in a group, with a score there that is high enough. -/
structure Candidate (e : Entry) : Prop where
  found : Found w creatorId o e.group e.record
  scored : w.calculateMemberScore e.group e.record = some e.score
  reaches : o.minScore ≤ e.score

def AllScored : Prop :=
  ∀ g r, Found w creatorId o g r → (w.calculateMemberScore g r).isSome = true

def Group.order : Group → ℕ
  | .whales => 0
  | .risingStars => 1
  | .engagedNew => 2

/-- The order in which the entries are put together. -/
def Situation.Earlier (a b : Group × Record) : Prop :=
  a.1.order < b.1.order ∨ a.1 = b.1 ∧ (w.stored a.1).idxOf a.2 < (w.stored a.1).idxOf b.2

/-- The score is higher, or the same and the record was found earlier. -/
def Situation.Outranks (a b : Entry) : Prop :=
  b.score < a.score ∨ b.score = a.score ∧ w.Earlier (a.group, a.record) (b.group, b.record)

/-- A rising star is a candidate in another group too, and with a limit below three both entries
outrank those of all others. -/
def Doubled : Prop :=
  ∃ e e', Candidate w creatorId o e ∧ Candidate w creatorId o e' ∧ e.group = .risingStars
    ∧ e'.group ≠ .risingStars ∧ e'.record = e.record
    ∧ (o.limit < 3 → ∀ c, Candidate w creatorId o c → c.record ≠ e.record →
      w.Outranks e c ∧ w.Outranks e' c)

section

variable {w : Situation} {creatorId : Nat} {o : Search} {g : Group} {r : Record} {e e' : Entry}

theorem nodup_stored (g : Group) : (w.stored g).Nodup :=
  (w.stored_perm g).nodup_iff.mpr (w.one_each.of_map _)

theorem mem_find : r ∈ find w creatorId o g ↔ Found w creatorId o g r := by
  have hmat : w.matching creatorId g r = true
      ↔ g.criteria w.now r = true ∧ r.visibleTo creatorId = true := Bool.and_eq_true_iff
  have hpop : r ∈ w.stored g ↔ r ∈ w.population := (w.stored_perm g).mem_iff
  cases hinc : g.included o with
  | false =>
    refine iff_of_false (by simp [find, hinc]) fun h => ?_
    exact absurd (hinc.symm.trans h.included) (by decide)
  | true =>
    by_cases hz : ⌊o.limit / 3⌋.toNat = 0
    · simp only [find, hinc, hz, Bool.not_true, Bool.false_eq_true, if_false, if_true, mem_filter]
      rw [hmat, hpop]
      exact ⟨fun ⟨hp, hc, hv⟩ => ⟨hinc, hp, hc, hv, .inl hz⟩,
        fun h => ⟨h.stored, h.criteria, h.visible⟩⟩
    · simp only [find, hinc, hz, Bool.not_true, Bool.false_eq_true, if_false]
      rw [mem_take_filter_iff (nodup_stored g), hmat, hpop]
      exact ⟨fun ⟨hp, ⟨hc, hv⟩, hpl⟩ => ⟨hinc, hp, hc, hv, .inr hpl⟩,
        fun h => ⟨h.stored, ⟨h.criteria, h.visible⟩, h.place.resolve_left hz⟩⟩

theorem mem_highPotentialMembers {m : Group × Record} :
    m ∈ highPotentialMembers w creatorId o ↔ Found w creatorId o m.1 m.2 := by
  obtain ⟨g, r⟩ := m
  rw [highPotentialMembers, mem_flatMap]
  constructor
  · rintro ⟨g', -, hg⟩
    obtain ⟨r', hr', heq⟩ := mem_map.mp hg
    cases heq
    exact mem_find.mp hr'
  · intro h
    exact ⟨g, by cases g <;> decide, mem_map_of_mem (mem_find.mpr h)⟩

theorem mem_qualified :
    e ∈ qualified w creatorId o ↔ AllScored w creatorId o ∧ Candidate w creatorId o e := by
  have hall : ((highPotentialMembers w creatorId o).all fun m =>
      (w.calculateMemberScore m.1 m.2).isSome) = true ↔ AllScored w creatorId o := by
    rw [all_eq_true]
    exact ⟨fun h g r hf => h (g, r) (mem_highPotentialMembers.mpr hf),
      fun h m hm => h m.1 m.2 (mem_highPotentialMembers.mp hm)⟩
  rw [qualified, mem_filter, scoredMembers]
  split_ifs with hs
  · rw [mem_filterMap, decide_eq_true_eq]
    constructor
    · rintro ⟨⟨m, hm, hmap⟩, hmin⟩
      obtain ⟨score, hsc, rfl⟩ := Option.map_eq_some_iff.mp hmap
      exact ⟨hall.mp hs, mem_highPotentialMembers.mp hm, hsc, hmin⟩
    · rintro ⟨-, hf, hsc, hmin⟩
      refine ⟨⟨(e.group, e.record), mem_highPotentialMembers.mpr hf, ?_⟩, hmin⟩
      rw [hsc]
      rfl
  · simp [mt hall.mpr hs]

theorem pairwise_find : (find w creatorId o g).Pairwise
    fun a b => (w.stored g).idxOf a < (w.stored g).idxOf b := by
  have hidx : (w.stored g).Pairwise fun a b => (w.stored g).idxOf a < (w.stored g).idxOf b := by
    refine pairwise_iff_getElem.mpr fun i j hi hj hij => ?_
    rwa [(nodup_stored g).idxOf_getElem i hi, (nodup_stored g).idxOf_getElem j hj]
  refine hidx.sublist ?_
  unfold find
  dsimp only
  split_ifs
  · exact nil_sublist _
  · exact filter_sublist
  · exact (take_sublist _ _).trans filter_sublist

theorem pairwise_highPotentialMembers :
    (highPotentialMembers w creatorId o).Pairwise w.Earlier := by
  refine pairwise_flatMap.mpr ⟨fun g _ => ?_, ?_⟩
  · exact pairwise_map.mpr (pairwise_find.imp fun h => .inr ⟨rfl, h⟩)
  · have hord : [Group.whales, .risingStars, .engagedNew].Pairwise fun g g' =>
        g.order < g'.order := by decide
    refine hord.imp fun hlt x hx y hy => .inl ?_
    obtain ⟨r, -, rfl⟩ := mem_map.mp hx
    obtain ⟨r', -, rfl⟩ := mem_map.mp hy
    exact hlt

theorem pairwise_sorted :
    (sortBy (fun e => -e.score) (qualified w creatorId o)).Pairwise w.Outranks := by
  have hq : (qualified w creatorId o).Pairwise fun a b =>
      w.Earlier (a.group, a.record) (b.group, b.record) := by
    refine Pairwise.filter _ ?_
    rw [scoredMembers]
    split_ifs
    · refine pairwise_highPotentialMembers.filterMap _ fun m m' hm b hb b' hb' => ?_
      obtain ⟨score, -, rfl⟩ := Option.map_eq_some_iff.mp hb
      obtain ⟨score', -, rfl⟩ := Option.map_eq_some_iff.mp hb'
      exact hm
    · exact Pairwise.nil
  refine (pairwise_sortBy_of_pairwise _ hq).imp fun h => ?_
  rwa [neg_lt_neg_iff, neg_inj, eq_comm] at h

theorem outranks_asymm (a b : Entry) (h : w.Outranks a b) : ¬ w.Outranks b a := by
  rintro (hlt | ⟨heq, hb⟩)
  · rcases h with h | ⟨h, -⟩ <;> omega
  · rcases h with h | ⟨-, ha⟩
    · omega
    · rcases ha with ha | ⟨hg, ha⟩ <;> rcases hb with hb | ⟨hg', hb⟩ <;> dsimp only at *
      · omega
      · rw [hg'] at ha
        omega
      · rw [hg] at hb
        omega
      · rw [hg] at ha
        omega

/-! ## Members found twice -/

theorem length_find_le (h : ⌊o.limit / 3⌋.toNat ≠ 0) :
    (find w creatorId o g).length ≤ ⌊o.limit / 3⌋.toNat := by
  unfold find
  dsimp only
  split_ifs
  · exact Nat.zero_le _
  · exact length_take_le _ _

theorem length_qualified_le (h : 3 ≤ o.limit) :
    (qualified w creatorId o).length ≤ ⌊o.limit⌋.toNat := by
  have hthird : 1 ≤ ⌊o.limit / 3⌋ := Int.le_floor.mpr (by push_cast; linarith)
  have hsum : ⌊o.limit / 3⌋ * 3 ≤ ⌊o.limit⌋ := by
    have hle := Int.floor_le (o.limit / 3)
    refine Int.le_floor.mpr ?_
    push_cast
    linarith
  have hscored : (scoredMembers w creatorId o).length
      ≤ (highPotentialMembers w creatorId o).length := by
    rw [scoredMembers]
    split_ifs
    · exact length_filterMap_le _ _
    · exact Nat.zero_le _
  have hfind : ∀ g, (find w creatorId o g).length ≤ ⌊o.limit / 3⌋.toNat :=
    fun g => length_find_le (by omega)
  have hmem : (highPotentialMembers w creatorId o).length ≤ 3 * ⌊o.limit / 3⌋.toNat := by
    have h₁ := hfind .whales
    have h₂ := hfind .risingStars
    have h₃ := hfind .engagedNew
    simp only [highPotentialMembers, flatMap_cons, flatMap_nil, length_append, length_map,
      length_nil]
    omega
  have hfil : (qualified w creatorId o).length ≤ (scoredMembers w creatorId o).length :=
    length_filter_le _ _
  omega

theorem eq_of_candidates (h : Candidate w creatorId o e) (h' : Candidate w creatorId o e')
    (hr : e.record = e'.record) (hg : e.group = e'.group) : e = e' := by
  obtain ⟨r, g, score⟩ := e
  obtain ⟨r', g', score'⟩ := e'
  obtain rfl : r = r' := hr
  obtain rfl : g = g' := hg
  obtain rfl := Option.some.inj (h.scored.symm.trans h'.scored)
  rfl

/-- No record is both of a whale and of a newcomer. -/
theorem risingStars_of_ne (h : Found w creatorId o g r) {g' : Group}
    (h' : Found w creatorId o g' r) (hne : g ≠ g') : g = .risingStars ∨ g' = .risingStars := by
  have hw := h.criteria
  have hn := h'.criteria
  cases g <;> cases g' <;> simp_all [Group.criteria]

theorem record_eq (h : Found w creatorId o e.group e.record)
    (h' : Found w creatorId o e'.group e'.record) (hm : e.record.member = e'.record.member) :
    e.record = e'.record :=
  inj_on_of_nodup_map w.one_each h.stored h'.stored hm

theorem mem_sorted : e ∈ sortBy (fun e => -e.score) (qualified w creatorId o)
    ↔ AllScored w creatorId o ∧ Candidate w creatorId o e :=
  (perm_sortBy _ _).mem_iff.trans mem_qualified

theorem two_le_of_mem_take {s : List Entry} {n : ℕ} (he : e ∈ s.take n) (he' : e' ∈ s.take n)
    (hne : e ≠ e') : 2 ≤ n := by
  match n, s with
  | 0, _ => cases he
  | 1, [] => cases he
  | 1, _ :: _ => simp_all
  | n + 2, _ => exact Nat.le_add_left 2 n

theorem doubled_of_mem (he : e ∈ identifyHighPotential w creatorId o)
    (he' : e' ∈ identifyHighPotential w creatorId o) (hr : e'.record = e.record)
    (hg : e.group = .risingStars) (hg' : e'.group ≠ .risingStars) :
    2 ≤ o.limit ∧ AllScored w creatorId o ∧ Doubled w creatorId o := by
  have hs := mem_of_mem_take he
  have hs' := mem_of_mem_take he'
  obtain ⟨hall, hc⟩ := mem_sorted.mp hs
  obtain ⟨-, hc'⟩ := mem_sorted.mp hs'
  have hne : e ≠ e' := by
    rintro rfl
    exact hg' hg
  have hn : (2 : ℤ) ≤ ⌊o.limit⌋ := by
    have := two_le_of_mem_take he he' hne
    omega
  have htwo : 2 ≤ o.limit := by exact_mod_cast Int.le_floor.mp hn
  refine ⟨htwo, hall, e, e', hc, hc', hg, hg', hr, fun hlt c hcan hrec => ?_⟩
  have hthree : ⌊o.limit⌋ < 3 := Int.floor_lt.mpr (by exact_mod_cast hlt)
  have hn2 : ⌊o.limit⌋.toNat = 2 := by omega
  rw [identifyHighPotential, hn2] at he he'
  refine (mem_take_two_iff outranks_asymm pairwise_sorted hs hs' hne).mp ⟨he, he'⟩ c
    (mem_sorted.mpr ⟨hall, hcan⟩) ?_ ?_
  · rintro rfl
    exact hrec rfl
  · rintro rfl
    exact hrec hr

theorem mem_of_doubled (htwo : 2 ≤ o.limit) (hall : AllScored w creatorId o)
    (he : Candidate w creatorId o e) (he' : Candidate w creatorId o e')
    (hg : e.group = .risingStars) (hg' : e'.group ≠ .risingStars) (hr : e'.record = e.record)
    (hout : o.limit < 3 → ∀ c, Candidate w creatorId o c → c.record ≠ e.record →
      w.Outranks e c ∧ w.Outranks e' c) :
    e ∈ identifyHighPotential w creatorId o ∧ e' ∈ identifyHighPotential w creatorId o := by
  have hs := mem_sorted.mpr ⟨hall, he⟩
  have hs' := mem_sorted.mpr ⟨hall, he'⟩
  rw [identifyHighPotential]
  rcases lt_or_ge o.limit 3 with hlt | hge
  · have hn : ⌊o.limit⌋ = 2 := by
      refine Int.floor_eq_iff.mpr ⟨by exact_mod_cast htwo, ?_⟩
      push_cast
      linarith
    have hne : e ≠ e' := by
      rintro rfl
      exact hg' hg
    rw [hn]
    refine (mem_take_two_iff outranks_asymm pairwise_sorted hs hs' hne).mpr fun c hc hce hce' => ?_
    obtain ⟨-, hcan⟩ := mem_sorted.mp hc
    refine hout hlt c hcan fun hrec => ?_
    -- a third entry of the record would be in a third group
    have hgc : c.group ≠ e'.group := fun h =>
      hce' (eq_of_candidates hcan he' (hrec.trans hr.symm) h)
    have hfc : Found w creatorId o c.group e'.record := hr ▸ hrec ▸ hcan.found
    rcases risingStars_of_ne hfc he'.found hgc with h | h
    · exact hce (eq_of_candidates hcan he hrec (h.trans hg.symm))
    · exact hg' h
  · have hlen : (sortBy (fun e => -e.score) (qualified w creatorId o)).length
        ≤ ⌊o.limit⌋.toNat := by
      rw [(perm_sortBy _ _).length_eq]
      exact length_qualified_le hge
    rw [take_of_length_le hlen]
    exact ⟨hs, hs'⟩

theorem distinct_iff : ((identifyHighPotential w creatorId o).map (·.record.member)).Nodup
    ↔ ¬ (2 ≤ o.limit ∧ AllScored w creatorId o ∧ Doubled w creatorId o) := by
  have hnd : (identifyHighPotential w creatorId o).Nodup := by
    have hs : (sortBy (fun e => -e.score) (qualified w creatorId o)).Nodup := by
      refine pairwise_sorted.imp fun {a b} h heq => ?_
      subst heq
      exact outranks_asymm a a h h
    exact hs.sublist (take_sublist _ _)
  rw [nodup_map_iff_inj_on hnd]
  constructor
  · rintro hinj ⟨htwo, hall, e, e', he, he', hg, hg', hr, hout⟩
    obtain ⟨hm, hm'⟩ := mem_of_doubled htwo hall he he' hg hg' hr hout
    have heq : e = e' := hinj e hm e' hm' (congrArg Record.member hr.symm)
    exact hg' (heq ▸ hg)
  · intro hno e he e' he' hmem
    by_contra hne
    obtain ⟨-, hc⟩ := mem_sorted.mp (mem_of_mem_take he)
    obtain ⟨-, hc'⟩ := mem_sorted.mp (mem_of_mem_take he')
    have hr : e.record = e'.record := record_eq hc.found hc'.found hmem
    have hgr : e.group ≠ e'.group := fun h => hne (eq_of_candidates hc hc' hr h)
    have hfo : Found w creatorId o e'.group e.record := hr ▸ hc'.found
    rcases risingStars_of_ne hc.found hfo hgr with h | h
    · exact hno (doubled_of_mem he he' hr.symm h (h ▸ hgr.symm))
    · exact hno (doubled_of_mem he' he hr h (h ▸ hgr))

end

/-- **Members of high potential.** All is well exactly if no rising star who is also a whale, a
VIP or an engaged newcomer is found and scores enough in both groups, within a limit of two or
more. -/
theorem highPotential_iff (w : Situation) (creatorId : Nat) {o : Search} (hlimit : 0 ≤ o.limit) :
    Promising creatorId o (identifyHighPotential w creatorId o)
      ↔ ¬ (2 ≤ o.limit ∧ AllScored w creatorId o ∧ Doubled w creatorId o) := by
  refine ⟨fun h => distinct_iff.mp h.distinct, fun h => ⟨?_, ?_, distinct_iff.mpr h, ?_, ?_⟩⟩
  · have hlen : (identifyHighPotential w creatorId o).length ≤ ⌊o.limit⌋.toNat :=
      length_take_le _ _
    have hflo : ((⌊o.limit⌋.toNat : ℤ) : ℚ) ≤ o.limit := by
      rw [Int.toNat_of_nonneg (Int.floor_nonneg.mpr hlimit)]
      exact Int.floor_le o.limit
    exact le_trans (Nat.cast_le.mpr hlen) (by exact_mod_cast hflo)
  · have hso := (pairwise_sortBy (fun e : Entry => -e.score) (qualified w creatorId o)).sublist
      (take_sublist ⌊o.limit⌋.toNat _)
    exact hso.imp neg_le_neg_iff.mp
  · intro e he
    have hvis := (mem_sorted.mp (mem_of_mem_take he)).2.found.visible
    simpa [Record.visibleTo] using hvis
  · exact fun e he => (mem_sorted.mp (mem_of_mem_take he)).2.reaches

def sampleRiser : Record :=
  { Record.new 1 0 with
    last30Days := some 150, lifetime := some 150, tier := some .vip, trend := some .increasing
    level := some .veryActive, monthlyActiveDays := some 25 }

def sampleSituation : Situation where
  now := 0
  population := [sampleRiser]
  one_each := nodup_singleton _
  stored _ := [sampleRiser]
  stored_perm _ := .refl _
  calculateMemberScore _ r :=
    (r.calculateMemberScore 0 ⟨true, true, true, some 7⟩ (some [])).map Prod.fst

theorem highPotential_whales : Promising 7 { includeRising := false }
    (identifyHighPotential sampleSituation 7 { includeRising := false }) := by
  refine (highPotential_iff sampleSituation 7 (by decide +kernel)).mpr ?_
  rintro ⟨-, -, e, e', he, -, hg, -⟩
  have hinc := he.found.included
  rw [hg] at hinc
  cases hinc

theorem riser_twice :
    (identifyHighPotential sampleSituation 7 {}).map (·.record.member) = [1, 1] := by
  have hent : qualified sampleSituation 7 {}
      = [⟨sampleRiser, .whales, 72⟩, ⟨sampleRiser, .risingStars, 72⟩] := by decide +kernel
  have hso : [(⟨sampleRiser, .whales, 72⟩ : Entry), ⟨sampleRiser, .risingStars, 72⟩].Pairwise
      fun a b => decide (-a.score ≤ -b.score) = true := by decide +kernel
  rw [identifyHighPotential, hent, sortBy, mergeSort_of_pairwise hso]
  decide +kernel

end SexySelfies.Analytics
