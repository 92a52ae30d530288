import SexySelfies.SaleCompletion

/-!
# Reversing a sale

A refund, chargeback or void carries the processor's id of a sale, and should take back the
transaction that was completed under that id. The id is written to a path that is not declared: a
reversal with an id finds nothing, and one without an id finds the first transaction of the
collection. Of the three statuses only `refunded` passes the enumeration.
-/

namespace SexySelfies.Sales

open Js Platform CivilDate Payments

variable (env : Env)

def deliver (db : Db) (d : Context × Request) : Db :=
  (handleCCBillWebhook env d.1 d.2 db).1

def Request.accepted (r : Request) : Bool :=
  !r.body.isNullish && verifyCCBillWebhook env r.headers

def EventKind.reverses : EventKind → Bool
  | .refund => true
  | .chargeback => true
  | .void => true
  | _ => false

def Request.processorId (r : Request) : Value := r.body.get "transactionId"

variable {db : Db}

theorem deliver_of_accepted {env : Env} {d : Context × Request} (h : d.2.accepted env) :
    deliver env db d = settled (handleEvent env d.1 d.2.body db) := by
  rw [Request.accepted, Bool.and_eq_true, Bool.not_eq_true'] at h
  rw [deliver, handleCCBillWebhook, if_neg (by simp [h.1]), if_pos h.2]

/-! ## What a reversal does -/

theorem findOne_const {α : Type} (b : Bool) (l : List α) :
    Collection.findOne (fun _ => b) l = if b then l.head?.map ((0, ·)) else none := by
  cases b with
  | false =>
    rw [if_neg Bool.false_ne_true, Collection.findOne_eq_none]
    exact fun _ _ => rfl
  | true => cases l <;> rfl

theorem findByProcessorId_eq (v : Value) :
    db.findByProcessorId v = if v.isNullish then db.sales.head?.map ((0, ·)) else none := by
  have hmat : (fun s : Sale => queryMatches (s.path "processorTransactionId") v)
      = fun _ => v.isNullish := by
    funext s
    rw [path_of_undeclared s (by decide)]
    rfl
  rw [Db.findByProcessorId, hmat, findOne_const]

def refundFirst : List Sale → List Sale
  | [] => []
  | sale :: sales =>
    { sale with transaction := { sale.transaction with status := .refunded } } :: sales

theorem assign_refunded (sale : Sale) :
    sale.assign "refunded" [("refundedAt", .details), ("refundAmount", .details)]
      = some { sale with transaction := { sale.transaction with status := .refunded } } := by
  have ho : strict transactionPaths
      ([("refundedAt", .details), ("refundAmount", .details)] ++ sale.other) = sale.other := by
    have hk : sale.other.filter (fun f => f.1 ∈ transactionPaths) = sale.other :=
      List.filter_eq_self.mpr fun f hf => decide_eq_true (sale.other_declared f hf)
    rw [strict, List.filter_append, hk]
    rfl
  have hst : TransactionStatus.names.lookup "refunded" = some .refunded := by decide
  rw [Sale.assign, hst, Option.map_some]
  simp only [ho]

theorem sales_correctRevenue (c : Context) (creator : Nat) (amount : Number)
    (co : Revenue → ℚ → Revenue) :
    (settled (correctRevenue c creator amount co db)).sales = db.sales := by
  unfold correctRevenue
  split
  · rfl
  · split
    · split <;> rfl
    · rfl

theorem settled_reverseSale_of_refused {status : String} {paths : List (String × PathValue)}
    (h : TransactionStatus.names.lookup status = none) (c : Sale → Db → Except Db Db)
    (body : Value) : settled (reverseSale status paths c body db) = db := by
  unfold reverseSale
  split
  · rfl
  · simp only [Db.saveSale, Sale.assign, h, Option.map_none]
    rfl

theorem sales_handleRefund (c : Context) (body : Value) :
    (settled (handleRefund env c body db)).sales =
      if (body.get "transactionId").isNullish then refundFirst db.sales else db.sales := by
  obtain ⟨sales, e, co, messages⟩ := db
  unfold handleRefund reverseSale
  rw [findByProcessorId_eq]
  by_cases hid : (body.get "transactionId").isNullish = true
  · rw [if_pos hid, if_pos hid]
    cases sales with
    | nil => rfl
    | cons =>
      simp only [List.head?_cons, Option.map_some, Db.saveSale, assign_refunded]
      exact sales_correctRevenue c _ _ _
  · rw [if_neg hid, if_neg hid]
    rfl

theorem sales_deliver_of_reverses {env : Env} {d : Context × Request} {k : EventKind}
    (hacc : d.2.accepted env) (hki : eventKind d.2.body = some k)
    (hk : k.reverses) (db : Db) : (deliver env db d).sales =
      if k = .refund ∧ d.2.processorId.isNullish = true then refundFirst db.sales
      else db.sales := by
  rw [deliver_of_accepted hacc, handleEvent, hki]
  cases k with
  | refund =>
    simp only [true_and]
    exact sales_handleRefund env d.1 d.2.body
  | chargeback | void =>
    rw [if_neg fun h => by cases h.1]
    exact congrArg Db.sales (settled_reverseSale_of_refused (by decide) _ _)
  | _ => cases hk

theorem refundFirst_eq_self_iff (sales : List Sale) :
    refundFirst sales = sales ↔ ∀ sale ∈ sales.head?, sale.transaction.status = .refunded := by
  cases sales with
  | nil => simp [refundFirst]
  | cons sale sales =>
    rw [refundFirst, List.cons.injEq, and_iff_left rfl]
    constructor
    · intro heq first hf
      cases hf
      exact (congrArg (·.transaction.status) heq).symm
    · intro h
      have hst := h sale rfl
      obtain ⟨t, other, d⟩ := sale
      obtain ⟨_, _, _, _, _, _, status, _, _, _, _, _⟩ := t
      obtain rfl : status = .refunded := hst
      rfl

/-! ## The sales of a run -/

/-- The processor's id and the transaction of the sale that a delivery
completes. -/
def soldBy (db : Db) (r : Request) : Option (Value × Nat) :=
  if r.accepted env = true ∧ eventKind r.body = some .newSaleSuccess
      ∧ r.processorId.isNullish = false then
    match env.saleRef r.body with
    | .id id => if id < db.sales.length then some (r.processorId, id) else none
    | _ => none
  else none

structure Recorded where
  db : Db
  sold : List (Value × Nat)

variable (w : Recorded)

def record (d : Context × Request) : Recorded :=
  ⟨deliver env w.db d, (soldBy env w.db d.2).toList ++ w.sold⟩

def Db.completedSale (db : Db) (id : Nat) : Option (Nat × Sale) :=
  ((db.sales[id]?).filter (·.transaction.status = .completed)).map ((id, ·))

def Recorded.saleWith (v : Value) : Option (Nat × Sale) :=
  if v.isNullish then none
  else (w.sold.filter (·.1.same v)).findSome? (w.db.completedSale ·.2)

theorem saleWith_some {w : Recorded} {v : Value} {id : Nat} {sale : Sale}
    (h : w.saleWith v = some (id, sale)) :
    v.isNullish = false ∧ w.db.sales[id]? = some sale ∧ sale.transaction.status = .completed := by
  rw [Recorded.saleWith] at h
  split at h
  · cases h
  · rename_i hid
    obtain ⟨p, -, hp⟩ := List.exists_of_findSome?_eq_some h
    rw [Db.completedSale, Option.map_eq_some_iff] at hp
    obtain ⟨s, hs, heq⟩ := hp
    obtain ⟨hst, hsta⟩ := Option.filter_eq_some_iff.mp hs
    obtain ⟨rfl, rfl⟩ := Prod.mk.injEq .. |>.mp heq
    exact ⟨Bool.eq_false_iff.mpr hid, hst, of_decide_eq_true hsta⟩

/-- A reversal takes back the completed sale that its id belongs to, and
without such a sale changes no transaction. -/
def Reversed (d : Context × Request) : Prop :=
  d.2.accepted env = true → ∀ k ∈ eventKind d.2.body, k.reverses = true →
    match w.saleWith d.2.processorId with
    | some (id, sale) =>
      (∃ sale', (deliver env w.db d).sales = w.db.sales.set id sale'
        ∧ sale'.transaction.status ≠ .completed)
      ∧ (deliver env w.db d).lifetimeEarnings sale.transaction.creator
        = w.db.lifetimeEarnings sale.transaction.creator - sale.creatorEarnings
    | none => (deliver env w.db d).sales = w.db.sales

/-- The id of a reversal belongs to no completed sale, and a refund without an
id finds no transaction or one that is refunded. -/
def Reversible (d : Context × Request) : Prop :=
  d.2.accepted env = true → ∀ k ∈ eventKind d.2.body, k.reverses = true →
    w.saleWith d.2.processorId = none
      ∧ (k = .refund ∧ d.2.processorId.isNullish = true →
        ∀ sale ∈ w.db.sales.head?, sale.transaction.status = .refunded)

theorem reversed_iff (d : Context × Request) :
    Reversed env w d ↔ Reversible env w d := by
  refine forall_congr' fun hacc => forall₂_congr fun k hki => forall_congr' fun hk => ?_
  have hsal := sales_deliver_of_reverses hacc hki hk w.db
  cases hsa : w.saleWith d.2.processorId with
  | some found =>
    obtain ⟨id, sale⟩ := found
    obtain ⟨hid, hst, hsta⟩ := saleWith_some hsa
    have hs : (deliver env w.db d).sales = w.db.sales := by
      rw [hsal, if_neg fun h => by rw [hid] at h; cases h.2]
    refine iff_of_false ?_ fun h => by cases h.1
    rintro ⟨⟨sale', hset, hne⟩, -⟩
    have hlt := (List.getElem?_eq_some_iff.mp hst).1
    have hsa' : some sale' = some sale := by rw [← List.getElem?_set_self hlt, ← hset, hs, hst]
    rw [Option.some.inj hsa'] at hne
    exact hne hsta
  | none =>
    simp only [true_and]
    rw [hsal]
    by_cases hre : k = .refund ∧ d.2.processorId.isNullish = true
    · rw [if_pos hre, refundFirst_eq_self_iff]
      exact ⟨fun h _ => h, fun h => h hre⟩
    · rw [if_neg hre]
      exact iff_of_true rfl fun h => absurd h hre

/-- In every sequence of deliveries, every reversal takes back exactly the sale
it is about, if and only if every reversal is `Reversible`: never about a
completed sale. -/
theorem reversals_iff (env : Env) (db : Db) (ds : List (Context × Request)) :
    Runs.Every (record env) (Reversed env) ⟨db, []⟩ ds ↔
      Runs.Every (record env) (Reversible env) ⟨db, []⟩ ds := Runs.every_congr (reversed_iff env)

def eventP1 (eventType : String) : Context × Request :=
  (acceptingContext,
    ⟨⟨none, none⟩, .obj [("eventType", .str eventType), ("transactionId", .str "P1"),
      ("customFields", .obj [("transactionId", .str "T1")])]⟩)

theorem reversals_fail_after_sale :
    (Runs.states (deliver sampleEnv) payableTipDb
        [eventP1 "NewSaleSuccess", eventP1 "Refund"]).map
        (·.sales.map (·.transaction.status)) = [[.pending], [.completed], [.completed]]
      ∧ ¬ Runs.Every (record sampleEnv) (Reversed sampleEnv) ⟨payableTipDb, []⟩
        [eventP1 "NewSaleSuccess", eventP1 "Refund"] := by
  refine ⟨by decide +kernel, fun h => ?_⟩
  have hrev := (reversed_iff _ _ _).mp h.2.1 rfl .refund rfl rfl
  cases hrev.1

end SexySelfies.Sales
