import TradingPlatform.Storage.Creation

/-! # Accounts of orders

An order takes fills as an account does: it keeps its requested quantity, its
status and the quantities filled, newest first. Creating fills one after another
in the memory store takes their quantities into the accounts of their orders.
-/

namespace TradingPlatform.Storage

structure Account where
  requested : ℚ
  status : String
  quantities : List ℚ
deriving DecidableEq

namespace Account

variable (ctx : DecimalContext) {account account' : Account} {qty : ℚ} {qtys : List ℚ}

/-- The account of an order without fills. -/
def opened (order : Order) : Account := ⟨order.requestedQty.value, order.status, []⟩

/-- Take one quantity, unless the account is done or would be over-filled. -/
def take (account : Account) (qty : ℚ) : Option Account :=
  let filledQty := ctx.add (ctx.sum account.quantities) qty
  if account.status ∈ terminalOrderStatuses then none
  else if account.requested < filledQty then none
  else
    some
      { account with
        status := if filledQty = account.requested then "filled" else "partially_filled"
        quantities := qty :: account.quantities }

/-- Take quantities one after another. -/
def takeAll (account : Account) : List ℚ → Option Account
  | [] => some account
  | qty :: rest => (account.take ctx qty).bind (takeAll · rest)

/-- The last quantity taken made the sum of the account's quantities the requested one. -/
def Settled (account : Account) : Prop :=
  ∃ last earlier, account.quantities = last :: earlier ∧
    ctx.add (ctx.sum earlier) last = account.requested

variable {ctx}

@[simp] theorem takeAll_nil (account : Account) : account.takeAll ctx [] = some account := rfl

theorem take_eq_some (htake : account.take ctx qty = some account') :
    account'.requested = account.requested ∧ account'.quantities = qty :: account.quantities ∧
      account.status ∉ terminalOrderStatuses ∧
      (account'.status = "filled" ∧ account'.Settled ctx ∨
        account'.status = "partially_filled") := by
  simp only [take] at htake
  split_ifs at htake with hterminal hover hfull
  · obtain rfl := Option.some.inj htake
    exact ⟨rfl, rfl, hterminal, Or.inl ⟨rfl, qty, account.quantities, rfl, hfull⟩⟩
  · obtain rfl := Option.some.inj htake
    exact ⟨rfl, rfl, hterminal, Or.inr rfl⟩

/-- An account that quantities were taken into is settled when it is filled. -/
theorem takeAll_status (htake : account.takeAll ctx qtys = some account') :
    account' = account ∨ account'.status = "filled" ∧ account'.Settled ctx ∨
      account'.status = "partially_filled" := by
  induction qtys generalizing account with
  | nil =>
      obtain rfl := Option.some.inj htake
      exact Or.inl rfl
  | cons qty rest ih =>
      obtain ⟨next, hnext, hrest⟩ := Option.bind_eq_some_iff.mp htake
      right
      rcases ih hrest with rfl | hstatus
      · exact (take_eq_some hnext).2.2.2
      · exact hstatus

end Account

section Memory

open MemoryStore

variable {p : Platform} {ctx : DecimalContext} {s : MemoryStore}

/-- The account the store keeps of an order. -/
def MemoryStore.account (s : MemoryStore) (orderId : String) : Option Account :=
  (s.findOrder orderId).map fun order =>
    ⟨order.requestedQty.value, order.status, (s.fillsOf orderId).map (·.fillQty.value)⟩

/-- The account of an order of the store. -/
theorem account_of_mem (hwf : WellFormed p s) {order : Order} (hmem : order ∈ s.orders) :
    s.account order.orderId = some ⟨order.requestedQty.value, order.status,
      (s.fillsOf order.orderId).map (·.fillQty.value)⟩ := by
  rw [MemoryStore.account, hwf.findOrder_of_mem hmem]
  rfl

@[simp] theorem fillsOf_addFill (s : MemoryStore) (fill : Fill) (id : String) :
    (s.addFill fill).fillsOf id =
      if fill.orderId = id then fill :: s.fillsOf id else s.fillsOf id := by
  simp only [fillsOf, addFill_fills, List.filter_cons, decide_eq_true_eq]

theorem findOrder_addFill (s : MemoryStore) (fill : Fill) (id : String) :
    (s.addFill fill).findOrder id = (s.findOrder id).map fun order =>
      if order.orderId = fill.orderId then
        { order with status := fill.orderStatus, updatedAt := fill.createdAt }
      else order := by
  simp only [findOrder, addFill_orders, setOrderStatus, List.find?_map]
  congr 2
  funext order
  simp only [Function.comp_apply]
  split <;> rfl

variable (ctx) in
/-- Creating a fill of a new trade takes its quantity into the account of its
order and leaves every other account as it was. -/
theorem createFill_account {new : NewFill}
    (hfree : s.findTrade new.orderId new.exchangeTradeId = none) :
    match (s.account new.orderId).bind (·.take ctx new.fillQty.value) with
    | none => (createFill p ctx new s).1.createdRow = none
    | some account =>
        (∃ row, (createFill p ctx new s).1.createdRow = some row) ∧
          ∀ id, (createFill p ctx new s).2.account id =
            if id = new.orderId then some account else s.account id := by
  cases horder : s.findOrder new.orderId with
  | none => simp [MemoryStore.account, horder, createFill, StoreAnswer.createdRow]
  | some order =>
      have hid := findOrder_orderId horder
      have htake : (s.account new.orderId).bind (·.take ctx new.fillQty.value) =
          (fillStatus ctx s order new.fillQty.value).map fun status =>
            ⟨order.requestedQty.value, status,
              new.fillQty.value :: (s.fillsOf new.orderId).map (·.fillQty.value)⟩ := by
        simp only [MemoryStore.account, horder, Option.map_some, Option.bind_some, Account.take,
          fillStatus, nextFilledQty, hid]
        split_ifs <;> rfl
      rw [htake]
      cases hstatus : fillStatus ctx s order new.fillQty.value with
      | none =>
          rcases createFill_cases p ctx new s with
            ⟨other, status, hother, -, hsome, -⟩ | ⟨hnot, -⟩
          · obtain rfl := Option.some.inj (horder.symm.trans hother)
            exact absurd (hstatus.symm.trans hsome) (by simp)
          · exact StoreAnswer.createdRow_of_ne hnot
      | some status =>
          rw [createFill_eq_created horder hfree hstatus]
          refine ⟨⟨_, rfl⟩, fun id => ?_⟩
          simp only [MemoryStore.account, findOrder_addFill, fillsOf_addFill, fillRow]
          by_cases hsame : id = new.orderId
          · subst hsame
            simp [horder, hid]
          · have hother : ∀ other ∈ s.findOrder id, other.orderId ≠ new.orderId :=
              fun other hmem heq => hsame ((findOrder_orderId hmem).symm.trans heq)
            cases hfind : s.findOrder id with
            | none => simp [hsame]
            | some other => simp [hsame, Ne.symm hsame, hother other hfind]

section Runs

variable {Item : Type} (request : Item → NewFill)

/-- The trades of the fills are new to the store and pairwise distinct. -/
structure FreshTrades (s : MemoryStore) (items : List Item) : Prop where
  nodup : (items.filterMap fun item => (request item).tradeKey).Nodup
  fresh : ∀ item ∈ items, ∀ key ∈ (request item).tradeKey, key ∉ s.fills.filterMap Fill.tradeKey

/-- The quantities of the fills of an order. -/
def qtysFor (orderId : String) (items : List Item) : List ℚ :=
  (items.filter fun item => (request item).orderId = orderId).map fun item =>
    (request item).fillQty.value

variable {request}

variable (ctx) in
theorem FreshTrades.createFill {item : Item} {rest : List Item}
    (hfresh : FreshTrades request s (item :: rest)) :
    FreshTrades request (createFill p ctx (request item) s).2 rest := by
  obtain ⟨hnodup, hnew⟩ := hfresh
  rw [List.filterMap_cons] at hnodup
  refine ⟨?_, fun other hmem key hkey => ?_⟩
  · split at hnodup
    · exact hnodup
    · exact (List.nodup_cons.mp hnodup).2
  · have hold := hnew other (List.mem_cons_of_mem _ hmem) key hkey
    rcases createFill_cases p ctx (request item) s with
      ⟨order, status, -, -, -, hcreated⟩ | ⟨-, hsame⟩
    · rw [hcreated, addFill_fills, List.filterMap_cons]
      have hrow : (fillRow p s.serial order (request item) status).tradeKey =
          (request item).tradeKey := rfl
      rw [hrow]
      split
      · exact hold
      next first hfirst =>
        rw [hfirst] at hnodup
        simp only [List.mem_cons, not_or]
        refine ⟨?_, hold⟩
        rintro rfl
        exact (List.nodup_cons.mp hnodup).1 (List.mem_filterMap.mpr ⟨other, hmem, hkey⟩)
    · rw [hsame]
      exact hold

variable (ctx) in
/-- A run of fills with new trades: it is refused exactly when some account does
not take its quantities, and otherwise every account takes its own. -/
theorem createFills_accounts (items : List Item) (hfresh : FreshTrades request s items)
    (hknown : ∀ item ∈ items, (s.account (request item).orderId).isSome) :
    let run := createRows (fun item => MemoryStore.createFill p ctx (request item)) items s
    (run.refusal = none ↔ ∀ id, ∀ account ∈ s.account id,
      (account.takeAll ctx (qtysFor request id items)).isSome) ∧
    (run.refusal = none → ∀ id,
      run.store.account id = (s.account id).bind (·.takeAll ctx (qtysFor request id items))) := by
  induction items generalizing s with
  | nil => exact ⟨by simp [createRows, qtysFor], fun _ id => by simp [createRows, qtysFor]⟩
  | cons item rest ih =>
      have hfree := findTrade_eq_none.mpr (hfresh.fresh item List.mem_cons_self)
      have hcall := createFill_account (p := p) ctx hfree
      obtain ⟨opened, hopened⟩ := Option.isSome_iff_exists.mp (hknown item List.mem_cons_self)
      have hcons : ∀ id, qtysFor request id (item :: rest) =
          if (request item).orderId = id then
            (request item).fillQty.value :: qtysFor request id rest
          else qtysFor request id rest := by
        intro id
        simp only [qtysFor, List.filter_cons, decide_eq_true_eq]
        split <;> rfl
      rw [hopened] at hcall
      cases htake : opened.take ctx (request item).fillQty.value with
      | none =>
          simp only [Option.bind_some, htake] at hcall
          simp only [createRows_cons_refused (fun item =>
            MemoryStore.createFill p ctx (request item)) hcall]
          refine ⟨iff_of_false (by simp) fun hall => ?_, by simp⟩
          have hsome := hall _ opened hopened
          simp [hcons, Account.takeAll, htake] at hsome
      | some account =>
          simp only [Option.bind_some, htake] at hcall
          obtain ⟨⟨row, hrow⟩, haccounts⟩ := hcall
          have hknown' : ∀ other ∈ rest,
              ((MemoryStore.createFill p ctx (request item) s).2.account
                (request other).orderId).isSome := by
            intro other hmem
            rw [haccounts]
            split
            · rfl
            · exact hknown other (List.mem_cons_of_mem _ hmem)
          obtain ⟨hiff, hafter⟩ := ih (hfresh.createFill (p := p) ctx) hknown'
          -- Each account takes the rest of its quantities where the run goes on.
          have hnext : ∀ id,
              (s.account id).bind (·.takeAll ctx (qtysFor request id (item :: rest))) =
              ((MemoryStore.createFill p ctx (request item) s).2.account id).bind
                (·.takeAll ctx (qtysFor request id rest)) := by
            intro id
            rw [hcons, haccounts]
            by_cases hid : (request item).orderId = id
            · subst hid
              simp [hopened, Account.takeAll, htake]
            · simp [hid, Ne.symm hid]
          simp only [createRows_cons_created (fun item =>
            MemoryStore.createFill p ctx (request item)) hrow]
          refine ⟨hiff.trans ?_, fun hnone id => (hafter hnone id).trans (hnext id).symm⟩
          have hbind : ∀ (t : MemoryStore) id (qtys : List ℚ),
              (∀ account ∈ t.account id, (account.takeAll ctx qtys).isSome) ↔
                ((t.account id).isSome → ((t.account id).bind (·.takeAll ctx qtys)).isSome) := by
            intro t id qtys
            cases t.account id <;> simp
          refine forall_congr' fun id => ?_
          rw [hbind, hbind, hnext, haccounts]
          split
          next heq => simp [heq, hopened]
          next => rfl

end Runs

section Rows

variable {Item : Type} {request : Item → NewFill}

/-- A change of orders that touches nothing but the status and the last change
of some of them. -/
def Restamps (ids : List String) (change : Order → Order) : Prop :=
  ∀ order, (∃ status updatedAt,
      change order = { order with status := status, updatedAt := updatedAt }) ∧
    (order.orderId ∉ ids → change order = order)

theorem Restamps.orderId {ids : List String} {change : Order → Order}
    (hchange : Restamps ids change)
    (order : Order) : (change order).orderId = order.orderId := by
  obtain ⟨⟨status, updatedAt, heq⟩, -⟩ := hchange order
  rw [heq]

variable (ctx) (request) in
/-- A run of fills changes no order but those it is for, and these keep their terms. -/
theorem createFills_orders (items : List Item) (s : MemoryStore) :
    ∃ change, Restamps (items.map fun item => (request item).orderId) change ∧
      (createRows (fun item => MemoryStore.createFill p ctx (request item)) items s).store.orders =
        s.orders.map change := by
  induction items generalizing s with
  | nil =>
      refine ⟨id, fun order => ⟨⟨order.status, order.updatedAt, rfl⟩, fun _ => rfl⟩, ?_⟩
      simp [createRows]
  | cons item rest ih =>
      rcases createFill_cases p ctx (request item) s with
        ⟨order, status, -, -, -, hcreated⟩ | ⟨hnot, hsame⟩
      · obtain ⟨change, hchange, horders⟩ := ih (createFill p ctx (request item) s).2
        have hrow : (createFill p ctx (request item) s).1.createdRow =
            some (fillRow p s.serial order (request item) status) := by rw [hcreated]; rfl
        simp only [createRows_cons_created (fun item =>
          MemoryStore.createFill p ctx (request item)) hrow]
        refine ⟨fun other => change (if other.orderId = (request item).orderId then
          { other with status := status, updatedAt := p.sampleTime s.serial } else other), ?_, ?_⟩
        · intro other
          constructor
          · obtain ⟨⟨newStatus, updatedAt, heq⟩, -⟩ := hchange
              (if other.orderId = (request item).orderId then
                { other with status := status, updatedAt := p.sampleTime s.serial } else other)
            refine ⟨newStatus, updatedAt, heq.trans ?_⟩
            split <;> rfl
          · intro hnot
            simp only [List.map_cons, List.mem_cons, not_or] at hnot
            simp only [if_neg hnot.1]
            exact (hchange other).2 hnot.2
        · rw [horders, hcreated, addFill_orders, setOrderStatus, List.map_map]
          rfl
      · simp only [createRows_cons_refused (fun item =>
          MemoryStore.createFill p ctx (request item)) (StoreAnswer.createdRow_of_ne hnot), hsame]
        exact ⟨id, fun order => ⟨⟨order.status, order.updatedAt, rfl⟩, fun _ => rfl⟩, by simp⟩

/-- A run of fills puts its rows before the fills of the store, newest first. -/
theorem createFills_fills (items : List Item) (s : MemoryStore) :
    (createRows (fun item => MemoryStore.createFill p ctx (request item)) items s).store.fills =
      ((createRows (fun item => MemoryStore.createFill p ctx (request item)) items s).rows.map
        Prod.snd).reverse ++ s.fills := by
  have hcall : ∀ item s, (createFill p ctx (request item) s).2.fills.reverse =
      s.fills.reverse ++ ((createFill p ctx (request item) s).1.createdRow.map id).toList := by
    intro item s
    simp only [(createFill_rows p ctx (request item) s).1, List.reverse_append]
    cases (createFill p ctx (request item) s).1.createdRow <;> simp
  have hlog := createRows_log (fun s : MemoryStore => s.fills.reverse) id hcall items s
  have hreverse := congrArg List.reverse hlog
  simpa [Function.comp_def] using hreverse

/-- The row of a created fill has the terms it was requested with. -/
structure RepeatsFill (new : NewFill) (fill : Fill) : Prop where
  orderId : fill.orderId = new.orderId
  exchangeTradeId : fill.exchangeTradeId = new.exchangeTradeId
  fillPrice : fill.fillPrice = new.fillPrice
  fillQty : fill.fillQty = new.fillQty

variable (ctx) (request) in
/-- A run of fills keeps the store well formed, and its rows repeat their requests. -/
theorem createFills_rows (items : List Item) (hwf : WellFormed p s) :
    let run := createRows (fun item => MemoryStore.createFill p ctx (request item)) items s
    WellFormed p run.store ∧ ∀ created ∈ run.rows, RepeatsFill (request created.1) created.2 := by
  refine ⟨createRows_preserves (motive := WellFormed p)
    (fun item s hs => hs.createFill (request item))
    items hwf, ?_⟩
  refine createRows_forall (motive := fun item fill => RepeatsFill (request item) fill)
    (fun _ => True) (fun _ _ _ => trivial) ?_ items trivial
  intro item s row _ hrow
  rcases createFill_cases p ctx (request item) s with ⟨order, status, -, -, -, hcreated⟩ | ⟨hnot, -⟩
  · rw [hcreated] at hrow
    obtain rfl := Option.some.inj hrow
    exact ⟨rfl, rfl, rfl, rfl⟩
  · rw [StoreAnswer.createdRow_of_ne hnot] at hrow
    exact absurd hrow (by simp)

variable (request) in
/-- Each row of a run repeats the terms of the order it is for. -/
theorem createFills_terms (items : List Item) (hwf : WellFormed p s) {created : Item × Fill}
    (hcreated : created ∈
      (createRows (fun item => MemoryStore.createFill p ctx (request item)) items s).rows)
    {order : Order} (horder : order ∈ s.orders)
    (hid : order.orderId = (request created.1).orderId) :
    created.2.orderIntentId = order.orderIntentId ∧ created.2.side = order.side ∧
      created.2.exchangeName = order.exchangeName := by
  obtain ⟨hafter, hrepeats⟩ := createFills_rows ctx request items hwf
  obtain ⟨change, hchange, horders⟩ := createFills_orders (p := p) ctx request items s
  obtain ⟨⟨status, updatedAt, heq⟩, -⟩ := hchange order
  have hrow : change order ∈
      (createRows (fun item => MemoryStore.createFill p ctx (request item)) items
        s).store.orders := by
    rw [horders]
    exact List.mem_map_of_mem horder
  have hstored : created.2 ∈
      (createRows (fun item => MemoryStore.createFill p ctx (request item)) items
        s).store.fills := by
    rw [createFills_fills]
    exact List.mem_append_left _ (List.mem_reverse.mpr (List.mem_map_of_mem hcreated))
  have hterms := hafter.fill_terms hrow hstored
    ((hchange.orderId order).trans (hid.trans (hrepeats created hcreated).orderId.symm))
  rw [heq] at hterms
  exact hterms

end Rows

end Memory

end TradingPlatform.Storage
