import TradingPlatform.Foundation.Runs
import TradingPlatform.Foundation.Sections
import TradingPlatform.Storage.PostgresMutations

/-! # Mutations at the same time

Requests that create fills, create runs and start runs, their statements in any
order. No constraint of the tables bounds the fills of an order, tells their trade
identifiers apart or counts the runs of a bot, so that what a request has selected
may be outdated when it inserts. Where requests for one order and requests for one
bot take turns, what they check still holds when they act on it.
-/

namespace TradingPlatform.Storage

open Programs Tables

/-- A request whose statements may be interleaved with those of others. Trade
identifiers are read without blanks at their ends. -/
inductive ConcurrentRequest where
  | createFill (orderId : Option String) (new : NewFill)
      (stripped : ∀ id ∈ new.exchangeTradeId, Text.strip id = id)
  | createStrategyRun (botId : Option String) (strategyName mode : String)
  | startStrategyRun (runId : Option String)

/-- What requests take turns on: an order, or a bot. Other requests are by themselves. -/
inductive SectionKey where
  | order (orderId : String)
  | bot (botId : String)
  | start (client : ℕ) (runId : String)
  | none (client : ℕ)
deriving DecidableEq

namespace ConcurrentRequest

def program (ctx : DecimalContext) : ConcurrentRequest → Mutation
  | createFill orderId new _ => Postgres.createFill ctx orderId new
  | createStrategyRun botId strategyName mode =>
      Postgres.createStrategyRun botId strategyName mode
  | startStrategyRun runId => Postgres.startStrategyRun runId

def key (client : ℕ) : ConcurrentRequest → SectionKey
  | createFill (some orderId) _ _ => .order orderId
  | createStrategyRun (some botId) _ _ => .bot botId
  | startStrategyRun (some runId) => .start client runId
  | createFill none _ _ | createStrategyRun none _ _ | startStrategyRun none => .none client

end ConcurrentRequest

section Safety

/-- Fills do not exceed their order, differ in their trade identifiers, and no bot has
two runs that are created or running. -/
structure SafeTables (db : Database) : Prop where
  fills_le : ∀ order ∈ db.orders.rows,
    ((db.fillsOf order.id).map (·.fillQty.value)).sum ≤ order.quantity.value
  trade_ids : ∀ orderId,
    ((db.fillsOf orderId).filterMap fun fill => fill.exchangeTradeId.map Varchar.text).Nodup
  active_runs : ∀ botId, (db.activeRuns botId).length ≤ 1

/-- What is seen of the tables under a key: the quantity of an order with the trade
identifiers and quantities of its fills, the active runs of a bot, or whether a run
has ended. -/
structure View where
  quantity : Option ℤ := none
  fills : List (Option String × ℤ) := []
  active : List String := []
  ended : Bool := false

namespace View

def filled (v : View) : ℤ := (v.fills.map Prod.snd).sum

def tradeIds (v : View) : List String := v.fills.filterMap Prod.fst

structure Safe (v : View) : Prop where
  filled_le : ∀ quantity ∈ v.quantity, v.filled ≤ quantity
  tradeIds_nodup : v.tradeIds.Nodup
  active_le : v.active.length ≤ 1

end View

def Database.view (key : SectionKey) (db : Database) : View :=
  match key with
  | .order orderId =>
      { quantity := (db.orders.find? orderId).map (·.quantity.units)
        fills := (db.fillsOf orderId).map fun fill =>
          (fill.exchangeTradeId.map Varchar.text, fill.fillQty.units) }
  | .bot botId => { active := (db.activeRuns botId).map (·.id) }
  | .start _ runId =>
      { ended := db.strategyRuns.rows.any fun run => run.id = runId ∧ ¬ run.status.active }
  | .none _ => {}

theorem filled_view_order {db : Database} {orderId : String} :
    (db.view (.order orderId)).filled = db.filledUnits orderId := by
  unfold View.filled Database.view Database.filledUnits
  simp [Function.comp_def]

theorem tradeIds_view_order {db : Database} {orderId : String} :
    (db.view (.order orderId)).tradeIds =
      (db.fillsOf orderId).filterMap fun fill => fill.exchangeTradeId.map Varchar.text := by
  unfold View.tradeIds Database.view
  rw [List.filterMap_map]
  rfl

/-- The fills of an order do not exceed it exactly when their units do not. -/
theorem sum_fillQty_le_iff {db : Database} {order : OrderRow} :
    ((db.fillsOf order.id).map (·.fillQty.value)).sum ≤ order.quantity.value ↔
      db.filledUnits order.id ≤ order.quantity.units := by
  have hsum : ((db.fillsOf order.id).map (·.fillQty.value)).sum =
      (db.filledUnits order.id : ℚ) / 10 ^ 18 := by
    have hunits := Numeric.sum_value ((db.fillsOf order.id).map (·.fillQty))
    simpa [Database.filledUnits, Function.comp_def] using hunits
  rw [hsum, Numeric.value, div_le_div_iff_of_pos_right (by positivity), Int.cast_le]

/-- The tables are safe when every view of them is. -/
theorem safeTables_iff {db : Database} : SafeTables db ↔ ∀ key, (db.view key).Safe := by
  constructor
  · intro hsafe key
    cases key with
    | order orderId =>
        refine ⟨fun quantity hquantity => ?_, ?_, Nat.zero_le 1⟩
        · obtain ⟨order, horder, rfl⟩ := Option.map_eq_some_iff.mp hquantity
          obtain ⟨hmem, rfl⟩ := Table.mem_of_find? horder
          rw [filled_view_order]
          exact sum_fillQty_le_iff.mp (hsafe.fills_le order hmem)
        · rw [tradeIds_view_order]
          exact hsafe.trade_ids orderId
    | bot botId =>
        refine ⟨nofun, List.nodup_nil, ?_⟩
        simpa [Database.view] using hsafe.active_runs botId
    | start client runId => exact ⟨nofun, List.nodup_nil, Nat.zero_le 1⟩
    | none client => exact ⟨nofun, List.nodup_nil, Nat.zero_le 1⟩
  · intro hviews
    refine ⟨fun order horder => ?_, fun orderId => ?_, fun botId => ?_⟩
    · have hfind := Table.find?_eq_some_iff.mpr ⟨horder, rfl⟩
      have hfilled := (hviews (.order order.id)).filled_le order.quantity.units
        (Option.map_eq_some_iff.mpr ⟨order, hfind, rfl⟩)
      rw [filled_view_order] at hfilled
      exact sum_fillQty_le_iff.mpr hfilled
    · rw [← tradeIds_view_order]
      exact (hviews (.order orderId)).tradeIds_nodup
    · simpa [Database.view] using (hviews (.bot botId)).active_le

end Safety

section Contracts

variable (host : LiteralReader) (ctx : DecimalContext)

/-- The units that are kept of the quantity of a fill. -/
def keptUnits (new : NewFill) : Option ℤ :=
  (numericOf? host new.fillQty : Option (Numeric 36 18)).map Numeric.units

/-- There is room for the fill, and its trade identifier is not taken. -/
structure View.Fits (v : View) (new : NewFill) : Prop where
  room : ∀ units ∈ keptUnits host new, ∀ quantity ∈ v.quantity, v.filled + units ≤ quantity
  free : ∀ id ∈ new.exchangeTradeId, id ∉ v.tradeIds

/-- A sum that exceeds the requested quantity does so after it is rounded. -/
def ShowsExcess (totals : OrderTotals) (new : NewFill) : Prop :=
  totals.requestedQty < totals.currentFilledQty + new.fillQty.value →
    totals.requestedQty < ctx.add totals.currentFilledQty new.fillQty.value

/-- The statement changes no view of the tables. -/
def Statement.ChangesNoView : Statement → Prop
  | .countBots _ | .settleIntent _ | .readFill _ | .readRun _ | .selectRunningRun _ _ => True
  | _ => False

/-- What a request under a key relies on and does. -/
def requestContract (key : SectionKey) : Contract Statement Statement.Reply View where
  permits v op :=
    match op with
    | .selectOrder orderId _ | .selectTrade orderId _ => key = .order orderId
    | .insertFill orderId new _ => key = .order orderId ∧ v.Fits host new ∧
        ∀ id ∈ new.exchangeTradeId, Text.strip id = id
    | .selectActiveRun botId => key = .bot botId
    | .insertRun botId _ _ => key = .bot botId ∧ v.active = []
    | .selectRun runId => ∃ client, key = .start client runId
    | .startRun runId => (∃ client, key = .start client runId) ∧ v.ended = false
    | op => op.ChangesNoView
  answers v op :=
    match op with
    | .selectOrder _ new => fun (reply : Option OrderTotals) => ∀ totals ∈ reply,
        (∃ quantity ∈ v.quantity, totals.requestedQty = quantity / 10 ^ 18) ∧
          totals.currentFilledQty = v.filled / 10 ^ 18 ∧ ShowsExcess ctx totals new
    | .selectTrade _ id => fun (reply : Option String) => reply = none → id ∉ v.tradeIds
    | .selectActiveRun _ => fun (reply : Option String) => reply = none → v.active = []
    | .selectRun _ => fun (reply : Option (String × StrategyStatus)) =>
        ∀ found ∈ reply, found.2 = .pending → v.ended = false
    | _ => fun _ => True
  advance v op :=
    match op with
    | .insertFill _ new _ => fun (reply : Except String String) =>
        match reply with
        | .ok _ => { v with fills := v.fills ++
            [(new.exchangeTradeId, (keptUnits host new).getD 0)] }
        | .error _ => v
    | .insertRun _ _ _ => fun (reply : Except String String) =>
        match reply with
        | .ok id => { v with active := v.active ++ [id] }
        | .error _ => v
    | _ => fun _ => v

/-- Whatever the request is answered, it keeps to the contract. -/
abbrev KeepsRequest (key : SectionKey) (request : Mutation) (v : View) : Prop :=
  request.Keeps (requestContract host ctx key) (fun _ _ => True) v

variable {host ctx} {key : SectionKey} {v : View} {orderId : String} {new : NewFill}

theorem keeps_answer {outcome : StoreOutcome} {rowId : Option String} :
    KeepsRequest host ctx key (Mutation.answer outcome rowId) v :=
  Program.keeps_done.mpr trivial

/-- A statement that changes no view of the tables is permitted to every request. -/
theorem keeps_send {op : Statement} {next : op.Reply → Mutation} (hop : op.ChangesNoView)
    (hnext : ∀ reply, KeepsRequest host ctx key (next reply) v) :
    KeepsRequest host ctx key (Mutation.send op next) v := by
  refine Program.keeps_perform.mpr ⟨?_, fun reply _ => ?_⟩
  · cases op <;> first | exact hop | exact hop.elim
  · have hsame : (requestContract host ctx key).advance v op reply = v := by
      cases op <;> first | rfl | exact hop.elim
    rw [hsame]
    exact hnext reply

/-- What is left of the room is not exceeded by what is kept of a fill that fits. -/
theorem room_of_sum_le {requested : ℤ}
    (hle : (v.filled : ℚ) / 10 ^ 18 + new.fillQty.value ≤ requested / 10 ^ 18) {units : ℤ}
    (hunits : units ∈ keptUnits host new) : v.filled + units ≤ requested := by
  obtain ⟨kept, hkept, rfl⟩ := Option.map_eq_some_iff.mp hunits
  obtain ⟨number, hnumber, hstored⟩ := Option.bind_eq_some_iff.mp hkept
  rw [host.numeric_eq _ _ hnumber] at hstored
  have hbound : new.fillQty.value * 10 ^ 18 ≤ ((requested - v.filled : ℤ) : ℚ) := by
    have hscaled := mul_le_mul_of_nonneg_right hle (by positivity : (0 : ℚ) ≤ 10 ^ 18)
    rw [add_mul, div_mul_cancel₀ _ (by positivity), div_mul_cancel₀ _ (by positivity)] at hscaled
    push_cast
    linarith
  have hkeptUnits := Numeric.units_le_of_ofRat? hstored hbound
  omega

theorem keeps_insertFillRow {totals : OrderTotals}
    (hstripped : ∀ id ∈ new.exchangeTradeId, Text.strip id = id)
    (hrequested : ∃ quantity ∈ v.quantity, totals.requestedQty = quantity / 10 ^ 18)
    (hcurrent : totals.currentFilledQty = v.filled / 10 ^ 18)
    (hshows : ShowsExcess ctx totals new) (hfree : ∀ id ∈ new.exchangeTradeId, id ∉ v.tradeIds) :
    KeepsRequest host ctx (.order orderId) (Postgres.insertFillRow ctx orderId new totals) v := by
  unfold Postgres.insertFillRow
  dsimp only
  split
  · exact keeps_answer
  · next hfits =>
      refine Program.keeps_perform.mpr ⟨⟨rfl, ⟨?_, hfree⟩, hstripped⟩, fun reply _ => ?_⟩
      · obtain ⟨quantity, hquantity, hsame⟩ := hrequested
        intro units hunits other hother
        obtain rfl := Option.mem_unique hquantity hother
        refine room_of_sum_le ?_ hunits
        rw [← hsame, ← hcurrent]
        exact not_lt.mp fun hlt => hfits (hshows hlt)
      · cases reply with
        | error text => exact Program.keeps_done.mpr trivial
        | ok id => exact keeps_send trivial fun _ => keeps_send trivial fun _ => keeps_answer

theorem keeps_createFill (hstripped : ∀ id ∈ new.exchangeTradeId, Text.strip id = id) :
    KeepsRequest host ctx (.order orderId) (Postgres.createFill ctx (some orderId) new) v := by
  unfold Postgres.createFill
  refine Program.keeps_perform.mpr ⟨rfl, fun reply hanswers => ?_⟩
  cases reply with
  | none => exact keeps_answer
  | some totals =>
      obtain ⟨hrequested, hcurrent, hshows⟩ := hanswers totals rfl
      dsimp only
      split_ifs with hterminal
      · exact keeps_answer
      · split
        · next hnone =>
            refine keeps_insertFillRow hstripped hrequested hcurrent hshows fun id hid => ?_
            rw [hnone] at hid
            cases hid
        · next id hsome =>
            refine Program.keeps_perform.mpr ⟨rfl, fun existing hfree => ?_⟩
            cases existing with
            | some fillId => exact keeps_send trivial fun _ => keeps_answer
            | none =>
                refine keeps_insertFillRow hstripped hrequested hcurrent hshows
                  fun other hother => ?_
                rw [hsome, Option.mem_some_iff] at hother
                exact hother ▸ hfree rfl

theorem keeps_createStrategyRun {botId strategyName mode : String} :
    KeepsRequest host ctx (.bot botId)
      (Postgres.createStrategyRun (some botId) strategyName mode) v := by
  unfold Postgres.createStrategyRun
  refine keeps_send trivial fun found => ?_
  split_ifs
  · refine Program.keeps_perform.mpr ⟨rfl, fun existing hnone => ?_⟩
    cases existing with
    | some runId => exact keeps_send trivial fun _ => keeps_answer
    | none =>
        refine Program.keeps_perform.mpr ⟨⟨rfl, hnone rfl⟩, fun reply _ => ?_⟩
        cases reply with
        | error text => exact Program.keeps_done.mpr trivial
        | ok id => exact keeps_send trivial fun _ => keeps_answer
  · exact keeps_answer

theorem keeps_startStrategyRun {client : ℕ} {runId : String} :
    KeepsRequest host ctx (.start client runId) (Postgres.startStrategyRun (some runId)) v := by
  unfold Postgres.startStrategyRun
  refine Program.keeps_perform.mpr ⟨⟨client, rfl⟩, fun reply hanswers => ?_⟩
  cases reply with
  | none => exact keeps_answer
  | some found =>
      obtain ⟨botId, status⟩ := found
      dsimp only
      split_ifs with hpending
      · exact keeps_send trivial fun _ => keeps_answer
      · refine keeps_send trivial fun running => ?_
        cases running with
        | some other => exact keeps_send trivial fun _ => keeps_answer
        | none =>
            have hgoes := hanswers (botId, status) rfl (not_not.mp hpending)
            refine Program.keeps_perform.mpr ⟨⟨⟨client, rfl⟩, hgoes⟩, fun _ _ => ?_⟩
            exact keeps_send trivial fun _ => keeps_answer

/-- Every request keeps to the contract of its key, whatever is there when it begins. -/
theorem keeps_program (request : ConcurrentRequest) (client : ℕ) (v : View) :
    KeepsRequest host ctx (request.key client) (request.program ctx) v := by
  cases request with
  | createFill orderId new stripped =>
      cases orderId with
      | none => exact keeps_answer
      | some orderId => exact keeps_createFill stripped
  | createStrategyRun botId strategyName mode =>
      cases botId with
      | none => exact keeps_answer
      | some botId => exact keeps_createStrategyRun
  | startStrategyRun runId =>
      cases runId with
      | none => exact keeps_answer
      | some runId => exact keeps_startStrategyRun

/-- What a request is permitted to do leaves a view safe. -/
theorem safe_advance {op : Statement} {reply : op.Reply}
    (hpermits : (requestContract host ctx key).permits v op) (hsafe : v.Safe) :
    ((requestContract host ctx key).advance v op reply).Safe := by
  cases op with
  | insertFill orderId new nextStatus =>
      obtain ⟨-, ⟨hroom, hfree⟩, -⟩ := hpermits
      cases reply with
      | error text => exact hsafe
      | ok id =>
          refine ⟨fun quantity hquantity => ?_, ?_, hsafe.active_le⟩
          · have hfilled := hsafe.filled_le quantity hquantity
            cases hkept : keptUnits host new with
            | none => simpa [requestContract, View.filled, hkept] using hfilled
            | some units =>
                simpa [requestContract, View.filled, hkept] using
                  hroom units hkept quantity hquantity
          · cases hid : new.exchangeTradeId with
            | none => simpa [requestContract, View.tradeIds, hid] using hsafe.tradeIds_nodup
            | some tradeId =>
                have hnew := List.Nodup.concat (hfree tradeId hid) hsafe.tradeIds_nodup
                simpa [requestContract, View.tradeIds, hid] using hnew
  | insertRun botId strategyName mode =>
      obtain ⟨-, hnone⟩ := hpermits
      cases reply with
      | error text => exact hsafe
      | ok id => exact ⟨hsafe.filled_le, hsafe.tradeIds_nodup, by simp [requestContract, hnone]⟩
  | _ => exact hsafe

end Contracts

section Execution

variable {host : LiteralReader} {ctx : DecimalContext} {moment : Moment} {key : SectionKey}
  {db after : Database} {orderId botId runId : String} {new : NewFill}

/-- What is inserted for a fill keeps its trade identifier. -/
theorem tradeId_of_ofNew? {row : FillRow} (hrow : FillRow.ofNew? host moment orderId new = some row)
    (hstripped : ∀ id ∈ new.exchangeTradeId, Text.strip id = id) :
    row.orderId = orderId ∧ row.exchangeTradeId.map Varchar.text = new.exchangeTradeId ∧
      keptUnits host new = some row.fillQty.units := by
  unfold FillRow.ofNew? at hrow
  obtain ⟨tradeId, htradeId, hrow⟩ := Option.bind_eq_some_iff.mp hrow
  obtain ⟨fillPrice, -, hrow⟩ := Option.bind_eq_some_iff.mp hrow
  obtain ⟨fillQty, hfillQty, hrow⟩ := Option.bind_eq_some_iff.mp hrow
  obtain ⟨feeAsset, -, hrow⟩ := Option.bind_eq_some_iff.mp hrow
  obtain ⟨feeAmount, -, hrow⟩ := Option.bind_eq_some_iff.mp hrow
  obtain ⟨filledAt, -, hrow⟩ := Option.bind_eq_some_iff.mp hrow
  rw [← Option.some.inj hrow]
  refine ⟨rfl, ?_, ?_⟩
  · cases hid : new.exchangeTradeId with
    | none =>
        rw [hid] at htradeId
        rw [← Option.some.inj htradeId]
        rfl
    | some id =>
        rw [hid] at htradeId
        obtain ⟨kept, hkept, rfl⟩ := Option.map_eq_some_iff.mp htradeId
        have hlast := Text.getLast?_ne_of_strip (hstripped id hid) (c := ' ') (by decide)
        rw [Option.map_some, Varchar.text_of_ofText? hlast hkept]
  · unfold keptUnits
    rw [hfillQty]
    rfl

/-- The inserted row, and what it leaves alone. -/
theorem exists_row_of_insertFill {nextStatus : OrderStatus}
    (hinsert : db.insertFill host moment orderId new nextStatus = some after) :
    ∃ row, FillRow.ofNew? host moment orderId new = some row ∧
      after.tradeFills.rows = db.tradeFills.rows ++ [row] ∧
      after.orders = (db.setOrderStatus moment orderId nextStatus).orders ∧
      after.strategyRuns = db.strategyRuns := by
  unfold Database.insertFill at hinsert
  obtain ⟨row, hrow, hinsert⟩ := Option.bind_eq_some_iff.mp hinsert
  split_ifs at hinsert
  obtain ⟨fills, hfills, hafter⟩ := Option.bind_eq_some_iff.mp hinsert
  rw [← Option.some.inj hafter]
  exact ⟨row, hrow, Table.rows_of_insert? hfills, rfl, rfl⟩

theorem exists_row_of_insertRun {strategyName mode : String}
    (hinsert : db.insertRun moment botId strategyName mode = some after) :
    ∃ row : RunRow, row.id = moment.uuid ∧ row.botId = botId ∧ row.status = .pending ∧
      after.strategyRuns.rows = db.strategyRuns.rows ++ [row] ∧ after.orders = db.orders ∧
      after.tradeFills = db.tradeFills := by
  unfold Database.insertRun at hinsert
  obtain ⟨row, hrow, hinsert⟩ := Option.bind_eq_some_iff.mp hinsert
  split_ifs at hinsert
  obtain ⟨runs, hruns, hafter⟩ := Option.bind_eq_some_iff.mp hinsert
  rw [← Option.some.inj hafter]
  unfold RunRow.ofNew? at hrow
  obtain ⟨_, -, hrow⟩ := Option.bind_eq_some_iff.mp hrow
  obtain ⟨_, -, hrow⟩ := Option.bind_eq_some_iff.mp hrow
  rw [← Option.some.inj hrow] at hruns
  exact ⟨_, rfl, rfl, rfl, Table.rows_of_insert? hruns, rfl, rfl⟩

/-- Quantities of orders outlast a change of status. -/
theorem quantity_setOrderStatus {other : String} {status : OrderStatus} :
    ((db.setOrderStatus moment orderId status).orders.find? other).map (·.quantity.units) =
      (db.orders.find? other).map (·.quantity.units) := by
  unfold Database.setOrderStatus
  rw [Table.find?_update, Option.map_map]
  congr 1
  funext row
  unfold Function.comp OrderRow.withStatus
  split_ifs <;> rfl

/-- A new fill is seen at its order only. -/
theorem view_insertFill {nextStatus : OrderStatus}
    (hstripped : ∀ id ∈ new.exchangeTradeId, Text.strip id = id)
    (hinsert : db.insertFill host moment orderId new nextStatus = some after) :
    after.view (.order orderId) = { db.view (.order orderId) with
        fills := (db.view (.order orderId)).fills ++
          [(new.exchangeTradeId, (keptUnits host new).getD 0)] } ∧
      ∀ other ≠ .order orderId, after.view other = db.view other := by
  obtain ⟨row, hrow, hfills, horders, hruns⟩ := exists_row_of_insertFill hinsert
  obtain ⟨horder, htradeId, hunits⟩ := tradeId_of_ofNew? hrow hstripped
  have hquantity : ∀ other, (after.orders.find? other).map (·.quantity.units) =
      (db.orders.find? other).map (·.quantity.units) := by
    intro other
    rw [horders, quantity_setOrderStatus]
  have hfillsOf : ∀ other, after.fillsOf other =
      db.fillsOf other ++ if orderId = other then [row] else [] := by
    intro other
    unfold Database.fillsOf
    rw [hfills, List.filter_append, List.filter_singleton, horder]
    by_cases hsame : orderId = other <;> simp [hsame]
  constructor
  · unfold Database.view
    dsimp only
    rw [hquantity, hfillsOf, if_pos rfl, List.map_append, List.map_singleton, htradeId, hunits]
    rfl
  · intro other hother
    cases other with
    | order other =>
        have hne : orderId ≠ other := fun heq => hother (heq ▸ rfl)
        unfold Database.view
        dsimp only
        rw [hquantity, hfillsOf, if_neg hne, List.append_nil]
    | bot botId =>
        unfold Database.view Database.activeRuns
        rw [hruns]
    | start client runId =>
        unfold Database.view
        rw [hruns]
    | none client => rfl

/-- A new run is seen at its bot only. -/
theorem view_insertRun {strategyName mode : String}
    (hinsert : db.insertRun moment botId strategyName mode = some after) :
    after.view (.bot botId) = { db.view (.bot botId) with
        active := (db.view (.bot botId)).active ++ [moment.uuid] } ∧
      ∀ other ≠ .bot botId, after.view other = db.view other := by
  obtain ⟨row, hid, hbot, hstatus, hruns, horders, hfills⟩ := exists_row_of_insertRun hinsert
  have hactive : ∀ other, after.activeRuns other =
      db.activeRuns other ++ if botId = other then [row] else [] := by
    intro other
    unfold Database.activeRuns
    rw [hruns, List.filter_append, List.filter_singleton, hbot, hstatus]
    by_cases hsame : botId = other <;> simp [hsame, StrategyStatus.active]
  constructor
  · unfold Database.view
    dsimp only
    rw [hactive, if_pos rfl, List.map_append, List.map_singleton, hid]
  · intro other hother
    cases other with
    | order orderId =>
        unfold Database.view Database.fillsOf
        rw [horders, hfills]
    | bot other =>
        have hne : botId ≠ other := fun heq => hother (heq ▸ rfl)
        unfold Database.view
        dsimp only
        rw [hactive, if_neg hne, List.append_nil]
    | start client runId =>
        unfold Database.view
        dsimp only
        rw [hruns, List.any_append]
        simp [hstatus, StrategyStatus.active]
    | none client => rfl

/-- Starting a run that has not ended is not seen. -/
theorem view_startRun {client : ℕ} (hopen : (db.view (.start client runId)).ended = false) :
    (db.startRun runId).view key = db.view key := by
  have hactive : ∀ run ∈ db.strategyRuns.rows, run.id = runId → run.status.active = true := by
    intro run hrun hid
    have hnot := List.any_eq_false.mp hopen run hrun
    simpa [hid] using hnot
  have hstarted : ∀ run ∈ db.strategyRuns.rows,
      (run.started runId).status.active = run.status.active := by
    intro run hrun
    unfold RunRow.started
    split_ifs with hid
    · rw [hactive run hrun hid]
      rfl
    · rfl
  have hbot : ∀ run : RunRow, (run.started runId).botId = run.botId := by
    intro run
    unfold RunRow.started
    split_ifs <;> rfl
  cases key with
  | bot botId =>
      unfold Database.view Database.activeRuns Database.startRun
      dsimp only
      rw [Table.rows_update, List.filter_map, List.map_map]
      have hfilter : db.strategyRuns.rows.filter
          ((fun run => decide (run.botId = botId ∧ run.status.active)) ∘ RunRow.started runId) =
          db.strategyRuns.rows.filter fun run =>
            decide (run.botId = botId ∧ run.status.active) := by
        refine List.filter_congr fun run hrun => ?_
        rw [Function.comp_apply, hstarted run hrun, hbot]
      rw [hfilter]
      simp [Function.comp_def]
  | start other otherRun =>
      unfold Database.view Database.startRun
      dsimp only
      rw [Table.rows_update, List.any_map]
      congr 1
      rw [Bool.eq_iff_iff, List.any_eq_true, List.any_eq_true]
      refine exists_congr fun run => and_congr_right fun hrun => ?_
      simp [hstarted run hrun]
  | order orderId => rfl
  | none other => rfl

theorem view_settleIntent : ((db.exec host moment (.settleIntent orderId)).2).view key =
    db.view key := by
  cases key <;> rfl

theorem view_of_changesNoView {op : Statement} (hop : op.ChangesNoView) :
    (Database.exec host moment op db).2.view key = db.view key := by
  cases op with
  | settleIntent orderId => cases key <;> rfl
  | countBots | readFill | readRun | selectRunningRun => rfl
  | _ => exact hop.elim

/-- What an order is read for is in its view. -/
theorem answers_selectOrder
    (hshows : ∀ order ∈ db.orders.find? orderId, ShowsExcess ctx (db.orderTotals order) new) :
    (requestContract host ctx key).answers (db.view (.order orderId)) (.selectOrder orderId new)
      (Database.exec host moment (.selectOrder orderId new) db).1 := by
  intro totals htotals
  obtain ⟨order, horder, rfl⟩ := Option.map_eq_some_iff.mp htotals
  obtain ⟨-, rfl⟩ := Table.mem_of_find? horder
  refine ⟨⟨order.quantity.units, ?_, rfl⟩, ?_, hshows order horder⟩
  · exact Option.map_eq_some_iff.mpr ⟨order, horder, rfl⟩
  · rw [filled_view_order]
    rfl

theorem answers_selectTrade {tradeId : String} :
    (requestContract host ctx key).answers (db.view (.order orderId)) (.selectTrade orderId tradeId)
      (Database.exec host moment (.selectTrade orderId tradeId) db).1 := by
  intro hnone hmem
  rw [tradeIds_view_order, List.mem_filterMap] at hmem
  obtain ⟨fill, hfill, htradeId⟩ := hmem
  have hnot := List.find?_eq_none.mp (Option.map_eq_none_iff.mp hnone) fill hfill
  exact hnot (by simpa using htradeId)

theorem answers_selectActiveRun :
    (requestContract host ctx key).answers (db.view (.bot botId)) (.selectActiveRun botId)
      (Database.exec host moment (.selectActiveRun botId) db).1 := by
  intro hnone
  have hnil := List.getLast?_eq_none_iff.mp (Option.map_eq_none_iff.mp hnone)
  simp [Database.view, hnil]

/-- A run that is pending has not ended. -/
theorem answers_selectRun {client : ℕ} :
    (requestContract host ctx key).answers (db.view (.start client runId)) (.selectRun runId)
      (Database.exec host moment (.selectRun runId) db).1 := by
  intro found hfound hpending
  obtain ⟨run, hrun, rfl⟩ := Option.map_eq_some_iff.mp hfound
  refine List.any_eq_false.mpr fun other hother => ?_
  rw [decide_eq_true_eq]
  rintro ⟨hid, hended⟩
  have hsame := (Table.find?_eq_some_iff.mpr ⟨hother, hid⟩).symm.trans hrun
  rw [Option.some.inj hsame, show run.status = .pending from hpending] at hended
  exact hended rfl

/-- Statements are answered as the contract has it, once sums show what they exceed. -/
theorem exec_answers {op : Statement}
    (hpermits : (requestContract host ctx key).permits (db.view key) op)
    (hshows : ∀ orderId new, op = .selectOrder orderId new →
      ∀ order ∈ db.orders.find? orderId, ShowsExcess ctx (db.orderTotals order) new) :
    (requestContract host ctx key).answers (db.view key) op (Database.exec host moment op db).1 ∧
      (Database.exec host moment op db).2.view key =
        (requestContract host ctx key).advance (db.view key) op
          (Database.exec host moment op db).1 := by
  cases op with
  | selectOrder orderId new =>
      obtain rfl := hpermits
      exact ⟨answers_selectOrder (hshows _ _ rfl), rfl⟩
  | selectTrade orderId tradeId =>
      obtain rfl := hpermits
      exact ⟨answers_selectTrade, rfl⟩
  | insertFill orderId new nextStatus =>
      obtain ⟨rfl, -, hstripped⟩ := hpermits
      refine ⟨trivial, ?_⟩
      cases hinsert : db.insertFill host moment orderId new nextStatus with
      | none => simp [Database.exec, Database.inserted, requestContract, hinsert]
      | some after =>
          simp only [Database.exec, Database.inserted, requestContract, hinsert]
          exact (view_insertFill hstripped hinsert).1
  | selectActiveRun botId =>
      obtain rfl := hpermits
      exact ⟨answers_selectActiveRun, rfl⟩
  | insertRun botId strategyName mode =>
      obtain ⟨rfl, -⟩ := hpermits
      refine ⟨trivial, ?_⟩
      cases hinsert : db.insertRun moment botId strategyName mode with
      | none => simp [Database.exec, Database.inserted, requestContract, hinsert]
      | some after =>
          simp only [Database.exec, Database.inserted, requestContract, hinsert]
          exact (view_insertRun hinsert).1
  | selectRun runId =>
      obtain ⟨client, rfl⟩ := hpermits
      exact ⟨answers_selectRun, rfl⟩
  | startRun runId =>
      obtain ⟨⟨client, rfl⟩, hopen⟩ := hpermits
      exact ⟨trivial, view_startRun hopen⟩
  | settleIntent orderId => exact ⟨trivial, view_settleIntent⟩
  | countBots | readFill | readRun | selectRunningRun => exact ⟨trivial, rfl⟩
  | _ => exact hpermits.elim

/-- What is done under one key is not seen under another. -/
theorem exec_frame {op : Statement} {other : SectionKey}
    (hpermits : (requestContract host ctx key).permits (db.view key) op) (hother : other ≠ key) :
    (Database.exec host moment op db).2.view other = db.view other := by
  cases op with
  | insertFill orderId new nextStatus =>
      obtain ⟨rfl, -, hstripped⟩ := hpermits
      cases hinsert : db.insertFill host moment orderId new nextStatus with
      | none => simp [Database.exec, Database.inserted, hinsert]
      | some after =>
          simp only [Database.exec, Database.inserted, hinsert]
          exact (view_insertFill hstripped hinsert).2 other hother
  | insertRun botId strategyName mode =>
      obtain ⟨rfl, -⟩ := hpermits
      cases hinsert : db.insertRun moment botId strategyName mode with
      | none => simp [Database.exec, Database.inserted, hinsert]
      | some after =>
          simp only [Database.exec, Database.inserted, hinsert]
          exact (view_insertRun hinsert).2 other hother
  | startRun runId =>
      obtain ⟨⟨client, rfl⟩, hopen⟩ := hpermits
      exact view_startRun hopen
  | settleIntent orderId => exact view_settleIntent
  | selectOrder | selectTrade | selectActiveRun | selectRun => rfl
  | countBots | readFill | readRun | selectRunningRun => rfl
  | _ => exact hpermits.elim

end Execution

section Interleavings

/-- Requests under way on shared tables. -/
abbrev RequestSystem :=
  Sections Database Statement Statement.Reply (Except String MutationAnswer)

variable (host : LiteralReader) (ctx : DecimalContext) (requests : ℕ → ConcurrentRequest)

def RequestSystem.start (db : Database) : RequestSystem :=
  ⟨⟨db, fun client => (requests client).program ctx⟩, []⟩

/-- A request sends its next statement. -/
def RequestSystem.serve (s : RequestSystem) (step : ℕ × Moment) : RequestSystem :=
  s.perform (Database.exec host step.2) step.1

def requestKey (client : ℕ) : SectionKey := (requests client).key client

/-- The request whose turn it is has its order or its bot for itself until it has
inserted, and the sum it is going to compare is not rounded down to what is requested. -/
structure TakesTurns (s : RequestSystem) (step : ℕ × Moment) : Prop where
  admits : s.Admits (requestKey requests) Statement.ChangesNoView step.1
  shows : ∀ orderId new next, s.pool.client step.1 = .perform (.selectOrder orderId new) next →
    ∀ order ∈ s.pool.state.orders.find? orderId,
      ShowsExcess ctx (s.pool.state.orderTotals order) new

/-- Every request under way is alone with its order or bot and keeps to its contract. -/
abbrev TurnsTaken (s : RequestSystem) : Prop :=
  s.Exclusive (requestKey requests) (fun client => (requests client).program ctx)
    (requestContract host ctx) Database.view (fun _ => True) View.Safe Statement.ChangesNoView

variable {host ctx requests}

theorem turnsTaken_start {db : Database} (hsafe : SafeTables db) :
    TurnsTaken host ctx requests (RequestSystem.start ctx requests db) :=
  Sections.exclusive_start (fun _ => trivial) (safeTables_iff.mp hsafe)

theorem turnsTaken_serve {s : RequestSystem} {step : ℕ × Moment}
    (hs : TurnsTaken host ctx requests s) (hstep : TakesTurns ctx requests s step) :
    TurnsTaken host ctx requests (RequestSystem.serve host s step) := by
  refine hs.perform ?_ ?_ ?_ hstep.admits ?_ ?_ ?_
  · intro v _
    exact keeps_program (requests step.1) step.1 v
  · intro v op reply hpermits _ hsafe
    exact safe_advance hpermits hsafe
  · intro db op hop
    cases op with
    | countBots | settleIntent | readFill | readRun | selectRunningRun =>
        exact ⟨(Database.exec host step.2 _ db).1, trivial, rfl⟩
    | _ => exact hop.elim
  · intro op hop key
    exact view_of_changesNoView hop
  · intro _ op next hclient hpermits
    refine exec_answers hpermits ?_
    rintro orderId new rfl
    exact hstep.shows orderId new next hclient
  · intro op hpermits key hkey
    exact exec_frame hpermits hkey

/-- In every run in which requests for one order and for one bot take turns, the tables
are safe in all the states it goes through. -/
theorem runs_safe (host : LiteralReader) (ctx : DecimalContext) (requests : ℕ → ConcurrentRequest)
    {db : Database} (hsafe : SafeTables db) {steps : List (ℕ × Moment)}
    (halong : Runs.Along (RequestSystem.serve host) (TakesTurns ctx requests)
      (RequestSystem.start ctx requests db) steps) :
    Runs.Throughout (RequestSystem.serve host) (fun s => SafeTables s.pool.state)
      (RequestSystem.start ctx requests db) steps := by
  have hturns := halong.throughout (turnsTaken_start hsafe) fun _ _ hs hstep =>
    turnsTaken_serve hs hstep
  exact hturns.mono fun s hs => safeTables_iff.mpr hs.safe

end Interleavings

section Examples

/-- Literals as the program itself reads them. -/
def plainReader : LiteralReader where
  numeric := Decimal.valueOfText?
  numeric_eq number _ hq := Option.some.inj (hq.symm.trans number.denotes)
  timestamptz text := parseIsoDatetime (.str text)
  jsonb := some

def tenUnits : Numeric 36 18 := ⟨10 * 10 ^ 18, by norm_num⟩

/-- A bot without runs, and an order of ten units without fills. -/
def oneOrder : Database :=
  { Database.empty ["bot"] with
    orders :=
      { rows := [{
          id := "order"
          orderIntentId := "intent"
          botId := "bot"
          exchangeName := ⟨"upbit", by decide, by decide⟩
          exchangeOrderId := none
          market := ⟨"KRW-XRP", by decide, by decide⟩
          side := ⟨"buy", by decide, by decide⟩
          price := none
          quantity := tenUnits
          status := .new
          updatedAt := "2024-01-01T00:00:00Z"
          rawPayload := [] }]
        nodup := List.nodup_singleton _ } }

theorem safeTables_oneOrder : SafeTables oneOrder := by
  refine ⟨fun order horder => ?_, fun orderId => List.nodup_nil, fun botId => Nat.zero_le 1⟩
  rw [List.mem_singleton.mp horder]
  exact (@sum_fillQty_le_iff oneOrder _).mpr (by decide +kernel)

/-- A fill of the whole order. -/
def wholeFill : NewFill where
  orderId := "order"
  exchangeTradeId := some "trade"
  fillPrice := Numeral.one
  fillQty := ⟨"10", 10, by decide +kernel⟩
  feeAsset := none
  feeAmount := none
  filledAt := "2024-01-01T00:00:00Z"

/-- Everybody reports the same fill. -/
def sameFill (_ : ℕ) : ConcurrentRequest :=
  .createFill (some "order") wholeFill (by decide +kernel)

/-- Everybody creates a run of the same bot. -/
def sameBot (_ : ℕ) : ConcurrentRequest := .createStrategyRun (some "bot") "arbitrage" "shadow"

/-- Two requests, statement by statement in turn. -/
def alternating : List (ℕ × Moment) :=
  [(0, ⟨"first", "2024-01-01T00:00:01Z"⟩), (1, ⟨"second", "2024-01-01T00:00:01Z"⟩),
    (0, ⟨"first", "2024-01-01T00:00:02Z"⟩), (1, ⟨"second", "2024-01-01T00:00:02Z"⟩),
    (0, ⟨"first", "2024-01-01T00:00:03Z"⟩), (1, ⟨"second", "2024-01-01T00:00:03Z"⟩)]

/-- The tables after two requests in turn. -/
def afterBoth (requests : ℕ → ConcurrentRequest) : Database :=
  (Runs.after (RequestSystem.serve plainReader)
    (RequestSystem.start DecimalContext.default requests oneOrder) alternating).pool.state

/-- The same fill is inserted twice and exceeds its order, and a bot has two runs. -/
theorem not_runs_safe :
    SafeTables oneOrder ∧ ¬ SafeTables (afterBoth sameFill) ∧ ¬ SafeTables (afterBoth sameBot) ∧
      (afterBoth sameFill).filledUnits "order" = 2 * tenUnits.units ∧
      (((afterBoth sameFill).fillsOf "order").filterMap fun fill =>
        fill.exchangeTradeId.map Tables.Varchar.text) = ["trade", "trade"] ∧
      ((afterBoth sameBot).activeRuns "bot").map (·.id) = ["first", "second"] := by
  have htrades : (((afterBoth sameFill).fillsOf "order").filterMap fun fill =>
      fill.exchangeTradeId.map Tables.Varchar.text) = ["trade", "trade"] := by
    decide +kernel
  have hruns : ((afterBoth sameBot).activeRuns "bot").map (·.id) = ["first", "second"] := by
    decide +kernel
  refine ⟨safeTables_oneOrder, fun hsafe => ?_, fun hsafe => ?_, by decide +kernel, htrades, hruns⟩
  · have hnodup := hsafe.trade_ids "order"
    rw [htrades] at hnodup
    exact absurd hnodup (by decide)
  · have hlength := congrArg List.length hruns
    rw [List.length_map] at hlength
    have hone := hsafe.active_runs "bot"
    rw [hlength] at hone
    exact absurd hone (by decide)

/-- Whether a request has come to its end. -/
def Mutation.isDone : Mutation → Bool
  | .done _ => true
  | _ => false

/-- All other requests that have begun are through. -/
def RequestSystem.othersDone (s : RequestSystem) (step : ℕ × Moment) : Bool :=
  s.begun.all fun client => client = step.1 || Mutation.isDone (s.pool.client client)

theorem takesTurns_of_othersDone {requests : ℕ → ConcurrentRequest} {s : RequestSystem}
    {step : ℕ × Moment} (hdone : s.othersDone step = true) :
    TakesTurns DecimalContext.exact requests s step := by
  refine ⟨fun _ client hbegun hne _ => ?_, fun _ _ _ _ _ _ hexcess => hexcess⟩
  have hthrough := List.all_eq_true.mp hdone client hbegun
  rw [Bool.or_eq_true, decide_eq_true_eq] at hthrough
  have hthrough := hthrough.resolve_left hne
  cases hclient : s.pool.client client with
  | done value => trivial
  | _ =>
      rw [hclient] at hthrough
      exact absurd hthrough Bool.false_ne_true

/-- Two requests, one after the other. -/
def consecutive : List (ℕ × Moment) :=
  List.replicate 5 (0, ⟨"first", "2024-01-01T00:00:01Z"⟩) ++
    List.replicate 5 (1, ⟨"second", "2024-01-01T00:00:02Z"⟩)

theorem runs_safe_consecutive :
    Runs.Throughout (RequestSystem.serve plainReader) (fun s => SafeTables s.pool.state)
      (RequestSystem.start DecimalContext.exact sameFill oneOrder) consecutive := by
  have halong : Runs.Along (RequestSystem.serve plainReader)
      (fun s step => s.othersDone step = true)
      (RequestSystem.start DecimalContext.exact sameFill oneOrder) consecutive := by
    decide +kernel
  exact runs_safe plainReader DecimalContext.exact sameFill safeTables_oneOrder
    (halong.mono fun _ _ hdone => takesTurns_of_othersDone hdone)

end Examples

end TradingPlatform.Storage
