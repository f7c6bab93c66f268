import TradingPlatform.Foundation.SubmittedNumbers
import TradingPlatform.Routes.OrderWrite

/-! # Fill accounting

An exact ledger takes the submitted quantities of an order one after another and
compares their sum with the submitted requested quantity. The store compares
rounded sums of rounded quantities: it agrees with the ledger as long as 28 digits
hold what is submitted and the sums it forms.
-/

namespace TradingPlatform.Routes

open Storage

/-- How a fill is classified. -/
inductive FillVerdict where
  | rejected
  | partiallyFilled
  | filled
deriving DecidableEq, Repr

/-- The submitted quantity of an order and of its fills, newest first. -/
structure Ledger where
  requested : ℚ
  taken : List ℚ
deriving DecidableEq

namespace Ledger

def classify (ledger : Ledger) (qty : ℚ) : FillVerdict :=
  if ledger.requested < ledger.taken.sum + qty then .rejected
  else if ledger.taken.sum + qty = ledger.requested then .filled
  else .partiallyFilled

/-- The ledger after a fill. -/
def post (ledger : Ledger) (qty : ℚ) : Ledger :=
  if ledger.classify qty = .rejected then ledger
  else { ledger with taken := qty :: ledger.taken }

/-- How fills are classified one after another. -/
def classifyAll (ledger : Ledger) : List ℚ → List FillVerdict
  | [] => []
  | qty :: rest => ledger.classify qty :: (ledger.post qty).classifyAll rest

/-- 28 digits hold the quantity and every sum on the way to the next filled one. -/
structure Holds (ledger : Ledger) (qty : ℚ) : Prop where
  quantity : FitsDigits 28 qty
  earlier : ∀ newest, newest <+: ledger.taken → FitsDigits 28 newest.sum
  next : FitsDigits 28 (ledger.taken.sum + qty)

def HoldsAll (ledger : Ledger) : List ℚ → Prop
  | [] => True
  | qty :: rest => ledger.Holds qty ∧ (ledger.post qty).HoldsAll rest

end Ledger

/-- A number that a route accepts as a quantity, with what was submitted. -/
structure Accepted (value : Json) (numeral : Numeral) (submitted : ℚ) : Prop where
  read : jsonNumberText .default value = some numeral
  denotes : value.submittedNumber = some submitted
  positive : isPositiveNumberText numeral = true

/-- How an answer of the fill route classifies its fill: a request that is not for a new
trade of an order that is there is not classified. -/
def verdict : Except RouteError Fill → Option FillVerdict
  | .ok fill => some (if fill.orderStatus = "filled" then .filled else .partiallyFilled)
  | .error error => if error = fillRefusal .invalid then some .rejected else none

section Submissions

variable (p : Platform) (orderId : String)

/-- The quantity that a request submits for a new trade of an order. -/
def submittedFill (body : Dict) (s : MemoryStore) : Option ℚ :=
  match fillRequest .default body with
  | .ok new =>
      if new.orderId = orderId ∧ s.findTrade orderId new.exchangeTradeId = none then
        (body.get "fill_qty").submittedNumber
      else none
  | .error _ => none

/-- The quantities that requests submit for an order, each with how it is answered. -/
def submissions : List Dict → MemoryStore → List (ℚ × Except RouteError Fill)
  | [], _ => []
  | body :: rest, s =>
      let response := createFillResponse p .default body s
      let later := submissions rest response.store
      match submittedFill orderId body s with
      | some qty => (qty, response.answer) :: later
      | none => later

end Submissions

section Sums

/-- A sum is not rounded where 28 digits hold every sum on the way. -/
theorem default_sum_of_fits {qtys : List ℚ}
    (hfits : ∀ newest, newest <+: qtys → FitsDigits 28 newest.sum) :
    DecimalContext.default.sum qtys = qtys.sum := by
  induction qtys using List.reverseRecOn with
  | nil => rfl
  | append_singleton earlier qty ih =>
      have hearlier := ih fun newest hnewest =>
        hfits newest (hnewest.trans (List.prefix_append _ _))
      rw [DecimalContext.sum, List.foldl_append, ← DecimalContext.sum, hearlier, List.sum_append,
        List.sum_singleton]
      have hall := hfits _ List.prefix_rfl
      rw [List.sum_append, List.sum_singleton] at hall
      exact roundSignificant_of_fitsDigits hall

end Sums

section Requests

variable {p : Platform} {s : MemoryStore} {body : Dict} {order : Order}

/-- The fill route passes on the number of an accepted quantity. -/
theorem fillRequest_accepted {new : NewFill} {submitted : ℚ}
    (hrequest : fillRequest .default body = .ok new)
    (hsubmitted : (body.get "fill_qty").submittedNumber = some submitted) :
    Accepted (body.get "fill_qty") new.fillQty submitted := by
  simp only [fillRequest, fillTerms, checkInvalid_bind_eq_ok, checkMissing, check_bind_eq_ok,
    present_bind_eq_ok] at hrequest
  obtain ⟨-, -, price, -, qty, hqty, -, hpositive, -, hnew⟩ := hrequest
  obtain rfl := Except.ok.inj hnew
  exact ⟨hqty, hsubmitted, hpositive⟩

theorem orderRequest_accepted {new : NewOrder} {submitted : ℚ}
    (hrequest : orderRequest .default body = .ok new)
    (hsubmitted : (body.get "requested_qty").submittedNumber = some submitted) :
    Accepted (body.get "requested_qty") new.requestedQty submitted := by
  simp only [orderRequest, orderTerms, checkInvalid_bind_eq_ok, checkMissing, check_bind_eq_ok,
    present_bind_eq_ok] at hrequest
  obtain ⟨-, -, qty, hqty, hpositive, -, hnew⟩ := hrequest
  obtain rfl := Except.ok.inj hnew
  exact ⟨hqty, hsubmitted, hpositive⟩

theorem Accepted.value_eq_iff {value : Json} {numeral : Numeral} {submitted : ℚ}
    (haccepted : Accepted value numeral submitted) :
    numeral.value = submitted ↔ FitsDigits 28 submitted :=
  jsonNumberText_value_eq_iff haccepted.read haccepted.denotes

/-- The account of an order that a request created. -/
theorem createOrderResponse_account (hreach : MemoryStore.Reachable p .default s)
    (hcreated : (createOrderResponse p .default body s).answer = .ok order) :
    ∃ new, orderRequest .default body = .ok new ∧
      (createOrderResponse p .default body s).store.account order.orderId =
        some ⟨new.requestedQty.value, order.status, []⟩ := by
  unfold createOrderResponse respond at hcreated ⊢
  split at hcreated
  · cases hcreated
  next new hrequest =>
    split at hcreated
    next row hrow =>
      obtain rfl := Except.ok.inj hcreated
      refine ⟨new, hrequest, ?_⟩
      dsimp only
      have hwf := hreach.wellFormed
      rcases MemoryStore.createOrder_cases p new s with ⟨intent, -, -, -, -, hcall⟩ | ⟨hnot, -⟩
      · have hafter := hwf.createOrder new
        rw [hcall] at hrow hafter ⊢
        obtain rfl := Option.some.inj hrow
        have hmem : MemoryStore.orderRow p s.serial intent new ∈
            (s.addOrder (MemoryStore.orderRow p s.serial intent new)).orders := by simp
        have hnone : (s.addOrder (MemoryStore.orderRow p s.serial intent new)).fillsOf
            (MemoryStore.orderRow p s.serial intent new).orderId = [] := hwf.fillsOf_fresh
        exact (account_of_mem hafter hmem).trans (by rw [hnone]; rfl)
      · rw [StoreAnswer.createdRow_of_ne hnot] at hrow
        cases hrow
    · cases hcreated

end Requests

section Agreement

variable {p : Platform} {s : MemoryStore} {body : Dict} {orderId : String} {ledger : Ledger}

/-- The store's account of an order is the ledger's, and closed only where it is filled up. -/
def Agrees (orderId : String) (ledger : Ledger) (s : MemoryStore) : Prop :=
  ∃ status, s.account orderId = some ⟨ledger.requested, status, ledger.taken⟩ ∧
    (status ∈ terminalOrderStatuses → ledger.taken.sum = ledger.requested)

variable (orderId s) in
/-- What a request submits that is not refused for its body. -/
theorem submittedFill_eq {new : NewFill} (hrequest : fillRequest .default body = .ok new) :
    ∃ submitted, Accepted (body.get "fill_qty") new.fillQty submitted ∧
      submittedFill orderId body s =
        if new.orderId = orderId ∧ s.findTrade orderId new.exchangeTradeId = none then
          some submitted
        else none := by
  have hread : jsonNumberText .default (body.get "fill_qty") = some new.fillQty := by
    simp only [fillRequest, fillTerms, checkInvalid_bind_eq_ok, checkMissing, check_bind_eq_ok,
      present_bind_eq_ok] at hrequest
    obtain ⟨-, -, price, -, qty, hqty, -, -, -, hnew⟩ := hrequest
    obtain rfl := Except.ok.inj hnew
    exact hqty
  obtain ⟨d, hdenotes, -, -⟩ := jsonNumberText_eq_some hread
  refine ⟨d.value, fillRequest_accepted hrequest hdenotes, ?_⟩
  rw [submittedFill, hrequest]
  dsimp only
  rw [hdenotes]

/-- A request that submits nothing for the order leaves its account as it was. -/
theorem account_createFillResponse_of_none (hnone : submittedFill orderId body s = none) :
    (createFillResponse p .default body s).store.account orderId = s.account orderId := by
  rcases respond_store (s := s) (fillRequest .default body) (MemoryStore.createFill p .default)
    fillRefusal with hsame | ⟨new, hrequest, hstore⟩
  · exact congrArg (MemoryStore.account · orderId) hsame
  · refine (congrArg (MemoryStore.account · orderId) hstore).trans ?_
    obtain ⟨submitted, -, hsubmitted⟩ := submittedFill_eq s orderId hrequest
    rw [hnone] at hsubmitted
    rcases MemoryStore.createFill_cases p .default new s with
      ⟨order, status, -, hfree, -, hcreated⟩ | ⟨-, hsame⟩
    · have hother : new.orderId ≠ orderId := by
        rintro rfl
        rw [if_pos ⟨rfl, hfree⟩] at hsubmitted
        cases hsubmitted
      have hcall := createFill_account (p := p) .default hfree
      split at hcall
      · rw [hcreated] at hcall
        cases hcall
      · rw [hcall.2 orderId, if_neg hother.symm]
    · rw [hsame]

/-- A fill of a new trade that has no status is invalid. -/
theorem createFill_eq_invalid {ctx : DecimalContext} {new : NewFill} {order : Order}
    (horder : s.findOrder new.orderId = some order)
    (hfree : s.findTrade new.orderId new.exchangeTradeId = none)
    (hstatus : MemoryStore.fillStatus ctx s order new.fillQty.value = none) :
    MemoryStore.createFill p ctx new s = (⟨.invalid, none⟩, s) := by
  simp only [MemoryStore.fillStatus, MemoryStore.findOrder_orderId horder] at hstatus
  unfold MemoryStore.createFill
  rw [horder]
  dsimp only
  split
  · rfl
  next hopen =>
    rw [if_neg hopen] at hstatus
    rw [hfree]
    dsimp only
    split at hstatus
    next hover => rw [if_pos hover]
    next => split at hstatus <;> cases hstatus

/-- The status the store gives a fill is the ledger's verdict. A closed account holds
its requested quantity, so the ledger rejects what the store does not compare. -/
theorem fillStatus_eq {order : Order} {qty : ℚ} (hagrees : Agrees orderId ledger s)
    (horder : s.findOrder orderId = some order) (hholds : ledger.Holds qty) (hpositive : 0 < qty) :
    MemoryStore.fillStatus .default s order qty =
      match ledger.classify qty with
      | .rejected => none
      | .filled => some "filled"
      | .partiallyFilled => some "partially_filled" := by
  obtain ⟨status, haccount, hclosed⟩ := hagrees
  rw [MemoryStore.account, horder, Option.map_some, Option.some.injEq, Account.mk.injEq] at haccount
  obtain ⟨hrequested, rfl, htaken⟩ := haccount
  have hnext : s.nextFilledQty .default order.orderId qty = ledger.taken.sum + qty := by
    rw [MemoryStore.nextFilledQty, MemoryStore.findOrder_orderId horder, htaken,
      default_sum_of_fits hholds.earlier]
    exact roundSignificant_of_fitsDigits hholds.next
  unfold MemoryStore.fillStatus Ledger.classify
  dsimp only
  rw [hnext, hrequested]
  by_cases hterminal : order.status ∈ terminalOrderStatuses
  · have hover : ledger.requested < ledger.taken.sum + qty := by
      rw [hclosed hterminal]
      exact lt_add_of_pos_right _ hpositive
    rw [if_pos hterminal, if_pos hover]
  · rw [if_neg hterminal]
    by_cases hover : ledger.requested < ledger.taken.sum + qty
    · rw [if_pos hover, if_pos hover]
    · rw [if_neg hover, if_neg hover]
      by_cases hfull : ledger.taken.sum + qty = ledger.requested
      · rw [if_pos hfull, if_pos hfull]
      · rw [if_neg hfull, if_neg hfull]

/-- The account of the order after the store has added a fill for it. -/
theorem account_addFill {new : NewFill} {order : Order} {status : String} {qty : ℚ}
    (hagrees : Agrees new.orderId ledger s) (horder : s.findOrder new.orderId = some order)
    (hqty : new.fillQty.value = qty) :
    (s.addFill (MemoryStore.fillRow p s.serial order new status)).account new.orderId =
      some ⟨ledger.requested, status, qty :: ledger.taken⟩ := by
  obtain ⟨old, haccount, -⟩ := hagrees
  rw [MemoryStore.account, horder, Option.map_some, Option.some.injEq, Account.mk.injEq] at haccount
  obtain ⟨hrequested, -, htaken⟩ := haccount
  have hid := MemoryStore.findOrder_orderId horder
  simp only [MemoryStore.account, findOrder_addFill, fillsOf_addFill, MemoryStore.fillRow, horder,
    Option.map_some, hid, if_true, List.map_cons, hrequested, htaken, hqty]

/-- A verdict that closes the account is the one that fills it up. -/
theorem Ledger.sum_of_filled {qty : ℚ} (hfilled : ledger.classify qty = .filled) :
    (qty :: ledger.taken).sum = ledger.requested := by
  unfold Ledger.classify at hfilled
  split_ifs at hfilled with hover hfull
  rw [List.sum_cons, add_comm]
  exact hfull

/-- A request that submits a quantity for the order is classified as the ledger does,
and its account stays the ledger's. -/
theorem classify_createFillResponse {submitted : ℚ} (hagrees : Agrees orderId ledger s)
    (hholds : ledger.Holds submitted) (hsubmitted : submittedFill orderId body s = some submitted) :
    verdict (createFillResponse p .default body s).answer = some (ledger.classify submitted) ∧
      Agrees orderId (ledger.post submitted) (createFillResponse p .default body s).store := by
  cases hrequest : fillRequest .default body with
  | error error =>
      rw [submittedFill, hrequest] at hsubmitted
      cases hsubmitted
  | ok new =>
      obtain ⟨number, haccepted, heq⟩ := submittedFill_eq s orderId hrequest
      rw [hsubmitted] at heq
      split at heq
      next hnew =>
        obtain ⟨rfl, hfree⟩ := hnew
        obtain rfl := Option.some.inj heq
        have hqty : new.fillQty.value = submitted := haccepted.value_eq_iff.mpr hholds.quantity
        have hpositive : 0 < submitted := hqty ▸ of_decide_eq_true haccepted.positive
        obtain ⟨order, horder⟩ : ∃ order, s.findOrder new.orderId = some order := by
          obtain ⟨status, haccount, -⟩ := hagrees
          obtain ⟨order, horder, -⟩ := Option.map_eq_some_iff.mp haccount
          exact ⟨order, horder⟩
        have hstatus := fillStatus_eq hagrees horder hholds hpositive
        unfold createFillResponse respond
        rw [hrequest]
        dsimp only
        by_cases hrejected : ledger.classify submitted = .rejected
        · rw [hrejected] at hstatus
          rw [createFill_eq_invalid horder hfree (hqty ▸ hstatus), Ledger.post, hrejected,
            if_pos rfl]
          change verdict (.error (fillRefusal .invalid)) = _ ∧ _
          exact ⟨by rw [verdict, if_pos rfl], hagrees⟩
        · have hsome : ∃ status, MemoryStore.fillStatus .default s order submitted = some status ∧
              (if status = "filled" then FillVerdict.filled else .partiallyFilled) =
                ledger.classify submitted ∧
              (status ∈ terminalOrderStatuses → ledger.classify submitted = .filled) := by
            rw [hstatus]
            cases hverdict : ledger.classify submitted with
            | rejected => exact absurd hverdict hrejected
            | partiallyFilled => exact ⟨_, rfl, by decide, fun hmem => absurd hmem (by decide)⟩
            | filled => exact ⟨_, rfl, by decide, fun _ => rfl⟩
          obtain ⟨status, hsome, hverdict, hfilled⟩ := hsome
          have hcreated := MemoryStore.createFill_eq_created (p := p) horder hfree
            (hqty.symm ▸ hsome)
          rw [hcreated, Ledger.post, if_neg hrejected]
          refine ⟨congrArg some hverdict, status, ?_, fun hterminal => ?_⟩
          · exact account_addFill (p := p) hagrees horder hqty
          · exact Ledger.sum_of_filled (hfilled hterminal)
      next => cases heq

/-- As long as 28 digits hold the quantities and their sums, requests for an order are
classified as its ledger does. -/
theorem classifyAll_submissions (bodies : List Dict) (hagrees : Agrees orderId ledger s)
    (hholds : ledger.HoldsAll ((submissions p orderId bodies s).map Prod.fst)) :
    (submissions p orderId bodies s).map (fun fill => verdict fill.2) =
      (ledger.classifyAll ((submissions p orderId bodies s).map Prod.fst)).map some := by
  induction bodies generalizing ledger s with
  | nil => rfl
  | cons body rest ih =>
      unfold submissions at hholds ⊢
      dsimp only at hholds ⊢
      cases hsubmitted : submittedFill orderId body s with
      | none =>
          rw [hsubmitted] at hholds
          obtain ⟨status, haccount, hclosed⟩ := hagrees
          exact ih ⟨status, (account_createFillResponse_of_none hsubmitted).trans haccount, hclosed⟩
            hholds
      | some submitted =>
          rw [hsubmitted] at hholds
          simp only [List.map_cons, Ledger.HoldsAll] at hholds
          obtain ⟨hverdict, hnext⟩ :=
            classify_createFillResponse (p := p) hagrees hholds.1 hsubmitted
          simp only [List.map_cons, Ledger.classifyAll]
          rw [hverdict, ih hnext hholds.2]

end Agreement

/-- Accepted numbers keep their value exactly where 28 digits hold them, equal ones have
one text, and that text is kept. An order that is created open classifies its fills as
its ledger does, as long as 28 digits hold what is submitted and the sums it leads to. -/
theorem fillAccounting (p : Platform) :
    (∀ {value numeral submitted}, Accepted value numeral submitted →
      (numeral.value = submitted ↔ FitsDigits 28 submitted) ∧
        jsonNumberText .default (.str numeral.text) = some numeral) ∧
    (∀ {value value' numeral numeral' submitted}, Accepted value numeral submitted →
      Accepted value' numeral' submitted → numeral.text = numeral'.text) ∧
    ∀ {s : MemoryStore} {orderBody : Dict} {order : Order} {requested : ℚ} (bodies : List Dict),
      MemoryStore.Reachable p .default s →
      (createOrderResponse p .default orderBody s).answer = .ok order →
      order.status ∉ terminalOrderStatuses →
      (orderBody.get "requested_qty").submittedNumber = some requested →
      FitsDigits 28 requested →
      let fills := submissions p order.orderId bodies
        (createOrderResponse p .default orderBody s).store
      (Ledger.mk requested []).HoldsAll (fills.map Prod.fst) →
        fills.map (fun fill => verdict fill.2) =
          ((Ledger.mk requested []).classifyAll (fills.map Prod.fst)).map some := by
  refine ⟨fun haccepted => ⟨haccepted.value_eq_iff, jsonNumberText_str_text haccepted.read⟩,
    fun haccepted haccepted' => jsonNumberText_text_congr haccepted.read haccepted'.read
      (of_decide_eq_true haccepted.positive) (haccepted.denotes.trans haccepted'.denotes.symm), ?_⟩
  intro s orderBody order requested bodies hreach hcreated hopen hrequested hfits fills hholds
  obtain ⟨new, hrequest, haccount⟩ := createOrderResponse_account hreach hcreated
  have haccepted := orderRequest_accepted hrequest hrequested
  rw [haccepted.value_eq_iff.mpr hfits] at haccount
  exact classifyAll_submissions bodies
    ⟨order.status, haccount, fun hterminal => absurd hterminal hopen⟩ hholds

section Request

/-- A request for an order of one unit. -/
def unitOrderBody : Dict :=
  [("order_intent_id", .str (Platform.counting.uuid 1)), ("exchange_name", .str "upbit"),
    ("market", .str "XRP-KRW"), ("side", .str "buy"), ("requested_qty", .str "1")]

def fillBody (orderId qty : String) : Dict :=
  [("order_id", .str orderId), ("fill_price", .str "1"), ("fill_qty", .str qty),
    ("filled_at", .str "2026-01-01T00:00:00+00:00")]

/-- The store once the order of one unit is created in it. -/
def unitOrderStore : MemoryStore :=
  (createOrderResponse .counting .default unitOrderBody
    (.withIntent .counting (Execution.oneUnitIntent "upbit" "bithumb"))).store

/-- Two halves fill an order of one unit. -/
theorem fillAccounting_halves :
    let bodies := [fillBody (Platform.counting.uuid 2) "0.5",
      fillBody (Platform.counting.uuid 2) "0.50"]
    (submissions .counting (Platform.counting.uuid 2) bodies unitOrderStore).map
      (fun fill => verdict fill.2) = [some .partiallyFilled, some .filled] := by
  intro bodies
  have hcreated : ∃ order, (createOrderResponse .counting .default unitOrderBody
      (.withIntent .counting (Execution.oneUnitIntent "upbit" "bithumb"))).answer = .ok order ∧
        order.orderId = Platform.counting.uuid 2 ∧ order.status ∉ terminalOrderStatuses := by
    have hsome : (createOrderResponse .counting .default unitOrderBody
        (.withIntent .counting (Execution.oneUnitIntent "upbit" "bithumb"))).answer.toOption.any
          (fun order => order.orderId = Platform.counting.uuid 2 ∧
            order.status ∉ terminalOrderStatuses) = true := by
      decide +kernel
    cases hanswer : (createOrderResponse .counting .default unitOrderBody
        (.withIntent .counting (Execution.oneUnitIntent "upbit" "bithumb"))).answer with
    | error error =>
        rw [hanswer] at hsome
        cases hsome
    | ok order =>
        rw [hanswer] at hsome
        exact ⟨order, rfl, of_decide_eq_true hsome⟩
  obtain ⟨order, hanswer, hid, hopen⟩ := hcreated
  have hfits : ∀ q ∈ [(0 : ℚ), 1 / 2, 1], FitsDigits 28 q := by
    intro q hmem
    rw [List.mem_cons, List.mem_cons, List.mem_singleton] at hmem
    rcases hmem with rfl | rfl | rfl
    · exact ⟨0, 0, by decide, by norm_num⟩
    · exact ⟨5, -1, by decide, by norm_num⟩
    · exact ⟨1, 0, by decide, by norm_num⟩
  have hfills : (submissions .counting order.orderId bodies unitOrderStore).map Prod.fst =
      [1 / 2, 1 / 2] := by
    rw [hid]
    decide +kernel
  have hrequested : (unitOrderBody.get "requested_qty").submittedNumber = some 1 := by
    decide +kernel
  have hrun := (fillAccounting .counting).2.2 bodies (MemoryStore.reachable_withIntent _ _ _)
    hanswer hopen hrequested (hfits 1 (by simp))
  rw [← hid]
  refine (hrun ?_).trans ?_
  · change (Ledger.mk 1 []).HoldsAll
      ((submissions .counting order.orderId bodies unitOrderStore).map Prod.fst)
    have hpost : (Ledger.mk 1 []).post (1 / 2) = ⟨1, [1 / 2]⟩ := by decide +kernel
    rw [hfills, Ledger.HoldsAll, Ledger.HoldsAll, hpost]
    refine ⟨⟨hfits _ (by simp), fun newest hnewest => ?_, hfits _ (by simp)⟩,
      ⟨hfits _ (by simp), fun newest hnewest => ?_, hfits _ (by norm_num)⟩, trivial⟩
    · rw [List.prefix_nil.mp hnewest]
      exact hfits _ (by simp)
    · rcases List.prefix_concat_iff.mp (show newest <+: [] ++ [1 / 2] from hnewest) with rfl | hnil
      · exact hfits _ (by norm_num)
      · rw [List.prefix_nil.mp hnil]
        exact hfits _ (by simp)
  · change (((Ledger.mk 1 []).classifyAll
      ((submissions .counting order.orderId bodies unitOrderStore).map Prod.fst)).map some) = _
    rw [hfills]
    decide +kernel

/-- A quantity of 29 digits loses its last one. The sum of a quantity of 28 digits and a
small one is rounded to the requested quantity, so the order is filled beyond it. -/
theorem not_exactAccounting :
    (∃ value numeral submitted, Accepted value numeral submitted ∧ numeral.value ≠ submitted) ∧
    let bodies := [fillBody (Platform.counting.uuid 2) "0.9999999999999999999999999999",
      fillBody (Platform.counting.uuid 2) "0.00000000000000000000000000012"]
    let fills := submissions .counting (Platform.counting.uuid 2) bodies unitOrderStore
    fills.map (fun fill => verdict fill.2) = [some .partiallyFilled, some .filled] ∧
      (Ledger.mk 1 []).classifyAll (fills.map Prod.fst) = [.partiallyFilled, .rejected] := by
  refine ⟨⟨.str "0.70000000000000000000000000001", ⟨"0.7", 7 / 10, by decide +kernel⟩,
    70000000000000000000000000001 / 10 ^ 29,
    ⟨by decide +kernel, by decide +kernel, by decide +kernel⟩,
    by norm_num⟩, by decide +kernel, by decide +kernel⟩

end Request

end TradingPlatform.Routes
