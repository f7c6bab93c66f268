import TradingPlatform.Foundation.Request

/-! # Reconciliation evidence

Readers of the evidence a recovery trace carries: order and fill identifiers,
order statuses and balances. A list is read as a whole or not at all, and its
keys are unique.
-/

namespace TradingPlatform.Recovery

section Numbers

/-- The finite decimal the text of a value denotes. -/
def parseDecimal : Json → Option Decimal
  | .null => none
  | value => Decimal.ofText? value.toText

/-- An integer; a truth value counts as one or zero. -/
def parseInt : Json → Option Int
  | .null => none
  | .bool b => some (if b then 1 else 0)
  | .int n => some n
  | value => Text.toInt? value.toText

def isNull : Json → Bool
  | .null => true
  | _ => false

def isBool : Json → Bool
  | .bool _ => true
  | _ => false

@[simp] theorem isNull_eq_false {value : Json} : isNull value = false ↔ value ≠ .null := by
  cases value <;> simp [isNull]

end Numbers

section Lists

variable {α κ : Type} [DecidableEq κ] (read : Json → Option α) (key : α → κ)

/-- Read items one after another; an item that is not read or whose key was seen
before gives nothing. -/
def observedItems : List κ → List Json → Option (List α)
  | _, [] => some []
  | seen, item :: rest =>
      (read item).bind fun a =>
        if key a ∈ seen then none else (observedItems (key a :: seen) rest).map (a :: ·)

def observedList : Json → Option (List α)
  | .arr items => observedItems read key [] items
  | _ => none

/-- A list whose items are read as the given ones, no key twice. -/
structure ReadsAs (value : Json) (as : List α) : Prop where
  items : ∃ items, value = .arr items ∧ items.map read = as.map some
  unique : (as.map key).Nodup

variable {read key}

theorem observedItems_eq_some_iff {seen : List κ} {items : List Json} {as : List α} :
    observedItems read key seen items = some as ↔
      items.map read = as.map some ∧ (as.map key).Nodup ∧ ∀ a ∈ as, key a ∉ seen := by
  induction items generalizing seen as with
  | nil => cases as <;> simp [observedItems]
  | cons item rest ih =>
      rw [observedItems]
      cases hitem : read item with
      | none => cases as <;> simp [hitem]
      | some a =>
          rw [Option.bind_some]
          split_ifs with hseen
          · refine iff_of_false (by simp) ?_
            rintro ⟨hitems, -, hfresh⟩
            cases as with
            | nil => simp at hitems
            | cons b bs =>
                simp only [List.map_cons, hitem, List.cons.injEq, Option.some.injEq] at hitems
                exact hfresh b List.mem_cons_self (hitems.1 ▸ hseen)
          · cases as with
            | nil => simp
            | cons b bs =>
                simp only [Option.map_eq_some_iff, List.cons.injEq, List.map_cons, hitem,
                  Option.some.injEq, List.nodup_cons, List.mem_cons, forall_eq_or_imp]
                constructor
                · rintro ⟨as, has, rfl, rfl⟩
                  obtain ⟨hitems, hunique, hfresh⟩ := ih.mp has
                  simp only [List.mem_cons, not_or] at hfresh
                  refine ⟨⟨rfl, hitems⟩, ⟨?_, hunique⟩, hseen, fun x hx => (hfresh x hx).2⟩
                  intro hmem
                  obtain ⟨x, hx, heq⟩ := List.mem_map.mp hmem
                  exact (hfresh x hx).1 heq
                · rintro ⟨⟨rfl, hitems⟩, ⟨hnot, hunique⟩, -, hfresh⟩
                  refine ⟨bs, ih.mpr ⟨hitems, hunique, fun x hx => ?_⟩, rfl, rfl⟩
                  simp only [List.mem_cons, not_or]
                  exact ⟨fun heq => hnot (heq ▸ List.mem_map_of_mem hx), hfresh x hx⟩

/-- What is observed is exactly what the list reads as. -/
theorem observedList_eq_some_iff {value : Json} {as : List α} :
    observedList read key value = some as ↔ ReadsAs read key value as := by
  constructor
  · intro hobserved
    cases value with
    | arr items =>
        obtain ⟨hitems, hunique, -⟩ := observedItems_eq_some_iff.mp hobserved
        exact ⟨⟨items, rfl, hitems⟩, hunique⟩
    | null | bool | int | float | str | obj => simp [observedList] at hobserved
  · rintro ⟨⟨items, rfl, hitems⟩, hunique⟩
    exact observedItems_eq_some_iff.mpr ⟨hitems, hunique, by simp⟩

end Lists

section Items

/-- A text that is not blank, without the blanks at its ends. -/
def observedText : Json → Option String
  | .str s => nonBlank s
  | _ => none

def observedStringIds : Json → Option (List String) := observedList observedText id

def knownOrderStatuses : List String :=
  ["new", "submitted", "partially_filled", "filled", "cancelled", "rejected", "expired", "failed"]

structure ObservedOrderStatus where
  orderId : String
  status : String

def observedOrderStatus : Json → Option ObservedOrderStatus
  | .obj fields =>
      match Dict.get fields "order_id", Dict.get fields "status" with
      | .str orderId, .str status =>
          let normalized := Text.lower (Text.strip status)
          if Text.strip orderId = "" ∨ normalized = "" ∨ normalized ∉ knownOrderStatuses then none
          else some ⟨Text.strip orderId, normalized⟩
      | _, _ => none
  | _ => none

def observedOrderStatuses : Json → Option (List ObservedOrderStatus) :=
  observedList observedOrderStatus ObservedOrderStatus.orderId

structure ObservedBalance where
  exchangeName : String
  asset : String
  free : Decimal
  locked : Decimal

def ObservedBalance.key (balance : ObservedBalance) : String × String :=
  (balance.exchangeName, balance.asset)

def observedBalance : Json → Option ObservedBalance
  | .obj fields =>
      match Dict.get fields "exchange_name", Dict.get fields "asset",
        parseDecimal (Dict.get fields "free"), parseDecimal (Dict.get fields "locked") with
      | .str exchangeName, .str asset, some free, some locked =>
          if Text.strip exchangeName = "" ∨ Text.strip asset = "" ∨ free.value < 0 ∨
              locked.value < 0 then none
          else some ⟨Text.strip exchangeName, Text.upper (Text.strip asset), free, locked⟩
      | _, _, _, _ => none
  | _ => none

def observedBalances : Json → Option (List ObservedBalance) :=
  observedList observedBalance ObservedBalance.key

end Items

end TradingPlatform.Recovery
