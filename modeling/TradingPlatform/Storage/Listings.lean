import TradingPlatform.Foundation.IsoOrder
import TradingPlatform.Storage.IntentStatus
import TradingPlatform.Storage.Reads

/-! # Listings in the order of time

The store keeps its instants as ISO texts. Listings keep the rows between two
texts and sort the rows by a text of theirs, which is the order of time but for
a whole second and its fractions.
-/

namespace TradingPlatform.Storage

open Datetime

section Program

/-- What a listing is asked for; an empty text asks for nothing. -/
structure ListingQuery where
  botId : String
  exchangeName : String
  status : String
  market : String
  strategyRunId : String
  orderId : String
  createdFrom : String
  createdTo : String

variable {Row : Type}

def keepFrom (stamp : Row → String) (createdFrom : String) (rows : List Row) : List Row :=
  if createdFrom = "" then rows else rows.filter fun row => createdFrom ≤ stamp row

def keepTo (stamp : Row → String) (createdTo : String) (rows : List Row) : List Row :=
  if createdTo = "" then rows else rows.filter fun row => stamp row ≤ createdTo

/-- The rows between the bounds of a query, latest first. -/
def listRows (sortedBy boundedBy : Row → String) (q : ListingQuery) (rows : List Row) : List Row :=
  MemoryStore.latestFirst sortedBy
    (keepTo boundedBy q.createdTo (keepFrom boundedBy q.createdFrom rows))

namespace MemoryStore

variable (s : MemoryStore) (q : ListingQuery)

def matchingOrders : List Order :=
  filterRows (·.strategyRunId) q.strategyRunId <| filterRows (·.market) q.market <|
    filterRows (·.status) q.status <| filterRows (·.exchangeName) q.exchangeName <|
      filterRows (·.botId) q.botId s.orders

def matchingFills : List Fill :=
  filterRows (·.orderId) q.orderId <| filterRows (·.strategyRunId) q.strategyRunId <|
    filterRows (·.market) q.market <| filterRows (·.exchangeName) q.exchangeName <|
      filterRows (·.botId) q.botId s.fills

def matchingOrderIntents : List OrderIntent :=
  filterRows (·.market) q.market <| filterRows (·.status) q.status <|
    filterRows (·.strategyRunId) q.strategyRunId <| filterRows (·.botId) q.botId s.orderIntents

def queryOrders : List Order := listRows (·.updatedAt) (·.createdAt) q (s.matchingOrders q)

def queryFills : List Fill := listRows (·.filledAt) (·.filledAt) q (s.matchingFills q)

def queryOrderIntents : List OrderIntent :=
  listRows (·.createdAt) (·.createdAt) q (s.matchingOrderIntents q)

/-- The orders of a bot and a run that the runtimes read are a listing without bounds. -/
theorem listRunOrders_eq_queryOrders (botId strategyRunId : String) :
    s.listRunOrders botId strategyRunId =
      s.queryOrders ⟨botId, "", "", "", strategyRunId, "", "", ""⟩ := by
  simp [listRunOrders, queryOrders, listRows, keepTo, keepFrom, matchingOrders, filterRows]

theorem listRunFills_eq_queryFills (botId strategyRunId : String) :
    s.listRunFills botId strategyRunId =
      s.queryFills ⟨botId, "", "", "", strategyRunId, "", "", ""⟩ := by
  simp [listRunFills, queryFills, listRows, keepTo, keepFrom, matchingFills, filterRows]

end MemoryStore

end Program

section Specification

/-- The instant a text stands for. -/
def instantOf (text : String) : Int := (parseIsoDatetime (.str text)).getD 0

/-- A text as the store and the routes write an instant. -/
def IsStamp (text : String) : Prop := ∃ instant, InCalendar instant ∧ text = isoText instant

/-- The instants of a store were written by the store and the routes. -/
structure Stamped (s : MemoryStore) : Prop where
  orders : ∀ order ∈ s.orders, IsStamp order.createdAt ∧ IsStamp order.updatedAt
  fills : ∀ fill ∈ s.fills, IsStamp fill.filledAt
  orderIntents : ∀ intent ∈ s.orderIntents, IsStamp intent.createdAt

/-- The bounds of a query are missing, or written like the instants of the store. -/
structure StampedBounds (q : ListingQuery) : Prop where
  createdFrom : q.createdFrom = "" ∨ IsStamp q.createdFrom
  createdTo : q.createdTo = "" ∨ IsStamp q.createdTo

variable {Row : Type} (sortedBy boundedBy : Row → String) (q : ListingQuery)

def NotBefore (bound text : String) : Prop := bound = "" ∨ instantOf bound ≤ instantOf text

def NotAfter (bound text : String) : Prop := bound = "" ∨ instantOf text ≤ instantOf bound

instance decidableNotBefore (bound text : String) : Decidable (NotBefore bound text) :=
  inferInstanceAs (Decidable (_ ∨ _))

instance decidableNotAfter (bound text : String) : Decidable (NotAfter bound text) :=
  inferInstanceAs (Decidable (_ ∨ _))

/-- The rows between the bounds in time, latest first in time. -/
def rowsInTime (rows : List Row) : List Row :=
  (rows.filter fun row => NotBefore q.createdFrom (boundedBy row) ∧
      NotAfter q.createdTo (boundedBy row)).insertionSort
    fun a b => instantOf (sortedBy b) ≤ instantOf (sortedBy a)

/-- A bound and a text of one second, of which just one is the whole second. -/
def Shares (bound text : String) : Prop := bound ≠ "" ∧ OneWhole (instantOf bound) (instantOf text)

/-- A whole second is told apart from its fractions: a row that shares the second of a bound
is left out by the other bound, and no two rows between the bounds share one. -/
structure ToldApart (rows : List Row) : Prop where
  createdFrom : ∀ row ∈ rows, Shares q.createdFrom (boundedBy row) →
    NotAfter q.createdTo (boundedBy row) → Shares q.createdTo (boundedBy row)
  createdTo : ∀ row ∈ rows, Shares q.createdTo (boundedBy row) →
    NotBefore q.createdFrom (boundedBy row) → Shares q.createdFrom (boundedBy row)
  sorted : ∀ a ∈ rowsInTime sortedBy boundedBy q rows, ∀ b ∈ rowsInTime sortedBy boundedBy q rows,
    ¬ OneWhole (instantOf (sortedBy a)) (instantOf (sortedBy b))

variable (s : MemoryStore)

/-- The three listings of a query are those of time. -/
structure ListsInTime : Prop where
  orders : s.queryOrders q = rowsInTime (·.updatedAt) (·.createdAt) q (s.matchingOrders q)
  fills : s.queryFills q = rowsInTime (·.filledAt) (·.filledAt) q (s.matchingFills q)
  orderIntents : s.queryOrderIntents q =
    rowsInTime (·.createdAt) (·.createdAt) q (s.matchingOrderIntents q)

structure RowsToldApart : Prop where
  orders : ToldApart (·.updatedAt) (·.createdAt) q (s.matchingOrders q)
  fills : ToldApart (·.filledAt) (·.filledAt) q (s.matchingFills q)
  orderIntents : ToldApart (·.createdAt) (·.createdAt) q (s.matchingOrderIntents q)

end Specification

section Stamps

variable {a b bound text : String}

theorem instantOf_isoText {instant : Int} (hinstant : InCalendar instant) :
    instantOf (isoText instant) = instant := by
  rw [instantOf, parseIsoDatetime_isoText hinstant.1 hinstant.2, Option.getD_some]

/-- Stamps compare like their instants, but for a whole second and its fractions. -/
theorem IsStamp.le_iff (ha : IsStamp a) (hb : IsStamp b) :
    (a ≤ b ↔ instantOf a ≤ instantOf b) ↔ ¬ OneWhole (instantOf a) (instantOf b) := by
  obtain ⟨i, hi, rfl⟩ := ha
  obtain ⟨j, hj, rfl⟩ := hb
  rw [instantOf_isoText hi, instantOf_isoText hj, isoText_le_iff_le hi hj]

/-- There they compare the other way. -/
theorem IsStamp.le_iff_of_oneWhole (ha : IsStamp a) (hb : IsStamp b)
    (hwhole : OneWhole (instantOf a) (instantOf b)) : a ≤ b ↔ ¬ instantOf a ≤ instantOf b := by
  have hsame := ha.le_iff hb
  tauto

theorem createdFrom_iff (hbound : bound = "" ∨ IsStamp bound) (htext : IsStamp text)
    (hplain : ¬ Shares bound text) : (bound = "" ∨ bound ≤ text) ↔ NotBefore bound text := by
  unfold NotBefore
  rcases hbound with rfl | hbound
  · simp
  · by_cases hempty : bound = ""
    · simp [hempty]
    · rw [or_iff_right hempty, or_iff_right hempty]
      exact (hbound.le_iff htext).mpr fun hwhole => hplain ⟨hempty, hwhole⟩

theorem createdFrom_iff_of_shares (hbound : bound = "" ∨ IsStamp bound) (htext : IsStamp text)
    (hshares : Shares bound text) : (bound = "" ∨ bound ≤ text) ↔ ¬ NotBefore bound text := by
  obtain ⟨hempty, hwhole⟩ := hshares
  rw [NotBefore, or_iff_right hempty, or_iff_right hempty]
  exact (hbound.resolve_left hempty).le_iff_of_oneWhole htext hwhole

theorem createdTo_iff (hbound : bound = "" ∨ IsStamp bound) (htext : IsStamp text)
    (hplain : ¬ Shares bound text) : (bound = "" ∨ text ≤ bound) ↔ NotAfter bound text := by
  unfold NotAfter
  rcases hbound with rfl | hbound
  · simp
  · by_cases hempty : bound = ""
    · simp [hempty]
    · rw [or_iff_right hempty, or_iff_right hempty]
      exact (htext.le_iff hbound).mpr fun hwhole => hplain ⟨hempty, hwhole.symm⟩

theorem createdTo_iff_of_shares (hbound : bound = "" ∨ IsStamp bound) (htext : IsStamp text)
    (hshares : Shares bound text) : (bound = "" ∨ text ≤ bound) ↔ ¬ NotAfter bound text := by
  obtain ⟨hempty, hwhole⟩ := hshares
  rw [NotAfter, or_iff_right hempty, or_iff_right hempty]
  exact htext.le_iff_of_oneWhole (hbound.resolve_left hempty) hwhole.symm

/-- A text that shares its second with both bounds lies outside one of them just. -/
theorem notBefore_iff_of_shares {bound' : String} (hfrom : Shares bound text)
    (hto : Shares bound' text) : NotBefore bound text ↔ ¬ NotAfter bound' text := by
  obtain ⟨hempty, hsecond, hone⟩ := hfrom
  obtain ⟨hempty', hsecond', hone'⟩ := hto
  rw [NotBefore, NotAfter, or_iff_right hempty, or_iff_right hempty']
  omega

end Stamps

section Rows

variable {Row : Type} {sortedBy boundedBy : Row → String} {q : ListingQuery} {rows : List Row}
  {text : String}

/-- A text between the bounds of a query, as texts compare. -/
def Between (q : ListingQuery) (text : String) : Prop :=
  (q.createdFrom = "" ∨ q.createdFrom ≤ text) ∧ (q.createdTo = "" ∨ text ≤ q.createdTo)

instance decidableBetween (q : ListingQuery) (text : String) : Decidable (Between q text) :=
  inferInstanceAs (Decidable (_ ∧ _))

theorem keepTo_keepFrom (stamp : Row → String) (q : ListingQuery) (rows : List Row) :
    keepTo stamp q.createdTo (keepFrom stamp q.createdFrom rows) =
      rows.filter fun row => Between q (stamp row) := by
  unfold keepTo keepFrom Between
  split_ifs with hto hfrom hfrom
  · simp [hto, hfrom]
  · simp [hto, hfrom]
  · simp [hto, hfrom]
  · rw [List.filter_filter]
    refine List.filter_congr fun row _ => ?_
    simp [hto, hfrom, Bool.and_comm]

/-- The bounds keep a text like its instant unless it shares its second with one of them,
and the other one keeps it in time. -/
theorem between_iff (hq : StampedBounds q) (htext : IsStamp text) :
    (Between q text ↔ NotBefore q.createdFrom text ∧ NotAfter q.createdTo text) ↔
      (Shares q.createdFrom text → NotAfter q.createdTo text → Shares q.createdTo text) ∧
        (Shares q.createdTo text → NotBefore q.createdFrom text → Shares q.createdFrom text) := by
  unfold Between
  by_cases hfrom : Shares q.createdFrom text <;> by_cases hto : Shares q.createdTo text
  · rw [createdFrom_iff_of_shares hq.createdFrom htext hfrom,
      createdTo_iff_of_shares hq.createdTo htext hto]
    have hother := notBefore_iff_of_shares hfrom hto
    tauto
  · rw [createdFrom_iff_of_shares hq.createdFrom htext hfrom,
      createdTo_iff hq.createdTo htext hto]
    tauto
  · rw [createdFrom_iff hq.createdFrom htext hfrom,
      createdTo_iff_of_shares hq.createdTo htext hto]
    tauto
  · rw [createdFrom_iff hq.createdFrom htext hfrom, createdTo_iff hq.createdTo htext hto]
    tauto

theorem mem_rowsInTime {row : Row} : row ∈ rowsInTime sortedBy boundedBy q rows ↔
    row ∈ rows ∧
      NotBefore q.createdFrom (boundedBy row) ∧ NotAfter q.createdTo (boundedBy row) := by
  rw [rowsInTime, List.mem_insertionSort, List.mem_filter, decide_eq_true_eq]

theorem mem_listRows {row : Row} : row ∈ listRows sortedBy boundedBy q rows ↔
    row ∈ rows ∧ Between q (boundedBy row) := by
  rw [listRows, MemoryStore.mem_latestFirst, keepTo_keepFrom, List.mem_filter, decide_eq_true_eq]

/-- Of two members of a sorted list one comes first. -/
theorem related_of_pairwise {R : Row → Row → Prop} (hrefl : ∀ a, R a a) {listed : List Row}
    (hpairs : listed.Pairwise R) {a b : Row} (ha : a ∈ listed) (hb : b ∈ listed) :
    R a b ∨ R b a := by
  induction listed with
  | nil => cases ha
  | cons first rest ih =>
      obtain ⟨hfirst, hrest⟩ := List.pairwise_cons.mp hpairs
      rcases List.mem_cons.mp ha with rfl | harest
      · rcases List.mem_cons.mp hb with rfl | hbrest
        · exact Or.inl (hrefl b)
        · exact Or.inl (hfirst b hbrest)
      · rcases List.mem_cons.mp hb with rfl | hbrest
        · exact Or.inr (hfirst a harest)
        · exact ih hrest harest hbrest

/-- A list that is sorted by texts and in time has no whole second with a fraction of it. -/
theorem not_oneWhole_of_sorted {listed : List Row}
    (hstamps : ∀ row ∈ listed, IsStamp (sortedBy row))
    (htexts : listed.Pairwise fun a b => sortedBy b ≤ sortedBy a)
    (htime : listed.Pairwise fun a b => instantOf (sortedBy b) ≤ instantOf (sortedBy a))
    {a b : Row} (ha : a ∈ listed) (hb : b ∈ listed) :
    ¬ OneWhole (instantOf (sortedBy a)) (instantOf (sortedBy b)) := by
  intro hwhole
  rcases related_of_pairwise (fun _ => ⟨le_rfl, le_rfl⟩) (htexts.and htime) ha hb with
    ⟨htext, hinstant⟩ | ⟨htext, hinstant⟩
  · exact ((hstamps b hb).le_iff_of_oneWhole (hstamps a ha) hwhole.symm).mp htext hinstant
  · exact ((hstamps a ha).le_iff_of_oneWhole (hstamps b hb) hwhole).mp htext hinstant

/-- Sorting by texts and in time is one when the texts compare like their instants. -/
theorem latestFirst_eq {listed : List Row}
    (hsame : ∀ a ∈ listed, ∀ b ∈ listed,
      (sortedBy b ≤ sortedBy a ↔ instantOf (sortedBy b) ≤ instantOf (sortedBy a))) :
    MemoryStore.latestFirst sortedBy listed =
      listed.insertionSort fun a b => instantOf (sortedBy b) ≤ instantOf (sortedBy a) := by
  have hmap := List.map_insertionSort (fun a b : Row => sortedBy b ≤ sortedBy a)
    (fun a b => instantOf (sortedBy b) ≤ instantOf (sortedBy a)) id listed hsame
  rwa [List.map_id, List.map_id] at hmap

theorem listRows_eq_iff (hstamps : ∀ row ∈ rows, IsStamp (sortedBy row) ∧ IsStamp (boundedBy row))
    (hq : StampedBounds q) : listRows sortedBy boundedBy q rows =
      rowsInTime sortedBy boundedBy q rows ↔ ToldApart sortedBy boundedBy q rows := by
  constructor
  · intro hlisted
    have hbetween : ∀ row ∈ rows, Between q (boundedBy row) ↔
        NotBefore q.createdFrom (boundedBy row) ∧ NotAfter q.createdTo (boundedBy row) := by
      intro row hrow
      have hmem : row ∈ listRows sortedBy boundedBy q rows ↔
          row ∈ rowsInTime sortedBy boundedBy q rows := by rw [hlisted]
      rwa [mem_listRows, mem_rowsInTime, and_iff_right hrow, and_iff_right hrow] at hmem
    have hsides := fun row hrow => (between_iff hq (hstamps row hrow).2).mp (hbetween row hrow)
    refine ⟨fun row hrow => (hsides row hrow).1, fun row hrow => (hsides row hrow).2, ?_⟩
    intro a ha b hb
    refine not_oneWhole_of_sorted (fun row hrow => (hstamps row (mem_rowsInTime.mp hrow).1).1)
      ?_ (List.pairwise_insertionSort _ _) ha hb
    rw [← hlisted]
    exact List.pairwise_insertionSort _ _
  · intro hapart
    have hkept : (rows.filter fun row => Between q (boundedBy row)) = rows.filter fun row =>
        NotBefore q.createdFrom (boundedBy row) ∧ NotAfter q.createdTo (boundedBy row) := by
      refine List.filter_congr fun row hrow => ?_
      exact decide_eq_decide.mpr ((between_iff hq (hstamps row hrow).2).mpr
        ⟨hapart.createdFrom row hrow, hapart.createdTo row hrow⟩)
    rw [listRows, keepTo_keepFrom, hkept]
    refine latestFirst_eq fun a ha b hb => ?_
    have hmem : ∀ row ∈ rows.filter (fun row => NotBefore q.createdFrom (boundedBy row) ∧
        NotAfter q.createdTo (boundedBy row)), row ∈ rowsInTime sortedBy boundedBy q rows :=
      fun row hrow => (List.mem_insertionSort _).mpr hrow
    exact ((hstamps b (List.mem_of_mem_filter hb)).1.le_iff
      (hstamps a (List.mem_of_mem_filter ha)).1).mpr
        (hapart.sorted b (hmem b hb) a (hmem a ha))

end Rows

section Listings

variable {s : MemoryStore} {q : ListingQuery}

/-- The listings are those of time exactly when whole seconds are told apart from their
fractions. -/
theorem listsInTime_iff (hs : Stamped s) (hq : StampedBounds q) :
    ListsInTime q s ↔ RowsToldApart q s := by
  have horders : ∀ order ∈ s.matchingOrders q,
      IsStamp order.updatedAt ∧ IsStamp order.createdAt := by
    intro order hmem
    simp only [MemoryStore.matchingOrders, MemoryStore.mem_filterRows] at hmem
    exact (hs.orders order hmem.1.1.1.1.1).symm
  have hfills : ∀ fill ∈ s.matchingFills q, IsStamp fill.filledAt ∧ IsStamp fill.filledAt := by
    intro fill hmem
    simp only [MemoryStore.matchingFills, MemoryStore.mem_filterRows] at hmem
    exact ⟨hs.fills fill hmem.1.1.1.1.1, hs.fills fill hmem.1.1.1.1.1⟩
  have hintents : ∀ intent ∈ s.matchingOrderIntents q,
      IsStamp intent.createdAt ∧ IsStamp intent.createdAt := by
    intro intent hmem
    simp only [MemoryStore.matchingOrderIntents, MemoryStore.mem_filterRows] at hmem
    exact ⟨hs.orderIntents intent hmem.1.1.1.1, hs.orderIntents intent hmem.1.1.1.1⟩
  constructor
  · rintro ⟨hlistedOrders, hlistedFills, hlistedIntents⟩
    exact ⟨(listRows_eq_iff horders hq).mp hlistedOrders,
      (listRows_eq_iff hfills hq).mp hlistedFills, (listRows_eq_iff hintents hq).mp hlistedIntents⟩
  · rintro ⟨hapartOrders, hapartFills, hapartIntents⟩
    exact ⟨(listRows_eq_iff horders hq).mpr hapartOrders,
      (listRows_eq_iff hfills hq).mpr hapartFills, (listRows_eq_iff hintents hq).mpr hapartIntents⟩

end Listings

section Runs

open MemoryStore

variable {p : Platform} {ctx : DecimalContext} {s s' : MemoryStore}

theorem Stamped.setIntentStatus (hs : Stamped s) (id : String) (f : String → String) :
    Stamped (s.setIntentStatus id f) := by
  refine ⟨hs.orders, hs.fills, fun intent hmem => ?_⟩
  obtain ⟨old, hold, hsame⟩ := List.mem_map.mp hmem
  have hstamp := hs.orderIntents old hold
  split at hsame <;> rw [← hsame] <;> exact hstamp

theorem Stamped.setOrderStatus (hs : Stamped s) (id status : String) {updatedAt : String}
    (hupdated : IsStamp updatedAt) : Stamped (s.setOrderStatus id status updatedAt) := by
  refine ⟨fun order hmem => ?_, hs.fills, hs.orderIntents⟩
  obtain ⟨old, hold, hsame⟩ := List.mem_map.mp hmem
  have hstamps := hs.orders old hold
  split at hsame <;> rw [← hsame]
  · exact ⟨hstamps.1, hupdated⟩
  · exact hstamps

theorem Stamped.addOrder (hs : Stamped s) {order : Order} (hcreated : IsStamp order.createdAt)
    (hupdated : IsStamp order.updatedAt) : Stamped (s.addOrder order) := by
  refine ⟨fun other hmem => ?_, hs.fills, (hs.setIntentStatus _ _).orderIntents⟩
  rcases List.mem_append.mp hmem with hold | hnew
  · exact hs.orders other hold
  · rw [List.mem_singleton.mp hnew]
    exact ⟨hcreated, hupdated⟩

theorem Stamped.addFill (hs : Stamped s) {fill : Fill} (hfilled : IsStamp fill.filledAt)
    (hcreated : IsStamp fill.createdAt) : Stamped (s.addFill fill) := by
  have hset := (hs.setOrderStatus fill.orderId fill.orderStatus hcreated).setIntentStatus
    fill.orderIntentId
  refine ⟨fun order hmem => (hset id).orders order hmem, fun other hmem => ?_, ?_⟩
  · rcases List.mem_cons.mp hmem with rfl | hold
    · exact hfilled
    · exact hs.fills other hold
  · unfold MemoryStore.addFill settleIntent
    dsimp only
    exact (hset _).orderIntents

/-- A fill is reported with an instant as the routes write it. -/
def ReportsStamp : Call → Prop
  | .createFill new => IsStamp new.filledAt
  | _ => True

/-- A clock that is written as it should be keeps the instants of the store so. -/
theorem Stamped.apply (hclock : ∀ n, IsStamp (p.sampleTime n)) (hs : Stamped s) {call : Call}
    (hcall : ReportsStamp call) : Stamped (call.apply p ctx s) := by
  cases call with
  | createStrategyRun botId strategyName mode =>
      unfold Call.apply MemoryStore.createStrategyRun
      dsimp only
      split
      · exact hs
      · split
        · exact hs
        · exact ⟨hs.orders, hs.fills, hs.orderIntents⟩
  | startStrategyRun runId =>
      unfold Call.apply MemoryStore.startStrategyRun
      dsimp only
      split
      · exact hs
      · split_ifs
        · exact hs
        · exact hs
        · exact ⟨hs.orders, hs.fills, hs.orderIntents⟩
  | stopStrategyRun runId =>
      unfold Call.apply MemoryStore.stopStrategyRun
      dsimp only
      split
      · exact hs
      · split_ifs
        · exact hs
        · exact ⟨hs.orders, hs.fills, hs.orderIntents⟩
  | createOrderIntent new =>
      unfold Call.apply MemoryStore.createOrderIntent
      dsimp only
      split
      · exact hs
      · refine ⟨hs.orders, hs.fills, fun intent hmem => ?_⟩
        rcases List.mem_append.mp hmem with hold | hnew
        · exact hs.orderIntents intent hold
        · rw [List.mem_singleton.mp hnew]
          exact hclock s.serial
  | createOrder new =>
      change Stamped (MemoryStore.createOrder p new s).2
      rcases createOrder_cases p new s with ⟨intent, _, _, _, _, hcreated⟩ | ⟨-, hsame⟩
      · rw [hcreated]
        exact hs.addOrder (hclock s.serial) (hclock s.serial)
      · rw [hsame]
        exact hs
  | updateOrderStatus orderId status =>
      unfold Call.apply MemoryStore.updateOrderStatus
      dsimp only
      split
      · exact hs
      · have hset := hs.setOrderStatus orderId (Text.lower (Text.strip status)) (hclock s.serial)
        split
        · exact hs
        · split
          · exact hs
          · split
            · exact hs
            · exact ⟨hset.orders, hset.fills, hset.orderIntents⟩
  | createFill new =>
      change Stamped (MemoryStore.createFill p ctx new s).2
      rcases createFill_cases p ctx new s with ⟨order, status, _, _, _, hcreated⟩ | ⟨-, hsame⟩
      · rw [hcreated]
        exact hs.addFill hcall (hclock s.serial)
      · rw [hsame]
        exact hs

theorem stamped_runCalls (hclock : ∀ n, IsStamp (p.sampleTime n)) {calls : List Call}
    (hcalls : ∀ call ∈ calls, ReportsStamp call) (hs : Stamped s) :
    Stamped (runCalls p ctx calls s) := by
  induction calls generalizing s with
  | nil => exact hs
  | cons call rest ih =>
      rw [List.forall_mem_cons] at hcalls
      exact ih hcalls.2 (hs.apply hclock hcalls.1)

theorem stamped_empty (botIds : List String) : Stamped (MemoryStore.empty botIds) := by
  constructor <;> intro row hmem <;> cases hmem

/-- The routes write instants as the store does. -/
theorem isStamp_jsonDatetimeText {value : Json} {text : String}
    (hread : jsonDatetimeText value = some text) : IsStamp text := by
  obtain ⟨instant, hinstant, rfl⟩ := Option.map_eq_some_iff.mp hread
  exact ⟨instant, parseIsoDatetime_range hinstant, rfl⟩

end Runs

section Histories

open MemoryStore

def threeUnitPurchase : NewOrder := purchase ⟨"3", 3, by decide +kernel⟩

/-- A unit traded at an instant. -/
def tradeAt (exchangeTradeId filledAt : String) : NewFill :=
  { oneUnitTrade with exchangeTradeId := some exchangeTradeId, filledAt := filledAt }

/-- A purchase of three units, filled at two instants. -/
def filledTwice (first second : String) : MemoryStore :=
  runCalls .counting .default
    ((boughtOnly.map Subtype.val).take 2 ++ [.createOrder threeUnitPurchase,
      .createFill (tradeAt "trade-1" first), .createFill (tradeAt "trade-2" second)])
    (MemoryStore.empty ["bot"])

theorem isStamp_newYear : IsStamp "2024-01-01T00:00:00Z" :=
  ⟨63839750400000000, by decide, by decide +kernel⟩

theorem stamped_filledTwice {first second : String} (hfirst : IsStamp first)
    (hsecond : IsStamp second) : Stamped (filledTwice first second) := by
  refine stamped_runCalls (fun _ => isStamp_newYear) ?_ (stamped_empty _)
  intro call hcall
  simp only [boughtOnly, List.map_cons, List.take_succ_cons, List.take_zero, List.cons_append,
    List.nil_append, List.mem_cons, List.not_mem_nil, or_false] at hcall
  rcases hcall with rfl | rfl | rfl | rfl | rfl
  · trivial
  · trivial
  · trivial
  · exact hfirst
  · exact hsecond

/-- All there is. -/
def unboundedQuery : ListingQuery := ⟨"", "", "", "", "", "", "", ""⟩

theorem stampedBounds_unboundedQuery : StampedBounds unboundedQuery := ⟨Or.inl rfl, Or.inl rfl⟩

/-- Where all instants are whole seconds, a listing without bounds tells them apart. -/
theorem toldApart_unbounded {Row : Type} {sortedBy boundedBy : Row → String} {rows : List Row}
    (hwhole : ∀ row ∈ rows, instantOf (sortedBy row) % 1000000 = 0) :
    ToldApart sortedBy boundedBy unboundedQuery rows := by
  refine ⟨fun _ _ hshares => absurd rfl hshares.1, fun _ _ hshares => absurd rfl hshares.1, ?_⟩
  intro a ha b hb hone
  exact hone.2.mp (hwhole a (mem_rowsInTime.mp ha).1) (hwhole b (mem_rowsInTime.mp hb).1)

/-- Fills of two seconds are listed in time. -/
theorem listsInTime_secondApart :
    ListsInTime unboundedQuery (filledTwice "2024-01-01T00:00:00Z" "2024-01-01T00:00:01Z") := by
  have hlater : IsStamp "2024-01-01T00:00:01Z" := ⟨63839750401000000, by decide, by decide +kernel⟩
  refine (listsInTime_iff (stamped_filledTwice isStamp_newYear hlater)
    stampedBounds_unboundedQuery).mpr ⟨?_, ?_, ?_⟩ <;> apply toldApart_unbounded <;> decide +kernel

/-- The fill of a whole second is listed as the later one of its second. -/
theorem not_listsInTime_wholeSecond :
    ¬ ∀ (s : MemoryStore) (q : ListingQuery), Stamped s → StampedBounds q → ListsInTime q s := by
  intro hall
  have hhalf : IsStamp "2024-01-01T00:00:00.500000Z" :=
    ⟨63839750400500000, by decide, by decide +kernel⟩
  have hfills := (hall _ _ (stamped_filledTwice isStamp_newYear hhalf)
    stampedBounds_unboundedQuery).fills
  have hfirst := congrArg (fun fills : List Fill => fills.head?.bind (·.exchangeTradeId)) hfills
  revert hfirst
  decide +kernel

end Histories

end TradingPlatform.Storage
