import Coordination.DataSeller.Product
import Coordination.DataSeller.Extension
import Coordination.Library.ObjectMap

/-!
# The seller's stores

Negotiations, quotes and deals, each with its history, and the rules by which the
stores stay bounded. A deal record is an object that a delivery in progress goes
on writing to after the store has dropped it, so the deals are an `ObjectMap`.

The stores carry the clock and the random bytes of the step that is running: all
readings of one step without a wait are the same.
-/

namespace Coordination

namespace DataSeller

open JavaScript Library Engine

/-! ## Records -/

inductive HistoryPhase where
  | negotiation
  | formation
  | funding
  | fulfillment
  | settlement
  deriving DecidableEq

inductive HistoryDirection where
  | buyerToSeller
  | sellerToBuyer
  | buyerToRuntime
  | sellerToRuntime
  | runtimeToSeller
  | system
  deriving DecidableEq

structure HistoryInput where
  phase : HistoryPhase
  direction : HistoryDirection
  kind : String
  summary : String
  state : Option String

structure HistoryEntry extends HistoryInput where
  sequence : ℕ
  at_ : ℕ

inductive NegotiationState where
  | QUOTED
  | REFUSED
  | AGREEMENT_STARTED
  deriving DecidableEq

structure NegotiationRecord where
  negotiationId : String
  buyerAgentId : String
  state : NegotiationState
  queryBody : Value
  createdAt : ℕ
  updatedAt : ℕ
  termsDocumentHash : Option String
  dealIds : List String
  history : List HistoryEntry

structure QuoteRecord where
  negotiationId : String
  buyerAgentId : String
  termsDocument : TermsDocument
  termsDocumentHash : String
  queryBody : Value
  facts : QuoteAccepted
  issuedAt : ℕ
  history : List HistoryEntry

inductive DealState where
  | PROPOSED_LOCAL
  | ACCEPTED_LOCAL
  | DELIVERED_LOCAL
  deriving DecidableEq

def DealState.text : DealState → String
  | PROPOSED_LOCAL => "PROPOSED_LOCAL"
  | ACCEPTED_LOCAL => "ACCEPTED_LOCAL"
  | DELIVERED_LOCAL => "DELIVERED_LOCAL"

structure DealRecord where
  dealId : String
  negotiationId : String
  state : DealState
  runtimeState : Option String
  runtimeRevision : Option Number
  termsDocumentHash : String
  buyerAddress : String
  contract : Value
  createdAt : ℕ
  updatedAt : ℕ
  history : List HistoryEntry
  capabilityToken : Option String
  capabilityRevoked : Bool
  manifest : Option DeliveryManifest
  manifestBytes : Option Bytes
  deliveryHash : Option String
  csvBytes : Option Bytes

/-- The state a history entry names: the Runtime's where it is known. -/
def DealRecord.stateText (deal : DealRecord) : String :=
  deal.runtimeState.getD deal.state.text

/-- The entries a deal was created with and those recorded on it since. -/
structure HistoryLog where
  copied : List HistoryEntry
  recorded : List HistoryEntry

/-- The stores. The last member is for the record: a log for each deal object, under
the object's reference, from which nothing is dropped. -/
structure Stores where
  negotiations : InsertionMap String NegotiationRecord
  quotes : InsertionMap String QuoteRecord
  deals : ObjectMap DealRecord.dealId
  historySequence : ℕ
  now : ℕ
  random : Bytes
  logs : List HistoryLog

def Stores.empty : Stores :=
  ⟨InsertionMap.empty, InsertionMap.empty, ObjectMap.empty, 0, 0, [], []⟩

/-- A computation of the seller. -/
abbrev SellerProg := Prog Failure Stores

def randomHex (n : ℕ) : SellerProg String := do
  return toHex ((← Prog.get).random.take n)

/-! ## Deals -/

/-- `this.deals.get(dealId)`, with the error of the callers that need it. -/
def dealOf (dealId : String) : SellerProg ℕ := do
  match (← Prog.get).deals.find? dealId with
  | some r => return r
  | none => Prog.lift (error s!"unknown deal {dealId}")

/-- The record behind a reference. -/
def readDeal (r : ℕ) : SellerProg DealRecord := do
  match (← Prog.get).deals.object? r with
  | some deal => return deal
  | none => Prog.throw .typeError

/-- Write to the record behind a reference. -/
def writeDeal (r : ℕ) (f : DealRecord → DealRecord) (hf : ∀ d, (f d).dealId = d.dealId) :
    SellerProg Unit :=
  Prog.modify fun s => { s with deals := s.deals.modify r f hf }

/-- Hold a new record; the result is the reference to it. -/
def createDeal (deal : DealRecord) : SellerProg ℕ := do
  let r := (← Prog.get).deals.objects.length
  Prog.modify fun s => { s with
    deals := s.deals.create deal
    logs := s.logs ++ [⟨deal.history, []⟩] }
  return r

/-! ## History -/

/-- `historyEntry`. -/
def historyEntry (input : HistoryInput) : SellerProg HistoryEntry := do
  Prog.modify fun s => { s with historySequence := s.historySequence + 1 }
  let s ← Prog.get
  return { input with sequence := s.historySequence, at_ := s.now }

def maxHistoryEntriesPerDeal : ℕ := 512

/-- Append an entry, keeping the recent tail. -/
def DealRecord.append (deal : DealRecord) (entry : HistoryEntry) : DealRecord :=
  let history := deal.history ++ [entry]
  { deal with
    history := history.drop (history.length - maxHistoryEntriesPerDeal)
    updatedAt := entry.at_ }

/-- Note an entry in the log of a deal, which no operation reads. -/
def logEntry (r : ℕ) (entry : HistoryEntry) : SellerProg Unit :=
  Prog.modify fun s => { s with
    logs := s.logs.modify r fun log => { log with recorded := log.recorded ++ [entry] } }

/-- `recordInteraction`. -/
def recordInteraction (dealId : String) (input : HistoryInput) : SellerProg Unit := do
  let r ← dealOf dealId
  let entry ← historyEntry input
  logEntry r entry
  writeDeal r (fun deal => deal.append entry) fun _ => rfl

/-! ## Bounds -/

-- irreducible: a subtraction of a literal is slow to unfold
@[irreducible] def maxOpenNegotiations : ℕ := 1024

@[irreducible] def maxReclaimableDeals : ℕ := 1024

def reclaimableDealTtlMs : ℕ := 900000

/-- The deals of the store, oldest first. -/
def Stores.dealRecords (s : Stores) : List DealRecord :=
  s.deals.keys.filterMap s.deals.get?

/-- The negotiations `pruneNegotiations` deletes: the oldest over the bound that no
deal refers to. -/
def Stores.surplusNegotiations (s : Stores) (justIssued : String) : List String :=
  let referenced := justIssued :: s.dealRecords.map DealRecord.negotiationId
  (s.negotiations.keys.filter fun k => k ∉ referenced).take
    (s.negotiations.size - maxOpenNegotiations)

/-- `pruneNegotiations`. -/
def pruneNegotiations (justIssued : String) : SellerProg Unit :=
  Prog.modify fun s =>
    let surplus := s.surplusNegotiations justIssued
    { s with
      negotiations := s.negotiations.filterKeys fun k => k ∉ surplus
      quotes := s.quotes.filterKeys fun k => k ∉ surplus }

/-- `isReclaimableDeal`. -/
def isReclaimableDeal (deal : DealRecord) : Bool :=
  (deal.runtimeState.all fun state => state ∈ ["PROPOSED", "EXPIRED", "CANCELLED"]) &&
    (deal.state = .PROPOSED_LOCAL ∨ deal.state = .ACCEPTED_LOCAL)

/-- `deleteDeal`. -/
def Stores.deleteDeal (s : Stores) (dealId : String) : Stores :=
  match s.deals.get? dealId with
  | none => s
  | some deal =>
    { s with
      deals := s.deals.filterKeys fun k => k ≠ dealId
      negotiations := s.negotiations.modify deal.negotiationId fun negotiation =>
        let dealIds := negotiation.dealIds.filter fun id => id ≠ dealId
        { negotiation with
          dealIds, state := if dealIds.length = 0 then .QUOTED else negotiation.state } }

/-- Whether a reclaimable deal has outlived its time. -/
def DealRecord.expired (deal : DealRecord) (now : ℕ) : Bool :=
  deal.updatedAt + reclaimableDealTtlMs < now

/-- The deals `pruneDeals` deletes: reclaimable ones past their time, and the
oldest of the others over the bound. -/
def Stores.reclaimed (s : Stores) : List String :=
  let reclaimable := s.dealRecords.filter isReclaimableDeal
  let expired := reclaimable.filter fun deal => deal.expired s.now
  let kept := reclaimable.filter fun deal => !deal.expired s.now
  (expired ++ kept.take (kept.length - (maxReclaimableDeals - 1))).map DealRecord.dealId

/-- `pruneDeals`. -/
def pruneDeals : SellerProg Unit :=
  Prog.modify fun s => s.reclaimed.foldl Stores.deleteDeal s

end DataSeller

end Coordination
