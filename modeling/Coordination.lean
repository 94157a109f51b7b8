import Coordination.DataSeller.Unpurchased
import Coordination.DataSeller.Filters
import Coordination.DataSeller.Delivered
import Coordination.DataSeller.Evictions
import Coordination.DataSeller.LiveFrames
import Coordination.DataSeller.Separation
import Coordination.DataSeller.TypedData
import Coordination.Conformance.Words
import Coordination.Conformance.Spellings
import Coordination.Conformance.Captures
import Coordination.BuyerAgent.Acceptance
import Coordination.SellerAgent.Deliveries
import Coordination.Conformance.Anchors
import Coordination.DataSeller.Engine.RefusalSize
import Coordination.DataSeller.Deliverable
import Coordination.Conformance.Gates
import Coordination.DataSeller.Boot
import Coordination.Conformance.Receipts
import Coordination.DataSeller.Commitment
import Coordination.DataSeller.Refused
import Coordination.DataSeller.Engine.Encoding
import Coordination.DataSeller.Engine.Price
import Coordination.DataSeller.Criteria
import Coordination.DataSeller.Engine.Sampling
import Coordination.DataSeller.History
import Coordination.DataSeller.Replies
