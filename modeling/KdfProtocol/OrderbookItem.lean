import KdfProtocol.HashMap
import Mathlib.Algebra.Order.Ring.Rat

/-!
# Order book items and trie operations

The data that the order book index, the trie store and the order messages
share.  Prices and volumes are exact rationals.
-/

namespace KdfProtocol

abbrev Uuid := Fin (2 ^ 128)

instance uuidNeZero : NeZero (2 ^ 128) := ⟨by decide⟩

abbrev MmNumber := ℚ

abbrev Bytes := List UInt8

structure H256 where
  bytes : Bytes
  length_eq : bytes.length = 32
  deriving DecidableEq

def H256.repeat (byte : UInt8) : H256 where
  bytes := List.replicate 32 byte
  length_eq := List.length_replicate

structure OrderConfirmationsSettings where
  baseConfs : ℕ
  baseNota : Bool
  relConfs : ℕ
  relNota : Bool
  deriving DecidableEq

def OrderConfirmationsSettings.reversed
    (settings : OrderConfirmationsSettings) : OrderConfirmationsSettings where
  baseConfs := settings.relConfs
  baseNota := settings.relNota
  relConfs := settings.baseConfs
  relNota := settings.baseNota

structure OrderbookItem where
  pubkey : String
  base : String
  rel : String
  price : ℚ
  maxVolume : ℚ
  minVolume : ℚ
  uuid : Uuid
  createdAt : ℕ
  baseProtocolInfo : Bytes
  relProtocolInfo : Bytes
  confSettings : Option OrderConfirmationsSettings
  deriving DecidableEq

structure OrderbookP2PItem where
  pubkey : String
  base : String
  rel : String
  price : ℚ
  maxVolume : ℚ
  minVolume : ℚ
  uuid : Uuid
  createdAt : ℕ
  deriving DecidableEq

structure BaseRelProtocolInfo where
  base : Bytes := []
  rel : Bytes := []
  deriving DecidableEq

def OrderbookItem.toP2PItem (order : OrderbookItem) : OrderbookP2PItem where
  pubkey := order.pubkey
  base := order.base
  rel := order.rel
  price := order.price
  maxVolume := order.maxVolume
  minVolume := order.minVolume
  uuid := order.uuid
  createdAt := order.createdAt

def OrderbookItem.fromP2pAndInfo (o : OrderbookP2PItem) (protoInfo : BaseRelProtocolInfo)
    (confInfo : Option OrderConfirmationsSettings) : OrderbookItem where
  pubkey := o.pubkey
  base := o.base
  rel := o.rel
  price := o.price
  maxVolume := o.maxVolume
  minVolume := o.minVolume
  uuid := o.uuid
  createdAt := o.createdAt
  baseProtocolInfo := protoInfo.base
  relProtocolInfo := protoInfo.rel
  confSettings := confInfo

def OrderbookItem.baseRelProtoInfo (order : OrderbookItem) : BaseRelProtocolInfo where
  base := order.baseProtocolInfo
  rel := order.relProtocolInfo

def albOrderedPair (base rel : String) : String :=
  if base < rel then base ++ ":" ++ rel else rel ++ ":" ++ base

/-- `split_once(':')`: the parts around the first colon. -/
def splitOnceColon (albPair : String) : Option (String × String) :=
  match albPair.toList.dropWhile (· ≠ ':') with
  | [] => none
  | _ :: rel => some (String.ofList (albPair.toList.takeWhile (· ≠ ':')), String.ofList rel)

inductive TrieOp where
  | clearPair (pubkey albPair : String)
  | insert (pubkey albPair : String) (uuid : Uuid) (order : OrderbookItem)
  | remove (pubkey albPair : String) (uuid : Uuid)
  | removePubkey (pubkey : String)
  deriving DecidableEq

def TrieOp.isInsert : TrieOp → Bool
  | .insert .. => true
  | _ => false

structure MakerOrderUpdatedV1 where
  uuid : Uuid
  newPrice : Option ℚ
  newMaxVolume : Option ℚ
  newMinVolume : Option ℚ
  timestamp : ℕ
  deriving DecidableEq

structure MakerOrderUpdatedV2 extends MakerOrderUpdatedV1 where
  confSettings : Option OrderConfirmationsSettings
  deriving DecidableEq

inductive MakerOrderUpdated where
  | v1 (msg : MakerOrderUpdatedV1)
  | v2 (msg : MakerOrderUpdatedV2)
  deriving DecidableEq

namespace MakerOrderUpdated

def new (uuid : Uuid) (timestamp : ℕ) : MakerOrderUpdated :=
  .v2 {
    uuid
    newPrice := none
    newMaxVolume := none
    newMinVolume := none
    timestamp
    confSettings := none }

/-- The fields that both versions of the message have. -/
def fields : MakerOrderUpdated → MakerOrderUpdatedV1
  | .v1 msg => msg
  | .v2 msg => msg.toMakerOrderUpdatedV1

def mapFields (f : MakerOrderUpdatedV1 → MakerOrderUpdatedV1) :
    MakerOrderUpdated → MakerOrderUpdated
  | .v1 msg => .v1 (f msg)
  | .v2 msg =>
    .v2 { toMakerOrderUpdatedV1 := f msg.toMakerOrderUpdatedV1
          confSettings := msg.confSettings }

def withNewPrice (newPrice : ℚ) : MakerOrderUpdated → MakerOrderUpdated :=
  mapFields fun msg => { msg with newPrice := some newPrice }

def withNewMaxVolume (newMaxVolume : ℚ) : MakerOrderUpdated → MakerOrderUpdated :=
  mapFields fun msg => { msg with newMaxVolume := some newMaxVolume }

def withNewMinVolume (newMinVolume : ℚ) : MakerOrderUpdated → MakerOrderUpdated :=
  mapFields fun msg => { msg with newMinVolume := some newMinVolume }

def withNewConfSettings (settings : OrderConfirmationsSettings) :
    MakerOrderUpdated → MakerOrderUpdated
  | .v1 msg => .v1 msg
  | .v2 msg => .v2 { msg with confSettings := some settings }

def uuid (msg : MakerOrderUpdated) : Uuid := msg.fields.uuid

def newPrice (msg : MakerOrderUpdated) : Option ℚ := msg.fields.newPrice

def newMaxVolume (msg : MakerOrderUpdated) : Option ℚ :=
  msg.fields.newMaxVolume

def newMinVolume (msg : MakerOrderUpdated) : Option ℚ :=
  msg.fields.newMinVolume

def newConfSettings : MakerOrderUpdated → Option OrderConfirmationsSettings
  | .v1 _ => none
  | .v2 msg => msg.confSettings

end MakerOrderUpdated

def OrderbookItem.applyUpdated (order : OrderbookItem) (msg : MakerOrderUpdated) : OrderbookItem :=
  { order with
    price := msg.newPrice.getD order.price
    maxVolume := msg.newMaxVolume.getD order.maxVolume
    minVolume := msg.newMinVolume.getD order.minVolume }

end KdfProtocol
