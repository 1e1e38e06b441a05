import EvmRpc.RpcClient.Requests

/-! Parameters that are written by position, of the methods with few arguments. -/
namespace EvmRpc
open Library
open Library.Json (Format)

namespace Json

structure GetTransactionCountParams where
  address : Address
  block : BlockSpec
  deriving DecidableEq

structure FeeHistoryParams where
  blockCount : NumBlocks
  highestBlock : BlockSpec
  rewardPercentiles : List UInt8
  deriving DecidableEq

structure GetBlockByNumberParams where
  block : BlockSpec
  includeFullTransactions : Bool
  deriving DecidableEq

end Json

namespace WireText

/-- A byte as a number, and not as a hex string. -/
def u8 : Format UInt8 where
  encode byte := .number (ReferenceNumber.ofInt byte.toNat)
  decode
    | .number token => (ReferenceNumber.toInt token).bind (fun n =>
      if 0 ≤ n ∧ n < 2^8 then some (UInt8.ofNat n.toNat) else none)
    | _ => none

/-- A tuple of one, as `vec!` makes it. -/
def only {α : Type} (format : Format α) : Format α where
  encode value := .array [format.encode value]
  decode
    | .array [json] => format.decode json
    | _ => none

section Formats
variable (wire : WireText)

def getTransactionCountParams : Format Json.GetTransactionCountParams where
  encode params := .array [wire.address.encode params.address,wire.blockSpec.encode params.block]
  decode
    | .array [address,block] => do
      let address ← wire.address.decode address
      let block ← wire.blockSpec.decode block
      some ⟨address,block⟩
    | _ => none

def feeHistoryParams : Format Json.FeeHistoryParams where
  encode params := .array [(wire.amount NumBlocksTag).encode params.blockCount,wire.blockSpec.encode params.highestBlock,
    u8.list.encode params.rewardPercentiles]
  decode
    | .array [blockCount,highestBlock,rewardPercentiles] => do
      let blockCount ← (wire.amount NumBlocksTag).decode blockCount
      let highestBlock ← wire.blockSpec.decode highestBlock
      let rewardPercentiles ← u8.list.decode rewardPercentiles
      some ⟨blockCount,highestBlock,rewardPercentiles⟩
    | _ => none

def getBlockByNumberParams : Format Json.GetBlockByNumberParams where
  encode params := .array [wire.blockSpec.encode params.block,Format.boolean.encode params.includeFullTransactions]
  decode
    | .array [block,includeFullTransactions] => do
      let block ← wire.blockSpec.decode block
      let includeFullTransactions ← Format.boolean.decode includeFullTransactions
      some ⟨block,includeFullTransactions⟩
    | _ => none

end Formats

section Stability
variable {wire : WireText}

theorem u8_stable : u8.Stable (fun _ => True) := by
  intro byte _
  have fits : (0 : ℤ) ≤ byte.toNat ∧ (byte.toNat : ℤ) < 2^8 := ⟨Int.natCast_nonneg _,by exact_mod_cast byte.toNat_lt⟩
  simp only [u8,ReferenceNumber.toInt_ofInt,Option.bind_some,if_pos fits,Int.toNat_natCast,UInt8.ofNat_toNat]

theorem only_stable {α : Type} {format : Format α} {good : α → Prop} (stable : format.Stable good) :
    (only format).Stable good := stable

theorem getTransactionCountParams_stable (lawful : wire.Lawful) (words : wire.WordsAreNoNumbers) :
    wire.getTransactionCountParams.Stable (fun _ => True) := by
  intro params _
  simp only [getTransactionCountParams,address_stable lawful params.address trivial,
    blockSpec_stable lawful words params.block trivial]
  rfl

theorem feeHistoryParams_stable (lawful : wire.Lawful) (words : wire.WordsAreNoNumbers) :
    wire.feeHistoryParams.Stable (fun _ => True) := by
  intro params _
  have percentiles := Format.list_stable u8_stable params.rewardPercentiles (fun _ _ => trivial)
  simp only [feeHistoryParams,amount_stable lawful NumBlocksTag params.blockCount trivial,
    blockSpec_stable lawful words params.highestBlock trivial,percentiles]
  rfl

theorem getBlockByNumberParams_stable (lawful : wire.Lawful) (words : wire.WordsAreNoNumbers) :
    wire.getBlockByNumberParams.Stable (fun _ => True) := by
  intro params _
  simp only [getBlockByNumberParams,blockSpec_stable lawful words params.block trivial]
  rfl

end Stability
end WireText
end EvmRpc
