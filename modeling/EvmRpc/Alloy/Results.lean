import EvmRpc.Alloy.Requests
import EvmRpc.CandidRpc.Client

/-! Results of several providers, converted to the types of the `alloy` crates: which of them a client
can still tell apart. -/
namespace EvmRpc
open Library

namespace Alloy
section Results
variable (crate : Crate)

def callResult (result : MultiRpcResult Hex) : MultiRpcResult (List UInt8) := result.map HexString.data

def transactionCountResult (result : MultiRpcResult Nat256) : MultiRpcResult U256 := result.map U256.ofNat256

def blockResult (result : MultiRpcResult Candid.Block) : MultiRpcResult Block := result.andThen (Block.tryFrom crate)

/-- What `eth_sendRawTransaction` says on success, and its errors. -/
def ofSendRawTransactionStatus : Candid.SendRawTransactionStatus → RpcResult B256
  | .ok (some hash) => .ok hash.data
  | .ok none => validationError "Unable to compute transaction hash"
  | .insufficientFunds => .error (.jsonRpcError ⟨-32000,"Insufficient funds"⟩)
  | .nonceTooLow => .error (.jsonRpcError ⟨-32000,"Nonce too low"⟩)
  | .nonceTooHigh => .error (.jsonRpcError ⟨-32000,"Nonce too high"⟩)

def sendRawTransactionResult (result : MultiRpcResult Candid.SendRawTransactionStatus) : MultiRpcResult B256 :=
  result.andThen ofSendRawTransactionStatus

end Results
end Alloy

namespace RpcMethod
open Alloy

/-- The type of the crates that the result of a method is converted to. -/
def AlloyType : RpcMethod → Type
  | .ethCall => List UInt8
  | .ethFeeHistory => Alloy.FeeHistory
  | .ethGetLogs => List Alloy.Log
  | .ethGetBlockByNumber => Alloy.Block
  | .ethGetTransactionCount => U256
  | .ethGetTransactionReceipt => Option Alloy.TransactionReceipt
  | .ethSendRawTransaction => B256

instance (method : RpcMethod) : BEq method.AlloyType := match method with
  | .ethCall => inferInstanceAs (BEq (List UInt8))
  | .ethFeeHistory => inferInstanceAs (BEq Alloy.FeeHistory)
  | .ethGetLogs => inferInstanceAs (BEq (List Alloy.Log))
  | .ethGetBlockByNumber => inferInstanceAs (BEq Alloy.Block)
  | .ethGetTransactionCount => inferInstanceAs (BEq U256)
  | .ethGetTransactionReceipt => inferInstanceAs (BEq (Option Alloy.TransactionReceipt))
  | .ethSendRawTransaction => inferInstanceAs (BEq B256)

/-- The conversion of one result. -/
def toAlloy (crate : Crate) : (method : RpcMethod) → method.CandidType → RpcResult method.AlloyType
  | .ethCall,value => .ok (HexString.data value)
  | .ethFeeHistory,value => FeeHistory.tryFrom crate value
  | .ethGetLogs,value => List.mapM (Log.tryFrom crate) value
  | .ethGetBlockByNumber,value => Block.tryFrom crate value
  | .ethGetTransactionCount,value => .ok (U256.ofNat256 value)
  | .ethGetTransactionReceipt,value => transposed (TransactionReceipt.tryFrom crate) value
  | .ethSendRawTransaction,value => ofSendRawTransactionStatus value

/-- The conversion of what the canister answers. -/
def output (crate : Crate) : (method : RpcMethod) → MultiRpcResult method.CandidType → MultiRpcResult method.AlloyType
  | .ethCall,result => callResult result
  | .ethFeeHistory,result => feeHistoryResult crate result
  | .ethGetLogs,result => logsResult crate result
  | .ethGetBlockByNumber,result => blockResult crate result
  | .ethGetTransactionCount,result => transactionCountResult result
  | .ethGetTransactionReceipt,result => receiptResult crate result
  | .ethSendRawTransaction,result => sendRawTransactionResult result

theorem output_eq (crate : Crate) (method : RpcMethod) (result : MultiRpcResult method.CandidType) :
    method.output crate result = result.andThen (method.toAlloy crate) := by
  cases method with
  | ethCall => exact MultiRpcResult.map_eq_andThen _ _
  | ethGetTransactionCount => exact MultiRpcResult.map_eq_andThen _ _
  | _ => rfl

end RpcMethod

namespace Alloy

/-- A block without the difficulty that is not read from the height of the Paris upgrade on. -/
def shownBlock (block : Candid.Block) : Candid.Block :=
  {block with difficulty := if block.number.value < PARIS_BLOCK then block.difficulty else none}

/-- A receipt without the status, which is not read before the Byzantium upgrade, or without the root,
which is not read from then on. -/
def shownReceipt (receipt : Candid.TransactionReceipt) : Candid.TransactionReceipt :=
  if receipt.blockNumber.value < BYZANTIUM_BLOCK then {receipt with status := none} else {receipt with root := none}

section Restoring

-- what a client reads back from the types of the crates
def restoreLog (log : Log) : Candid.LogEntry where
  address := ⟨log.address⟩
  topics := log.data.topics.map .mk
  data := ⟨log.data.data⟩
  blockNumber := log.blockNumber.map .ofUInt64
  transactionHash := log.transactionHash.map .mk
  transactionIndex := log.transactionIndex.map .ofUInt64
  blockHash := log.blockHash.map .mk
  logIndex := log.logIndex.map .ofUInt64
  removed := log.removed

def restoreNonce (nonce : B64) : Nat256 :=
  ⟨Positional.ofBigEndian nonce.1,lt_trans (Positional.ofBigEndian_lt nonce.1) (by rw [nonce.2]; decide)⟩

def restoreBlock (block : Block) : Candid.Block where
  baseFeePerGas := block.header.inner.baseFeePerGas.map .ofUInt64
  number := .ofUInt64 block.header.inner.number
  difficulty := if block.header.inner.number.toNat < PARIS_BLOCK then some (.ofU256 block.header.inner.difficulty) else none
  extraData := ⟨block.header.inner.extraData⟩
  gasLimit := .ofUInt64 block.header.inner.gasLimit
  gasUsed := .ofUInt64 block.header.inner.gasUsed
  hash := ⟨block.header.hash⟩
  logsBloom := ⟨block.header.inner.logsBloom⟩
  miner := ⟨block.header.inner.beneficiary⟩
  mixHash := ⟨block.header.inner.mixHash⟩
  nonce := restoreNonce block.header.inner.nonce
  parentHash := ⟨block.header.inner.parentHash⟩
  receiptsRoot := ⟨block.header.inner.receiptsRoot⟩
  sha3Uncles := ⟨block.header.inner.ommersHash⟩
  size := .ofU256 (block.header.size.getD 0)
  stateRoot := ⟨block.header.inner.stateRoot⟩
  timestamp := .ofUInt64 block.header.inner.timestamp
  totalDifficulty := block.header.totalDifficulty.map .ofU256
  transactions := block.transactions.map .mk
  transactionsRoot := some ⟨block.header.inner.transactionsRoot⟩
  uncles := block.uncles.map .mk

def restoreReceipt (receipt : TransactionReceipt) : Candid.TransactionReceipt where
  blockHash := ⟨receipt.blockHash.getD default⟩
  blockNumber := .ofUInt64 (receipt.blockNumber.getD 0)
  effectiveGasPrice := .ofU128 receipt.effectiveGasPrice
  gasUsed := .ofUInt64 receipt.gasUsed
  cumulativeGasUsed := .ofUInt64 receipt.inner.asReceiptWithBloom.receipt.cumulativeGasUsed
  status := match receipt.inner.asReceiptWithBloom.receipt.status with
    | .eip658 success => some (.ofUInt64 success.toNat.toUInt64)
    | .postState _ => none
  root := match receipt.inner.asReceiptWithBloom.receipt.status with
    | .eip658 _ => none
    | .postState root => some ⟨root⟩
  transactionHash := ⟨receipt.transactionHash⟩
  contractAddress := receipt.contractAddress.map .mk
  sender := ⟨receipt.sender⟩
  logs := receipt.inner.asReceiptWithBloom.receipt.logs.map restoreLog
  logsBloom := ⟨receipt.inner.asReceiptWithBloom.logsBloom⟩
  receiver := receipt.receiver.map .mk
  transactionIndex := .ofUInt64 (receipt.transactionIndex.getD 0)
  txType := ⟨⟨receipt.inner.txType.toByte⟩⟩

/-- A byte that is read as a type of transactions is the number of that type. -/
def Crate.TypesAreNumbered (crate : Crate) : Prop := ∀ byte txType, crate.txType byte = .ok txType → txType.toByte = byte

theorem Crate.reference_typesAreNumbered : Crate.reference.TypesAreNumbered := by
  intro byte txType read
  unfold reference at read
  simp only at read
  split at read
  all_goals
    cases read
    try rfl

end Restoring

section Restored
variable {crate : Crate}

theorem ofUInt64_of_narrowed {value : Nat256} {fieldName : String} {narrow : UInt64}
    (done : tryFromNat256 crate u64 value fieldName = .ok narrow) : Nat256.ofUInt64 narrow = value :=
  Nat256.ext ((tryFromNat256_u64_exact fieldName).same_of_ok done)

theorem map_ofUInt64 {given : Option Nat256} {narrow : Option UInt64}
    (same : narrow.map UInt64.toNat = given.map Nat256.value) : narrow.map Nat256.ofUInt64 = given := by
  cases narrow with
  | none =>
    cases given with
    | none => rfl
    | some value => cases same
  | some n =>
    cases given with
    | none => cases same
    | some value => exact congrArg some (Nat256.ext (Option.some.inj same))

theorem map_ofUInt64_of_transposed {given : Option Nat256} {fieldName : String} {narrow : Option UInt64}
    (done : transposed (fun value => tryFromNat256 crate u64 value fieldName) given = .ok narrow) :
    narrow.map Nat256.ofUInt64 = given := by
  obtain ⟨converted,done',same⟩ := @transposed_of_fits crate _ (fits_of_transposed done) fieldName
  cases done.symm.trans done'
  exact map_ofUInt64 same

@[simp] theorem ofU256_ofNat256 (value : Nat256) : Nat256.ofU256 (U256.ofNat256 value) = value := by
  apply Nat256.ext
  rw [Nat256.ofU256_value,U256.toNat_ofNat256]

theorem restoreNonce_of_ok {value : Nat256} {nonce : B64} (done : B64.tryFrom crate value = .ok nonce) :
    restoreNonce nonce = value := by
  apply Nat256.ext
  by_cases fits : value.value < 2^64
  · rw [B64.tryFrom_of_lt fits] at done
    cases done
    exact (B64.ofBigEndian_ofUInt64 _).trans (UInt64.toNat_ofNat_of_lt' fits)
  · rw [B64.tryFrom,u64_of_not_lt fits] at done
    cases done

theorem restoreLog_of_ok (lawful : crate.Lawful) {entry : Candid.LogEntry} {log : Log}
    (done : Log.tryFrom crate entry = .ok log) : restoreLog log = entry := by
  have same := (Log.tryFrom_exact lawful).same_of_ok done
  obtain ⟨address,topics,data,blockNumber,transactionHash,transactionIndex,blockHash,logIndex,removed⟩ := entry
  have strings {n : ℕ} (given : List (HexString (Bytes n))) : (given.map HexString.data).map .mk = given := by
    simp [Function.comp_def]
  have string {n : ℕ} (given : Option (HexString (Bytes n))) : (given.map HexString.data).map .mk = given := by
    cases given <;> rfl
  simp only [restoreLog,same.address,same.topics,same.data,map_ofUInt64 same.blockNumber,same.transactionHash,
    map_ofUInt64 same.transactionIndex,same.blockHash,map_ofUInt64 same.logIndex,same.removed,strings,string]

theorem validateDifficulty_cases {number : Nat256} {difficulty : Option Nat256} {valid : U256}
    (accepted : validateDifficulty number difficulty = .ok valid) :
    (number.value < PARIS_BLOCK ∧ difficulty = some (.ofU256 valid)) ∨
      (¬ number.value < PARIS_BLOCK ∧ valid = 0) := by
  unfold validateDifficulty at accepted
  split at accepted
  · rename_i early
    cases difficulty with
    | none => cases accepted
    | some value =>
      cases accepted
      exact .inl ⟨early,congrArg some (ofU256_ofNat256 value).symm⟩
  · rename_i late
    refine .inr ⟨late,?_⟩
    split at accepted
    · cases accepted
      rfl
    · split at accepted
      · cases accepted
        rfl
      · cases accepted

/-- Whatever converts is restored as it is shown. -/
theorem restoreBlock_of_ok {block : Candid.Block} {converted : Block} (done : Block.tryFrom crate block = .ok converted) :
    restoreBlock converted = shownBlock block := by
  obtain ⟨root,rooted,done⟩ := ok_of_bind_ok done
  obtain ⟨difficulty,valid,done⟩ := ok_of_bind_ok done
  obtain ⟨number,height,done⟩ := ok_of_bind_ok done
  obtain ⟨gasLimit,limited,done⟩ := ok_of_bind_ok done
  obtain ⟨gasUsed,used,done⟩ := ok_of_bind_ok done
  obtain ⟨timestamp,timed,done⟩ := ok_of_bind_ok done
  obtain ⟨nonce,single,done⟩ := ok_of_bind_ok done
  obtain ⟨baseFeePerGas,fee,done⟩ := ok_of_bind_ok done
  cases done
  have present : some (⟨root⟩ : Hex32) = block.transactionsRoot := by
    unfold validateTransactionsRoot at rooted
    split at rooted
    · rename_i given same
      cases rooted
      exact same.symm
    · cases rooted
  have same : number.toNat = block.number.value := (tryFromNat256_u64_exact "number").same_of_ok height
  have kept : (if block.number.value < PARIS_BLOCK then some (Nat256.ofU256 difficulty) else none) =
      if block.number.value < PARIS_BLOCK then block.difficulty else none := by
    obtain ⟨early,given⟩ | ⟨late,_⟩ := validateDifficulty_cases valid
    · rw [if_pos early,if_pos early,given]
    · rw [if_neg late,if_neg late]
  have strings (given : List Hex32) : (given.map HexString.data).map .mk = given := by simp [Function.comp_def]
  have totals (given : Option Nat256) : (given.map U256.ofNat256).map .ofU256 = given := by
    cases given with
    | none => rfl
    | some value => exact congrArg some (ofU256_ofNat256 value)
  simp only [restoreBlock,shownBlock,same,kept,map_ofUInt64_of_transposed fee,ofUInt64_of_narrowed height,
    ofUInt64_of_narrowed limited,ofUInt64_of_narrowed used,ofUInt64_of_narrowed timed,restoreNonce_of_ok single,present,
    strings,totals,Option.getD_some,ofU256_ofNat256]

/-- The conversion does not depend on what is not shown. -/
theorem tryFrom_shownBlock {block : Candid.Block} {converted : Block} (done : Block.tryFrom crate block = .ok converted) :
    Block.tryFrom crate (shownBlock block) = .ok converted := by
  have unread : validateDifficulty block.number (shownBlock block).difficulty =
      validateDifficulty block.number block.difficulty := by
    obtain ⟨root,_,later⟩ := ok_of_bind_ok done
    obtain ⟨difficulty,valid,_⟩ := ok_of_bind_ok later
    by_cases early : block.number.value < PARIS_BLOCK
    · simp only [shownBlock,if_pos early]
    · obtain ⟨early',_⟩ | ⟨_,zero⟩ := validateDifficulty_cases valid
      · exact absurd early' early
      · rw [valid,zero]
        simp only [shownBlock,if_neg early]
        exact if_neg early
  rw [← done]
  unfold Block.tryFrom
  rw [← unread]
  rfl

theorem restoreLogs_of_ok (lawful : crate.Lawful) {entries : List Candid.LogEntry} {logs : List Log}
    (done : entries.mapM (Log.tryFrom crate) = .ok logs) : logs.map restoreLog = entries := by
  induction entries generalizing logs with
  | nil =>
    cases done
    rfl
  | cons entry entries ih =>
    rw [List.mapM_cons] at done
    obtain ⟨log,first,done⟩ := ok_of_bind_ok done
    obtain ⟨rest,later,done⟩ := ok_of_bind_ok done
    cases done
    rw [List.map_cons,restoreLog_of_ok lawful first,ih later]

theorem validateReceiptStatus_cases {number : Nat256} {root : Option Hex32} {status : Option Nat256} {valid : Eip658Value}
    (accepted : validateReceiptStatus number root status = .ok valid) :
    (number.value < BYZANTIUM_BLOCK ∧ ∃ given, root = some given ∧ valid = .postState given.data) ∨
      (¬ number.value < BYZANTIUM_BLOCK ∧ ∃ success : Bool, status = some (.ofUInt64 success.toNat.toUInt64) ∧
        valid = .eip658 success) := by
  unfold validateReceiptStatus at accepted
  split at accepted
  · rename_i early
    cases root with
    | none => cases accepted
    | some given =>
      cases accepted
      exact .inl ⟨early,given,rfl,rfl⟩
  · rename_i late
    refine .inr ⟨late,?_⟩
    cases status with
    | none => cases accepted
    | some value =>
      have number (success : Bool) (same : U256.ofNat256 value = BitVec.ofNat 256 success.toNat) :
          some value = some (Nat256.ofUInt64 success.toNat.toUInt64) := by
        have read := congrArg BitVec.toNat same
        rw [U256.toNat_ofNat256] at read
        refine congrArg some (Nat256.ext (read.trans ?_))
        cases success <;> rfl
      simp only [Option.map_some] at accepted
      split at accepted
      · rename_i zero
        cases accepted
        exact ⟨false,number false zero,rfl⟩
      · split at accepted
        · rename_i one
          cases accepted
          exact ⟨true,number true one,rfl⟩
        · cases accepted

theorem restoreReceipt_of_ok (lawful : crate.Lawful) (numbered : crate.TypesAreNumbered)
    {receipt : Candid.TransactionReceipt} {converted : TransactionReceipt}
    (done : TransactionReceipt.tryFrom crate receipt = .ok converted) :
    restoreReceipt converted = shownReceipt receipt := by
  obtain ⟨txType,typed,done⟩ := ok_of_bind_ok done
  obtain ⟨status,valid,done⟩ := ok_of_bind_ok done
  obtain ⟨cumulativeGasUsed,cumulated,done⟩ := ok_of_bind_ok done
  obtain ⟨logs,logged,done⟩ := ok_of_bind_ok done
  obtain ⟨transactionIndex,indexed,done⟩ := ok_of_bind_ok done
  obtain ⟨blockNumber,height,done⟩ := ok_of_bind_ok done
  obtain ⟨gasUsed,used,done⟩ := ok_of_bind_ok done
  obtain ⟨effectiveGasPrice,priced,done⟩ := ok_of_bind_ok done
  cases done
  have byte : (⟨⟨txType.toByte⟩⟩ : HexByte) = receipt.txType := by
    unfold TxType.tryFrom at typed
    split at typed
    · rename_i known read
      cases typed
      rw [numbered _ _ read]
    · cases typed
  have price : Nat256.ofU128 effectiveGasPrice = receipt.effectiveGasPrice :=
    Nat256.ext ((tryFromNat256_u128_exact "effective_gas_price").same_of_ok priced)
  have address (given : Option Hex20) : (given.map HexString.data).map .mk = given := by cases given <;> rfl
  simp only [restoreReceipt,lawful.fromTyped_receipt,lawful.fromTyped_txType,Option.getD_some,
    ofUInt64_of_narrowed height,ofUInt64_of_narrowed used,ofUInt64_of_narrowed cumulated,ofUInt64_of_narrowed indexed,
    restoreLogs_of_ok lawful logged,byte,price,address]
  obtain ⟨early,root,given,rfl⟩ | ⟨late,success,given,rfl⟩ := validateReceiptStatus_cases valid
  · simp only [shownReceipt,if_pos early,given]
  · simp only [shownReceipt,if_neg late,given]

theorem tryFrom_shownReceipt (receipt : Candid.TransactionReceipt) :
    TransactionReceipt.tryFrom crate (shownReceipt receipt) = TransactionReceipt.tryFrom crate receipt := by
  unfold shownReceipt TransactionReceipt.tryFrom validateReceiptStatus
  split
  · rfl
  · rfl

/-- Values that are restored from what they are converted to are told apart by it. -/
theorem identifies_of_restored {α β : Type} [BEq α] [LawfulBEq α] [BEq β] [LawfulBEq β] {convert : α → RpcResult β}
    {restore : β → α} {shown : α → α} (restored : ∀ {a x}, convert a = .ok x → restore x = shown a)
    (unread : ∀ {a x}, convert a = .ok x → convert (shown a) = .ok x) {a b : α} {x y : β} (done : convert a = .ok x)
    (done' : convert b = .ok y) : (x == y) = true ↔ (shown a == shown b) = true := by
  rw [beq_iff_eq,beq_iff_eq,← restored done,← restored done']
  constructor
  · exact congrArg restore
  · intro same
    rw [restored done,restored done'] at same
    have both := unread done
    rw [same,unread done'] at both
    exact (Except.ok.inj both).symm

-- the derived equality of a record that holds floating point numbers
theorem FeeHistory.beq_iff (x y : FeeHistory) : (x == y) = true ↔
    x.baseFeePerGas = y.baseFeePerGas ∧ (x.gasUsedRatio == y.gasUsedRatio) = true ∧
      x.baseFeePerBlobGas = y.baseFeePerBlobGas ∧ (x.blobGasUsedRatio == y.blobGasUsedRatio) = true ∧
      x.oldestBlock = y.oldestBlock ∧ x.reward = y.reward := by
  obtain ⟨base,ratio,blob,blobRatio,oldest,reward⟩ := x
  obtain ⟨base',ratio',blob',blobRatio',oldest',reward'⟩ := y
  change (base == base' && (ratio == ratio' && (blob == blob' && (blobRatio == blobRatio' &&
    (oldest == oldest' && reward == reward'))))) = true ↔ _
  simp

instance : PartialEquivBEq FeeHistory where
  symm := by
    intro x y same
    rw [FeeHistory.beq_iff] at same ⊢
    obtain ⟨base,ratio,blob,blobRatio,oldest,reward⟩ := same
    exact ⟨base.symm,BEq.symm ratio,blob.symm,BEq.symm blobRatio,oldest.symm,reward.symm⟩
  trans := by
    intro x y z first second
    rw [FeeHistory.beq_iff] at first second ⊢
    obtain ⟨base,ratio,blob,blobRatio,oldest,reward⟩ := first
    obtain ⟨base',ratio',blob',blobRatio',oldest',reward'⟩ := second
    exact ⟨base.trans base',BEq.trans ratio ratio',blob.trans blob',BEq.trans blobRatio blobRatio',
      oldest.trans oldest',reward.trans reward'⟩

theorem feeHistory_identifies {a b : Candid.FeeHistory} {x y : FeeHistory} (done : FeeHistory.tryFrom crate a = .ok x)
    (done' : FeeHistory.tryFrom crate b = .ok y) : (x == y) = true ↔ (a == b) = true := by
  have same := FeeHistory.tryFrom_exact.same_of_ok done
  have same' := FeeHistory.tryFrom_exact.same_of_ok done'
  have values : Function.Injective Nat256.value := fun _ _ equal => Nat256.ext equal
  have fees : x.baseFeePerGas = y.baseFeePerGas ↔ a.baseFeePerGas = b.baseFeePerGas := by
    rw [← (List.map_injective_iff.mpr Fin.val_injective).eq_iff,same.baseFeePerGas,same'.baseFeePerGas,
      (List.map_injective_iff.mpr values).eq_iff]
  have oldest : x.oldestBlock = y.oldestBlock ↔ a.oldestBlock = b.oldestBlock := by
    rw [← UInt64.toNat_inj,same.oldestBlock,same'.oldestBlock,values.eq_iff]
  have lists := List.map_injective_iff.mpr (List.map_injective_iff.mpr (@Fin.val_injective (2^128)))
  have rewards : x.reward = y.reward ↔ a.reward = b.reward := by
    rw [← (Option.map_injective lists).eq_iff,same.reward,same'.reward,Option.some_inj,
      (List.map_injective_iff.mpr (List.map_injective_iff.mpr values)).eq_iff]
  rw [FeeHistory.beq_iff,Candid.FeeHistory.beq_iff,fees,oldest,rewards,same.gasUsedRatio,same'.gasUsedRatio,
    same.baseFeePerBlobGas,same'.baseFeePerBlobGas,same.blobGasUsedRatio,same'.blobGasUsedRatio]
  constructor
  · rintro ⟨base,ratio,_,_,block,reward⟩
    exact ⟨block,base,ratio,reward⟩
  · rintro ⟨block,base,ratio,reward⟩
    exact ⟨base,ratio,rfl,rfl,block,reward⟩

end Restored
end Alloy

namespace RpcMethod
open Alloy

/-- What the conversion of a result reads of it. -/
def shown : (method : RpcMethod) → method.CandidType → method.CandidType
  | .ethGetBlockByNumber,block => shownBlock block
  | .ethGetTransactionReceipt,receipt => Option.map shownReceipt receipt
  | _,value => value

instance (method : RpcMethod) : PartialEquivBEq method.AlloyType := match method with
  | .ethCall => inferInstanceAs (PartialEquivBEq (List UInt8))
  | .ethFeeHistory => inferInstanceAs (PartialEquivBEq Alloy.FeeHistory)
  | .ethGetLogs => inferInstanceAs (PartialEquivBEq (List Alloy.Log))
  | .ethGetBlockByNumber => inferInstanceAs (PartialEquivBEq Alloy.Block)
  | .ethGetTransactionCount => inferInstanceAs (PartialEquivBEq U256)
  | .ethGetTransactionReceipt => inferInstanceAs (PartialEquivBEq (Option Alloy.TransactionReceipt))
  | .ethSendRawTransaction => inferInstanceAs (PartialEquivBEq B256)

variable {crate : Crate}

theorem shown_unread {method : RpcMethod} {value : method.CandidType} {converted : method.AlloyType}
    (done : method.toAlloy crate value = .ok converted) : method.toAlloy crate (method.shown value) = .ok converted := by
  cases method with
  | ethGetBlockByNumber => exact tryFrom_shownBlock done
  | ethGetTransactionReceipt =>
    cases (value : Option Candid.TransactionReceipt) with
    | none => exact done
    | some receipt =>
      rw [← done]
      exact congrArg (Except.map some) (tryFrom_shownReceipt receipt)
  | _ => exact done

/-- Results are converted alike exactly when they are shown alike. -/
theorem toAlloy_identifies (lawful : crate.Lawful) (numbered : crate.TypesAreNumbered) (method : RpcMethod)
    (a b : method.CandidType) (x y : method.AlloyType) (done : method.toAlloy crate a = .ok x)
    (done' : method.toAlloy crate b = .ok y) : (x == y) = true ↔ (method.shown a == method.shown b) = true := by
  cases method with
  | ethCall =>
    have restored {a : Hex} {x : List UInt8} (done : (.ok a.data : RpcResult (List UInt8)) = .ok x) :
        (⟨x⟩ : Hex) = id a := by
      cases done
      rfl
    exact identifies_of_restored restored (fun done => done) done done'
  | ethFeeHistory => exact feeHistory_identifies done done'
  | ethGetLogs =>
    exact @identifies_of_restored (List Candid.LogEntry) (List Log) _ _ _ _ _ _ id (restoreLogs_of_ok lawful)
      (fun done => done) a b x y done done'
  | ethGetBlockByNumber =>
    exact @identifies_of_restored Candid.Block Block _ _ _ _ _ _ shownBlock restoreBlock_of_ok tryFrom_shownBlock a b x y
      done done'
  | ethGetTransactionCount =>
    have restored {a : Nat256} {x : U256} (done : (.ok (U256.ofNat256 a) : RpcResult U256) = .ok x) :
        Nat256.ofU256 x = id a := by
      cases done
      exact ofU256_ofNat256 a
    exact identifies_of_restored restored (fun done => done) done done'
  | ethGetTransactionReceipt =>
    have restored {a : Option Candid.TransactionReceipt} {x : Option TransactionReceipt}
        (done : transposed (TransactionReceipt.tryFrom crate) a = .ok x) :
        x.map restoreReceipt = a.map shownReceipt := by
      cases a with
      | none =>
        cases done
        rfl
      | some receipt =>
        cases converted : TransactionReceipt.tryFrom crate receipt with
        | error error =>
          rw [transposed,converted] at done
          cases done
        | ok value =>
          rw [transposed,converted] at done
          cases done
          exact congrArg some (restoreReceipt_of_ok lawful numbered converted)
    have unread {a : Option Candid.TransactionReceipt} {x : Option TransactionReceipt}
        (done : transposed (TransactionReceipt.tryFrom crate) a = .ok x) :
        transposed (TransactionReceipt.tryFrom crate) (a.map shownReceipt) = .ok x :=
      @shown_unread crate .ethGetTransactionReceipt a x done
    exact @identifies_of_restored (Option Candid.TransactionReceipt) (Option TransactionReceipt) _ _ _ _ _ _
      (Option.map shownReceipt) restored unread a b x y done done'
  | ethSendRawTransaction =>
    have restored {a : Candid.SendRawTransactionStatus} {x : B256} (done : ofSendRawTransactionStatus a = .ok x) :
        Candid.SendRawTransactionStatus.ok (some ⟨x⟩) = id a := by
      unfold ofSendRawTransactionStatus at done
      split at done
      · cases done
        rfl
      all_goals cases done
    exact identifies_of_restored restored (fun done => done) done done'

end RpcMethod

/-- How an inconsistent answer of the canister reaches a client: as a success exactly when all providers
gave values that convert and are shown alike, as an error exactly when all came to that error, and
otherwise as a list of what each of them gave. -/
structure SeesAgreement (crate : Alloy.Crate) (method : RpcMethod) (results : List (RpcService × RpcResult method.CandidType)) :
    Prop where
  success : (∃ value, method.output crate (.inconsistent results) = .consistent (.ok value)) ↔ results ≠ [] ∧
    (∀ entry ∈ results, ∃ a x, entry.2 = .ok a ∧ method.toAlloy crate a = .ok x) ∧
    ∀ entry ∈ results, ∀ other ∈ results, ∀ a b, entry.2 = .ok a → other.2 = .ok b →
      (method.shown a == method.shown b) = true
  failure : ∀ error, method.output crate (.inconsistent results) = .consistent (.error error) ↔ results ≠ [] ∧
    ∀ entry ∈ results, entry.2.bind (method.toAlloy crate) = .error error
  otherwise : ∀ listed, method.output crate (.inconsistent results) = .inconsistent listed →
    List.Forall₂ (MultiRpcResult.ConvertedBy (method.toAlloy crate)) results listed

/-- Clients see exactly the agreement that there is, but for what the types of the crates do not show:
the difficulty of a block from Paris on, the status of a receipt before Byzantium and its root from then on. -/
theorem clients_see_agreement_exactly {crate : Alloy.Crate} (lawful : crate.Lawful) (numbered : crate.TypesAreNumbered)
    (method : RpcMethod) :
    (∀ result, method.output crate (.consistent result) = .consistent (result.bind (method.toAlloy crate))) ∧
      ∀ results, SeesAgreement crate method results := by
  refine ⟨fun result => method.output_eq crate _,fun results => ?_⟩
  constructor
  · rw [method.output_eq]
    exact MultiRpcResult.andThen_succeeds_iff (RpcMethod.toAlloy_identifies lawful numbered method)
  · intro error
    rw [method.output_eq]
    exact MultiRpcResult.andThen_fails_iff
  · intro listed kept
    rw [method.output_eq] at kept
    exact MultiRpcResult.andThen_keeps kept

/-- A block at the height of the upgrade. -/
def parisBlock (difficulty : Option Nat256) : Candid.Block where
  baseFeePerGas := some ⟨7,by decide⟩
  number := ⟨15537394,by decide⟩
  difficulty := difficulty
  extraData := ⟨[]⟩
  gasLimit := default
  gasUsed := default
  hash := ⟨default⟩
  logsBloom := ⟨default⟩
  miner := ⟨default⟩
  mixHash := ⟨default⟩
  nonce := default
  parentHash := ⟨default⟩
  receiptsRoot := ⟨default⟩
  sha3Uncles := ⟨default⟩
  size := default
  stateRoot := ⟨default⟩
  timestamp := default
  totalDifficulty := none
  transactions := []
  transactionsRoot := some ⟨default⟩
  uncles := []

theorem clients_see_agreement_exactly_at_paris : ∃ value, RpcMethod.ethGetBlockByNumber.output .reference
    (.inconsistent [(.ethMainnet .alchemy,.ok (parisBlock none)),(.ethMainnet .ankr,.ok (parisBlock (some default)))]) =
      .consistent (.ok value) := by
  refine ((clients_see_agreement_exactly Alloy.Crate.reference_lawful Alloy.Crate.reference_typesAreNumbered
    .ethGetBlockByNumber).2 _).success.mpr ⟨List.cons_ne_nil _ _,?_,?_⟩
  · intro entry inside
    rcases List.mem_cons.mp inside with rfl | inside
    · exact ⟨_,_,rfl,rfl⟩
    · obtain rfl := List.mem_singleton.mp inside
      exact ⟨_,_,rfl,rfl⟩
  · have each : ∀ entry ∈ [((.ethMainnet .alchemy : RpcService),(.ok (parisBlock none) : RpcResult Candid.Block)),
        (.ethMainnet .ankr,.ok (parisBlock (some default)))], ∀ a, entry.2 = .ok a →
          Alloy.shownBlock a = parisBlock none := by
      intro entry inside a returned
      rcases List.mem_cons.mp inside with rfl | inside
      · cases returned
        rfl
      · obtain rfl := List.mem_singleton.mp inside
        cases returned
        rfl
    intro entry inside other inside' a b returned returned'
    exact (beq_iff_eq (α := Candid.Block)).mpr ((each entry inside a returned).trans (each other inside' b returned').symm)

end EvmRpc
