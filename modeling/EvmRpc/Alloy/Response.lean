import EvmRpc.Alloy.Primitives
import EvmRpc.Library.Conversion

/-! Conversion of replies to the types of the `alloy` crates, for clients that use these. -/
namespace EvmRpc.Alloy
open Library

section Conversion
variable (crate : Crate)

/-- `map` and `transpose` of an optional value. -/
def transposed {α β : Type} (convert : α → RpcResult β) : Option α → RpcResult (Option β)
  | none => .ok none
  | some value => (convert value).map some

def validationError {α : Type} (message : String) : RpcResult α := .error (.validationError (.custom message))

def Log.tryFrom (entry : Candid.LogEntry) : RpcResult Log := do
  let data ← match crate.logData (entry.topics.map HexString.data) entry.data.data with
    | some data => .ok data
    | none => validationError "Invalid log data"
  let blockNumber ← transposed (fun value => tryFromNat256 crate u64 value "block_number") entry.blockNumber
  let transactionIndex ←
    transposed (fun value => tryFromNat256 crate u64 value "transaction_index") entry.transactionIndex
  let logIndex ← transposed (fun value => tryFromNat256 crate u64 value "log_index") entry.logIndex
  .ok ⟨entry.address.data,data,entry.blockHash.map HexString.data,blockNumber,none,
    entry.transactionHash.map HexString.data,transactionIndex,logIndex,entry.removed⟩

def logsResult (result : MultiRpcResult (List Candid.LogEntry)) : MultiRpcResult (List Log) :=
  result.andThen (List.mapM (Log.tryFrom crate))

def FeeHistory.tryFrom (value : Candid.FeeHistory) : RpcResult FeeHistory := do
  let baseFeePerGas ← value.baseFeePerGas.mapM (fun reward => tryFromNat256 crate u128 reward "base_fee_per_gas")
  let oldestBlock ← tryFromNat256 crate u64 value.oldestBlock "oldest_block"
  let reward ← value.reward.mapM (List.mapM (fun reward => tryFromNat256 crate u128 reward "reward"))
  .ok ⟨baseFeePerGas,value.gasUsedRatio,[],[],oldestBlock,some reward⟩

def feeHistoryResult (result : MultiRpcResult Candid.FeeHistory) : MultiRpcResult FeeHistory :=
  result.andThen (FeeHistory.tryFrom crate)

def PARIS_BLOCK : ℕ := 15537394

def validateDifficulty (number : Nat256) (difficulty : Option Nat256) : RpcResult U256 :=
  if number.value < PARIS_BLOCK then
    match difficulty.map U256.ofNat256 with
    | some difficulty => .ok difficulty
    | none => validationError "Missing difficulty field in pre Paris upgrade block"
  else
    match difficulty.map U256.ofNat256 with
    | none => .ok 0
    | some difficulty =>
      if difficulty = 0 then .ok 0 else validationError "Post Paris upgrade block has non-zero difficulty"

def validateTransactionsRoot : Option Hex32 → RpcResult B256
  | some root => .ok root.data
  | none => validationError "Block does not have a transactions root field"

def Block.tryFrom (value : Candid.Block) : RpcResult Block := do
  let transactionsRoot ← validateTransactionsRoot value.transactionsRoot
  let difficulty ← validateDifficulty value.number value.difficulty
  let number ← tryFromNat256 crate u64 value.number "number"
  let gasLimit ← tryFromNat256 crate u64 value.gasLimit "gas_limit"
  let gasUsed ← tryFromNat256 crate u64 value.gasUsed "gas_used"
  let timestamp ← tryFromNat256 crate u64 value.timestamp "timestamp"
  let nonce ← B64.tryFrom crate value.nonce
  let baseFeePerGas ← transposed (fun value => tryFromNat256 crate u64 value "base_fee_per_gas") value.baseFeePerGas
  .ok {
    header := {
      hash := value.hash.data
      inner := {
        parentHash := value.parentHash.data
        ommersHash := value.sha3Uncles.data
        beneficiary := value.miner.data
        stateRoot := value.stateRoot.data
        transactionsRoot := transactionsRoot
        receiptsRoot := value.receiptsRoot.data
        logsBloom := value.logsBloom.data
        difficulty := difficulty
        number := number
        gasLimit := gasLimit
        gasUsed := gasUsed
        timestamp := timestamp
        extraData := value.extraData.data
        mixHash := value.mixHash.data
        nonce := nonce
        baseFeePerGas := baseFeePerGas
        withdrawalsRoot := none
        blobGasUsed := none
        excessBlobGas := none
        parentBeaconBlockRoot := none
        requestsHash := none }
      totalDifficulty := value.totalDifficulty.map U256.ofNat256
      size := some (U256.ofNat256 value.size) }
    uncles := value.uncles.map HexString.data
    transactions := value.transactions.map HexString.data }

def BYZANTIUM_BLOCK : ℕ := 4370000

def validateReceiptStatus (number : Nat256) (root : Option Hex32) (status : Option Nat256) : RpcResult Eip658Value :=
  if number.value < BYZANTIUM_BLOCK then
    match root with
    | none => validationError "Missing root field in transaction included before the Byzantium upgrade"
    | some root => .ok (.postState root.data)
  else
    match status.map U256.ofNat256 with
    | none => validationError "Missing status field in transaction included after the Byzantium upgrade"
    | some status =>
      if status = 0 then .ok (.eip658 false)
      else if status = 1 then .ok (.eip658 true)
      else validationError "Post-Byzantium receipt has invalid status (expected 0 or 1)"

def TxType.tryFrom (value : HexByte) : RpcResult TxType :=
  match crate.txType value.data.intoByte with
  | .ok txType => .ok txType
  | .error e => validationError ("Unable to parse transaction type: " ++ e)

def TransactionReceipt.tryFrom (receipt : Candid.TransactionReceipt) : RpcResult TransactionReceipt := do
  let txType ← TxType.tryFrom crate receipt.txType
  let status ← validateReceiptStatus receipt.blockNumber receipt.root receipt.status
  let cumulativeGasUsed ← tryFromNat256 crate u64 receipt.cumulativeGasUsed "cumulative_gas_used"
  let logs ← receipt.logs.mapM (Log.tryFrom crate)
  let transactionIndex ← tryFromNat256 crate u64 receipt.transactionIndex "transaction_index"
  let blockNumber ← tryFromNat256 crate u64 receipt.blockNumber "block_number"
  let gasUsed ← tryFromNat256 crate u64 receipt.gasUsed "gas_used"
  let effectiveGasPrice ← tryFromNat256 crate u128 receipt.effectiveGasPrice "effective_gas_price"
  .ok {
    inner := crate.fromTyped txType ⟨⟨status,cumulativeGasUsed,logs⟩,receipt.logsBloom.data⟩
    transactionHash := receipt.transactionHash.data
    transactionIndex := some transactionIndex
    blockHash := some receipt.blockHash.data
    blockNumber := some blockNumber
    gasUsed := gasUsed
    effectiveGasPrice := effectiveGasPrice
    blobGasUsed := none
    blobGasPrice := none
    sender := receipt.sender.data
    receiver := receipt.receiver.map HexString.data
    contractAddress := receipt.contractAddress.map HexString.data }

def receiptResult (result : MultiRpcResult (Option Candid.TransactionReceipt)) :
    MultiRpcResult (Option TransactionReceipt) := result.andThen (transposed (TransactionReceipt.tryFrom crate))

end Conversion

structure LogFits (entry : Candid.LogEntry) : Prop where
  topics : entry.topics.length ≤ 4
  blockNumber : ∀ value ∈ entry.blockNumber, value.value < 2^64
  transactionIndex : ∀ value ∈ entry.transactionIndex, value.value < 2^64
  logIndex : ∀ value ∈ entry.logIndex, value.value < 2^64

structure SameLog (entry : Candid.LogEntry) (log : Log) : Prop where
  address : log.address = entry.address.data
  topics : log.data.topics = entry.topics.map HexString.data
  data : log.data.data = entry.data.data
  blockNumber : log.blockNumber.map UInt64.toNat = entry.blockNumber.map Nat256.value
  transactionHash : log.transactionHash = entry.transactionHash.map HexString.data
  transactionIndex : log.transactionIndex.map UInt64.toNat = entry.transactionIndex.map Nat256.value
  blockHash : log.blockHash = entry.blockHash.map HexString.data
  logIndex : log.logIndex.map UInt64.toNat = entry.logIndex.map Nat256.value
  removed : log.removed = entry.removed

section Fitting
variable {crate : Crate}

theorem transposed_of_fits {given : Option Nat256} (fits : ∀ value ∈ given, value.value < 2^64) (fieldName : String) :
    ∃ converted, transposed (fun value => tryFromNat256 crate u64 value fieldName) given = .ok converted ∧
      converted.map UInt64.toNat = given.map Nat256.value := by
  cases given with
  | none => exact ⟨none,rfl,rfl⟩
  | some value =>
    have small := fits value rfl
    refine ⟨some (UInt64.ofNat value.value),?_,?_⟩
    · simp only [transposed,tryFromNat256_u64 small]
      rfl
    · simp [UInt64.toNat_ofNat_of_lt' small]

theorem Log.tryFrom_of_fits (lawful : crate.Lawful) {entry : Candid.LogEntry} (fits : LogFits entry) :
    ∃ log, Log.tryFrom crate entry = .ok log ∧ SameLog entry log := by
  have short := lawful.logData_short (entry.topics.map HexString.data) entry.data.data (by simpa using fits.topics)
  obtain ⟨blockNumber,first,number⟩ := @transposed_of_fits crate _ fits.blockNumber "block_number"
  obtain ⟨transactionIndex,second,index⟩ := @transposed_of_fits crate _ fits.transactionIndex "transaction_index"
  obtain ⟨logIndex,third,position⟩ := @transposed_of_fits crate _ fits.logIndex "log_index"
  refine ⟨⟨entry.address.data,⟨entry.topics.map HexString.data,entry.data.data⟩,entry.blockHash.map HexString.data,
    blockNumber,none,entry.transactionHash.map HexString.data,transactionIndex,logIndex,entry.removed⟩,?_,?_⟩
  · simp only [Log.tryFrom,short,first,second,third]
    rfl
  · exact ⟨rfl,rfl,rfl,number,rfl,index,rfl,position,rfl⟩

theorem transposed_failsOnly {α β : Type} {convert : α → RpcResult β} {refusal : RpcError → Prop}
    (fails : ∀ value, FailsOnly refusal (convert value)) (given : Option α) :
    FailsOnly refusal (transposed convert given) := by
  cases given with
  | none => exact .ok none
  | some value =>
    intro error failed
    cases outcome : convert value with
    | error other =>
      rw [transposed,outcome] at failed
      cases failed
      exact fails value _ outcome
    | ok converted =>
      rw [transposed,outcome] at failed
      cases failed

theorem validationError_failsOnly {α : Type} (message : String) :
    FailsOnly IsValidation (validationError message : RpcResult α) := by
  intro error failed
  cases failed
  exact ⟨_,rfl⟩

theorem fits_of_transposed {given : Option Nat256} {fieldName : String} {converted : Option UInt64}
    (done : transposed (fun value => tryFromNat256 crate u64 value fieldName) given = .ok converted) :
    ∀ value ∈ given, value.value < 2^64 := by
  intro value inside
  cases inside
  by_contra large
  rw [transposed,tryFromNat256,u64_of_not_lt large] at done
  cases done

/-- The part of the conversion that narrows numbers. -/
private def Log.narrowed (crate : Crate) (entry : Candid.LogEntry) (data : LogData) : RpcResult Log := do
  let blockNumber ← transposed (fun value => tryFromNat256 crate u64 value "block_number") entry.blockNumber
  let transactionIndex ←
    transposed (fun value => tryFromNat256 crate u64 value "transaction_index") entry.transactionIndex
  let logIndex ← transposed (fun value => tryFromNat256 crate u64 value "log_index") entry.logIndex
  .ok ⟨entry.address.data,data,entry.blockHash.map HexString.data,blockNumber,none,
    entry.transactionHash.map HexString.data,transactionIndex,logIndex,entry.removed⟩

private theorem Log.tryFrom_short (lawful : crate.Lawful) {entry : Candid.LogEntry} (short : entry.topics.length ≤ 4) :
    Log.tryFrom crate entry = Log.narrowed crate entry ⟨entry.topics.map HexString.data,entry.data.data⟩ := by
  have valid := lawful.logData_short (entry.topics.map HexString.data) entry.data.data (by simpa using short)
  simp only [Log.tryFrom,valid]
  rfl

private theorem Log.tryFrom_long (lawful : crate.Lawful) {entry : Candid.LogEntry} (long : ¬ entry.topics.length ≤ 4) :
    Log.tryFrom crate entry = validationError "Invalid log data" := by
  have refused := lawful.logData_long (entry.topics.map HexString.data) entry.data.data
    (by simpa using Nat.lt_of_not_le long)
  simp only [Log.tryFrom,refused]
  rfl

/-- A log converts exactly when it fits. -/
theorem Log.tryFrom_exact (lawful : crate.Lawful) : Exact (Log.tryFrom crate) LogFits SameLog IsValidation := by
  have narrowed (fieldName : String) (given : Option Nat256) :
      FailsOnly IsValidation (transposed (fun value => tryFromNat256 crate u64 value fieldName) given) :=
    transposed_failsOnly (fun value => tryFromNat256_failsOnly u64 value fieldName) given
  refine .of_ok (fun entry fits => Log.tryFrom_of_fits lawful fits) ?_ ?_
  · intro entry log done
    by_cases short : entry.topics.length ≤ 4
    · rw [Log.tryFrom_short lawful short] at done
      obtain ⟨blockNumber,first,done⟩ := ok_of_bind_ok done
      obtain ⟨transactionIndex,second,done⟩ := ok_of_bind_ok done
      obtain ⟨logIndex,third,_⟩ := ok_of_bind_ok done
      exact ⟨short,fits_of_transposed first,fits_of_transposed second,fits_of_transposed third⟩
    · rw [Log.tryFrom_long lawful short] at done
      cases done
  · intro entry
    by_cases short : entry.topics.length ≤ 4
    · rw [Log.tryFrom_short lawful short]
      exact .bind (narrowed _ _) (fun _ => .bind (narrowed _ _) (fun _ => .bind (narrowed _ _) (fun _ => .ok _)))
    · rw [Log.tryFrom_long lawful short]
      exact validationError_failsOnly "Invalid log data"

end Fitting

structure FeeHistoryFits (history : Candid.FeeHistory) : Prop where
  baseFeePerGas : ∀ fee ∈ history.baseFeePerGas, fee.value < 2^128
  oldestBlock : history.oldestBlock.value < 2^64
  reward : ∀ rewards ∈ history.reward, ∀ reward ∈ rewards, reward.value < 2^128

structure SameFeeHistory (history : Candid.FeeHistory) (converted : FeeHistory) : Prop where
  baseFeePerGas : converted.baseFeePerGas.map Fin.val = history.baseFeePerGas.map Nat256.value
  gasUsedRatio : converted.gasUsedRatio = history.gasUsedRatio
  baseFeePerBlobGas : converted.baseFeePerBlobGas = []
  blobGasUsedRatio : converted.blobGasUsedRatio = []
  oldestBlock : converted.oldestBlock.toNat = history.oldestBlock.value
  reward : converted.reward.map (List.map (List.map Fin.val)) = some (history.reward.map (List.map Nat256.value))

section FeeHistories
variable {crate : Crate}

private theorem fees_exact (fieldName : String) :
    Exact (List.mapM (fun fee => tryFromNat256 crate u128 fee fieldName)) (fun fees => ∀ fee ∈ fees, fee.value < 2^128)
      (fun fees converted => converted.map Fin.val = fees.map Nat256.value) IsValidation :=
  (tryFromNat256_u128_exact fieldName).list.mono (fun _ _ same => forall₂_eq_map_iff.mp same)

/-- A fee history converts exactly when it fits. -/
theorem FeeHistory.tryFrom_exact : Exact (FeeHistory.tryFrom crate) FeeHistoryFits SameFeeHistory IsValidation := by
  have base := @fees_exact crate "base_fee_per_gas"
  have rewards := (@fees_exact crate "reward").list
  have oldest := @tryFromNat256_u64_exact crate "oldest_block"
  refine .of_ok ?_ ?_ ?_
  · intro history fits
    obtain ⟨baseFeePerGas,first,sameBase⟩ := base.accepts _ fits.baseFeePerGas
    obtain ⟨oldestBlock,second,sameOldest⟩ := oldest.accepts _ fits.oldestBlock
    obtain ⟨reward,third,sameReward⟩ := rewards.accepts _ fits.reward
    refine ⟨⟨baseFeePerGas,history.gasUsedRatio,[],[],oldestBlock,some reward⟩,?_,
      sameBase,rfl,rfl,rfl,sameOldest,congrArg some (forall₂_eq_map_iff.mp sameReward)⟩
    simp only [FeeHistory.tryFrom,first,second,third]
    rfl
  · intro history converted done
    obtain ⟨baseFeePerGas,first,done⟩ := ok_of_bind_ok done
    obtain ⟨oldestBlock,second,done⟩ := ok_of_bind_ok done
    obtain ⟨reward,third,_⟩ := ok_of_bind_ok done
    exact ⟨base.fits_of_ok first,oldest.fits_of_ok second,rewards.fits_of_ok third⟩
  · intro history
    exact .bind (base.failsOnly _) (fun _ => .bind (oldest.failsOnly _) (fun _ =>
      .bind (rewards.failsOnly _) (fun _ => .ok _)))

/-- Logs and fee histories convert exactly or are refused as a whole, also inside of a
consistent result. -/
theorem logs_and_feeHistories_exact (lawful : crate.Lawful) :
    Exact (List.mapM (Log.tryFrom crate)) (fun entries => ∀ entry ∈ entries, LogFits entry)
      (List.Forall₂ SameLog) IsValidation ∧
    Exact (FeeHistory.tryFrom crate) FeeHistoryFits SameFeeHistory IsValidation ∧
    (∀ entries, logsResult crate (.consistent (.ok entries)) = .consistent (entries.mapM (Log.tryFrom crate))) ∧
    (∀ history, feeHistoryResult crate (.consistent (.ok history)) =
      .consistent (FeeHistory.tryFrom crate history)) :=
  ⟨(Log.tryFrom_exact lawful).list,FeeHistory.tryFrom_exact,fun _ => rfl,fun _ => rfl⟩

theorem logs_and_feeHistories_exact_reference :
    Exact (List.mapM (Log.tryFrom .reference)) (fun entries => ∀ entry ∈ entries, LogFits entry)
      (List.Forall₂ SameLog) IsValidation ∧
    Exact (FeeHistory.tryFrom .reference) FeeHistoryFits SameFeeHistory IsValidation ∧
    (∀ entries, logsResult .reference (.consistent (.ok entries)) =
      .consistent (entries.mapM (Log.tryFrom .reference))) ∧
    (∀ history, feeHistoryResult .reference (.consistent (.ok history)) =
      .consistent (FeeHistory.tryFrom .reference history)) :=
  logs_and_feeHistories_exact Crate.reference_lawful

end FeeHistories

structure ReceiptFits (receipt : Candid.TransactionReceipt) : Prop where
  txType : receipt.txType.data.intoByte ≤ 4
  effectiveGasPrice : receipt.effectiveGasPrice.value < 2^128
  blockNumber : receipt.blockNumber.value < 2^64
  transactionIndex : receipt.transactionIndex.value < 2^64
  gasUsed : receipt.gasUsed.value < 2^64
  cumulativeGasUsed : receipt.cumulativeGasUsed.value < 2^64
  logs : ∀ entry ∈ receipt.logs, LogFits entry
  status : receipt.status.map Nat256.value = some 0 ∨ receipt.status.map Nat256.value = some 1

/-- A receipt with the values of another one, its status apart. -/
structure SameReceipt (receipt : Candid.TransactionReceipt) (converted : TransactionReceipt) : Prop where
  txType : converted.inner.txType.toByte = receipt.txType.data.intoByte
  cumulativeGasUsed : converted.inner.asReceiptWithBloom.receipt.cumulativeGasUsed.toNat = receipt.cumulativeGasUsed.value
  logs : List.Forall₂ SameLog receipt.logs converted.inner.asReceiptWithBloom.receipt.logs
  logsBloom : converted.inner.asReceiptWithBloom.logsBloom = receipt.logsBloom.data
  transactionHash : converted.transactionHash = receipt.transactionHash.data
  transactionIndex : converted.transactionIndex.map UInt64.toNat = some receipt.transactionIndex.value
  blockHash : converted.blockHash = some receipt.blockHash.data
  blockNumber : converted.blockNumber.map UInt64.toNat = some receipt.blockNumber.value
  gasUsed : converted.gasUsed.toNat = receipt.gasUsed.value
  effectiveGasPrice : converted.effectiveGasPrice.val = receipt.effectiveGasPrice.value
  sender : converted.sender = receipt.sender.data
  receiver : converted.receiver = receipt.receiver.map HexString.data
  contractAddress : converted.contractAddress = receipt.contractAddress.map HexString.data

/-- The conversion of a receipt that keeps everything, also inside of a consistent result. -/
def ReceiptConverts (crate : Crate) (receipt : Candid.TransactionReceipt) : Prop :=
  ∃ converted, TransactionReceipt.tryFrom crate receipt = .ok converted ∧ SameReceipt receipt converted ∧
    (receipt.root = none → converted.inner.asReceiptWithBloom.receipt.status =
      .eip658 (decide (receipt.status.map Nat256.value = some 1))) ∧
    receiptResult crate (.consistent (.ok (some receipt))) = .consistent (.ok (some converted))

section Receipts
variable {crate : Crate}

theorem validateReceiptStatus_after {number : Nat256} {root : Option Hex32} {status : Option Nat256}
    (late : BYZANTIUM_BLOCK ≤ number.value)
    (binary : status.map Nat256.value = some 0 ∨ status.map Nat256.value = some 1) :
    validateReceiptStatus number root status = .ok (.eip658 (decide (status.map Nat256.value = some 1))) := by
  unfold validateReceiptStatus
  rw [if_neg (Nat.not_lt.mpr late)]
  cases status with
  | none => simp at binary
  | some status =>
    have one : U256.ofNat256 status = 1 ↔ status.value = 1 := by
      rw [← BitVec.toNat_inj,U256.toNat_ofNat256]
      rfl
    rcases binary with zero | unit
    · have zero : status.value = 0 := by simpa using zero
      simp [U256.ofNat256_eq_zero.mpr zero,zero]
    · have unit : status.value = 1 := by simpa using unit
      simp [one.mpr unit,unit]

theorem TransactionReceipt.tryFrom_of_status (lawful : crate.Lawful) {receipt : Candid.TransactionReceipt}
    (fits : ReceiptFits receipt) {status : Eip658Value}
    (valid : validateReceiptStatus receipt.blockNumber receipt.root receipt.status = .ok status) :
    ∃ converted, TransactionReceipt.tryFrom crate receipt = .ok converted ∧ SameReceipt receipt converted ∧
      converted.inner.asReceiptWithBloom.receipt.status = status := by
  obtain ⟨txType,known,byte⟩ := lawful.txType_small _ fits.txType
  have typed : TxType.tryFrom crate receipt.txType = .ok txType := by rw [TxType.tryFrom,known]
  obtain ⟨logs,converted,same⟩ := mapM_of_each (fun entry inside => Log.tryFrom_of_fits lawful (fits.logs entry inside))
  let inner := crate.fromTyped txType
    ⟨⟨status,UInt64.ofNat receipt.cumulativeGasUsed.value,logs⟩,receipt.logsBloom.data⟩
  have kept : inner.asReceiptWithBloom = _ := lawful.fromTyped_receipt txType _
  refine ⟨⟨inner,receipt.transactionHash.data,some (UInt64.ofNat receipt.transactionIndex.value),
    some receipt.blockHash.data,some (UInt64.ofNat receipt.blockNumber.value),UInt64.ofNat receipt.gasUsed.value,
    ⟨receipt.effectiveGasPrice.value,fits.effectiveGasPrice⟩,none,none,receipt.sender.data,
    receipt.receiver.map HexString.data,receipt.contractAddress.map HexString.data⟩,?_,?_,?_⟩
  · simp only [TransactionReceipt.tryFrom,typed,valid,converted,tryFromNat256_u64 fits.cumulativeGasUsed,
      tryFromNat256_u64 fits.transactionIndex,tryFromNat256_u64 fits.blockNumber,tryFromNat256_u64 fits.gasUsed,
      tryFromNat256_u128 fits.effectiveGasPrice]
    rfl
  · refine ⟨?_,?_,?_,?_,rfl,?_,rfl,?_,?_,rfl,rfl,rfl,rfl⟩
    · rw [lawful.fromTyped_txType,byte]
    · rw [kept]
      exact UInt64.toNat_ofNat_of_lt' fits.cumulativeGasUsed
    · rw [kept]
      exact same
    · rw [kept]
    · simp [UInt64.toNat_ofNat_of_lt' fits.transactionIndex]
    · simp [UInt64.toNat_ofNat_of_lt' fits.blockNumber]
    · exact UInt64.toNat_ofNat_of_lt' fits.gasUsed
  · rw [kept]

/-- A receipt that fits converts exactly from the block height of the Byzantium upgrade on,
unless it has a root. -/
theorem receipt_converts_iff (lawful : crate.Lawful) {receipt : Candid.TransactionReceipt} (fits : ReceiptFits receipt) :
    ReceiptConverts crate receipt ↔ BYZANTIUM_BLOCK ≤ receipt.blockNumber.value ∨ receipt.root ≠ none := by
  constructor
  · rintro ⟨converted,done,_⟩
    by_contra early
    obtain ⟨before,rootless⟩ := not_or.mp early
    have missing : validateReceiptStatus receipt.blockNumber receipt.root receipt.status =
        validationError "Missing root field in transaction included before the Byzantium upgrade" := by
      unfold validateReceiptStatus
      rw [if_pos (Nat.not_le.mp before),not_not.mp rootless]
    obtain ⟨txType,known,_⟩ := lawful.txType_small _ fits.txType
    have typed : TxType.tryFrom crate receipt.txType = .ok txType := by rw [TxType.tryFrom,known]
    simp only [TransactionReceipt.tryFrom,typed,missing] at done
    cases done
  · intro condition
    obtain ⟨status,valid,shown⟩ : ∃ status, validateReceiptStatus receipt.blockNumber receipt.root receipt.status =
        .ok status ∧ (receipt.root = none → status = .eip658 (decide (receipt.status.map Nat256.value = some 1))) := by
      by_cases late : BYZANTIUM_BLOCK ≤ receipt.blockNumber.value
      · exact ⟨_,validateReceiptStatus_after late fits.status,fun _ => rfl⟩
      · obtain ⟨root,present⟩ := Option.ne_none_iff_exists'.mp (condition.resolve_left late)
        refine ⟨.postState root.data,?_,fun none => by cases none.symm.trans present⟩
        unfold validateReceiptStatus
        rw [if_pos (Nat.not_le.mp late),present]
    obtain ⟨converted,done,same,kept⟩ := TransactionReceipt.tryFrom_of_status lawful fits valid
    refine ⟨converted,done,same,fun rootless => kept.trans (shown rootless),?_⟩
    have some' : transposed (TransactionReceipt.tryFrom crate) (some receipt) = .ok (some converted) := by
      rw [transposed,done]
      rfl
    simp only [receiptResult,MultiRpcResult.andThen,Except.bind,some']


private def transfer (number : Nat256) : Candid.TransactionReceipt where
  blockHash := ⟨default⟩
  blockNumber := number
  effectiveGasPrice := ⟨1000000000,by norm_num⟩
  gasUsed := ⟨21000,by norm_num⟩
  cumulativeGasUsed := ⟨21000,by norm_num⟩
  status := some ⟨1,by norm_num⟩
  root := none
  transactionHash := ⟨default⟩
  contractAddress := none
  sender := ⟨default⟩
  logs := []
  logsBloom := ⟨default⟩
  receiver := some ⟨default⟩
  transactionIndex := default
  txType := ⟨⟨2⟩⟩

theorem first_receipt_is_refused : ReceiptFits (transfer ⟨1,by decide⟩) ∧
    ¬ ReceiptConverts .reference (transfer ⟨1,by decide⟩) := by
  refine ⟨⟨by decide,by norm_num [transfer],by norm_num [transfer],by norm_num [transfer,default],
    by norm_num [transfer],by norm_num [transfer],by simp [transfer],.inr rfl⟩,?_⟩
  rintro ⟨converted,done,_⟩
  cases done

theorem receipt_converts_iff_at_byzantium : ReceiptConverts .reference (transfer ⟨4370000,by decide⟩) ↔
    BYZANTIUM_BLOCK ≤ 4370000 ∨ (transfer ⟨4370000,by decide⟩).root ≠ none :=
  receipt_converts_iff Crate.reference_lawful ⟨by decide,by norm_num [transfer],by norm_num [transfer],
    by norm_num [transfer,default],by norm_num [transfer],by norm_num [transfer],by simp [transfer],.inr rfl⟩

end Receipts

structure BlockFits (block : Candid.Block) : Prop where
  transactionsRoot : block.transactionsRoot ≠ none
  difficulty : block.difficulty ≠ none
  number : block.number.value < 2^64
  gasLimit : block.gasLimit.value < 2^64
  gasUsed : block.gasUsed.value < 2^64
  timestamp : block.timestamp.value < 2^64
  nonce : block.nonce.value < 2^64
  baseFeePerGas : ∀ value ∈ block.baseFeePerGas, value.value < 2^64

structure SameBlock (block : Candid.Block) (converted : Block) : Prop where
  hash : converted.header.hash = block.hash.data
  parentHash : converted.header.inner.parentHash = block.parentHash.data
  ommersHash : converted.header.inner.ommersHash = block.sha3Uncles.data
  beneficiary : converted.header.inner.beneficiary = block.miner.data
  stateRoot : converted.header.inner.stateRoot = block.stateRoot.data
  transactionsRoot : some converted.header.inner.transactionsRoot = block.transactionsRoot.map HexString.data
  receiptsRoot : converted.header.inner.receiptsRoot = block.receiptsRoot.data
  logsBloom : converted.header.inner.logsBloom = block.logsBloom.data
  difficulty : some converted.header.inner.difficulty.toNat = block.difficulty.map Nat256.value
  number : converted.header.inner.number.toNat = block.number.value
  gasLimit : converted.header.inner.gasLimit.toNat = block.gasLimit.value
  gasUsed : converted.header.inner.gasUsed.toNat = block.gasUsed.value
  timestamp : converted.header.inner.timestamp.toNat = block.timestamp.value
  extraData : converted.header.inner.extraData = block.extraData.data
  mixHash : converted.header.inner.mixHash = block.mixHash.data
  nonce : Positional.ofBigEndian converted.header.inner.nonce.1 = block.nonce.value
  baseFeePerGas : converted.header.inner.baseFeePerGas.map UInt64.toNat = block.baseFeePerGas.map Nat256.value
  totalDifficulty : converted.header.totalDifficulty.map BitVec.toNat = block.totalDifficulty.map Nat256.value
  size : converted.header.size.map BitVec.toNat = some block.size.value
  uncles : converted.uncles = block.uncles.map HexString.data
  transactions : converted.transactions = block.transactions.map HexString.data

section Blocks
variable {crate : Crate}

theorem validateDifficulty_of_some {number difficulty : Nat256} :
    validateDifficulty number (some difficulty) =
      if number.value < PARIS_BLOCK ∨ difficulty.value = 0 then .ok (U256.ofNat256 difficulty)
      else validationError "Post Paris upgrade block has non-zero difficulty" := by
  unfold validateDifficulty
  by_cases before : number.value < PARIS_BLOCK
  · rw [if_pos before,if_pos (.inl before)]
    rfl
  · by_cases zero : difficulty.value = 0
    · simp [before,zero,U256.ofNat256_eq_zero.mpr zero]
    · rw [if_neg before,if_neg (not_or.mpr ⟨before,zero⟩)]
      exact if_neg (fun same => zero (U256.ofNat256_eq_zero.mp same))

theorem Block.tryFrom_of_difficulty {block : Candid.Block} (fits : BlockFits block) {difficulty : Nat256}
    (given : block.difficulty = some difficulty)
    (valid : validateDifficulty block.number block.difficulty = .ok (U256.ofNat256 difficulty)) :
    ∃ converted, Block.tryFrom crate block = .ok converted ∧ SameBlock block converted := by
  obtain ⟨root,present⟩ := Option.ne_none_iff_exists'.mp fits.transactionsRoot
  have rooted : validateTransactionsRoot block.transactionsRoot = .ok root.data := by rw [present]; rfl
  obtain ⟨baseFeePerGas,fee,sameFee⟩ := @transposed_of_fits crate _ fits.baseFeePerGas "base_fee_per_gas"
  refine ⟨⟨⟨block.hash.data,⟨block.parentHash.data,block.sha3Uncles.data,block.miner.data,block.stateRoot.data,
    root.data,block.receiptsRoot.data,block.logsBloom.data,U256.ofNat256 difficulty,UInt64.ofNat block.number.value,
    UInt64.ofNat block.gasLimit.value,UInt64.ofNat block.gasUsed.value,UInt64.ofNat block.timestamp.value,
    block.extraData.data,block.mixHash.data,B64.ofUInt64 (UInt64.ofNat block.nonce.value),baseFeePerGas,none,none,none,
    none,none⟩,block.totalDifficulty.map U256.ofNat256,some (U256.ofNat256 block.size)⟩,
    block.uncles.map HexString.data,block.transactions.map HexString.data⟩,?_,?_⟩
  · simp only [Block.tryFrom,rooted,valid,tryFromNat256_u64 fits.number,tryFromNat256_u64 fits.gasLimit,
      tryFromNat256_u64 fits.gasUsed,tryFromNat256_u64 fits.timestamp,B64.tryFrom_of_lt fits.nonce,fee]
    rfl
  · refine ⟨rfl,rfl,rfl,rfl,rfl,?_,rfl,rfl,?_,UInt64.toNat_ofNat_of_lt' fits.number,
      UInt64.toNat_ofNat_of_lt' fits.gasLimit,UInt64.toNat_ofNat_of_lt' fits.gasUsed,
      UInt64.toNat_ofNat_of_lt' fits.timestamp,rfl,rfl,?_,sameFee,?_,?_,rfl,rfl⟩
    · rw [present]
      rfl
    · rw [given,U256.toNat_ofNat256]
      rfl
    · rw [B64.ofBigEndian_ofUInt64,UInt64.toNat_ofNat_of_lt' fits.nonce]
    · rw [Option.map_map]
      exact congrArg (Option.map · _) (funext U256.toNat_ofNat256)
    · simp

/-- A block that fits converts exactly up to the height of the Paris upgrade, unless its
difficulty is zero. -/
theorem block_converts_iff {block : Candid.Block} (fits : BlockFits block) :
    (∃ converted, Block.tryFrom crate block = .ok converted ∧ SameBlock block converted) ↔
      block.number.value < PARIS_BLOCK ∨ block.difficulty.map Nat256.value = some 0 := by
  obtain ⟨difficulty,given⟩ := Option.ne_none_iff_exists'.mp fits.difficulty
  have zero : block.difficulty.map Nat256.value = some 0 ↔ difficulty.value = 0 := by simp [given]
  rw [zero]
  constructor
  · rintro ⟨converted,done,_⟩
    by_contra outside
    have refused : validateDifficulty block.number block.difficulty =
        validationError "Post Paris upgrade block has non-zero difficulty" := by
      rw [given,validateDifficulty_of_some,if_neg outside]
    obtain ⟨root,present⟩ := Option.ne_none_iff_exists'.mp fits.transactionsRoot
    have rooted : validateTransactionsRoot block.transactionsRoot = .ok root.data := by rw [present]; rfl
    simp only [Block.tryFrom,rooted,refused] at done
    cases done
  · intro inside
    refine Block.tryFrom_of_difficulty fits given ?_
    rw [given,validateDifficulty_of_some,if_pos inside]

private def blockAt (number difficulty : Nat256) : Candid.Block where
  baseFeePerGas := none
  number := number
  difficulty := some difficulty
  extraData := ⟨[]⟩
  gasLimit := ⟨1125899906842624,by norm_num⟩
  gasUsed := ⟨21000,by norm_num⟩
  hash := ⟨default⟩
  logsBloom := ⟨default⟩
  miner := ⟨default⟩
  mixHash := ⟨default⟩
  nonce := default
  parentHash := ⟨default⟩
  receiptsRoot := ⟨default⟩
  sha3Uncles := ⟨default⟩
  size := default
  stateRoot := ⟨default⟩
  timestamp := ⟨1700000000,by norm_num⟩
  totalDifficulty := none
  transactions := []
  transactionsRoot := some ⟨default⟩
  uncles := []

private theorem blockAt_fits {number : Nat256} (small : number.value < 2^64) (difficulty : Nat256) :
    BlockFits (blockAt number difficulty) :=
  ⟨nofun,nofun,small,by norm_num [blockAt],by norm_num [blockAt],by norm_num [blockAt],by norm_num [blockAt,default],
    by simp [blockAt]⟩

theorem arbitrum_block_is_refused : BlockFits (blockAt ⟨150000000,by decide⟩ ⟨1,by decide⟩) ∧
    ¬ ∃ converted, Block.tryFrom .reference (blockAt ⟨150000000,by decide⟩ ⟨1,by decide⟩) = .ok converted ∧
      SameBlock (blockAt ⟨150000000,by decide⟩ ⟨1,by decide⟩) converted := by
  refine ⟨blockAt_fits (by norm_num) _,?_⟩
  rintro ⟨converted,done,_⟩
  cases done

theorem block_converts_iff_for_zero :
    (∃ converted, Block.tryFrom .reference (blockAt ⟨20000000,by decide⟩ default) = .ok converted ∧
      SameBlock (blockAt ⟨20000000,by decide⟩ default) converted) ↔
    20000000 < PARIS_BLOCK ∨ (blockAt ⟨20000000,by decide⟩ default).difficulty.map Nat256.value = some 0 :=
  block_converts_iff (blockAt_fits (by norm_num) default)

end Blocks
end EvmRpc.Alloy
