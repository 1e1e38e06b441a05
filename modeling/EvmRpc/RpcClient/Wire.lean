import EvmRpc.Library.Json
import EvmRpc.RpcClient.Responses

/-! How the JSON types are read and written. Crates that turn bytes, naturals of
256 bits and floating point numbers into text are parameters. -/
namespace EvmRpc
open Library
open Library.Json (Format Record Number)

/-- Texts of the `hex`, `ic_ethereum_types`, `ethnum` and `serde_json` crates. -/
structure WireText where
  hexEncode : List UInt8 → String
  fromHexVec : String → Option (List UInt8)
  fromHexArray : (n : ℕ) → String → Option (Bytes n)
  withPrefix : String → String
  stripPrefix : String → Option String
  printU256 : BitVec 256 → String
  parseU256 : String → Option (BitVec 256)
  printF64 : F64 → Option Number
  parseF64 : Number → Option F64

namespace WireText

/-- Hex digits are written in pairs behind a prefix, and what is written is read
again. A floating point number that was read from a token is written as a token
that reads the same. -/
structure Lawful (wire : WireText) : Prop where
  hexEncode_size : ∀ bytes, (wire.hexEncode bytes).utf8ByteSize = 2*bytes.length
  fromHexVec_hexEncode : ∀ bytes, wire.fromHexVec (wire.hexEncode bytes) = some bytes
  fromHexArray_hexEncode : ∀ n (bytes : Bytes n), wire.fromHexArray n (wire.hexEncode bytes.1) = some bytes
  stripPrefix_withPrefix : ∀ digits, wire.stripPrefix (wire.withPrefix digits) = some digits
  parseU256_printU256 : ∀ value, wire.parseU256 (wire.printU256 value) = some value
  parseF64_printF64 : ∀ token value, wire.parseF64 token = some value →
    ∃ written, wire.printF64 value = some written ∧ wire.parseF64 written = some value

def Readable (wire : WireText) (value : F64) : Prop := ∃ token, wire.parseF64 token = some value

section Formats
variable (wire : WireText)

def hexText {α : Type} (bytes : α → List UInt8) (fromHex : String → Option α) : Format α :=
  .text (fun value => wire.withPrefix (wire.hexEncode (bytes value)))
    (fun text => (wire.stripPrefix text).bind fromHex)

def bytesArray (n : ℕ) : Format (Json.BytesArray n) :=
  wire.hexText (fun array => array.intoBytes.1) (fun digits => (wire.fromHexArray n digits).map .mk)

def address : Format Json.Address :=
  wire.hexText (fun address => address.intoBytes.1) (fun digits => (wire.fromHexArray 20 digits).map .mk)

def data : Format Json.Data := wire.hexText Json.Data.bytes (fun digits => (wire.fromHexVec digits).map .mk)

/-- `Byte::from_hex`: a single digit is read as if it had a leading zero. -/
def byteFromHex (digits : String) : Option Byte :=
  let padded := if digits.utf8ByteSize = 1 then "0" ++ digits else digits
  (wire.fromHexArray 1 padded).bind (fun bytes => bytes.1.head?.map .mk)

def jsonByte : Format Json.JsonByte :=
  wire.hexText (fun byte => [byte.intoByte]) (fun digits => (wire.byteFromHex digits).map .mk)

def amount (Unit : Type) : Format (Amount Unit) :=
  .text (fun amount => wire.printU256 amount.inner) (fun text => (wire.parseU256 text).map .mk)

def transactionStatus : Format Json.TransactionStatus :=
  .text (fun status => wire.printU256 (match status with
      | .success => 1
      | .failure => 0))
    (fun text => match wire.parseU256 text with
      | some value => if value = 0 then some .failure else if value = 1 then some .success else none
      | none => none)

-- infinities and not a number are written as null
def f64 : Format F64 where
  encode value := match wire.printF64 value with
    | some token => .number token
    | none => .null
  decode
    | .number token => wire.parseF64 token
    | _ => none

def logEntryRecord : Record Json.LogEntry where
  names := ["address","topics","data","blockNumber","transactionHash","transactionIndex","blockHash",
    "logIndex","removed"]
  values entry := [wire.address.encode entry.address,(wire.bytesArray 32).list.encode entry.topics,
    wire.data.encode entry.data,(wire.amount BlockNumberTag).option.encode entry.blockNumber,
    (wire.bytesArray 32).option.encode entry.transactionHash,
    (wire.amount TransactionIndexTag).option.encode entry.transactionIndex,
    (wire.bytesArray 32).option.encode entry.blockHash,
    (wire.amount EthLogIndexTag).option.encode entry.logIndex,Format.boolean.encode entry.removed]
  build positional
    | [address,topics,data,blockNumber,transactionHash,transactionIndex,blockHash,logIndex,removed] => do
      let address ← Record.required wire.address address
      let topics ← Record.required (wire.bytesArray 32).list topics
      let data ← Record.required wire.data data
      let blockNumber ← Record.optional (wire.amount _) positional blockNumber
      let transactionHash ← Record.optional (wire.bytesArray 32) positional transactionHash
      let transactionIndex ← Record.optional (wire.amount _) positional transactionIndex
      let blockHash ← Record.optional (wire.bytesArray 32) positional blockHash
      let logIndex ← Record.optional (wire.amount _) positional logIndex
      let removed ← Record.defaulted .boolean false removed
      some ⟨address,topics,data,blockNumber,transactionHash,transactionIndex,blockHash,logIndex,removed⟩
    | _ => none

def logEntry : Format Json.LogEntry := wire.logEntryRecord.format

def transactionReceiptRecord : Record Json.TransactionReceipt where
  names := ["blockHash","blockNumber","effectiveGasPrice","cumulativeGasUsed","gasUsed","status","root",
    "transactionHash","contractAddress","from","logs","logsBloom","to","transactionIndex","type"]
  values receipt := [(wire.bytesArray 32).encode receipt.blockHash,(wire.amount _).encode receipt.blockNumber,
    (wire.amount _).encode receipt.effectiveGasPrice,(wire.amount _).encode receipt.cumulativeGasUsed,
    (wire.amount _).encode receipt.gasUsed,wire.transactionStatus.option.encode receipt.status,
    (wire.bytesArray 32).option.encode receipt.root,(wire.bytesArray 32).encode receipt.transactionHash,
    wire.address.option.encode receipt.contractAddress,wire.address.encode receipt.sender,
    wire.logEntry.list.encode receipt.logs,(wire.bytesArray 256).encode receipt.logsBloom,
    wire.address.option.encode receipt.receiver,(wire.amount _).encode receipt.transactionIndex,
    wire.jsonByte.encode receipt.txType]
  build positional
    | [blockHash,blockNumber,effectiveGasPrice,cumulativeGasUsed,gasUsed,status,root,transactionHash,
        contractAddress,sender,logs,logsBloom,receiver,transactionIndex,txType] => do
      let blockHash ← Record.required (wire.bytesArray 32) blockHash
      let blockNumber ← Record.required (wire.amount _) blockNumber
      let effectiveGasPrice ← Record.required (wire.amount _) effectiveGasPrice
      let cumulativeGasUsed ← Record.required (wire.amount _) cumulativeGasUsed
      let gasUsed ← Record.required (wire.amount _) gasUsed
      let status ← Record.optional wire.transactionStatus positional status
      let root ← Record.optional (wire.bytesArray 32) positional root
      let transactionHash ← Record.required (wire.bytesArray 32) transactionHash
      let contractAddress ← Record.optional wire.address positional contractAddress
      let sender ← Record.required wire.address sender
      let logs ← Record.required wire.logEntry.list logs
      let logsBloom ← Record.required (wire.bytesArray 256) logsBloom
      let receiver ← Record.optional wire.address positional receiver
      let transactionIndex ← Record.required (wire.amount _) transactionIndex
      let txType ← Record.required wire.jsonByte txType
      some ⟨blockHash,blockNumber,effectiveGasPrice,cumulativeGasUsed,gasUsed,status,root,transactionHash,
        contractAddress,sender,logs,logsBloom,receiver,transactionIndex,txType⟩
    | _ => none

def transactionReceipt : Format Json.TransactionReceipt := wire.transactionReceiptRecord.format

def blockRecord : Record Json.Block where
  names := ["baseFeePerGas","number","difficulty","extraData","gasLimit","gasUsed","hash","logsBloom","miner",
    "mixHash","nonce","parentHash","receiptsRoot","sha3Uncles","size","stateRoot","timestamp",
    "transactions","transactionsRoot","uncles"]
  values block := [(wire.amount _).option.encode block.baseFeePerGas,(wire.amount _).encode block.number,
    (wire.amount _).option.encode block.difficulty,wire.data.encode block.extraData,
    (wire.amount _).encode block.gasLimit,(wire.amount _).encode block.gasUsed,
    (wire.bytesArray 32).encode block.hash,(wire.bytesArray 256).encode block.logsBloom,
    wire.address.encode block.miner,(wire.bytesArray 32).encode block.mixHash,(wire.amount _).encode block.nonce,
    (wire.bytesArray 32).encode block.parentHash,(wire.bytesArray 32).encode block.receiptsRoot,
    (wire.bytesArray 32).encode block.sha3Uncles,(wire.amount _).encode block.size,
    (wire.bytesArray 32).encode block.stateRoot,(wire.amount _).encode block.timestamp,
    (wire.bytesArray 32).list.encode block.transactions,(wire.bytesArray 32).option.encode block.transactionsRoot,
    (wire.bytesArray 32).list.encode block.uncles]
  build positional
    | [baseFeePerGas,number,difficulty,extraData,gasLimit,gasUsed,hash,logsBloom,miner,mixHash,nonce,
        parentHash,receiptsRoot,sha3Uncles,size,stateRoot,timestamp,transactions,transactionsRoot,uncles] => do
      let baseFeePerGas ← Record.optional (wire.amount _) positional baseFeePerGas
      let number ← Record.required (wire.amount _) number
      let difficulty ← Record.optional (wire.amount _) positional difficulty
      let extraData ← Record.required wire.data extraData
      let gasLimit ← Record.required (wire.amount _) gasLimit
      let gasUsed ← Record.required (wire.amount _) gasUsed
      let hash ← Record.required (wire.bytesArray 32) hash
      let logsBloom ← Record.required (wire.bytesArray 256) logsBloom
      let miner ← Record.required wire.address miner
      let mixHash ← Record.required (wire.bytesArray 32) mixHash
      let nonce ← Record.required (wire.amount _) nonce
      let parentHash ← Record.required (wire.bytesArray 32) parentHash
      let receiptsRoot ← Record.required (wire.bytesArray 32) receiptsRoot
      let sha3Uncles ← Record.required (wire.bytesArray 32) sha3Uncles
      let size ← Record.required (wire.amount _) size
      let stateRoot ← Record.required (wire.bytesArray 32) stateRoot
      let timestamp ← Record.required (wire.amount _) timestamp
      let transactions ← Record.defaulted (wire.bytesArray 32).list [] transactions
      let transactionsRoot ← Record.optional (wire.bytesArray 32) positional transactionsRoot
      let uncles ← Record.defaulted (wire.bytesArray 32).list [] uncles
      some ⟨baseFeePerGas,number,difficulty,extraData,gasLimit,gasUsed,hash,logsBloom,miner,mixHash,nonce,
        parentHash,receiptsRoot,sha3Uncles,size,stateRoot,timestamp,transactions,transactionsRoot,uncles⟩
    | _ => none

def block : Format Json.Block := wire.blockRecord.format

def feeHistoryRecord : Record Json.FeeHistory where
  names := ["oldestBlock","baseFeePerGas","gasUsedRatio","reward"]
  values history := [(wire.amount _).encode history.oldestBlock,(wire.amount _).list.encode history.baseFeePerGas,
    wire.f64.list.encode history.gasUsedRatio,(wire.amount _).list.list.encode history.reward]
  build _
    | [oldestBlock,baseFeePerGas,gasUsedRatio,reward] => do
      let oldestBlock ← Record.required (wire.amount _) oldestBlock
      let baseFeePerGas ← Record.required (wire.amount _).list baseFeePerGas
      let gasUsedRatio ← Record.defaulted wire.f64.list [] gasUsedRatio
      let reward ← Record.defaulted (wire.amount _).list.list [] reward
      some ⟨oldestBlock,baseFeePerGas,gasUsedRatio,reward⟩
    | _ => none

def feeHistory : Format Json.FeeHistory := wire.feeHistoryRecord.format

def sendRawTransactionResult : Format Json.SendRawTransactionResult where
  encode
    | .ok => .string "Ok"
    | .insufficientFunds => .string "InsufficientFunds"
    | .nonceTooLow => .string "NonceTooLow"
    | .nonceTooHigh => .string "NonceTooHigh"
  decode json :=
    let variant := match json with
      | .string name => some name
      | .object [(name,.null)] => some name
      | _ => none
    match variant with
    | some "Ok" => some .ok
    | some "InsufficientFunds" => some .insufficientFunds
    | some "NonceTooLow" => some .nonceTooLow
    | some "NonceTooHigh" => some .nonceTooHigh
    | _ => none

end Formats
end WireText
end EvmRpc
