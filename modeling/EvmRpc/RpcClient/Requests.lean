import EvmRpc.Library.SparseRecord
import EvmRpc.RpcClient.Reference
import EvmRpc.RpcClient.Roundtrip

/-! Parameters of the JSON-RPC methods, and how they are written. -/
namespace EvmRpc
open Library
open Library.Json (Format Record SparseRecord)

namespace Json

inductive BlockTag where
  | latest | safe | finalized | earliest | pending
  deriving DecidableEq

instance : Inhabited BlockTag := ⟨.latest⟩

inductive BlockSpec where
  | number (number : BlockNumber)
  | tag (tag : BlockTag)
  deriving DecidableEq

instance : Inhabited BlockSpec := ⟨.tag default⟩

structure GetLogsParam where
  fromBlock : BlockSpec
  toBlock : BlockSpec
  address : List Address
  topics : List (List FixedSizeData)
  deriving DecidableEq

structure AccessListItem where
  address : Address
  storageKeys : List StorageKey
  deriving DecidableEq

structure AccessList where
  items : List AccessListItem
  deriving DecidableEq

structure TransactionRequest where
  txType : Option JsonByte
  nonce : Option TransactionNonce
  receiver : Option Address
  sender : Option Address
  gas : Option GasAmount
  value : Option Wei
  input : Option Data
  gasPrice : Option WeiPerGas
  maxPriorityFeePerGas : Option WeiPerGas
  maxFeePerGas : Option WeiPerGas
  maxFeePerBlobGas : Option WeiPerGas
  accessList : Option AccessList
  blobVersionedHashes : Option (List Hash)
  blobs : Option (List Data)
  chainId : Option ChainId
  deriving DecidableEq

structure EthCallParams where
  transaction : TransactionRequest
  block : BlockSpec
  deriving DecidableEq

def BlockTag.name : BlockTag → String
  | .latest => "latest"
  | .safe => "safe"
  | .finalized => "finalized"
  | .earliest => "earliest"
  | .pending => "pending"

def BlockTag.ofName : String → Option BlockTag
  | "latest" => some .latest
  | "safe" => some .safe
  | "finalized" => some .finalized
  | "earliest" => some .earliest
  | "pending" => some .pending
  | _ => none

@[simp] theorem BlockTag.ofName_name (tag : BlockTag) : ofName tag.name = some tag := by cases tag <;> rfl

end Json

namespace WireText

/-- The words for blocks are not read as numbers. -/
def WordsAreNoNumbers (wire : WireText) : Prop := ∀ tag : Json.BlockTag, wire.parseU256 tag.name = none

section Formats
variable (wire : WireText)

/-- The name of a variant without data. -/
def unitVariant : Library.Json → Option String
  | .string name => some name
  | .object [(name,.null)] => some name
  | _ => none

-- untagged, so the variants are tried in the order of their declaration
def blockSpec : Format Json.BlockSpec where
  encode
    | .number number => (wire.amount _).encode number
    | .tag tag => .string tag.name
  decode json :=
    match (wire.amount BlockNumberTag).decode json with
    | some number => some (.number number)
    | none => ((unitVariant json).bind Json.BlockTag.ofName).map .tag

/-- Topics are left out when there are none, and here an absent member reads as none. -/
def getLogsParamRecord : SparseRecord Json.GetLogsParam where
  names := ["fromBlock","toBlock","address","topics"]
  given param := [some (wire.blockSpec.encode param.fromBlock),some (wire.blockSpec.encode param.toBlock),
    some (wire.address.list.encode param.address),
    if param.topics = [] then none else some ((wire.bytesArray 32).list.list.encode param.topics)]
  build _
    | [fromBlock,toBlock,address,topics] => do
      let fromBlock ← Record.required wire.blockSpec fromBlock
      let toBlock ← Record.required wire.blockSpec toBlock
      let address ← Record.required wire.address.list address
      let topics ← Record.defaulted (wire.bytesArray 32).list.list [] topics
      some ⟨fromBlock,toBlock,address,topics⟩
    | _ => none

def getLogsParam : Format Json.GetLogsParam := wire.getLogsParamRecord.format

def accessListItemRecord : Record Json.AccessListItem where
  names := ["address","storageKeys"]
  values item := [wire.address.encode item.address,(wire.bytesArray 32).list.encode item.storageKeys]
  build _
    | [address,storageKeys] => do
      let address ← Record.required wire.address address
      let storageKeys ← Record.required (wire.bytesArray 32).list storageKeys
      some ⟨address,storageKeys⟩
    | _ => none

def accessList : Format Json.AccessList where
  encode list := wire.accessListItemRecord.format.list.encode list.items
  decode json := (wire.accessListItemRecord.format.list.decode json).map .mk

def transactionRequestRecord : SparseRecord Json.TransactionRequest where
  names := ["type","nonce","to","from","gas","value","input","gasPrice","maxPriorityFeePerGas","maxFeePerGas",
    "maxFeePerBlobGas","accessList","blobVersionedHashes","blobs","chainId"]
  given request := [request.txType.map wire.jsonByte.encode,request.nonce.map (wire.amount _).encode,
    request.receiver.map wire.address.encode,request.sender.map wire.address.encode,
    request.gas.map (wire.amount _).encode,request.value.map (wire.amount _).encode,
    request.input.map wire.data.encode,request.gasPrice.map (wire.amount _).encode,
    request.maxPriorityFeePerGas.map (wire.amount _).encode,request.maxFeePerGas.map (wire.amount _).encode,
    request.maxFeePerBlobGas.map (wire.amount _).encode,request.accessList.map wire.accessList.encode,
    request.blobVersionedHashes.map (wire.bytesArray 32).list.encode,request.blobs.map wire.data.list.encode,
    request.chainId.map (wire.amount _).encode]
  build positional
    | [txType,nonce,receiver,sender,gas,value,input,gasPrice,maxPriorityFeePerGas,maxFeePerGas,maxFeePerBlobGas,
        accessList,blobVersionedHashes,blobs,chainId] => do
      let txType ← Record.optional wire.jsonByte positional txType
      let nonce ← Record.optional (wire.amount _) positional nonce
      let receiver ← Record.optional wire.address positional receiver
      let sender ← Record.optional wire.address positional sender
      let gas ← Record.optional (wire.amount _) positional gas
      let value ← Record.optional (wire.amount _) positional value
      let input ← Record.optional wire.data positional input
      let gasPrice ← Record.optional (wire.amount _) positional gasPrice
      let maxPriorityFeePerGas ← Record.optional (wire.amount _) positional maxPriorityFeePerGas
      let maxFeePerGas ← Record.optional (wire.amount _) positional maxFeePerGas
      let maxFeePerBlobGas ← Record.optional (wire.amount _) positional maxFeePerBlobGas
      let accessList ← Record.optional wire.accessList positional accessList
      let blobVersionedHashes ← Record.optional (wire.bytesArray 32).list positional blobVersionedHashes
      let blobs ← Record.optional wire.data.list positional blobs
      let chainId ← Record.optional (wire.amount _) positional chainId
      some ⟨txType,nonce,receiver,sender,gas,value,input,gasPrice,maxPriorityFeePerGas,maxFeePerGas,
        maxFeePerBlobGas,accessList,blobVersionedHashes,blobs,chainId⟩
    | _ => none

def transactionRequest : Format Json.TransactionRequest := wire.transactionRequestRecord.format

/-- Written as the pair of the transaction and the block. -/
def ethCallParams : Format Json.EthCallParams where
  encode params := .array [wire.transactionRequest.encode params.transaction,wire.blockSpec.encode params.block]
  decode
    | .array [transaction,block] => do
      let transaction ← wire.transactionRequest.decode transaction
      let block ← wire.blockSpec.decode block
      some ⟨transaction,block⟩
    | _ => none

end Formats

section Stability
variable {wire : WireText}

private theorem given_stable {α : Type} {format : Format α} (stable : format.Stable (fun _ => True))
    (present : format.Present) (positional : Bool) {value : Option α} (known : positional = false) :
    Record.optional format positional (value.map format.encode) = some value := by
  subst known
  cases value with
  | none => rfl
  | some value => exact Format.option_stable stable present (some value) (fun _ _ => trivial)

private theorem lists_stable {α : Type} {format : Format α} (stable : format.Stable (fun _ => True)) :
    format.list.Stable (fun _ => True) :=
  fun values _ => Format.list_stable stable values (fun _ _ => trivial)

private theorem member_stable {α : Type} {format : Format α} (stable : format.Stable (fun _ => True))
    (value : α) : Record.required format (some (format.encode value)) = some value := stable value trivial

private theorem list_present {α : Type} (format : Format α) : format.list.Present := fun _ written => by cases written

/-- A number or a word is read as what it was written for. -/
theorem blockSpec_stable (lawful : wire.Lawful) (words : wire.WordsAreNoNumbers) :
    wire.blockSpec.Stable (fun _ => True) := by
  intro spec _
  cases spec with
  | number number => simp only [blockSpec,amount_stable lawful BlockNumberTag number trivial]
  | tag tag =>
    have word : (wire.amount BlockNumberTag).decode (.string tag.name) = none := by
      change (wire.parseU256 tag.name).map Amount.mk = none
      rw [words tag,Option.map_none]
    simp only [blockSpec,word,unitVariant,Option.bind_some,Json.BlockTag.ofName_name,Option.map_some]

theorem getLogsParam_stable (lawful : wire.Lawful) (words : wire.WordsAreNoNumbers) :
    wire.getLogsParam.Stable (fun _ => True) := by
  have block := blockSpec_stable lawful words
  have topics := lists_stable (lists_stable (bytesArray_stable lawful 32))
  apply SparseRecord.stable (by dsimp only [getLogsParamRecord]; decide) (fun _ => rfl)
  intro param
  obtain ⟨fromBlock,toBlock,address,listed⟩ := param
  by_cases empty : listed = []
  · simp only [getLogsParamRecord,member_stable block,member_stable (lists_stable (address_stable lawful)),empty]
    rfl
  · have kept : Record.defaulted (wire.bytesArray 32).list.list []
        (some ((wire.bytesArray 32).list.list.encode listed)) = some listed := topics listed trivial
    simp only [getLogsParamRecord,member_stable block,member_stable (lists_stable (address_stable lawful)),
      if_neg empty,kept]
    rfl

theorem accessList_stable (lawful : wire.Lawful) : wire.accessList.Stable (fun _ => True) := by
  have item : wire.accessListItemRecord.format.Stable (fun _ => True) := by
    apply Record.stable (by dsimp only [accessListItemRecord]; decide) (fun _ => rfl)
    intro item _
    simp only [accessListItemRecord,List.map_cons,List.map_nil,member_stable (address_stable lawful),
      member_stable (lists_stable (bytesArray_stable lawful 32))]
    rfl
  intro list _
  have items := lists_stable item list.items trivial
  simp only [accessList,items,Option.map_some]

theorem accessList_present : wire.accessList.Present := fun _ written => by cases written

theorem transactionRequest_stable (lawful : wire.Lawful) : wire.transactionRequest.Stable (fun _ => True) := by
  apply SparseRecord.stable (by dsimp only [transactionRequestRecord]; decide) (fun _ => rfl)
  intro request
  have text {α : Type} {print : α → String} {parse : String → Option α}
      (stable : (Format.text print parse).Stable (fun _ => True)) {value : Option α} :
      Record.optional (Format.text print parse) false (value.map (Format.text print parse).encode) = some value :=
    given_stable stable (Format.text_present print parse) false rfl
  have address {value : Option Json.Address} :
      Record.optional wire.address false (value.map wire.address.encode) = some value := text (address_stable lawful)
  have amount {Unit : Type} {value : Option (Amount Unit)} :
      Record.optional (wire.amount Unit) false (value.map (wire.amount Unit).encode) = some value :=
    text (amount_stable lawful Unit)
  have byte {value : Option Json.JsonByte} :
      Record.optional wire.jsonByte false (value.map wire.jsonByte.encode) = some value := text (jsonByte_stable lawful)
  have data {value : Option Json.Data} :
      Record.optional wire.data false (value.map wire.data.encode) = some value := text (data_stable lawful)
  have access {value : Option Json.AccessList} :
      Record.optional wire.accessList false (value.map wire.accessList.encode) = some value :=
    given_stable (accessList_stable lawful) accessList_present false rfl
  have hashes {value : Option (List Json.Hash)} : Record.optional (wire.bytesArray 32).list false
      (value.map (wire.bytesArray 32).list.encode) = some value :=
    given_stable (lists_stable (bytesArray_stable lawful 32)) (list_present _) false rfl
  have blobs {value : Option (List Json.Data)} :
      Record.optional wire.data.list false (value.map wire.data.list.encode) = some value :=
    given_stable (lists_stable (data_stable lawful)) (list_present _) false rfl
  simp only [transactionRequestRecord,address,amount,byte,data,access,hashes,blobs]
  rfl

theorem ethCallParams_stable (lawful : wire.Lawful) (words : wire.WordsAreNoNumbers) :
    wire.ethCallParams.Stable (fun _ => True) := by
  intro params _
  simp only [ethCallParams,transactionRequest_stable lawful params.transaction trivial,
    blockSpec_stable lawful words params.block trivial]
  rfl

end Stability

private theorem parseU256_word {text : String} (c : Char) (unprefixed : strip text = none) (inside : c ∈ text.toList)
    (letter : ¬ (c.isDigit = true ∨ c = '_')) : reference.parseU256 text = none := by
  have word : text.isNat = false := by
    rw [← Bool.not_eq_true,String.isNat_iff]
    exact fun natural => letter (natural.2.1 c inside)
  simp only [reference,unprefixed,String.toNat?_eq_none word,Option.bind_none]

theorem reference_wordsAreNoNumbers : reference.WordsAreNoNumbers := by
  intro tag
  refine parseU256_word 'e' ?_ ?_ (by decide)
  · cases tag <;> rfl
  · cases tag <;> decide

end WireText
end EvmRpc
