import EvmRpc.RpcClient.Requests
import EvmRpc.Types.Request

/-! Conversion of Candid arguments to the parameters of JSON-RPC methods. Nothing
is lost on the way to the JSON text, defaults apart. -/
namespace EvmRpc
open Library WireText

def intoBlockSpec : Candid.BlockTag → Json.BlockSpec
  | .number n => .number (Amount.ofNat256 n)
  | .latest => .tag .latest
  | .safe => .tag .safe
  | .finalized => .tag .finalized
  | .earliest => .tag .earliest
  | .pending => .tag .pending

def intoHash (value : Hex32) : Json.Hash := ⟨value.data⟩

def intoData (value : Hex) : Json.Data := ⟨value.data⟩

def intoGetLogsParam (value : Candid.GetLogsArgs) : Json.GetLogsParam where
  fromBlock := (value.fromBlock.map intoBlockSpec).getD default
  toBlock := (value.toBlock.map intoBlockSpec).getD default
  address := value.addresses.map (fun address => ⟨address.data⟩)
  topics := (value.topics.getD []).map (List.map (fun t => ⟨t.data⟩))

def mapAccessList (list : Candid.AccessList) : Json.AccessList :=
  ⟨list.entries.map (fun entry => ⟨⟨entry.address.data⟩,entry.storageKeys.map (fun key => ⟨key.data⟩)⟩)⟩

def intoTransactionRequest (request : Candid.TransactionRequest) : Json.TransactionRequest where
  txType := request.txType.map (fun t => ⟨⟨t.data.intoByte⟩⟩)
  nonce := request.nonce.map Amount.ofNat256
  receiver := request.receiver.map (fun address => ⟨address.data⟩)
  sender := request.sender.map (fun address => ⟨address.data⟩)
  gas := request.gas.map Amount.ofNat256
  value := request.value.map Amount.ofNat256
  input := request.input.map intoData
  gasPrice := request.gasPrice.map Amount.ofNat256
  maxPriorityFeePerGas := request.maxPriorityFeePerGas.map Amount.ofNat256
  maxFeePerGas := request.maxFeePerGas.map Amount.ofNat256
  maxFeePerBlobGas := request.maxFeePerBlobGas.map Amount.ofNat256
  accessList := request.accessList.map mapAccessList
  blobVersionedHashes := request.blobVersionedHashes.map (List.map intoHash)
  blobs := request.blobs.map (List.map intoData)
  chainId := request.chainId.map Amount.ofNat256

def intoEthCallParams (value : Candid.CallArgs) : Json.EthCallParams where
  transaction := intoTransactionRequest value.transaction
  block := intoBlockSpec (value.block.getD default)

/-- A block specification says the same as a tag of the Candid interface. -/
inductive SameBlockTag : Candid.BlockTag → Json.BlockSpec → Prop
  | number (n : Nat256) (number : BlockNumber) (value : number.toNat256 = n) :
      SameBlockTag (.number n) (.number number)
  | latest : SameBlockTag .latest (.tag .latest)
  | safe : SameBlockTag .safe (.tag .safe)
  | finalized : SameBlockTag .finalized (.tag .finalized)
  | earliest : SameBlockTag .earliest (.tag .earliest)
  | pending : SameBlockTag .pending (.tag .pending)

structure SameAccessListEntry (entry : Candid.AccessListEntry) (item : Json.AccessListItem) : Prop where
  address : item.address.intoBytes = entry.address.data
  storageKeys : item.storageKeys.map Json.BytesArray.intoBytes = entry.storageKeys.map HexString.data

/-- Each member is there exactly when the argument is, with its value. -/
structure SameTransaction (args : Candid.TransactionRequest) (request : Json.TransactionRequest) : Prop where
  txType : request.txType.map Json.JsonByte.intoByte = args.txType.map (fun t => t.data.intoByte)
  nonce : request.nonce.map Amount.toNat256 = args.nonce
  receiver : request.receiver.map Json.Address.intoBytes = args.receiver.map HexString.data
  sender : request.sender.map Json.Address.intoBytes = args.sender.map HexString.data
  gas : request.gas.map Amount.toNat256 = args.gas
  value : request.value.map Amount.toNat256 = args.value
  input : request.input.map Json.Data.bytes = args.input.map HexString.data
  gasPrice : request.gasPrice.map Amount.toNat256 = args.gasPrice
  maxPriorityFeePerGas : request.maxPriorityFeePerGas.map Amount.toNat256 = args.maxPriorityFeePerGas
  maxFeePerGas : request.maxFeePerGas.map Amount.toNat256 = args.maxFeePerGas
  maxFeePerBlobGas : request.maxFeePerBlobGas.map Amount.toNat256 = args.maxFeePerBlobGas
  accessList : Option.Rel (fun list items => List.Forall₂ SameAccessListEntry list.entries items.items)
    args.accessList request.accessList
  blobVersionedHashes : request.blobVersionedHashes.map (List.map Json.BytesArray.intoBytes) =
    args.blobVersionedHashes.map (List.map HexString.data)
  blobs : request.blobs.map (List.map Json.Data.bytes) = args.blobs.map (List.map HexString.data)
  chainId : request.chainId.map Amount.toNat256 = args.chainId

structure SameCall (args : Candid.CallArgs) (params : Json.EthCallParams) : Prop where
  transaction : SameTransaction args.transaction params.transaction
  block : SameBlockTag (args.block.getD .latest) params.block

structure SameFilter (args : Candid.GetLogsArgs) (param : Json.GetLogsParam) : Prop where
  fromBlock : SameBlockTag (args.fromBlock.getD .latest) param.fromBlock
  toBlock : SameBlockTag (args.toBlock.getD .latest) param.toBlock
  address : param.address.map Json.Address.intoBytes = args.addresses.map HexString.data
  topics : param.topics.map (List.map Json.BytesArray.intoBytes) = (args.topics.getD []).map (List.map HexString.data)

section Same

theorem intoBlockSpec_same (tag : Candid.BlockTag) : SameBlockTag tag (intoBlockSpec tag) := by
  cases tag with
  | number n => exact .number n _ (Amount.toNat256_ofNat256 n)
  | latest => exact .latest
  | safe => exact .safe
  | finalized => exact .finalized
  | earliest => exact .earliest
  | pending => exact .pending

theorem mapAccessList_same (list : Candid.AccessList) :
    List.Forall₂ SameAccessListEntry list.entries (mapAccessList list).items := by
  rw [mapAccessList,List.forall₂_map_right_iff,List.forall₂_same]
  intro entry _
  exact ⟨rfl,by rw [List.map_map]; rfl⟩

private theorem kept {α β γ : Type} {into : α → β} {back : β → γ} {data : α → γ}
    (each : ∀ a, back (into a) = data a) (given : Option α) : (given.map into).map back = given.map data := by
  cases given with
  | none => rfl
  | some a => exact congrArg some (each a)

private theorem amount_kept {Unit : Type} (given : Option Nat256) :
    (given.map (Amount.ofNat256 : Nat256 → Amount Unit)).map Amount.toNat256 = given := by
  cases given with
  | none => rfl
  | some value => exact congrArg some (Amount.toNat256_ofNat256 value)

theorem intoTransactionRequest_same (request : Candid.TransactionRequest) :
    SameTransaction request (intoTransactionRequest request) where
  txType := kept (fun _ => rfl) _
  nonce := amount_kept _
  receiver := kept (fun _ => rfl) _
  sender := kept (fun _ => rfl) _
  gas := amount_kept _
  value := amount_kept _
  input := kept (fun _ => rfl) _
  gasPrice := amount_kept _
  maxPriorityFeePerGas := amount_kept _
  maxFeePerGas := amount_kept _
  maxFeePerBlobGas := amount_kept _
  accessList := by
    rw [intoTransactionRequest]
    cases request.accessList with
    | none => exact .none
    | some list => exact .some (mapAccessList_same list)
  blobVersionedHashes := kept (fun hashes => by rw [List.map_map]; rfl) _
  blobs := kept (fun blobs => by rw [List.map_map]; rfl) _
  chainId := amount_kept _

theorem intoEthCallParams_same (args : Candid.CallArgs) : SameCall args (intoEthCallParams args) :=
  ⟨intoTransactionRequest_same args.transaction,intoBlockSpec_same _⟩

theorem intoGetLogsParam_same (args : Candid.GetLogsArgs) : SameFilter args (intoGetLogsParam args) := by
  have block (given : Option Candid.BlockTag) :
      SameBlockTag (given.getD .latest) ((given.map intoBlockSpec).getD default) := by
    cases given with
    | none => exact .latest
    | some tag => exact intoBlockSpec_same tag
  refine ⟨block _,block _,?_,?_⟩
  · rw [intoGetLogsParam,List.map_map]
    rfl
  · rw [intoGetLogsParam,List.map_map]
    refine List.map_congr_left (fun topic _ => ?_)
    rw [Function.comp_apply,List.map_map]
    rfl

theorem SameBlockTag.unique {a b : Candid.BlockTag} {spec : Json.BlockSpec} (first : SameBlockTag a spec)
    (second : SameBlockTag b spec) : a = b := by
  cases first with
  | number n number value =>
    cases second with
    | number m _ other => exact congrArg _ (value.symm.trans other)
  | latest => cases second; rfl
  | safe => cases second; rfl
  | finalized => cases second; rfl
  | earliest => cases second; rfl
  | pending => cases second; rfl

private theorem data_injective {α : Type} : Function.Injective (HexString.data : HexString α → α) := by
  intro a b same
  cases a; cases b
  exact congrArg HexString.mk same

private theorem datas_injective {α : Type} : Function.Injective (List.map (HexString.data : HexString α → α)) :=
  List.map_injective_iff.mpr data_injective

private theorem byte_injective : Function.Injective (fun byte : HexByte => byte.data.intoByte) := by
  rintro ⟨⟨a⟩⟩ ⟨⟨b⟩⟩ same
  exact congrArg (fun byte => HexString.mk (Byte.mk byte)) same

/-- What both values have in common with a third one, they have in common. -/
private theorem agree {α β γ : Type} {data : α → γ} {back : Option β → Option γ} {given : Option β} {a b : Option α}
    (injective : Function.Injective data) (first : back given = a.map data) (second : back given = b.map data) : a = b :=
  Option.map_injective injective (first.symm.trans second)

theorem SameAccessListEntry.unique {a b : Candid.AccessListEntry} {item : Json.AccessListItem}
    (first : SameAccessListEntry a item) (second : SameAccessListEntry b item) : a = b := by
  obtain ⟨address,keys⟩ := a
  obtain ⟨address',keys'⟩ := b
  have addresses : address = address' := data_injective (first.address.symm.trans second.address)
  have storage : keys = keys' := datas_injective (first.storageKeys.symm.trans second.storageKeys)
  rw [addresses,storage]

private theorem entries_unique {a b : List Candid.AccessListEntry} {items : List Json.AccessListItem}
    (first : List.Forall₂ SameAccessListEntry a items) (second : List.Forall₂ SameAccessListEntry b items) : a = b := by
  induction first generalizing b with
  | nil =>
    cases second
    rfl
  | cons head _ ih =>
    cases second with
    | cons head' tail' => rw [head.unique head',ih tail']

private theorem accessList_unique {a b : Option Candid.AccessList} {list : Option Json.AccessList}
    (first : Option.Rel (fun list items => List.Forall₂ SameAccessListEntry list.entries items.items) a list)
    (second : Option.Rel (fun list items => List.Forall₂ SameAccessListEntry list.entries items.items) b list) :
    a = b := by
  cases first with
  | none =>
    cases second
    rfl
  | some entries =>
    cases second with
    | some entries' => exact congrArg (fun listed => some (Candid.AccessList.mk listed)) (entries_unique entries entries')

/-- A decoded transaction determines the arguments. -/
theorem SameTransaction.unique {a b : Candid.TransactionRequest} {request : Json.TransactionRequest}
    (first : SameTransaction a request) (second : SameTransaction b request) : a = b := by
  have txType := agree byte_injective first.txType second.txType
  have receiver := agree data_injective first.receiver second.receiver
  have sender := agree data_injective first.sender second.sender
  have input := agree data_injective first.input second.input
  have hashes := agree datas_injective first.blobVersionedHashes second.blobVersionedHashes
  have blobs := agree datas_injective first.blobs second.blobs
  have access := accessList_unique first.accessList second.accessList
  cases a
  cases b
  simp only [Candid.TransactionRequest.mk.injEq]
  exact ⟨txType,first.nonce.symm.trans second.nonce,receiver,sender,first.gas.symm.trans second.gas,
    first.value.symm.trans second.value,input,first.gasPrice.symm.trans second.gasPrice,
    first.maxPriorityFeePerGas.symm.trans second.maxPriorityFeePerGas,
    first.maxFeePerGas.symm.trans second.maxFeePerGas,first.maxFeePerBlobGas.symm.trans second.maxFeePerBlobGas,
    access,hashes,blobs,first.chainId.symm.trans second.chainId⟩

/-- Calls that differ in an unspecified block at most. -/
def SameCallArgs (a b : Candid.CallArgs) : Prop :=
  a.transaction = b.transaction ∧ a.block.getD .latest = b.block.getD .latest

/-- Filters that differ in unspecified blocks and absent topics at most. -/
def SameGetLogsArgs (a b : Candid.GetLogsArgs) : Prop :=
  a.fromBlock.getD .latest = b.fromBlock.getD .latest ∧ a.toBlock.getD .latest = b.toBlock.getD .latest ∧
    a.addresses = b.addresses ∧ a.topics.getD [] = b.topics.getD []

theorem SameCall.unique {a b : Candid.CallArgs} {params : Json.EthCallParams} (first : SameCall a params)
    (second : SameCall b params) : SameCallArgs a b :=
  ⟨first.transaction.unique second.transaction,first.block.unique second.block⟩

theorem SameFilter.unique {a b : Candid.GetLogsArgs} {param : Json.GetLogsParam} (first : SameFilter a param)
    (second : SameFilter b param) : SameGetLogsArgs a b :=
  ⟨first.fromBlock.unique second.fromBlock,first.toBlock.unique second.toBlock,
    datas_injective (first.address.symm.trans second.address),
    List.map_injective_iff.mpr datas_injective (first.topics.symm.trans second.topics)⟩

end Same

section Faithful
variable {wire : WireText}

/-- Decoding the parameters of a call or a filter recovers the arguments, so that only
arguments with the same meaning are written alike. -/
theorem requests_encoded_faithfully (lawful : wire.Lawful) (words : wire.WordsAreNoNumbers) :
    (∀ args, ∃ params, wire.ethCallParams.decode (wire.ethCallParams.encode (intoEthCallParams args)) = some params ∧
      SameCall args params) ∧
    (∀ args, ∃ param, wire.getLogsParam.decode (wire.getLogsParam.encode (intoGetLogsParam args)) = some param ∧
      SameFilter args param) ∧
    (∀ a b, wire.ethCallParams.encode (intoEthCallParams a) = wire.ethCallParams.encode (intoEthCallParams b) →
      SameCallArgs a b) ∧
    (∀ a b, wire.getLogsParam.encode (intoGetLogsParam a) = wire.getLogsParam.encode (intoGetLogsParam b) →
      SameGetLogsArgs a b) := by
  have call (args : Candid.CallArgs) := ethCallParams_stable lawful words (intoEthCallParams args) trivial
  have filter (args : Candid.GetLogsArgs) := getLogsParam_stable lawful words (intoGetLogsParam args) trivial
  refine ⟨fun args => ⟨_,call args,intoEthCallParams_same args⟩,fun args => ⟨_,filter args,intoGetLogsParam_same args⟩,
    fun a b written => ?_,fun a b written => ?_⟩
  · have decoded : intoEthCallParams a = intoEthCallParams b :=
      Option.some.inj ((call a).symm.trans (written ▸ call b))
    exact (intoEthCallParams_same a).unique (decoded ▸ intoEthCallParams_same b)
  · have decoded : intoGetLogsParam a = intoGetLogsParam b :=
      Option.some.inj ((filter a).symm.trans (written ▸ filter b))
    exact (intoGetLogsParam_same a).unique (decoded ▸ intoGetLogsParam_same b)

theorem filter_from_genesis_encoded :
    ∃ param, WireText.reference.getLogsParam.decode (WireText.reference.getLogsParam.encode
        (intoGetLogsParam ⟨some .earliest,none,[],some [[⟨default⟩],[]]⟩)) = some param ∧
      SameFilter ⟨some .earliest,none,[],some [[⟨default⟩],[]]⟩ param :=
  (requests_encoded_faithfully WireText.reference_lawful WireText.reference_wordsAreNoNumbers).2.1 _

end Faithful
end EvmRpc
