import EvmRpc.Alloy.Response
import EvmRpc.CandidRpc.Requests
import EvmRpc.Types.Naturals

/-! Conversion of requests from the types of the `alloy` crates, and what becomes of them on the
way through the canister to the parameters that providers read. -/
namespace EvmRpc.Alloy

inductive BlockNumberOrTag where
  | latest | finalized | safe | earliest | pending
  | number (n : UInt64)
  deriving DecidableEq

inductive TxKind where
  | create
  | call (address : Address)
  deriving DecidableEq

/-- The address that is called, unless a contract is created. -/
def TxKind.address : TxKind → Option Address
  | .create => none
  | .call address => some address

structure TransactionInput where
  input : Option (List UInt8)
  data : Option (List UInt8)
  deriving DecidableEq

structure AccessListItem where
  address : Address
  storageKeys : List B256
  deriving DecidableEq

structure AccessList where
  items : List AccessListItem
  deriving DecidableEq

abbrev Blob := Bytes 131072

/-- Of a sidecar, only the blobs are read. -/
structure BlobTransactionSidecar where
  blobs : List Blob

/-- The members `from` and `to` are those of the sender and the receiver. -/
structure TransactionRequest where
  sender : Option Address
  receiver : Option TxKind
  gasPrice : Option U128
  maxFeePerGas : Option U128
  maxPriorityFeePerGas : Option U128
  maxFeePerBlobGas : Option U128
  gas : Option UInt64
  value : Option U256
  input : TransactionInput
  nonce : Option UInt64
  chainId : Option UInt64
  accessList : Option AccessList
  transactionType : Option UInt8
  blobVersionedHashes : Option (List B256)
  sidecar : Option BlobTransactionSidecar

/-- `try_into_unique_input`, which reconciles the two names of the input of a transaction. -/
structure InputCrate where
  tryIntoUniqueInput : TransactionInput → Except String (Option (List UInt8))

/-- Two inputs are accepted only when they are equal. -/
def InputCrate.reference : InputCrate where
  tryIntoUniqueInput
    | ⟨some input,some data⟩ => if input = data then .ok (some input) else .error "fields `input` and `data` differ"
    | ⟨some input,none⟩ => .ok (some input)
    | ⟨none,data⟩ => .ok data

end EvmRpc.Alloy

namespace EvmRpc
open Library WireText

namespace Nat256

-- the conversions below unwrap a result that never is an error
def ofUInt64 (value : UInt64) : Nat256 := ⟨value.toNat,lt_trans value.toNat_lt (by decide)⟩

def ofU128 (value : U128) : Nat256 := ⟨value.val,lt_trans value.isLt (by decide)⟩

def ofU256 (value : Alloy.U256) : Nat256 := .fromBeBytes (RawNat256.u256ToBeBytes value)

@[simp] theorem ofU256_value (value : Alloy.U256) : (ofU256 value).value = value.toNat :=
  Positional.ofBigEndian_bigEndian 32 value.toNat

end Nat256

def Candid.BlockTag.ofAlloy : Alloy.BlockNumberOrTag → Candid.BlockTag
  | .latest => .latest
  | .finalized => .finalized
  | .safe => .safe
  | .earliest => .earliest
  | .pending => .pending
  | .number n => .number (.ofUInt64 n)

def Alloy.BlockNumberOrTag.tryFrom (crate : Alloy.Crate) : Candid.BlockTag → RpcResult Alloy.BlockNumberOrTag
  | .latest => .ok .latest
  | .finalized => .ok .finalized
  | .safe => .ok .safe
  | .earliest => .ok .earliest
  | .pending => .ok .pending
  | .number n => (RawNat256.toUInt64 crate.outOfRange (.ofBounded n)).map .number

def Candid.AccessList.ofAlloy (list : Alloy.AccessList) : Candid.AccessList :=
  ⟨list.items.map (fun item => ⟨⟨item.address⟩,item.storageKeys.map .mk⟩)⟩

/-- Creating a contract and naming no receiver come to the same. -/
def Candid.TransactionRequest.ofAlloy (request : Alloy.TransactionRequest) (input : Option (List UInt8)) :
    Candid.TransactionRequest where
  txType := request.transactionType.map (fun byte => ⟨⟨byte⟩⟩)
  nonce := request.nonce.map .ofUInt64
  receiver := request.receiver.bind (fun kind => kind.address.map .mk)
  sender := request.sender.map .mk
  gas := request.gas.map .ofUInt64
  value := request.value.map .ofU256
  input := input.map .mk
  gasPrice := request.gasPrice.map .ofU128
  maxPriorityFeePerGas := request.maxPriorityFeePerGas.map .ofU128
  maxFeePerGas := request.maxFeePerGas.map .ofU128
  maxFeePerBlobGas := request.maxFeePerBlobGas.map .ofU128
  accessList := request.accessList.map .ofAlloy
  blobVersionedHashes := request.blobVersionedHashes.map (List.map .mk)
  blobs := request.sidecar.map (fun sidecar => sidecar.blobs.map (fun blob => ⟨blob.1⟩))
  chainId := request.chainId.map .ofUInt64

def Candid.TransactionRequest.tryFrom (crate : Alloy.InputCrate) (request : Alloy.TransactionRequest) :
    RpcResult Candid.TransactionRequest :=
  match crate.tryIntoUniqueInput request.input with
  | .ok input => .ok (.ofAlloy request input)
  | .error e => Alloy.validationError e

def Candid.CallArgs.tryFrom (crate : Alloy.InputCrate) (request : Alloy.TransactionRequest) : RpcResult Candid.CallArgs := do
  let transaction ← Candid.TransactionRequest.tryFrom crate request
  .ok ⟨transaction,none⟩

def Candid.GetLogsArgs.ofAddresses (addresses : List Alloy.Address) : Candid.GetLogsArgs :=
  ⟨none,none,addresses.map .mk,none⟩

section Blocks
variable (crate : Alloy.Crate)

/-- Every block of the crate comes back as it was, and all other blocks are refused. -/
theorem Alloy.BlockNumberOrTag.tryFrom_exact : Exact (Alloy.BlockNumberOrTag.tryFrom crate)
    (fun tag => ∀ n, tag = .number n → n.value < 2^64) (fun tag block => Candid.BlockTag.ofAlloy block = tag)
    Alloy.IsValidation := by
  have narrows := RawNat256.narrowsExactly crate.outOfRange
  have number {n : Nat256} {block : Alloy.BlockNumberOrTag}
      (done : Alloy.BlockNumberOrTag.tryFrom crate (.number n) = .ok block) : ∃ value,
      RawNat256.toUInt64 crate.outOfRange (.ofBounded n) = .ok value ∧ block = .number value := by
    rw [Alloy.BlockNumberOrTag.tryFrom] at done
    cases narrowed : RawNat256.toUInt64 crate.outOfRange (.ofBounded n) with
    | error error =>
      rw [narrowed] at done
      cases done
    | ok value =>
      rw [narrowed] at done
      cases done
      exact ⟨value,rfl,rfl⟩
  apply Exact.of_ok
  · intro tag fits
    cases tag with
    | number n =>
      obtain ⟨value,narrowed⟩ := (narrows.succeeds (.ofBounded n)).mpr (fits n rfl)
      refine ⟨.number value,by rw [Alloy.BlockNumberOrTag.tryFrom,narrowed]; rfl,?_⟩
      apply congrArg Candid.BlockTag.number
      exact Nat256.ext (narrows.value _ _ narrowed)
    | latest => exact ⟨.latest,rfl,rfl⟩
    | finalized => exact ⟨.finalized,rfl,rfl⟩
    | safe => exact ⟨.safe,rfl,rfl⟩
    | earliest => exact ⟨.earliest,rfl,rfl⟩
    | pending => exact ⟨.pending,rfl,rfl⟩
  · rintro tag block done n rfl
    obtain ⟨value,narrowed,_⟩ := number done
    exact (narrows.succeeds (.ofBounded n)).mp ⟨value,narrowed⟩
  · intro tag error failed
    cases tag with
    | number n =>
      rw [Alloy.BlockNumberOrTag.tryFrom,RawNat256.toUInt64] at failed
      split at failed
      · cases failed
      · cases failed
        exact ⟨_,rfl⟩
    | _ => cases failed

end Blocks

/-- The parameters that a provider reads have the members of the request, with the same values. -/
structure Alloy.Asks (crate : Alloy.InputCrate) (request : Alloy.TransactionRequest) (params : Json.TransactionRequest) :
    Prop where
  sender : params.sender.map Json.Address.intoBytes = request.sender
  receiver : params.receiver.map Json.Address.intoBytes = request.receiver.bind Alloy.TxKind.address
  gasPrice : params.gasPrice.map (fun amount => amount.inner.toNat) = request.gasPrice.map Fin.val
  maxFeePerGas : params.maxFeePerGas.map (fun amount => amount.inner.toNat) = request.maxFeePerGas.map Fin.val
  maxPriorityFeePerGas : params.maxPriorityFeePerGas.map (fun amount => amount.inner.toNat) =
    request.maxPriorityFeePerGas.map Fin.val
  maxFeePerBlobGas : params.maxFeePerBlobGas.map (fun amount => amount.inner.toNat) = request.maxFeePerBlobGas.map Fin.val
  gas : params.gas.map (fun amount => amount.inner.toNat) = request.gas.map UInt64.toNat
  value : params.value.map (fun amount => amount.inner.toNat) = request.value.map BitVec.toNat
  input : crate.tryIntoUniqueInput request.input = .ok (params.input.map Json.Data.bytes)
  nonce : params.nonce.map (fun amount => amount.inner.toNat) = request.nonce.map UInt64.toNat
  chainId : params.chainId.map (fun amount => amount.inner.toNat) = request.chainId.map UInt64.toNat
  accessList : params.accessList.map (fun list => list.items.map (fun item =>
      (item.address.intoBytes,item.storageKeys.map Json.BytesArray.intoBytes))) =
    request.accessList.map (fun list => list.items.map (fun item => (item.address,item.storageKeys)))
  transactionType : params.txType.map (fun byte => byte.intoByte) = request.transactionType
  blobVersionedHashes : params.blobVersionedHashes.map (List.map Json.BytesArray.intoBytes) = request.blobVersionedHashes
  blobs : params.blobs.map (List.map Json.Data.bytes) =
    request.sidecar.map (fun sidecar => sidecar.blobs.map Subtype.val)

section Requests
variable {crate : Alloy.InputCrate} {a b request : Alloy.TransactionRequest} {args : Candid.CallArgs}
  {input : Option (List UInt8)}

theorem Candid.CallArgs.tryFrom_eq_ok : Candid.CallArgs.tryFrom crate request = .ok args ↔
    ∃ input, crate.tryIntoUniqueInput request.input = .ok input ∧ args = ⟨.ofAlloy request input,none⟩ := by
  rw [tryFrom,Candid.TransactionRequest.tryFrom]
  cases unique : crate.tryIntoUniqueInput request.input with
  | error e => simp [Alloy.validationError,bind,Except.bind]
  | ok input =>
    simp only [bind,Except.bind,Except.ok.injEq,exists_eq_left']
    exact eq_comm

/-- The arguments of a call with the block that it is made at. -/
def Candid.CallArgs.at (args : Candid.CallArgs) (block : Option Alloy.BlockNumberOrTag) : Candid.CallArgs :=
  {args with block := block.map .ofAlloy}

end Requests

end EvmRpc
