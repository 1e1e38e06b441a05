import EvmRpc.RpcClient.Wire

/-! What is written for a decoded result is decoded as that result again. -/
namespace EvmRpc.WireText
open Library
open Library.Json (Format Record Number)
variable {wire : WireText}

private theorem hexText_stable {α : Type} (lawful : wire.Lawful) {bytes : α → List UInt8}
    {fromHex : String → Option α} (inverse : ∀ value, fromHex (wire.hexEncode (bytes value)) = some value) :
    (wire.hexText bytes fromHex).Stable (fun _ => True) := by
  apply Format.text_stable
  intro value
  simp only [lawful.stripPrefix_withPrefix,Option.bind_some]
  exact inverse value

theorem bytesArray_stable (lawful : wire.Lawful) (n : ℕ) : (wire.bytesArray n).Stable (fun _ => True) := by
  apply hexText_stable lawful
  intro array
  simp [lawful.fromHexArray_hexEncode]

theorem address_stable (lawful : wire.Lawful) : wire.address.Stable (fun _ => True) := by
  apply hexText_stable lawful
  intro address
  simp [lawful.fromHexArray_hexEncode]

theorem data_stable (lawful : wire.Lawful) : wire.data.Stable (fun _ => True) := by
  apply hexText_stable lawful
  intro data
  simp [lawful.fromHexVec_hexEncode]

/-- A byte is written with two digits, so reading it back adds no zero. -/
theorem byteFromHex_hexEncode (lawful : wire.Lawful) (byte : Byte) :
    wire.byteFromHex (wire.hexEncode [byte.intoByte]) = some byte := by
  have size := lawful.hexEncode_size [byte.intoByte]
  have back := lawful.fromHexArray_hexEncode 1 ⟨[byte.intoByte],rfl⟩
  unfold byteFromHex
  rw [if_neg (by simp [size])]
  simp only at back ⊢
  rw [back]
  rfl

theorem jsonByte_stable (lawful : wire.Lawful) : wire.jsonByte.Stable (fun _ => True) := by
  apply hexText_stable lawful
  intro byte
  have back := byteFromHex_hexEncode lawful byte.inner
  simp only [Json.JsonByte.intoByte,back,Option.map_some]

theorem amount_stable (lawful : wire.Lawful) (Unit : Type) : (wire.amount Unit).Stable (fun _ => True) := by
  apply Format.text_stable
  intro amount
  simp [lawful.parseU256_printU256]

theorem transactionStatus_stable (lawful : wire.Lawful) : wire.transactionStatus.Stable (fun _ => True) := by
  apply Format.text_stable
  intro status
  cases status <;> simp [lawful.parseU256_printU256]

theorem f64_stable (lawful : wire.Lawful) : wire.f64.Stable wire.Readable := by
  rintro value ⟨token,read⟩
  obtain ⟨written,printed,back⟩ := lawful.parseF64_printF64 token value read
  simp [f64,printed,back]

private theorem optional_stable {α : Type} {format : Format α} (stable : format.Stable (fun _ => True))
    (present : format.Present) (positional : Bool) (value : Option α) :
    Record.optional format positional (some (format.option.encode value)) = some value :=
  Format.option_stable stable present value (fun _ _ => trivial)

private theorem list_stable {α : Type} {format : Format α} (stable : format.Stable (fun _ => True)) :
    format.list.Stable (fun _ => True) :=
  fun values _ => Format.list_stable stable values (fun _ _ => trivial)

private theorem required_stable {α : Type} {format : Format α} (stable : format.Stable (fun _ => True))
    (value : α) : Record.required format (some (format.encode value)) = some value := stable value trivial

private theorem defaulted_stable {α : Type} {format : Format α} (stable : format.Stable (fun _ => True))
    (default value : α) : Record.defaulted format default (some (format.encode value)) = some value :=
  stable value trivial

private theorem boolean_stable : Format.boolean.Stable (fun _ => True) := fun _ _ => rfl

theorem logEntry_stable (lawful : wire.Lawful) : wire.logEntry.Stable (fun _ => True) := by
  apply Record.stable (by dsimp only [logEntryRecord]; decide) (fun _ => rfl)
  intro entry _
  have hash := bytesArray_stable lawful 32
  simp only [logEntryRecord,List.map_cons,List.map_nil,required_stable (address_stable lawful),
    required_stable (list_stable hash),required_stable (data_stable lawful),
    optional_stable (amount_stable lawful _) (Format.text_present _ _),
    optional_stable hash (Format.text_present _ _),defaulted_stable boolean_stable]
  rfl

theorem transactionReceipt_stable (lawful : wire.Lawful) : wire.transactionReceipt.Stable (fun _ => True) := by
  apply Record.stable (by dsimp only [transactionReceiptRecord]; decide) (fun _ => rfl)
  intro receipt _
  have hash := bytesArray_stable lawful 32
  simp only [transactionReceiptRecord,List.map_cons,List.map_nil,required_stable hash,
    required_stable (bytesArray_stable lawful 256),required_stable (amount_stable lawful _),
    optional_stable (transactionStatus_stable lawful) (Format.text_present _ _),
    optional_stable hash (Format.text_present _ _),
    optional_stable (address_stable lawful) (Format.text_present _ _),required_stable (address_stable lawful),
    required_stable (list_stable (logEntry_stable lawful)),required_stable (jsonByte_stable lawful)]
  rfl

theorem block_stable (lawful : wire.Lawful) : wire.block.Stable (fun _ => True) := by
  apply Record.stable (by dsimp only [blockRecord]; decide) (fun _ => rfl)
  intro block _
  have hash := bytesArray_stable lawful 32
  simp only [blockRecord,List.map_cons,List.map_nil,required_stable hash,
    required_stable (bytesArray_stable lawful 256),required_stable (amount_stable lawful _),
    optional_stable (amount_stable lawful _) (Format.text_present _ _),
    optional_stable hash (Format.text_present _ _),required_stable (address_stable lawful),
    required_stable (data_stable lawful),defaulted_stable (list_stable hash)]
  rfl

theorem feeHistory_stable (lawful : wire.Lawful) :
    wire.feeHistory.Stable (fun history => ∀ ratio ∈ history.gasUsedRatio, wire.Readable ratio) := by
  apply Record.stable (by dsimp only [feeHistoryRecord]; decide) (fun _ => rfl)
  intro history readable
  have ratios := Format.list_stable (f64_stable lawful) history.gasUsedRatio readable
  have amounts := list_stable (amount_stable lawful WeiPerGasUnit)
  have rewards := list_stable amounts history.reward trivial
  simp only [feeHistoryRecord,List.map_cons,List.map_nil,required_stable (amount_stable lawful _),
    required_stable amounts,Record.defaulted,ratios,rewards]
  rfl

theorem sendRawTransactionResult_stable : sendRawTransactionResult.Stable (fun _ => True) := by
  intro result _
  cases result <;> rfl

private theorem readable_of_mapM {items : List Json} {ratios : List F64}
    (read : items.mapM wire.f64.decode = some ratios) : ∀ ratio ∈ ratios, wire.Readable ratio := by
  induction items generalizing ratios with
  | nil =>
    obtain rfl : ratios = [] := by simpa using read.symm
    simp
  | cons item items ih =>
    rw [List.mapM_cons] at read
    obtain ⟨first,head,read⟩ := Option.bind_eq_some_iff.mp read
    obtain ⟨others,tail,read⟩ := Option.bind_eq_some_iff.mp read
    obtain rfl : first::others = ratios := by simpa using read
    intro ratio inside
    rcases List.mem_cons.mp inside with rfl | later
    · cases item with
      | number token => exact ⟨token,head⟩
      | _ => cases head
    · exact ih tail ratio later

/-- The ratios of a decoded history were read from tokens. -/
theorem feeHistory_readable {json : Library.Json} {history : Json.FeeHistory}
    (decoded : wire.feeHistory.decode json = some history) :
    ∀ ratio ∈ history.gasUsedRatio, wire.Readable ratio := by
  have built (positional : Bool) (given : List (Option Library.Json))
      (build : wire.feeHistoryRecord.build positional given = some history) :
      ∀ ratio ∈ history.gasUsedRatio, wire.Readable ratio := by
    unfold feeHistoryRecord at build
    simp only at build
    split at build
    · rename_i oldest base ratio reward
      obtain ⟨_,_,build⟩ := Option.bind_eq_some_iff.mp build
      obtain ⟨_,_,build⟩ := Option.bind_eq_some_iff.mp build
      obtain ⟨ratios,read,build⟩ := Option.bind_eq_some_iff.mp build
      obtain ⟨_,_,build⟩ := Option.bind_eq_some_iff.mp build
      obtain rfl := Option.some.inj build
      cases ratio with
      | none =>
        obtain rfl : [] = ratios := by simpa [Record.defaulted] using read
        simp
      | some json =>
        cases json with
        | array items => exact readable_of_mapM read
        | _ => cases read
    · cases build
  cases json with
  | object members =>
    obtain ⟨given,_,build⟩ := Option.bind_eq_some_iff.mp decoded
    exact built false given build
  | array items =>
    change (if items.length ≤ _ then _ else _) = _ at decoded
    split at decoded
    · exact built true _ decoded
    · cases decoded
  | _ => cases decoded

section Depth
variable (wire : WireText)

theorem bytesArray_within (n bound : ℕ) : (wire.bytesArray n).Within bound := Format.text_within _ _ bound

theorem address_within (bound : ℕ) : wire.address.Within bound := Format.text_within _ _ bound

theorem data_within (bound : ℕ) : wire.data.Within bound := Format.text_within _ _ bound

theorem jsonByte_within (bound : ℕ) : wire.jsonByte.Within bound := Format.text_within _ _ bound

theorem amount_within (Unit : Type) (bound : ℕ) : (wire.amount Unit).Within bound := Format.text_within _ _ bound

theorem transactionStatus_within (bound : ℕ) : wire.transactionStatus.Within bound :=
  Format.text_within _ _ bound

theorem f64_within (bound : ℕ) : wire.f64.Within bound := by
  intro value
  simp only [f64]
  cases wire.printF64 value with
  | none => exact Nat.zero_le _
  | some token => exact Nat.zero_le _

private theorem boolean_within (bound : ℕ) : Format.boolean.Within bound := fun _ => Nat.zero_le _

theorem logEntry_within : wire.logEntry.Within 2 := by
  apply Record.within
  intro entry
  have hash := bytesArray_within wire 32 1
  have topics := Format.list_within (bytesArray_within wire 32 0)
  simp only [logEntryRecord,List.forall_mem_cons,List.not_mem_nil,false_implies,implies_true,and_true,
    address_within wire 1 _,topics _,data_within wire 1 _,Format.option_within (amount_within wire _ 1) _,
    Format.option_within hash _,boolean_within 1 _]

theorem transactionReceipt_within : wire.transactionReceipt.Within 4 := by
  apply Record.within
  intro receipt
  have logs := Format.list_within (logEntry_within wire)
  simp only [transactionReceiptRecord,List.forall_mem_cons,List.not_mem_nil,false_implies,implies_true,and_true,
    bytesArray_within wire _ 3 _,amount_within wire _ 3 _,Format.option_within (transactionStatus_within wire 3) _,
    Format.option_within (bytesArray_within wire 32 3) _,Format.option_within (address_within wire 3) _,
    address_within wire 3 _,logs _,jsonByte_within wire 3 _]

theorem block_within : wire.block.Within 2 := by
  apply Record.within
  intro block
  have hashes := Format.list_within (bytesArray_within wire 32 0)
  simp only [blockRecord,List.forall_mem_cons,List.not_mem_nil,false_implies,implies_true,and_true,
    Format.option_within (amount_within wire _ 1) _,amount_within wire _ 1 _,data_within wire 1 _,bytesArray_within wire _ 1 _,
    address_within wire 1 _,hashes _,Format.option_within (bytesArray_within wire 32 1) _]

theorem feeHistory_within : wire.feeHistory.Within 3 := by
  apply Record.within
  intro history
  have amounts := Format.list_within (amount_within wire WeiPerGasUnit 1)
  have rewards := Format.list_within (Format.list_within (amount_within wire WeiPerGasUnit 0))
  simp only [feeHistoryRecord,List.forall_mem_cons,List.not_mem_nil,false_implies,implies_true,and_true,
    amount_within wire _ 2 _,amounts _,Format.list_within (f64_within wire 1) _,rewards _]

omit wire in
theorem sendRawTransactionResult_within (bound : ℕ) : sendRawTransactionResult.Within bound := by
  intro result
  cases result <;> exact Nat.zero_le bound

end Depth
end EvmRpc.WireText
