import EvmRpc.CandidRpc.Requests
import EvmRpc.Canister.Observations

/-! The endpoint `eth_getLogs`, which refuses ranges of too many blocks before it
asks any provider. -/
namespace EvmRpc
open Library

/-- Subtraction of naturals, which panics below zero. -/
def natSub (a b : ℕ) : Outcome ℕ :=
  if b ≤ a then .done (a-b) else .trap "Cannot subtract b from a because b is larger than a."

/-- `display` is how the `candid` crate shows a natural. -/
def rangeError (display : ℕ → String) (blockCount : ℕ) (maxBlockRange : UInt32) : ValidationError :=
  .custom ("Requested " ++ display blockCount ++ " blocks; limited to " ++ toString maxBlockRange.toNat ++
    " when specifying a start and end block")

def blockCount (fromBlock toBlock : ℕ) : Outcome ℕ :=
  if toBlock > fromBlock then natSub toBlock fromBlock else natSub fromBlock toBlock

/-- The part of `CandidRpcClient::eth_get_logs` before providers are asked. -/
def checkedGetLogsParam (display : ℕ → String) (args : Candid.GetLogsArgs) (maxBlockRange : UInt32) :
    Outcome (Except ValidationError Json.GetLogsParam) :=
  match args.fromBlock,args.toBlock with
  | some (.number fromBlock),some (.number toBlock) => do
    let blockCount ← blockCount fromBlock.value toBlock.value
    if blockCount > maxBlockRange.toNat then .done (.error (rangeError display blockCount maxBlockRange))
    else .done (.ok (intoGetLogsParam args))
  | _,_ => .done (.ok (intoGetLogsParam args))

/-- The endpoint, as the message that the canister then takes. -/
def ethGetLogs (wire : WireText) (display : ℕ → String) (source : RpcServices) (config : Option GetLogsRpcConfig)
    (args : Candid.GetLogsArgs) (available : U128) : Outcome Message := do
  let config := config.getD default
  let param ← checkedGetLogsParam display args config.maxBlockRangeOrDefault
  .done (.ethCall source (some config.toRpcConfig) .ethGetLogs none
    (param.map (fun param => .array [wire.getLogsParam.encode param])) available)

def Candid.BlockTag.fixedHeight : Candid.BlockTag → Option ℕ
  | .number n => some n.value
  | .earliest => some 0
  | _ => none

def blocksBetween (lowest highest : ℕ) : ℕ := max lowest highest - min lowest highest + 1

section Range
variable {M : Type} (platform : Platform M) (display : ℕ → String) (canister : Canister M) (now : Timestamp)
  (source : RpcServices) (config : Option GetLogsRpcConfig) (args : Candid.GetLogsArgs) (available : U128)

/-- Too many blocks are refused with their number, without an outcall. -/
def RangeLimited (blocks : ℕ) : Prop :=
  ∃ message, ethGetLogs platform.crates.text display source config args available = .done message ∧
    (¬ blocks ≤ (config.getD default).maxBlockRangeOrDefault.toNat →
      canister.answered platform ⟨now,message⟩ = [.eth .ethGetLogs (.consistent (.error (.validationError
        (rangeError display blocks (config.getD default).maxBlockRangeOrDefault))))] ∧
      ∀ next, canister.step platform ⟨now,message⟩ = .done next →
        next.journal = canister.journal ∧ next.calls = canister.calls)

variable {platform} {display} {canister} {now} {source} {config} {args} {available}

theorem natSub_of_le {a b : ℕ} (le : b ≤ a) : natSub a b = .done (a-b) := if_pos le

private theorem rangeError_injective (injective : Function.Injective display) {a b : ℕ} {range : UInt32}
    (same : rangeError display a range = rangeError display b range) : a = b := by
  apply injective
  simpa [rangeError,String.append_assoc,String.append_left_inj] using same

theorem blockCount_eq (fromBlock toBlock : ℕ) :
    blockCount fromBlock toBlock = .done (max fromBlock toBlock - min fromBlock toBlock) := by
  unfold blockCount
  split
  · rename_i upward
    rw [natSub_of_le (le_of_lt upward),max_eq_right (le_of_lt upward),min_eq_left (le_of_lt upward)]
  · rename_i downward
    have le := Nat.le_of_not_lt downward
    rw [natSub_of_le le,max_eq_left le,min_eq_right le]

/-- Heights on both ends are checked for their difference, others not at all. -/
theorem checkedGetLogsParam_cases (display : ℕ → String) (args : Candid.GetLogsArgs) (range : UInt32) :
    checkedGetLogsParam display args range = .done (.ok (intoGetLogsParam args)) ∨
    ∃ fromBlock toBlock, args.fromBlock = some (.number fromBlock) ∧ args.toBlock = some (.number toBlock) ∧
      checkedGetLogsParam display args range = .done (.error (rangeError display
        (max fromBlock.value toBlock.value - min fromBlock.value toBlock.value) range)) := by
  unfold checkedGetLogsParam
  split
  · rename_i fromBlock toBlock first second
    rw [blockCount_eq,Outcome.done_bind]
    split
    · exact .inr ⟨fromBlock,toBlock,first,second,rfl⟩
    · exact .inl rfl
  · exact .inl rfl

/-- The number that is named is one too small. -/
theorem checkedGetLogsParam_misnames (injective : Function.Injective display) {lowest highest : ℕ}
    (first : args.fromBlock.bind Candid.BlockTag.fixedHeight = some lowest)
    (second : args.toBlock.bind Candid.BlockTag.fixedHeight = some highest) (range : UInt32) :
    ∃ param, checkedGetLogsParam display args range = .done param ∧
      param ≠ .error (rangeError display (blocksBetween lowest highest) range) := by
  obtain checked | ⟨fromBlock,toBlock,given,given',checked⟩ := checkedGetLogsParam_cases display args range
  · refine ⟨_,checked,?_⟩
    intro impossible
    cases impossible
  · refine ⟨_,checked,?_⟩
    rw [given] at first
    rw [given'] at second
    cases first
    cases second
    intro same
    have counted := rangeError_injective injective (Except.error.inj same)
    rw [blocksBetween] at counted
    omega

theorem ethGetLogs_total : ∃ message, ethGetLogs platform.crates.text display source config args available = .done message := by
  obtain checked | ⟨_,_,_,_,checked⟩ :=
    checkedGetLogsParam_cases display args (config.getD default).maxBlockRangeOrDefault
  · simp only [ethGetLogs,checked,Outcome.done_bind]
    exact ⟨_,rfl⟩
  · simp only [ethGetLogs,checked,Outcome.done_bind]
    exact ⟨_,rfl⟩

/-- Only refused parameters are answered by a validation error before the first outcall. -/
private theorem refused_validationError {method : RpcMethod} {config : Option RpcConfig}
    {params : Except ValidationError Json} {error : ValidationError}
    (answers : canister.refused platform now source config method params =
      [.eth method (.consistent (.error (.validationError error)))]) : params = .error error := by
  unfold Canister.refused at answers
  split at answers
  · simp at answers
  · simp only [List.cons.injEq,Answer.eth.injEq,heq_eq_eq,true_and,and_true,MultiRpcResult.consistent.injEq,
      Except.error.injEq,RpcError.validationError.injEq] at answers
    rw [answers]
  · cases answers

/-- Between fixed heights, the range is limited as it should exactly when there is
nothing to refuse. -/
theorem rangeLimited_iff (injective : Function.Injective display) {lowest highest : ℕ}
    (first : args.fromBlock.bind Candid.BlockTag.fixedHeight = some lowest)
    (second : args.toBlock.bind Candid.BlockTag.fixedHeight = some highest) :
    RangeLimited platform display canister now source config args available (blocksBetween lowest highest) ↔
      blocksBetween lowest highest ≤ (config.getD default).maxBlockRangeOrDefault.toNat := by
  constructor
  · rintro ⟨message,sent,refuses⟩
    by_contra large
    obtain ⟨answers,_⟩ := refuses large
    obtain ⟨param,checked,misnamed⟩ := checkedGetLogsParam_misnames injective first second
      (config.getD default).maxBlockRangeOrDefault
    simp only [ethGetLogs,checked,Outcome.done_bind,Outcome.done.injEq] at sent
    subst sent
    have refused := refused_validationError answers
    cases param with
    | ok param => cases refused
    | error error =>
      have same : error = rangeError display (blocksBetween lowest highest)
          (config.getD default).maxBlockRangeOrDefault := Except.error.inj refused
      exact misnamed (congrArg Except.error same)
  · intro small
    obtain ⟨message,sent⟩ := @ethGetLogs_total _ platform display source config args available
    exact ⟨message,sent,fun large => absurd small large⟩

end Range

private def oneService : RpcServices := .custom 1 [⟨"https://rpc.test",none⟩]

private def filterBetween (fromBlock toBlock : Candid.BlockTag) : Candid.GetLogsArgs := ⟨some fromBlock,some toBlock,[],none⟩

private theorem unlimited {fromBlock toBlock : Candid.BlockTag} {blocks : ℕ}
    (checked : checkedGetLogsParam Nat.repr (filterBetween fromBlock toBlock) 500 =
      .done (.ok (intoGetLogsParam (filterBetween fromBlock toBlock)))) (many : 500 < blocks) :
    ¬ RangeLimited .reference Nat.repr (.initial .reference (.fresh ReferenceTimedMap.reference)) 0 oneService none
      (filterBetween fromBlock toBlock) 0 blocks := by
  rintro ⟨message,sent,refuses⟩
  have checked : checkedGetLogsParam Nat.repr (filterBetween fromBlock toBlock)
      ((none : Option GetLogsRpcConfig).getD default).maxBlockRangeOrDefault =
        .done (.ok (intoGetLogsParam (filterBetween fromBlock toBlock))) := checked
  obtain ⟨answers,_⟩ := refuses (Nat.not_le.mpr many)
  simp only [ethGetLogs,checked,Outcome.done_bind,Outcome.done.injEq] at sent
  subst sent
  cases answers

/-- A range that starts with the earliest block is not checked, and one of as many blocks
as the limit and one more is let through. -/
theorem large_ranges_are_requested :
    ¬ RangeLimited .reference Nat.repr (.initial .reference (.fresh ReferenceTimedMap.reference)) 0
        (.custom 1 [⟨"https://rpc.test",none⟩]) none
        ⟨some .earliest,some (.number ⟨1000000,by decide⟩),[],none⟩ 0 (blocksBetween 0 1000000) ∧
    ¬ RangeLimited .reference Nat.repr (.initial .reference (.fresh ReferenceTimedMap.reference)) 0
        (.custom 1 [⟨"https://rpc.test",none⟩]) none
        ⟨some (.number ⟨0,by decide⟩),some (.number ⟨500,by decide⟩),[],none⟩ 0 (blocksBetween 0 500) :=
  ⟨unlimited rfl (by decide),unlimited rfl (by decide)⟩

theorem rangeLimited_for_hundred_blocks :
    RangeLimited .reference Nat.repr (.initial .reference (.fresh ReferenceTimedMap.reference)) 0
        (.custom 1 [⟨"https://rpc.test",none⟩]) none
        ⟨some (.number ⟨199,by decide⟩),some (.number ⟨100,by decide⟩),[],none⟩ 0 (blocksBetween 199 100) ↔
      blocksBetween 199 100 ≤ 500 :=
  rangeLimited_iff (fun _ _ same => Nat.repr_injective same) rfl rfl

end EvmRpc
