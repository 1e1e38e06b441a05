import EvmRpc.RpcClient.EthRpcError

/-! What is left of a reply to `eth_sendRawTransaction` after it was sanitised, and which
errors are taken for a success. -/
namespace EvmRpc
open Library

section Sanitised
variable {unicode : Unicode} {rpc : JsonRpcWire} {text : WireText}

/-- Only texts behind the prefix of hex strings are read as such. -/
def WireText.Prefixed (text : WireText) : Prop :=
  ∀ digits, ¬ "0x".toList <+: digits.toList → text.stripPrefix digits = none

theorem WireText.reference_prefixed : WireText.reference.Prefixed := by
  intro digits unprefixed
  change WireText.strip digits = none
  unfold WireText.strip
  split
  · rename_i rest same
    exact absurd ⟨rest,same.symm⟩ unprefixed
  · rfl

theorem bytesArray_decode_status (prefixed : text.Prefixed) (status : Json.SendRawTransactionResult) :
    (text.bytesArray 32).decode (WireText.sendRawTransactionResult.encode status) = none := by
  have unhashed (name : String) (unprefixed : ¬ "0x".toList <+: name.toList) :
      (text.bytesArray 32).decode (.string name) = none := by
    change (text.stripPrefix name).bind _ = none
    rw [prefixed name unprefixed]
    rfl
  cases status with
  | ok => exact unhashed "Ok" (by decide)
  | insufficientFunds => exact unhashed "InsufficientFunds" (by decide)
  | nonceTooLow => exact unhashed "NonceTooLow" (by decide)
  | nonceTooHigh => exact unhashed "NonceTooHigh" (by decide)

theorem sanitize_undecodable {body : List UInt8} (undecodable : rpc.response (text.bytesArray 32) body = none) :
    sanitizeSendRawTransactionResult unicode rpc text body = body := by
  unfold sanitizeSendRawTransactionResult
  rw [undecodable]

theorem response_writeResponse_status (lawful : rpc.Lawful) (id : Id) (status : Json.SendRawTransactionResult) :
    rpc.response WireText.sendRawTransactionResult
      (rpc.writeResponse WireText.sendRawTransactionResult id (.ok status)) = some (id,.ok status) :=
  JsonRpcWire.response_writeResponse_ok lawful (WireText.sendRawTransactionResult_within 64) id
    (WireText.sendRawTransactionResult_stable status trivial)

/-- A status that was written does not decode as a hash, so it is not sanitised again. -/
theorem sanitize_status (lawful : rpc.Lawful) (prefixed : text.Prefixed) (id : Id)
    (status : Json.SendRawTransactionResult) :
    sanitizeSendRawTransactionResult unicode rpc text
        (rpc.writeResponse WireText.sendRawTransactionResult id (.ok status)) =
      rpc.writeResponse WireText.sendRawTransactionResult id (.ok status) := by
  refine sanitize_undecodable ?_
  have read := lawful.read_write_ok id (WireText.sendRawTransactionResult.encode status)
    (WireText.sendRawTransactionResult_within 64 status)
  simp only [JsonRpcWire.response,JsonRpcWire.writeResponse,Except.map,read,bytesArray_decode_status prefixed,
    Option.map_none]

theorem sanitize_known {body : List UInt8} {id : Id} {error : ServerError} {known : SendRawTransactionError}
    (decoded : rpc.response (text.bytesArray 32) body = some (id,.error error))
    (understood : tryParseSendRawTransactionError unicode error.code error.message = some known) :
    sanitizeSendRawTransactionResult unicode rpc text body =
      rpc.writeResponse WireText.sendRawTransactionResult id (.ok known.toResult) := by
  rw [sanitize_error decoded,understood]

theorem sanitize_unknown {body : List UInt8} {id : Id} {error : ServerError}
    (decoded : rpc.response (text.bytesArray 32) body = some (id,.error error))
    (unknown : tryParseSendRawTransactionError unicode error.code error.message = none) :
    sanitizeSendRawTransactionResult unicode rpc text body =
      rpc.writeResponse WireText.sendRawTransactionResult id (.error error) := by
  rw [sanitize_error decoded,unknown]

theorem sanitize_idempotent (lawful : rpc.Lawful) (prefixed : text.Prefixed) (body : List UInt8) :
    sanitizeSendRawTransactionResult unicode rpc text (sanitizeSendRawTransactionResult unicode rpc text body) =
      sanitizeSendRawTransactionResult unicode rpc text body := by
  cases decoded : rpc.response (text.bytesArray 32) body with
  | none => rw [sanitize_undecodable decoded,sanitize_undecodable decoded]
  | some response =>
    obtain ⟨id,result⟩ := response
    cases result with
    | ok hash => rw [sanitize_ok decoded,sanitize_status lawful prefixed]
    | error error =>
      cases understood : tryParseSendRawTransactionError unicode error.code error.message with
      | some known => rw [sanitize_known decoded understood,sanitize_status lawful prefixed]
      | none =>
        have again : rpc.response (text.bytesArray 32) (rpc.writeResponse WireText.sendRawTransactionResult id
            (.error error)) = some (id,.error error) := JsonRpcWire.response_of_read_error
          (JsonRpcWire.read_writeResponse_error WireText.sendRawTransactionResult lawful decoded)
        rw [sanitize_unknown decoded understood,sanitize_unknown again understood]

/-- What the canister decodes of a reply that was sanitised. -/
structure Sanitised (unicode : Unicode) (rpc : JsonRpcWire) (text : WireText) (body : List UInt8) : Prop where
  idempotent : sanitizeSendRawTransactionResult unicode rpc text
    (sanitizeSendRawTransactionResult unicode rpc text body) = sanitizeSendRawTransactionResult unicode rpc text body
  sent : ∀ id hash, rpc.response (text.bytesArray 32) body = some (id,.ok hash) →
    rpc.response WireText.sendRawTransactionResult (sanitizeSendRawTransactionResult unicode rpc text body) =
      some (id,.ok .ok)
  known : ∀ id error known, rpc.response (text.bytesArray 32) body = some (id,.error error) →
    tryParseSendRawTransactionError unicode error.code error.message = some known →
    rpc.response WireText.sendRawTransactionResult (sanitizeSendRawTransactionResult unicode rpc text body) =
      some (id,.ok (match known with
        | .alreadyKnown => .ok
        | .insufficientFunds => .insufficientFunds
        | .nonceTooLow => .nonceTooLow
        | .nonceTooHigh => .nonceTooHigh))
  unknown : ∀ id error, rpc.response (text.bytesArray 32) body = some (id,.error error) →
    tryParseSendRawTransactionError unicode error.code error.message = none →
    rpc.response WireText.sendRawTransactionResult (sanitizeSendRawTransactionResult unicode rpc text body) =
      some (id,.error error)
  undecodable : rpc.response (text.bytesArray 32) body = none →
    sanitizeSendRawTransactionResult unicode rpc text body = body

/-- Whatever bytes a reply has, sanitising it keeps what it says and is done once and for all. -/
theorem sanitize_end_to_end (unicode : Unicode) (lawful : rpc.Lawful) (prefixed : text.Prefixed) (body : List UInt8) :
    Sanitised unicode rpc text body := by
  refine ⟨sanitize_idempotent lawful prefixed body,?_,?_,?_,sanitize_undecodable⟩
  · intro id hash decoded
    rw [sanitize_ok decoded,response_writeResponse_status lawful]
  · intro id error known decoded understood
    rw [sanitize_known decoded understood,response_writeResponse_status lawful]
    cases known <;> rfl
  · intro id error decoded unknown
    rw [sanitize_unknown decoded unknown]
    exact JsonRpcWire.response_of_read_error
      (JsonRpcWire.read_writeResponse_error WireText.sendRawTransactionResult lawful decoded)

theorem sanitize_end_to_end_for_reference : Sanitised .ascii .reference .reference
    (JsonRpcWire.reference.writeResponse (WireText.reference.bytesArray 32) (.number 1) (.ok default)) :=
  sanitize_end_to_end .ascii JsonRpcWire.reference_lawful WireText.reference_prefixed _

end Sanitised

/-- An occurrence of the phrase that neither begins nor ends inside of a longer word. -/
def AsWords (word : Char → Bool) (text phrase : String) : Prop :=
  ∃ i ∈ List.range (text.toList.length+1), phrase.toList <+: text.toList.drop i ∧
    (∀ c ∈ (text.toList.take i).getLast?, word c = false) ∧
    ∀ c ∈ (text.toList.drop (i+phrase.toList.length)).head?, word c = false

def knownPhrases : List String := ["already known","known transaction","AlreadyKnown"]

/-- The message says, in any case, that the transaction is known. -/
def NamesKnown (unicode : Unicode) (word : Char → Bool) (message : String) : Prop :=
  ∃ phrase ∈ knownPhrases, AsWords word (toLowercase unicode message) (toLowercase unicode phrase)

/-- Errors that are taken for a known transaction. -/
def TakenAsKnown (unicode : Unicode) (code : Int64) (message : String) : Prop :=
  let msg := toLowercase unicode message
  code = -32000 ∧ (contains msg "already known" ∨ contains msg "known transaction" ∧
    ¬ contains msg "insufficient funds" ∧ ¬ contains msg "nonce too low" ∧ ¬ contains msg "nonce too high")

section Known
variable {unicode : Unicode} {rpc : JsonRpcWire} {text : WireText}

private theorem known_rows : ∀ row ∈ allRows, row.error = .alreadyKnown → row.code = -32000 ∨
    ∃ c ∈ row.phrase.toList, c.isUpper = true := by
  simp [allRows,parsers,Dialect.rows,goEthereumRows,nethermindRows,erigonRows,besuRows]

private theorem tryParse_goEthereum (message : String) :
    tryParseSendRawTransactionError unicode (-32000) message = some .alreadyKnown ↔
      TakenAsKnown unicode (-32000) message := by
  rw [tryParse_eq_parseRows,parseRows]
  unfold TakenAsKnown
  generalize toLowercase unicode message = msg
  by_cases already : contains msg "already known"
  · simp [allRows,parsers,Dialect.rows,goEthereumRows,already]
  by_cases funds : contains msg "insufficient funds"
  · simp [allRows,parsers,Dialect.rows,goEthereumRows,already,funds]
  by_cases low : contains msg "nonce too low"
  · simp [allRows,parsers,Dialect.rows,goEthereumRows,already,funds,low]
  by_cases high : contains msg "nonce too high"
  · simp [allRows,parsers,Dialect.rows,goEthereumRows,already,funds,low,high]
  by_cases known : contains msg "known transaction"
  · simp [allRows,parsers,Dialect.rows,goEthereumRows,nethermindRows,erigonRows,besuRows,already,funds,low,high,known]
  · by_cases gas : contains msg "out of gas"
    · simp [allRows,parsers,Dialect.rows,goEthereumRows,nethermindRows,erigonRows,besuRows,already,funds,low,high,known,
        gas]
    · simp [allRows,parsers,Dialect.rows,goEthereumRows,nethermindRows,erigonRows,besuRows,already,funds,low,high,known,
        gas]

theorem tryParse_eq_alreadyKnown (lawful : unicode.Lawful) (code : Int64) (message : String) :
    tryParseSendRawTransactionError unicode code message = some .alreadyKnown ↔ TakenAsKnown unicode code message := by
  by_cases geth : code = -32000
  · subst geth
    exact tryParse_goEthereum message
  · refine iff_of_false ?_ (fun taken => geth taken.1)
    rw [tryParse_eq_parseRows,parseRows,Option.map_eq_some_iff]
    rintro ⟨row,first,known⟩
    obtain ⟨same,found⟩ : row.code = code ∧ _ := by simpa using List.find?_some first
    rcases known_rows row (List.mem_of_find?_eq_some first) known with other | upper
    · exact geth (same.symm.trans other)
    · exact not_contains_of_upper lawful upper found

/-- An error becomes the result of a transaction that was sent exactly if it is taken for one
about a known transaction. -/
theorem reported_iff_taken (rpcLawful : rpc.Lawful) (unicodeLawful : unicode.Lawful) {lost : List UInt8} {id : Id}
    {error : ServerError} (decoded : rpc.response (text.bytesArray 32) lost = some (id,.error error)) :
    (∃ answered, rpc.response WireText.sendRawTransactionResult
      (sanitizeSendRawTransactionResult unicode rpc text lost) = some (answered,.ok .ok)) ↔
    TakenAsKnown unicode error.code error.message := by
  rw [← tryParse_eq_alreadyKnown unicodeLawful]
  cases understood : tryParseSendRawTransactionError unicode error.code error.message with
  | none =>
    refine iff_of_false ?_ nofun
    rintro ⟨answered,sent⟩
    rw [sanitize_unknown decoded understood,JsonRpcWire.response_of_read_error
      (JsonRpcWire.read_writeResponse_error WireText.sendRawTransactionResult rpcLawful decoded)] at sent
    cases sent
  | some known =>
    rw [sanitize_known decoded understood,response_writeResponse_status rpcLawful]
    cases known with
    | alreadyKnown => exact ⟨fun _ => rfl,fun _ => ⟨id,rfl⟩⟩
    | insufficientFunds => exact ⟨nofun,nofun⟩
    | nonceTooLow => exact ⟨nofun,nofun⟩
    | nonceTooHigh => exact ⟨nofun,nofun⟩

/-- A rejected transaction is only reported as sent for a phrase that is a part of longer words. -/
theorem rejected_is_not_sent_iff (rpcLawful : rpc.Lawful) (unicodeLawful : unicode.Lawful) (word : Char → Bool)
    {lost : List UInt8} {id : Id} {error : ServerError}
    (decoded : rpc.response (text.bytesArray 32) lost = some (id,.error error)) :
    ((∃ answered, rpc.response WireText.sendRawTransactionResult
        (sanitizeSendRawTransactionResult unicode rpc text lost) = some (answered,.ok .ok)) →
      NamesKnown unicode word error.message) ↔
    ¬ (TakenAsKnown unicode error.code error.message ∧ ∀ phrase ∈ knownPhrases,
      ¬ AsWords word (toLowercase unicode error.message) (toLowercase unicode phrase)) := by
  rw [reported_iff_taken rpcLawful unicodeLawful decoded,not_and,NamesKnown]
  simp only [not_forall,not_not,exists_prop]

private def unknownType : ServerError := ⟨-32000,"unknown transaction type",none⟩

private theorem unknownType_decoded : JsonRpcWire.reference.response (WireText.reference.bytesArray 32)
    (JsonRpcWire.reference.writeResponse (WireText.reference.bytesArray 32) (.number 1) (.error unknownType)) =
      some (.number 1,.error unknownType) :=
  JsonRpcWire.response_of_read_error (JsonRpcWire.reference_read_write_error _ nofun)

private theorem unknownType_unnamed : ∀ phrase ∈ ["already known","known transaction","alreadyknown"],
    ¬ AsWords Char.isAlphanum "unknown transaction type" phrase := by
  simp [AsWords,List.range_succ]

theorem unknown_type_is_reported_as_sent :
    let lost := JsonRpcWire.reference.writeResponse (WireText.reference.bytesArray 32) (.number 1) (.error unknownType)
    JsonRpcWire.reference.response WireText.sendRawTransactionResult
        (sanitizeSendRawTransactionResult .ascii .reference .reference lost) = some (.number 1,.ok .ok) ∧
      ¬ NamesKnown .ascii Char.isAlphanum unknownType.message := by
  intro lost
  have taken : tryParseSendRawTransactionError .ascii (-32000) "unknown transaction type" = some .alreadyKnown := by
    decide
  refine ⟨?_,?_⟩
  · rw [sanitize_known unknownType_decoded taken,response_writeResponse_status JsonRpcWire.reference_lawful]
    rfl
  · rintro ⟨phrase,listed,found⟩
    have message : toLowercase .ascii "unknown transaction type" = "unknown transaction type" := by decide
    have phrases : ∀ phrase ∈ knownPhrases, toLowercase .ascii phrase ∈
        ["already known","known transaction","alreadyknown"] := by decide
    exact unknownType_unnamed _ (phrases phrase listed) (message ▸ found)

theorem rejected_is_not_sent_for_already_known :
    let error : ServerError := ⟨-32000,"ALREADY_EXISTS: already known",none⟩
    let lost := JsonRpcWire.reference.writeResponse (WireText.reference.bytesArray 32) (.number 1) (.error error)
    ((∃ answered, JsonRpcWire.reference.response WireText.sendRawTransactionResult
        (sanitizeSendRawTransactionResult .ascii .reference .reference lost) = some (answered,.ok .ok)) →
      NamesKnown .ascii Char.isAlphanum error.message) ↔
    ¬ (TakenAsKnown .ascii error.code error.message ∧ ∀ phrase ∈ knownPhrases,
      ¬ AsWords Char.isAlphanum (toLowercase .ascii error.message) (toLowercase .ascii phrase)) := by
  intro error lost
  exact rejected_is_not_sent_iff JsonRpcWire.reference_lawful Unicode.ascii_lawful Char.isAlphanum
    (JsonRpcWire.response_of_read_error (JsonRpcWire.reference_read_write_error _ nofun))

end Known
end EvmRpc
