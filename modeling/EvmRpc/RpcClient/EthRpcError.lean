import Mathlib
import EvmRpc.RpcClient.Reference
import EvmRpc.RpcClient.Roundtrip

/-! Errors of `eth_sendRawTransaction` in the dialects of the Ethereum clients, and
the sanitised response that hides which node won the race. -/
namespace EvmRpc
open Library

inductive SendRawTransactionError where
  | alreadyKnown
  | insufficientFunds
  | nonceTooLow
  | nonceTooHigh
  deriving DecidableEq, Repr

/-- Lower case of the characters beyond ASCII, which may depend on the characters
around them. -/
structure Unicode where
  lower : (before : List Char) → Char → (after : List Char) → List Char

namespace Unicode

/-- Lower case text has no upper case ASCII letter. -/
def Lawful (unicode : Unicode) : Prop :=
  ∀ before c after, ∀ d ∈ unicode.lower before c after, d.isUpper = false

def lowerFrom (unicode : Unicode) (before : List Char) : List Char → List Char
  | [] => []
  | c::rest =>
    (if c.toNat < 128 then [c.toLower] else unicode.lower before c rest) ++ unicode.lowerFrom (before ++ [c]) rest

/-- The conversion on texts that are all ASCII. -/
def ascii : Unicode where
  lower _ c _ := [c.toLower]

theorem ascii_lawful : ascii.Lawful := by
  intro before c after d inside
  obtain rfl := List.mem_singleton.mp inside
  exact Char.isUpper_toLower_eq_false c

end Unicode

def toLowercase (unicode : Unicode) (text : String) : String :=
  String.ofList (unicode.lowerFrom [] text.toList)

def contains (text phrase : String) : Prop := phrase.toList <:+: text.toList

instance (text phrase : String) : Decidable (contains text phrase) :=
  inferInstanceAs (Decidable (phrase.toList <:+: text.toList))

/-- One guarded arm of a parser. -/
structure ErrorRow where
  code : Int64
  phrase : String
  error : SendRawTransactionError
  deriving DecidableEq, Repr

/-- The first arm whose code is the given one and whose phrase the message in lower
case contains. -/
def parseRows (unicode : Unicode) (rows : List ErrorRow) (code : Int64) (message : String) :
    Option SendRawTransactionError :=
  let msg := toLowercase unicode message
  (rows.find? (fun row => row.code = code ∧ contains msg row.phrase)).map ErrorRow.error

inductive Dialect where
  | goEthereum
  | nethermind
  | erigon
  | besu
  deriving DecidableEq, Repr

def goEthereumRows : List ErrorRow := [⟨-32000,"already known",.alreadyKnown⟩,
  ⟨-32000,"insufficient funds",.insufficientFunds⟩,⟨-32000,"nonce too low",.nonceTooLow⟩,
  ⟨-32000,"nonce too high",.nonceTooHigh⟩]

def nethermindRows : List ErrorRow := [⟨-32010,"AlreadyKnown",.alreadyKnown⟩,
  ⟨-32010,"InsufficientFunds",.insufficientFunds⟩,⟨-32010,"OldNonce",.nonceTooLow⟩,
  ⟨-32010,"NonceGap",.nonceTooHigh⟩]

def erigonRows : List ErrorRow := [⟨-32000,"already known",.alreadyKnown⟩,
  ⟨-32000,"insufficient funds",.insufficientFunds⟩,⟨-32000,"nonce too low",.nonceTooLow⟩]

def besuRows : List ErrorRow := [⟨-32000,"known transaction",.alreadyKnown⟩,
  ⟨-32000,"out of gas",.insufficientFunds⟩,⟨-32001,"nonce too low",.nonceTooLow⟩,
  ⟨-32006,"nonce too high",.nonceTooHigh⟩]

def Dialect.rows : Dialect → List ErrorRow
  | .goEthereum => goEthereumRows
  | .nethermind => nethermindRows
  | .erigon => erigonRows
  | .besu => besuRows

def parsers : List Dialect := [.goEthereum,.nethermind,.erigon,.besu]

def tryParseSendRawTransactionError (unicode : Unicode) (code : Int64) (message : String) :
    Option SendRawTransactionError :=
  parsers.findSome? (fun dialect => parseRows unicode dialect.rows code message)

def SendRawTransactionError.toResult : SendRawTransactionError → Json.SendRawTransactionResult
  | .alreadyKnown => .ok
  | .insufficientFunds => .insufficientFunds
  | .nonceTooLow => .nonceTooLow
  | .nonceTooHigh => .nonceTooHigh

def sanitizeSendRawTransactionResult (unicode : Unicode) (rpc : JsonRpcWire) (text : WireText)
    (bodyBytes : List UInt8) : List UInt8 :=
  match rpc.response (text.bytesArray 32) bodyBytes with
  | none => bodyBytes
  | some (id,result) =>
    let sanitizedResult := match result with
      | .ok _ => .ok .ok
      | .error error =>
        match tryParseSendRawTransactionError unicode error.code error.message with
        | some known => .ok known.toResult
        | none => .error error
    rpc.writeResponse WireText.sendRawTransactionResult id sanitizedResult

section Dialects
variable {unicode : Unicode}

def allRows : List ErrorRow := parsers.flatMap Dialect.rows

/-- The message has the phrase of the row as it stands and no other phrase that is
listed with its code, in any case. -/
def InScope (unicode : Unicode) (row : ErrorRow) (message : String) : Prop :=
  contains message row.phrase ∧
  ∀ other ∈ allRows, other.code = row.code → other.phrase ≠ row.phrase →
    ¬ contains (toLowercase unicode message) (toLowercase unicode other.phrase)

instance (row : ErrorRow) (message : String) : Decidable (InScope unicode row message) :=
  inferInstanceAs (Decidable (contains message row.phrase ∧ ∀ other ∈ allRows, other.code = row.code →
    other.phrase ≠ row.phrase → ¬ contains (toLowercase unicode message) (toLowercase unicode other.phrase)))

private theorem lowerFrom_append (unicode : Unicode) (before first second : List Char) :
    ∃ front, unicode.lowerFrom before (first ++ second) =
      front ++ unicode.lowerFrom (before ++ first) second := by
  induction first generalizing before with
  | nil => exact ⟨[],by simp⟩
  | cons c first ih =>
    obtain ⟨front,same⟩ := ih (before ++ [c])
    simp only [List.cons_append,Unicode.lowerFrom,same]
    rw [← List.append_assoc]
    exact ⟨_,by rw [List.append_assoc before,List.singleton_append,List.append_assoc]⟩

private theorem lowerFrom_ascii (unicode : Unicode) (before text after : List Char)
    (ascii : ∀ c ∈ text, c.toNat < 128) : unicode.lowerFrom before (text ++ after) =
      text.map Char.toLower ++ unicode.lowerFrom (before ++ text) after := by
  induction text generalizing before with
  | nil => simp
  | cons c text ih =>
    have first := ascii c (by simp)
    have others := ih (before ++ [c]) (fun d inside => ascii d (by simp [inside]))
    simp only [List.cons_append,Unicode.lowerFrom,if_pos first,others,List.map_cons]
    simp

theorem toLowercase_ascii {text : String} (ascii : ∀ c ∈ text.toList, c.toNat < 128) :
    toLowercase unicode text = String.ofList (text.toList.map Char.toLower) := by
  have whole := lowerFrom_ascii unicode [] text.toList [] ascii
  rw [List.append_nil] at whole
  simp [toLowercase,whole,Unicode.lowerFrom]

theorem contains_toLowercase (unicode : Unicode) {message phrase : String} (ascii : ∀ c ∈ phrase.toList, c.toNat < 128)
    (found : contains message phrase) : contains (toLowercase unicode message) (toLowercase unicode phrase) := by
  obtain ⟨before,after,split⟩ := found
  obtain ⟨front,same⟩ := lowerFrom_append unicode [] before (phrase.toList ++ after)
  rw [lowerFrom_ascii unicode _ _ _ ascii] at same
  refine ⟨front,unicode.lowerFrom ([] ++ before ++ phrase.toList) after,?_⟩
  rw [toLowercase_ascii ascii,toLowercase,← split,List.append_assoc before,same]
  simp

private theorem lowerFrom_not_upper (lawful : unicode.Lawful) (before text : List Char) :
    ∀ c ∈ unicode.lowerFrom before text, c.isUpper = false := by
  induction text generalizing before with
  | nil => simp [Unicode.lowerFrom]
  | cons d text ih =>
    intro c inside
    simp only [Unicode.lowerFrom,List.mem_append] at inside
    rcases inside with first | later
    · split at first
      · rw [List.mem_singleton] at first
        subst c
        exact Char.isUpper_toLower_eq_false d
      · exact lawful before d text c first
    · exact ih _ c later

theorem not_contains_of_upper (lawful : unicode.Lawful) {message phrase : String}
    (upper : ∃ c ∈ phrase.toList, c.isUpper = true) : ¬ contains (toLowercase unicode message) phrase := by
  obtain ⟨c,inside,capital⟩ := upper
  intro found
  have member := found.subset inside
  rw [toLowercase,String.toList_ofList] at member
  rw [lowerFrom_not_upper lawful [] _ c member] at capital
  contradiction

private theorem allRows_ascii : ∀ row ∈ allRows, ∀ c ∈ row.phrase.toList, c.toNat < 128 := by
  simp [allRows,parsers,Dialect.rows,goEthereumRows,nethermindRows,erigonRows,besuRows]

private theorem allRows_error : ∀ row ∈ allRows, ∀ other ∈ allRows, other.code = row.code →
    other.phrase = row.phrase → other.error = row.error := by decide

/-- Only the phrases of one dialect are listed with capital letters. -/
private theorem phrase_case (dialect : Dialect) : ∀ row ∈ dialect.rows,
    if dialect = .nethermind then ∃ c ∈ row.phrase.toList, c.isUpper = true
    else ∀ c ∈ row.phrase.toList, c.toLower = c := by
  cases dialect <;> simp [Dialect.rows,goEthereumRows,nethermindRows,erigonRows,besuRows]

private theorem mem_allRows {dialect : Dialect} {row : ErrorRow} (listed : row ∈ dialect.rows) :
    row ∈ allRows := by
  refine List.mem_flatMap.mpr ⟨dialect,?_,listed⟩
  cases dialect <;> decide

theorem tryParse_eq_parseRows (code : Int64) (message : String) :
    tryParseSendRawTransactionError unicode code message = parseRows unicode allRows code message := by
  unfold tryParseSendRawTransactionError allRows
  induction parsers with
  | nil => rfl
  | cons dialect rest ih =>
    rw [List.findSome?_cons,List.flatMap_cons,ih]
    simp only [parseRows,List.find?_append]
    cases dialect.rows.find? _ <;> rfl

private theorem phrase_of_found (lawful : unicode.Lawful) {row other : ErrorRow} {message : String}
    (scope : InScope unicode row message) (listed : other ∈ allRows) (sameCode : other.code = row.code)
    (found : contains (toLowercase unicode message) other.phrase) : other.phrase = row.phrase := by
  by_contra different
  refine scope.2 other listed sameCode different ?_
  obtain ⟨dialect,_,inside⟩ := List.mem_flatMap.mp listed
  have letters := phrase_case dialect other inside
  split at letters
  · exact absurd found (not_contains_of_upper lawful letters)
  · have lower : toLowercase unicode other.phrase = other.phrase := by
      rw [toLowercase_ascii (allRows_ascii other listed),List.map_congr_left letters]
      simp
    rwa [lower]

private theorem tryParse_iff_contains (lawful : unicode.Lawful) {row : ErrorRow} {message : String}
    (listed : row ∈ allRows) (scope : InScope unicode row message) :
    (tryParseSendRawTransactionError unicode row.code message = some row.error) ↔
      contains (toLowercase unicode message) row.phrase := by
  rw [tryParse_eq_parseRows,parseRows,Option.map_eq_some_iff]
  constructor
  · rintro ⟨other,first,_⟩
    have member := List.mem_of_find?_eq_some first
    obtain ⟨sameCode,found⟩ : other.code = row.code ∧ _ := by simpa using List.find?_some first
    rwa [← phrase_of_found lawful scope member sameCode found]
  · intro found
    obtain ⟨other,first⟩ : ∃ other, allRows.find? (fun other => other.code = row.code ∧
        contains (toLowercase unicode message) other.phrase) = some other := by
      rw [← Option.isSome_iff_exists,List.find?_isSome]
      exact ⟨row,listed,by simp [found]⟩
    have member := List.mem_of_find?_eq_some first
    obtain ⟨sameCode,present⟩ : other.code = row.code ∧ _ := by simpa using List.find?_some first
    exact ⟨other,first,allRows_error row listed other member sameCode
      (phrase_of_found lawful scope member sameCode present)⟩

private theorem contains_iff_dialect (lawful : unicode.Lawful) {dialect : Dialect} {row : ErrorRow}
    (listed : row ∈ dialect.rows) {message : String} (found : contains message row.phrase) :
    contains (toLowercase unicode message) row.phrase ↔ dialect ≠ .nethermind := by
  have letters := phrase_case dialect row listed
  have ascii := allRows_ascii row (mem_allRows listed)
  constructor
  · rintro present rfl
    exact not_contains_of_upper lawful letters present
  · intro other
    rw [if_neg other] at letters
    have lowered := contains_toLowercase unicode ascii found
    rwa [toLowercase_ascii ascii,List.map_congr_left letters,List.map_id',String.ofList_toList] at lowered

theorem tryParse_iff_dialect (lawful : unicode.Lawful) {dialect : Dialect} {row : ErrorRow}
    (listed : row ∈ dialect.rows) {message : String} (scope : InScope unicode row message) :
    (tryParseSendRawTransactionError unicode row.code message = some row.error) ↔ dialect ≠ .nethermind :=
  (tryParse_iff_contains lawful (mem_allRows listed) scope).trans (contains_iff_dialect lawful listed scope.1)

theorem tryParse_of_nethermind (lawful : unicode.Lawful) {row : ErrorRow} (listed : row ∈ nethermindRows)
    {message : String} (scope : InScope unicode row message) :
    tryParseSendRawTransactionError unicode row.code message = none := by
  rw [tryParse_eq_parseRows,parseRows,Option.map_eq_none_iff,List.find?_eq_none]
  intro other member matched
  obtain ⟨sameCode,found⟩ : other.code = row.code ∧ _ := by simpa using matched
  rw [phrase_of_found lawful scope member sameCode found] at found
  exact not_contains_of_upper lawful (phrase_case .nethermind row listed) found

end Dialects

section Sanitize
variable {unicode : Unicode} {rpc : JsonRpcWire} {text : WireText}

theorem sanitize_ok {won : List UInt8} {id : Id} {hash : Json.Hash}
    (decoded : rpc.response (text.bytesArray 32) won = some (id,.ok hash)) :
    sanitizeSendRawTransactionResult unicode rpc text won =
      rpc.writeResponse WireText.sendRawTransactionResult id (.ok .ok) := by
  simp [sanitizeSendRawTransactionResult,decoded]

theorem sanitize_error {lost : List UInt8} {id : Id} {error : ServerError}
    (decoded : rpc.response (text.bytesArray 32) lost = some (id,.error error)) :
    sanitizeSendRawTransactionResult unicode rpc text lost =
      rpc.writeResponse WireText.sendRawTransactionResult id
        (match tryParseSendRawTransactionError unicode error.code error.message with
        | some known => .ok known.toResult
        | none => .error error) := by
  unfold sanitizeSendRawTransactionResult
  rw [decoded]

theorem writeResponse_error_ne (lawful : rpc.Lawful) {lost : List UInt8} {id : Id} {error : ServerError}
    (decoded : rpc.response (text.bytesArray 32) lost = some (id,.error error)) :
    rpc.writeResponse WireText.sendRawTransactionResult id (.error error) ≠
      rpc.writeResponse WireText.sendRawTransactionResult id (.ok .ok) := by
  intro same
  have failed := JsonRpcWire.read_writeResponse_error WireText.sendRawTransactionResult lawful decoded
  have won := JsonRpcWire.response_writeResponse_ok lawful (WireText.sendRawTransactionResult_within 64) id
    (WireText.sendRawTransactionResult_stable .ok trivial)
  rw [← same,JsonRpcWire.response_of_read_error failed] at won
  cases won

/-- The phrases of every dialect but one are understood, and a reply that says the
transaction is known is sanitised like the reply that won the race. -/
theorem dialect_understood_iff (text : WireText) (unicodeLawful : unicode.Lawful) (rpcLawful : rpc.Lawful) {dialect : Dialect}
    {row : ErrorRow} (listed : row ∈ dialect.rows) {message : String} (scope : InScope unicode row message) :
    (tryParseSendRawTransactionError unicode row.code message = some row.error ↔ dialect ≠ .nethermind) ∧
    (row.error = .alreadyKnown → ∀ id data hash lost won,
      rpc.response (text.bytesArray 32) lost = some (id,.error ⟨row.code,message,data⟩) →
      rpc.response (text.bytesArray 32) won = some (id,.ok hash) →
      (sanitizeSendRawTransactionResult unicode rpc text lost =
        sanitizeSendRawTransactionResult unicode rpc text won ↔ dialect ≠ .nethermind)) := by
  have understood := tryParse_iff_dialect unicodeLawful listed scope
  refine ⟨understood,?_⟩
  intro known id data hash lost won failed succeeded
  rw [sanitize_ok succeeded,sanitize_error failed]
  constructor
  · rintro same rfl
    rw [tryParse_of_nethermind unicodeLawful listed scope] at same
    exact writeResponse_error_ne rpcLawful failed same
  · intro other
    rw [understood.mpr other,known]
    rfl

private theorem goEthereum_known_in_scope : InScope .ascii ⟨-32000,"already known",.alreadyKnown⟩ "already known" := by
  decide

theorem dialect_understood_for_goEthereum :
    let lost := JsonRpcWire.reference.writeResponse (WireText.reference.bytesArray 32) (.number 1)
      (.error ⟨-32000,"already known",none⟩)
    let won := JsonRpcWire.reference.writeResponse (WireText.reference.bytesArray 32) (.number 1) (.ok default)
    tryParseSendRawTransactionError .ascii (-32000) "already known" = some .alreadyKnown ∧
    sanitizeSendRawTransactionResult .ascii .reference .reference lost =
      sanitizeSendRawTransactionResult .ascii .reference .reference won := by
  intro lost won
  obtain ⟨understood,raced⟩ := dialect_understood_iff .reference Unicode.ascii_lawful
    JsonRpcWire.reference_lawful (by decide : _ ∈ Dialect.goEthereum.rows) goEthereum_known_in_scope
  refine ⟨understood.mpr (by decide),(raced rfl (.number 1) none default lost won ?_ ?_).mpr (by decide)⟩
  · exact JsonRpcWire.response_of_read_error (JsonRpcWire.reference_read_write_error _ nofun)
  · exact JsonRpcWire.response_writeResponse_ok JsonRpcWire.reference_lawful (WireText.bytesArray_within _ 32 64) _
      (WireText.bytesArray_stable WireText.reference_lawful 32 default trivial)

/-- The error of a client as it prints it, with the code of that client. -/
theorem nethermind_not_understood : ¬ ∀ dialect, ∀ row ∈ Dialect.rows dialect, ∀ message,
    InScope .ascii row message → tryParseSendRawTransactionError .ascii row.code message = some row.error := by
  intro understood
  have known := understood .nethermind ⟨-32010,"AlreadyKnown",.alreadyKnown⟩ (by decide) "AlreadyKnown" (by decide)
  revert known
  decide

end Sanitize
end EvmRpc
