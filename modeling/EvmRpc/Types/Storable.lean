import EvmRpc.External.SerdeJson
import EvmRpc.Memory

/-! The values that the canister keeps in stable memory: their encodings, and the
bounds that the types declare for them. -/
namespace EvmRpc
open Library
open Library.Json (Format Record)

inductive Bound where
  | bounded (maxSize : UInt32) (isFixedSize : Bool)
  | unbounded

def Bound.Admits : Bound → ℕ → Prop
  | .bounded maxSize true,size => size = maxSize.toNat
  | .bounded maxSize false,size => size ≤ maxSize.toNat
  | .unbounded,_ => True

structure Storable (α : Type) where
  toBytes : α → Outcome (List UInt8)
  fromBytes : List UInt8 → Outcome α
  bound : Bound

namespace Storable
variable {α : Type}

/-- What a stable structure relies on, whether it checks the bound or not. -/
def Keeps (storable : Storable α) (value : α) : Prop :=
  ∃ bytes, storable.toBytes value = .done bytes ∧ storable.fromBytes bytes = .done value ∧
    storable.bound.Admits bytes.length

/-- A type that is stored as the JSON text of its derived encoding. -/
def json (serdeJson : SerdeJson) (format : Format α) (serializing deserializing : String) (bound : Bound) :
    Storable α where
  toBytes value := Outcome.expect serializing (serdeJson.toVecAs format value)
  fromBytes bytes := Outcome.expect deserializing (serdeJson.fromSliceAs format bytes)
  bound := bound

end Storable

def API_KEY_MAX_SIZE : UInt32 := 512

def MESSAGE_FILTER_MAX_SIZE : UInt32 := 1000

def ApiKey.storable : Storable ApiKey where
  toBytes key := .done (Text.utf8 key.read)
  fromBytes bytes := do
    let text ← Outcome.ofOption "called `Result::unwrap()` on an `Err` value" (Text.ofUtf8 bytes)
    .done ⟨text⟩
  bound := .bounded API_KEY_MAX_SIZE false

namespace LogFilter

def ofName (name : String) : Option LogFilter :=
  if name = "ShowAll" then some .showAll else if name = "HideAll" then some .hideAll else none

def ofPattern (name pattern : String) : Option LogFilter :=
  if name = "ShowPattern" then some (.showPattern pattern)
  else if name = "HidePattern" then some (.hidePattern pattern)
  else none

/-- The variants by name, with their pattern if there is one. -/
def format : Format LogFilter where
  encode
    | .showAll => .string "ShowAll"
    | .hideAll => .string "HideAll"
    | .showPattern pattern => .object [("ShowPattern",.string pattern)]
    | .hidePattern pattern => .object [("HidePattern",.string pattern)]
  decode
    | .string name => ofName name
    | .object [(name,.null)] => ofName name
    | .object [(name,.string pattern)] => ofPattern name pattern
    | _ => none

def storable (serdeJson : SerdeJson) : Storable LogFilter :=
  .json serdeJson format "Error while serializing `LogFilter`" "Error while deserializing `LogFilter`"
    (.bounded MESSAGE_FILTER_MAX_SIZE true)

end LogFilter

namespace OverrideProvider

def substitutionRecord : Record RegexSubstitution where
  names := ["pattern","replacement"]
  values substitution := [.string substitution.pattern,.string substitution.replacement]
  build _
    | [some (.string pattern),some (.string replacement)] => some ⟨pattern,replacement⟩
    | _ => none

def record : Record OverrideProvider where
  names := ["override_url"]
  values override := [substitutionRecord.format.option.encode override.overrideUrl]
  build positional
    | [overrideUrl] => (Record.optional substitutionRecord.format positional overrideUrl).map OverrideProvider.mk
    | _ => none

def format : Format OverrideProvider := record.format

def storable (serdeJson : SerdeJson) : Storable OverrideProvider :=
  .json serdeJson format "Error while serializing `OverrideProvider`" "Error while deserializing `Storable`" .unbounded

end OverrideProvider

section Encodings
variable {serdeJson : SerdeJson}

theorem LogFilter.format_stable : LogFilter.format.Stable (fun _ => True) := by
  intro filter _
  cases filter <;> rfl

theorem OverrideProvider.format_stable : OverrideProvider.format.Stable (fun _ => True) := by
  have substitution : OverrideProvider.substitutionRecord.format.Stable (fun _ => True) :=
    Record.stable (by decide) (fun _ => rfl) (fun _ _ => rfl)
  have optional := Format.option_stable substitution (Record.present _)
  apply Record.stable (by decide) (fun _ => rfl)
  intro override _
  have back := optional override.overrideUrl (fun _ _ => trivial)
  simp only [OverrideProvider.record,Record.optional,List.map_cons,List.map_nil,back,Option.map_some]

/-- An encoding that a reader takes back, at the size of its text. -/
theorem Storable.json_spec (lawful : serdeJson.Lawful) {α : Type} {format : Format α} {value : α}
    (stable : format.decode (format.encode value) = some value) (numbers : (format.encode value).Numbers Integer64)
    (shallow : (format.encode value).depth < SerdeJson.RECURSION_LIMIT) {serializing deserializing : String}
    {bound : Bound} : let storable := Storable.json serdeJson format serializing deserializing bound
    ∃ bytes, storable.toBytes value = .done bytes ∧ storable.fromBytes bytes = .done value ∧
      bytes.length = ((format.encode value).print.map Char.utf8Size).sum := by
  refine ⟨Text.utf8 (String.ofList (format.encode value).print),?_,?_,?_⟩
  · simp only [Storable.json,lawful.toVecAs_eq numbers,Outcome.expect]
  · simp only [Storable.json,lawful.fromSliceAs_print stable numbers shallow,Outcome.expect]
  · rw [Text.length_utf8,Text.utf8ByteSize_ofList]

private theorem LogFilter.numbers_format (filter : LogFilter) : (LogFilter.format.encode filter).Numbers Integer64 := by
  cases filter with
  | showAll => exact .string _
  | hideAll => exact .string _
  | showPattern pattern => exact .object _ (List.forall_mem_singleton.mpr (.string pattern))
  | hidePattern pattern => exact .object _ (List.forall_mem_singleton.mpr (.string pattern))

private theorem LogFilter.depth_format (filter : LogFilter) : (LogFilter.format.encode filter).depth ≤ 1 := by
  cases filter <;> exact Nat.le_of_ble_eq_true rfl

private theorem OverrideProvider.numbers_format (override : OverrideProvider) :
    (OverrideProvider.format.encode override).Numbers Integer64 := by
  refine .object _ (List.forall_mem_singleton.mpr ?_)
  cases override.overrideUrl with
  | none => exact .null
  | some substitution =>
    exact .object _ (List.forall_mem_cons.mpr ⟨.string _,List.forall_mem_singleton.mpr (.string _)⟩)

private theorem OverrideProvider.depth_format (override : OverrideProvider) :
    (OverrideProvider.format.encode override).depth ≤ 2 := by
  obtain ⟨overrideUrl⟩ := override
  cases overrideUrl <;> exact Nat.le_of_ble_eq_true rfl

/-- The bytes of a filter: only a pattern makes them vary. -/
private theorem LogFilter.size_format (filter : LogFilter) :
    ((LogFilter.format.encode filter).print.map Char.utf8Size).sum = match filter with
      | .showAll | .hideAll => 9
      | .showPattern pattern | .hidePattern pattern => Json.escapedSize pattern+18 := by
  have tagged (name pattern : String) :
      ((Json.print (.object [(name,.string pattern)])).map Char.utf8Size).sum =
        Json.escapedSize name+Json.escapedSize pattern+7 := by
    have marks : ('\x7b' : Char).utf8Size = 1 ∧ ('\x7d' : Char).utf8Size = 1 ∧ (':' : Char).utf8Size = 1 := by decide
    simp only [Json.print,Json.printMembers,List.map_cons,List.map_append,List.map_nil,List.sum_cons,
      List.sum_append,List.sum_nil,Json.size_quote,marks]
    omega
  have words : Json.escapedSize "ShowAll" = 7 ∧ Json.escapedSize "HideAll" = 7 ∧
      Json.escapedSize "ShowPattern" = 11 ∧ Json.escapedSize "HidePattern" = 11 := by decide
  cases filter with
  | showAll => exact (Json.size_quote "ShowAll").trans (by rw [words.1])
  | hideAll => exact (Json.size_quote "HideAll").trans (by rw [words.2.1])
  | showPattern pattern =>
    have size := tagged "ShowPattern" pattern
    simp only [LogFilter.format,size,words]
    omega
  | hidePattern pattern =>
    have size := tagged "HidePattern" pattern
    simp only [LogFilter.format,size,words]
    omega

theorem LogFilter.storable_spec (lawful : serdeJson.Lawful) (filter : LogFilter) :
    ∃ bytes, (LogFilter.storable serdeJson).toBytes filter = .done bytes ∧
      (LogFilter.storable serdeJson).fromBytes bytes = .done filter ∧
      bytes.length = ((LogFilter.format.encode filter).print.map Char.utf8Size).sum := by
  have shallow := (LogFilter.depth_format filter).trans_lt (by decide : 1 < SerdeJson.RECURSION_LIMIT)
  exact Storable.json_spec lawful (LogFilter.format_stable filter trivial) (LogFilter.numbers_format filter) shallow

theorem OverrideProvider.storable_spec (lawful : serdeJson.Lawful) (override : OverrideProvider) :
    ∃ bytes, (OverrideProvider.storable serdeJson).toBytes override = .done bytes ∧
      (OverrideProvider.storable serdeJson).fromBytes bytes = .done override ∧
      bytes.length = ((OverrideProvider.format.encode override).print.map Char.utf8Size).sum := by
  have shallow := (OverrideProvider.depth_format override).trans_lt (by decide : 2 < SerdeJson.RECURSION_LIMIT)
  exact Storable.json_spec lawful (OverrideProvider.format_stable override trivial)
    (OverrideProvider.numbers_format override) shallow

/-- A pattern that fills the declared size to the byte. -/
def LogFilter.FillsBound : LogFilter → Prop
  | .showAll | .hideAll => False
  | .showPattern pattern | .hidePattern pattern => Json.escapedSize pattern = 982

private theorem ApiKey.keeps {text : String} {key : ApiKey} (accepted : ApiKey.tryFrom text = .ok key) :
    ApiKey.storable.Keeps key := by
  unfold ApiKey.tryFrom validateApiKey at accepted
  split_ifs at accepted with empty long invalid
  cases accepted
  refine ⟨Text.utf8 text,rfl,?_,?_⟩
  · simp [ApiKey.storable,Outcome.ofOption]
  · have bound : API_KEY_MAX_SIZE.toNat = 512 := rfl
    simp only [ApiKey.storable,Bound.Admits,Text.length_utf8,bound]
    omega

/-- Every encoding is read back. The bounds of keys and overrides hold; that of the
log filter only for patterns of one size. -/
theorem storable_keeps_iff (lawful : serdeJson.Lawful) :
    (∀ (text : String) (key : ApiKey), ApiKey.tryFrom text = .ok key → ApiKey.storable.Keeps key) ∧
    (∀ override : OverrideProvider, (OverrideProvider.storable serdeJson).Keeps override) ∧
    (∀ filter : LogFilter,
      (∃ bytes, (LogFilter.storable serdeJson).toBytes filter = .done bytes ∧
        (LogFilter.storable serdeJson).fromBytes bytes = .done filter) ∧
      ((LogFilter.storable serdeJson).Keeps filter ↔ filter.FillsBound)) := by
  refine ⟨fun _ _ => ApiKey.keeps,?_,?_⟩
  · intro override
    obtain ⟨bytes,written,read,_⟩ := OverrideProvider.storable_spec lawful override
    exact ⟨bytes,written,read,trivial⟩
  · intro filter
    obtain ⟨bytes,written,read,size⟩ := LogFilter.storable_spec lawful filter
    have keeps : (LogFilter.storable serdeJson).Keeps filter ↔ bytes.length = 1000 := by
      constructor
      · intro kept
        obtain ⟨stored,writing,_,admitted⟩ := kept
        cases written.symm.trans writing
        exact admitted
      · exact fun full => ⟨bytes,written,read,full⟩
    refine ⟨⟨bytes,written,read⟩,?_⟩
    rw [keeps,size,LogFilter.size_format]
    cases filter with
    | showAll => simp [LogFilter.FillsBound]
    | hideAll => simp [LogFilter.FillsBound]
    | showPattern pattern =>
      simp only [LogFilter.FillsBound]
      omega
    | hidePattern pattern =>
      simp only [LogFilter.FillsBound]
      omega

/-- A key, an override and a filter that are kept. -/
theorem storable_keeps_for_values :
    ApiKey.storable.Keeps ⟨"abc"⟩ ∧
    (OverrideProvider.storable .reference).Keeps ⟨some ⟨"^https://",""⟩⟩ ∧
    (LogFilter.storable .reference).Keeps (.showPattern (Text.stars 982)) := by
  obtain ⟨keys,overrides,filters⟩ := storable_keeps_iff SerdeJson.reference_lawful
  refine ⟨keys "abc" ⟨"abc"⟩ (by decide),overrides _,(filters _).2.mpr ?_⟩
  have star : Json.escapedCharSize '*' = 1 := by decide
  change Json.escapedSize (Text.stars 982) = 982
  rw [Json.escapedSize,Text.toList_stars,List.map_replicate,List.sum_replicate_nat,star]

/-- The filter of a new canister takes 9 bytes where 1000 are declared. -/
theorem storable_of_default_filter :
    (LogFilter.storable .reference).toBytes .showAll = .done (Text.utf8 "\"ShowAll\"") ∧
    (Text.utf8 "\"ShowAll\"").length = 9 ∧
    (LogFilter.storable .reference).bound = .bounded 1000 true ∧
    ¬ (LogFilter.storable .reference).Keeps .showAll := by
  refine ⟨rfl,rfl,rfl,?_⟩
  intro kept
  obtain ⟨stored,written,_,admitted⟩ := kept
  cases written
  cases admitted

end Encodings

end EvmRpc
