import EvmRpc.External.SerdeJson
import EvmRpc.RpcClient.Cleanup

/-! The transformation of the replies to raw requests: replies that hold one value are
brought to one form before consensus. -/
namespace EvmRpc
open Library

def canonicalizeJson (serdeJson : SerdeJson) (text : List UInt8) : Option (List UInt8) := do
  let json ← (serdeJson.fromSlice text).toOption
  (serdeJson.toVec json).toOption

def transformHttpRequest (serdeJson : SerdeJson) (args : TransformArgs) : HttpResponse where
  status := args.response.status
  body := (canonicalizeJson serdeJson args.response.body).getD args.response.body
  headers := []

section Canonical
variable {serdeJson : SerdeJson}

/-- The one text of all texts of a value. -/
def canonicalText (tree : Json) : List UInt8 := Text.utf8 (String.ofList tree.sort.print)

private theorem numbers_sort {tree : Json} (distinct : tree.Distinct) (numbers : tree.Numbers Integer64) :
    tree.sort.Numbers Integer64 := (Json.same_sort distinct).numbers numbers

private theorem canonicalize_text (lawful : serdeJson.Lawful) {tree : Json} {text : List UInt8}
    (written : IsText tree text) (distinct : tree.Distinct) (numbers : tree.Numbers Integer64)
    (shallow : tree.depth < SerdeJson.RECURSION_LIMIT) :
    canonicalizeJson serdeJson text = some (canonicalText tree) := by
  have read := lawful.read_text written numbers shallow
  have back := lawful.write_tree (numbers_sort distinct numbers)
  simp only [canonicalizeJson,SerdeJson.fromSlice,SerdeJson.toVec,read,Except.map,SerdeJson.Value.ofJson,
    Except.toOption,Option.bind_eq_bind,Option.bind_some,back]
  rfl

private theorem canonicalize_unread {text : List UInt8} (unread : ∃ error, serdeJson.read text = .error error) :
    canonicalizeJson serdeJson text = none := by
  obtain ⟨error,read⟩ := unread
  simp only [canonicalizeJson,SerdeJson.fromSlice,read,Except.map,Except.toOption]
  rfl

private theorem transform_text (lawful : serdeJson.Lawful) {tree : Json} {args : TransformArgs}
    (written : IsText tree args.response.body) (distinct : tree.Distinct) (numbers : tree.Numbers Integer64)
    (shallow : tree.depth < SerdeJson.RECURSION_LIMIT) :
    transformHttpRequest serdeJson args = ⟨args.response.status,[],canonicalText tree⟩ := by
  rw [transformHttpRequest,canonicalize_text lawful written distinct numbers shallow]
  rfl

private theorem transform_unread {args : TransformArgs}
    (unread : ∃ error, serdeJson.read args.response.body = .error error) :
    transformHttpRequest serdeJson args = ⟨args.response.status,[],args.response.body⟩ := by
  rw [transformHttpRequest,canonicalize_unread unread]
  rfl

private theorem fromSlice_canonicalText (lawful : serdeJson.Lawful) {tree : Json} (distinct : tree.Distinct)
    (numbers : tree.Numbers Integer64) (shallow : tree.depth < SerdeJson.RECURSION_LIMIT) :
    serdeJson.fromSlice (canonicalText tree) = .ok (.ofJson tree) := by
  have same := Json.same_sort distinct
  have read := lawful.read_print (numbers_sort distinct numbers) (same.depth_eq ▸ shallow)
  have value := SerdeJson.Value.ofJson_json (.ofJson tree)
  simp only [SerdeJson.fromSlice,canonicalText,read,Except.map]
  exact congrArg Except.ok value

/-- Replies with one value look equal to consensus, unless they are nested deeper
than the reader goes. -/
theorem transformHttpRequest_canonical (lawful : serdeJson.Lawful) :
    (∀ (first second : Json) (args other : TransformArgs), IsText first args.response.body →
      IsText second other.response.body → Json.Same first second → first.Distinct → first.Numbers Integer64 →
      first.depth < SerdeJson.RECURSION_LIMIT → args.response.status = other.response.status →
      let transformed := transformHttpRequest serdeJson args
      transformHttpRequest serdeJson other = transformed ∧
      (∃ tree, IsText tree transformed.body ∧ Json.Same first tree) ∧
      serdeJson.fromSlice transformed.body = serdeJson.fromSlice args.response.body ∧
      ∀ context, transformHttpRequest serdeJson ⟨transformed,context⟩ = transformed) ∧
    (∀ args : TransformArgs, (∀ tree, ¬ IsText tree args.response.body) →
      transformHttpRequest serdeJson args = ⟨args.response.status,[],args.response.body⟩) ∧
    (∀ (tree : Json) (args : TransformArgs), IsText tree args.response.body →
      SerdeJson.RECURSION_LIMIT ≤ tree.depth →
      transformHttpRequest serdeJson args = ⟨args.response.status,[],args.response.body⟩) := by
  refine ⟨?_,fun args other => transform_unread (lawful.read_other other),
    fun tree args written deep => transform_unread (lawful.read_deep written deep)⟩
  intro first second args other written written' same distinct numbers shallow status
  have whole := transform_text lawful written distinct numbers shallow
  have whole' := transform_text lawful written' (same.distinct distinct) (same.numbers numbers) (same.depth_eq ▸ shallow)
  have sorted := Json.same_sort distinct
  have canonical : IsText first.sort (canonicalText first) := isText_print first.sort
  have read := lawful.read_text written numbers shallow
  simp only [whole]
  refine ⟨?_,⟨first.sort,canonical,sorted⟩,?_,?_⟩
  · rw [whole',status,canonicalText,canonicalText,same.sort_eq distinct]
  · rw [fromSlice_canonicalText lawful distinct numbers shallow,SerdeJson.fromSlice,read]
    rfl
  · intro context
    have again := @transform_text serdeJson lawful first.sort ⟨⟨args.response.status,[],canonicalText first⟩,context⟩
      canonical (sorted.distinct distinct) (sorted.numbers numbers) (sorted.depth_eq ▸ shallow)
    rw [again,canonicalText,canonicalText,(Json.sorted_sort first).sort_eq]

end Canonical

section Examples

/-- A reply as a provider may send it. -/
def rawReply (space : List Char) (tree : Json) : TransformArgs :=
  ⟨⟨200,[],Text.utf8 (String.ofList (space ++ tree.print))⟩,[]⟩

def nestedArrays : ℕ → Json
  | 0 => .null
  | depth+1 => .array [nestedArrays depth]

private theorem depth_nestedArrays (depth : ℕ) : (nestedArrays depth).depth = depth := by
  induction depth with
  | zero => rfl
  | succ depth ih =>
    simp only [nestedArrays,Json.depth,Json.depthItems,ih]
    omega

private theorem distinct_nestedArrays (depth : ℕ) : (nestedArrays depth).Distinct := by
  induction depth with
  | zero => exact .null
  | succ depth ih => exact .array _ (List.forall_mem_singleton.mpr ih)

private theorem numbers_nestedArrays (depth : ℕ) : (nestedArrays depth).Numbers Integer64 := by
  induction depth with
  | zero => exact .null
  | succ depth ih => exact .array _ (List.forall_mem_singleton.mpr ih)

private theorem blank_space : Json.Grammar.Blank [' '] := List.forall_mem_singleton.mpr rfl

private theorem isText_rawReply {space : List Char} (blank : Json.Grammar.Blank space) (tree : Json) :
    IsText tree (rawReply space tree).response.body := isText_spaced tree blank

private theorem body_rawReply_ne (tree : Json) : (rawReply [] tree).response.body ≠ (rawReply [' '] tree).response.body := by
  intro same
  have lengths := congrArg String.length (Text.utf8_injective same)
  simp at lengths

/-- Two orders of the members, an empty body and a body that is nested too deep. -/
theorem transformHttpRequest_canonical_for_replies :
    let id := ("id",Json.number (ReferenceNumber.ofInt 1))
    let result := ("result",Json.array [.string "0x00112233"])
    transformHttpRequest .reference (rawReply [' '] (.object [result,id])) =
      transformHttpRequest .reference (rawReply [] (.object [id,result])) ∧
    transformHttpRequest .reference ⟨⟨502,[⟨"server","proxy"⟩],[]⟩,[]⟩ = ⟨502,[],[]⟩ ∧
    transformHttpRequest .reference (rawReply [' '] (nestedArrays SerdeJson.RECURSION_LIMIT)) =
      ⟨200,[],(rawReply [' '] (nestedArrays SerdeJson.RECURSION_LIMIT)).response.body⟩ := by
  intro id result
  obtain ⟨canonical,unread,deep⟩ := transformHttpRequest_canonical SerdeJson.reference_lawful
  have written := isText_rawReply Json.Grammar.blank_nil
  have one : Integer64 (ReferenceNumber.ofInt 1) := ⟨1,by decide,by decide,rfl⟩
  have spaced := isText_rawReply blank_space
  have nested := depth_nestedArrays SerdeJson.RECURSION_LIMIT
  refine ⟨?_,unread ⟨⟨502,[⟨"server","proxy"⟩],[]⟩,[]⟩ ?_,deep _ _ (spaced (nestedArrays _)) nested.ge⟩
  · refine (canonical (.object [id,result]) (.object [result,id]) _ _ (written _) (spaced _) ?_ ?_ ?_ ?_ rfl).1
    · exact .object _ [id,result] _ rfl (List.forall₂_same.mpr (fun value _ => .refl value)) (.swap result id [])
    · exact .object _ (by decide) (by simp [id,result,Json.Distinct.number,Json.Distinct.array,Json.Distinct.string])
    · exact .object _ (by simp [id,result,Json.Numbers.number,one,Json.Numbers.array,Json.Numbers.string])
    · decide
  · rintro tree ⟨text,element,empty⟩
    cases @Text.utf8_injective "" text empty
    have parsed := Json.Grammar.parse_eq_some.mpr element
    have nothing : Json.parse "".toList = none := rfl
    rw [nothing] at parsed
    cases parsed

/-- At the recursion limit a leading space is not removed. -/
theorem transformHttpRequest_of_deep_replies :
    let tree := nestedArrays SerdeJson.RECURSION_LIMIT
    IsText tree (rawReply [] tree).response.body ∧ IsText tree (rawReply [' '] tree).response.body ∧
    Json.Same tree tree ∧ tree.Distinct ∧ tree.Numbers Integer64 ∧
    transformHttpRequest .reference (rawReply [] tree) ≠ transformHttpRequest .reference (rawReply [' '] tree) := by
  intro tree
  have deep : SerdeJson.RECURSION_LIMIT ≤ tree.depth := le_of_eq (depth_nestedArrays SerdeJson.RECURSION_LIMIT).symm
  have unchanged {space : List Char} (blank : Json.Grammar.Blank space) :
      transformHttpRequest .reference (rawReply space tree) = ⟨200,[],(rawReply space tree).response.body⟩ :=
    transform_unread (SerdeJson.reference_lawful.read_deep (isText_rawReply blank tree) deep)
  refine ⟨isText_rawReply Json.Grammar.blank_nil tree,isText_rawReply blank_space tree,.refl tree,
    distinct_nestedArrays SerdeJson.RECURSION_LIMIT,numbers_nestedArrays SerdeJson.RECURSION_LIMIT,?_⟩
  rw [unchanged Json.Grammar.blank_nil,unchanged blank_space]
  intro same
  exact body_rawReply_ne tree (HttpResponse.mk.inj same).2.2

end Examples
end EvmRpc
