import EvmRpc.External.JsonRpc
import EvmRpc.Types.Result

/-! Requests of the `http` crate and their way to the management canister in the
`canhttp` crate. Parsing, encoding and the price of an outcall are parameters. -/
namespace EvmRpc
open Library

structure Uri where
  text : String
  host : Option String
  deriving DecidableEq, Repr

structure HttpCrate where
  parseUri : String → Except String Uri
  headerName : String → Except String String
  headerValue : String → Except String String
  toStr : (headerValue : String) → Except String String

structure TransformContext where
  name : String
  context : List UInt8
  deriving DecidableEq, Repr

structure RequestParts where
  uri : Uri
  headers : List HttpHeader
  maxResponseBytes : Option UInt64
  transformContext : Option TransformContext
  deriving DecidableEq, Repr

structure HttpRequest (β : Type) where
  parts : RequestParts
  body : β

/-- A builder keeps the first error until the body is set. -/
abbrev Builder := Except String RequestParts

namespace Builder

def post (http : HttpCrate) (url : String) : Builder := (http.parseUri url).map (⟨·,[],none,none⟩)

def header (http : HttpCrate) (builder : Builder) (header : HttpHeader) : Builder := do
  let parts ← builder
  let name ← http.headerName header.name
  let value ← http.headerValue header.value
  .ok {parts with headers := parts.headers ++ [⟨name,value⟩]}

def maxResponseBytes (builder : Builder) (bytes : UInt64) : Builder :=
  builder.map (fun parts => {parts with maxResponseBytes := some bytes})

def transformContext (builder : Builder) (context : TransformContext) : Builder :=
  builder.map (fun parts => {parts with transformContext := some context})

def body {β : Type} (builder : Builder) (body : β) : Except String (HttpRequest β) := builder.map (⟨·,body⟩)

end Builder

/-- A url and headers with which a builder makes a request. -/
structure HttpCrate.Accepts (http : HttpCrate) (api : RpcApi) : Prop where
  url : ∃ uri, http.parseUri api.url = .ok uri
  headers : ∀ header ∈ api.headers.getD [], (∃ name, http.headerName header.name = .ok name) ∧
    ∃ value, http.headerValue header.value = .ok value

def HttpCrate.HasHost (http : HttpCrate) (api : RpcApi) : Prop :=
  ∃ uri host, http.parseUri api.url = .ok uri ∧ uri.host = some host

section Building
variable {http : HttpCrate}

private theorem foldl_header_eq_ok {headers : List HttpHeader} {builder : Builder} {parts : RequestParts}
    (built : headers.foldl (Builder.header http) builder = .ok parts) :
    (∃ initial, builder = .ok initial ∧ parts.uri = initial.uri) ∧
    ∀ header ∈ headers, (∃ name, http.headerName header.name = .ok name) ∧
      ∃ value, http.headerValue header.value = .ok value := by
  induction headers generalizing builder with
  | nil => exact ⟨⟨parts,built,rfl⟩,by simp⟩
  | cons header headers ih =>
    obtain ⟨⟨next,added,same⟩,others⟩ := ih built
    cases builder with
    | error e => cases added
    | ok initial =>
      cases name : http.headerName header.name with
      | error e => simp [Builder.header,name,bind,Except.bind] at added
      | ok name' =>
        cases value : http.headerValue header.value with
        | error e => simp [Builder.header,name,value,bind,Except.bind] at added
        | ok value' =>
          simp only [Builder.header,name,value,bind,Except.bind,Except.ok.injEq] at added
          subst next
          refine ⟨⟨initial,rfl,same⟩,?_⟩
          intro other inside
          rcases List.mem_cons.mp inside with rfl | later
          · exact ⟨⟨name',name⟩,value',value⟩
          · exact others other later

private theorem foldl_header_of_wellFormed {headers : List HttpHeader} {initial : RequestParts}
    (wellFormed : ∀ header ∈ headers, (∃ name, http.headerName header.name = .ok name) ∧
      ∃ value, http.headerValue header.value = .ok value) :
    ∃ parts, headers.foldl (Builder.header http) (.ok initial) = .ok parts := by
  induction headers generalizing initial with
  | nil => exact ⟨initial,rfl⟩
  | cons header headers ih =>
    obtain ⟨⟨name,first⟩,value,second⟩ := wellFormed header (by simp)
    have added : Builder.header http (.ok initial) header =
        .ok {initial with headers := initial.headers ++ [⟨name,value⟩]} := by
      simp [Builder.header,first,second,bind,Except.bind]
    rw [List.foldl_cons,added]
    exact ih (fun other inside => wellFormed other (by simp [inside]))

section Requests
variable {β : Type} {api : RpcApi} {bytes : UInt64} {context : TransformContext} {body : β} {request : HttpRequest β}

theorem accepts_of_built
    (built : ((((api.headers.getD []).foldl (Builder.header http) (Builder.post http api.url)).maxResponseBytes
      bytes).transformContext context).body body = .ok request) :
    http.Accepts api ∧ http.parseUri api.url = .ok request.parts.uri := by
  cases parts : (api.headers.getD []).foldl (Builder.header http) (Builder.post http api.url) with
  | error e =>
    rw [parts] at built
    cases built
  | ok parts' =>
    rw [parts] at built
    cases built
    obtain ⟨⟨initial,posted,same⟩,headers⟩ := foldl_header_eq_ok parts
    cases parsed : http.parseUri api.url with
    | error e => simp [Builder.post,parsed,Except.map] at posted
    | ok uri =>
      simp only [Builder.post,parsed,Except.map,Except.ok.injEq] at posted
      subst initial
      exact ⟨⟨⟨uri,parsed⟩,headers⟩,congrArg Except.ok same.symm⟩

theorem parts_of_built {builder : Builder} {made : HttpRequest β}
    (built : ((builder.maxResponseBytes bytes).transformContext context).body body = .ok made) :
    made.body = body ∧ made.parts.maxResponseBytes = some bytes := by
  cases builder with
  | error e => cases built
  | ok parts =>
    cases built
    exact ⟨rfl,rfl⟩

theorem built_of_accepts (accepts : http.Accepts api) (bytes : UInt64) (context : TransformContext) (body : β) :
    ∃ request, ((((api.headers.getD []).foldl (Builder.header http) (Builder.post http api.url)).maxResponseBytes
      bytes).transformContext context).body body = .ok request := by
  obtain ⟨uri,parsed⟩ := accepts.url
  obtain ⟨parts,built⟩ := @foldl_header_of_wellFormed http (api.headers.getD []) ⟨uri,[],none,none⟩ accepts.headers
  have posted : Builder.post http api.url = .ok ⟨uri,[],none,none⟩ := by
    rw [Builder.post,parsed]
    rfl
  rw [posted,built]
  exact ⟨_,rfl⟩

theorem error_of_refused (refused : ¬ http.Accepts api) (bytes : UInt64) (context : TransformContext) (body : β) :
    ∃ e, ((((api.headers.getD []).foldl (Builder.header http) (Builder.post http api.url)).maxResponseBytes
      bytes).transformContext context).body body = .error e := by
  cases built : ((((api.headers.getD []).foldl (Builder.header http) (Builder.post http api.url)).maxResponseBytes
      bytes).transformContext context).body body with
  | error e => exact ⟨e,rfl⟩
  | ok request => exact absurd (accepts_of_built built).1 refused

end Requests

end Building

structure JsonRpcRequest where
  id : Id
  method : String
  params : Option Json

/-- A new request has the identifier zero until it gets its own. -/
def JsonRpcRequest.new (method : String) (params : Json) : JsonRpcRequest := ⟨.number 0,method,some params⟩

abbrev HttpJsonRpcRequest := HttpRequest JsonRpcRequest

/-- `CanisterHttpRequestArgument`. -/
structure IcHttpRequest where
  url : String
  maxResponseBytes : Option UInt64
  headers : List HttpHeader
  body : List UInt8
  transform : Option TransformContext
  deriving DecidableEq, Repr

structure HttpResponse where
  status : ℕ
  headers : List HttpHeader
  body : List UInt8
  deriving DecidableEq

structure IcError where
  code : RejectCode
  message : String
  deriving DecidableEq, Repr

/-- `tooLarge` says that an outcall failed because its response exceeded the limit,
and `doubled` is the limit that is then tried, unless it is at its maximum. The filter of
responses panics when it is made for a null identifier, which is that of a notification. -/
structure Canhttp where
  parseRequest : String → Except String JsonRpcRequest
  encodeRequest : JsonRpcRequest → Except String (List UInt8)
  convertResponse : HttpResponse → Except String UInt16
  fromUtf8Lossy : List UInt8 → String
  parsingError : List UInt8 → String
  createJsonRpcIdFilter : (request : Id) → Outcome Unit
  createJsonRpcIdFilter_eq_done : ∀ id, createJsonRpcIdFilter id = .done () ↔ id ≠ .null
  consistentId : (request response : Id) → Option ServerError → Bool
  inconsistentId : UInt16 → (request response : Id) → String
  costOfHttpRequest : (nodes : UInt32) → IcHttpRequest → U128
  tooLarge : IcError → Bool
  doubled : (maxResponseBytes : Option UInt64) → Option UInt64

section Conversion
variable (http : HttpCrate)

/-- `insert_request_header_if_not_present`. -/
def insertHeader (header : HttpHeader) (headers : List HttpHeader) : List HttpHeader :=
  if headers.any (fun other => other.name = header.name) then headers else headers ++ [header]

/-- `HttpRequestConverter`: header values must be visible text. -/
def convertRequest (request : HttpRequest (List UInt8)) : Except String IcHttpRequest := do
  let headers ← request.parts.headers.mapM (fun header => do
    let value ← http.toStr header.value
    Except.ok (HttpHeader.mk header.name value))
  .ok ⟨request.parts.uri.text,request.parts.maxResponseBytes,headers,request.body,request.parts.transformContext⟩

end Conversion
end EvmRpc
