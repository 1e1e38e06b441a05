import EvmRpc.External.Http
import EvmRpc.RpcClient.Reference

/-! Requests, texts and prices as the `http` and `canhttp` crates handle them on
plain inputs. -/
namespace EvmRpc
open Library

namespace HttpCrate

def isVisible (c : Char) : Bool := '!' ≤ c && c ≤ '~'

def isToken (c : Char) : Bool := c.isAlphanum || "!#$%&'*+-.^_|~".toList.contains c

/-- What follows the scheme, if there is one. -/
def afterScheme : List Char → Option (List Char)
  | [] => none
  | ':':: '/':: '/'::rest => some rest
  | _::rest => afterScheme rest

def hostOf (text : List Char) : Option String :=
  match text with
  | '/'::_ => none
  | _ => some (String.ofList (((afterScheme text).getD text).takeWhile (fun c => !(['/','?','#',':'].contains c))))

def reference : HttpCrate where
  parseUri text :=
    if text.toList.isEmpty || text.toList.any (fun c => !isVisible c) then .error "invalid uri character"
    else .ok ⟨text,hostOf text.toList⟩
  headerName name :=
    if name.toList.isEmpty || name.toList.any (fun c => !isToken c) then .error "invalid HTTP header name"
    else .ok (String.ofList (name.toList.map Char.toLower))
  headerValue value :=
    if value.toList.any (fun c => c.toNat < 32 && c ≠ '\t' || c.toNat = 127) then .error "failed to parse header value"
    else .ok value
  toStr value :=
    if value.toList.any (fun c => !isVisible c && c ≠ ' ' && c ≠ '\t') then .error "failed to convert header to a str"
    else .ok value

end HttpCrate

namespace JsonRpcRequest

def toJson (request : JsonRpcRequest) : Json :=
  .object ([("jsonrpc",.string "2.0"),("method",.string request.method),("id",JsonRpcWire.idJson request.id)] ++
    (request.params.map (fun params => ("params",params))).toList)

def ofJson : Json → Except String JsonRpcRequest
  | .object members =>
    match JsonRpcWire.member members "jsonrpc",JsonRpcWire.member members "method",
      (JsonRpcWire.member members "id").bind JsonRpcWire.readId with
    | some (.string "2.0"),some (.string method),some id => .ok ⟨id,method,JsonRpcWire.member members "params"⟩
    | _,_,_ => .error "missing field"
  | _ => .error "invalid type"

def text (request : JsonRpcRequest) : String := String.ofList request.toJson.print

end JsonRpcRequest

namespace Canhttp

def responseTooLarge (error : IcError) : Bool :=
  error.code = .sysFatal && (error.message.toList.splitOn ' ').contains "size".toList

/-- Prices of the subnets that the replicas charge. -/
def reference : Canhttp where
  parseRequest payload :=
    match Json.parse payload.toList with
    | some json => JsonRpcRequest.ofJson json
    | none => .error "expected value"
  encodeRequest request := .ok (Text.utf8 request.text)
  convertResponse response :=
    if 100 ≤ response.status ∧ response.status < 1000 then .ok (UInt16.ofNat response.status)
    else .error "invalid status code"
  fromUtf8Lossy bytes := (Text.ofUtf8 bytes).getD "\uFFFD"
  parsingError _ := "expected value"
  createJsonRpcIdFilter request :=
    if request = .null then .trap "ERROR: a null request ID is a notification" else .done ()
  createJsonRpcIdFilter_eq_done id := by by_cases null : id = .null <;> simp [null]
  consistentId request response error :=
    request = response || response = .null && error.any (fun error => error.code = -32700 || error.code = -32600)
  inconsistentId status request response :=
    s!"unexpected identifier: expected response ID to be {repr request}, but got {repr response} ({status})"
  costOfHttpRequest nodes request :=
    let size := request.body.length+request.url.utf8ByteSize+
      (request.headers.map (fun header => header.name.utf8ByteSize+header.value.utf8ByteSize)).sum+
      (request.transform.map (fun transform => transform.name.utf8ByteSize+transform.context.length)).getD 0
    let response := (request.maxResponseBytes.map UInt64.toNat).getD 2000000
    Fin.ofNat _ ((3000000+60000*nodes.toNat)*nodes.toNat+400*nodes.toNat*size+800*nodes.toNat*response)
  tooLarge := responseTooLarge
  doubled limit := limit.bind (fun bytes =>
    let next := min 2000000 (2*max 1024 bytes.toNat)
    if bytes.toNat < next then some (UInt64.ofNat next) else none)

theorem parseRequest_text (request : JsonRpcRequest) : reference.parseRequest request.text = .ok request := by
  obtain ⟨id,method,params⟩ := request
  cases params <;>
    simp [reference,JsonRpcRequest.text,JsonRpcRequest.toJson,JsonRpcRequest.ofJson,Json.parse_print,
      JsonRpcWire.member,Json.Record.lookup,JsonRpcWire.readId_idJson]

end Canhttp
end EvmRpc
