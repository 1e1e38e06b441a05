import EvmRpc.RpcClient.KeyedUrls

/-! Requests with their secrets masked. A key shows in the url or in a header of the
requests to its provider, and the layers above an outcall look at neither. -/
namespace EvmRpc
open Library

/-- Keys that are accepted and of equal size. -/
def ApiKey.Alike (key other : ApiKey) : Prop :=
  validateApiKey key.read = .ok () ∧ validateApiKey other.read = .ok () ∧
    key.read.utf8ByteSize = other.read.utf8ByteSize

/-- Of a key that is accepted, only the size is left. -/
def maskedKey (key : String) : String :=
  match validateApiKey key with
  | .ok () => Text.stars key.utf8ByteSize
  | .error _ => key

def ApiKey.masked (key : ApiKey) : ApiKey := ⟨maskedKey key.read⟩

section Keys
variable {key other : String}

theorem maskedKey_of_valid (valid : validateApiKey key = .ok ()) : maskedKey key = Text.stars key.utf8ByteSize := by
  rw [maskedKey,valid]

theorem validateApiKey_stars (valid : validateApiKey key = .ok ()) :
    validateApiKey (Text.stars key.utf8ByteSize) = .ok () := by
  obtain ⟨nonempty,short,_⟩ := validateApiKey_eq_ok.mp valid
  refine validateApiKey_eq_ok.mpr ⟨?_,by simpa using short,?_⟩
  · intro empty
    have size := congrArg String.utf8ByteSize empty
    rw [Text.utf8ByteSize_stars] at size
    exact nonempty (String.utf8ByteSize_eq_zero_iff.mp size)
  · intro c inside
    rw [Text.toList_stars] at inside
    rw [List.eq_of_mem_replicate inside]
    decide

theorem maskedKey_validates : validateApiKey (maskedKey key) = validateApiKey key := by
  cases valid : validateApiKey key with
  | ok _ => rw [maskedKey_of_valid valid,validateApiKey_stars valid]
  | error message => rw [maskedKey,valid,valid]

theorem alike_of_masked (same : maskedKey key = maskedKey other) : key = other ∨ ApiKey.Alike ⟨key⟩ ⟨other⟩ := by
  have valid : validateApiKey key = validateApiKey other := by
    rw [← @maskedKey_validates key,same,maskedKey_validates]
  cases accepted : validateApiKey other with
  | ok _ =>
    rw [accepted] at valid
    refine .inr ⟨valid,accepted,?_⟩
    rw [maskedKey_of_valid valid,maskedKey_of_valid accepted] at same
    simpa using congrArg String.utf8ByteSize same
  | error message =>
    rw [accepted] at valid
    refine .inl ?_
    rwa [maskedKey,maskedKey,valid,accepted] at same

theorem ApiKey.Alike.masked {key other : ApiKey} (alike : key.Alike other) : key.masked = other.masked := by
  obtain ⟨valid,accepted,size⟩ := alike
  rw [ApiKey.masked,ApiKey.masked,maskedKey_of_valid valid,maskedKey_of_valid accepted,size]

end Keys

section Masks
variable (http : HttpCrate) {method : RpcMethod}

/-- Of a header with a credential that can be sent, only the size of its value is left. -/
def HttpHeader.masked (header : HttpHeader) : HttpHeader :=
  if header.name = "authorization" ∧ http.toStr header.value = .ok header.value then
    ⟨header.name,Text.stars header.value.utf8ByteSize⟩
  else header

def RequestParts.masked (parts : RequestParts) : RequestParts :=
  {parts with
    uri := ⟨Text.stars parts.uri.text.utf8ByteSize,parts.uri.host⟩
    headers := parts.headers.map (HttpHeader.masked http)}

def HttpRequest.masked {β : Type} (request : HttpRequest β) : HttpRequest β :=
  ⟨request.parts.masked http,request.body⟩

def IcHttpRequest.masked (request : IcHttpRequest) : IcHttpRequest :=
  {request with
    url := Text.stars request.url.utf8ByteSize
    headers := request.headers.map (HttpHeader.masked http)}

def Charged.masked (charged : Charged) : Charged := {charged with request := charged.request.masked http}

def Started.masked (started : Started) : Started :=
  ⟨started.data,started.request.masked http,started.sent.map (Charged.masked http)⟩

def AttemptEvent.masked : AttemptEvent → AttemptEvent
  | .began started => .began (started.masked http)
  | .ended data outcome => .ended data outcome

def Attempt.masked (attempt : Attempt) : Attempt := ⟨attempt.request.masked http,attempt.started.masked http⟩

def EthCall.masked (call : EthCall method) : EthCall method :=
  {call with
    pending := call.pending.map (fun entry => (entry.1,entry.2.masked http))
    journal := call.journal.map (AttemptEvent.masked http)}

end Masks

def Memory.masked {M : Type} (memory : Memory M) : Memory M :=
  {memory with apiKeyMap := fun id => (memory.apiKeyMap id).map ApiKey.masked}

section Requests
variable {M : Type} {platform : Platform M} {request : HttpJsonRpcRequest} {memory : Memory M}

private theorem isPrintable_stars (size : ℕ) : ∀ c ∈ (Text.stars size).toList, isPrintable c = true := by
  intro c inside
  rw [Text.toList_stars] at inside
  rw [List.eq_of_mem_replicate inside]
  rfl

@[simp] theorem HttpHeader.masked_name (http : HttpCrate) (header : HttpHeader) :
    (header.masked http).name = header.name := by
  unfold masked
  split <;> rfl

@[simp] theorem HttpHeader.masked_size (http : HttpCrate) (header : HttpHeader) :
    (header.masked http).value.utf8ByteSize = header.value.utf8ByteSize := by
  unfold masked
  split
  · exact Text.utf8ByteSize_stars _
  · rfl

@[simp] theorem IcHttpRequest.masked_size (http : HttpCrate) (request : IcHttpRequest) :
    (request.masked http).size = request.size := by
  simp [size,masked,Function.comp_def]

private theorem insertHeader_masked (http : HttpCrate) {header : HttpHeader} (other : header.name ≠ "authorization")
    (headers : List HttpHeader) :
    insertHeader header (headers.map (HttpHeader.masked http)) =
      (insertHeader header headers).map (HttpHeader.masked http) := by
  have same : header.masked http = header := if_neg (fun secret => other secret.1)
  unfold insertHeader
  rw [List.any_map]
  simp only [Function.comp_def,HttpHeader.masked_name]
  split
  · rfl
  · rw [List.map_append,List.map_singleton,same]

private def convertHeader (http : HttpCrate) (header : HttpHeader) : Except String HttpHeader :=
  (http.toStr header.value).map (HttpHeader.mk header.name)

private theorem convertRequest_eq (http : HttpCrate) (request : HttpRequest (List UInt8)) :
    convertRequest http request = (request.parts.headers.mapM (convertHeader http)).map (fun headers =>
      ⟨request.parts.uri.text,request.parts.maxResponseBytes,headers,request.body,request.parts.transformContext⟩) := by
  have each : (fun header => do
      let value ← http.toStr header.value
      Except.ok (HttpHeader.mk header.name value)) = convertHeader http := by
    funext header
    unfold convertHeader
    cases http.toStr header.value <;> rfl
  unfold convertRequest
  rw [each]
  cases request.parts.headers.mapM (convertHeader http) <;> rfl

private theorem convertHeader_masked (plain : platform.Plain) (header : HttpHeader) :
    convertHeader platform.http (header.masked platform.http) =
      (convertHeader platform.http header).map (HttpHeader.masked platform.http) := by
  unfold convertHeader
  by_cases secret : header.name = "authorization" ∧ platform.http.toStr header.value = .ok header.value
  · have masked : header.masked platform.http = ⟨header.name,Text.stars header.value.utf8ByteSize⟩ := if_pos secret
    rw [secret.2,masked,plain.toStr _ (isPrintable_stars _)]
    exact congrArg Except.ok masked.symm
  · have masked : header.masked platform.http = header := if_neg secret
    rw [masked]
    cases sent : platform.http.toStr header.value with
    | error e => rfl
    | ok text =>
      obtain rfl := plain.toStr_text _ _ sent
      exact congrArg Except.ok masked.symm

private theorem convertRequest_masked (plain : platform.Plain) (request : HttpRequest (List UInt8)) :
    convertRequest platform.http (request.masked platform.http) =
      (convertRequest platform.http request).map (IcHttpRequest.masked platform.http) := by
  have converted (headers : List HttpHeader) :
      (headers.map (HttpHeader.masked platform.http)).mapM (convertHeader platform.http) =
        (headers.mapM (convertHeader platform.http)).map (List.map (HttpHeader.masked platform.http)) := by
    induction headers with
    | nil => rfl
    | cons header headers ih =>
      rw [List.map_cons,List.mapM_cons,List.mapM_cons,ih,convertHeader_masked plain]
      cases convertHeader platform.http header with
      | error e => rfl
      | ok sent => cases headers.mapM (convertHeader platform.http) <;> rfl
  have headers : (request.masked platform.http).parts.headers =
    request.parts.headers.map (HttpHeader.masked platform.http) := rfl
  rw [convertRequest_eq,convertRequest_eq,headers,converted]
  cases request.parts.headers.mapM (convertHeader platform.http) <;> rfl

/-- Masking a request masks the outcall that is made for it, and no more. -/
theorem serviceRequestBuilder_masked (plain : platform.Plain) (request : HttpJsonRpcRequest) :
    serviceRequestBuilder platform.http platform.canhttp (request.masked platform.http) =
      (serviceRequestBuilder platform.http platform.canhttp request).map (IcHttpRequest.masked platform.http) := by
  have other : (HttpHeader.mk "content-type" CONTENT_TYPE_VALUE).name ≠ "authorization" := by decide
  have headers := insertHeader_masked platform.http other request.parts.headers
  have parts : (request.masked platform.http).parts.headers =
    request.parts.headers.map (HttpHeader.masked platform.http) := rfl
  unfold serviceRequestBuilder
  rw [parts,headers]
  cases encoded : platform.canhttp.encodeRequest request.body with
  | error e => simp only [HttpRequest.masked,encoded,Except.map]
  | ok body =>
    have converted := convertRequest_masked plain
      ⟨{request.parts with headers := insertHeader ⟨"content-type",CONTENT_TYPE_VALUE⟩ request.parts.headers},body⟩
    simp only [HttpRequest.masked,RequestParts.masked,encoded] at converted ⊢
    rw [converted]
    generalize convertRequest platform.http _ = result
    cases result <;> rfl

theorem convert_masked (plain : platform.Plain) (accounting : CyclesAccounting) (available : U128)
    (request : IcHttpRequest) :
    accounting.convert platform.canhttp available (request.masked platform.http) =
      (accounting.convert platform.canhttp available request).map (Charged.masked platform.http) := by
  have price : platform.canhttp.costOfHttpRequest accounting.nodes (request.masked platform.http) =
      platform.canhttp.costOfHttpRequest accounting.nodes request :=
    plain.price _ _ _ (IcHttpRequest.masked_size _ _) rfl
  simp only [CyclesAccounting.convert,price]
  split <;> rfl

theorem attempted_masked (plain : platform.Plain) (accounting : CyclesAccounting) (method : MetricRpcMethod)
    (retry : Bool) (available : U128) (counter : UInt64) (host : String) (request : HttpJsonRpcRequest) :
    attempted platform.http platform.canhttp accounting method retry available counter host
        (request.masked platform.http) =
      (attempted platform.http platform.canhttp accounting method retry available counter host request).masked
        platform.http := by
  have number : numbered retry counter (request.masked platform.http) =
      (numbered retry counter request).masked platform.http := by
    cases retry <;> rfl
  simp only [attempted,Started.masked,number,serviceRequestBuilder_masked plain]
  congr 1
  cases serviceRequestBuilder platform.http platform.canhttp (numbered retry counter request) with
  | error error => rfl
  | ok converted => exact convert_masked plain _ _ _

theorem startAttempt_masked (plain : platform.Plain) (accounting : CyclesAccounting) (method : MetricRpcMethod)
    (retry : Bool) (available : U128) (request : HttpJsonRpcRequest) (memory : Memory M) :
    startAttempt platform.http platform.canhttp accounting method retry available (request.masked platform.http)
        memory.masked =
      Prod.map (Started.masked platform.http) Memory.masked <$>
        startAttempt platform.http platform.canhttp accounting method retry available request memory := by
  cases named : request.parts.uri.host with
  | none =>
    have masked : (request.masked platform.http).parts.uri.host = none := named
    rw [startAttempt_hostless named,startAttempt_hostless masked]
    rfl
  | some host =>
    have masked : (request.masked platform.http).parts.uri.host = some host := named
    have identifier : (numbered retry memory.masked.httpRequestCounter (request.masked platform.http)).body.id =
        (numbered retry memory.httpRequestCounter request).body.id := by cases retry <;> rfl
    rw [startAttempt_eq named,startAttempt_eq masked,attempted_masked plain,identifier]
    cases platform.canhttp.createJsonRpcIdFilter (numbered retry memory.httpRequestCounter request).body.id <;> rfl

theorem observe_masked {α : Type} (canhttp : Canhttp) (data : MetricData)
    (outcome : Except HttpClientError (UInt16 × Except ServerError α)) (memory : Memory M) :
    observe canhttp data outcome memory.masked = (observe canhttp data outcome memory).masked := rfl

theorem retried_masked {α : Type} (canhttp : Canhttp) (http : HttpCrate) (request : HttpJsonRpcRequest)
    (outcome : Except HttpClientError α) :
    retried canhttp (request.masked http) outcome = (retried canhttp request outcome).map (HttpRequest.masked http) := by
  unfold retried
  split
  · rfl
  · split
    · rw [Option.map_map]
      rfl
    · rfl

end Requests

section Calls
variable {M : Type} {platform : Platform M} {method : RpcMethod}

/-- Masks a call and the memory beside it. -/
def maskedState (http : HttpCrate) (state : EthCall method × Memory M) : EthCall method × Memory M :=
  (state.1.masked http,state.2.masked)

theorem EthCall.masked_began (http : HttpCrate) (started : Started) (call : EthCall method) :
    (call.masked http).note (.began (started.masked http)) = (call.note (.began started)).masked http := by
  simp [note,masked,AttemptEvent.masked]

theorem EthCall.masked_ended (http : HttpCrate) (data : MetricData) (outcome : Except HttpClientError UInt16)
    (call : EthCall method) :
    (call.masked http).note (.ended data outcome) = (call.note (.ended data outcome)).masked http := by
  simp [note,masked,AttemptEvent.masked]

theorem EthCall.masked_forget (http : HttpCrate) (service : RpcService) (call : EthCall method) :
    (call.masked http).forget service = (call.forget service).masked http := by
  simp [forget,masked,List.filter_map,Function.comp_def]

theorem launch_masked (plain : platform.Plain) (service : RpcService) (request : HttpJsonRpcRequest)
    (call : EthCall method) (memory : Memory M) :
    launch platform service (request.masked platform.http) (call.masked platform.http) memory.masked =
      maskedState platform.http <$> launch platform service request call memory := by
  unfold launch
  have begun := startAttempt_masked plain call.accounting method.toMetric true call.available request memory
  have accounting : (call.masked platform.http).accounting = call.accounting := rfl
  have available : (call.masked platform.http).available = call.available := rfl
  rw [accounting,available,begun]
  cases startAttempt platform.http platform.canhttp call.accounting method.toMetric true call.available request memory with
  | trap message => rfl
  | done attempt =>
    obtain ⟨started,after⟩ := attempt
    simp only [Outcome.map_done,Outcome.done_bind,Prod.map_apply]
    have sent : (started.masked platform.http).sent = started.sent.map (Charged.masked platform.http) := rfl
    have data : (started.masked platform.http).data = started.data := rfl
    rw [EthCall.masked_began,sent,data]
    cases started.sent with
    | ok charged => simp [maskedState,EthCall.masked,EthCall.note,Except.map,Attempt.masked,Charged.masked]
    | error error =>
      simp only [Except.map,Outcome.map_done]
      rw [observe_masked,EthCall.masked_ended]
      rfl

theorem launchAll_masked (plain : platform.Plain) (requests : List (RpcService × HttpJsonRpcRequest))
    (call : EthCall method) (memory : Memory M) :
    launchAll platform (requests.map (fun entry => (entry.1,entry.2.masked platform.http)))
        (call.masked platform.http) memory.masked =
      maskedState platform.http <$> launchAll platform requests call memory := by
  induction requests generalizing call memory with
  | nil => rfl
  | cons entry requests ih =>
    have first := launch_masked plain entry.1 entry.2 call memory
    simp only [launchAll,List.map_cons,List.foldlM_cons,first] at ih ⊢
    cases launch platform entry.1 entry.2 call memory with
    | trap message => rfl
    | done state => exact ih state.1 state.2

theorem receiveReply_masked (plain : platform.Plain) (service : RpcService) (reply : Except IcError HttpResponse)
    (call : EthCall method) (memory : Memory M) :
    receiveReply platform service reply (call.masked platform.http) memory.masked =
      maskedState platform.http <$> receiveReply platform service reply call memory := by
  have search : (call.masked platform.http).pending.find? (fun entry => entry.1 = service) =
      (call.pending.find? (fun entry => entry.1 = service)).map
        (fun entry => (entry.1,entry.2.masked platform.http)) := by
    simp [EthCall.masked,List.find?_map]
  unfold receiveReply
  rw [search]
  cases call.pending.find? (fun entry => entry.1 = service) with
  | none => rfl
  | some entry =>
    obtain ⟨named,attempt⟩ := entry
    simp only [Option.map_some]
    have data : (attempt.masked platform.http).started.data = attempt.started.data := rfl
    have request : (attempt.masked platform.http).request = attempt.request.masked platform.http := rfl
    rw [data,request,retried_masked,EthCall.masked_forget,EthCall.masked_ended,observe_masked]
    generalize receive platform.canhttp platform.crates.rpc (method.format platform.crates.text)
      attempt.started.data.requestId reply = outcome
    cases retried platform.canhttp attempt.request outcome with
    | none => rfl
    | some again => exact launch_masked plain _ _ _ _

theorem recordOkResults_masked (now : Timestamp) (services : List SupportedRpcService) (memory : Memory M) :
    recordOkResults platform now services memory.masked = (recordOkResults platform now services memory).masked := by
  unfold recordOkResults
  induction services generalizing memory with
  | nil => rfl
  | cons service services ih => exact ih (memory.recordOkResult platform.timed now service)

theorem collectResults_masked (now : Timestamp) (call : EthCall method) (memory : Memory M) :
    collectResults platform now (call.masked platform.http) memory.masked =
      Prod.map id Memory.masked <$> collectResults platform now call memory := by
  have settled : (call.masked platform.http).settled = call.settled := rfl
  have errors : (call.masked platform.http).errors = call.errors := rfl
  have client : (call.masked platform.http).client = call.client := rfl
  simp only [collectResults,settled,errors,client,recordOkResults_masked,map_bind]
  refine congrArg _ (funext fun first => congrArg _ (funext fun results => ?_))
  split <;> rfl

end Calls

section Building
variable {M : Type} {platform : Platform M} {memory other : Memory M}

/-- The builder that `post` makes for an api. -/
def RpcApi.builder (http : HttpCrate) (api : RpcApi) : Builder :=
  (api.headers.getD []).foldl (Builder.header http) (Builder.post http api.url)

private theorem builder_bearer (plain : platform.Plain) (url : String) {key : String}
    (valid : validateApiKey key = .ok ()) :
    ((RpcApi.mk url (some [⟨"Authorization","Bearer " ++ key⟩])).builder platform.http).map
        (RequestParts.masked platform.http) =
      (platform.http.parseUri url).map (fun uri => ⟨⟨Text.stars uri.text.utf8ByteSize,uri.host⟩,
        [⟨"authorization",Text.stars ("Bearer ".utf8ByteSize+key.utf8ByteSize)⟩],none,none⟩) := by
  have printable := isPrintable_bearer valid
  have masked : HttpHeader.masked platform.http ⟨"authorization","Bearer " ++ key⟩ =
      ⟨"authorization",Text.stars ("Bearer ".utf8ByteSize+key.utf8ByteSize)⟩ := by
    rw [← String.utf8ByteSize_append]
    exact if_pos ⟨rfl,plain.toStr _ printable⟩
  unfold RpcApi.builder Builder.post
  cases platform.http.parseUri url with
  | error e => rfl
  | ok uri =>
    simp only [Option.getD_some,List.foldl_cons,List.foldl_nil,Builder.header,Except.map,bind,Except.bind,
      plain.headerName,plain.headerValue _ printable]
    rw [RequestParts.masked]
    simp [masked]

theorem apiKey_masked (same : memory.masked = other.masked) (id : ProviderId) :
    (memory.getApiKey id).map ApiKey.masked = (other.getApiKey id).map ApiKey.masked :=
  congrFun (congrArg Memory.apiKeyMap same) id

private theorem api_masked (plain : platform.Plain) (same : memory.masked = other.masked) {provider : Provider}
    (listed : provider ∈ PROVIDERS) :
    (fun api => (RpcApi.builder platform.http api).map (RequestParts.masked platform.http)) <$>
        provider.api memory.getApiKey =
      (fun api => (RpcApi.builder platform.http api).map (RequestParts.masked platform.http)) <$>
        provider.api other.getApiKey := by
  have keys := apiKey_masked same provider.providerId
  unfold Provider.api
  cases access : provider.access with
  | unauthenticated publicUrl => rfl
  | authenticated auth publicUrl =>
    cases stored : memory.getApiKey provider.providerId with
    | none =>
      cases kept : other.getApiKey provider.providerId with
      | none => rfl
      | some key => simp [stored,kept] at keys
    | some first =>
      cases kept : other.getApiKey provider.providerId with
      | none => simp [stored,kept] at keys
      | some second =>
        simp only [stored,kept,Option.map_some,Option.some.injEq,ApiKey.masked,ApiKey.mk.injEq] at keys
        rcases alike_of_masked keys with equal | ⟨valid,accepted,size⟩
        · cases auth <;> simp only [equal]
        · cases auth with
          | bearerToken url =>
            simp only [Outcome.map_done,builder_bearer plain url valid,builder_bearer plain url accepted,size]
          | urlParameter pattern =>
            obtain ⟨host,rest,urls⟩ := parseUri_of_key plain listed access
            obtain ⟨url,parsed,length⟩ := urls first.read valid
            obtain ⟨url',parsed',length'⟩ := urls second.read accepted
            simp [RpcApi.builder,Builder.post,parsed,parsed',Except.map,RequestParts.masked,length,length',size]

theorem post_masked (plain : platform.Plain) (same : memory.masked = other.masked)
    (original : memory.overrideProvider = .default) {service : RpcService} {resolved : ResolvedRpcService}
    (resolves : resolveRpcService service = .ok resolved) :
    Except.map (Except.map (RequestParts.masked platform.http)) <$> resolved.post platform.regex platform.http memory =
      Except.map (Except.map (RequestParts.masked platform.http)) <$>
        resolved.post platform.regex platform.http other := by
  have post (memory : Memory M) (original : memory.overrideProvider = .default) :
      Except.map (Except.map (RequestParts.masked platform.http)) <$>
          resolved.post platform.regex platform.http memory =
        Except.ok <$> (fun api => (RpcApi.builder platform.http api).map (RequestParts.masked platform.http)) <$>
          resolved.initialApi memory.getApiKey := by
    unfold ResolvedRpcService.post ResolvedRpcService.apiWithOverride
    rw [original]
    cases resolved.initialApi memory.getApiKey <;> rfl
  have original' : other.overrideProvider = .default :=
    (congrArg Memory.overrideProvider same).symm.trans original
  rw [post memory original,post other original']
  cases resolved with
  | api given => rfl
  | provider known => exact congrArg _ (api_masked plain same (mem_of_resolve resolves))

/-- What `buildRequest` makes of the answer of `post`. -/
private def requestOf (minicbor : Minicbor) (method : RpcMethod) (params : Json) (size : ResponseSizeEstimate) :
    RpcResult Builder → Outcome (RpcResult HttpJsonRpcRequest)
  | .error error => .done (.error error)
  | .ok builder => .ok <$> Outcome.expect "BUG: invalid request" (((builder.maxResponseBytes size.get).transformContext
      ⟨"cleanup_response",method.transformOp minicbor⟩).body (JsonRpcRequest.new method.name params))

private theorem buildRequest_masked (plain : platform.Plain) (same : memory.masked = other.masked)
    (original : memory.overrideProvider = .default) (method : RpcMethod) (params : Json) (size : ResponseSizeEstimate)
    (service : RpcService) :
    Except.map (HttpRequest.masked platform.http) <$> buildRequest platform memory method params size service =
      Except.map (HttpRequest.masked platform.http) <$> buildRequest platform other method params size service := by
  cases resolves : resolveRpcService service with
  | error error => simp only [buildRequest,resolves]
  | ok resolved =>
    have built (memory : Memory M) : Except.map (HttpRequest.masked platform.http) <$>
        buildRequest platform memory method params size service =
          (Except.map (Except.map (RequestParts.masked platform.http)) <$>
            resolved.post platform.regex platform.http memory) >>=
              requestOf platform.minicbor method params size := by
      simp only [buildRequest,resolves]
      cases resolved.post platform.regex platform.http memory with
      | trap message => rfl
      | done posted =>
        -- the steps after `post` only look at whether there is a builder
        rcases posted with error | (e | parts) <;> rfl
    rw [built memory,built other,post_masked plain same original resolves]

theorem parallelCall_masked (plain : platform.Plain) (same : memory.masked = other.masked)
    (original : memory.overrideProvider = .default) (client : EthRpcClient) (method : RpcMethod)
    (transactionHash : Option Hex32) (params : Json) (size : ResponseSizeEstimate) (available : U128) :
    maskedState platform.http <$> parallelCall platform client method transactionHash params size available memory =
      maskedState platform.http <$> parallelCall platform client method transactionHash params size available other := by
  have begun (memory : Memory M) :
      maskedState platform.http <$> parallelCall platform client method transactionHash params size available memory =
        MultiResults.collect (fun service => Except.map (HttpRequest.masked platform.http) <$>
            buildRequest platform memory method params size service) client.providers.services.elements .empty >>=
          fun requests => launchAll platform requests.okResults
            ⟨client,transactionHash,.ofMemory memory.masked,available,requests.errors,[],[],[]⟩ memory.masked := by
    have empty : (MultiResults.empty : MultiResults RpcService HttpJsonRpcRequest RpcError) =
      MultiResults.empty.mapOk (HttpRequest.masked platform.http) := rfl
    rw [empty,MultiResults.collect_mapOk,bind_map_left,parallelCall,map_bind]
    refine congrArg _ (funext fun requests => ?_)
    rw [← launchAll_masked plain,MultiResults.okResults_mapOk,MultiResults.errors_mapOk]
    rfl
  rw [begun memory,begun other,same,funext (buildRequest_masked plain same original method params size)]

/-- What `jsonRpcRequestArg` makes of the answer of `post`. -/
private def argOf (maxResponseBytes : UInt64) (body : JsonRpcRequest) :
    RpcResult Builder → Outcome (RpcResult HttpJsonRpcRequest)
  | .error error => .done (.error error)
  | .ok builder =>
    match ((builder.maxResponseBytes maxResponseBytes).transformContext ⟨"__transform_json_rpc",[]⟩).body body with
    | .ok request => .done (.ok request)
    | .error e => .done (.error (.validationError (.custom ("Invalid request: " ++ e))))

private theorem jsonRpcRequestArg_masked (plain : platform.Plain) (same : memory.masked = other.masked)
    (original : memory.overrideProvider = .default) {service : RpcService} {resolved : ResolvedRpcService}
    (resolves : resolveRpcService service = .ok resolved) (jsonRpcPayload : String) (maxResponseBytes : UInt64) :
    Except.map (HttpRequest.masked platform.http) <$> jsonRpcRequestArg platform.regex platform.http platform.canhttp
        memory resolved jsonRpcPayload maxResponseBytes =
      Except.map (HttpRequest.masked platform.http) <$> jsonRpcRequestArg platform.regex platform.http
        platform.canhttp other resolved jsonRpcPayload maxResponseBytes := by
  cases parsed : platform.canhttp.parseRequest jsonRpcPayload with
  | error e => simp only [jsonRpcRequestArg,parsed]
  | ok body =>
    have built (memory : Memory M) : Except.map (HttpRequest.masked platform.http) <$> jsonRpcRequestArg platform.regex
        platform.http platform.canhttp memory resolved jsonRpcPayload maxResponseBytes =
          (Except.map (Except.map (RequestParts.masked platform.http)) <$>
            resolved.post platform.regex platform.http memory) >>= argOf maxResponseBytes body := by
      simp only [jsonRpcRequestArg,parsed]
      cases resolved.post platform.regex platform.http memory with
      | trap message => rfl
      | done posted => rcases posted with error | (e | parts) <;> rfl
    rw [built memory,built other,post_masked plain same original resolves]

/-- What `request` makes of its argument. -/
private def startOf (platform : Platform M) (available : U128) (memory : Memory M) :
    RpcResult HttpJsonRpcRequest → Outcome (RpcResult Started × Memory M)
  | .error error => .done (.error error,memory)
  | .ok request => Prod.map .ok id <$> startAttempt platform.http platform.canhttp (.ofMemory memory) ⟨"request"⟩ false
      available request memory

theorem request_masked (plain : platform.Plain) (same : memory.masked = other.masked)
    (original : memory.overrideProvider = .default) (service : RpcService) (jsonRpcPayload : String)
    (maxResponseBytes : UInt64) (available : U128) :
    Prod.map (Except.map (Started.masked platform.http)) Memory.masked <$> request platform.regex platform.http
        platform.canhttp memory service jsonRpcPayload maxResponseBytes available =
      Prod.map (Except.map (Started.masked platform.http)) Memory.masked <$> request platform.regex platform.http
        platform.canhttp other service jsonRpcPayload maxResponseBytes available := by
  cases resolves : resolveRpcService service with
  | error error => simp [request,resolves,same]
  | ok resolved =>
    have begun (state : Memory M) (alike : state.masked = memory.masked) :
        Prod.map (Except.map (Started.masked platform.http)) Memory.masked <$> request platform.regex platform.http
            platform.canhttp state service jsonRpcPayload maxResponseBytes available =
          (Except.map (HttpRequest.masked platform.http) <$> jsonRpcRequestArg platform.regex platform.http
            platform.canhttp state resolved jsonRpcPayload maxResponseBytes) >>=
              startOf platform available memory.masked := by
      simp only [request,resolves,← alike]
      cases jsonRpcRequestArg platform.regex platform.http platform.canhttp state resolved jsonRpcPayload
          maxResponseBytes with
      | trap message => rfl
      | done arg =>
        cases arg with
        | error error => rfl
        | ok request =>
          simp only [Outcome.map_done,Outcome.done_bind,Except.map,startOf,startAttempt_masked plain,map_bind]
          have accounting : CyclesAccounting.ofMemory state.masked = .ofMemory state := rfl
          rw [accounting]
          cases startAttempt platform.http platform.canhttp (.ofMemory state) ⟨"request"⟩ false available request
            state <;> rfl
    rw [begun memory rfl,begun other same.symm,jsonRpcRequestArg_masked plain same original resolves]

/-- The price of a request, from the settings that it depends on. -/
private def priceOf (http : HttpCrate) (canhttp : Canhttp) (nodes : UInt32) (policy : ChargingPolicyWithCollateral)
    (request : HttpJsonRpcRequest) : Outcome (RpcResult U128) := do
  let converted ← Outcome.expect "Error: invalid request" (serviceRequestBuilder http canhttp request)
  .done (.ok (policy.cyclesToCharge (canhttp.costOfHttpRequest nodes converted)))

private theorem priceOf_masked (plain : platform.Plain) (nodes : UInt32) (policy : ChargingPolicyWithCollateral)
    (request : HttpJsonRpcRequest) :
    priceOf platform.http platform.canhttp nodes policy (request.masked platform.http) =
      priceOf platform.http platform.canhttp nodes policy request := by
  simp only [priceOf,serviceRequestBuilder_masked plain]
  cases serviceRequestBuilder platform.http platform.canhttp request with
  | error error => rfl
  | ok converted =>
    simp only [Except.map,Outcome.expect,Outcome.done_bind]
    rw [plain.price _ _ _ (IcHttpRequest.masked_size _ _) rfl]

/-- What `requestCost` makes of its argument. -/
private def costOf (price : HttpJsonRpcRequest → Outcome (RpcResult U128)) :
    RpcResult HttpJsonRpcRequest → Outcome (RpcResult U128)
  | .error error => .done (.error error)
  | .ok request => price request

theorem requestCost_masked (plain : platform.Plain) (same : memory.masked = other.masked)
    (original : memory.overrideProvider = .default) (service : RpcService) (jsonRpcPayload : String)
    (maxResponseBytes : UInt64) :
    requestCost platform.regex platform.http platform.canhttp memory service jsonRpcPayload maxResponseBytes =
      requestCost platform.regex platform.http platform.canhttp other service jsonRpcPayload maxResponseBytes := by
  have demo : memory.masked.isDemoActive = other.masked.isDemoActive := by rw [same]
  have nodes : memory.masked.numSubnetNodes = other.masked.numSubnetNodes := by rw [same]
  change memory.isDemoActive = other.isDemoActive at demo
  change memory.numSubnetNodes = other.numSubnetNodes at nodes
  have policy : ChargingPolicyWithCollateral.default memory = .default other := by
    rw [ChargingPolicyWithCollateral.default,demo,nodes]
    rfl
  cases resolves : resolveRpcService service with
  | error error => simp only [requestCost,resolves,demo]
  | ok resolved =>
    let price := priceOf platform.http platform.canhttp memory.numSubnetNodes (.default memory)
    have finished (x : Outcome (RpcResult HttpJsonRpcRequest)) :
        (Except.map (HttpRequest.masked platform.http) <$> x) >>= costOf price = x >>= costOf price := by
      rcases x with (error | request) | message
      · rfl
      · exact priceOf_masked plain _ _ request
      · rfl
    have args := congrArg (· >>= costOf price) (jsonRpcRequestArg_masked plain same original resolves jsonRpcPayload
      maxResponseBytes)
    simp only [finished] at args
    unfold requestCost
    rw [← demo,← policy,← nodes,resolves]
    split
    · rfl
    · exact args

end Building
end EvmRpc
