import EvmRpc.Canister.Configuration
import EvmRpc.Library.UrlParts
import EvmRpc.RpcClient.KeyedUrls

/-! Which keys the canister can hold, and where they end up in the request of a provider. -/
namespace EvmRpc
open Library

/-- A key of the length and the characters that are checked. -/
def Admissible (key : String) : Prop :=
  1 ≤ key.utf8ByteSize ∧ key.utf8ByteSize ≤ 200 ∧ ∀ c ∈ key.toList, c ∈ VALID_API_KEY_CHARS.toList

theorem validateApiKey_iff {key : String} : validateApiKey key = .ok () ↔ Admissible key := by
  rw [validateApiKey_eq_ok,Admissible,Nat.one_le_iff_ne_zero,ne_eq,ne_eq,String.utf8ByteSize_eq_zero_iff]

def Provider.usesKey (provider : Provider) : Bool :=
  match provider.access with
  | .authenticated _ _ => true
  | .unauthenticated _ => false

/-- Every key is admissible, and stored for a provider that uses keys. -/
def KeysValid (keys : ProviderId → Option ApiKey) : Prop :=
  ∀ id key, keys id = some key →
    Admissible key.read ∧ ∃ provider ∈ PROVIDERS, provider.providerId = id ∧ provider.usesKey = true

/-- A url that has the key in the only gap of its pattern, behind the host and port that the
pattern names, where the key adds no delimiter. -/
structure Fills (pattern key url : String) : Prop where
  replaced : ∃ parts before after,
    pattern = before ++ API_KEY_REPLACE_STRING ++ after ∧ url = before ++ key ++ after ∧
    UrlParts.ofText before = some parts ∧
    UrlParts.ofText pattern = some {parts with rest := parts.rest ++ API_KEY_REPLACE_STRING ++ after} ∧
    UrlParts.ofText url = some {parts with rest := parts.rest ++ key ++ after}
  braces : '\x7b' ∉ url.toList ∧ '\x7d' ∉ url.toList
  delimiters : ∀ c ∈ UrlParts.delimiters, url.toList.count c = pattern.toList.count c

/-- The api of a provider with a key: the fixed url and the key in a header, or the key
in the url. -/
def RpcAccess.Carries (key : String) (api : RpcApi) : RpcAccess → Prop
  | .authenticated (.bearerToken url) _ =>
    api.url = url ∧ ∃ value, api.headers = some [⟨"Authorization",value⟩] ∧ value = "Bearer " ++ key ∧
      ∀ c ∈ value.toList, isPrintable c = true
  | .authenticated (.urlParameter pattern) _ => api.headers = none ∧ Fills pattern key api.url
  | .unauthenticated _ => False

section Store
variable {M : Type} {regex : Regex} {memory after : Memory M}

private theorem tryFrom_eq_ok_iff {key : String} {stored : ApiKey} :
    ApiKey.tryFrom key = .ok stored ↔ Admissible key ∧ stored = ⟨key⟩ := by
  rw [← validateApiKey_iff,ApiKey.tryFrom]
  cases validateApiKey key with
  | error message => simp
  | ok _ => simp [eq_comm]

private theorem acceptableKey_usesKey {entry : ProviderId × Option String} (acceptable : acceptableKey entry = true) :
    ∃ provider ∈ PROVIDERS, provider.providerId = entry.1 ∧ provider.usesKey = true := by
  unfold acceptableKey at acceptable
  split at acceptable
  · cases acceptable
  · rename_i provider found
    refine ⟨provider,List.mem_of_find?_eq_some found,by simpa using List.find?_some found,?_⟩
    split at acceptable
    · rename_i access
      simp only [Provider.usesKey,access]
    · cases acceptable

theorem KeysValid.storeKey {keys : ProviderId → Option ApiKey} (valid : KeysValid keys)
    {entry : ProviderId × Option String} (acceptable : acceptableKey entry = true) :
    KeysValid (storeKey keys entry) := by
  intro id key stored
  by_cases named : id = entry.1
  · subst id
    rw [EvmRpc.storeKey,Function.update_self,Option.bind_eq_some_iff] at stored
    obtain ⟨text,_,parsed⟩ := stored
    cases checked : ApiKey.tryFrom text with
    | error message => simp [checked,Except.toOption] at parsed
    | ok made =>
      rw [checked] at parsed
      obtain rfl := Option.some.inj parsed
      obtain ⟨admissible,rfl⟩ := tryFrom_eq_ok_iff.mp checked
      exact ⟨admissible,acceptableKey_usesKey acceptable⟩
  · rw [EvmRpc.storeKey,Function.update_of_ne named] at stored
    exact valid id key stored

private theorem KeysValid.updates {apiKeys : List (ProviderId × Option String)}
    (acceptable : apiKeys.all acceptableKey = true) {keys : ProviderId → Option ApiKey} (valid : KeysValid keys) :
    KeysValid (apiKeys.foldl EvmRpc.storeKey keys) := by
  induction apiKeys generalizing keys with
  | nil => exact valid
  | cons entry apiKeys ih =>
    obtain ⟨first,others⟩ := Bool.and_eq_true_iff.mp acceptable
    exact ih others (valid.storeKey first)

private theorem postUpgrade_keys {args : InstallArgs} (done : postUpgrade regex args memory = .done after) :
    after.apiKeyMap = memory.apiKeyMap := by
  rw [postUpgrade_eq] at done
  split at done
  · cases done
    rfl
  · cases done

theorem KeysValid.manage {timed : TimedSizedMap SupportedRpcService M} (valid : KeysValid memory.apiKeyMap)
    {message : ManagementMessage} (done : manage timed regex memory message = .done after) :
    KeysValid after.apiKeyMap := by
  cases message with
  | install args =>
    rw [postUpgrade_keys done]
    intro id key stored
    cases stored
  | upgrade args =>
    rw [postUpgrade_keys done]
    exact valid
  | updateApiKeys caller isController apiKeys =>
    obtain ⟨_,acceptable,rfl⟩ := updateApiKeys_eq_done.mp done
    exact valid.updates acceptable

theorem managed_keysValid (timed : TimedSizedMap SupportedRpcService M) (regex : Regex)
    (messages : List ManagementMessage) : KeysValid (managed timed regex messages).apiKeyMap := by
  refine Runs.invariant (EvmRpc.manage timed regex) (fun memory => KeysValid memory.apiKeyMap) (.fresh timed) ?_
    (fun _ _ _ valid done => valid.manage done) messages
  intro id key stored
  cases stored

example : (managed ReferenceTimedMap.reference ⟨fun _ => .error ""⟩
    [.updateApiKeys ⟨[]⟩ true [(1,some "key")]]).getApiKey 1 = some ⟨"key"⟩ := by decide

end Store

section Requests

private theorem keyChar_separates : ∀ c ∈ VALID_API_KEY_CHARS.toList,
    c ∉ UrlParts.delimiters ∧ c ≠ '\x7b' ∧ c ≠ '\x7d' := by
  have all : VALID_API_KEY_CHARS.toList.all (fun c => !UrlParts.delimiters.contains c && (c != '\x7b' && c != '\x7d')) = true := by
    decide
  intro c inside
  simpa using List.all_eq_true.mp all c inside

private theorem placeholder_separates : ∀ c ∈ UrlParts.delimiters, API_KEY_REPLACE_STRING.toList.count c = 0 := by
  have all : UrlParts.delimiters.all (fun c => API_KEY_REPLACE_STRING.toList.count c == 0) = true := by decide
  intro c inside
  simpa using List.all_eq_true.mp all c inside

private theorem hostChar_separates {c : Char} (host : isHostChar c = true) : c ∉ UrlParts.delimiters ∧ c ≠ ':' := by
  constructor
  · intro delimiter
    simp only [UrlParts.delimiters,List.mem_cons,List.not_mem_nil,or_false] at delimiter
    rcases delimiter with rfl | rfl | rfl <;> revert host <;> decide
  · rintro rfl
    revert host
    decide

private theorem ne_closing {c : Char} (plain : isHostChar c = true ∨ isPathChar c = true) : c ≠ '\x7d' := by
  rintro rfl
  revert plain
  decide

private theorem count_key {key : String} (admissible : Admissible key) {c : Char} (delimiter : c ∈ UrlParts.delimiters) :
    key.toList.count c = 0 :=
  List.count_eq_zero.mpr fun inside => (keyChar_separates c (admissible.2.2 c inside)).1 delimiter

theorem fills_of_urlParameter {provider : Provider} (listed : provider ∈ PROVIDERS) {pattern : String}
    {publicUrl : Option String} (access : provider.access = .authenticated (.urlParameter pattern) publicUrl)
    {key : String} (admissible : Admissible key) :
    Fills pattern key (Text.replace API_KEY_REPLACE_STRING key pattern) := by
  obtain ⟨host,path,rfl,named,short,hosted,pathed⟩ := urlPattern_shape listed access
  have parsed := UrlParts.ofText_https (fun c inside => hostChar_separates (hosted c inside)) path
  have behind : "/" ++ path ≠ "" := by simp
  have written : "https://" ++ host ++ "/" ++ (path ++ key) = "https://" ++ host ++ "/" ++ path ++ key :=
    String.append_assoc.symm
  rw [replace_placeholder hosted pathed key,written]
  refine ⟨⟨_,"https://" ++ host ++ "/" ++ path,"",?_,?_,parsed,?_,?_⟩,?_,?_⟩
  · rw [String.append_empty]
  · rw [String.append_empty]
  · rw [UrlParts.ofText_append parsed behind,String.append_empty]
  · rw [UrlParts.ofText_append parsed behind,String.append_empty]
  · simp only [String.toList_append,List.mem_append,not_or]
    refine ⟨⟨⟨⟨⟨?_,?_⟩,?_⟩,?_⟩,?_⟩,⟨⟨⟨?_,?_⟩,?_⟩,?_⟩,?_⟩
    · decide
    · exact fun inside => ne_brace_of_isHostChar (hosted _ inside) rfl
    · decide
    · exact fun inside => ne_brace_of_isPathChar (pathed _ inside) rfl
    · exact fun inside => (keyChar_separates _ (admissible.2.2 _ inside)).2.1 rfl
    · decide
    · exact fun inside => ne_closing (.inl (hosted _ inside)) rfl
    · decide
    · exact fun inside => ne_closing (.inr (pathed _ inside)) rfl
    · exact fun inside => (keyChar_separates _ (admissible.2.2 _ inside)).2.2 rfl
  · intro c delimiter
    simp only [String.toList_append,List.count_append,count_key admissible delimiter,placeholder_separates c delimiter]

/-- A listed provider that uses keys puts a key where it belongs. -/
theorem api_carries {provider : Provider} (listed : provider ∈ PROVIDERS) (uses : provider.usesKey = true)
    {key : ApiKey} (admissible : Admissible key.read) {getApiKey : ProviderId → Option ApiKey}
    (stored : getApiKey provider.providerId = some key) :
    ∃ api, provider.api getApiKey = .done api ∧ provider.access.Carries key.read api := by
  cases access : provider.access with
  | unauthenticated publicUrl => simp [Provider.usesKey,access] at uses
  | authenticated auth publicUrl =>
    cases auth with
    | bearerToken url =>
      refine ⟨⟨url,some [⟨"Authorization","Bearer " ++ key.read⟩]⟩,?_,rfl,"Bearer " ++ key.read,rfl,rfl,?_⟩
      · simp only [Provider.api,access,stored]
      · exact isPrintable_bearer (validateApiKey_iff.mpr admissible)
    | urlParameter pattern =>
      refine ⟨⟨Text.replace API_KEY_REPLACE_STRING key.read pattern,none⟩,?_,rfl,?_⟩
      · simp only [Provider.api,access,stored]
      · exact fills_of_urlParameter listed access admissible

/-- After any messages the keys that are held are admissible, and no admissible key
redirects the request of a provider. -/
theorem stored_keys_cannot_redirect {M : Type} (timed : TimedSizedMap SupportedRpcService M) (regex : Regex)
    (messages : List ManagementMessage) :
    KeysValid (managed timed regex messages).getApiKey ∧
    ∀ provider ∈ PROVIDERS, provider.usesKey = true → ∀ key : ApiKey, Admissible key.read →
      ∀ getApiKey : ProviderId → Option ApiKey, getApiKey provider.providerId = some key →
        ∃ api, provider.api getApiKey = .done api ∧ provider.access.Carries key.read api :=
  ⟨managed_keysValid timed regex messages,fun _ listed uses _ admissible _ stored =>
    api_carries listed uses admissible stored⟩

end Requests
end EvmRpc
