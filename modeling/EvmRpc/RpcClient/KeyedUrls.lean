import EvmRpc.RpcClient.ParallelCall

/-! Urls and headers with a key in them: where the key stands, and what the crates do
with such plain text. -/
namespace EvmRpc
open Library

theorem validateApiKey_eq_ok {key : String} : validateApiKey key = .ok () ↔
    key ≠ "" ∧ key.utf8ByteSize ≤ 200 ∧ ∀ c ∈ key.toList, c ∈ VALID_API_KEY_CHARS.toList := by
  unfold validateApiKey
  split
  · rename_i empty
    simp_all
  · split
    · rename_i long
      simp only [reduceCtorEq,false_iff]
      exact fun fine => absurd fine.2.1 (by omega)
    · rename_i nonempty short
      have filled : key ≠ "" := by simpa using nonempty
      simp only [filled,Nat.not_lt.mp short,ne_eq,not_false_eq_true,true_and]
      split
      · rename_i strange
        obtain ⟨c,inside,outside⟩ := List.any_eq_true.mp strange
        simp only [reduceCtorEq,false_iff]
        exact fun fine => by simp [fine c inside] at outside
      · rename_i plain
        simpa using plain

def isHostChar (c : Char) : Bool := c.isAlphanum || ".-".toList.contains c

def isPathChar (c : Char) : Bool := c.isAlphanum || "/-._~!$&()*+,;=:@".toList.contains c

def isPrintable (c : Char) : Bool := 32 ≤ c.toNat && c.toNat < 127

/-- The size of an outcall that is paid for. -/
def IcHttpRequest.size (request : IcHttpRequest) : ℕ :=
  request.url.utf8ByteSize+
    (request.headers.map (fun header => header.name.utf8ByteSize+header.value.utf8ByteSize)).sum+request.body.length+
    (request.transform.map (fun transform => transform.name.utf8ByteSize+transform.context.length)).getD 0

/-- What the `http` and `canhttp` crates do with plain urls and header values: the host
of a url ends where its path begins, text is kept as it is, and the price of an outcall
depends on no more of it than its sizes. -/
structure Platform.Plain {M : Type} (platform : Platform M) : Prop where
  parseUri : ∀ host path : String, host ≠ "" → (∀ c ∈ host.toList, isHostChar c = true) →
    (∀ c ∈ path.toList, isPathChar c = true) → ("https://" ++ host ++ "/" ++ path).utf8ByteSize < 65535 →
    platform.http.parseUri ("https://" ++ host ++ "/" ++ path) =
      .ok ⟨"https://" ++ host ++ "/" ++ path,some host⟩
  headerName : platform.http.headerName "Authorization" = .ok "authorization"
  headerValue : ∀ value : String, (∀ c ∈ value.toList, isPrintable c = true) →
    platform.http.headerValue value = .ok value
  toStr : ∀ value : String, (∀ c ∈ value.toList, isPrintable c = true) → platform.http.toStr value = .ok value
  toStr_text : ∀ value text, platform.http.toStr value = .ok text → text = value
  price : ∀ nodes (request other : IcHttpRequest), request.size = other.size →
    request.maxResponseBytes = other.maxResponseBytes →
    platform.canhttp.costOfHttpRequest nodes request = platform.canhttp.costOfHttpRequest nodes other

section Urls

/-- What a pattern has between its scheme and its key: the host and the path. -/
def keyPosition (pattern : String) : String × String :=
  let rest := pattern.toList.drop 8
  let host := rest.takeWhile (· != '/')
  (String.ofList host,String.ofList ((rest.drop (host.length+1)).takeWhile (· != '\x7b')))

/-- A key that is part of a url comes after its host. -/
def RpcAccess.hidesKey : RpcAccess → Bool
  | .authenticated (.urlParameter pattern) _ =>
    let (host,path) := keyPosition pattern
    pattern = "https://" ++ host ++ "/" ++ path ++ API_KEY_REPLACE_STRING && host ≠ "" && pattern.utf8ByteSize ≤ 100 &&
      host.toList.all isHostChar && path.toList.all isPathChar
  | _ => true

private theorem providers_hide_key : ∀ provider ∈ PROVIDERS, provider.access.hidesKey = true := by decide +kernel

theorem isPlain_of_keyChar : ∀ c ∈ VALID_API_KEY_CHARS.toList, isPathChar c = true ∧ isPrintable c = true := by
  have all : VALID_API_KEY_CHARS.toList.all (fun c => isPathChar c && isPrintable c) = true := by decide
  intro c inside
  simpa using List.all_eq_true.mp all c inside

theorem isPrintable_bearer {key : String} (valid : validateApiKey key = .ok ()) :
    ∀ c ∈ ("Bearer " ++ key).toList, isPrintable c = true := by
  intro c inside
  rw [String.toList_append,List.mem_append] at inside
  rcases inside with fixed | secret
  · have all : ∀ c ∈ "Bearer ".toList, isPrintable c = true := by simp [isPrintable]
    exact all c fixed
  · exact (isPlain_of_keyChar c ((validateApiKey_eq_ok.mp valid).2.2 c secret)).2

theorem ne_brace_of_isPathChar {c : Char} (path : isPathChar c = true) : c ≠ '\x7b' := by
  rintro rfl
  revert path
  decide

theorem ne_brace_of_isHostChar {c : Char} (host : isHostChar c = true) : c ≠ '\x7b' := by
  rintro rfl
  revert host
  decide

theorem replace_placeholder {host path : String} (hosted : ∀ c ∈ host.toList, isHostChar c = true)
    (pathed : ∀ c ∈ path.toList, isPathChar c = true) (key : String) :
    Text.replace API_KEY_REPLACE_STRING key ("https://" ++ host ++ "/" ++ path ++ API_KEY_REPLACE_STRING) =
      "https://" ++ host ++ "/" ++ (path ++ key) := by
  have fresh : '\x7b' ∉ ("https://" ++ host ++ "/" ++ path).toList := by
    simp only [String.toList_append,List.mem_append,not_or]
    refine ⟨⟨⟨by decide,?_⟩,by decide⟩,?_⟩
    · exact fun inside => ne_brace_of_isHostChar (hosted _ inside) rfl
    · exact fun inside => ne_brace_of_isPathChar (pathed _ inside) rfl
  have pattern : API_KEY_REPLACE_STRING.toList = '\x7b':: "API_KEY\x7d".toList := by decide
  have replaced := Text.replaceFrom_end '\x7b' "API_KEY\x7d".toList key.toList fresh
  rw [← pattern,← String.toList_append] at replaced
  apply String.toList_injective
  rw [Text.replace,String.toList_ofList,replaced]
  simp [String.toList_append]

theorem urlPattern_shape {provider : Provider} (listed : provider ∈ PROVIDERS) {pattern : String}
    {publicUrl : Option String} (access : provider.access = .authenticated (.urlParameter pattern) publicUrl) :
    ∃ host path : String, pattern = "https://" ++ host ++ "/" ++ path ++ API_KEY_REPLACE_STRING ∧ host ≠ "" ∧
      pattern.utf8ByteSize ≤ 100 ∧ (∀ c ∈ host.toList, isHostChar c = true) ∧
      ∀ c ∈ path.toList, isPathChar c = true := by
  have hidden := providers_hide_key provider listed
  rw [access] at hidden
  simp only [RpcAccess.hidesKey,Bool.and_eq_true,decide_eq_true_eq,List.all_eq_true] at hidden
  obtain ⟨⟨⟨⟨whole,named⟩,short⟩,hosted⟩,pathed⟩ := hidden
  exact ⟨_,_,whole,named,short,hosted,pathed⟩

/-- The url of a provider has the same host with every key, and a size that depends on
the size of the key. -/
theorem parseUri_of_key {M : Type} {platform : Platform M} (plain : platform.Plain) {provider : Provider}
    (listed : provider ∈ PROVIDERS) {pattern : String} {publicUrl : Option String}
    (access : provider.access = .authenticated (.urlParameter pattern) publicUrl) :
    ∃ host size, ∀ key : String, validateApiKey key = .ok () → ∃ url : String,
      platform.http.parseUri (Text.replace API_KEY_REPLACE_STRING key pattern) = .ok ⟨url,some host⟩ ∧
        url.utf8ByteSize = size+key.utf8ByteSize := by
  obtain ⟨host,path,rfl,named,short,hosted,pathed⟩ := urlPattern_shape listed access
  refine ⟨host,("https://" ++ host ++ "/" ++ path).utf8ByteSize,fun key valid => ?_⟩
  obtain ⟨_,small,chars⟩ := validateApiKey_eq_ok.mp valid
  have pathed' : ∀ c ∈ (path ++ key).toList, isPathChar c = true := by
    intro c inside
    rw [String.toList_append,List.mem_append] at inside
    exact inside.elim (pathed c) (fun secret => (isPlain_of_keyChar c (chars c secret)).1)
  have bounded : ("https://" ++ host ++ "/" ++ (path ++ key)).utf8ByteSize < 65535 := by
    simp only [String.utf8ByteSize_append] at short ⊢
    omega
  refine ⟨"https://" ++ host ++ "/" ++ (path ++ key),?_,?_⟩
  · rw [replace_placeholder hosted pathed]
    exact plain.parseUri host (path ++ key) named hosted pathed' bounded
  · simp only [String.utf8ByteSize_append]
    omega

end Urls

section Reference

private theorem bounds_of_isAlphanum {c : Char} (plain : c.isAlphanum = true) : 48 ≤ c.toNat ∧ c.toNat ≤ 122 := by
  simp only [Char.isAlphanum,Char.isAlpha,Char.isUpper,Char.isLower,Char.isDigit,Bool.or_eq_true,Bool.and_eq_true,
    decide_eq_true_eq,ge_iff_le,UInt32.le_iff_toNat_le] at plain
  have value : UInt32.toNat c.val = c.toNat := rfl
  simp [value] at plain
  omega

private theorem bounds_of_contains {c : Char} {text : String} (among : text.toList.contains c = true)
    (all : text.toList.all (fun c => 33 ≤ c.toNat && c.toNat < 127) = true) : 33 ≤ c.toNat ∧ c.toNat < 127 := by
  simpa using List.all_eq_true.mp all c (List.contains_iff_mem.mp among)

private theorem bounds_of_isPathChar {c : Char} (plain : isPathChar c = true) : 33 ≤ c.toNat ∧ c.toNat < 127 := by
  rcases Bool.or_eq_true_iff.mp plain with letter | special
  · have bounds := bounds_of_isAlphanum letter
    omega
  · exact bounds_of_contains special (by decide)

private theorem bounds_of_isHostChar {c : Char} (plain : isHostChar c = true) : 33 ≤ c.toNat ∧ c.toNat < 127 := by
  rcases Bool.or_eq_true_iff.mp plain with letter | special
  · have bounds := bounds_of_isAlphanum letter
    omega
  · exact bounds_of_contains special (by decide)

private theorem isVisible_iff {c : Char} : HttpCrate.isVisible c = true ↔ 33 ≤ c.toNat ∧ c.toNat < 127 := by
  simp only [HttpCrate.isVisible,Bool.and_eq_true,decide_eq_true_eq,Char.le_def,UInt32.le_iff_toNat_le]
  have value : UInt32.toNat c.val = c.toNat := rfl
  simp [value]
  omega

private theorem takeWhile_host {host : String} (hosted : ∀ c ∈ host.toList, isHostChar c = true) (rest : List Char) :
    (host.toList ++ '/'::rest).takeWhile (fun c => !(['/','?','#',':'].contains c)) = host.toList := by
  rw [List.takeWhile_append_of_pos,List.takeWhile_cons_of_neg,List.append_nil]
  · simp
  · intro c inside
    have plain := hosted c inside
    simp only [Bool.not_eq_true',List.contains_eq_mem,decide_eq_false_iff_not]
    intro delimiter
    simp only [List.mem_cons,List.not_mem_nil,or_false] at delimiter
    rcases delimiter with rfl | rfl | rfl | rfl <;> revert plain <;> decide

theorem HttpCrate.reference_parseUri {host path : String} (hosted : ∀ c ∈ host.toList, isHostChar c = true)
    (pathed : ∀ c ∈ path.toList, isPathChar c = true) :
    HttpCrate.reference.parseUri ("https://" ++ host ++ "/" ++ path) =
      .ok ⟨"https://" ++ host ++ "/" ++ path,some host⟩ := by
  have visible : ∀ c ∈ ("https://" ++ host ++ "/" ++ path).toList, HttpCrate.isVisible c = true := by
    intro c inside
    simp only [String.toList_append,List.mem_append] at inside
    have scheme : ∀ c ∈ "https://".toList, HttpCrate.isVisible c = true := by simp [HttpCrate.isVisible]
    have slash : ∀ c ∈ "/".toList, HttpCrate.isVisible c = true := by simp [HttpCrate.isVisible]
    rcases inside with ((first | second) | third) | fourth
    · exact scheme c first
    · exact isVisible_iff.mpr (bounds_of_isHostChar (hosted c second))
    · exact slash c third
    · exact isVisible_iff.mpr (bounds_of_isPathChar (pathed c fourth))
  have named : HttpCrate.hostOf ("https://" ++ host ++ "/" ++ path).toList = some host := by
    have chars : ("https://" ++ host ++ "/" ++ path).toList =
        'h':: 't':: 't':: 'p':: 's':: ':':: '/':: '/'::(host.toList ++ '/'::path.toList) := by simp
    have rest : HttpCrate.afterScheme ("https://" ++ host ++ "/" ++ path).toList =
        some (host.toList ++ '/'::path.toList) := by
      rw [chars]
      rfl
    have whole : HttpCrate.hostOf ("https://" ++ host ++ "/" ++ path).toList =
        some (String.ofList ((host.toList ++ '/'::path.toList).takeWhile (fun c => !(['/','?','#',':'].contains c)))) := by
      unfold HttpCrate.hostOf
      rw [rest,chars]
      rfl
    rw [whole,takeWhile_host hosted,String.ofList_toList]
  have filled : ("https://" ++ host ++ "/" ++ path).toList.isEmpty = false := by simp
  have clean : ("https://" ++ host ++ "/" ++ path).toList.any (fun c => !HttpCrate.isVisible c) = false := by
    rw [List.any_eq_false]
    exact fun c inside => by simp [visible c inside]
  simp only [HttpCrate.reference,filled,clean,Bool.or_self,Bool.false_eq_true,if_false,named]

private theorem reference_headerName : HttpCrate.reference.headerName "Authorization" = .ok "authorization" := by
  simp [HttpCrate.reference,HttpCrate.isToken]

private theorem reference_headerValue {value : String} (printable : ∀ c ∈ value.toList, isPrintable c = true) :
    HttpCrate.reference.headerValue value = .ok value := by
  have clean : value.toList.any (fun c => c.toNat < 32 && c ≠ '\t' || c.toNat = 127) = false := by
    rw [List.any_eq_false]
    intro c inside
    have bounds := printable c inside
    simp only [isPrintable,Bool.and_eq_true,decide_eq_true_eq] at bounds
    simp only [Bool.or_eq_true,Bool.and_eq_true,decide_eq_true_eq]
    omega
  simp only [HttpCrate.reference,clean,Bool.false_eq_true,if_false]

private theorem reference_toStr {value : String} (printable : ∀ c ∈ value.toList, isPrintable c = true) :
    HttpCrate.reference.toStr value = .ok value := by
  have clean : value.toList.any (fun c => !HttpCrate.isVisible c && c ≠ ' ' && c ≠ '\t') = false := by
    rw [List.any_eq_false]
    intro c inside
    have bounds := printable c inside
    simp only [isPrintable,Bool.and_eq_true,decide_eq_true_eq] at bounds
    by_cases blank : c.toNat = 32
    · have space : c = ' ' := Char.ext (UInt32.toNat_inj.mp blank)
      simp [space]
    · simp [isVisible_iff.mpr ⟨by omega,bounds.2⟩]
  simp only [HttpCrate.reference,clean,Bool.false_eq_true,if_false]

private theorem reference_toStr_text {value text : String} (sent : HttpCrate.reference.toStr value = .ok text) :
    text = value := by
  simp only [HttpCrate.reference] at sent
  split at sent
  · cases sent
  · exact (Except.ok.inj sent).symm

private theorem reference_price (nodes : UInt32) {request other : IcHttpRequest} (size : request.size = other.size)
    (response : request.maxResponseBytes = other.maxResponseBytes) :
    Canhttp.reference.costOfHttpRequest nodes request = Canhttp.reference.costOfHttpRequest nodes other := by
  have sum (request : IcHttpRequest) : request.body.length+request.url.utf8ByteSize+
      (request.headers.map (fun header => header.name.utf8ByteSize+header.value.utf8ByteSize)).sum+
      (request.transform.map (fun transform => transform.name.utf8ByteSize+transform.context.length)).getD 0 =
        request.size := by
    unfold IcHttpRequest.size
    omega
  simp only [Canhttp.reference,sum,size,response]

theorem Platform.reference_plain : Platform.reference.Plain where
  parseUri _ _ _ hosted pathed _ := HttpCrate.reference_parseUri hosted pathed
  headerName := reference_headerName
  headerValue _ printable := reference_headerValue printable
  toStr _ printable := reference_toStr printable
  toStr_text _ _ sent := reference_toStr_text sent
  price nodes _ _ size response := reference_price nodes size response

end Reference

end EvmRpc
