import EvmRpc.Canister.Charges
import EvmRpc.Types.MetricLabels

/-! The page with the metrics of the canister, and which of the counters are on it. -/
namespace EvmRpc
open Library MetricLabels MetricValue

/-- A line of the page that is no comment. -/
structure Sample where
  name : String
  labels : List (String × String)
  value : F64
  deriving DecidableEq, Repr

/-- `MetricsEncoder` of the crate `ic_metrics_encoder`, over its buffer. `samples` are the
lines that have been written to a buffer. -/
structure MetricsEncoder (W : Type) where
  new : (nowMillis : Int64) → W
  gaugeVec : (name help : String) → W → Except String Unit × W
  counterVec : (name help : String) → W → Except String Unit × W
  value : (name : String) → (labels : List (String × String)) → F64 → W → Except String Unit × W
  encodeGauge : (name : String) → F64 → (help : String) → W → Except String Unit × W
  samples : W → List Sample

structure CanisterStatus where
  time : UInt64
  balance : U128
  version : UInt64
  stablePages : UInt64
  heapPages : UInt32

def WASM_PAGE_SIZE_IN_BYTES : ℕ := 65536

/-- The cast of the pages times the size of a page. The product is exact, as the size is a
power of two. -/
def CanisterStatus.stableMemoryBytes (status : CanisterStatus) : F64 :=
  .ofNat (status.stablePages.toNat*WASM_PAGE_SIZE_IN_BYTES)

/-- `usize` has 32 bits here. -/
def CanisterStatus.heapMemorySizeBytes (status : CanisterStatus) : UInt32 := status.heapPages*65536

inductive MetricsResponse (W : Type) where
  | ok (contentType : String) (body : W)
  | serverError (message : String)

namespace MetricsEncoder
variable {W : Type} (encoder : MetricsEncoder W)

/-- `first?; second` -/
def andThen (first second : W → Except String Unit × W) (buffer : W) : Except String Unit × W :=
  match first buffer with
  | (.ok (),buffer) => second buffer
  | (.error e,buffer) => (.error e,buffer)

/-- Each entry has a header of its own, and errors are dropped. The entries of the hash map
come in the order of the table. -/
def counterEntries {κ ν : Type} [MetricLabels κ] [MetricValue ν] (name : String) (map : Counters κ ν) (help : String)
    (buffer : W) : W :=
  map.entries.foldl (fun buffer entry => (andThen (encoder.counterVec name help)
    (encoder.value name (metricLabels entry.1) (metricValue entry.2)) buffer).2) buffer

def encodeCounters (metrics : Metrics) (buffer : W) : W :=
  let buffer := encoder.counterEntries "evmrpc_cycles_charged" metrics.cyclesCharged
    "Number of cycles charged for RPC calls" buffer
  let buffer := encoder.counterEntries "evmrpc_requests" metrics.requests "Number of JSON-RPC requests" buffer
  let buffer := encoder.counterEntries "evmrpc_responses" metrics.responses "Number of JSON-RPC responses" buffer
  let buffer := encoder.counterEntries "evmrpc_inconsistent_responses" metrics.inconsistentResponses
    "Number of inconsistent RPC responses" buffer
  encoder.counterEntries "evmrpc_err_http_outcall" metrics.errHttpOutcall "Number of unsuccessful HTTP outcalls" buffer

def encodeMetrics (status : CanisterStatus) (metrics : Metrics) : W → Except String Unit × W :=
  andThen (encoder.gaugeVec "cycle_balance" "Cycle balance of this canister") <|
  andThen (encoder.value "cycle_balance" [("canister","evmrpc")] (metricValue status.balance)) <|
  andThen (encoder.encodeGauge "evmrpc_canister_version" (metricValue status.version) "Canister version") <|
  andThen (encoder.encodeGauge "stable_memory_bytes" status.stableMemoryBytes
    "Size of the stable memory allocated by this canister.") <|
  andThen (encoder.encodeGauge "heap_memory_bytes" (.ofNat status.heapMemorySizeBytes.toNat)
    "Size of the heap memory allocated by this canister.") <|
  fun buffer => (.ok (),encoder.encodeCounters metrics buffer)

/-- The branch of `http_request` for the path `/metrics`. -/
def metricsResponse (status : CanisterStatus) (metrics : Metrics) : MetricsResponse W :=
  match encoder.encodeMetrics status metrics (encoder.new (status.time.toInt64/1000000)) with
  | (.ok (),writer) => .ok "text/plain; version=0.0.4" writer
  | (.error err,_) => .serverError ("Failed to encode metrics: " ++ err)

/-- An operation that succeeds and writes these lines. -/
def Writes (operation : W → Except String Unit × W) (lines : List Sample) : Prop :=
  ∀ buffer, (operation buffer).1 = .ok () ∧ encoder.samples (operation buffer).2 = encoder.samples buffer ++ lines

/-- A buffer in memory takes everything, and each value is one line. -/
structure Lawful : Prop where
  new : ∀ nowMillis, encoder.samples (encoder.new nowMillis) = []
  gaugeVec : ∀ name help, encoder.Writes (encoder.gaugeVec name help) []
  counterVec : ∀ name help, encoder.Writes (encoder.counterVec name help) []
  value : ∀ name labels value, encoder.Writes (encoder.value name labels value) [⟨name,labels,value⟩]
  encodeGauge : ∀ name value help, encoder.Writes (encoder.encodeGauge name value help) [⟨name,[],value⟩]

end MetricsEncoder

inductive MetricFamily where
  | requests | responses | inconsistentResponses | cyclesCharged | errHttpOutcall | errMaxResponseSizeExceeded
  deriving DecidableEq, Repr

def MetricFamily.all : List MetricFamily :=
  [.requests,.responses,.inconsistentResponses,.cyclesCharged,.errHttpOutcall,.errMaxResponseSizeExceeded]

structure MetricEntry where
  family : MetricFamily
  labels : List (String × String)
  count : ℕ
  deriving DecidableEq, Repr

def entriesOf {κ ν : Type} [MetricLabels κ] (family : MetricFamily) (map : Counters κ ν) (count : ν → ℕ) :
    List MetricEntry := map.entries.map (fun entry => ⟨family,metricLabels entry.1,count entry.2⟩)

namespace Metrics
variable (metrics : Metrics)

def entriesIn : MetricFamily → List MetricEntry
  | .requests => entriesOf .requests metrics.requests UInt64.toNat
  | .responses => entriesOf .responses metrics.responses UInt64.toNat
  | .inconsistentResponses => entriesOf .inconsistentResponses metrics.inconsistentResponses UInt64.toNat
  | .cyclesCharged => entriesOf .cyclesCharged metrics.cyclesCharged Fin.val
  | .errHttpOutcall => entriesOf .errHttpOutcall metrics.errHttpOutcall UInt64.toNat
  | .errMaxResponseSizeExceeded => entriesOf .errMaxResponseSizeExceeded metrics.errMaxResponseSizeExceeded UInt64.toNat

def entries : List MetricEntry := MetricFamily.all.flatMap metrics.entriesIn

/-- The maps have names under which each of their entries is a sample with its labels and its
count, and no two entries have the same name and labels. -/
def PublishedIn (samples : List Sample) : Prop :=
  ∃ name : MetricFamily → String,
    (∀ entry ∈ metrics.entries, ∃ sample ∈ samples, sample.name = name entry.family ∧ sample.labels = entry.labels ∧
      sample.value.value = entry.count) ∧
    (metrics.entries.map (fun entry => (name entry.family,entry.labels))).Nodup

def Published {W : Type} (encoder : MetricsEncoder W) (status : CanisterStatus) : Prop :=
  ∃ contentType body, encoder.metricsResponse status metrics = .ok contentType body ∧
    metrics.PublishedIn (encoder.samples body)

end Metrics

/-- The names that the page has for maps. It has none for the last one. -/
def MetricFamily.metricName : MetricFamily → String
  | .requests => "evmrpc_requests"
  | .responses => "evmrpc_responses"
  | .inconsistentResponses => "evmrpc_inconsistent_responses"
  | .cyclesCharged => "evmrpc_cycles_charged"
  | .errHttpOutcall => "evmrpc_err_http_outcall"
  | .errMaxResponseSizeExceeded => ""

def MetricEntry.sample (entry : MetricEntry) : Sample := ⟨entry.family.metricName,entry.labels,.ofNat entry.count⟩

def CanisterStatus.gauges (status : CanisterStatus) : List Sample :=
  [⟨"cycle_balance",[("canister","evmrpc")],metricValue status.balance⟩,
    ⟨"evmrpc_canister_version",[],metricValue status.version⟩,
    ⟨"stable_memory_bytes",[],status.stableMemoryBytes⟩,
    ⟨"heap_memory_bytes",[],.ofNat status.heapMemorySizeBytes.toNat⟩]

def Metrics.samples (metrics : Metrics) : List Sample :=
  ([MetricFamily.cyclesCharged,.requests,.responses,.inconsistentResponses,.errHttpOutcall].flatMap
    metrics.entriesIn).map MetricEntry.sample

section Writing
variable {W : Type} {encoder : MetricsEncoder W} {status : CanisterStatus} {metrics : Metrics}

namespace MetricsEncoder

theorem Writes.andThen {first second : W → Except String Unit × W} {lines more : List Sample}
    (begins : encoder.Writes first lines) (goesOn : encoder.Writes second more) :
    encoder.Writes (andThen first second) (lines ++ more) := by
  intro buffer
  obtain ⟨done,written⟩ := begins buffer
  obtain ⟨done',written'⟩ := goesOn (first buffer).2
  have both : MetricsEncoder.andThen first second buffer = second (first buffer).2 := by
    rw [MetricsEncoder.andThen]
    split
    · rename_i after same
      rw [same]
    · rename_i error after same
      rw [same] at done
      cases done
  rw [both,written',written,List.append_assoc]
  exact ⟨done',rfl⟩

theorem samples_counterEntries (lawful : encoder.Lawful) {κ ν : Type} [MetricLabels κ] [MetricValue ν] (name : String)
    (map : Counters κ ν) (help : String) (buffer : W) :
    encoder.samples (encoder.counterEntries name map help buffer) = encoder.samples buffer ++
      map.entries.map (fun entry => ⟨name,metricLabels entry.1,metricValue entry.2⟩) := by
  unfold counterEntries
  induction map.entries generalizing buffer with
  | nil => exact (List.append_nil _).symm
  | cons entry entries ih =>
    have written := ((lawful.counterVec name help).andThen
      (lawful.value name (metricLabels entry.1) (metricValue entry.2)) buffer).2
    rw [List.foldl_cons,ih,written,List.append_assoc]
    rfl

theorem samples_encodeCounters (lawful : encoder.Lawful) (metrics : Metrics) (buffer : W) :
    encoder.samples (encoder.encodeCounters metrics buffer) = encoder.samples buffer ++ metrics.samples := by
  simp only [encodeCounters,samples_counterEntries lawful,Metrics.samples,List.flatMap_cons,List.flatMap_nil,
    List.append_nil,List.map_append,List.append_assoc,Metrics.entriesIn,entriesOf,List.map_map]
  rfl

theorem encodeMetrics_writes (lawful : encoder.Lawful) (status : CanisterStatus) (metrics : Metrics) :
    encoder.Writes (encoder.encodeMetrics status metrics) (status.gauges ++ metrics.samples) := by
  have counters : encoder.Writes (fun buffer => (.ok (),encoder.encodeCounters metrics buffer)) metrics.samples :=
    fun buffer => ⟨rfl,samples_encodeCounters lawful metrics buffer⟩
  exact (lawful.gaugeVec _ _).andThen ((lawful.value _ _ _).andThen ((lawful.encodeGauge _ _ _).andThen
    ((lawful.encodeGauge _ _ _).andThen ((lawful.encodeGauge _ _ _).andThen counters))))

theorem metricsResponse_eq (lawful : encoder.Lawful) (status : CanisterStatus) (metrics : Metrics) :
    ∃ body, encoder.metricsResponse status metrics = .ok "text/plain; version=0.0.4" body ∧
      encoder.samples body = status.gauges ++ metrics.samples := by
  obtain ⟨done,written⟩ := encodeMetrics_writes lawful status metrics (encoder.new (status.time.toInt64/1000000))
  rw [lawful.new,List.nil_append] at written
  refine ⟨_,?_,written⟩
  unfold metricsResponse
  split
  · rename_i writer same
    rw [same]
  · rename_i err writer same
    rw [same] at done
    cases done

end MetricsEncoder
end Writing

section Entries
variable {metrics : Metrics} {family : MetricFamily} {entry : MetricEntry}

theorem family_of_mem_entriesIn (inside : entry ∈ metrics.entriesIn family) : entry.family = family := by
  cases family <;>
  · obtain ⟨_,_,rfl⟩ := List.mem_map.mp inside
    rfl

private theorem nodup_entriesOf {κ ν : Type} [MetricLabels κ] (names : NamesKeys κ) (family : MetricFamily)
    (map : Counters κ ν) (count : ν → ℕ) : ((entriesOf family map count).map MetricEntry.labels).Nodup := by
  have labels : (entriesOf family map count).map MetricEntry.labels = map.keys.map metricLabels := by
    rw [entriesOf,AList.keys,List.keys,List.map_map,List.map_map]
    rfl
  rw [labels]
  exact map.keys_nodup.map names.injective

theorem nodup_entriesIn (metrics : Metrics) (family : MetricFamily) :
    ((metrics.entriesIn family).map MetricEntry.labels).Nodup := by
  cases family with
  | requests => exact nodup_entriesOf namesKeys_target _ _ _
  | responses => exact nodup_entriesOf namesKeys_status _ _ _
  | inconsistentResponses => exact nodup_entriesOf namesKeys_target _ _ _
  | cyclesCharged => exact nodup_entriesOf namesKeys_target _ _ _
  | errHttpOutcall => exact nodup_entriesOf namesKeys_code _ _ _
  | errMaxResponseSizeExceeded => exact nodup_entriesOf namesKeys_target _ _ _

theorem metricName_injective : Function.Injective MetricFamily.metricName := by
  intro family other same
  cases family <;> cases other <;> first | rfl | simp [MetricFamily.metricName] at same

/-- Entries of one map differ in their labels, and those of two maps in their names. -/
theorem nodup_entries (metrics : Metrics) :
    (metrics.entries.map (fun entry => (entry.family.metricName,entry.labels))).Nodup := by
  rw [Metrics.entries,List.map_flatMap,List.nodup_flatMap]
  constructor
  · intro family _
    refine List.Nodup.of_map Prod.snd ?_
    rw [List.map_map]
    exact nodup_entriesIn metrics family
  · have distinct : MetricFamily.all.Nodup := by decide
    refine distinct.imp (fun {family other} apart shared first second => ?_)
    obtain ⟨entry,inside,rfl⟩ := List.mem_map.mp first
    obtain ⟨entry',inside',same⟩ := List.mem_map.mp second
    have names := metricName_injective (congrArg Prod.fst same)
    rw [family_of_mem_entriesIn inside,family_of_mem_entriesIn inside'] at names
    exact apart names.symm

theorem labels_of_mem_entries (inside : entry ∈ metrics.entries) : ∃ method rest, entry.labels = ("method",method)::rest := by
  obtain ⟨family,_,inside⟩ := List.mem_flatMap.mp inside
  cases family <;>
  · obtain ⟨_,_,rfl⟩ := List.mem_map.mp inside
    exact ⟨_,_,rfl⟩

theorem labels_of_mem_gauges {status : CanisterStatus} {sample : Sample} (inside : sample ∈ status.gauges)
    (method : String) (rest : List (String × String)) : sample.labels ≠ ("method",method)::rest := by
  simp only [CanisterStatus.gauges,List.mem_cons,List.not_mem_nil,or_false] at inside
  rcases inside with rfl | rfl | rfl | rfl <;> simp

theorem length_entries (metrics : Metrics) :
    metrics.entries.length = metrics.samples.length+metrics.errMaxResponseSizeExceeded.entries.length := by
  simp only [Metrics.entries,Metrics.samples,MetricFamily.all,List.flatMap_cons,List.flatMap_nil,List.length_append,
    List.length_map,Metrics.entriesIn,entriesOf,List.length_nil]
  omega

/-- A page with as many samples as there are names and labels to show has no room for one
map more. -/
theorem empty_of_publishedIn {status : CanisterStatus} (published : metrics.PublishedIn (status.gauges ++ metrics.samples)) :
    metrics.errMaxResponseSizeExceeded = ∅ := by
  obtain ⟨name,shown,distinct⟩ := published
  have among : metrics.entries.map (fun entry => (name entry.family,entry.labels)) ⊆
      metrics.samples.map (fun sample => (sample.name,sample.labels)) := by
    intro named inside
    obtain ⟨entry,member,rfl⟩ := List.mem_map.mp inside
    obtain ⟨sample,written,title,labels,_⟩ := shown entry member
    obtain ⟨method,rest,start⟩ := labels_of_mem_entries member
    rcases List.mem_append.mp written with gauge | counter
    · exact absurd (labels.trans start) (labels_of_mem_gauges gauge method rest)
    · exact List.mem_map.mpr ⟨sample,counter,by rw [title,labels]⟩
  have few := (List.subperm_of_subset distinct among).length_le
  rw [List.length_map,List.length_map,length_entries] at few
  have none : metrics.errMaxResponseSizeExceeded.entries = [] := List.length_eq_zero_iff.mp (by omega)
  exact AList.ext none

theorem publishedIn_of_empty (status : CanisterStatus) (small : ∀ entry ∈ metrics.entries, entry.count < 2^53)
    (empty : metrics.errMaxResponseSizeExceeded = ∅) : metrics.PublishedIn (status.gauges ++ metrics.samples) := by
  refine ⟨MetricFamily.metricName,fun entry inside => ?_,nodup_entries metrics⟩
  refine ⟨entry.sample,List.mem_append_right _ (List.mem_map_of_mem ?_),rfl,rfl,F64.value_ofNat (small entry inside)⟩
  obtain ⟨family,listed,inside⟩ := List.mem_flatMap.mp inside
  refine List.mem_flatMap.mpr ⟨family,?_,inside⟩
  cases family with
  | errMaxResponseSizeExceeded =>
    have nothing : metrics.entriesIn .errMaxResponseSizeExceeded = [] := by
      rw [Metrics.entriesIn,empty]
      rfl
    rw [nothing] at inside
    cases inside
  | _ => decide

end Entries

section Page
variable {W : Type} {encoder : MetricsEncoder W}

theorem published_iff_publishedIn (lawful : encoder.Lawful) (status : CanisterStatus) (metrics : Metrics) :
    metrics.Published encoder status ↔ metrics.PublishedIn (status.gauges ++ metrics.samples) := by
  obtain ⟨body,answered,samples⟩ := MetricsEncoder.metricsResponse_eq lawful status metrics
  rw [← samples]
  constructor
  · rintro ⟨contentType,other,same,published⟩
    cases answered.symm.trans same
    exact published
  · intro published
    exact ⟨_,body,answered,published⟩

/-- All counters are on the page exactly when no response was too large. -/
theorem metrics_published_iff (lawful : encoder.Lawful) (status : CanisterStatus) (metrics : Metrics)
    (small : ∀ entry ∈ metrics.entries, entry.count < 2^53) :
    metrics.Published encoder status ↔ metrics.errMaxResponseSizeExceeded = ∅ := by
  rw [published_iff_publishedIn lawful]
  exact ⟨empty_of_publishedIn,publishedIn_of_empty status small⟩

end Page

structure MetricsText where
  nowMillis : Int64
  text : String
  samples : List Sample

namespace MetricsText

def header (kind name help : String) (page : MetricsText) : Except String Unit × MetricsText :=
  (.ok (),{page with text := page.text ++ s!"# HELP {name} {help}\n# TYPE {name} {kind}\n"})

/-- Label values need no escapes here. -/
def line (name : String) (labels : List (String × String)) (value : F64) (page : MetricsText) :
    Except String Unit × MetricsText :=
  let pairs := ",".intercalate (labels.map (fun label => label.1 ++ "=\"" ++ label.2 ++ "\""))
  let labelled := if labels.isEmpty then name else name ++ "\x7b" ++ pairs ++ "\x7d"
  (.ok (),{page with
    text := page.text ++ s!"{labelled} {value.value} {page.nowMillis}\n"
    samples := page.samples ++ [⟨name,labels,value⟩]})

end MetricsText

namespace MetricsEncoder

def reference : MetricsEncoder MetricsText where
  new nowMillis := ⟨nowMillis,"",[]⟩
  gaugeVec name help := MetricsText.header "gauge" name help
  counterVec name help := MetricsText.header "counter" name help
  value := MetricsText.line
  encodeGauge name value help := andThen (MetricsText.header "gauge" name help) (MetricsText.line name [] value)
  samples := MetricsText.samples

theorem reference_lawful : reference.Lawful where
  new _ := rfl
  gaugeVec _ _ _ := ⟨rfl,(List.append_nil _).symm⟩
  counterVec _ _ _ := ⟨rfl,(List.append_nil _).symm⟩
  value _ _ _ _ := ⟨rfl,rfl⟩
  encodeGauge _ _ _ _ := ⟨rfl,rfl⟩

end MetricsEncoder

theorem metrics_published_for_one_request :
    let metrics : Metrics :=
      {Metrics.default with requests := addMetricEntry ∅ (⟨"eth_call"⟩,⟨"rpc.test"⟩) 1}
    metrics.Published .reference ⟨0,0,1,1,1⟩ ↔ metrics.errMaxResponseSizeExceeded = ∅ := by
  intro metrics
  have entries : metrics.entries = [⟨.requests,[("method","eth_call"),("host","rpc.test")],1⟩] := by decide
  refine metrics_published_iff MetricsEncoder.reference_lawful ⟨0,0,1,1,1⟩ metrics ?_
  rw [entries]
  simp

private theorem counted_of_tooLarge {M : Type} {canhttp : Canhttp} {error : IcError} (large : canhttp.tooLarge error = true)
    (data : MetricData) (memory : Memory M) :
    (observe canhttp (α := Json) data (.error (.icError error)) memory).metrics.errMaxResponseSizeExceeded ≠ ∅ := by
  simp only [observe,onError,large,if_true]
  rw [addMetricEntry_one,Tally.increment]
  intro empty
  have found := congrArg (AList.lookup (data.method,data.host)) empty
  rw [AList.lookup_insert] at found
  cases found

/-- A response that was too large is counted but not on the page. -/
theorem large_response_is_not_published :
    ¬ (Runs.run (Canister.step .reference) (.initial .reference (.fresh ReferenceTimedMap.reference))
      [⟨1,.request (.custom ⟨"https://rpc.test",none⟩) gasPrice.body.text 1000 U128.MAX⟩,
        ⟨2,.requestReply 0 (.error ⟨.sysFatal,"Http body exceeds size limit of 1000 bytes."⟩)⟩]).memory.metrics.Published
      .reference ⟨3,0,1,1,1⟩ := by
  obtain ⟨started,middle,begun,_,_,_,waits⟩ := Canister.step_gasPrice
  have ended := @Canister.requestReply_of_waiting _ .reference middle 0 started waits
    (.error ⟨.sysFatal,"Http body exceeds size limit of 1000 bytes."⟩)
  have large : Canhttp.reference.tooLarge ⟨.sysFatal,"Http body exceeds size limit of 1000 bytes."⟩ = true := by decide
  rw [Runs.run,List.foldl_cons,Runs.advance_done _ begun,List.foldl_cons,Runs.advance_done _ ended,List.foldl_nil,
    published_iff_publishedIn MetricsEncoder.reference_lawful]
  exact fun published => counted_of_tooLarge large started.data middle.memory (empty_of_publishedIn published)

end EvmRpc
