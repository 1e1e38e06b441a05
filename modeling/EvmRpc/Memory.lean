import EvmRpc.Providers
import EvmRpc.Types.Metrics
import EvmRpc.Types.Override

/-! The cells of the canister: those that an upgrade resets and the stable ones. -/
namespace EvmRpc
open Library

structure Principal where
  bytes : List UInt8
  deriving DecidableEq, Repr

inductive LogFilter where
  | showAll
  | hideAll
  | showPattern (pattern : String)
  | hidePattern (pattern : String)
  deriving DecidableEq, Repr

def NODES_IN_SUBNET : UInt32 := 34

structure Memory (M : Type) where
  metrics : Metrics
  httpRequestCounter : UInt64
  okResultsTimestamps : SupportedRpcServiceUsage M
  isDemoActive : Bool
  apiKeyMap : ProviderId → Option ApiKey
  manageApiKeys : List Principal
  logFilter : LogFilter
  overrideProvider : OverrideProvider
  numSubnetNodes : UInt32

namespace Memory
variable {M : Type} (timed : TimedSizedMap SupportedRpcService M)

def fresh : Memory M where
  metrics := .default
  httpRequestCounter := 0
  okResultsTimestamps := .new timed
  isDemoActive := false
  apiKeyMap _ := none
  manageApiKeys := []
  logFilter := .showAll
  overrideProvider := .default
  numSubnetNodes := NODES_IN_SUBNET

/-- An upgrade keeps only the stable cells. -/
def upgraded (memory : Memory M) : Memory M :=
  {memory with metrics := .default, httpRequestCounter := 0, okResultsTimestamps := .new timed}

def getApiKey (memory : Memory M) (id : ProviderId) : Option ApiKey := memory.apiKeyMap id

def insertApiKey (memory : Memory M) (id : ProviderId) (key : ApiKey) : Memory M :=
  {memory with apiKeyMap := Function.update memory.apiKeyMap id (some key)}

def removeApiKey (memory : Memory M) (id : ProviderId) : Memory M :=
  {memory with apiKeyMap := Function.update memory.apiKeyMap id none}

def isApiKeyPrincipal (memory : Memory M) (principal : Principal) : Bool :=
  memory.manageApiKeys.contains principal

def popAll : List Principal → List Principal
  | [] => []
  | principal::principals => popAll (principal::principals).dropLast
termination_by principals => principals.length
decreasing_by simp

/-- The list is emptied from its end before the new principals are pushed. -/
def setApiKeyPrincipals (memory : Memory M) (newPrincipals : List Principal) : Memory M :=
  {memory with manageApiKeys :=
    newPrincipals.foldl (fun principals principal => principals ++ [principal]) (popAll memory.manageApiKeys)}

theorem popAll_eq_nil (principals : List Principal) : popAll principals = [] := by
  induction principals using popAll.induct with
  | case1 => rw [popAll]
  | case2 principal principals ih => rw [popAll,ih]

@[simp] theorem setApiKeyPrincipals_eq (memory : Memory M) (newPrincipals : List Principal) :
    memory.setApiKeyPrincipals newPrincipals = {memory with manageApiKeys := newPrincipals} := by
  have pushed (principals : List Principal) :
      newPrincipals.foldl (fun principals principal => principals ++ [principal]) principals =
        principals ++ newPrincipals := by
    induction newPrincipals generalizing principals with
    | nil => simp
    | cons principal newPrincipals ih => rw [List.foldl_cons,ih,List.append_assoc,List.singleton_append]
  rw [setApiKeyPrincipals,popAll_eq_nil,pushed,List.nil_append]

/-- The counter wraps around. -/
def nextRequestId (memory : Memory M) : UInt64 × Memory M :=
  (memory.httpRequestCounter,{memory with httpRequestCounter := memory.httpRequestCounter+1})

def recordOkResult (memory : Memory M) (now : Timestamp) (service : SupportedRpcService) : Memory M :=
  {memory with okResultsTimestamps := memory.okResultsTimestamps.recordEvict timed service now}

/-- The state after code that writes nothing but counters. -/
def Counted (memory after : Memory M) : Prop :=
  ∃ metrics counter, after = {memory with metrics := metrics, httpRequestCounter := counter}

theorem Counted.refl (memory : Memory M) : Counted memory memory := ⟨memory.metrics,memory.httpRequestCounter,rfl⟩

theorem Counted.trans {memory middle after : Memory M} (first : Counted memory middle) (second : Counted middle after) :
    Counted memory after := by
  obtain ⟨_,_,rfl⟩ := first
  obtain ⟨metrics,counter,rfl⟩ := second
  exact ⟨metrics,counter,rfl⟩

theorem Counted.usage {memory after : Memory M} (counted : Counted memory after) :
    after.okResultsTimestamps = memory.okResultsTimestamps := by
  obtain ⟨_,_,rfl⟩ := counted
  rfl

end Memory
end EvmRpc
