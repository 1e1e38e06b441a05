import EvmRpc.Canister.Management

/-! What configuration messages leave in the stable cells, read off the messages alone:
the last settings that were given, and the keys of the updates that succeeded. -/
namespace EvmRpc
open Library

/-- Arguments that do not trap: a pattern among them compiles. -/
def InstallArgs.accepted (regex : Regex) (args : InstallArgs) : Bool :=
  match args.overrideProvider with
  | none => true
  | some override => (override.tryFrom regex).isOk

/-- The arguments of the installations and upgrades that went through. -/
def givenArgs (regex : Regex) (messages : List ManagementMessage) : List InstallArgs :=
  messages.filterMap (fun message => match message with
    | .install args => if args.accepted regex then some args else none
    | .upgrade args => if args.accepted regex then some args else none
    | .updateApiKeys _ _ _ => none)

def lastGiven {α : Type} (setting : InstallArgs → Option α) (default : α) (given : List InstallArgs) : α :=
  (given.filterMap setting).getLastD default

/-- The caller is a controller or a member of the last list that was given. -/
def Permitted (regex : Regex) (past : List ManagementMessage) (caller : Principal) (isController : Bool) : Prop :=
  isController = true ∨ caller ∈ lastGiven InstallArgs.manageApiKeys [] (givenArgs regex past)

instance (regex : Regex) (past : List ManagementMessage) (caller : Principal) (isController : Bool) :
    Decidable (Permitted regex past caller isController) := inferInstanceAs (Decidable (_ ∨ _))

/-- An entry for a provider that uses keys, with a valid key if there is one. -/
def acceptableKey (entry : ProviderId × Option String) : Bool :=
  match findProvider (fun provider => provider.providerId = entry.1) with
  | none => false
  | some provider =>
    match provider.access with
    | .authenticated _ _ => entry.2.all (fun key => (ApiKey.tryFrom key).isOk)
    | .unauthenticated _ => false

/-- The updates in a run that succeeded, after some messages that came before it. -/
def successfulUpdates (regex : Regex) : (past messages : List ManagementMessage) →
    List (List (ProviderId × Option String))
  | _,[] => []
  | past,.updateApiKeys caller isController apiKeys::messages =>
    (if Permitted regex past caller isController ∧ apiKeys.all acceptableKey then [apiKeys] else []) ++
      successfulUpdates regex (past ++ [.updateApiKeys caller isController apiKeys]) messages
  | past,message::messages => successfulUpdates regex (past ++ [message]) messages

def storeKey (keys : ProviderId → Option ApiKey) (entry : ProviderId × Option String) : ProviderId → Option ApiKey :=
  Function.update keys entry.1 (entry.2.bind (fun key => (ApiKey.tryFrom key).toOption))

/-- The stable cells hold what the messages say. -/
structure Configured {M : Type} (regex : Regex) (messages : List ManagementMessage) (memory : Memory M) : Prop where
  apiKeys : memory.apiKeyMap =
    (successfulUpdates regex [] messages).foldl (fun keys apiKeys => apiKeys.foldl storeKey keys) (fun _ => none)
  principals : memory.manageApiKeys = lastGiven InstallArgs.manageApiKeys [] (givenArgs regex messages)
  demo : memory.isDemoActive = lastGiven InstallArgs.demo false (givenArgs regex messages)
  logFilter : memory.logFilter = lastGiven InstallArgs.logFilter .showAll (givenArgs regex messages)
  overrideProvider : memory.overrideProvider =
    lastGiven InstallArgs.overrideProvider .default (givenArgs regex messages)
  nodes : memory.numSubnetNodes = lastGiven InstallArgs.nodesInSubnet NODES_IN_SUBNET (givenArgs regex messages)

section Messages
variable {M : Type} {timed : TimedSizedMap SupportedRpcService M} {regex : Regex} {memory after : Memory M}

def InstallArgs.applied (args : InstallArgs) (memory : Memory M) : Memory M :=
  {memory with
    isDemoActive := args.demo.getD memory.isDemoActive
    manageApiKeys := args.manageApiKeys.getD memory.manageApiKeys
    logFilter := args.logFilter.getD memory.logFilter
    overrideProvider := args.overrideProvider.getD memory.overrideProvider
    numSubnetNodes := args.nodesInSubnet.getD memory.numSubnetNodes}

private theorem tryFrom_eq_ok {override valid : OverrideProvider} (compiled : override.tryFrom regex = .ok valid) :
    valid = override := by
  obtain ⟨substitution⟩ := override
  cases substitution with
  | none =>
    cases compiled
    rfl
  | some substitution =>
    simp only [OverrideProvider.tryFrom] at compiled
    split at compiled
    · cases compiled
    · cases compiled
      rfl

theorem postUpgrade_eq (regex : Regex) (args : InstallArgs) (memory : Memory M) : postUpgrade regex args memory =
    if args.accepted regex then .done (args.applied memory) else .trap "ERROR: invalid override provider" := by
  obtain ⟨demo,principals,filter,override,nodes⟩ := args
  cases override with
  | none =>
    cases demo <;> cases principals <;> cases filter <;> cases nodes <;>
      simp [postUpgrade,InstallArgs.accepted,InstallArgs.applied]
  | some override =>
    cases compiled : override.tryFrom regex with
    | error message => simp [postUpgrade,InstallArgs.accepted,compiled,Outcome.expect,Except.isOk,Except.toBool]
    | ok valid =>
      obtain rfl := tryFrom_eq_ok compiled
      cases demo <;> cases principals <;> cases filter <;> cases nodes <;>
        simp [postUpgrade,InstallArgs.accepted,InstallArgs.applied,compiled,Outcome.expect,Except.isOk,Except.toBool]

private theorem updateApiKey_eq_done {entry : ProviderId × Option String} : updateApiKey memory entry = .done after ↔
    acceptableKey entry = true ∧ after = {memory with apiKeyMap := storeKey memory.apiKeyMap entry} := by
  obtain ⟨id,key⟩ := entry
  unfold updateApiKey acceptableKey storeKey
  rw [@eq_comm _ after]
  cases found : findProvider (fun provider => provider.providerId = id) with
  | none => simp [Outcome.ofOption,found]
  | some provider =>
    cases access : provider.access with
    | unauthenticated url => simp [Outcome.ofOption,found,access]
    | authenticated auth publicUrl =>
      cases key with
      | none => simp [Outcome.ofOption,found,access,Memory.removeApiKey]
      | some key =>
        cases valid : ApiKey.tryFrom key with
        | error message => simp [Outcome.ofOption,found,access,valid,Outcome.expect,Except.isOk,Except.toBool]
        | ok stored =>
          simp [Outcome.ofOption,found,access,valid,Outcome.expect,Except.isOk,Except.toBool,Except.toOption,
            Memory.insertApiKey]

/-- An update writes every key or none. -/
theorem updateApiKeys_eq_done {caller : Principal} {isController : Bool} {apiKeys : List (ProviderId × Option String)} :
    updateApiKeys caller isController apiKeys memory = .done after ↔
      (isController = true ∨ caller ∈ memory.manageApiKeys) ∧ apiKeys.all acceptableKey = true ∧
        after = {memory with apiKeyMap := apiKeys.foldl storeKey memory.apiKeyMap} := by
  have written : apiKeys.foldlM updateApiKey memory = .done after ↔
      apiKeys.all acceptableKey = true ∧ after = {memory with apiKeyMap := apiKeys.foldl storeKey memory.apiKeyMap} := by
    induction apiKeys generalizing memory with
    | nil => simp [eq_comm]
    | cons entry apiKeys ih =>
      rw [List.foldlM_cons,Outcome.bind_eq_done,List.all_cons,Bool.and_eq_true,List.foldl_cons]
      constructor
      · rintro ⟨next,first,rest⟩
        obtain ⟨fine,rfl⟩ := updateApiKey_eq_done.mp first
        obtain ⟨others,same⟩ := ih.mp rest
        exact ⟨⟨fine,others⟩,same⟩
      · rintro ⟨⟨fine,others⟩,same⟩
        exact ⟨_,updateApiKey_eq_done.mpr ⟨fine,rfl⟩,ih.mpr ⟨others,same⟩⟩
  have guard : (memory.isApiKeyPrincipal caller || isController) = true ↔
      isController = true ∨ caller ∈ memory.manageApiKeys := by
    simp [Memory.isApiKeyPrincipal,or_comm]
  unfold updateApiKeys
  split
  · rename_i permitted
    rw [written]
    simp [guard.mp permitted]
  · rename_i refused
    simp [mt guard.mpr refused]

end Messages

section Runs
variable {M : Type} {timed : TimedSizedMap SupportedRpcService M} {regex : Regex} {memory after : Memory M}
  {past : List ManagementMessage}

private theorem successfulUpdates_append (regex : Regex) (past messages : List ManagementMessage)
    (message : ManagementMessage) : successfulUpdates regex past (messages ++ [message]) =
      successfulUpdates regex past messages ++ successfulUpdates regex (past ++ messages) [message] := by
  induction messages generalizing past with
  | nil => simp [successfulUpdates]
  | cons first messages ih =>
    cases first <;> simp [successfulUpdates,ih,List.append_assoc]

private theorem lastGiven_append {α : Type} (setting : InstallArgs → Option α) (default : α) (given : List InstallArgs)
    (args : InstallArgs) :
    lastGiven setting default (given ++ [args]) = (setting args).getD (lastGiven setting default given) := by
  unfold lastGiven
  cases shown : setting args <;> simp [shown]

private theorem Configured.withKeys (configured : Configured regex past memory) {message : ManagementMessage}
    (given : givenArgs regex [message] = []) {keys : ProviderId → Option ApiKey}
    (stored : keys = (successfulUpdates regex past [message]).foldl (fun keys apiKeys => apiKeys.foldl storeKey keys)
      memory.apiKeyMap) :
    Configured regex (past ++ [message]) {memory with apiKeyMap := keys} := by
  have args : givenArgs regex (past ++ [message]) = givenArgs regex past := by
    rw [givenArgs,List.filterMap_append]
    exact (congrArg (givenArgs regex past ++ ·) given).trans (List.append_nil _)
  refine ⟨?_,?_,?_,?_,?_,?_⟩
  · rw [successfulUpdates_append,List.foldl_append,List.nil_append,← configured.apiKeys]
    exact stored
  all_goals rw [args]
  · exact configured.principals
  · exact configured.demo
  · exact configured.logFilter
  · exact configured.overrideProvider
  · exact configured.nodes

private theorem postUpgrade_configured {message : ManagementMessage} {args : InstallArgs} {base : Memory M}
    (configured : Configured regex past memory) (cells : Configured regex past base)
    (handled : manage timed regex memory message = postUpgrade regex args base)
    (given : givenArgs regex [message] = if args.accepted regex then [args] else [])
    (silent : successfulUpdates regex past [message] = []) :
    Configured regex (past ++ [message]) (Runs.advance (manage timed regex) memory message) := by
  rw [postUpgrade_eq] at handled
  by_cases accepted : args.accepted regex = true
  · rw [if_pos accepted] at handled given
    rw [Runs.advance_done _ handled]
    have appended : givenArgs regex (past ++ [message]) = givenArgs regex past ++ [args] := by
      rw [← given]
      exact List.filterMap_append ..
    refine ⟨?_,?_,?_,?_,?_,?_⟩
    · rw [successfulUpdates_append,List.nil_append,silent,List.append_nil]
      exact cells.apiKeys
    all_goals rw [appended,lastGiven_append]
    · rw [← cells.principals]
      rfl
    · rw [← cells.demo]
      rfl
    · rw [← cells.logFilter]
      rfl
    · rw [← cells.overrideProvider]
      rfl
    · rw [← cells.nodes]
      rfl
  · rw [if_neg accepted] at handled given
    rw [Runs.advance_trap _ handled]
    exact configured.withKeys given (by rw [silent]; rfl)

theorem updateApiKeys_configured (configured : Configured regex past memory) (caller : Principal)
    (isController : Bool) (apiKeys : List (ProviderId × Option String)) :
    Configured regex (past ++ [.updateApiKeys caller isController apiKeys])
      (Runs.advance (manage timed regex) memory (.updateApiKeys caller isController apiKeys)) := by
  have spec (after : Memory M) : manage timed regex memory (.updateApiKeys caller isController apiKeys) = .done after ↔
      (Permitted regex past caller isController ∧ apiKeys.all acceptableKey = true) ∧
        after = {memory with apiKeyMap := apiKeys.foldl storeKey memory.apiKeyMap} := by
    rw [Permitted,← configured.principals,and_assoc]
    exact updateApiKeys_eq_done
  by_cases succeeds : Permitted regex past caller isController ∧ apiKeys.all acceptableKey = true
  · rw [Runs.advance_done _ ((spec _).mpr ⟨succeeds,rfl⟩)]
    exact configured.withKeys rfl (by simp [successfulUpdates,succeeds])
  · cases handled : manage timed regex memory (.updateApiKeys caller isController apiKeys) with
    | done after => exact absurd ((spec after).mp handled).1 succeeds
    | trap message =>
      rw [Runs.advance_trap _ handled]
      exact configured.withKeys rfl (by rw [successfulUpdates,if_neg succeeds]; rfl)

theorem fresh_configured (timed : TimedSizedMap SupportedRpcService M) (regex : Regex) :
    Configured regex [] (Memory.fresh timed) := ⟨rfl,rfl,rfl,rfl,rfl,rfl⟩

/-- A canister that was installed once holds what its messages say. -/
theorem managed_configured (timed : TimedSizedMap SupportedRpcService M) (regex : Regex) (first : InstallArgs)
    (later : List ManagementMessage) (once : ∀ message ∈ later, ∀ args, message ≠ .install args) :
    Configured regex (.install first::later) (managed timed regex (.install first::later)) := by
  induction later using List.reverseRecOn with
  | nil =>
    refine postUpgrade_configured (fresh_configured timed regex) (fresh_configured timed regex) rfl ?_ rfl
    by_cases accepted : first.accepted regex = true <;> simp [givenArgs,accepted]
  | append_singleton later message ih =>
    have before := ih (fun earlier inside => once earlier (List.mem_append_left _ inside))
    rw [← List.cons_append,managed,Runs.run_concat]
    cases message with
    | install args => exact absurd rfl (once (.install args) (by simp) args)
    | upgrade args =>
      have kept : Configured regex (.install first::later) ((managed timed regex (.install first::later)).upgraded timed) :=
        ⟨before.apiKeys,before.principals,before.demo,before.logFilter,before.overrideProvider,before.nodes⟩
      refine postUpgrade_configured before kept rfl ?_ rfl
      by_cases accepted : args.accepted regex = true <;> simp [givenArgs,accepted]
    | updateApiKeys caller isController apiKeys => exact updateApiKeys_configured before caller isController apiKeys

/-- Keys are changed by the updates that succeed, which permitted callers make, and by nothing
else. All other settings are the last ones that were given. -/
theorem keys_change_by_permitted_updates (timed : TimedSizedMap SupportedRpcService M) (regex : Regex)
    (first : InstallArgs) (later : List ManagementMessage) (once : ∀ message ∈ later, ∀ args, message ≠ .install args) :
    let messages := .install first::later
    let memory := managed timed regex messages
    Configured regex messages memory ∧
    (∀ principal, memory.isApiKeyPrincipal principal = true ↔
      principal ∈ lastGiven InstallArgs.manageApiKeys [] (givenArgs regex messages)) ∧
    (∀ args, (managed timed regex (messages ++ [.upgrade args])).apiKeyMap = memory.apiKeyMap) ∧
    ∀ caller isController apiKeys,
      (∃ after, manage timed regex memory (.updateApiKeys caller isController apiKeys) = .done after) ↔
        Permitted regex messages caller isController ∧ apiKeys.all acceptableKey = true := by
  intro messages memory
  have configured : Configured regex messages memory := managed_configured timed regex first later once
  refine ⟨configured,?_,?_,?_⟩
  · intro principal
    rw [← configured.principals]
    exact List.contains_iff_mem
  · intro args
    have upgraded := managed_configured timed regex first (later ++ [.upgrade args]) (by
      intro message inside other same
      rcases List.mem_append.mp inside with earlier | last
      · exact once message earlier other same
      · cases (List.mem_singleton.mp last).symm.trans same)
    rw [configured.apiKeys]
    refine upgraded.apiKeys.trans ?_
    rw [← List.cons_append,successfulUpdates_append]
    exact congrArg (List.foldl _ _) (List.append_nil _)
  · intro caller isController apiKeys
    rw [Permitted,← configured.principals]
    constructor
    · rintro ⟨after,handled⟩
      obtain ⟨permitted,acceptable,_⟩ := updateApiKeys_eq_done.mp handled
      exact ⟨permitted,acceptable⟩
    · rintro ⟨permitted,acceptable⟩
      exact ⟨_,updateApiKeys_eq_done.mpr ⟨permitted,acceptable,rfl⟩⟩

theorem keys_change_by_permitted_updates_for_upgrade :
    let regex : Regex := ⟨fun _ => .error ""⟩
    let messages : List ManagementMessage := [.install ⟨none,some [⟨[1]⟩],none,none,none⟩,
      .updateApiKeys ⟨[1]⟩ false [(1,some "key")],.upgrade ⟨none,some [],none,none,none⟩,
      .updateApiKeys ⟨[1]⟩ false [(1,none)]]
    let memory := managed ReferenceTimedMap.reference regex messages
    Configured regex messages memory ∧
    (∀ principal, memory.isApiKeyPrincipal principal = true ↔
      principal ∈ lastGiven InstallArgs.manageApiKeys [] (givenArgs regex messages)) ∧
    (∀ args, (managed ReferenceTimedMap.reference regex (messages ++ [.upgrade args])).apiKeyMap = memory.apiKeyMap) ∧
    ∀ caller isController apiKeys,
      (∃ after, manage ReferenceTimedMap.reference regex memory (.updateApiKeys caller isController apiKeys) =
        .done after) ↔ Permitted regex messages caller isController ∧ apiKeys.all acceptableKey = true :=
  keys_change_by_permitted_updates ReferenceTimedMap.reference ⟨fun _ => .error ""⟩
    ⟨none,some [⟨[1]⟩],none,none,none⟩ _ (by simp)

end Runs
end EvmRpc
