import EvmRpc.Canister.Configuration
import EvmRpc.Types.Storable

/-! The override of provider urls over the life of the canister: validated when it is
installed, kept as JSON between upgrades and compiled again for every request. -/
namespace EvmRpc
open Library

section Cells
variable {M : Type} (timed : TimedSizedMap SupportedRpcService M) (regex : Regex) (serdeJson : SerdeJson)

/-- The values that the cells hold once they are opened again on their bytes. -/
def Memory.reloaded (memory : Memory M) : Outcome (Memory M) := do
  let filterBytes ← (LogFilter.storable serdeJson).toBytes memory.logFilter
  let logFilter ← (LogFilter.storable serdeJson).fromBytes filterBytes
  let overrideBytes ← (OverrideProvider.storable serdeJson).toBytes memory.overrideProvider
  let overrideProvider ← (OverrideProvider.storable serdeJson).fromBytes overrideBytes
  .done {memory with logFilter := logFilter, overrideProvider := overrideProvider}

def manageStored (memory : Memory M) : ManagementMessage → Outcome (Memory M)
  | .upgrade args => do
    let memory ← memory.reloaded serdeJson
    manage timed regex memory (.upgrade args)
  | message => manage timed regex memory message

def managedStored (messages : List ManagementMessage) : Memory M :=
  Runs.run (manageStored timed regex serdeJson) (.fresh timed) messages

variable {serdeJson}

theorem Memory.reloaded_eq (lawful : serdeJson.Lawful) (memory : Memory M) :
    memory.reloaded serdeJson = .done memory := by
  obtain ⟨filterBytes,filterWritten,filterRead,_⟩ := LogFilter.storable_spec lawful memory.logFilter
  obtain ⟨overrideBytes,overrideWritten,overrideRead,_⟩ := OverrideProvider.storable_spec lawful memory.overrideProvider
  simp only [Memory.reloaded,filterWritten,filterRead,overrideWritten,overrideRead,Outcome.done_bind]

/-- An upgrade finds what was stored before it. -/
theorem manageStored_eq (lawful : serdeJson.Lawful) : manageStored timed regex serdeJson = manage (M := M) timed regex := by
  funext memory message
  cases message with
  | install args => rfl
  | upgrade args => rw [manageStored,memory.reloaded_eq lawful,Outcome.done_bind]
  | updateApiKeys caller isController apiKeys => rfl

theorem managedStored_eq (lawful : serdeJson.Lawful) (messages : List ManagementMessage) :
    managedStored timed regex serdeJson messages = managed timed regex messages := by
  rw [managedStored,manageStored_eq timed regex lawful,managed]

end Cells

section Validation
variable {M : Type} {timed : TimedSizedMap SupportedRpcService M} {regex : Regex} {memory after : Memory M}

def OverrideProvider.Compiles (regex : Regex) (override : OverrideProvider) : Prop :=
  ∀ substitution, override.overrideUrl = some substitution →
    ∃ replaceAll, regex.compile substitution.pattern = .ok replaceAll

private theorem compiles_of_accepted {override : OverrideProvider} (accepted : (override.tryFrom regex).isOk = true) :
    override.Compiles regex := by
  intro substitution active
  simp only [OverrideProvider.tryFrom,active] at accepted
  cases compiled : regex.compile substitution.pattern with
  | error error => simp [compiled,Except.isOk,Except.toBool] at accepted
  | ok replaceAll => exact ⟨replaceAll,rfl⟩

private theorem postUpgrade_compiles {args : InstallArgs} (before : memory.overrideProvider.Compiles regex)
    (applied : postUpgrade regex args memory = .done after) : after.overrideProvider.Compiles regex := by
  rw [postUpgrade_eq] at applied
  split at applied
  · rename_i accepted
    cases applied
    cases given : args.overrideProvider with
    | none => simpa only [InstallArgs.applied,given,Option.getD_none] using before
    | some override =>
      simp only [InstallArgs.accepted,given] at accepted
      simpa only [InstallArgs.applied,given,Option.getD_some] using compiles_of_accepted accepted
  · cases applied

private theorem fresh_compiles : (Memory.fresh timed).overrideProvider.Compiles regex := by
  intro substitution active
  cases active

/-- What a message keeps of the override: no pattern is stored that does not compile. -/
theorem manage_compiles {message : ManagementMessage} (before : memory.overrideProvider.Compiles regex)
    (handled : manage timed regex memory message = .done after) : after.overrideProvider.Compiles regex := by
  cases message with
  | install args => exact postUpgrade_compiles fresh_compiles handled
  | upgrade args => exact @postUpgrade_compiles M regex (memory.upgraded timed) after args before handled
  | updateApiKeys caller isController apiKeys =>
    obtain ⟨_,_,rfl⟩ := updateApiKeys_eq_done.mp handled
    exact before

theorem managed_compiles (messages : List ManagementMessage) :
    (managed timed regex messages).overrideProvider.Compiles regex :=
  Runs.invariant (manage timed regex) (fun memory => memory.overrideProvider.Compiles regex) _ fresh_compiles
    (fun _ _ _ before handled => manage_compiles before handled) messages

end Validation

section Use
variable {M : Type} (timed : TimedSizedMap SupportedRpcService M) (regex : Regex) {serdeJson : SerdeJson}

private theorem apiWithOverride_of_trap {getApiKey : ProviderId → Option ApiKey} {override : OverrideProvider}
    {service : ResolvedRpcService} {message : String} (trapped : service.initialApi getApiKey = .trap message) :
    service.apiWithOverride regex getApiKey override = .trap message := by
  rw [ResolvedRpcService.apiWithOverride,trapped,Outcome.trap_bind]

private theorem apiWithOverride_of_apply {getApiKey : ProviderId → Option ApiKey} {override : OverrideProvider}
    {service : ResolvedRpcService} {api replaced : RpcApi} (initial : service.initialApi getApiKey = .done api)
    (applied : override.apply regex api = .ok replaced) :
    service.apiWithOverride regex getApiKey override = .done (.ok replaced) := by
  rw [ResolvedRpcService.apiWithOverride,initial,Outcome.done_bind,applied]

/-- Whatever was installed, the override that is stored applies to every service. With
a substitution only the rewritten url is left of an api. -/
theorem apiWithOverride_managedStored (lawful : serdeJson.Lawful) (messages : List ManagementMessage)
    (service : ResolvedRpcService) :
    let memory := managedStored timed regex serdeJson messages
    let resolved := service.apiWithOverride regex memory.getApiKey memory.overrideProvider
    (∀ error, resolved ≠ .done (.error error)) ∧
    (∀ message, service.initialApi memory.getApiKey = .trap message → resolved = .trap message) ∧
    (memory.overrideProvider.overrideUrl = none →
      ∀ api, service.initialApi memory.getApiKey = .done api → resolved = .done (.ok api)) ∧
    ∀ substitution, memory.overrideProvider.overrideUrl = some substitution →
      ∃ replaceAll, regex.compile substitution.pattern = .ok replaceAll ∧
        ∀ api, service.initialApi memory.getApiKey = .done api →
          resolved = .done (.ok ⟨replaceAll api.url substitution.replacement,none⟩) := by
  intro memory resolved
  have compiles : memory.overrideProvider.Compiles regex := by
    change (managedStored timed regex serdeJson messages).overrideProvider.Compiles regex
    rw [managedStored_eq timed regex lawful]
    exact managed_compiles messages
  have unchanged (inactive : memory.overrideProvider.overrideUrl = none) (api : RpcApi)
      (initial : service.initialApi memory.getApiKey = .done api) : resolved = .done (.ok api) :=
    apiWithOverride_of_apply regex initial (by simp only [OverrideProvider.apply,inactive])
  have rewritten (substitution : RegexSubstitution) (active : memory.overrideProvider.overrideUrl = some substitution) :
      ∃ replaceAll, regex.compile substitution.pattern = .ok replaceAll ∧
        ∀ api, service.initialApi memory.getApiKey = .done api →
          resolved = .done (.ok ⟨replaceAll api.url substitution.replacement,none⟩) := by
    obtain ⟨replaceAll,compiled⟩ := compiles substitution active
    refine ⟨replaceAll,compiled,fun api initial => ?_⟩
    exact apiWithOverride_of_apply regex initial (by simp only [OverrideProvider.apply,active,compiled])
  refine ⟨?_,fun message trapped => apiWithOverride_of_trap regex trapped,unchanged,rewritten⟩
  intro error failed
  cases initial : service.initialApi memory.getApiKey with
  | trap message =>
    have trapped : resolved = .trap message := apiWithOverride_of_trap regex initial
    cases trapped.symm.trans failed
  | done api =>
    cases active : memory.overrideProvider.overrideUrl with
    | none => cases (unchanged active api initial).symm.trans failed
    | some substitution =>
      obtain ⟨_,_,resolves⟩ := rewritten substitution active
      cases (resolves api initial).symm.trans failed

/-- Patterns stand for themselves, apart from an open group. -/
def unclosedRegex : Regex where
  compile pattern :=
    if pattern = "(" then .error "unclosed group" else .ok (fun text replacement => Text.replace pattern replacement text)

def overriding (override : Option OverrideProvider) : InstallArgs := ⟨none,none,none,override,none⟩

/-- A substitution, then an upgrade that is refused and one that says nothing of it. -/
def overrideMessages : List ManagementMessage := [
  .install (overriding (some ⟨some ⟨"https://","http://localhost/"⟩⟩)),
  .upgrade (overriding (some ⟨some ⟨"(",""⟩⟩)),.upgrade (overriding none)]

private theorem override_of_messages :
    (managedStored ReferenceTimedMap.reference unclosedRegex .reference overrideMessages).overrideProvider =
      ⟨some ⟨"https://","http://localhost/"⟩⟩ := by
  rw [managedStored_eq ReferenceTimedMap.reference unclosedRegex SerdeJson.reference_lawful]
  simp [overrideMessages,managed,Runs.run,Runs.advance,manage,postUpgrade_eq,InstallArgs.accepted,
    InstallArgs.applied,overriding,OverrideProvider.tryFrom,unclosedRegex,Except.isOk,Except.toBool,Memory.upgraded]

private theorem replaceAll_of_unclosedRegex {replaceAll : String → String → String}
    (compiled : unclosedRegex.compile "https://" = .ok replaceAll) :
    replaceAll "https://a.b" "http://localhost/" = "http://localhost/a.b" := by
  have known : unclosedRegex.compile "https://" = .ok (fun text replacement => Text.replace "https://" replacement text) := by
    simp [unclosedRegex]
  cases known.symm.trans compiled
  decide

theorem apiWithOverride_managedStored_for_bearer :
    (ResolvedRpcService.api ⟨"https://a.b",some [⟨"Authorization","Bearer key"⟩]⟩).apiWithOverride unclosedRegex
      (managedStored ReferenceTimedMap.reference unclosedRegex .reference overrideMessages).getApiKey
      (managedStored ReferenceTimedMap.reference unclosedRegex .reference overrideMessages).overrideProvider =
        .done (.ok ⟨"http://localhost/a.b",none⟩) := by
  obtain ⟨_,_,_,rewritten⟩ := apiWithOverride_managedStored ReferenceTimedMap.reference unclosedRegex
    SerdeJson.reference_lawful overrideMessages (.api ⟨"https://a.b",some [⟨"Authorization","Bearer key"⟩]⟩)
  obtain ⟨replaceAll,compiled,resolves⟩ := rewritten _ (congrArg _ override_of_messages)
  rw [resolves _ rfl,replaceAll_of_unclosedRegex compiled]

end Use
end EvmRpc
