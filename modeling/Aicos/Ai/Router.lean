import Mathlib.Data.List.Basic

namespace Aicos.Ai

/-! `AiRouter`: the chain of a route, and the walk along it until a provider answers. -/

inductive AiProviderName where
  | anthropic | openai | gemini
deriving DecidableEq

def AiProviderName.text : AiProviderName → String
  | .anthropic => "anthropic"
  | .openai => "openai"
  | .gemini => "gemini"

inductive AiCapability where
  | chat | vision | embed
deriving DecidableEq

def AiCapability.text : AiCapability → String
  | .chat => "chat"
  | .vision => "vision"
  | .embed => "embed"

inductive AiTaskAlias where
  | extractionPrimary | extractionFallback | content | contentFallback | chat | vision | embed
deriving DecidableEq

def AiTaskAlias.text : AiTaskAlias → String
  | .extractionPrimary => "extraction.primary"
  | .extractionFallback => "extraction.fallback"
  | .content => "content"
  | .contentFallback => "content.fallback"
  | .chat => "chat"
  | .vision => "vision"
  | .embed => "embed"

structure AliasDefinition where
  capability : AiCapability
  chain : List AiProviderName

def defaultFallbackChain : List AiProviderName := [.gemini, .anthropic, .openai]

/-- `ALIASES`; every alias has a definition. -/
def resolveAlias : AiTaskAlias → AliasDefinition
  | .extractionPrimary => { capability := .vision, chain := [.gemini, .anthropic, .openai] }
  | .extractionFallback => { capability := .vision, chain := [.anthropic, .openai] }
  | .content => { capability := .chat, chain := [.anthropic, .openai, .gemini] }
  | .contentFallback => { capability := .chat, chain := [.openai, .gemini] }
  | .chat => { capability := .chat, chain := [.gemini, .anthropic, .openai] }
  | .vision => { capability := .vision, chain := [.gemini, .anthropic, .openai] }
  | .embed => { capability := .embed, chain := [.openai, .gemini] }

structure AiUsage where
  provider : AiProviderName
  model : String
  inputTokens : Nat
  outputTokens : Nat
  totalTokens : Nat

/-- A provider that was skipped, and why. -/
structure Fallback where
  provider : AiProviderName
  reason : String

structure UsageEvent where
  taskAlias : Option AiTaskAlias
  capability : AiCapability
  provider : AiProviderName
  usage : AiUsage
  latencyMs : Nat
  fallbacksTried : List Fallback

structure RouteOptions where
  taskAlias : Option AiTaskAlias
  provider : Option AiProviderName

/-- What a call can throw: the signal to try the next provider, or another error. -/
inductive Thrown (ε : Type) where
  | notImplemented
  | other (error : ε)

/-- The code of `NotImplementedError`. -/
def notImplementedCode : String := "AI_NOT_IMPLEMENTED"

inductive DispatchError (ε : Type) where
  | aliasMismatch (taskAlias : AiTaskAlias) (expected capability : AiCapability)
  | noProviderAvailable (capability : AiCapability) (chain : String) (fallbacksTried : List Fallback)
      (taskAlias : Option AiTaskAlias)
  | thrown (error : ε)

def DispatchError.message {ε : Type} (describe : ε → String) : DispatchError ε → String
  | .aliasMismatch taskAlias expected capability =>
      "@aicos/ai-core: alias \"" ++ taskAlias.text ++ "\" is for \"" ++ expected.text ++ "\", not \"" ++
        capability.text ++ "\""
  | .noProviderAvailable capability chain _ taskAlias =>
      "@aicos/ai-core: no provider could handle \"" ++ capability.text ++ "\"" ++
        (match taskAlias with
          | some taskAlias => " (alias \"" ++ taskAlias.text ++ "\")"
          | none => "") ++
        " — tried: " ++ chain
  | .thrown error => describe error

/-- A router over adapters `π`.  Its callback returns nothing, or throws. -/
structure AiRouter (π ε : Type) where
  providers : AiProviderName → Option π
  onUsage : Option (UsageEvent → Option (Thrown ε))
  defaultChain : List AiProviderName := defaultFallbackChain

/-- What the adapters answer and the clock shows when an entry of the chain is reached. -/
structure Answers (π ρ ε : Type) where
  supports : Nat → π → AiCapability → Bool
  call : Nat → π → Except (Thrown ε) ρ
  latencyMs : Nat → Nat

structure Dispatch (ρ ε : Type) where
  outcome : Except (DispatchError ε) ρ
  called : List AiProviderName
  events : List UsageEvent

/-- How far the walk has come. -/
structure Progress where
  position : Nat := 0
  fallbacksTried : List Fallback := []
  called : List AiProviderName := []
  events : List UsageEvent := []

section Dispatch

variable {π ρ ε : Type} (router : AiRouter π ε) (answers : Answers π ρ ε) (usage : ρ → AiUsage)
  (capability : AiCapability)

def resolveChain (route : RouteOptions) : Except (DispatchError ε) (List AiProviderName × Option AiTaskAlias) :=
  match route.provider with
  | some provider => .ok ([provider], none)
  | none =>
      match route.taskAlias with
      | some taskAlias =>
          if (resolveAlias taskAlias).capability ≠ capability then
            .error (.aliasMismatch taskAlias (resolveAlias taskAlias).capability capability)
          else .ok ((resolveAlias taskAlias).chain, some taskAlias)
      | none => .ok (router.defaultChain, none)

variable (taskAlias : Option AiTaskAlias)

def unsupported : String := "does not support " ++ capability.text

def usageEvent (progress : Progress) (name : AiProviderName) (value : ρ) : UsageEvent :=
  { taskAlias := taskAlias, capability := capability, provider := name, usage := usage value
    latencyMs := answers.latencyMs progress.position, fallbacksTried := progress.fallbacksTried }

/-- The `try` block, with the event that it emits.  The callback runs inside of it. -/
def attempt (progress : Progress) (name : AiProviderName) (provider : π) : Except (Thrown ε) ρ × List UsageEvent :=
  match answers.call progress.position provider with
  | .error thrown => (.error thrown, [])
  | .ok value =>
      match router.onUsage with
      | none => (.ok value, [])
      | some onUsage =>
          let event := usageEvent answers usage capability taskAlias progress name value
          match onUsage event with
          | none => (.ok value, [event])
          | some thrown => (.error thrown, [event])

/-- The chain as the error shows it. -/
def attempted (chain : List AiProviderName) : String :=
  " → ".intercalate (chain.map AiProviderName.text)

def Progress.skip (progress : Progress) (name : AiProviderName) (reason : String) : Progress :=
  { progress with position := progress.position + 1, fallbacksTried := progress.fallbacksTried ++ [⟨name, reason⟩] }

/-- The loop over the chain. -/
def walk (chain : List AiProviderName) : Progress → List AiProviderName → Dispatch ρ ε
  | progress, [] =>
      { outcome := .error (.noProviderAvailable capability (attempted chain) progress.fallbacksTried taskAlias)
        called := progress.called, events := progress.events }
  | progress, name :: rest =>
      match router.providers name with
      | none => walk chain (progress.skip name "not registered") rest
      | some provider =>
          if ¬ answers.supports progress.position provider capability then
            walk chain (progress.skip name (unsupported capability)) rest
          else
            let tried := attempt router answers usage capability taskAlias progress name provider
            let called := progress.called ++ [name]
            let events := progress.events ++ tried.2
            match tried.1 with
            | .ok value => { outcome := .ok value, called := called, events := events }
            | .error .notImplemented =>
                walk chain { progress.skip name notImplementedCode with called := called, events := events } rest
            | .error (.other error) => { outcome := .error (.thrown error), called := called, events := events }

def dispatch (route : RouteOptions) : Dispatch ρ ε :=
  match resolveChain router capability route with
  | .error error => { outcome := .error error, called := [], events := [] }
  | .ok (chain, taskAlias) => walk router answers usage capability taskAlias chain {} chain

end Dispatch

section Walk

variable {π ρ ε : Type} (router : AiRouter π ε) (answers : Answers π ρ ε) (usage : ρ → AiUsage)
  (capability : AiCapability)

/-- Why the walk goes on from an entry of the chain to the next. -/
inductive PassedOver (position : Nat) (name : AiProviderName) : String → Prop where
  | notRegistered (missing : router.providers name = none) : PassedOver position name "not registered"
  | unsupported {provider : π} (registered : router.providers name = some provider)
      (refused : answers.supports position provider capability = false) :
      PassedOver position name (unsupported capability)
  | notImplemented {provider : π} (registered : router.providers name = some provider)
      (supported : answers.supports position provider capability = true)
      (signal : answers.call position provider = .error .notImplemented) :
      PassedOver position name notImplementedCode

/-- The entries of a chain, from its start, each with the reason why it was passed over. -/
structure PassesOver (names : List AiProviderName) (fallbacks : List Fallback) : Prop where
  entries : fallbacks.map (·.provider) = names
  reasons : ∀ i fallback, fallbacks[i]? = some fallback →
    PassedOver router answers capability i fallback.provider fallback.reason

/-- Of the providers that were passed over, those that were called. -/
def calledAmong (fallbacks : List Fallback) : List AiProviderName :=
  (fallbacks.filter fun fallback => fallback.reason = notImplementedCode).map (·.provider)

/-- What becomes of a chain: the first provider that is not passed over decides, if there is one. -/
inductive Dispatched (taskAlias : Option AiTaskAlias) (chain : List AiProviderName) : Dispatch ρ ε → Prop where
  | returned {skipped rest : List AiProviderName} {name : AiProviderName} {fallbacks : List Fallback} {provider : π}
      {value : ρ} (split : chain = skipped ++ name :: rest)
      (passed : PassesOver router answers capability skipped fallbacks)
      (registered : router.providers name = some provider)
      (supported : answers.supports skipped.length provider capability = true)
      (result : answers.call skipped.length provider = .ok value) :
      Dispatched taskAlias chain
        { outcome := .ok value, called := calledAmong fallbacks ++ [name]
          events := [{ taskAlias := taskAlias, capability := capability, provider := name, usage := usage value
                       latencyMs := answers.latencyMs skipped.length, fallbacksTried := fallbacks }] }
  | threw {skipped rest : List AiProviderName} {name : AiProviderName} {fallbacks : List Fallback} {provider : π}
      {error : ε} (split : chain = skipped ++ name :: rest)
      (passed : PassesOver router answers capability skipped fallbacks)
      (registered : router.providers name = some provider)
      (supported : answers.supports skipped.length provider capability = true)
      (failure : answers.call skipped.length provider = .error (.other error)) :
      Dispatched taskAlias chain
        { outcome := .error (.thrown error), called := calledAmong fallbacks ++ [name], events := [] }
  | exhausted {fallbacks : List Fallback} (passed : PassesOver router answers capability chain fallbacks) :
      Dispatched taskAlias chain
        { outcome := .error (.noProviderAvailable capability (attempted chain) fallbacks taskAlias)
          called := calledAmong fallbacks, events := [] }

variable {router answers usage capability} {skipped rest : List AiProviderName} {name : AiProviderName}
  {reason : String} {fallbacks : List Fallback} {taskAlias : Option AiTaskAlias} {progress : Progress}

theorem PassesOver.length (passed : PassesOver router answers capability skipped fallbacks) :
    fallbacks.length = skipped.length := by
  rw [← passed.entries, List.length_map]

theorem PassesOver.concat (passed : PassesOver router answers capability skipped fallbacks)
    (last : PassedOver router answers capability skipped.length name reason) :
    PassesOver router answers capability (skipped ++ [name]) (fallbacks ++ [⟨name, reason⟩]) := by
  constructor
  · rw [List.map_append, passed.entries]
    rfl
  · intro i fallback there
    rcases Nat.lt_or_ge i fallbacks.length with before | after
    · rw [List.getElem?_append_left before] at there
      exact passed.reasons i fallback there
    · rw [List.getElem?_append_right after] at there
      obtain ⟨final, rfl⟩ : i - fallbacks.length = 0 ∧ ⟨name, reason⟩ = fallback := by
        simpa using List.getElem?_eq_some_iff.mp there
      have same : i = skipped.length := by
        rw [← passed.length]
        omega
      rw [same]
      exact last

/-- The walk has passed over these entries, has called those that it had to, and has emitted nothing. -/
structure Progress.Along (router : AiRouter π ε) (answers : Answers π ρ ε) (capability : AiCapability)
    (skipped : List AiProviderName) (progress : Progress) : Prop where
  position : progress.position = skipped.length
  passed : PassesOver router answers capability skipped progress.fallbacksTried
  called : progress.called = calledAmong progress.fallbacksTried
  silent : progress.events = []

theorem calledAmong_concat (fallbacks : List Fallback) (name : AiProviderName) (reason : String) :
    calledAmong (fallbacks ++ [⟨name, reason⟩]) =
      calledAmong fallbacks ++ if reason = notImplementedCode then [name] else [] := by
  rw [calledAmong, List.filter_append, List.map_append, ← calledAmong]
  by_cases signal : reason = notImplementedCode <;> simp [signal]

theorem unsupported_ne (capability : AiCapability) : unsupported capability ≠ notImplementedCode := by
  cases capability <;> decide

theorem Progress.Along.start : Progress.Along router answers capability [] {} where
  position := rfl
  passed := { entries := rfl, reasons := fun i fallback there => by cases there }
  called := rfl
  silent := rfl

/-- An entry that is skipped uncalled. -/
theorem Progress.Along.skip (along : progress.Along router answers capability skipped)
    (last : PassedOver router answers capability skipped.length name reason) (uncalled : reason ≠ notImplementedCode) :
    (progress.skip name reason).Along router answers capability (skipped ++ [name]) where
  position := by rw [List.length_append, ← along.position]; rfl
  passed := along.passed.concat last
  called := by
    rw [Progress.skip, calledAmong_concat, if_neg uncalled, List.append_nil]
    exact along.called
  silent := along.silent

/-- An entry that is skipped because it is not implemented, once it has been called. -/
theorem Progress.Along.call (along : progress.Along router answers capability skipped)
    (last : PassedOver router answers capability skipped.length name notImplementedCode) :
    Progress.Along router answers capability (skipped ++ [name])
      { progress.skip name notImplementedCode with
        called := progress.called ++ [name], events := progress.events ++ [] } where
  position := by rw [List.length_append, ← along.position]; rfl
  passed := along.passed.concat last
  called := by
    rw [Progress.skip, calledAmong_concat, if_pos rfl, along.called]
  silent := by rw [List.append_nil, along.silent]

/-- With a callback that returns, a result is returned with its one event. -/
theorem attempt_of_quiet {onUsage : UsageEvent → Option (Thrown ε)} {provider : π} {value : ρ}
    (given : router.onUsage = some onUsage) (quiet : ∀ event, onUsage event = none)
    (result : answers.call progress.position provider = .ok value) :
    attempt router answers usage capability taskAlias progress name provider =
      (.ok value, [usageEvent answers usage capability taskAlias progress name value]) := by
  simp only [attempt, result, given, quiet]

theorem attempt_of_thrown {provider : π} {thrown : Thrown ε}
    (failure : answers.call progress.position provider = .error thrown) :
    attempt router answers usage capability taskAlias progress name provider = (.error thrown, []) := by
  simp only [attempt, failure]

/-- From wherever the walk has come to, the rest of the chain is dispatched as the whole of it. -/
theorem walk_dispatched {onUsage : UsageEvent → Option (Thrown ε)} (given : router.onUsage = some onUsage)
    (quiet : ∀ event, onUsage event = none) {chain names : List AiProviderName} (split : chain = skipped ++ names)
    (along : progress.Along router answers capability skipped) :
    Dispatched router answers usage capability taskAlias chain
      (walk router answers usage capability taskAlias chain progress names) := by
  induction names generalizing skipped progress with
  | nil =>
      rw [List.append_nil] at split
      rw [walk, along.called, along.silent]
      exact .exhausted (split ▸ along.passed)
  | cons name rest ih =>
      have next : chain = (skipped ++ [name]) ++ rest := by rw [split, List.append_assoc]; rfl
      rw [walk]
      cases registered : router.providers name with
      | none => exact ih next (along.skip (.notRegistered registered) (by decide))
      | some provider =>
          dsimp only
          cases supported : answers.supports progress.position provider capability with
          | false =>
              rw [if_pos (by simp)]
              rw [along.position] at supported
              exact ih next (along.skip (.unsupported registered supported) (unsupported_ne capability))
          | true =>
              rw [if_neg (by simp)]
              have here := supported
              rw [along.position] at here
              cases answer : answers.call progress.position provider with
              | ok value =>
                  rw [attempt_of_quiet given quiet answer]
                  dsimp only
                  rw [along.called, along.silent, List.nil_append, usageEvent, along.position]
                  rw [along.position] at answer
                  exact .returned split along.passed registered here answer
              | error thrown =>
                  rw [attempt_of_thrown answer]
                  rw [along.position] at answer
                  cases thrown with
                  | notImplemented => exact ih next (along.call (.notImplemented registered here answer))
                  | other error =>
                      dsimp only
                      rw [along.called, along.silent]
                      exact .threw split along.passed registered here answer

end Walk

end Aicos.Ai
