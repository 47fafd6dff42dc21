import Aicos.Ai.Router

namespace Aicos.Properties

open Aicos.Ai

/-! Which provider answers a routed call, what is thrown where none does, and what is metered. -/

section Routed

variable {π ρ ε : Type} (router : AiRouter π ε) (answers : Answers π ρ ε) (usage : ρ → AiUsage)
  (capability : AiCapability) (route : RouteOptions)

/-- One usage event with a result, and none without. -/
def Metered (run : Dispatch ρ ε) : Prop :=
  match run.outcome with
  | .ok _ => run.events.length = 1
  | .error _ => run.events = []

/-- A route without a chain throws before any call; along a chain the first provider that is not
passed over decides. -/
def Routed : Prop :=
  match resolveChain router capability route with
  | .error error =>
      dispatch router answers usage capability route = { outcome := .error error, called := [], events := [] }
  | .ok (chain, taskAlias) =>
      Dispatched router answers usage capability taskAlias chain (dispatch router answers usage capability route)

variable {router answers usage capability route}

theorem metered_of_dispatched {taskAlias : Option AiTaskAlias} {chain : List AiProviderName} {run : Dispatch ρ ε}
    (dispatched : Dispatched router answers usage capability taskAlias chain run) : Metered run := by
  cases dispatched with
  | returned => exact rfl
  | threw => exact rfl
  | exhausted => exact rfl

theorem routed_of_quiet {onUsage : UsageEvent → Option (Thrown ε)} (given : router.onUsage = some onUsage)
    (quiet : ∀ event, onUsage event = none) : Routed router answers usage capability route := by
  unfold Routed dispatch
  cases resolveChain router capability route with
  | error error => exact rfl
  | ok resolved => exact walk_dispatched given quiet (List.nil_append _).symm .start

theorem metered_of_routed (routed : Routed router answers usage capability route) :
    Metered (dispatch router answers usage capability route) := by
  unfold Routed at routed
  cases resolved : resolveChain router capability route with
  | error error =>
      rw [resolved] at routed
      rw [routed]
      exact rfl
  | ok chain =>
      rw [resolved] at routed
      exact metered_of_dispatched routed

end Routed

/-- The first provider of the chain that is registered, supports the capability and is implemented answers
the call or fails it, and a call is metered once, when it is answered. -/
theorem dispatch_routed {π ρ ε : Type} (router : AiRouter π ε) (answers : Answers π ρ ε) (usage : ρ → AiUsage)
    (capability : AiCapability) (route : RouteOptions) (onUsage : UsageEvent → Option (Thrown ε))
    (given : router.onUsage = some onUsage) (quiet : ∀ event, onUsage event = none) :
    Routed router answers usage capability route ∧ Metered (dispatch router answers usage capability route) :=
  ⟨routed_of_quiet given quiet, metered_of_routed (routed_of_quiet given quiet)⟩

/-- Gemini is not registered, Claude is a stub, and OpenAI answers. -/
def stubRouter : AiRouter AiProviderName String where
  providers name := if name = .gemini then none else some name
  onUsage := some fun _ => none

def stubAnswers : Answers AiProviderName String String where
  supports _ _ _ := true
  call _ provider := if provider = .anthropic then .error .notImplemented else .ok "hello"
  latencyMs _ := 12

def stubUsage (_ : String) : AiUsage :=
  { provider := .openai, model := "gpt", inputTokens := 1, outputTokens := 1, totalTokens := 2 }

theorem dispatch_routed_of_stubs :
    Routed stubRouter stubAnswers stubUsage .chat { taskAlias := some .chat, provider := none } ∧
      Metered (dispatch stubRouter stubAnswers stubUsage .chat { taskAlias := some .chat, provider := none }) :=
  dispatch_routed _ _ _ _ _ _ rfl fun _ => rfl

end Aicos.Properties
