/-
The choice of the provider of a search: `domain/provider_router.py`.

The candidates are ranked by the state of their health and, among equals,
by their place in the pool. An unavailable, disabled or excluded provider
is not ranked. Where the best candidate is not the first of the pool,
choosing it is a switch, and the switches are bounded.
-/
import DeepResearch.Search.ProviderHealth
import Mathlib.Data.List.Sort

namespace DeepResearch.Search

universe u

/-- `_STATE_PRIORITY`: less is preferred. -/
def ProviderHealthState.priority : ProviderHealthState → Nat
  | .healthy => 0
  | .degraded => 1
  | .unknown => 2
  | .cooldown => 3
  | .unavailable => 99
  | .disabledForRun => 100

/-- `_BLOCKED_STATES`. -/
def ProviderHealthState.isBlocked : ProviderHealthState → Bool
  | .unavailable | .disabledForRun => true
  | _ => false

/-- `_FEEDBACK_NON_HEALTHY_PENALTY`. -/
def feedbackNonHealthyPenalty : Nat := 50

def defaultMaxProviderSwitches : Int := 1

/-- `ProviderSelectionDecision`. -/
structure ProviderSelectionDecision where
  selectedProvider : Option String
  excludedProviders : List String
  reason : String
  healthState : Option ProviderHealthState
  fallbackUsed : Bool
  feedbackExecutionId : Option String
  providerPoolSize : Nat
  availableProviderCount : Nat
  selectionRank : Nat
deriving DecidableEq, Repr

/-- `_selection_reason`. -/
def selectionReason (isFeedback : Bool) (state : ProviderHealthState) :
    String :=
  if isFeedback then
    if state = .healthy then "feedback_query_healthy_provider_selected"
    else "feedback_query_no_healthy_provider_fallback"
  else match state with
    | .healthy => "healthy_provider_selected"
    | .degraded => "healthy_provider_unavailable_degraded_fallback"
    | .cooldown => "healthy_provider_unavailable_cooldown_probe"
    | _ => "healthy_provider_unavailable_unknown_fallback"

/-- `ProviderRouter`: a pool of distinct candidates, the first of them
the primary one. -/
structure ProviderRouter (F : Type u) where
  health : ProviderHealthTracker F
  primary : String
  others : List String
  maxSwitches : Int

/-- A candidate that may be chosen. -/
structure RankedProvider where
  priority : Nat
  order : Nat
  provider : String
  state : ProviderHealthState
deriving DecidableEq, Repr

/-- The key `(item[0], item[1])` of the sort. -/
def RankedProvider.le (a b : RankedProvider) : Prop :=
  a.priority < b.priority ∨ a.priority = b.priority ∧ a.order ≤ b.order

instance RankedProvider.decidableLe : DecidableRel RankedProvider.le :=
  fun _ _ => inferInstanceAs (Decidable (_ ∨ _))

namespace ProviderRouter

variable {F : Type u}

/-- `ProviderRouter(...)`; `none` is the `ValueError` of an empty
pool. -/
def new? (health : ProviderHealthTracker F)
    (candidateProviders : List String) (maxProviderSwitches : Int) :
    Option (ProviderRouter F) :=
  match candidateProviders.eraseDups with
  | [] => none
  | primary :: others =>
      some ⟨health, primary, others, max 0 maxProviderSwitches⟩

def candidates (router : ProviderRouter F) : List String :=
  router.primary :: router.others

/-- Whether a candidate is ranked at all. -/
def eligible (router : ProviderRouter F) (excluded : List String)
    (provider : String) : Bool :=
  !(excluded.contains provider
    || (router.health.stateOf provider).isBlocked)

def rank (router : ProviderRouter F) (isFeedback : Bool) (order : Nat)
    (provider : String) : RankedProvider :=
  let state := router.health.stateOf provider
  { priority := if isFeedback = true ∧ state ≠ .healthy then
      state.priority + feedbackNonHealthyPenalty else state.priority
    order, provider, state }

def ranked (router : ProviderRouter F) (isFeedback : Bool)
    (excluded : List String) : List RankedProvider :=
  (router.candidates.zipIdx.filter fun item =>
      router.eligible excluded item.1).map
    fun item => router.rank isFeedback item.2 item.1

/-- `select_for`. -/
def selectFor (router : ProviderRouter F) (isFeedback : Bool)
    (feedbackExecutionId : Option String) (alreadyExcluded : List String)
    (providerSwitchesUsed : Int) : ProviderSelectionDecision :=
  let ranked := router.ranked isFeedback alreadyExcluded
  let unavailable := router.candidates.filter fun provider =>
    !router.eligible alreadyExcluded provider
  let poolSize := router.candidates.length
  match ranked.insertionSort RankedProvider.le with
  | [] =>
      { selectedProvider := none
        excludedProviders := unavailable
        reason := "all_providers_unavailable"
        healthState := none
        fallbackUsed := false
        feedbackExecutionId
        providerPoolSize := poolSize
        availableProviderCount := 0
        selectionRank := 0 }
  | best :: _ =>
      let fallbackUsed := best.provider ≠ router.primary
      if fallbackUsed ∧ router.maxSwitches ≤ providerSwitchesUsed then
        { selectedProvider := none
          excludedProviders := (unavailable
            ++ router.candidates.filter (· ≠ best.provider)).eraseDups
          reason := "provider_switch_budget_exhausted"
          healthState := some best.state
          fallbackUsed := false
          feedbackExecutionId
          providerPoolSize := poolSize
          availableProviderCount := ranked.length
          selectionRank := 0 }
      else
        { selectedProvider := some best.provider
          excludedProviders := unavailable
          reason := selectionReason isFeedback best.state
          healthState := some best.state
          fallbackUsed
          feedbackExecutionId
          providerPoolSize := poolSize
          availableProviderCount := ranked.length
          selectionRank := best.order + 1 }

theorem eligible_of_mem_ranked {router : ProviderRouter F}
    {isFeedback : Bool} {excluded : List String} {item : RankedProvider}
    (h : item ∈ router.ranked isFeedback excluded) :
    router.eligible excluded item.provider = true := by
  obtain ⟨candidate, hmem, rfl⟩ := List.mem_map.mp h
  exact (List.mem_filter.mp hmem).2

/-- A chosen provider is eligible. -/
theorem eligible_of_selectFor {router : ProviderRouter F}
    {isFeedback : Bool} {feedbackExecutionId : Option String}
    {excluded : List String} {switches : Int} {provider : String}
    (h : (router.selectFor isFeedback feedbackExecutionId excluded
      switches).selectedProvider = some provider) :
    router.eligible excluded provider = true := by
  unfold selectFor at h
  dsimp only at h
  split at h
  · cases h
  · rename_i best rest hsorted
    have hmem : best ∈ router.ranked isFeedback excluded := by
      rw [← List.mem_insertionSort RankedProvider.le, hsorted]
      exact List.mem_cons_self
    split at h
    · cases h
    · cases h
      exact eligible_of_mem_ranked hmem

end ProviderRouter

end DeepResearch.Search
