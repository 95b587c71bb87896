/-
When the router chooses nobody although it may choose somebody.

The best candidate is the least of the ranked ones (`mem_of_ranked`), and
the switch budget is looked at for it alone. Once the budget is used up,
a candidate that ranks before the primary one therefore leaves the run
without a provider, the primary one being neither blocked nor excluded.
-/
import DeepResearch.Search.ProviderRouter
import DeepResearch.Search.Proofs.RoutingStop

namespace DeepResearch.Search

universe u

-- ============================================================== the ranking

instance RankedProvider.le_total : Std.Total RankedProvider.le where
  total a b := by
    unfold RankedProvider.le
    omega

instance RankedProvider.le_trans :
    IsTrans RankedProvider RankedProvider.le where
  trans a b c := by
    unfold RankedProvider.le
    omega

namespace ProviderRouter

variable {F : Type u} {router : ProviderRouter F} {isFeedback : Bool}
  {feedbackExecutionId : Option String} {excluded : List String}
  {used : Int}

/-- The rank of a provider, without its place in the pool. -/
def priorityOf (router : ProviderRouter F) (isFeedback : Bool)
    (provider : String) : Nat :=
  (router.rank isFeedback 0 provider).priority

/-- Nobody who may be chosen ranks before the primary provider, which
may be chosen itself unless nobody may. -/
def PrimaryLeads (router : ProviderRouter F) (isFeedback : Bool)
    (excluded : List String) : Prop :=
  ∀ provider ∈ router.candidates,
    router.eligible excluded provider = true →
      router.eligible excluded router.primary = true
        ∧ router.priorityOf isFeedback router.primary
          ≤ router.priorityOf isFeedback provider

instance : Decidable (router.PrimaryLeads isFeedback excluded) :=
  inferInstanceAs (Decidable (∀ provider ∈ router.candidates, _ → _))

/-- A candidate that a decision may choose: not excluded, not blocked,
and the primary one unless a switch is left. -/
structure Allowed (router : ProviderRouter F) (excluded : List String)
    (maxSwitches used : Int) (provider : String) : Prop where
  candidate : provider ∈ router.candidates
  notExcluded : provider ∉ excluded
  notBlocked : (router.health.stateOf provider).isBlocked = false
  switch : provider ≠ router.primary → used < maxSwitches

/-- A decision chooses whom it may choose, and somebody if it may. -/
structure Routed (router : ProviderRouter F) (excluded : List String)
    (maxSwitches used : Int) (selected : Option String) : Prop where
  sound : ∀ provider ∈ selected,
    router.Allowed excluded maxSwitches used provider
  complete : selected = none →
    ∀ provider, ¬ router.Allowed excluded maxSwitches used provider

theorem eligible_iff {provider : String} :
    router.eligible excluded provider = true
      ↔ provider ∉ excluded
        ∧ (router.health.stateOf provider).isBlocked = false := by
  unfold eligible
  simp

theorem mem_ranked {item : RankedProvider} :
    item ∈ router.ranked isFeedback excluded
      ↔ router.candidates[item.order]? = some item.provider
        ∧ router.eligible excluded item.provider = true
        ∧ item = router.rank isFeedback item.order item.provider := by
  unfold ranked
  simp only [List.mem_map, List.mem_filter, Prod.exists,
    List.mem_zipIdx_iff_getElem?]
  constructor
  · rintro ⟨provider, order, ⟨hmem, heligible⟩, rfl⟩
    exact ⟨hmem, heligible, rfl⟩
  · rintro ⟨hmem, heligible, hitem⟩
    exact ⟨item.provider, item.order, ⟨hmem, heligible⟩, hitem.symm⟩

/-- Every eligible candidate is ranked. -/
theorem exists_ranked {provider : String}
    (hmem : provider ∈ router.candidates)
    (heligible : router.eligible excluded provider = true) :
    ∃ order, router.rank isFeedback order provider
      ∈ router.ranked isFeedback excluded := by
  obtain ⟨order, horder⟩ := List.mem_iff_getElem?.mp hmem
  exact ⟨order, mem_ranked.mpr ⟨horder, heligible, rfl⟩⟩

/-- What the sort leaves in front: nobody, when nobody is ranked, or the
least of the ranked candidates. -/
theorem ranked_cases (router : ProviderRouter F) (isFeedback : Bool)
    (excluded : List String) :
    (router.ranked isFeedback excluded).insertionSort RankedProvider.le = []
        ∧ router.ranked isFeedback excluded = []
      ∨ ∃ best rest,
        (router.ranked isFeedback excluded).insertionSort RankedProvider.le
            = best :: rest
          ∧ best ∈ router.ranked isFeedback excluded
          ∧ ∀ item ∈ router.ranked isFeedback excluded,
            best.le item := by
  have hperm := List.perm_insertionSort RankedProvider.le
    (router.ranked isFeedback excluded)
  have hsorted := List.pairwise_insertionSort RankedProvider.le
    (router.ranked isFeedback excluded)
  cases hsort : (router.ranked isFeedback excluded).insertionSort
      RankedProvider.le with
  | nil =>
      rw [hsort] at hperm
      exact .inl ⟨rfl, hperm.nil_eq.symm⟩
  | cons best rest =>
      rw [hsort] at hperm hsorted
      refine .inr ⟨best, rest, rfl, hperm.mem_iff.mp List.mem_cons_self,
        fun item hitem => ?_⟩
      rcases List.mem_cons.mp (hperm.mem_iff.mpr hitem) with rfl | hrest
      · exact .inr ⟨rfl, Nat.le_refl _⟩
      · exact List.rel_of_pairwise_cons hsorted hrest

/-- The best candidate is the primary one exactly when that one leads. -/
theorem best_eq_primary_iff {best : RankedProvider}
    (hbest : best ∈ router.ranked isFeedback excluded)
    (hleast : ∀ item ∈ router.ranked isFeedback excluded, best.le item) :
    best.provider = router.primary
      ↔ router.PrimaryLeads isFeedback excluded := by
  obtain ⟨hplace, heligible, hrank⟩ := mem_ranked.mp hbest
  constructor
  · intro hprimary provider hmem hprovider
    obtain ⟨order, hitem⟩ := exists_ranked hmem hprovider
    rw [hprimary] at heligible
    refine ⟨heligible, ?_⟩
    have hle := hleast _ hitem
    rw [hrank, hprimary] at hle
    rcases hle with hlt | ⟨heq, -⟩
    · exact Nat.le_of_lt hlt
    · exact Nat.le_of_eq heq
  · intro hleads
    have hmem : best.provider ∈ router.candidates :=
      List.mem_of_getElem? hplace
    obtain ⟨hprimary, hpriority⟩ := hleads best.provider hmem heligible
    have hle := hleast (router.rank isFeedback 0 router.primary)
      (mem_ranked.mpr ⟨rfl, hprimary, rfl⟩)
    rw [hrank] at hle
    rcases hle with hlt | ⟨-, horder⟩
    · exact absurd hlt (Nat.not_lt.mpr hpriority)
    · have hzero : best.order = 0 := Nat.le_zero.mp horder
      rw [hzero] at hplace
      exact (Option.some.inj hplace).symm

-- ============================================================ the decision

theorem selectedProvider_of_nil
    (h : (router.ranked isFeedback excluded).insertionSort
      RankedProvider.le = []) :
    (router.selectFor isFeedback feedbackExecutionId excluded
      used).selectedProvider = none := by
  unfold selectFor
  dsimp only
  rw [h]

theorem selectedProvider_of_best {best : RankedProvider}
    {rest : List RankedProvider}
    (h : (router.ranked isFeedback excluded).insertionSort
      RankedProvider.le = best :: rest) :
    (router.selectFor isFeedback feedbackExecutionId excluded
      used).selectedProvider
        = if best.provider ≠ router.primary ∧ router.maxSwitches ≤ used
          then none else some best.provider := by
  unfold selectFor
  dsimp only
  rw [h]
  dsimp only
  split <;> rfl

/-- Nobody ranks before a primary provider that may be chosen once the
switches are used up; and where a negative count of switches is not below
a negative bound, nobody ranks before the primary one at all. -/
structure SwitchesCovered (router : ProviderRouter F) (isFeedback : Bool)
    (excluded : List String) (maxSwitches used : Int) : Prop where
  usedUp : max 0 maxSwitches ≤ used →
    router.eligible excluded router.primary = true →
      router.PrimaryLeads isFeedback excluded
  negative : maxSwitches ≤ used → used < max 0 maxSwitches →
    router.PrimaryLeads isFeedback excluded

section

variable {maxSwitches : Int} {best : RankedProvider}

theorem allowed_of_ranked
    (hbest : best ∈ router.ranked isFeedback excluded)
    (hswitch : best.provider ≠ router.primary → used < maxSwitches) :
    router.Allowed excluded maxSwitches used best.provider := by
  obtain ⟨hplace, heligible, -⟩ := mem_ranked.mp hbest
  obtain ⟨hexcluded, hblocked⟩ := eligible_iff.mp heligible
  exact ⟨List.mem_of_getElem? hplace, hexcluded, hblocked, hswitch⟩

/-- Choosing the best candidate is right when it needs no switch, or one
is left. -/
theorem routed_some_iff
    (hbest : best ∈ router.ranked isFeedback excluded) :
    router.Routed excluded maxSwitches used (some best.provider)
      ↔ (best.provider ≠ router.primary → used < maxSwitches) := by
  constructor
  · intro h
    exact (h.sound best.provider rfl).switch
  · intro hswitch
    refine ⟨fun provider hprovider => ?_, fun hnone => by cases hnone⟩
    injection hprovider with hprovider
    rw [← hprovider]
    exact allowed_of_ranked hbest hswitch

/-- With no switch left, choosing nobody is right exactly when the
primary provider may not be chosen. -/
theorem routed_none_iff (hused : maxSwitches ≤ used) :
    router.Routed excluded maxSwitches used none
      ↔ router.eligible excluded router.primary = false := by
  constructor
  · intro h
    by_contra hprimary
    obtain ⟨hexcluded, hblocked⟩ :=
      eligible_iff.mp (Bool.eq_true_of_not_eq_false hprimary)
    exact h.complete rfl router.primary
      ⟨List.mem_cons_self, hexcluded, hblocked,
        fun hne => absurd rfl hne⟩
  · intro hprimary
    refine ⟨fun provider hprovider => (by cases hprovider),
      fun _ provider hallowed => ?_⟩
    by_cases hprovider : provider = router.primary
    · have heligible := eligible_iff.mpr
        ⟨hallowed.notExcluded, hallowed.notBlocked⟩
      rw [hprovider, hprimary] at heligible
      cases heligible
    · have hlt := hallowed.switch hprovider
      omega

end

-- ============================================================ the theorem

/-- The decision is right exactly when the switches are covered. -/
theorem routed_iff {health : ProviderHealthTracker F}
    {candidateProviders : List String} {maxProviderSwitches : Int}
    (hnew : new? health candidateProviders maxProviderSwitches
      = some router)
    (isFeedback : Bool) (feedbackExecutionId : Option String)
    (excluded : List String) (used : Int) :
    router.Routed excluded maxProviderSwitches used
        (router.selectFor isFeedback feedbackExecutionId excluded
          used).selectedProvider
      ↔ router.SwitchesCovered isFeedback excluded maxProviderSwitches
        used := by
  have hmax : router.maxSwitches = max 0 maxProviderSwitches := by
    unfold new? at hnew
    split at hnew
    · cases hnew
    · injection hnew with hnew
      rw [← hnew]
  rcases router.ranked_cases isFeedback excluded with
    ⟨hsort, hnone⟩ | ⟨best, rest, hsort, hbest, hleast⟩
  · -- Nobody is ranked, so nobody is eligible.
    have hineligible : ∀ provider ∈ router.candidates,
        ¬ router.eligible excluded provider = true := by
      intro provider hmem heligible
      obtain ⟨order, hranked⟩ := exists_ranked hmem heligible
      rw [hnone] at hranked
      cases hranked
    have hleads : router.PrimaryLeads isFeedback excluded :=
      fun provider hmem heligible =>
        absurd heligible (hineligible provider hmem)
    rw [selectedProvider_of_nil hsort]
    refine iff_of_true ⟨fun provider hprovider => (by cases hprovider),
      fun _ provider hallowed => ?_⟩ ⟨fun _ _ => hleads, fun _ _ => hleads⟩
    exact hineligible provider hallowed.candidate (eligible_iff.mpr
      ⟨hallowed.notExcluded, hallowed.notBlocked⟩)
  · have hprimary := best_eq_primary_iff hbest hleast
    rw [selectedProvider_of_best hsort, hmax]
    by_cases hleads : router.PrimaryLeads isFeedback excluded
    · rw [if_neg fun h => h.1 (hprimary.mpr hleads), routed_some_iff hbest]
      exact iff_of_true (fun hne => absurd (hprimary.mpr hleads) hne)
        ⟨fun _ _ => hleads, fun _ _ => hleads⟩
    · have hother : best.provider ≠ router.primary :=
        fun heq => hleads (hprimary.mp heq)
      by_cases hused : max 0 maxProviderSwitches ≤ used
      · rw [if_pos ⟨hother, hused⟩, routed_none_iff (by omega)]
        constructor
        · intro hineligible
          refine ⟨fun _ heligible => ?_, fun _ hlt => by omega⟩
          rw [hineligible] at heligible
          cases heligible
        · intro hcovered
          by_contra heligible
          exact hleads (hcovered.usedUp hused
            (Bool.eq_true_of_not_eq_false heligible))
      · rw [if_neg fun h => hused h.2, routed_some_iff hbest]
        constructor
        · intro hswitch
          have hlt := hswitch hother
          exact ⟨fun h => absurd h hused, fun hle => by omega⟩
        · intro hcovered _
          by_contra hle
          exact hleads (hcovered.negative (by omega) (by omega))

end ProviderRouter

-- ================================================================= a sample

/-- The default pool, Bing healthy and SearXNG never called. -/
def bingRouter : ProviderRouter Int where
  health := bingHealthTracker
  primary := "SearXNG"
  others := ["Bing"]
  maxSwitches := 1

theorem ProviderRouter.routed_iff_sample :
    bingRouter.Routed ["SearXNG"] 1 0
        (bingRouter.selectFor false none ["SearXNG"] 0).selectedProvider
      ↔ bingRouter.SwitchesCovered false ["SearXNG"] 1 0 :=
  ProviderRouter.routed_iff
    (show ProviderRouter.new? bingHealthTracker ["SearXNG", "Bing"] 1
      = some bingRouter from rfl) false none ["SearXNG"] 0

/-- The one switch is used, and the primary provider, which nothing speaks
against, is not chosen. -/
theorem primary_not_chosen :
    ¬ ∀ (health : ProviderHealthTracker Int) (candidates : List String)
        (maxSwitches used : Int) (router : ProviderRouter Int),
      ProviderRouter.new? health candidates maxSwitches = some router →
      router.Routed [] maxSwitches used
        (router.selectFor false none [] used).selectedProvider := by
  intro h
  have hnone : (bingRouter.selectFor false none [] 1).selectedProvider
      = none := by decide +kernel
  have hrouted := h bingHealthTracker ["SearXNG", "Bing"] 1 1 bingRouter rfl
  rw [hnone] at hrouted
  exact hrouted.complete rfl "SearXNG"
    ⟨List.mem_cons_self, List.not_mem_nil, by decide +kernel,
      fun hne => absurd rfl hne⟩

end DeepResearch.Search
