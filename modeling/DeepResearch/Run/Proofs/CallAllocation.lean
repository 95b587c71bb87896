/-
An early research call never takes the least a later question needs.

There are as many seats as questions as long as every question can be
paid the minimum (`seats_of_affordable`), and a call leaves the minimum
of every other seat (`Executes.reserve`). So what is affordable stays
affordable, one question fewer each time (`callSystem_affords`), and the
run follows by induction on its calls.
-/
import DeepResearch.Run.CallAllocation

namespace DeepResearch.Run

-- ================================================================ one call

/-- What an answer `execute` grants. -/
structure ResearchCall.Grants (call : ResearchCall)
    (decision : ResearchCallDecision) : Prop where
  minimum : call.minimumCall ≤ decision.callTokens
  maximum : decision.callTokens ≤ call.maximumCall
  reserve : decision.callTokens + decision.futureReserve ≤ call.available

namespace ResearchCall

variable {call : ResearchCall}

/-- At least one seat is paid, and none beyond what is affordable. -/
theorem seats_bounds (hmin : 0 < call.minimumCall)
    (havailable : call.minimumCall ≤ call.available) :
    1 ≤ call.seats ∧ call.seats * call.minimumCall ≤ call.available := by
  have hone : 1 ≤ call.available / call.minimumCall := by
    rw [Int.le_ediv_iff_mul_le hmin]
    omega
  have hle : call.seats ≤ call.available / call.minimumCall :=
    Int.min_le_right _ _
  refine ⟨Int.le_min.mpr ⟨Int.le_max_left _ _, hone⟩, ?_⟩
  exact (Int.le_ediv_iff_mul_le hmin).mp hle

/-- Where every eligible question can be paid, every one has a seat. -/
theorem seats_of_affordable (hmin : 0 < call.minimumCall)
    (hone : 1 ≤ call.eligibleQuestions)
    (haffords : call.eligibleQuestions * call.minimumCall
      ≤ call.available) : call.seats = call.eligibleQuestions := by
  have hle : call.eligibleQuestions ≤ call.available / call.minimumCall :=
    (Int.le_ediv_iff_mul_le hmin).mpr haffords
  unfold seats
  omega

/-- A share of the seats leaves every other seat its minimum. -/
theorem share_bounds (hmin : 0 < call.minimumCall)
    (havailable : call.minimumCall ≤ call.available) :
    call.minimumCall ≤ call.available / call.seats
      ∧ call.available / call.seats + (call.seats - 1) * call.minimumCall
        ≤ call.available := by
  obtain ⟨hone, hpaid⟩ := seats_bounds hmin havailable
  have hminimum : call.minimumCall ≤ call.available / call.seats := by
    rw [Int.le_ediv_iff_mul_le (by omega), Int.mul_comm]
    exact hpaid
  refine ⟨hminimum, ?_⟩
  have hshares : call.seats * (call.available / call.seats)
      ≤ call.available := Int.mul_ediv_self_le (by omega)
  have hothers : (call.seats - 1) * call.minimumCall
      ≤ (call.seats - 1) * (call.available / call.seats) :=
    Int.mul_le_mul_of_nonneg_left hminimum (by omega)
  have hsplit : call.seats * (call.available / call.seats)
      = call.available / call.seats
        + (call.seats - 1) * (call.available / call.seats) := by
    rw [Int.sub_mul, Int.one_mul]
    omega
  omega

/-- The answers, in the order of the tests. -/
theorem allocate_cases {decision : ResearchCallDecision}
    (h : call.allocate = .ok decision)
    (hexecute : decision.outcome = .execute) :
    0 < call.minimumCall ∧ call.minimumCall ≤ call.maximumCall
      ∧ call.minimumCall ≤ call.available
      ∧ decision = ⟨.execute,
        min call.maximumCall (call.available / call.seats),
        (call.seats - 1) * call.minimumCall,
        "affordable_question_share"⟩ := by
  unfold allocate at h
  split at h
  case isTrue => cases h
  case isFalse hbounds =>
    split at h
    case isTrue =>
      cases h
      cases hexecute
    case isFalse havailable =>
      split at h
      case isTrue =>
        cases h
        cases hexecute
      case isFalse =>
        injection h with h
        exact ⟨by omega, by omega, by omega, h.symm⟩

theorem grants_of_execute {decision : ResearchCallDecision}
    (h : call.allocate = .ok decision)
    (hexecute : decision.outcome = .execute) : call.Grants decision := by
  obtain ⟨hmin, hmax, havailable, rfl⟩ := allocate_cases h hexecute
  obtain ⟨hminimum, hreserve⟩ := share_bounds hmin havailable
  refine ⟨Int.le_min.mpr ⟨hmax, hminimum⟩, Int.min_le_left _ _, ?_⟩
  have hshare := Int.min_le_right call.maximumCall
    (call.available / call.seats)
  show min call.maximumCall (call.available / call.seats)
    + (call.seats - 1) * call.minimumCall ≤ call.available
  omega

/-- A question that is not retried gets its call where the minimum can
be paid. -/
theorem allocate_of_affordable (hmin : 0 < call.minimumCall)
    (hmax : call.minimumCall ≤ call.maximumCall)
    (havailable : call.minimumCall ≤ call.available)
    (hfresh : call.currentAttempts = 0 ∨ call.otherUnattempted = 0) :
    call.allocate = .ok ⟨.execute,
      min call.maximumCall (call.available / call.seats),
      (call.seats - 1) * call.minimumCall,
      "affordable_question_share"⟩ := by
  unfold allocate
  rw [if_neg (by omega), if_neg (by omega), if_neg (by omega)]

/-- The function of the natural numbers is this one. -/
theorem allocate_natCast (available eligibleQuestions otherUnattempted
    currentAttempts minimumCall maximumCall : Nat) :
    allocate ⟨available, eligibleQuestions, otherUnattempted,
        currentAttempts, minimumCall, maximumCall⟩
      = (allocateResearchCall available eligibleQuestions otherUnattempted
          currentAttempts minimumCall maximumCall).map
        fun decision => ⟨decision.outcome, decision.callTokens,
          decision.futureReserve, decision.reason⟩ := by
  unfold allocate allocateResearchCall
  dsimp only
  by_cases hbounds : minimumCall = 0 ∨ maximumCall < minimumCall
  · rw [if_pos (by omega), if_pos hbounds]
    rfl
  rw [if_neg (by omega), if_neg hbounds]
  by_cases havailable : available < minimumCall
  · rw [if_pos (by omega), if_pos havailable]
    rfl
  rw [if_neg (by omega), if_neg havailable]
  by_cases hretry : 0 < currentAttempts ∧ 0 < otherUnattempted
  · rw [if_pos (by omega), if_pos hretry]
    rfl
  rw [if_neg (by omega), if_neg hretry]
  have hdiv : ((available / minimumCall : Nat) : Int)
      = (available : Int) / minimumCall := Int.natCast_ediv _ _
  -- Past the guards no integer is negative, and the two divisions agree.
  have hseats : ((min (max 1 eligibleQuestions) (available / minimumCall)
      : Nat) : Int)
        = min (max 1 (eligibleQuestions : Int))
          ((available : Int) / minimumCall) := by omega
  have hone : 1 ≤ min (max 1 eligibleQuestions) (available / minimumCall) :=
    Nat.le_min.mpr ⟨Nat.le_max_left _ _,
      (Nat.one_le_div_iff (by omega)).mpr (by omega)⟩
  simp only [Except.map, seats, ← hseats]
  generalize min (max 1 eligibleQuestions) (available / minimumCall) = seats
    at hone
  have hshare : ((available / seats : Nat) : Int)
      = (available : Int) / seats := Int.natCast_ediv _ _
  have hallowance : ((min maximumCall (available / seats) : Nat) : Int)
      = min (maximumCall : Int) ((available : Int) / seats) := by omega
  rw [hallowance, Int.natCast_mul, Int.natCast_sub hone]
  rfl

/-- What it grants, in natural numbers. -/
theorem grants_natCast {available eligibleQuestions otherUnattempted
    currentAttempts minimumCall maximumCall : Nat}
    {decision : ResearchBudgetDecision}
    (h : allocateResearchCall available eligibleQuestions otherUnattempted
      currentAttempts minimumCall maximumCall = .ok decision)
    (hexecute : decision.outcome = .execute) :
    minimumCall ≤ decision.callTokens ∧ decision.callTokens ≤ maximumCall
      ∧ decision.callTokens + decision.futureReserve ≤ available := by
  have hcall := allocate_natCast available eligibleQuestions
    otherUnattempted currentAttempts minimumCall maximumCall
  rw [h] at hcall
  obtain ⟨hminimum, hmaximum, hreserve⟩ := grants_of_execute hcall hexecute
  dsimp only at hminimum hmaximum hreserve
  exact ⟨by omega, by omega, by omega⟩

end ResearchCall

-- ============================================================== the calls

section

variable {minimumCall maximumCall : Int} {pool : ResearchPool}
  {a : CallStep}

/-- The question of a step is not retried, and spends at most what its
call was granted. -/
structure WithinGrant (minimumCall maximumCall : Int) (pool : ResearchPool)
    (a : CallStep) : Prop where
  fresh : a.currentAttempts = 0 ∨ a.otherUnattempted = 0
  spent : a.spent ≤ (pool.call minimumCall maximumCall a).granted

instance : Decidable (WithinGrant minimumCall maximumCall pool a) :=
  decidable_of_iff
    ((a.currentAttempts = 0 ∨ a.otherUnattempted = 0)
      ∧ a.spent ≤ (pool.call minimumCall maximumCall a).granted)
    ⟨fun ⟨hfresh, hspent⟩ => ⟨hfresh, hspent⟩,
      fun ⟨hfresh, hspent⟩ => ⟨hfresh, hspent⟩⟩

/-- A call is answered, and leaves the minimum of every question after
it. -/
theorem callSystem_affords (hmin : 0 < minimumCall)
    (hmax : minimumCall ≤ maximumCall) (hone : 1 ≤ pool.eligibleQuestions)
    (haffords : pool.eligibleQuestions * minimumCall ≤ pool.available)
    (h : WithinGrant minimumCall maximumCall pool a) :
    (pool.call minimumCall maximumCall a).executes = true
      ∧ (callSystem.step pool a).eligibleQuestions * minimumCall
        ≤ (callSystem.step pool a).available := by
  obtain ⟨hfresh, hspent⟩ := h
  have hleast : 1 * minimumCall ≤ pool.eligibleQuestions * minimumCall :=
    Int.mul_le_mul_of_nonneg_right hone (Int.le_of_lt hmin)
  rw [Int.one_mul] at hleast
  have hallocate := @ResearchCall.allocate_of_affordable
    (pool.call minimumCall maximumCall a) hmin hmax
    (Int.le_trans hleast haffords) hfresh
  have hseats : (pool.call minimumCall maximumCall a).seats
      = pool.eligibleQuestions :=
    ResearchCall.seats_of_affordable hmin hone haffords
  have hreserve := (ResearchCall.grants_of_execute hallocate rfl).reserve
  refine ⟨by rw [ResearchCall.executes, hallocate]; rfl, ?_⟩
  rw [ResearchCall.granted, hallocate] at hspent
  rw [hseats] at hspent hreserve
  simp only [callSystem, ResearchPool.call] at hspent hreserve ⊢
  omega

/-- Calls for at most as many questions as can be paid the minimum are
all answered. -/
theorem calls_execute (hmin : 0 < minimumCall)
    (hmax : minimumCall ≤ maximumCall) (as : List CallStep)
    (hquestions : as.length ≤ pool.eligibleQuestions)
    (haffords : pool.eligibleQuestions * minimumCall ≤ pool.available)
    (h : callSystem.Along (WithinGrant minimumCall maximumCall) pool as) :
    callSystem.Along (fun pool a =>
      (pool.call minimumCall maximumCall a).executes = true) pool as := by
  induction as generalizing pool with
  | nil => trivial
  | cons a as ih =>
      rw [List.length_cons, Int.natCast_add] at hquestions
      have hstep := callSystem_affords hmin hmax (by omega) haffords h.1
      refine ⟨hstep.1, ih ?_ hstep.2 h.2⟩
      show (as.length : Int) ≤ pool.eligibleQuestions - 1
      omega

end

/-- What a call is granted is within its bounds and leaves the reserve of
the others; and of questions that can all be paid the minimum, every one
gets its call, whatever the earlier calls spend of theirs. -/
theorem research_calls_shared {minimumCall maximumCall : Int}
    (hmin : 0 < minimumCall) (hmax : minimumCall ≤ maximumCall) :
    (∀ available eligibleQuestions otherUnattempted currentAttempts
        decision, 0 ≤ available →
      ResearchCall.allocate ⟨available, eligibleQuestions,
        otherUnattempted, currentAttempts, minimumCall, maximumCall⟩
        = .ok decision →
      decision.outcome = .execute →
      minimumCall ≤ decision.callTokens
        ∧ decision.callTokens ≤ maximumCall
        ∧ decision.callTokens + decision.futureReserve ≤ available)
    ∧ ∀ (n : Nat) (available : Int) (as : List CallStep), 1 ≤ n →
      n * minimumCall ≤ available → as.length = n →
      callSystem.Along (WithinGrant minimumCall maximumCall)
        ⟨available, n⟩ as →
      callSystem.Along (fun pool a =>
        (pool.call minimumCall maximumCall a).executes = true)
        ⟨available, n⟩ as := by
  constructor
  · intro available eligible unattempted attempts decision _ h hexecute
    have hgrants := ResearchCall.grants_of_execute h hexecute
    exact ⟨hgrants.minimum, hgrants.maximum, hgrants.reserve⟩
  · intro n available as _ haffords hlength h
    have hquestions : (as.length : Int) = n := by rw [hlength]
    exact calls_execute hmin hmax as (Int.le_of_eq hquestions) haffords h

/-- Three questions share 10,000 tokens; the first two spend all they are
granted. -/
theorem research_calls_shared_sample :
    callSystem.Along (fun pool a => (pool.call 3000 12000 a).executes = true)
      ⟨10000, 3⟩ [⟨0, 2, 3333⟩, ⟨0, 1, 3333⟩, ⟨2, 0, 100⟩] :=
  (research_calls_shared (by decide) (by decide)).2 3 10000 _ (by decide)
    (by decide) rfl (by decide)

end DeepResearch.Run
