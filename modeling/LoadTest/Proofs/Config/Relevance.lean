import LoadTest.Proofs.Number.Nearest
import LoadTest.Script.Basic
import LoadTest.Validation

/-!
# Fields that count

Which fields of a configuration count depends on its test type, its executor and its method
(`TestConfig.Agree`). Two configurations that agree on those have the same script and the same
issues, whatever the others hold (`TestConfig.script_issues_eq_of_agree`).

Times agree when they are equal as numbers, so that the two zeros are one time. The script shows a
time only if it is positive, and a positive double is determined by its value
(`Finite.eq_of_signedUnits_eq`).
-/

namespace LoadTest

namespace Finite

theorem unitsOfRank_inj {m n : ℕ} (h : unitsOfRank m = unitsOfRank n) : m = n := by
  rw [← Binary64.nearestRank_units m, h, Binary64.nearestRank_units n]

theorem eq_of_signedUnits_eq {x y : Finite} (h : x.signedUnits = y.signedUnits)
    (hpos : 0 < x.signedUnits) : x = y := by
  have hpositive : ∀ z : Finite, 0 < z.signedUnits →
      z.negative = false ∧ z.signedUnits = unitsOfRank z.rank := by
    intro z hz
    unfold signedUnits at hz ⊢
    cases hn : z.negative with
    | true =>
      rw [hn, if_pos rfl] at hz
      omega
    | false => exact ⟨rfl, rfl⟩
  obtain ⟨hx, hxunits⟩ := hpositive x hpos
  obtain ⟨hy, hyunits⟩ := hpositive y (h ▸ hpos)
  rw [hxunits, hyunits, Nat.cast_inj] at h
  have hrank : x.rank = y.rank := unitsOfRank_inj h
  obtain ⟨nx, rx, hxlt⟩ := x
  obtain ⟨ny, ry, hylt⟩ := y
  simp_all

end Finite

namespace TestConfig

/-- Equal times, of which a zero may have either sign. -/
def SameTime (s t : Option Binary64) : Prop :=
  s = t ∨ ∃ x y, s = some x ∧ t = some y ∧ x.same y = true

/-- The two agree on the fields that the executor takes. -/
def AgreeOn (c d : TestConfig) : Executor → Prop
  | .sharedIterations | .perVuIterations => c.vus = d.vus ∧ c.iterations = d.iterations
  | .constantVus => c.vus = d.vus ∧ c.duration = d.duration
  | .rampingVus => c.stages = d.stages
  | .constantArrivalRate =>
    c.rate = d.rate ∧ c.timeUnit = d.timeUnit ∧ c.duration = d.duration ∧
      c.preAllocatedVus = d.preAllocatedVus ∧ c.maxVus = d.maxVus
  | .rampingArrivalRate =>
    c.timeUnit = d.timeUnit ∧ c.preAllocatedVus = d.preAllocatedVus ∧ c.maxVus = d.maxVus ∧
      c.stages = d.stages

/-- The two agree on the fields that count for a test of their type, executor and method. -/
structure Agree (c d : TestConfig) : Prop where
  testType : c.testType = d.testType
  executor : c.executor = d.executor
  endpoint : c.endpoint = d.endpoint
  method : c.method = d.method
  headers : c.headers = d.headers
  checks : c.checks = d.checks
  thinkTime : SameTime c.thinkTime d.thinkTime
  body : c.method.carriesBody = true → c.body = d.body
  schedule : c.testType ≠ .custom → AgreeOn c d c.executor

variable {c d : TestConfig}

/-! ## Executors -/

theorem AgreeOn.schedule_eq {e : Executor} (h : AgreeOn c d e) : c.schedule e = d.schedule e := by
  cases e with
  | sharedIterations | perVuIterations =>
    obtain ⟨hvus, hiterations⟩ := h
    simp only [TestConfig.schedule, vusValue, iterationsValue, hvus, hiterations]
  | constantVus =>
    obtain ⟨hvus, hduration⟩ := h
    simp only [TestConfig.schedule, vusValue, durationValue, hvus, hduration]
  | rampingVus =>
    have hstages : c.stages = d.stages := h
    simp only [TestConfig.schedule, stagesOr, hstages]
  | constantArrivalRate =>
    obtain ⟨hrate, hunit, hduration, hahead, hmost⟩ := h
    simp only [TestConfig.schedule, timeUnitValue, durationValue, preAllocatedValue, maxVusOr,
      hrate, hunit, hduration, hahead, hmost]
  | rampingArrivalRate =>
    obtain ⟨hunit, hahead, hmost, hstages⟩ := h
    simp only [TestConfig.schedule, timeUnitValue, preAllocatedValue, maxVusOr, stagesOr, hunit,
      hahead, hmost, hstages]

theorem AgreeOn.executorIssues_eq (h : AgreeOn c d c.executor)
    (hexecutor : c.executor = d.executor) : c.executorIssues = d.executorIssues := by
  unfold executorIssues
  rw [← hexecutor]
  revert h
  cases c.executor with
  | sharedIterations | perVuIterations => exact fun _ => rfl
  | constantVus => exact fun ⟨_, hduration⟩ => by rw [hduration]
  | rampingVus => exact fun hstages => congrArg (stageIssues 0) hstages
  | constantArrivalRate => exact fun ⟨_, hunit, hduration, _⟩ => by rw [hunit, hduration]
  | rampingArrivalRate => exact fun ⟨hunit, _, _, hstages⟩ => by rw [hunit, hstages]

theorem Agree.options_eq (h : Agree c d) : c.options = d.options := by
  unfold options executorOptions
  rw [← h.testType, ← h.executor]
  split_ifs with hcustom
  · rfl
  · rw [(h.schedule hcustom).schedule_eq]

/-! ## Think times -/

theorem SameTime.pausePart_eq (h : SameTime c.thinkTime d.thinkTime)
    (hexecutor : c.executor = d.executor) : Script.pausePart c = Script.pausePart d := by
  unfold Script.pausePart
  rw [← hexecutor]
  rcases h with h | ⟨x, y, hc, hd, hsame⟩
  · rw [h]
  · rw [hc, hd]
    rcases x with _ | _ | x <;> rcases y with _ | _ | y
    case finite.finite =>
      have hunits : x.signedUnits = y.signedUnits := by simpa [Binary64.same] using hsame
      by_cases hpos : 0 < x.signedUnits
      · rw [Finite.eq_of_signedUnits_eq hunits hpos]
      · simp only [hunits] at hpos
        simp only [hunits, hpos, if_false]
    all_goals first | rfl | cases hsame

theorem SameTime.thinkTimeIssues_eq (h : SameTime c.thinkTime d.thinkTime) :
    c.thinkTimeIssues = d.thinkTimeIssues := by
  unfold thinkTimeIssues
  rcases h with h | ⟨x, y, hc, hd, hsame⟩
  · rw [h]
  · have hpause : isPause x = isPause y := by
      rcases x with _ | _ | x <;> rcases y with _ | _ | y
      case finite.finite =>
        have hunits : x.signedUnits = y.signedUnits := by simpa [Binary64.same] using hsame
        simp only [isPause, hunits]
      all_goals first | rfl | cases hsame
    simp only [hc, hd, hpause]

/-! ## Scripts and issues -/

theorem Agree.requestPart_eq (h : Agree c d) : Script.requestPart c = Script.requestPart d := by
  unfold Script.requestPart
  rw [← h.method, ← h.endpoint, ← h.headers]
  split_ifs with hcarries
  · rw [h.body hcarries]
  · rfl

theorem Agree.bodyIssues_eq (h : Agree c d) : c.bodyIssues = d.bodyIssues := by
  unfold bodyIssues
  rw [← h.method]
  cases hcarries : c.method.carriesBody with
  | false => rfl
  | true => rw [h.body hcarries]

/-- Fields that do not count change neither the script nor the issues. -/
theorem script_issues_eq_of_agree (h : Agree c d) : c.script = d.script ∧ c.issues = d.issues := by
  constructor
  · unfold script Script.chars Script.optionsPart
    rw [h.options_eq, h.requestPart_eq, h.checks, h.thinkTime.pausePart_eq h.executor]
  · unfold issues endpointIssues headerIssues
    rw [h.endpoint, h.headers, h.bodyIssues_eq, h.thinkTime.thinkTimeIssues_eq, ← h.testType]
    congr 1
    split_ifs with hcustom
    · rfl
    · exact (h.schedule hcustom).executorIssues_eq h.executor

/-- Stages, a rate and a body may be left over, and a pause of zero may have either sign. -/
theorem script_issues_eq_of_agree_initial :
    { initial with thinkTime := some (.finite (.zero true)) }.Agree
        { initial with
          body := some "\x7bbroken", stages := [⟨"2x", 10⟩], rate := some 0
          thinkTime := some .zero } ∧
      { initial with thinkTime := some (.finite (.zero true)) }.script =
        { initial with
          body := some "\x7bbroken", stages := [⟨"2x", 10⟩], rate := some 0
          thinkTime := some .zero }.script ∧
      { initial with thinkTime := some (.finite (.zero true)) }.issues =
        { initial with
          body := some "\x7bbroken", stages := [⟨"2x", 10⟩], rate := some 0
          thinkTime := some .zero }.issues := by
  have hagree : { initial with thinkTime := some (.finite (.zero true)) }.Agree
      { initial with
        body := some "\x7bbroken", stages := [⟨"2x", 10⟩], rate := some 0
        thinkTime := some .zero } :=
    { testType := rfl
      executor := rfl
      endpoint := rfl
      method := rfl
      headers := rfl
      checks := rfl
      thinkTime := .inr ⟨_, _, rfl, rfl, by decide⟩
      body := fun hcarries => by cases hcarries
      schedule := fun _ => ⟨rfl, rfl⟩ }
  exact ⟨hagree, script_issues_eq_of_agree hagree⟩

end TestConfig

end LoadTest
