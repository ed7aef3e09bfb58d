import LoadTest.Proofs.Number.Numeral
import LoadTest.Proofs.Report.First
import LoadTest.Proofs.Report.Sections

/-!
# The rates of a report

The shares of checks and of failed requests come in two layouts. The first row of the newer layout
decides if its numbers can be read, and so it does when it says that there is nothing to share. Only
if there is no such row, or a number of it cannot be read, the first row of the older layout is
asked (`summary_rates`).

What a row is made of is said in terms of characters (`ShareForm`, `MarkedForm`).
-/

namespace LoadTest.Report

/-! ## Rows -/

/-- The texts of a percentage and two counts. -/
abbrev RateTexts : Type := List Char × List Char × List Char

/-- `97.50% 39 out of 40` -/
def ShareForm (cs : List Char) : RateTexts → Prop
  | (percentage, part, total) => ∃ gap₁ gap₂ gap₃ behind,
      cs = percentage ++ ('%' :: (gap₁ ++ (part ++ (gap₂ ++ ("out of".toList ++ (gap₃ ++
        (total ++ behind))))))) ∧
      (∀ gap ∈ [gap₁, gap₂, gap₃], IsRun isWhite gap) ∧ IsRun Duration.isReportDigit percentage ∧
      IsRun isScriptDigit part ∧ IsRun isScriptDigit total ∧ Stops isScriptDigit behind

/-- `97.50% ✓ 39 ✗ 1` -/
def MarkedForm (cs : List Char) : RateTexts → Prop
  | (percentage, marked, unmarked) => ∃ gap₁ gap₂ gap₃ gap₄ behind,
      cs = percentage ++ ('%' :: (gap₁ ++ ('✓' :: (gap₂ ++ (marked ++ (gap₃ ++ ('✗' :: (gap₄ ++
        (unmarked ++ behind))))))))) ∧
      (∀ gap ∈ [gap₁, gap₂, gap₃, gap₄], IsRun isWhite gap) ∧
      IsRun Duration.isReportDigit percentage ∧ IsRun isScriptDigit marked ∧
      IsRun isScriptDigit unmarked ∧ Stops isScriptDigit behind

namespace Scan

variable {α β : Type} {p q : Char → Bool} {cs rest : List Char} {b : β}

theorem run_bind_eq_some {next : List Char → Scan β} :
    (run p >>= next) cs = some (b, rest) ↔
      ∃ xs mid, cs = xs ++ mid ∧ (IsRun p xs ∧ Stops p mid) ∧ next xs mid = some (b, rest) := by
  rw [bind_eq_some]
  refine exists₂_congr fun xs mid => ?_
  rw [run_eq_some]
  constructor
  · rintro ⟨⟨hne, rfl, rfl⟩, hnext⟩
    exact ⟨List.takeWhile_append_dropWhile.symm,
      ⟨⟨hne, fun _ => List.mem_takeWhile_imp⟩, stops_dropWhile cs⟩, hnext⟩
  · rintro ⟨rfl, ⟨⟨hne, hall⟩, hstops⟩, hnext⟩
    exact ⟨⟨hne, (takeWhile_append_stops hall hstops).symm,
      (dropWhile_append_stops hall hstops).symm⟩, hnext⟩

theorem exactly_bind_eq_some {s : List Char} {next : Unit → Scan β} :
    (exactly s >>= next) cs = some (b, rest) ↔
      ∃ mid, cs = s ++ mid ∧ next () mid = some (b, rest) := by
  rw [bind_eq_some]
  constructor
  · rintro ⟨u, mid, hs, hnext⟩
    exact ⟨mid, exactly_eq_some.1 hs, hnext⟩
  · rintro ⟨mid, hs, hnext⟩
    exact ⟨(), mid, exactly_eq_some.2 hs, hnext⟩

theorem IsRun.stops (h : IsRun p rest) (hq : ∀ c, p c = true → q c = false) (behind : List Char) :
    Stops q (rest ++ behind) :=
  stops_append h.1 fun c hc => hq c (h.2 c hc)

theorem not_isScriptDigit_of_isWhite (c : Char) (h : isWhite c = true) :
    isScriptDigit c = false := by
  have hreport := not_isReportDigit_of_isWhite h
  rw [Duration.isReportDigit, Bool.or_eq_false_iff] at hreport
  exact hreport.1

theorem takesForm_share : share.TakesForm ShareForm := by
  rintro cs ⟨percentage, part, total⟩
  unfold share amount white count
  simp only [run_bind_eq_some, exactly_bind_eq_some]
  constructor
  · rintro ⟨gap₁, gap₂, gap₃, behind, rfl, hgaps, hpercentage, hpart, htotal, hbehind⟩
    simp only [List.forall_mem_cons] at hgaps
    obtain ⟨hgap₁, hgap₂, hgap₃, -⟩ := hgaps
    exact ⟨behind, percentage, _, rfl, ⟨hpercentage, rfl⟩, _, rfl,
      gap₁, _, rfl, ⟨hgap₁, IsRun.stops hpart (fun _ => not_isWhite_of_isScriptDigit) _⟩,
      part, _, rfl, ⟨hpart, IsRun.stops hgap₂ not_isScriptDigit_of_isWhite _⟩,
      gap₂, _, rfl, ⟨hgap₂, rfl⟩, _, rfl,
      gap₃, _, rfl, ⟨hgap₃, IsRun.stops htotal (fun _ => not_isWhite_of_isScriptDigit) _⟩,
      total, behind, rfl, ⟨htotal, hbehind⟩, rfl⟩
  · rintro ⟨rest, percentage', _, rfl, ⟨hpercentage, -⟩, _, rfl, gap₁, _, rfl, ⟨hgap₁, -⟩,
      part', _, rfl, ⟨hpart, -⟩, gap₂, _, rfl, ⟨hgap₂, -⟩, _, rfl, gap₃, _, rfl, ⟨hgap₃, -⟩,
      total', behind, rfl, ⟨htotal, hbehind⟩, hpure⟩
    obtain ⟨htexts, rfl⟩ := Prod.mk.inj (Option.some.inj hpure)
    obtain ⟨rfl, rfl, rfl⟩ : percentage' = percentage ∧ part' = part ∧ total' = total := by
      simpa using htexts
    exact ⟨gap₁, gap₂, gap₃, behind, rfl, by simp [hgap₁, hgap₂, hgap₃], hpercentage, hpart, htotal,
      hbehind⟩

theorem takesForm_markedShare : markedShare.TakesForm MarkedForm := by
  rintro cs ⟨percentage, marked, unmarked⟩
  unfold markedShare amount white count
  simp only [run_bind_eq_some, exactly_bind_eq_some]
  constructor
  · rintro ⟨gap₁, gap₂, gap₃, gap₄, behind, rfl, hgaps, hpercentage, hmarked, hunmarked, hbehind⟩
    simp only [List.forall_mem_cons] at hgaps
    obtain ⟨hgap₁, hgap₂, hgap₃, hgap₄, -⟩ := hgaps
    exact ⟨behind, percentage, _, rfl, ⟨hpercentage, rfl⟩, _, rfl,
      gap₁, _, rfl, ⟨hgap₁, rfl⟩, _, rfl,
      gap₂, _, rfl, ⟨hgap₂, IsRun.stops hmarked (fun _ => not_isWhite_of_isScriptDigit) _⟩,
      marked, _, rfl, ⟨hmarked, IsRun.stops hgap₃ not_isScriptDigit_of_isWhite _⟩,
      gap₃, _, rfl, ⟨hgap₃, rfl⟩, _, rfl,
      gap₄, _, rfl, ⟨hgap₄, IsRun.stops hunmarked (fun _ => not_isWhite_of_isScriptDigit) _⟩,
      unmarked, behind, rfl, ⟨hunmarked, hbehind⟩, rfl⟩
  · rintro ⟨rest, percentage', _, rfl, ⟨hpercentage, -⟩, _, rfl, gap₁, _, rfl, ⟨hgap₁, -⟩, _, rfl,
      gap₂, _, rfl, ⟨hgap₂, -⟩, marked', _, rfl, ⟨hmarked, -⟩, gap₃, _, rfl, ⟨hgap₃, -⟩, _, rfl,
      gap₄, _, rfl, ⟨hgap₄, -⟩, unmarked', behind, rfl, ⟨hunmarked, hbehind⟩, hpure⟩
    obtain ⟨htexts, rfl⟩ := Prod.mk.inj (Option.some.inj hpure)
    obtain ⟨rfl, rfl, rfl⟩ : percentage' = percentage ∧ marked' = marked ∧
        unmarked' = unmarked := by
      simpa using htexts
    exact ⟨gap₁, gap₂, gap₃, gap₄, behind, rfl, by simp [hgap₁, hgap₂, hgap₃, hgap₄], hpercentage,
      hmarked, hunmarked, hbehind⟩

end Scan

/-- The first row of that name in the newer layout. -/
def NewerRow (name raw : String) (texts : RateTexts) : Prop :=
  IsFirst name.toList ShareForm raw.toList texts

/-- The first row of that name in the older layout. -/
def OlderRow (name raw : String) (texts : RateTexts) : Prop :=
  IsFirst name.toList MarkedForm raw.toList texts

section Rows

variable {name raw : String} {texts : RateTexts}

theorem find_share_iff : find name .share raw.toList = some texts ↔ NewerRow name raw texts :=
  find_eq_some_iff Scan.takesForm_share

theorem find_markedShare_iff :
    find name .markedShare raw.toList = some texts ↔ OlderRow name raw texts :=
  find_eq_some_iff Scan.takesForm_markedShare

theorem NewerRow.eq {other : RateTexts} (h : NewerRow name raw texts)
    (hother : NewerRow name raw other) : texts = other :=
  Option.some.inj ((find_share_iff.2 h).symm.trans (find_share_iff.2 hother))

theorem OlderRow.eq {other : RateTexts} (h : OlderRow name raw texts)
    (hother : OlderRow name raw other) : texts = other :=
  Option.some.inj ((find_markedShare_iff.2 h).symm.trans (find_markedShare_iff.2 hother))

end Rows

/-- There is no row of the newer layout, or its percentage or its total cannot be read. -/
def NoNewerChecks (raw : String) : Prop :=
  ∀ texts, NewerRow "checks_succeeded" raw texts →
    amount? texts.1 = none ∨ count? texts.2.2 = none

/-- There is no row of the newer layout, or one of its numbers cannot be read. -/
def NoNewerRequests (raw : String) : Prop :=
  ∀ texts, NewerRow "http_req_failed" raw texts →
    amount? texts.1 = none ∨ count? texts.2.1 = none ∨ count? texts.2.2 = none

/-- There is no row of the older layout, or one of its numbers cannot be read. -/
def NoOlder (name raw : String) : Prop :=
  ∀ texts, OlderRow name raw texts →
    amount? texts.1 = none ∨ count? texts.2.1 = none ∨ count? texts.2.2 = none

/-- The counts of the older layout come to no more than a count can be. -/
def OlderSumsFit (raw : String) : Prop :=
  ∀ name ∈ ["checks", "http_req_failed"], ∀ texts marked unmarked, OlderRow name raw texts →
    count? texts.2.1 = some marked → count? texts.2.2 = some unmarked →
      marked.toNat + unmarked.toNat < 2 ^ 64

/-- Counts that fit are added without wrapping. -/
theorem toNat_add_of_fits {name raw : String} {texts : RateTexts} {marked unmarked : UInt64}
    (hfit : OlderSumsFit raw) (hname : name ∈ ["checks", "http_req_failed"])
    (hrow : OlderRow name raw texts) (hmarked : count? texts.2.1 = some marked)
    (hunmarked : count? texts.2.2 = some unmarked) :
    (marked + unmarked).toNat = marked.toNat + unmarked.toNat := by
  rw [UInt64.toNat_add]
  exact Nat.mod_eq_of_lt (hfit name hname texts marked unmarked hrow hmarked hunmarked)

/-- How the rates of a report follow from its rows. -/
structure RatesFollow (raw : String) (m : Metrics) : Prop where
  together : m.checksFailed.isSome = m.checksSucceeded.isSome
  total_pos : ∀ rate, m.httpReqFailed = some rate → 0 < rate.total
  newerChecks : ∀ texts percentage total, NewerRow "checks_succeeded" raw texts →
    amount? texts.1 = some percentage → count? texts.2.2 = some total →
      (m.checksSucceeded, m.checksFailed) =
        if total = 0 then (none, none) else (some percentage, some (complement percentage))
  newerRequests : ∀ texts percentage count total, NewerRow "http_req_failed" raw texts →
    amount? texts.1 = some percentage → count? texts.2.1 = some count →
      count? texts.2.2 = some total →
        m.httpReqFailed = if total = 0 then none else some ⟨percentage, count, total⟩
  olderChecks : NoNewerChecks raw → ∀ texts percentage passed failed,
    OlderRow "checks" raw texts → amount? texts.1 = some percentage →
      count? texts.2.1 = some passed → count? texts.2.2 = some failed →
        (m.checksSucceeded, m.checksFailed) =
          if passed.toNat + failed.toNat = 0 then (none, none)
          else (some percentage, some (complement percentage))
  olderRequests : NoNewerRequests raw → ∀ texts percentage failed succeeded,
    OlderRow "http_req_failed" raw texts → amount? texts.1 = some percentage →
      count? texts.2.1 = some failed → count? texts.2.2 = some succeeded →
        ∃ total : UInt64, total.toNat = failed.toNat + succeeded.toNat ∧
          m.httpReqFailed = if total = 0 then none else some ⟨percentage, failed, total⟩
  noChecks : NoNewerChecks raw → NoOlder "checks" raw →
    m.checksSucceeded = none ∧ m.checksFailed = none
  noRequests : NoNewerRequests raw → NoOlder "http_req_failed" raw → m.httpReqFailed = none

/-! ## Checks -/

section Checks

variable {raw : String} {texts : RateTexts} {percentage : Binary64} {total passed failed : UInt64}

theorem checksShare?_newer (hrow : NewerRow "checks_succeeded" raw texts)
    (hpercentage : amount? texts.1 = some percentage) (htotal : count? texts.2.2 = some total) :
    checksShare? raw.toList = some (percentage, total) := by
  unfold checksShare?
  rw [find_share_iff.2 hrow]
  simp [hpercentage, htotal]

/-- Without the newer layout the older one is asked. -/
theorem checksShare?_of_noNewer (h : NoNewerChecks raw) :
    checksShare? raw.toList = (find "checks" .markedShare raw.toList).bind fun texts => do
      return (← amount? texts.1, (← count? texts.2.1) + (← count? texts.2.2)) := by
  unfold checksShare?
  cases hfind : find "checks_succeeded" .share raw.toList with
  | none => rfl
  | some texts => rcases h texts (find_share_iff.1 hfind) with h | h <;> simp [h]

theorem checksShare?_older (hnewer : NoNewerChecks raw) (hrow : OlderRow "checks" raw texts)
    (hpercentage : amount? texts.1 = some percentage) (hpassed : count? texts.2.1 = some passed)
    (hfailed : count? texts.2.2 = some failed) :
    checksShare? raw.toList = some (percentage, passed + failed) := by
  rw [checksShare?_of_noNewer hnewer, find_markedShare_iff.2 hrow]
  simp [hpercentage, hpassed, hfailed]

/-- Half of all checks passed, and there are so many that their number wraps to nothing. -/
example : checksShare? "checks: 50% ✓ 9223372036854775808 ✗ 9223372036854775808".toList =
    some (.ofNat 50, 0) := by
  decide +kernel

theorem checksShare?_eq_none (hnewer : NoNewerChecks raw) (holder : NoOlder "checks" raw) :
    checksShare? raw.toList = none := by
  rw [checksShare?_of_noNewer hnewer]
  cases hfind : find "checks" .markedShare raw.toList with
  | none => rfl
  | some texts => rcases holder texts (find_markedShare_iff.1 hfind) with h | h | h <;> simp [h]

theorem summary_checks (raw : String) :
    (summary raw).checksSucceeded = Layout.checksShareOfSome? raw.toList ∧
      (summary raw).checksFailed = (Layout.checksShareOfSome? raw.toList).map complement := by
  rw [summary_eq_fillAll, Layout.fillAll_sections]
  exact ⟨rfl, rfl⟩

theorem summary_checks_of_some {n : UInt64} (h : checksShare? raw.toList = some (percentage, n)) :
    ((summary raw).checksSucceeded, (summary raw).checksFailed) =
      if n = 0 then (none, none) else (some percentage, some (complement percentage)) := by
  rw [(summary_checks raw).1, (summary_checks raw).2, Layout.checksShareOfSome?_of_some h]
  split_ifs <;> rfl

end Checks

/-! ## Failed requests -/

section Requests

variable {raw : String} {texts : RateTexts} {percentage : Binary64}
  {total count failed succeeded : UInt64}

theorem failureRate?_newer (hrow : NewerRow "http_req_failed" raw texts)
    (hpercentage : amount? texts.1 = some percentage) (hcount : count? texts.2.1 = some count)
    (htotal : count? texts.2.2 = some total) :
    failureRate? raw.toList = some ⟨percentage, count, total⟩ := by
  unfold failureRate?
  rw [find_share_iff.2 hrow]
  simp [hpercentage, hcount, htotal]

theorem failureRate?_of_noNewer (h : NoNewerRequests raw) :
    failureRate? raw.toList = (find "http_req_failed" .markedShare raw.toList).bind fun texts => do
      let failed ← count? texts.2.1
      return ⟨← amount? texts.1, failed, failed + (← count? texts.2.2)⟩ := by
  unfold failureRate?
  cases hfind : find "http_req_failed" .share raw.toList with
  | none => rfl
  | some texts => rcases h texts (find_share_iff.1 hfind) with h | h | h <;> simp [h]

theorem failureRate?_older (hnewer : NoNewerRequests raw)
    (hrow : OlderRow "http_req_failed" raw texts) (hpercentage : amount? texts.1 = some percentage)
    (hfailed : count? texts.2.1 = some failed) (hsucceeded : count? texts.2.2 = some succeeded) :
    failureRate? raw.toList = some ⟨percentage, failed, failed + succeeded⟩ := by
  rw [failureRate?_of_noNewer hnewer, find_markedShare_iff.2 hrow]
  simp [hpercentage, hfailed, hsucceeded]

theorem failureRate?_eq_none (hnewer : NoNewerRequests raw)
    (holder : NoOlder "http_req_failed" raw) : failureRate? raw.toList = none := by
  rw [failureRate?_of_noNewer hnewer]
  cases hfind : find "http_req_failed" .markedShare raw.toList with
  | none => rfl
  | some texts => rcases holder texts (find_markedShare_iff.1 hfind) with h | h | h <;> simp [h]

theorem summary_httpReqFailed (raw : String) :
    (summary raw).httpReqFailed = (failureRate? raw.toList).filter fun rate => rate.total != 0 := by
  rw [summary_eq_fillAll, Layout.fillAll_sections]

theorem summary_httpReqFailed_of_some {rate : FailureRate}
    (h : failureRate? raw.toList = some rate) :
    (summary raw).httpReqFailed = if rate.total = 0 then none else some rate := by
  rw [summary_httpReqFailed, h, Option.filter_some]
  by_cases htotal : rate.total = 0 <;> simp [htotal]

end Requests

/-- The rates of a report are those of its first rows, the newer layout before the older one. -/
theorem ratesFollow_summary {raw : String} (hfit : OlderSumsFit raw) :
    RatesFollow raw (summary raw) where
  together := by
    rw [(summary_checks raw).1, (summary_checks raw).2, Option.isSome_map]
  total_pos rate hrate := by
    rw [summary_httpReqFailed, Option.filter_eq_some_iff] at hrate
    exact UInt64.pos_iff_ne_zero.2 (bne_iff_ne.1 hrate.2)
  newerChecks texts percentage total hrow hpercentage htotal :=
    summary_checks_of_some (checksShare?_newer hrow hpercentage htotal)
  newerRequests texts percentage count total hrow hpercentage hcount htotal :=
    summary_httpReqFailed_of_some (failureRate?_newer hrow hpercentage hcount htotal)
  olderChecks hnewer texts percentage passed failed hrow hpercentage hpassed hfailed := by
    have hsum := toNat_add_of_fits hfit (by decide) hrow hpassed hfailed
    have hzero : passed + failed = 0 ↔ passed.toNat + failed.toNat = 0 := by
      rw [← hsum, ← UInt64.toNat_inj, UInt64.toNat_zero]
    have hshare := checksShare?_older hnewer hrow hpercentage hpassed hfailed
    simpa only [hzero] using summary_checks_of_some hshare
  olderRequests hnewer texts percentage failed succeeded hrow hpercentage hfailed hsucceeded :=
    ⟨failed + succeeded, toNat_add_of_fits hfit (by decide) hrow hfailed hsucceeded,
      summary_httpReqFailed_of_some
        (failureRate?_older hnewer hrow hpercentage hfailed hsucceeded)⟩
  noChecks hnewer holder := by
    have hshare := Layout.checksShareOfSome?_of_none (checksShare?_eq_none hnewer holder)
    rw [(summary_checks raw).1, (summary_checks raw).2, hshare]
    exact ⟨rfl, rfl⟩
  noRequests hnewer holder := by
    rw [summary_httpReqFailed, failureRate?_eq_none hnewer holder]
    rfl

/-- Rows of both layouts. The newer one has nothing to share, or a percentage that cannot be
read. -/
def twoLayouts : String :=
  "http_req_failed: 0% 0 out of 0\nhttp_req_failed: 50% ✓ 1 ✗ 1\n" ++
    "checks_succeeded: 1.2.3% 1 out of 2\nchecks: 50% ✓ 3 ✗ 3\n"

theorem ratesFollow_summary_twoLayouts :
    OlderSumsFit twoLayouts ∧ (summary twoLayouts).httpReqFailed = none ∧
      (summary twoLayouts).checksSucceeded = some (.ofNat 50) := by
  have hchecks : OlderRow "checks" twoLayouts (['5', '0'], ['3'], ['3']) :=
    find_markedShare_iff.1 (by decide +kernel)
  have hrequests : OlderRow "http_req_failed" twoLayouts (['5', '0'], ['1'], ['1']) :=
    find_markedShare_iff.1 (by decide +kernel)
  have hunread : NewerRow "checks_succeeded" twoLayouts (['1', '.', '2', '.', '3'], ['1'], ['2']) :=
    find_share_iff.1 (by decide +kernel)
  have hfit : OlderSumsFit twoLayouts := by
    intro name hname texts marked unmarked hrow hmarked hunmarked
    have hthree : count? ['3'] = some 3 := by decide +kernel
    have hone : count? ['1'] = some 1 := by decide +kernel
    simp only [List.mem_cons, List.not_mem_nil, or_false] at hname
    rcases hname with rfl | rfl
    · obtain rfl := hchecks.eq hrow
      obtain rfl := Option.some.inj (hthree.symm.trans hmarked)
      obtain rfl := Option.some.inj (hthree.symm.trans hunmarked)
      decide
    · obtain rfl := hrequests.eq hrow
      obtain rfl := Option.some.inj (hone.symm.trans hmarked)
      obtain rfl := Option.some.inj (hone.symm.trans hunmarked)
      decide
  have hfollow := ratesFollow_summary hfit
  have hnewer : NoNewerChecks twoLayouts := by
    intro texts hrow
    obtain rfl := hunread.eq hrow
    exact .inl (by decide +kernel)
  refine ⟨hfit, ?_, ?_⟩
  · exact hfollow.newerRequests (['0'], ['0'], ['0']) .zero 0 0
      (find_share_iff.1 (by decide +kernel)) (by decide +kernel) (by decide +kernel)
      (by decide +kernel)
  · have hpair := hfollow.olderChecks hnewer _ (.ofNat 50) 3 3 hchecks (by decide +kernel)
      (by decide +kernel) (by decide +kernel)
    exact (Prod.mk.inj hpair).1

end LoadTest.Report
