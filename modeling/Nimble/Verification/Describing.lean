import Mathlib.Data.List.Induction
import Nimble.Model.SmallLibraries

/-! # Describing the connection quality

A description evaluates the quality again, so it counts as a sample of the rating. The counters
and the reason, on which a disconnect depends, do not see it. -/

namespace Nimble

variable {L : Libraries}

/-! ## Calls -/

/-- A call that tells the quality of a client something, or describes it. -/
inductive QualityCall
  | update (state : NimbleClientState)
  | droppedDatagrams (delta : Nat)
  | receivedUsableDatagram
  | receivedAuthoritativeSteps (delta : Nat)
  | gameStepLatency (latencyInMs : Nat)
  | describe
  deriving DecidableEq

/-- A call, in the build whose quality tick is `tick`. -/
def QualityCall.perform
    (tick : NimbleClientConnectionQuality L → NimbleClientConnectionQuality L)
    (self : NimbleClientConnectionQuality L) : QualityCall → NimbleClientConnectionQuality L
  | .update state => if state ≠ .synced then self else tick self
  | .droppedDatagrams delta => nimbleClientConnectionQualityDroppedDatagrams self delta
  | .receivedUsableDatagram => nimbleClientConnectionQualityReceivedUsableDatagram self
  | .receivedAuthoritativeSteps delta =>
    nimbleClientConnectionQualityReceivedAuthoritativeSteps self delta
  | .gameStepLatency latencyInMs => nimbleClientConnectionQualityGameStepLatency self latencyInMs
  | .describe => (nimbleClientConnectionQualityDescribe self).2

/-- The quality after some calls. -/
def qualityAfter (self : NimbleClientConnectionQuality L) (calls : List QualityCall) :
    NimbleClientConnectionQuality L :=
  calls.foldl (QualityCall.perform qualityTick) self

/-- The quality after some calls in the build with `CLOG_LOG_ENABLED`. -/
def qualityAfterLogging (self : NimbleClientConnectionQuality L) (calls : List QualityCall) :
    NimbleClientConnectionQuality L :=
  calls.foldl (QualityCall.perform qualityTickLogging) self

/-- The calls without the descriptions among them. -/
def withoutDescriptions (calls : List QualityCall) : List QualityCall :=
  calls.filter fun call => call ≠ .describe

theorem qualityAfter_append_singleton (self : NimbleClientConnectionQuality L)
    (calls : List QualityCall) (call : QualityCall) :
    qualityAfter self (calls ++ [call]) =
      QualityCall.perform qualityTick (qualityAfter self calls) call := by
  simp [qualityAfter]

theorem qualityAfterLogging_append_singleton (self : NimbleClientConnectionQuality L)
    (calls : List QualityCall) (call : QualityCall) :
    qualityAfterLogging self (calls ++ [call]) =
      QualityCall.perform qualityTickLogging (qualityAfterLogging self calls) call := by
  simp [qualityAfterLogging]

/-! ## What a description leaves alone -/

/-- `other` differs from `self` in the rating at most. -/
def DiffersInRating (self other : NimbleClientConnectionQuality L) : Prop :=
  ∃ ratingStat lastLatencyMs qualityRating, other = { self with
    ratingStat := ratingStat
    lastLatencyMs := lastLatencyMs
    qualityRating := qualityRating }

theorem DiffersInRating.refl (self : NimbleClientConnectionQuality L) :
    DiffersInRating self self :=
  ⟨_, _, _, rfl⟩

theorem DiffersInRating.trans {a b c : NimbleClientConnectionQuality L}
    (hab : DiffersInRating a b) (hbc : DiffersInRating b c) : DiffersInRating a c := by
  obtain ⟨_, _, _, rfl⟩ := hab
  obtain ⟨_, _, _, rfl⟩ := hbc
  exact ⟨_, _, _, rfl⟩

theorem differsInRating_describe (self : NimbleClientConnectionQuality L) :
    DiffersInRating self (nimbleClientConnectionQualityDescribe self).2 :=
  ⟨_, _, _, rfl⟩

theorem differsInRating_considerDisconnect (reason : NimbleConnectionQualityDisconnectReason)
    {a b : NimbleClientConnectionQuality L} (h : DiffersInRating a b) :
    DiffersInRating (considerDisconnect reason a) (considerDisconnect reason b) := by
  obtain ⟨_, _, _, rfl⟩ := h
  simp only [considerDisconnect]
  split
  · exact ⟨_, _, _, rfl⟩
  · split <;> exact ⟨_, _, _, rfl⟩

theorem differsInRating_noticeQuality (issued : Bool) (self : NimbleClientConnectionQuality L) :
    DiffersInRating self (noticeQuality issued self) := by
  cases issued with
  | false => exact .refl _
  | true => exact differsInRating_describe self

@[simp] theorem consideringDisconnectCounter_noticeQuality (issued : Bool)
    (self : NimbleClientConnectionQuality L) :
    (noticeQuality issued self).consideringDisconnectCounter =
      self.consideringDisconnectCounter := by
  obtain ⟨_, _, _, h⟩ := differsInRating_noticeQuality issued self
  rw [h]

/-- The quality behind the first two notices of a tick that raises the counter to `counter`. -/
def NimbleClientConnectionQuality.noticed (self : NimbleClientConnectionQuality L)
    (counter : Nat) : NimbleClientConnectionQuality L :=
  noticeQuality (counter % 20 = 0) (noticeQuality (counter = 1)
    { self with consideringDisconnectCounter := counter })

theorem considerDisconnectLogging_of_ne {reason : NimbleConnectionQualityDisconnectReason}
    (h : reason ≠ .keepConnection) (self : NimbleClientConnectionQuality L) :
    considerDisconnectLogging reason self =
      if self.consideringDisconnectCounter + 1 > 60 then
        noticeQuality true
          { self.noticed (self.consideringDisconnectCounter + 1) with reason := reason }
      else self.noticed (self.consideringDisconnectCounter + 1) := by
  rw [considerDisconnectLogging, if_neg h]
  simp only [consideringDisconnectCounter_noticeQuality, NimbleClientConnectionQuality.noticed]

theorem differsInRating_noticed (self : NimbleClientConnectionQuality L) (counter : Nat) :
    DiffersInRating { self with consideringDisconnectCounter := counter }
      (self.noticed counter) :=
  (differsInRating_noticeQuality _ _).trans (differsInRating_noticeQuality _ _)

/-- The notices of a tick change the rating at most. -/
theorem differsInRating_considerDisconnectLogging
    (reason : NimbleConnectionQualityDisconnectReason)
    (self : NimbleClientConnectionQuality L) :
    DiffersInRating (considerDisconnect reason self) (considerDisconnectLogging reason self) := by
  by_cases hkeep : reason = .keepConnection
  · rw [considerDisconnect, considerDisconnectLogging, if_pos hkeep, if_pos hkeep]
    exact .refl _
  obtain ⟨_, _, _, hnoticed⟩ := differsInRating_noticed self (self.consideringDisconnectCounter + 1)
  rw [considerDisconnectLogging_of_ne hkeep, considerDisconnect, if_neg hkeep, hnoticed]
  split
  · exact ⟨_, _, _, rfl⟩
  · exact ⟨_, _, _, rfl⟩

theorem differsInRating_perform {a b : NimbleClientConnectionQuality L}
    (h : DiffersInRating a b) (call : QualityCall) :
    DiffersInRating (QualityCall.perform qualityTick a call)
      (QualityCall.perform qualityTick b call) := by
  cases call with
  | update state =>
      simp only [QualityCall.perform]
      split
      · exact h
      · obtain ⟨_, _, _, rfl⟩ := h
        exact differsInRating_considerDisconnect _ ⟨_, _, _, rfl⟩
  | _ =>
      obtain ⟨_, _, _, rfl⟩ := h
      exact ⟨_, _, _, rfl⟩

theorem differsInRating_performLogging (self : NimbleClientConnectionQuality L)
    (call : QualityCall) :
    DiffersInRating (QualityCall.perform qualityTick self call)
      (QualityCall.perform qualityTickLogging self call) := by
  cases call with
  | update state =>
      simp only [QualityCall.perform]
      split
      · exact .refl _
      · exact differsInRating_considerDisconnectLogging _ _
  | _ => exact .refl _

/-- Whatever is described on the way, the fields other than the rating are as without. -/
theorem differsInRating_qualityAfter (self : NimbleClientConnectionQuality L)
    (calls : List QualityCall) :
    DiffersInRating (qualityAfter self (withoutDescriptions calls)) (qualityAfter self calls) := by
  induction calls using List.reverseRecOn with
  | nil => exact .refl _
  | append_singleton calls call ih =>
      rw [qualityAfter_append_singleton, withoutDescriptions, List.filter_append]
      by_cases hdescribe : call = .describe
      · simp only [hdescribe, ne_eq, not_true_eq_false, decide_false, Bool.false_eq_true,
          not_false_eq_true, List.filter_cons_of_neg, List.filter_nil, List.append_nil]
        exact ih.trans (differsInRating_describe _)
      · simp only [hdescribe, ne_eq, not_false_eq_true, decide_true, List.filter_cons_of_pos,
          List.filter_nil, qualityAfter_append_singleton]
        exact differsInRating_perform ih call

/-- In the logging build they are as in the other. -/
theorem differsInRating_qualityAfterLogging (self : NimbleClientConnectionQuality L)
    (calls : List QualityCall) :
    DiffersInRating (qualityAfter self calls) (qualityAfterLogging self calls) := by
  induction calls using List.reverseRecOn with
  | nil => exact .refl _
  | append_singleton calls call ih =>
      rw [qualityAfter_append_singleton, qualityAfterLogging_append_singleton]
      exact (differsInRating_perform ih call).trans (differsInRating_performLogging _ call)

/-! ## What a description changes -/

/-- A statistic as documented: it collects samples until there are `threshold` of them, and
starts over. -/
structure StatsBatches (L : Libraries) where
  threshold : L.StatsInt → Nat
  collected : L.StatsInt → Nat
  threshold_init : ∀ count, threshold (L.statsIntInit count) = count
  threshold_add : ∀ stat v, threshold (L.statsIntAdd stat v) = threshold stat
  collected_add : ∀ stat v, collected (L.statsIntAdd stat v) =
    if threshold stat ≤ collected stat + 1 then 0 else collected stat + 1

section

variable (batches : StatsBatches L)

/-- The rating is collected in batches of ten, as it is from its reset on. -/
def StatsBatches.CollectsRating (self : NimbleClientConnectionQuality L) : Prop :=
  batches.threshold self.ratingStat = 10

/-- The samples of the rating in the current batch. -/
def StatsBatches.ratings (self : NimbleClientConnectionQuality L) : Nat :=
  batches.collected self.ratingStat

variable {batches}

theorem collectsRating_reset (self : NimbleClientConnectionQuality L) :
    batches.CollectsRating (nimbleClientConnectionQualityReset self) :=
  batches.threshold_init 10

theorem collectsRating_describe {self : NimbleClientConnectionQuality L}
    (h : batches.CollectsRating self) :
    batches.CollectsRating (nimbleClientConnectionQualityDescribe self).2 :=
  (batches.threshold_add _ _).trans h

theorem ratingStat_considerDisconnect (reason : NimbleConnectionQualityDisconnectReason)
    (self : NimbleClientConnectionQuality L) :
    (considerDisconnect reason self).ratingStat = self.ratingStat := by
  rw [considerDisconnect]
  split
  · rfl
  · split <;> rfl

theorem collectsRating_perform {self : NimbleClientConnectionQuality L}
    (h : batches.CollectsRating self) (call : QualityCall) :
    batches.CollectsRating (QualityCall.perform qualityTick self call) := by
  cases call with
  | update state =>
      simp only [QualityCall.perform]
      split
      · exact h
      · rw [StatsBatches.CollectsRating, qualityTick]
        dsimp only
        rw [ratingStat_considerDisconnect]
        exact (batches.threshold_add _ _).trans h
  | describe => exact collectsRating_describe h
  | _ => exact h

theorem collectsRating_qualityAfter {self : NimbleClientConnectionQuality L}
    (h : batches.CollectsRating self) (calls : List QualityCall) :
    batches.CollectsRating (qualityAfter self calls) := by
  induction calls using List.reverseRecOn with
  | nil => exact h
  | append_singleton calls call ih =>
      rw [qualityAfter_append_singleton]
      exact collectsRating_perform ih call

theorem ratings_describe {self : NimbleClientConnectionQuality L}
    (h : batches.CollectsRating self) :
    batches.ratings (nimbleClientConnectionQualityDescribe self).2 =
      if 10 ≤ batches.ratings self + 1 then 0 else batches.ratings self + 1 := by
  have hadd := batches.collected_add self.ratingStat (evaluateRating self)
  rw [show batches.threshold self.ratingStat = 10 from h] at hadd
  exact hadd

/-- One description more is visible. -/
theorem describe_ne {self : NimbleClientConnectionQuality L} (h : batches.CollectsRating self) :
    (nimbleClientConnectionQualityDescribe self).2 ≠ self := by
  intro hsame
  have hratings := ratings_describe h
  rw [hsame] at hratings
  split at hratings <;> omega

theorem collectsRating_noticeQuality {self : NimbleClientConnectionQuality L}
    (h : batches.CollectsRating self) (issued : Bool) :
    batches.CollectsRating (noticeQuality issued self) := by
  cases issued with
  | false => exact h
  | true => exact collectsRating_describe h

theorem ratings_noticeQuality {self : NimbleClientConnectionQuality L}
    (h : batches.CollectsRating self) (issued : Bool) :
    batches.ratings (noticeQuality issued self) =
      if issued then if 10 ≤ batches.ratings self + 1 then 0 else batches.ratings self + 1
      else batches.ratings self := by
  cases issued with
  | false => rfl
  | true => exact ratings_describe h

end

/-- A tick with the recommendation to disconnect issues a notice when the counter gets to this
value. -/
def IsNoticed (counter : Nat) : Prop :=
  counter = 1 ∨ counter % 20 = 0 ∨ 60 < counter

theorem considerDisconnectLogging_of_not_noticed
    {reason : NimbleConnectionQualityDisconnectReason} {self : NimbleClientConnectionQuality L}
    (h : reason ≠ .keepConnection → ¬IsNoticed (self.consideringDisconnectCounter + 1)) :
    considerDisconnectLogging reason self = considerDisconnect reason self := by
  by_cases hkeep : reason = .keepConnection
  · rw [considerDisconnect, considerDisconnectLogging, if_pos hkeep, if_pos hkeep]
  have hquiet := h hkeep
  rw [IsNoticed, not_or, not_or] at hquiet
  rw [considerDisconnectLogging_of_ne hkeep, considerDisconnect, if_neg hkeep,
    if_neg hquiet.2.2, if_neg hquiet.2.2, NimbleClientConnectionQuality.noticed,
    decide_eq_false hquiet.1, decide_eq_false hquiet.2.1]
  rfl

/-- A tick issues one or two notices, and a batch of ten does not hide them. -/
theorem considerDisconnectLogging_ne {batches : StatsBatches L}
    {reason : NimbleConnectionQualityDisconnectReason} {self : NimbleClientConnectionQuality L}
    (hcollects : batches.CollectsRating self) (hkeep : reason ≠ .keepConnection)
    (h : IsNoticed (self.consideringDisconnectCounter + 1)) :
    considerDisconnectLogging reason self ≠ considerDisconnect reason self := by
  intro hsame
  have hratings : batches.ratings (considerDisconnectLogging reason self) =
      batches.ratings self := by
    rw [hsame, StatsBatches.ratings, ratingStat_considerDisconnect]
    rfl
  have hcounted : batches.CollectsRating { self with
      consideringDisconnectCounter := self.consideringDisconnectCounter + 1 } := hcollects
  have hfirst := collectsRating_noticeQuality hcounted
    (decide (self.consideringDisconnectCounter + 1 = 1))
  have hsecond := collectsRating_noticeQuality hfirst
    (decide ((self.consideringDisconnectCounter + 1) % 20 = 0))
  have hnoticed := ratings_noticeQuality hfirst
    (decide ((self.consideringDisconnectCounter + 1) % 20 = 0))
  rw [ratings_noticeQuality hcounted] at hnoticed
  have hself : batches.ratings { self with
      consideringDisconnectCounter := self.consideringDisconnectCounter + 1 } =
    batches.ratings self := rfl
  rw [hself] at hnoticed
  rw [considerDisconnectLogging_of_ne hkeep, NimbleClientConnectionQuality.noticed] at hratings
  rw [IsNoticed] at h
  by_cases hlast : self.consideringDisconnectCounter + 1 > 60
  · have hgivesUp := @ratings_noticeQuality _ batches
      { noticeQuality (decide ((self.consideringDisconnectCounter + 1) % 20 = 0))
          (noticeQuality (decide (self.consideringDisconnectCounter + 1 = 1)) { self with
            consideringDisconnectCounter := self.consideringDisconnectCounter + 1 }) with
        reason := reason } hsecond true
    rw [if_pos hlast, hgivesUp] at hratings
    simp only [decide_eq_true_eq, ↓reduceIte] at hnoticed hratings
    change (if 10 ≤ batches.ratings (noticeQuality _ _) + 1 then 0 else
      batches.ratings (noticeQuality _ _) + 1) = _ at hratings
    rw [hnoticed] at hratings
    split_ifs at hratings <;> omega
  · rw [if_neg hlast, hnoticed] at hratings
    simp only [decide_eq_true_eq] at hratings
    split_ifs at hratings <;> omega

/-! ## Descriptions and builds -/

/-- The call issues a notice in the logging build. -/
def IssuesNotice (self : NimbleClientConnectionQuality L) (call : QualityCall) : Prop :=
  call = .update .synced ∧ evaluateReason (countTick self) ≠ .keepConnection ∧
    IsNoticed (self.consideringDisconnectCounter + 1)

/-- All along the calls the quality is as it is without the descriptions among them. -/
def DescribingIsInvisible (self : NimbleClientConnectionQuality L) (calls : List QualityCall) :
    Prop :=
  ∀ before, before <+: calls →
    qualityAfter self before = qualityAfter self (withoutDescriptions before)

/-- All along the calls the quality is the same in both builds. -/
def BuildsAgree (self : NimbleClientConnectionQuality L) (calls : List QualityCall) : Prop :=
  ∀ before, before <+: calls → qualityAfterLogging self before = qualityAfter self before

theorem withoutDescriptions_of_not_mem {calls : List QualityCall} (h : .describe ∉ calls) :
    withoutDescriptions calls = calls := by
  apply List.filter_eq_self.mpr
  intro call hcall
  apply decide_eq_true
  rintro rfl
  exact h hcall

theorem describingIsInvisible_iff (batches : StatsBatches L)
    {self : NimbleClientConnectionQuality L} (hself : batches.CollectsRating self)
    (calls : List QualityCall) : DescribingIsInvisible self calls ↔ .describe ∉ calls := by
  constructor
  · intro hinvisible hdescribe
    obtain ⟨before, after, rfl⟩ := List.append_of_mem hdescribe
    have hbefore := hinvisible before (List.prefix_append _ _)
    have hbehind := hinvisible (before ++ [.describe]) ⟨after, by simp⟩
    have hsame : withoutDescriptions (before ++ [.describe]) = withoutDescriptions before := by
      simp [withoutDescriptions]
    rw [hsame, ← hbefore, qualityAfter_append_singleton] at hbehind
    exact describe_ne (collectsRating_qualityAfter hself before) hbehind
  · rintro hnone before ⟨after, rfl⟩
    rw [withoutDescriptions_of_not_mem fun h => hnone (List.mem_append_left _ h)]

/-- A call does the same in both builds exactly when it issues no notice. -/
theorem performLogging_eq_iff (batches : StatsBatches L)
    {self : NimbleClientConnectionQuality L} (hself : batches.CollectsRating self)
    (call : QualityCall) :
    QualityCall.perform qualityTickLogging self call = QualityCall.perform qualityTick self call ↔
      ¬IssuesNotice self call := by
  cases call with
  | update state =>
      simp only [QualityCall.perform]
      by_cases hsynced : state = .synced
      · rw [if_neg (not_not.mpr hsynced), if_neg (not_not.mpr hsynced)]
        have hcollects : batches.CollectsRating (evaluate (countTick self)).2 :=
          (batches.threshold_add _ _).trans hself
        constructor
        · rintro hsame ⟨_, hkeep, hnoticed⟩
          exact considerDisconnectLogging_ne hcollects hkeep hnoticed hsame
        · intro hquiet
          apply considerDisconnectLogging_of_not_noticed
          intro hkeep hnoticed
          exact hquiet ⟨by rw [hsynced], hkeep, hnoticed⟩
      · rw [if_pos hsynced, if_pos hsynced]
        exact iff_of_true rfl fun h => hsynced (QualityCall.update.inj h.1)
  | _ => exact iff_of_true rfl fun h => nomatch h.1

theorem buildsAgree_iff (batches : StatsBatches L) {self : NimbleClientConnectionQuality L}
    (hself : batches.CollectsRating self) (calls : List QualityCall) :
    BuildsAgree self calls ↔
      ∀ before call, before ++ [call] <+: calls → ¬IssuesNotice (qualityAfter self before) call := by
  constructor
  · intro hagree before call hbegins
    have hbefore := hagree before ((List.prefix_append _ _).trans hbegins)
    have hbehind := hagree _ hbegins
    rw [qualityAfterLogging_append_singleton, qualityAfter_append_singleton, hbefore] at hbehind
    exact (performLogging_eq_iff batches (collectsRating_qualityAfter hself before) call).mp
      hbehind
  · intro hquiet before hbegins
    induction before using List.reverseRecOn with
    | nil => rfl
    | append_singleton before call ih =>
        have hbefore := ih ((List.prefix_append _ _).trans hbegins)
        rw [qualityAfterLogging_append_singleton, qualityAfter_append_singleton, hbefore]
        exact (performLogging_eq_iff batches (collectsRating_qualityAfter hself before) call).mpr
          (hquiet before call hbegins)

/-- Descriptions are invisible only where there are none, and the two builds agree only as long
as no notice is issued. In any case the difference is one of the rating. -/
theorem describing (batches : StatsBatches L) (self : NimbleClientConnectionQuality L)
    (hself : batches.CollectsRating self) (calls : List QualityCall) :
    (DescribingIsInvisible self calls ↔ .describe ∉ calls) ∧
      (BuildsAgree self calls ↔ ∀ before call, before ++ [call] <+: calls →
        ¬IssuesNotice (qualityAfter self before) call) ∧
      DiffersInRating (qualityAfter self (withoutDescriptions calls)) (qualityAfter self calls) ∧
      DiffersInRating (qualityAfter self calls) (qualityAfterLogging self calls) :=
  ⟨describingIsInvisible_iff batches hself calls, buildsAgree_iff batches hself calls,
    differsInRating_qualityAfter self calls, differsInRating_qualityAfterLogging self calls⟩

/-! ## Runs on fixed inputs -/

namespace Small

def statsBatches : StatsBatches smallLibraries where
  threshold := Stats.threshold
  collected := Stats.count
  threshold_init _ := rfl
  threshold_add stat v := by
    change (stat.add v).threshold = _
    rw [Stats.add]
    split <;> rfl
  collected_add stat v := by
    change (stat.add v).count = _
    rw [Stats.add]
    split <;> rfl

def freshQuality : NimbleClientConnectionQuality smallLibraries :=
  nimbleClientConnectionQualityReset zeroQuality

end Small

open Nimble.Small

/-- A description shows, and the first fifteen ticks pass without a notice. -/
theorem describing_fresh :
    ¬DescribingIsInvisible freshQuality [.update .synced, .describe, .gameStepLatency 80] ∧
      BuildsAgree freshQuality (List.replicate 15 (.update .synced)) := by
  have hfresh := @collectsRating_reset _ statsBatches zeroQuality
  have hkeeps : ∀ n < 15, evaluateReason (countTick (qualityAfter freshQuality
      (List.replicate n (.update .synced)))) = .keepConnection := by decide +kernel
  constructor
  · intro hinvisible
    exact (describing statsBatches freshQuality hfresh _).1.mp hinvisible (by decide)
  · refine (describing statsBatches freshQuality hfresh _).2.1.mpr fun before call hbegins => ?_
    have hticks : ∀ c ∈ before, c = QualityCall.update .synced := fun c hc =>
      List.eq_of_mem_replicate (hbegins.subset (List.mem_append_left _ hc))
    have hlength : before.length < 15 := by
      have hle := hbegins.length_le
      rw [List.length_append, List.length_singleton, List.length_replicate] at hle
      exact hle
    rintro ⟨_, hnoticed, _⟩
    rw [List.eq_replicate_of_mem hticks] at hnoticed
    exact hnoticed (hkeeps _ hlength)

/-- A description counts as a rating, and the notice of the sixteenth tick makes the logging
build count one more. -/
theorem describing_counterexample :
    ¬DescribingIsInvisible freshQuality [.describe] ∧
      ¬BuildsAgree freshQuality (List.replicate 16 (.update .synced)) := by
  constructor
  · intro h
    have hrating := congrArg (fun quality => quality.ratingStat.count) (h _ (List.prefix_refl _))
    exact absurd hrating (by decide +kernel)
  · intro h
    have hrating := congrArg (fun quality => quality.ratingStat.count) (h _ (List.prefix_refl _))
    exact absurd hrating (by decide +kernel)

end Nimble
