import Mathlib.Order.Bounds.Defs
import Mathlib.Order.Monotone.Basic
import Mathlib.Data.Nat.Find
import MediaRelay.Proofs.Token
import MediaRelay.Rehearsal.Tape
/-! Retried attempts on the clock. When each attempt would start is told from the times that
attempts take and the delays alone. What is run under a token are the attempts of that course that
start before the token fires, and the course is the same to its end if the token fires after it. -/

namespace MediaRelay

namespace MediaError

theorem retryable_eq_false_iff {e : MediaError} :
    e.retryable = false ↔ (∃ size limit, e = .oversizedPayload size limit) ∨ e = .cancelled := by
  cases e <;> simp [retryable]

end MediaError

namespace Rehearsal

structure Course where
  time : ℕ → Nanos
  failure? : ℕ → Option MediaError

namespace Course

variable (b : Backoff) (s : Course)

def take (k : ℕ) : Take := ⟨s.time k, (s.failure? k).elim .succeeds .fails⟩

/-- How an attempt ends. One that succeeds gives its number, counted from one. -/
def outcome (k : ℕ) : Outcome ℕ := (s.failure? k).elim (.done (k + 1)) .failed

/-- When an attempt starts, if those before it have failed: the first one at once, and each other
one when its delay is over after the end of the one before. -/
def start : ℕ → Nanos
  | 0 => 0
  | k + 1 => start k + s.time k + b.delay k

def finish (k : ℕ) : Nanos := s.start b k + s.time k

def EndsAt (k : ℕ) : Prop :=
  s.failure? k = none ∨ (∃ size limit, s.failure? k = some (.oversizedPayload size limit)) ∨
    s.failure? k = some .cancelled ∨ k = b.retries

def starts (k : ℕ) : List Nanos := (List.range (k + 1)).map (s.start b)

/-- A report of the course up to its last attempt, under a token that fires at a given time, if
at all. Attempts are made ready when they start, and the first one even if it never does. -/
structure IsReport (cancelAt : Option Nanos) (last : ℕ) (r : TapeReport) : Prop where
  whole : (∀ c ∈ cancelAt, s.finish b last < c) →
    r.outcome = s.outcome last ∧ r.begun = s.starts b last ∧ r.elapsed = s.finish b last
  cut : ∀ c ∈ cancelAt, c ≤ s.finish b last →
    r.outcome = .failed .cancelled ∧ r.begun = (s.starts b last).filter (· < c) ∧ r.elapsed = c
  attempts : r.attempts = max r.begun.length 1

variable {b s}

theorem start_mono : Monotone (s.start b) :=
  monotone_nat_of_le_succ fun k =>
    Nat.le_trans (Nat.le_add_right _ (s.time k)) (Nat.le_add_right _ (b.delay k))

theorem finish_le_start {k l : ℕ} (h : k < l) : s.finish b k ≤ s.start b l :=
  Nat.le_trans (Nat.le_add_right _ (b.delay k)) (start_mono h)

theorem finish_le_finish {k l : ℕ} (h : k ≤ l) : s.finish b k ≤ s.finish b l := by
  rcases Nat.eq_or_lt_of_le h with rfl | hlt
  · exact Nat.le_refl _
  · exact Nat.le_trans (finish_le_start hlt) (Nat.le_add_right _ _)

theorem exists_isLeast_endsAt : ∃ last, IsLeast {k | s.EndsAt b k} last := by
  classical
  have hends : ∃ k, s.EndsAt b k := ⟨b.retries, .inr (.inr (.inr rfl))⟩
  exact ⟨Nat.find hends, Nat.find_spec hends, fun k hk => Nat.find_min' hends hk⟩

/-- Where the course goes on, the attempt has failed, and another one may mend it. -/
theorem of_not_endsAt {k : ℕ} (h : ¬ s.EndsAt b k) :
    (∃ e, s.failure? k = some e ∧ e.retryable = true) ∧ k ≠ b.retries := by
  obtain ⟨hdone, hlarge, hcancelled, hk⟩ : s.failure? k ≠ none ∧
      (¬ ∃ size limit, s.failure? k = some (.oversizedPayload size limit)) ∧
      s.failure? k ≠ some .cancelled ∧ k ≠ b.retries := by
    simpa only [EndsAt, not_or] using h
  obtain ⟨e, he⟩ := Option.ne_none_iff_exists'.1 hdone
  refine ⟨⟨e, he, ?_⟩, hk⟩
  by_contra hretry
  rcases MediaError.retryable_eq_false_iff.1 (by simpa using hretry) with ⟨size, limit, rfl⟩ | rfl
  · exact hlarge ⟨size, limit, he⟩
  · exact hcancelled he

/-! ### The worlds of a course -/

variable (b s)

def world (cancelAt : Option Nanos) (k : ℕ) : World Tape :=
  { now := s.start b k
    deadline := cancelAt
    network := ⟨fun _ _ => .dropped⟩
    client := { timeout := 0 }
    messenger :=
      { takes := s.take
        ready := max k 1
        played := k
        begun := ((List.range k).map (s.start b)).reverse } }

def worldAt (cancelAt : Option Nanos) (k : ℕ) (now : Nanos) : World Tape :=
  { s.world b cancelAt k with now }

variable {b s} {cancelAt : Option Nanos} {k last : ℕ}

theorem begin_world :
    { s.world b cancelAt k with
      messenger := (s.world b cancelAt k).messenger.begin (s.start b k) } =
    s.worldAt b cancelAt (k + 1) (s.start b k) := by
  have hready : max (max k 1) (k + 1) = max (k + 1) 1 := by omega
  have hbegun : s.start b k :: ((List.range k).map (s.start b)).reverse =
      ((List.range (k + 1)).map (s.start b)).reverse := by
    rw [List.range_succ, List.map_append, List.reverse_append]
    rfl
  simp only [worldAt, world, Tape.begin, Tape.prepare, hready, hbegun]

theorem stopped_worldAt {now : Nanos} (h : ∀ c ∈ cancelAt, now < c) :
    (s.worldAt b cancelAt k now).stopped = false := World.stopped_eq_false_iff.2 ⟨rfl, h⟩

theorem sleep_worldAt_of_lt {now time : Nanos} (h : ∀ c ∈ cancelAt, now + time < c) :
    (s.worldAt b cancelAt k now).sleep time = (true, s.worldAt b cancelAt k (now + time)) := by
  refine World.sleep_of_lt (stopped_worldAt fun c hc => ?_) h
  exact Nat.lt_of_le_of_lt (Nat.le_add_right now time) (h c hc)

theorem sleep_worldAt_of_le {now time c : Nanos} (hc : cancelAt = some c) (hnow : now < c)
    (hle : c ≤ now + time) :
    (s.worldAt b cancelAt k now).sleep time = (false, s.worldAt b cancelAt k c) := by
  refine World.sleep_of_le (stopped_worldAt fun d hd => ?_) hc hle
  obtain rfl : c = d := Option.some.inj (hc.symm.trans hd)
  exact hnow

theorem take_world :
    (s.world b cancelAt k).messenger.takes (s.world b cancelAt k).messenger.played = s.take k := rfl

theorem run_take (k : ℕ) : (s.take k).run (s.world b cancelAt k) =
    if s.time k = 0 then (true, s.worldAt b cancelAt (k + 1) (s.start b k))
    else (s.worldAt b cancelAt (k + 1) (s.start b k)).sleep (s.time k) := by
  rw [← begin_world]
  rfl

/-- An attempt takes its time, and ends before the token fires. -/
theorem play_of_lt (h : ∀ c ∈ cancelAt, s.finish b k < c) :
    play (s.world b cancelAt k) =
      (s.outcome k, s.worldAt b cancelAt (k + 1) (s.finish b k)) := by
  have hrun : (s.take k).run (s.world b cancelAt k) =
      (true, s.worldAt b cancelAt (k + 1) (s.finish b k)) := by
    rw [run_take]
    split_ifs with htime
    · simp only [finish, htime, Nat.add_zero]
    · exact sleep_worldAt_of_lt h
  simp only [play, take_world, hrun]
  simp only [take, outcome]
  cases s.failure? k <;> rfl

theorem play_of_failure {e : MediaError} (he : s.failure? k = some e)
    (h : ∀ c ∈ cancelAt, s.finish b k < c) :
    play (s.world b cancelAt k) = (.failed e, s.worldAt b cancelAt (k + 1) (s.finish b k)) := by
  rw [play_of_lt h, outcome, he, Option.elim_some]

/-- An attempt is left where the token fires. -/
theorem play_of_le {c : Nanos} (hc : cancelAt = some c) (hstart : s.start b k < c)
    (hle : c ≤ s.finish b k) :
    play (s.world b cancelAt k) = (.waiting, s.worldAt b cancelAt (k + 1) c) := by
  have htime : s.time k ≠ 0 := by
    intro htime
    rw [finish, htime] at hle
    exact Nat.not_lt.2 hle hstart
  have hrun : (s.take k).run (s.world b cancelAt k) = (false, s.worldAt b cancelAt (k + 1) c) := by
    rw [run_take, if_neg htime]
    exact sleep_worldAt_of_le hc hstart hle
  simp only [play, take_world, hrun]

/-! ### The run -/

/-- An attempt that none follows is the last try. -/
theorem attempts_of_endsAt {n : ℕ} (hn : k + n = b.retries) (hk : s.EndsAt b k)
    (h : ∀ c ∈ cancelAt, s.finish b k < c) :
    Job.attempts b.delay play n k (s.world b cancelAt k) =
      (s.outcome k, s.worldAt b cancelAt (k + 1) (s.finish b k)) := by
  refine Job.attempts_of_last (play_of_lt h) fun e he hretry => ?_
  have hfail : s.failure? k = some e := by
    cases hfail : s.failure? k <;> simp_all [outcome]
  rcases hk with hdone | ⟨size, limit, hlarge⟩ | hcancelled | rfl
  · cases hfail.symm.trans hdone
  · cases hfail.symm.trans hlarge
    cases hretry
  · cases hfail.symm.trans hcancelled
    cases hretry
  · omega

structure IsCut (s : Course) (b : Backoff) (c : Nanos) (last m : ℕ) : Prop where
  le_last : m ≤ last
  lt : s.start b m < c
  le : ∀ j, m < j → c ≤ s.start b j

theorem IsCut.starts_eq {c : Nanos} {m : ℕ} (h : IsCut s b c last m) :
    (s.starts b last).filter (· < c) = s.starts b m := by
  obtain ⟨d, hd⟩ := Nat.exists_eq_add_of_le (Nat.succ_le_succ h.le_last)
  have hearly : (s.starts b m).filter (· < c) = s.starts b m := by
    rw [List.filter_eq_self]
    intro t ht
    obtain ⟨j, hj, rfl⟩ := List.mem_map.1 ht
    have hjm : j ≤ m := Nat.lt_succ_iff.1 (List.mem_range.1 hj)
    exact decide_eq_true (Nat.lt_of_le_of_lt (start_mono hjm) h.lt)
  have hlate : ((List.range d).map fun i => s.start b (m + 1 + i)).filter (· < c) = [] := by
    rw [List.filter_eq_nil_iff]
    intro t ht
    obtain ⟨i, -, rfl⟩ := List.mem_map.1 ht
    simpa using h.le (m + 1 + i) (by omega)
  have hstarts : s.starts b last =
      s.starts b m ++ (List.range d).map fun i => s.start b (m + 1 + i) := by
    rw [starts, starts, show last + 1 = m + 1 + d from hd, List.range_add, List.map_append,
      List.map_map]
    rfl
  rw [hstarts, List.filter_append, hearly, hlate, List.append_nil]

structure RunsOut (b : Backoff) (s : Course) (cancelAt : Option Nanos) (last n k : ℕ) : Prop where
  whole : (∀ c ∈ cancelAt, s.finish b last < c) →
    Job.attempts b.delay play n k (s.world b cancelAt k) =
      (s.outcome last, s.worldAt b cancelAt (last + 1) (s.finish b last))
  cut : ∀ c ∈ cancelAt, c ≤ s.finish b last → ∃ m, IsCut s b c last m ∧
    Job.attempts b.delay play n k (s.world b cancelAt k) =
      (.waiting, s.worldAt b cancelAt (m + 1) c)

variable {n : ℕ}

theorem RunsOut.of_endsAt (hn : k + n = b.retries) (hk : s.EndsAt b k)
    (h : ∀ c ∈ cancelAt, s.finish b k < c) : RunsOut b s cancelAt k n k where
  whole _ := attempts_of_endsAt hn hk h
  cut c hc hle := absurd (h c hc) (Nat.not_lt.2 hle)

/-- The token fires in an attempt or in the delay after it. -/
theorem RunsOut.of_cut {c : Nanos} (hc : cancelAt = some c) (hk : k ≤ last)
    (hstart : s.start b k < c) (hle : c ≤ s.start b (k + 1)) (hlast : c ≤ s.finish b last)
    (h : Job.attempts b.delay play n k (s.world b cancelAt k) =
      (.waiting, s.worldAt b cancelAt (k + 1) c)) : RunsOut b s cancelAt last n k where
  whole hlt := absurd (hlt c hc) (Nat.not_lt.2 hlast)
  cut d hd _ := by
    obtain rfl : c = d := Option.some.inj (hc.symm.trans hd)
    exact ⟨k, ⟨hk, hstart, fun j hj => Nat.le_trans hle (start_mono hj)⟩, h⟩

theorem RunsOut.of_attempt_cut (hk : k ≤ last) (hstart : ∀ c ∈ cancelAt, s.start b k < c)
    (h : ¬ ∀ c ∈ cancelAt, s.finish b k < c) : RunsOut b s cancelAt last n k := by
  push Not at h
  obtain ⟨c, hc, hle⟩ := h
  refine .of_cut hc hk (hstart c hc) (Nat.le_trans hle (Nat.le_add_right _ _))
    (Nat.le_trans hle (finish_le_finish hk)) ?_
  exact Job.attempts_of_last (play_of_le hc (hstart c hc) hle) (by simp)

theorem RunsOut.of_delay_cut (hk : k < last) (hends : ¬ s.EndsAt b k)
    (hin : ∀ c ∈ cancelAt, s.finish b k < c) (h : ¬ ∀ c ∈ cancelAt, s.start b (k + 1) < c) :
    RunsOut b s cancelAt last (n + 1) k := by
  push Not at h
  obtain ⟨c, hc, hle⟩ := h
  obtain ⟨⟨e, he, hretry⟩, -⟩ := of_not_endsAt hends
  have hstart : s.start b k < c := Nat.lt_of_le_of_lt (Nat.le_add_right _ _) (hin c hc)
  have hlast : c ≤ s.finish b last :=
    Nat.le_trans hle (Nat.le_trans (start_mono hk) (Nat.le_add_right _ _))
  refine .of_cut hc hk.le hstart hle hlast ?_
  have hsleep := sleep_worldAt_of_le (k := k + 1) (s := s) (b := b) hc (hin c hc) hle
  exact Job.attempts_of_waits (play_of_failure he hin) hretry hsleep

theorem RunsOut.of_next (hends : ¬ s.EndsAt b k) (hnext : ∀ c ∈ cancelAt, s.start b (k + 1) < c)
    (h : RunsOut b s cancelAt last n (k + 1)) : RunsOut b s cancelAt last (n + 1) k := by
  obtain ⟨⟨e, he, hretry⟩, -⟩ := of_not_endsAt hends
  have hplay := play_of_failure he fun c hc =>
    Nat.lt_of_le_of_lt (Nat.le_add_right _ (b.delay k)) (hnext c hc)
  have hgo : Job.attempts b.delay play (n + 1) k (s.world b cancelAt k) =
      Job.attempts b.delay play n (k + 1) (s.world b cancelAt (k + 1)) :=
    Job.attempts_of_again hplay hretry (sleep_worldAt_of_lt hnext)
  exact ⟨hgo ▸ h.whole, hgo ▸ h.cut⟩

theorem runsOut (hlast : IsLeast {k | s.EndsAt b k} last) (hn : k + n = b.retries) (hk : k ≤ last)
    (hstart : ∀ c ∈ cancelAt, s.start b k < c) : RunsOut b s cancelAt last n k := by
  induction n generalizing k with
  | zero =>
    have hends : s.EndsAt b k := .inr (.inr (.inr hn))
    obtain rfl : k = last := Nat.le_antisymm hk (hlast.2 hends)
    by_cases hin : ∀ c ∈ cancelAt, s.finish b k < c
    · exact .of_endsAt hn hends hin
    · exact .of_attempt_cut hk hstart hin
  | succ n ih =>
    by_cases hin : ∀ c ∈ cancelAt, s.finish b k < c
    · by_cases hends : s.EndsAt b k
      · obtain rfl : k = last := Nat.le_antisymm hk (hlast.2 hends)
        exact .of_endsAt hn hends hin
      · have hk' : k < last := Nat.lt_of_le_of_ne hk fun heq => hends (heq ▸ hlast.1)
        by_cases hnext : ∀ c ∈ cancelAt, s.start b (k + 1) < c
        · exact .of_next hends hnext (ih (by omega) hk' hnext)
        · exact .of_delay_cut hk' hends hin hnext
    · exact .of_attempt_cut hk hstart hin

theorem perform_of_retry {o : Outcome ℕ} {w : World Tape}
    (h : Job.retry b play (s.world b cancelAt 0) = (o, w)) :
    perform b s.take cancelAt = ⟨o, w.messenger.ready, w.messenger.begun.reverse, w.now⟩ := by
  -- with its first attempt made ready, a rehearsal is in the world in which that attempt starts
  have hopening : playAll b (opening s.take cancelAt) = (o, w) := h
  simp only [perform, hopening]

/-- What a rehearsal reports, when so many attempts after the first were begun in it. -/
theorem perform_of_worldAt {o : Outcome ℕ} {now : Nanos}
    (h : Job.retry b play (s.world b cancelAt 0) = (o, s.worldAt b cancelAt (k + 1) now)) :
    perform b s.take cancelAt = ⟨o, k + 1, s.starts b k, now⟩ := by
  have hready : max (k + 1) 1 = k + 1 := Nat.max_eq_left (Nat.le_add_left 1 k)
  have hbegun : ((List.range (k + 1)).map (s.start b)).reverse.reverse = s.starts b k :=
    List.reverse_reverse _
  rw [perform_of_retry h]
  simp only [worldAt, world, hready, hbegun]

theorem length_starts : (s.starts b k).length = k + 1 := by
  rw [starts, List.length_map, List.length_range]

theorem max_length_starts : max (s.starts b k).length 1 = k + 1 := by
  rw [length_starts]
  exact Nat.max_eq_left (Nat.le_add_left 1 k)

theorem outcome_ne_waiting : s.outcome k ≠ .waiting := by
  cases h : s.failure? k <;> simp [outcome, h]

theorem isReport_of_whole (hin : ∀ c ∈ cancelAt, s.finish b last < c)
    (h : Job.retry b play (s.world b cancelAt 0) =
      (s.outcome last, s.worldAt b cancelAt (last + 1) (s.finish b last))) :
    s.IsReport b cancelAt last (perform b s.take cancelAt) := by
  rw [perform_of_worldAt h]
  refine ⟨fun _ => ⟨rfl, rfl, rfl⟩, fun c hc hle => ?_, max_length_starts.symm⟩
  exact absurd (hin c hc) (Nat.not_lt.2 hle)

theorem isReport_of_cut {c : Nanos} {m : ℕ} (hc : cancelAt = some c) (hle : c ≤ s.finish b last)
    (hcut : IsCut s b c last m)
    (h : Job.retry b play (s.world b cancelAt 0) =
      (.failed .cancelled, s.worldAt b cancelAt (m + 1) c)) :
    s.IsReport b cancelAt last (perform b s.take cancelAt) := by
  rw [perform_of_worldAt h]
  refine ⟨fun hlt => absurd (hlt c hc) (Nat.not_lt.2 hle), fun d hd _ => ?_, max_length_starts.symm⟩
  obtain rfl : c = d := Option.some.inj (hc.symm.trans hd)
  exact ⟨rfl, hcut.starts_eq.symm, rfl⟩

/-- The token had fired when the rehearsal began. -/
theorem isReport_of_le {c : Nanos} (hc : cancelAt = some c) (hle : c ≤ 0) :
    s.IsReport b cancelAt last (perform b s.take cancelAt) := by
  obtain rfl : c = 0 := Nat.le_zero.1 hle
  have hstopped : (s.world b cancelAt 0).stopped = true := by
    rw [hc]
    rfl
  rw [perform_of_retry (Job.retry_of_stopped b play hstopped)]
  refine ⟨fun h => absurd (h 0 hc) (Nat.not_lt_zero _), fun d hd _ => ?_, rfl⟩
  obtain rfl : 0 = d := Option.some.inj (hc.symm.trans hd)
  have hnone : (s.starts b last).filter (· < 0) = [] := by
    rw [List.filter_eq_nil_iff]
    intro t _
    simp
  exact ⟨rfl, hnone.symm, rfl⟩

/-- The reports of rehearsals are those of their courses. -/
theorem isReport_perform (hlast : IsLeast {k | s.EndsAt b k} last) :
    s.IsReport b cancelAt last (perform b s.take cancelAt) := by
  by_cases hstart : ∀ c ∈ cancelAt, s.start b 0 < c
  · have hw : (s.world b cancelAt 0).stopped = false := stopped_worldAt hstart
    obtain ⟨hwhole, hcut⟩ := runsOut hlast (Nat.zero_add _) (Nat.zero_le _) hstart
    by_cases hin : ∀ c ∈ cancelAt, s.finish b last < c
    · exact isReport_of_whole hin (Job.watch_of_ne hw (hwhole hin) outcome_ne_waiting)
    · push Not at hin
      obtain ⟨c, hc, hle⟩ := hin
      obtain ⟨m, hm, hattempts⟩ := hcut c hc hle
      exact isReport_of_cut hc hle hm (Job.watch_of_waiting hw hattempts)
  · push Not at hstart
    obtain ⟨c, hc, hle⟩ := hstart
    exact isReport_of_le hc hle

theorem IsReport.length_begun_le {r : TapeReport} (h : s.IsReport b cancelAt last r) :
    r.begun.length ≤ last + 1 := by
  by_cases hin : ∀ c ∈ cancelAt, s.finish b last < c
  · rw [(h.whole hin).2.1, length_starts]
  · push Not at hin
    obtain ⟨c, hc, hle⟩ := hin
    rw [(h.cut c hc hle).2.1]
    exact Nat.le_trans (List.length_filter_le _ _) (Nat.le_of_eq length_starts)

/-- Tries back to back are as many as were asked for at most, and one if none was. -/
theorem perform_immediate_le (n : ℕ) :
    (perform (.immediate n) s.take cancelAt).begun.length ≤ max n 1 ∧
      (perform (.immediate n) s.take cancelAt).attempts ≤ max n 1 := by
  obtain ⟨last, hlast⟩ := exists_isLeast_endsAt (b := .immediate n) (s := s)
  have hle : last ≤ n - 1 := hlast.2 (.inr (.inr (.inr rfl)))
  have hreport : s.IsReport (.immediate n) cancelAt last (perform (.immediate n) s.take cancelAt) :=
    isReport_perform hlast
  have hbegun := hreport.length_begun_le
  rw [hreport.attempts]
  omega

variable (b s cancelAt)

/-- Retried attempts are those of their course, up to the first one that none follows, or to the
moment at which the token fires. -/
theorem perform_follows_course :
    (∃ last, IsLeast {k | s.EndsAt b k} last ∧
      s.IsReport b cancelAt last (perform b s.take cancelAt)) ∧
    ∀ n, (perform (.immediate n) s.take cancelAt).begun.length ≤ max n 1 ∧
      (perform (.immediate n) s.take cancelAt).attempts ≤ max n 1 := by
  obtain ⟨last, hlast⟩ := exists_isLeast_endsAt (b := b) (s := s)
  exact ⟨⟨last, hlast, isReport_perform hlast⟩, perform_immediate_le⟩

end Course
end Rehearsal
end MediaRelay
