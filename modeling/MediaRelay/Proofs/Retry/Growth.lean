import Mathlib.Algebra.Ring.Parity
import Mathlib.Order.Bounds.Defs
import MediaRelay.Retry
/-! How long the delays of a doubling backoff are. Each is a power of two times half the initial delay,
and powers and products both stop at the largest word; that a power has stopped before does not show
in the product. Half a delay is a whole number of milliseconds, so the delays double from the initial
one only if it is even; else they double from the even number below it, and from two in any case. -/

namespace MediaRelay

/-- A factor that has stopped at the largest word makes no difference to the product. -/
theorem Word.times_min (a b : ℕ) : times (min a maxUnsigned) b = times a b := by
  unfold times
  cases b with
  | zero => rfl
  | succ b =>
    have hstop : maxUnsigned ≤ maxUnsigned * (b + 1) := Nat.le_mul_of_pos_right _ b.succ_pos
    rw [← Nat.mul_min_mul_right, Nat.min_assoc, Nat.min_eq_right hstop]

namespace Backoff

open Word (maxUnsigned)

variable {base factor retries ms n k : ℕ}

/-! ### Delay by delay -/

theorem power_eq (h : base ≤ maxUnsigned) : power base k = min (base ^ (k + 1)) maxUnsigned := by
  induction k with
  | zero => rw [power, Nat.zero_add, pow_one, Nat.min_eq_left h]
  | succ k ih => rw [power, ih, Word.times_min, Word.times, pow_succ base (k + 1)]

theorem delay_exponential (h : base ≤ maxUnsigned) :
    (exponential base factor retries).delay k =
      min (base ^ (k + 1) * factor) maxUnsigned * nanosPerMilli := by
  unfold exponential
  dsimp only
  rw [power_eq h, Word.times_min, Word.times]

theorem length_toList (b : Backoff) : b.toList.length = b.retries := by
  simp [toList]

theorem getElem_toList (b : Backoff) (h : k < b.toList.length) : b.toList[k] = b.delay k := by
  simp [toList]

/-! ### From the first delay on -/

structure DoublesFrom (ms n : ℕ) (delays : List Nanos) : Prop where
  length_eq : delays.length = n
  getElem_eq : ∀ k (h : k < delays.length),
    delays[k] = min (ms * 2 ^ k) maxUnsigned * nanosPerMilli

theorem doublesFrom_nil (ms : ℕ) : DoublesFrom ms 0 [] where
  length_eq := rfl
  getElem_eq := by
    intro k h
    exact absurd h (Nat.not_lt_zero k)

/-- Where there are delays, they tell from which one they double. -/
theorem DoublesFrom.start_unique {ms' : ℕ} {delays : List Nanos} (h : DoublesFrom ms n delays)
    (h' : DoublesFrom ms' n delays) (hn : 0 < n) (hms : ms ≤ maxUnsigned)
    (hms' : ms' ≤ maxUnsigned) : ms = ms' := by
  have hpos : 0 < delays.length := h.length_eq ▸ hn
  have hfirst := (h.getElem_eq 0 hpos).symm.trans (h'.getElem_eq 0 hpos)
  rw [pow_zero, Nat.mul_one, Nat.mul_one, Nat.min_eq_left hms, Nat.min_eq_left hms'] at hfirst
  exact Nat.eq_of_mul_eq_mul_right (by decide) hfirst

/-- Twice the half that goes with each power of two, which is one at least. -/
def evenStart (ms : ℕ) : ℕ := 2 * max (ms / 2) 1

theorem isGreatest_evenStart (ms : ℕ) :
    IsGreatest {start | Even start ∧ start ≤ max ms 2} (evenStart ms) := by
  unfold evenStart
  constructor
  · exact ⟨even_two_mul _, by omega⟩
  · rintro start ⟨⟨half, rfl⟩, hle⟩
    omega

theorem evenStart_eq_self_iff : evenStart ms = ms ↔ 0 < ms ∧ Even ms := by
  unfold evenStart
  rw [Nat.even_iff]
  omega

theorem evenStart_le (h : ms ≤ maxUnsigned) : evenStart ms ≤ maxUnsigned := by
  have htwo : 2 ≤ maxUnsigned := by decide
  unfold evenStart
  omega

theorem doublesFrom_evenStart (n : ℕ) (h : ms ≤ maxUnsigned) :
    DoublesFrom (evenStart ms) n (doubling (ms * nanosPerMilli) n).toList where
  length_eq := length_toList _
  getElem_eq := by
    intro k hk
    have hmillis : ms * nanosPerMilli / nanosPerMilli % Word.count = ms := by
      rw [Nat.mul_div_cancel ms (by decide)]
      exact Nat.mod_eq_of_lt (Nat.lt_succ_of_le h)
    have hpower : 2 ^ (k + 1) * max (ms / 2) 1 = evenStart ms * 2 ^ k := by
      rw [evenStart, pow_succ', Nat.mul_right_comm]
    rw [getElem_toList, doubling, hmillis, delay_exponential (by decide), hpower]

/-- The delays double from the largest even number of milliseconds up to the initial delay, and from
two at least. So they double from the initial delay itself, where there are any, if and only if it is
even and not zero. -/
theorem doublesFrom_doubling_iff (ms n : ℕ) (h : ms ≤ maxUnsigned) :
    (∃ start, IsGreatest {start | Even start ∧ start ≤ max ms 2} start ∧
      DoublesFrom start n (doubling (ms * nanosPerMilli) n).toList) ∧
    (DoublesFrom ms n (doubling (ms * nanosPerMilli) n).toList ↔ n = 0 ∨ 0 < ms ∧ Even ms) := by
  have hstart := doublesFrom_evenStart n h
  constructor
  · exact ⟨evenStart ms, isGreatest_evenStart ms, hstart⟩
  constructor
  · intro hdoubles
    rcases Nat.eq_zero_or_pos n with hn | hn
    · exact .inl hn
    · right
      apply evenStart_eq_self_iff.1
      exact hstart.start_unique hdoubles hn (evenStart_le h) h
  · rintro (rfl | heven)
    · exact doublesFrom_nil ms
    · rwa [evenStart_eq_self_iff.2 heven] at hstart

/-- An odd delay, so large that the second one stops at the largest word. -/
theorem doublesFrom_doubling_iff_largest :
    maxUnsigned ≤ maxUnsigned ∧
      (∃ start, IsGreatest {start | Even start ∧ start ≤ max maxUnsigned 2} start ∧
        DoublesFrom start 2 (doubling (maxUnsigned * nanosPerMilli) 2).toList) ∧
      ¬ DoublesFrom maxUnsigned 2 (doubling (maxUnsigned * nanosPerMilli) 2).toList := by
  have hgeneral := doublesFrom_doubling_iff maxUnsigned 2 (Nat.le_refl _)
  refine ⟨Nat.le_refl _, hgeneral.1, ?_⟩
  rw [hgeneral.2]
  decide

example : (doubling nanosPerSecond 3).toList = [1, 2, 4].map (· * nanosPerSecond) := by
  decide

/-- Delays that should double from three milliseconds double from two. -/
theorem not_doublesFrom_threeMillis :
    ¬ ∀ ms ≤ maxUnsigned, ∀ n, DoublesFrom ms n (doubling (ms * nanosPerMilli) n).toList := by
  intro h
  have hdoubles := h 3 (by decide) 3
  have hfirst := hdoubles.getElem_eq 0 (by decide)
  exact absurd hfirst (by decide)

end Backoff
end MediaRelay
