import MediaRelay.Word
import MediaRelay.World
/-! Trying again. A backoff says how often and after which delays; the runner adds the token, and stops at
failures that a second try cannot mend. -/

namespace MediaRelay

/-- How often to try again, and how long to wait before the `k`-th new try, counted from zero. -/
structure Backoff where
  retries : Nat
  delay : Nat → Nanos

namespace Backoff

def take (cap : Nat) (b : Backoff) : List Nanos := (List.range (min cap b.retries)).map b.delay

def toList (b : Backoff) : List Nanos := (List.range b.retries).map b.delay

def ofList (delays : List Nanos) : Backoff := ⟨delays.length, fun k => delays.getD k 0⟩

/-- `attempts` tries in total, back to back. -/
def immediate (attempts : Nat) : Backoff := ⟨attempts - 1, fun _ => 0⟩

/-- The powers of `base`, from the first one on, up to the largest word. -/
def power (base : Nat) : Nat → Nat
  | 0 => base
  | k + 1 => Word.times (power base k) base

/-- Delays in whole milliseconds that grow as the powers of `base` do, each of them times `factor`. -/
def exponential (base factor retries : Nat) : Backoff :=
  ⟨retries, fun k => Word.times (power base k) factor * nanosPerMilli⟩

/-- Delays that double from `initial`, taken in whole milliseconds and within the range of a word. The powers of two
begin with two itself, so half the initial delay goes with each of them, and one at least. -/
def doubling (initial : Nanos) (retries : Nat) : Backoff :=
  exponential 2 (max (initial / nanosPerMilli % Word.count / 2) 1) retries

end Backoff

namespace Job

variable {τ α : Type}

/-- Tries until success, at most `retries` times more; `k` tries were made again before. -/
def attempts (delay : Nat → Nanos) (attempt : Job τ α) : (retries k : Nat) → Job τ α
  | retries, k => fun w =>
    match attempt w with
    | (.failed e, w) =>
      if e.retryable then
        match retries with
        | 0 => (.failed e, w)
        | retries + 1 =>
          match w.sleep (delay k) with
          | (true, w) => attempts delay attempt retries (k + 1) w
          | (false, w) => (.waiting, w)
      else (.failed e, w)
    | r => r

/-- Runs `attempt` until it succeeds, the backoff runs dry, it fails for good, or the token fires. The last
failure is the failure of all. -/
def retry (b : Backoff) (attempt : Job τ α) : Job τ α :=
  watch (attempts b.delay attempt b.retries 0)

end Job
end MediaRelay
