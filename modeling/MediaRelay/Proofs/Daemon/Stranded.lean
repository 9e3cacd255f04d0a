import Mathlib.Data.List.DropRight
import MediaRelay.Daemon.Lifecycle
import MediaRelay.Proofs.List
/-! When a request to stop is lost. The events of a life are kept in order, and a run is stranded
exactly when, among its own events, the stopper looked before the dispatcher began, and no interrupt
came. Which state a run is in can be read off its own events alone, and that is the invariant behind
it. -/

namespace MediaRelay.Daemon.Lifecycle

open List

inductive Lives : List LifecycleEvent → Lifecycle → Prop where
  | nil : Lives [] {}
  | snoc {es : List LifecycleEvent} {s : Lifecycle} {e : LifecycleEvent} :
    Lives es s → s.allows e = true → Lives (es ++ [e]) (s.after e)

theorem reachable_iff_lives {s : Lifecycle} : Reachable s ↔ ∃ es, Lives es s := by
  constructor
  · intro h
    induction h with
    | start => exact ⟨[], .nil⟩
    | step _ hstep ih =>
      obtain ⟨es, hes⟩ := ih
      cases hstep with
      | of e he => exact ⟨es ++ [e], hes.snoc he⟩
  · rintro ⟨es, hes⟩
    induction hes with
    | nil => exact .start
    | snoc _ he ih => exact ih.step (.of _ _ he)

def ofThisRun (es : List LifecycleEvent) : List LifecycleEvent := es.rtakeWhile (· ≠ .renew)

theorem ofThisRun_renew (es : List LifecycleEvent) : ofThisRun (es ++ [.renew]) = [] := by
  rw [ofThisRun, List.rtakeWhile_concat]
  rfl

theorem ofThisRun_snoc (es : List LifecycleEvent) {e : LifecycleEvent} (he : e ≠ .renew) :
    ofThisRun (es ++ [e]) = ofThisRun es ++ [e] := by
  rw [ofThisRun, List.rtakeWhile_concat, if_pos (by simpa using he)]
  rfl

/-- The stopper looked before the dispatcher began. -/
def StopsEarly (run : List LifecycleEvent) : Prop := [.stop, .dispatch] <+ run

theorem stopsEarly_snoc {run : List LifecycleEvent} {e : LifecycleEvent} :
    StopsEarly (run ++ [e]) ↔ StopsEarly run ∨ .stop ∈ run ∧ e = .dispatch := by
  rw [StopsEarly, pair_sublist_concat, eq_comm (a := e)]
  rfl

theorem StopsEarly.stop_mem {run : List LifecycleEvent} (h : StopsEarly run) : .stop ∈ run :=
  h.subset (by simp)

theorem StopsEarly.dispatch_mem {run : List LifecycleEvent} (h : StopsEarly run) :
    .dispatch ∈ run :=
  h.subset (by simp)

structure Tells (run : List LifecycleEvent) (s : Lifecycle) : Prop where
  stopper_absent : s.stopper = .absent ↔ s.dispatcher = .absent
  /-- what has not begun was not interrupted -/
  before : s.dispatcher = .absent ∨ s.dispatcher = .idle → .dispatch ∉ run ∧ .interrupt ∉ run
  under_way : s.dispatcher = .dispatching → .interrupt ∉ run
  unlooked : s.stopper = .absent ∨ s.stopper = .waiting → .stop ∉ run
  unheeded : s.stopper = .unheeded → s.tokenFired = true ∧ .stop ∈ run
  /-- a stopper that went unheeded found no dispatcher at work -/
  unheeded_by : s.stopper = .unheeded →
    s.dispatcher = .idle ∨ s.dispatcher = .dispatching ∧ StopsEarly run ∨ .interrupt ∈ run
  heeded : s.stopper = .heeded → s.dispatcher = .stopped ∧ ¬ StopsEarly run
  ended : s.dispatcher = .stopped → s.stopper = .heeded ∨ .interrupt ∈ run

theorem tells_start (asked : Bool) : Tells [] { restartAsked := asked } where
  stopper_absent := by simp
  before := by simp
  under_way := by simp
  unlooked := by simp
  unheeded := by simp
  unheeded_by := by simp
  heeded := by simp
  ended := by simp

theorem Tells.snoc {run : List LifecycleEvent} {s : Lifecycle} {e : LifecycleEvent}
    (h : Tells run s) (he : s.allows e = true) (hr : e ≠ .renew) :
    Tells (run ++ [e]) (s.after e) := by
  obtain ⟨h1, h2, h3, h4, h5, h6, h7, h8⟩ := h
  cases e with
  | renew => exact absurd rfl hr
  | askRestart | takeUpRestart =>
    constructor <;> simp_all [after, stopsEarly_snoc]
  | connect | dispatch | interrupt =>
    constructor <;> simp_all [after, allows, stopsEarly_snoc]
  | stop =>
    obtain ⟨hw, hf⟩ : s.stopper = .waiting ∧ s.tokenFired = true := by simpa [allows] using he
    have hearly : ¬ StopsEarly run := fun hs => h4 (.inr hw) hs.stop_mem
    cases hd : s.dispatcher with
    | dispatching => constructor <;> simp_all [after, stopped, stopsEarly_snoc]
    | absent | idle | stopped => constructor <;> simp_all [after, stopped, stopsEarly_snoc]

theorem Lives.tells {es : List LifecycleEvent} {s : Lifecycle} (h : Lives es s) :
    Tells (ofThisRun es) s := by
  induction h with
  | nil => exact tells_start false
  | @snoc es s e _ he ih =>
    by_cases hr : e = .renew
    · subst hr
      rw [ofThisRun_renew]
      exact tells_start s.restartAsked
    · rw [ofThisRun_snoc es hr]
      exact ih.snoc he hr

/-- A run is stranded exactly when its stopper looked before its dispatcher began, and no interrupt
came since. -/
theorem isStranded_iff_stopsEarly {es : List LifecycleEvent} {s : Lifecycle} (h : Lives es s) :
    s.IsStranded ↔ StopsEarly (ofThisRun es) ∧ .interrupt ∉ ofThisRun es := by
  have t := h.tells
  constructor
  · rintro ⟨hd, hf, hu⟩
    have hi := t.under_way hd
    rcases t.unheeded_by hu with hidle | ⟨_, hearly⟩ | hint
    · exact absurd (hd.symm.trans hidle) (by decide)
    · exact ⟨hearly, hi⟩
    · exact absurd hint hi
  · rintro ⟨hearly, hi⟩
    have hu : s.stopper = .unheeded := by
      cases hs : s.stopper with
      | absent => exact absurd hearly.stop_mem (t.unlooked (.inl hs))
      | waiting => exact absurd hearly.stop_mem (t.unlooked (.inr hs))
      | heeded => exact absurd hearly (t.heeded hs).2
      | unheeded => rfl
    rcases t.unheeded_by hu with hidle | ⟨hd, _⟩ | hint
    · exact absurd hearly.dispatch_mem (t.before (.inr hidle)).1
    · exact ⟨hd, (t.unheeded hu).1, hu⟩
    · exact absurd hint hi

/-- A restart that is asked for and taken up while the run connects: the stopper looks in vain, and
then the dispatcher begins. -/
def lostStop : List LifecycleEvent := [.askRestart, .takeUpRestart, .connect, .stop, .dispatch]

def lostState : Lifecycle :=
  { isWatched := false, tokenFired := true, dispatcher := .dispatching, stopper := .unheeded }

theorem lives_lostStop : Lives lostStop lostState := by
  have h₁ : Lives [.askRestart] _ := Lives.nil.snoc rfl
  have h₂ : Lives [.askRestart, .takeUpRestart] _ := h₁.snoc rfl
  have h₃ : Lives [.askRestart, .takeUpRestart, .connect] _ := h₂.snoc rfl
  have h₄ : Lives [.askRestart, .takeUpRestart, .connect, .stop] _ := h₃.snoc rfl
  exact h₄.snoc rfl

/-- It is stranded, so its stopper looked early, and nothing interrupts it. -/
theorem lostStop_stopsEarly : Lives lostStop lostState ∧ lostState.IsStranded ∧
    StopsEarly (ofThisRun lostStop) ∧ .interrupt ∉ ofThisRun lostStop := by
  have hstranded : lostState.IsStranded := by decide
  exact ⟨lives_lostStop, hstranded, (isStranded_iff_stopsEarly lives_lostStop).1 hstranded⟩

/-- A program can come to a state in which a run that was to stop dispatches on. -/
theorem exists_reachable_isStranded : ∃ s, Reachable s ∧ s.IsStranded :=
  ⟨lostState, reachable_iff_lives.2 ⟨lostStop, lives_lostStop⟩, by decide⟩

end MediaRelay.Daemon.Lifecycle
