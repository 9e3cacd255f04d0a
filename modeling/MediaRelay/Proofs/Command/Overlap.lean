import MediaRelay.Command.Gate
import MediaRelay.Proofs.Command.History
import MediaRelay.Proofs.List
/-! Commands that overlap. A call that looks after another of its key has armed the cooldown is kept
away for as long as the cooldown lasts, whatever else happens in between. A call that has looked
before is not: of any two that run side by side, both may succeed at once. -/

namespace MediaRelay

namespace Cooldowns

theorem expiry?_arm_of_ne {c : Cooldowns} {key other : CooldownKey} (h : other ≠ key) (t : Nanos) :
    (c.arm key t).expiry? other = c.expiry? other := by
  rw [expiry?, expiry?, arm, List.lookup_cons, beq_false_of_ne h]
  exact lookup_filter_ne h

theorem expiry?_clean {c : Cooldowns} {key : CooldownKey} {now e : Nanos}
    (h : c.expiry? key = some e) (hlt : now < e) : (c.clean now).expiry? key = some e := by
  obtain ⟨l⟩ := c
  simp only [expiry?, clean] at h ⊢
  induction l with
  | nil => simp at h
  | cons p l ih =>
    obtain ⟨k, v⟩ := p
    rw [List.lookup_cons] at h
    by_cases hk : key = k
    · subst hk
      obtain rfl : v = e := by simpa using h
      rw [List.filter_cons_of_pos (by simpa using hlt), List.lookup_cons_self]
    · rw [beq_false_of_ne hk] at h
      rw [List.filter_cons]
      split
      · rw [List.lookup_cons, beq_false_of_ne hk]
        exact ih h
      · exact ih h

end Cooldowns

namespace Gate

variable {τ : Type} {r : CommandRegistry τ} {start : Nanos} {es : List GateEvent} {g : Gate τ}
  {e : GateEvent} {a b : GateCall} {s t : Nanos}

@[simp] theorem move_registry (call : GateCall) (phase : CallPhase) :
    (g.move call phase).registry = g.registry := rfl

@[simp] theorem move_now (call : GateCall) (phase : CallPhase) :
    (g.move call phase).now = g.now := rfl

@[simp] theorem move_successes (call : GateCall) (phase : CallPhase) :
    (g.move call phase).successes = g.successes := rfl

theorem now_le_after (g : Gate τ) (e : GateEvent) : g.now ≤ (g.after e).now := by
  cases e <;> simp [after]

@[simp] theorem cooldown_after (g : Gate τ) (e : GateEvent) :
    (g.after e).registry.cooldown = g.registry.cooldown := by
  cases e <;> rfl

/-- Only the end of a handler with success is a success. -/
theorem successes_after (g : Gate τ) (e : GateEvent) :
    (∃ call, e = .succeed call ∧ (g.after e).successes = g.successes ++ [(call, g.now)]) ∨
      (∀ call, e ≠ .succeed call) ∧ (g.after e).successes = g.successes := by
  cases e with
  | succeed call => exact .inl ⟨call, rfl, rfl⟩
  | _ => exact .inr ⟨by simp, rfl⟩

/-- A call that succeeded only goes on to arm the cooldown. -/
theorem phaseOf_after_of_succeeded (he : g.allows e = true)
    (h : g.phaseOf a = .succeeded ∨ g.phaseOf a = .armed) :
    (g.after e).phaseOf a = .succeeded ∨ (g.after e).phaseOf a = .armed := by
  cases e <;> grind [after, allows, move]

/-- A call that armed the cooldown is done. -/
theorem phaseOf_after_of_armed (he : g.allows e = true) (h : g.phaseOf a = .armed) :
    (g.after e).phaseOf a = .armed := by
  cases e <;> grind [after, allows, move]

/-- A call that was refused is done. -/
theorem phaseOf_after_of_refused (he : g.allows e = true) (h : g.phaseOf a = .refused) :
    (g.after e).phaseOf a = .refused := by
  cases e <;> grind [after, allows, move]

/-- Nobody is let in under a key before a time. -/
def Holds (g : Gate τ) (key : CooldownKey) (t : Nanos) : Prop :=
  t ≤ g.now ∨ ∃ expiry, g.registry.cooldowns.expiry? key = some expiry ∧ t ≤ expiry

/-- No event lets anybody in early: sweeps drop only what has ended, and a cooldown that is armed
anew ends later. -/
theorem Holds.after {key : CooldownKey} (h : g.Holds key t)
    (ht : t ≤ g.now + g.registry.cooldown) (e : GateEvent) : (g.after e).Holds key t := by
  rcases h with hnow | ⟨expiry, hexp, hle⟩
  · exact .inl (Nat.le_trans hnow (now_le_after g e))
  · cases e with
    | clean =>
      rcases Nat.lt_or_ge g.now expiry with hlt | hge
      · exact .inr ⟨expiry, Cooldowns.expiry?_clean hexp hlt, hle⟩
      · exact .inl (Nat.le_trans hle hge)
    | arm call =>
      refine .inr ?_
      by_cases hkey : key = Cooldowns.keyOf call.user (lowerText call.name)
      · subst hkey
        exact ⟨_, Cooldowns.expiry?_arm_self _ _ _, ht⟩
      · exact ⟨expiry, (Cooldowns.expiry?_arm_of_ne hkey _).trans hexp, hle⟩
    | advance time => exact .inr ⟨expiry, hexp, hle⟩
    | look call => exact .inr ⟨expiry, hexp, hle⟩
    | fail call => exact .inr ⟨expiry, hexp, hle⟩
    | succeed call => exact .inr ⟨expiry, hexp, hle⟩

theorem holds_arm (g : Gate τ) (a : GateCall) :
    (g.after (.arm a)).Holds a.key (g.now + g.registry.cooldown) := by
  refine .inr ⟨_, ?_, Nat.le_refl _⟩
  rw [GateCall.key, ← keyOf_lowerText]
  exact Cooldowns.expiry?_arm_self _ _ _

theorem Holds.mono {key : CooldownKey} (h : g.Holds key t) (hst : s ≤ t) : g.Holds key s := by
  rcases h with hnow | ⟨expiry, hexp, hle⟩
  · exact .inl (Nat.le_trans hst hnow)
  · exact .inr ⟨expiry, hexp, Nat.le_trans hst hle⟩

theorem Holds.le_now (h : g.Holds a.key t) (hin : g.admits a = true) : t ≤ g.now := by
  rcases h with hnow | ⟨expiry, hexp, hle⟩
  · exact hnow
  · have hfree : g.registry.checkCooldown g.now a.user (lowerText a.name) = none := by
      cases hc : g.registry.checkCooldown g.now a.user (lowerText a.name) with
      | none => rfl
      | some left =>
        rw [admits, CommandRegistry.allowed, hc] at hin
        cases hget : g.registry.get? (lowerText a.name) <;>
          simp [hget, Except.isOk, Except.toBool] at hin
    rw [CommandRegistry.checkCooldown, keyOf_lowerText, Cooldowns.remaining?] at hfree
    change g.registry.cooldowns.expiry? (Cooldowns.keyOf a.user a.name) = _ at hexp
    rw [hexp] at hfree
    have : ¬ g.now < expiry := by simpa using hfree
    exact Nat.le_trans hle (Nat.not_lt.1 this)

/-- A success is an earlier one, or one of a call that ran until now. -/
theorem mem_successes_after (he : g.allows e = true) (h : (a, s) ∈ (g.after e).successes) :
    (a, s) ∈ g.successes ∨ e = .succeed a ∧ s = g.now ∧ g.phaseOf a = .running := by
  rcases successes_after g e with ⟨call, rfl, hs⟩ | ⟨-, hs⟩
  · rw [hs, List.mem_append, List.mem_singleton] at h
    rcases h with h | h
    · exact .inl h
    · obtain ⟨rfl, rfl⟩ := Prod.mk.inj h
      exact .inr ⟨rfl, rfl, by simpa [allows] using he⟩
  · exact .inl (hs ▸ h)

structure Keeps (r : CommandRegistry τ) (es : List GateEvent) (g : Gate τ) : Prop where
  cooldown_eq : g.registry.cooldown = r.cooldown
  phase_of_mem : ∀ a s, (a, s) ∈ g.successes → g.phaseOf a = .succeeded ∨ g.phaseOf a = .armed
  le_now : ∀ a s, (a, s) ∈ g.successes → s ≤ g.now
  phase_of_arm : ∀ a, .arm a ∈ es → g.phaseOf a = .armed
  /-- who armed the cooldown keeps others away -/
  holds : ∀ a s, .arm a ∈ es → (a, s) ∈ g.successes → g.Holds a.key (s + r.cooldown)
  /-- who looked since, and was let in, looked when the wait was over -/
  later : ∀ a b s, [.arm a, .look b].Sublist es → (a, s) ∈ g.successes → a.key = b.key →
    g.phaseOf b = .refused ∨ s + r.cooldown ≤ g.now
  spaced : ∀ a b s t, [(a, s), (b, t)].Sublist g.successes → [.arm a, .look b].Sublist es →
    a.key = b.key → s + r.cooldown ≤ t

theorem keeps_nil (r : CommandRegistry τ) (start : Nanos) :
    Keeps r [] (opened r start) := by
  constructor <;> simp [opened]

/-- Who armed the cooldown cannot end its handler any more, so its success is an earlier one. -/
theorem Keeps.mem_of_arm (h : Keeps r es g) (he : g.allows e = true) (ha : .arm a ∈ es)
    (hs : (a, s) ∈ (g.after e).successes) : (a, s) ∈ g.successes := by
  rcases mem_successes_after he hs with hs | ⟨-, -, hrun⟩
  · exact hs
  · exact absurd ((h.phase_of_arm a ha).symm.trans hrun) (by decide)

theorem Keeps.holds_snoc (h : Keeps r es g) (he : g.allows e = true) (ha : .arm a ∈ es ++ [e])
    (hs : (a, s) ∈ (g.after e).successes) : (g.after e).Holds a.key (s + r.cooldown) := by
  rcases List.mem_append.1 ha with ha | ha
  · have hs := h.mem_of_arm he ha hs
    refine (h.holds a s ha hs).after ?_ e
    rw [h.cooldown_eq]
    exact Nat.add_le_add_right (h.le_now a s hs) _
  · obtain rfl := List.mem_singleton.1 ha
    have hs : (a, s) ∈ g.successes := hs
    refine (holds_arm g a).mono ?_
    rw [h.cooldown_eq]
    exact Nat.add_le_add_right (h.le_now a s hs) _

theorem Keeps.later_snoc (h : Keeps r es g) (he : g.allows e = true)
    (hab : [.arm a, .look b].Sublist (es ++ [e])) (hs : (a, s) ∈ (g.after e).successes)
    (hkey : a.key = b.key) :
    (g.after e).phaseOf b = .refused ∨ s + r.cooldown ≤ (g.after e).now := by
  rcases pair_sublist_concat.1 hab with hab | ⟨ha, rfl⟩
  · have hs := h.mem_of_arm he (hab.subset (by simp)) hs
    rcases h.later a b s hab hs hkey with href | hle
    · exact .inl (phaseOf_after_of_refused he href)
    · exact .inr (Nat.le_trans hle (now_le_after g e))
  · have hs : (a, s) ∈ g.successes := hs
    cases hin : g.admits b with
    | false => exact .inl (by simp [after, move, hin])
    | true => exact .inr ((hkey ▸ h.holds a s ha hs).le_now hin)

theorem Keeps.spaced_snoc (h : Keeps r es g) (he : g.allows e = true)
    (hst : [(a, s), (b, t)].Sublist (g.after e).successes)
    (hab : [.arm a, .look b].Sublist (es ++ [e])) (hkey : a.key = b.key) : s + r.cooldown ≤ t := by
  rcases successes_after g e with ⟨call, rfl, hsucc⟩ | ⟨-, hsucc⟩
  · have hlooked : [.arm a, .look b].Sublist es := by simpa [pair_sublist_concat] using hab
    rw [hsucc, pair_sublist_concat] at hst
    rcases hst with hst | ⟨hs, hb⟩
    · exact h.spaced a b s t hst hlooked hkey
    · obtain ⟨rfl, rfl⟩ := Prod.mk.inj hb
      have hrun : g.phaseOf b = .running := by simpa [allows] using he
      exact (h.later a b s hlooked hs hkey).resolve_left (by simp [hrun])
  · rw [hsucc] at hst
    rcases pair_sublist_concat.1 hab with hab | ⟨-, rfl⟩
    · exact h.spaced a b s t hst hab hkey
    · -- a call that looks now has not succeeded yet
      have hcoming : g.phaseOf b = .coming := by simpa [allows] using he
      have := h.phase_of_mem b t (hst.subset (by simp))
      simp [hcoming] at this

theorem Keeps.snoc (h : Keeps r es g) (he : g.allows e = true) :
    Keeps r (es ++ [e]) (g.after e) where
  cooldown_eq := (cooldown_after g e).trans h.cooldown_eq
  phase_of_mem a s hs := by
    rcases mem_successes_after he hs with hs | ⟨rfl, -, -⟩
    · exact phaseOf_after_of_succeeded he (h.phase_of_mem a s hs)
    · exact .inl (by simp [after, move])
  le_now a s hs := by
    rcases mem_successes_after he hs with hs | ⟨rfl, rfl, -⟩
    · exact Nat.le_trans (h.le_now a s hs) (now_le_after g e)
    · exact Nat.le_refl _
  phase_of_arm a ha := by
    rcases List.mem_append.1 ha with ha | ha
    · exact phaseOf_after_of_armed he (h.phase_of_arm a ha)
    · obtain rfl := List.mem_singleton.1 ha
      simp [after, move]
  holds _ _ ha hs := h.holds_snoc he ha hs
  later _ _ _ hab hs hkey := h.later_snoc he hab hs hkey
  spaced _ _ _ _ hst hab hkey := h.spaced_snoc he hst hab hkey

theorem Runs.keeps (h : Runs r start es g) : Keeps r es g := by
  induction h with
  | nil => exact keeps_nil r start
  | snoc _ he ih => exact ih.snoc he

/-- Two calls of one key whose handlers run side by side can both succeed at once. -/
theorem not_isSpaced_of_running (h : Runs r start es g) (ha : g.phaseOf a = .running)
    (hb : g.phaseOf b = .running) (hne : a ≠ b) (hkey : a.key = b.key) (hpos : 0 < r.cooldown) :
    ∃ g', Runs r start (es ++ [.succeed a, .succeed b]) g' ∧ ¬ g'.IsSpaced := by
  have hrun : Runs r start ((es ++ [.succeed a]) ++ [.succeed b])
      ((g.after (.succeed a)).after (.succeed b)) := by
    refine (h.snoc (by simpa [allows] using ha)).snoc ?_
    simpa [allows, after, move, hne.symm] using hb
  refine ⟨_, by simpa using hrun, fun hspaced => ?_⟩
  have hlast : [(a, g.now), (b, g.now)].Sublist
      ((g.after (.succeed a)).after (.succeed b)).successes := by
    simp [after]
  have : g.now + r.cooldown ≤ g.now := by
    simpa [h.keeps.cooldown_eq] using List.pairwise_iff_forall_sublist.1 hspaced hlast hkey
  exact Nat.not_lt.2 this (Nat.lt_add_of_pos_right hpos)

/-- Of two successes for one key the second is at least the cooldown after the first, if its call
looked after the other had armed the cooldown. That is all the gate sees to: whenever two calls of
one key run side by side, both can succeed at once. -/
theorem spaced_of_arm_before_look (h : Runs r start es g) :
    (∀ a b s t, [(a, s), (b, t)].Sublist g.successes → a.key = b.key →
        [.arm a, .look b].Sublist es → s + r.cooldown ≤ t) ∧
      ∀ a b, g.phaseOf a = .running → g.phaseOf b = .running → a ≠ b → a.key = b.key →
        0 < r.cooldown → ∃ g', Runs r start (es ++ [.succeed a, .succeed b]) g' ∧ ¬ g'.IsSpaced :=
  ⟨fun a b s t hst hkey hab => h.keeps.spaced a b s t hst hab hkey,
    fun _ _ ha hb hne hkey hpos => not_isSpaced_of_running h ha hb hne hkey hpos⟩

/-- Whether events can happen in this order from a state on. -/
def takes (g : Gate τ) : List GateEvent → Bool
  | [] => true
  | e :: es => g.allows e && (g.after e).takes es

theorem Runs.append (h : Runs r start es g) {more : List GateEvent} (ht : g.takes more = true) :
    Runs r start (es ++ more) (more.foldl after g) := by
  induction more generalizing es g with
  | nil => simpa using h
  | cons e more ih =>
    obtain ⟨he, hes⟩ : g.allows e = true ∧ (g.after e).takes more = true := by
      simpa [takes] using ht
    simpa using ih (h.snoc he) hes

theorem runs_of_takes (ht : (opened r start).takes es = true) :
    Runs r start es (es.foldl after (opened r start)) := by
  simpa using Runs.nil.append ht

/-- What `execute` does is what the steps of one call do, one after another: its registry, its time
and whether it succeeds. -/
theorem exists_runs_execute (r : CommandRegistry τ) (id : ℕ) (name : String)
    (c : CommandContext τ) (w : World τ)
    (htime : ∀ command, r.allowed w.now c.user (lowerText name) = .ok command →
      w.now ≤ (command.run c w).2.now) :
    ∃ es g, Runs r w.now (.look ⟨id, c.user, name⟩ :: es) g ∧
      g.registry = (r.execute name c w).2.1 ∧ g.now = (r.execute name c w).2.2.now ∧
      (g.successes = [(⟨id, c.user, name⟩, g.now)] ∧ (r.execute name c w).1 = .done (.ok ()) ∨
        g.successes = [] ∧ (r.execute name c w).1 ≠ .done (.ok ())) := by
  set call : GateCall := ⟨id, c.user, name⟩
  cases hall : r.allowed w.now c.user (lowerText name) with
  | error e =>
    rw [CommandRegistry.execute_of_error hall]
    exact ⟨[], _, runs_of_takes rfl, rfl, rfl, .inr ⟨rfl, by simp⟩⟩
  | ok command =>
    rw [CommandRegistry.execute_of_ok hall]
    have hin : Gate.admits { registry := r, now := w.now } call = true := by
      simp [admits, call, hall, Except.isOk, Except.toBool]
    have hnow := Nat.add_sub_cancel' (htime command hall)
    set after := command.run c w
    by_cases hok : CommandRegistry.resultOf after.1 = .done (.ok ())
    · refine ⟨[.advance (after.2.now - w.now), .succeed call, .arm call], _,
        runs_of_takes ?_, ?_, hnow, .inl ⟨?_, hok⟩⟩
      · simp [takes, allows, Gate.after, move, hin, opened]
      · simp [Gate.after, move, opened, hok, hnow, call]
      · simp [Gate.after, opened]
    · refine ⟨[.advance (after.2.now - w.now), .fail call], _,
        runs_of_takes ?_, ?_, hnow, .inr ⟨?_, hok⟩⟩
      · simp [takes, allows, Gate.after, move, hin, opened]
      · split
        · contradiction
        · rfl
      · simp [Gate.after, opened]

def pingOnly : CommandRegistry Unit :=
  ({ cooldown := 3000000000 } : CommandRegistry Unit).register
    ⟨"Ping", "answers", fun _ => Job.pure (.ok ())⟩

def ping (id : ℕ) : GateCall := { id, user := 5, name := if id % 2 = 0 then "ping" else "PING" }

def inTurn : List GateEvent :=
  [.look (ping 0), .succeed (ping 0), .arm (ping 0), .advance 3000000000, .clean,
    .look (ping 1), .look (ping 2), .look (ping 3), .succeed (ping 1)]

theorem spaced_of_arm_before_look_inTurn :
    let g := inTurn.foldl after (opened pingOnly 0)
    Runs pingOnly 0 inTurn g ∧ 0 + pingOnly.cooldown ≤ 3000000000 ∧
      ∃ g', Runs pingOnly 0 (inTurn ++ [.succeed (ping 2), .succeed (ping 3)]) g' ∧
        ¬ g'.IsSpaced := by
  have hruns : Runs pingOnly 0 inTurn _ := runs_of_takes (by decide +kernel)
  obtain ⟨hspaced, hside⟩ := spaced_of_arm_before_look hruns
  refine ⟨hruns, hspaced (ping 0) (ping 1) 0 3000000000 ?_ ?_ ?_,
    hside (ping 2) (ping 3) ?_ ?_ ?_ ?_ ?_⟩
  all_goals decide +kernel

/-- One user calls the same command twice, and the second call looks before the first has ended. One
succeeds a second after the other. -/
def sideBySide : List GateEvent :=
  [.look (ping 0), .look (ping 1), .succeed (ping 1), .arm (ping 1), .advance 1000000000,
    .succeed (ping 0), .arm (ping 0)]

theorem not_isSpaced_sideBySide :
    Runs pingOnly 0 sideBySide (sideBySide.foldl after (opened pingOnly 0)) ∧
      ¬ (sideBySide.foldl after (opened pingOnly 0)).IsSpaced :=
  ⟨runs_of_takes (by decide +kernel), by decide +kernel⟩

end Gate
end MediaRelay
