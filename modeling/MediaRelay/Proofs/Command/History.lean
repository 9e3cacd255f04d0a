import Mathlib.Data.Set.Card
import MediaRelay.Command.Registry
import MediaRelay.Proofs.List
import MediaRelay.Proofs.Text.Lower
/-! A command registry as its history tells it. Calls are made one after another and put on record,
latest first, and what each of them answers is read off the records before it alone: who was
registered last, and when a wait was last armed. Sweeps leave no trace in that reading, so they
change no answer. -/

namespace MediaRelay

open Cooldowns (keyOf)

inductive RegistryCall (τ : Type) where
  | register (command : Command τ)
  | execute (name : String) (context : CommandContext τ)
  | setCooldown (user : Int) (name : String)
  | checkCooldown (user : Int) (name : String)
  | activeCooldowns
  | clean
  | wait (time : Nanos)

inductive RegistryAnswer where
  | silence
  | outcome (outcome : Outcome CommandResult)
  | left (time : Option Nanos)
  | count (n : ℕ)

structure RegistryRecord (τ : Type) where
  call : RegistryCall τ
  before : World τ
  ran : Option (Command τ) := none
  answer : RegistryAnswer := .silence
  after : World τ

variable {τ : Type}

def RegistryCall.isClean : RegistryCall τ → Bool
  | .clean => true
  | _ => false

/-- A command that never turns the clock back. -/
def Command.KeepsTime (c : Command τ) : Prop := ∀ context w, w.now ≤ (c.run context w).2.now

def RegistryCall.KeepsTime : RegistryCall τ → Prop
  | .register c => c.KeepsTime
  | _ => True

namespace RegistryCall

def make (r : CommandRegistry τ) (w : World τ) (call : RegistryCall τ) :
    RegistryRecord τ × CommandRegistry τ :=
  match call with
  | .register c => ({ call, before := w, after := w }, r.register c)
  | .execute name c =>
    let ran := (r.allowed w.now c.user (lowerText name)).toOption
    let (outcome, r, after) := r.execute name c w
    ({ call, before := w, ran, answer := .outcome outcome, after }, r)
  | .setCooldown user name => ({ call, before := w, after := w }, r.setCooldown w.now user name)
  | .checkCooldown user name =>
    ({ call, before := w, answer := .left (r.checkCooldown w.now user name), after := w }, r)
  | .activeCooldowns =>
    ({ call, before := w, answer := .count (r.cooldowns.active w.now), after := w }, r)
  | .clean =>
    ({ call, before := w, answer := .count (r.cooldowns.expired w.now), after := w }, r.clean w.now)
  | .wait time => ({ call, before := w, after := { w with now := w.now + time } }, r)

end RegistryCall

structure RegistryLife (τ : Type) where
  registry : CommandRegistry τ
  world : World τ
  past : List (RegistryRecord τ) := []

namespace RegistryLife

def fresh (cooldown : Nanos) (w : World τ) : RegistryLife τ :=
  { registry := { cooldown }, world := w }

def take (s : RegistryLife τ) (call : RegistryCall τ) : RegistryLife τ :=
  let (record, registry) := call.make s.registry s.world
  { registry, world := record.after, past := record :: s.past }

def takeAll (s : RegistryLife τ) (calls : List (RegistryCall τ)) : RegistryLife τ :=
  calls.foldl take s

end RegistryLife

/-! What a past says. -/

namespace RegistryRecord

def registered? (r : RegistryRecord τ) : Option (String × Command τ) :=
  match r.call with
  | .register c => some (lowerText c.name, c)
  | _ => none

/-- The wait that a record arms, and when: a call for it does, and a command that succeeded. -/
def armed? (r : RegistryRecord τ) : Option (CooldownKey × Nanos) :=
  match r.call, r.answer with
  | .setCooldown user name, _ => some (keyOf user name, r.before.now)
  | .execute name c, .outcome (.done (.ok ())) => some (keyOf c.user name, r.after.now)
  | _, _ => none

end RegistryRecord

namespace RegistryPast

def command? (past : List (RegistryRecord τ)) (name : String) : Option (Command τ) :=
  (past.filterMap RegistryRecord.registered?).lookup (lowerText name)

def HasRegistered (past : List (RegistryRecord τ)) (name : String) : Prop :=
  ∃ r ∈ past, ∃ c, r.call = .register c ∧ lowerText c.name = lowerText name

/-- When the wait of a key ends, as it was armed last. -/
def endOf? (cooldown : Nanos) (past : List (RegistryRecord τ)) (key : CooldownKey) : Option Nanos :=
  ((past.filterMap RegistryRecord.armed?).lookup key).map (· + cooldown)

/-- Some of the wait of a key is left, and how much. -/
def IsLeft (cooldown : Nanos) (past : List (RegistryRecord τ)) (now : Nanos) (key : CooldownKey)
    (left : Nanos) : Prop :=
  ∃ e, endOf? cooldown past key = some e ∧ now < e ∧ left = e - now

/-- How a call of a command ends, as the past has it. Without a handler nothing runs, and as long as
its user has to wait; otherwise the handler that was registered last runs, once. -/
structure IsExecuted (cooldown : Nanos) (past : List (RegistryRecord τ)) (name : String)
    (c : CommandContext τ) (before : World τ) (ran : Option (Command τ))
    (outcome : Outcome CommandResult) (after : World τ) : Prop where
  unknown : ran = none ∧ outcome = .done (.error (.notFound (lowerText name))) ↔
    ¬ HasRegistered past name
  waiting : ∀ left, ran = none ∧ outcome = .done (.error (.cooldown left)) ↔
    HasRegistered past name ∧ IsLeft cooldown past before.now (keyOf c.user name) left
  runs : ∀ command, ran = some command ↔
    command? past name = some command ∧
      ∀ left, ¬ IsLeft cooldown past before.now (keyOf c.user name) left
  idle : ran = none → after = before
  result : ∀ command, ran = some command →
    outcome = CommandRegistry.resultOf (command.run c before).1 ∧ after = (command.run c before).2

def IsAnswered (cooldown : Nanos) (past : List (RegistryRecord τ)) (r : RegistryRecord τ) : Prop :=
  match r.call with
  | .execute name c =>
    ∃ outcome, r.answer = .outcome outcome ∧
      IsExecuted cooldown past name c r.before r.ran outcome r.after
  | .checkCooldown user name =>
    r.ran = none ∧ r.after = r.before ∧ ∃ left?, r.answer = .left left? ∧
      ∀ left, left? = some left ↔ IsLeft cooldown past r.before.now (keyOf user name) left
  | .activeCooldowns =>
    r.ran = none ∧ r.after = r.before ∧
      r.answer = .count {key | ∃ left, IsLeft cooldown past r.before.now key left}.ncard
  | .wait time =>
    r.ran = none ∧ r.after = { r.before with now := r.before.now + time } ∧ r.answer = .silence
  | .register _ => r.ran = none ∧ r.after = r.before ∧ r.answer = .silence
  | .setCooldown _ _ => r.ran = none ∧ r.after = r.before ∧ r.answer = .silence
  -- how much is swept depends on the sweeps before
  | .clean => r.ran = none ∧ r.after = r.before

theorem registered?_eq_some_iff {r : RegistryRecord τ} {p : String × Command τ} :
    r.registered? = some p ↔ ∃ c, r.call = .register c ∧ p = (lowerText c.name, c) := by
  unfold RegistryRecord.registered?
  split
  · next c hc => simp [hc, eq_comm]
  · next hno => simpa using fun c hc => (hno c hc).elim

variable {past : List (RegistryRecord τ)} {name : String}

theorem command?_cons {r : RegistryRecord τ} (h : r.registered? = none) (name : String) :
    command? (r :: past) name = command? past name := by
  rw [command?, List.filterMap_cons, h]
  rfl

theorem endOf?_cons {r : RegistryRecord τ} (h : r.armed? = none) (cooldown : Nanos)
    (key : CooldownKey) :
    endOf? cooldown (r :: past) key = endOf? cooldown past key := by
  rw [endOf?, List.filterMap_cons, h]
  rfl

theorem registered_of_command? {c : Command τ} (h : command? past name = some c) :
    ∃ r ∈ past, r.call = .register c ∧ lowerText c.name = lowerText name := by
  obtain ⟨l₁, l₂, hl, -⟩ := List.lookup_eq_some_iff.1 h
  have hmem : (lowerText name, c) ∈ past.filterMap RegistryRecord.registered? := by simp [hl]
  obtain ⟨r, hr, hreg⟩ := List.mem_filterMap.1 hmem
  obtain ⟨c', hc', heq⟩ := registered?_eq_some_iff.1 hreg
  obtain ⟨hname, rfl⟩ := Prod.mk.inj heq
  exact ⟨r, hr, hc', hname.symm⟩

theorem hasRegistered_iff : HasRegistered past name ↔ ∃ c, command? past name = some c := by
  constructor
  · rintro ⟨r, hr, c, hc, hname⟩
    by_contra hno
    have hnone : command? past name = none := Option.eq_none_iff_forall_ne_some.2 (not_exists.1 hno)
    have hmem : (lowerText c.name, c) ∈ past.filterMap RegistryRecord.registered? :=
      List.mem_filterMap.2 ⟨r, hr, registered?_eq_some_iff.2 ⟨c, hc, rfl⟩⟩
    exact absurd hname.symm (by simpa using List.lookup_eq_none_iff.1 hnone _ hmem)
  · rintro ⟨c, hc⟩
    obtain ⟨r, hr, hcall, hname⟩ := registered_of_command? hc
    exact ⟨r, hr, c, hcall, hname⟩

end RegistryPast

/-! What a registry knows of its past. -/

namespace Cooldowns

theorem mem_arm {c : Cooldowns} {key : CooldownKey} {e : Nanos} {p : CooldownKey × Nanos} :
    p ∈ (c.arm key e).entries ↔ p = (key, e) ∨ p ∈ c.entries ∧ p.1 ≠ key := by
  simp [arm]

def IsKeyed (c : Cooldowns) : Prop := (c.entries.map (·.1)).Nodup

theorem IsKeyed.arm {c : Cooldowns} (h : c.IsKeyed) (key : CooldownKey) (e : Nanos) :
    (c.arm key e).IsKeyed := by
  simp only [IsKeyed, Cooldowns.arm, List.map_cons, List.nodup_cons]
  refine ⟨by simp, h.sublist (List.Sublist.map _ List.filter_sublist)⟩

theorem IsKeyed.clean {c : Cooldowns} (h : c.IsKeyed) (now : Nanos) : (c.clean now).IsKeyed :=
  h.sublist (List.Sublist.map _ List.filter_sublist)

theorem remaining?_eq_some_iff {c : Cooldowns} (h : c.IsKeyed) {now left : Nanos}
    {key : CooldownKey} :
    c.remaining? now key = some left ↔ ∃ e, (key, e) ∈ c.entries ∧ now < e ∧ left = e - now := by
  simp only [remaining?, expiry?, ← lookup_eq_some_iff_mem h]
  cases c.entries.lookup key with
  | none => simp
  | some e =>
    by_cases hlt : now < e
    · simp [hlt, eq_comm]
    · simp [hlt]

theorem active_eq_ncard {c : Cooldowns} (h : c.IsKeyed) (now : Nanos) :
    c.active now = {key | ∃ e, (key, e) ∈ c.entries ∧ now < e}.ncard := by
  have hset : {key | ∃ e, (key, e) ∈ c.entries ∧ now < e} =
      ((c.clean now).entries.map (·.1)).toFinset := by
    ext key
    simp [Cooldowns.clean]
  rw [hset, Set.ncard_coe_finset, List.toFinset_card_of_nodup (h.clean now), List.length_map]
  exact List.countP_eq_length_filter

end Cooldowns

open RegistryPast

/-- A registry holds what its past says at a time. Of the waits it may have lost those that have
ended. -/
structure CommandRegistry.Recalls (r : CommandRegistry τ) (past : List (RegistryRecord τ))
    (now : Nanos) : Prop where
  commands : ∀ name, r.commands.lookup (lowerText name) = command? past name
  keyed : r.cooldowns.IsKeyed
  sound : ∀ key e, (key, e) ∈ r.cooldowns.entries → endOf? r.cooldown past key = some e
  complete : ∀ key e, endOf? r.cooldown past key = some e → now < e → (key, e) ∈ r.cooldowns.entries

namespace CommandRegistry.Recalls

variable {r : CommandRegistry τ} {past : List (RegistryRecord τ)} {now : Nanos}

theorem fresh (cooldown now : Nanos) : ({ cooldown } : CommandRegistry τ).Recalls [] now where
  commands := by simp [command?]
  keyed := by simp [Cooldowns.IsKeyed]
  sound := by simp
  complete := by simp [endOf?]

theorem later {t : Nanos} (h : r.Recalls past now) (ht : now ≤ t) : r.Recalls past t :=
  { h with complete := fun key e he hlt => h.complete key e he (lt_of_le_of_lt ht hlt) }

theorem isLeft_iff (h : r.Recalls past now) {key : CooldownKey} {left : Nanos} :
    IsLeft r.cooldown past now key left ↔ r.cooldowns.remaining? now key = some left := by
  rw [Cooldowns.remaining?_eq_some_iff h.keyed]
  constructor
  · rintro ⟨e, he, hlt, hleft⟩
    exact ⟨e, h.complete key e he hlt, hlt, hleft⟩
  · rintro ⟨e, he, hlt, hleft⟩
    exact ⟨e, h.sound key e he, hlt, hleft⟩

theorem active_eq (h : r.Recalls past now) :
    r.cooldowns.active now = {key | ∃ left, IsLeft r.cooldown past now key left}.ncard := by
  rw [Cooldowns.active_eq_ncard h.keyed]
  congr 1
  ext key
  constructor
  · rintro ⟨e, he, hlt⟩
    exact ⟨e - now, e, h.sound key e he, hlt, rfl⟩
  · rintro ⟨left, e, he, hlt, -⟩
    exact ⟨e, h.complete key e he hlt, hlt⟩

/-- A record that registers nothing and arms nothing is soon forgotten. -/
theorem note {record : RegistryRecord τ} (h : r.Recalls past now) (hreg : record.registered? = none)
    (harm : record.armed? = none) : r.Recalls (record :: past) now where
  commands name := (h.commands name).trans (command?_cons hreg name).symm
  keyed := h.keyed
  sound key e hmem := (endOf?_cons harm r.cooldown key).trans (h.sound key e hmem)
  complete key e hend := h.complete key e ((endOf?_cons harm r.cooldown key).symm.trans hend)

theorem register {record : RegistryRecord τ} {c : Command τ} (h : r.Recalls past now)
    (hcall : record.call = .register c) : (r.register c).Recalls (record :: past) now := by
  have hreg : record.registered? = some (lowerText c.name, c) := by
    simp [RegistryRecord.registered?, hcall]
  have harm : record.armed? = none := by simp [RegistryRecord.armed?, hcall]
  have he : ∀ key, endOf? r.cooldown (record :: past) key = endOf? r.cooldown past key :=
    endOf?_cons harm _
  refine ⟨fun name => ?_, h.keyed, fun key e hmem => (he key).trans (h.sound key e hmem),
    fun key e hend => h.complete key e ((he key).symm.trans hend)⟩
  rw [command?, List.filterMap_cons, hreg]
  simp only [CommandRegistry.register, List.lookup_cons]
  by_cases hname : lowerText name = lowerText c.name
  · simp [hname]
  · rw [beq_false_of_ne hname]
    exact (lookup_filter_ne hname).trans (h.commands name)

/-- A record that arms a wait, and the registry that armed it. -/
theorem arm {record : RegistryRecord τ} {key : CooldownKey} (h : r.Recalls past now)
    (hreg : record.registered? = none) (harm : record.armed? = some (key, now)) :
    ({ r with cooldowns := r.cooldowns.arm key (now + r.cooldown) } : CommandRegistry τ).Recalls
      (record :: past) now := by
  have he : ∀ k, endOf? r.cooldown (record :: past) k =
      if k = key then some (now + r.cooldown) else endOf? r.cooldown past k := by
    intro k
    rw [endOf?, List.filterMap_cons, harm]
    simp only [List.lookup_cons]
    split_ifs with hk
    · simp [hk]
    · rw [beq_false_of_ne hk]
      rfl
  refine ⟨fun name => (h.commands name).trans (command?_cons hreg name).symm, h.keyed.arm _ _,
    fun k e hmem => ?_, fun k e hend hlt => ?_⟩
  · rw [he]
    rcases Cooldowns.mem_arm.1 hmem with heq | ⟨hmem, hne⟩
    · obtain ⟨rfl, rfl⟩ := Prod.mk.inj heq
      simp
    · rw [if_neg hne]
      exact h.sound k e hmem
  · rw [he] at hend
    rw [Cooldowns.mem_arm]
    split_ifs at hend with hk
    · left
      rw [hk, Option.some.inj hend]
    · exact .inr ⟨h.complete k e hend hlt, hk⟩

theorem clean (h : r.Recalls past now) : (r.clean now).Recalls past now where
  commands := h.commands
  keyed := h.keyed.clean now
  sound key e hmem := h.sound key e (List.mem_of_mem_filter hmem)
  complete key e hend hlt := List.mem_filter.2 ⟨h.complete key e hend hlt, by simpa using hlt⟩

theorem get?_eq (h : r.Recalls past now) (name : String) :
    r.get? (lowerText name) = command? past name := by
  rw [CommandRegistry.get?, lowerText_lowerText]
  exact h.commands name

theorem checkCooldown_eq_some_iff (h : r.Recalls past now) {user : ℤ} {name : String}
    {left : Nanos} :
    r.checkCooldown now user name = some left ↔
      IsLeft r.cooldown past now (keyOf user name) left := by
  rw [h.isLeft_iff]
  rfl

end CommandRegistry.Recalls

theorem keyOf_lowerText (user : ℤ) (name : String) :
    keyOf user (lowerText name) = keyOf user name := by
  rw [keyOf, keyOf, lowerText_lowerText]

/-- The three ways in which a call of a command can go on. -/
theorem CommandRegistry.Recalls.allowed_cases {r : CommandRegistry τ}
    {past : List (RegistryRecord τ)} {now : Nanos} (h : r.Recalls past now) (user : ℤ)
    (name : String) :
    (¬ HasRegistered past name ∧
      r.allowed now user (lowerText name) = .error (.notFound (lowerText name))) ∨
    (∃ left, HasRegistered past name ∧ IsLeft r.cooldown past now (keyOf user name) left ∧
      r.allowed now user (lowerText name) = .error (.cooldown left)) ∨
    (∃ command, command? past name = some command ∧
      (∀ left, ¬ IsLeft r.cooldown past now (keyOf user name) left) ∧
      r.allowed now user (lowerText name) = .ok command) := by
  rw [hasRegistered_iff, CommandRegistry.allowed, h.get?_eq]
  cases hc : command? past name with
  | none => simp
  | some command =>
    cases hleft : r.checkCooldown now user (lowerText name) with
    | none =>
      refine .inr (.inr ⟨command, rfl, fun left hl => ?_, rfl⟩)
      rw [← keyOf_lowerText, ← h.checkCooldown_eq_some_iff, hleft] at hl
      exact absurd hl (by simp)
    | some left =>
      refine .inr (.inl ⟨left, ⟨command, rfl⟩, ?_, rfl⟩)
      rw [← keyOf_lowerText, ← h.checkCooldown_eq_some_iff, hleft]

namespace CommandRegistry

theorem execute_of_error {r : CommandRegistry τ} {name : String} {c : CommandContext τ}
    {w : World τ} {e : CommandError} (h : r.allowed w.now c.user (lowerText name) = .error e) :
    r.execute name c w = (.done (.error e), r, w) := by
  rw [execute, h, carryOut]

theorem execute_of_ok {r : CommandRegistry τ} {name : String} {c : CommandContext τ} {w : World τ}
    {command : Command τ}
    (h : r.allowed w.now c.user (lowerText name) = .ok command) :
    r.execute name c w = (resultOf (command.run c w).1,
      match resultOf (command.run c w).1 with
      | .done (.ok ()) => r.setCooldown (command.run c w).2.now c.user (lowerText name)
      | _ => r,
      (command.run c w).2) := by
  rw [execute, h, carryOut]
  dsimp only
  split <;> simp_all

end CommandRegistry

/-- A call of a command ends as the past has it. -/
theorem CommandRegistry.Recalls.isExecuted {r : CommandRegistry τ}
    {past : List (RegistryRecord τ)} {w : World τ} (h : r.Recalls past w.now) (name : String)
    (c : CommandContext τ) :
    IsExecuted r.cooldown past name c w (r.allowed w.now c.user (lowerText name)).toOption
      (r.execute name c w).1
      (r.execute name c w).2.2 := by
  rcases h.allowed_cases c.user name with
    ⟨hno, hall⟩ | ⟨left, hreg, hleft, hall⟩ | ⟨command, hc, hfree, hall⟩
  · have hnone : command? past name = none := by
      rw [hasRegistered_iff] at hno
      exact Option.eq_none_iff_forall_ne_some.2 (not_exists.1 hno)
    rw [CommandRegistry.execute_of_error hall, hall]
    constructor <;> simp [Except.toOption, hno, hnone]
  · have hone : ∀ l, IsLeft r.cooldown past w.now (keyOf c.user name) l ↔ l = left := by
      obtain ⟨e, he, hlt, rfl⟩ := hleft
      intro l
      simp [IsLeft, he, hlt]
    rw [CommandRegistry.execute_of_error hall, hall]
    constructor <;> simp [Except.toOption, hreg, hone, eq_comm]
  · have hreg : HasRegistered past name := hasRegistered_iff.2 ⟨command, hc⟩
    rw [CommandRegistry.execute_of_ok hall, hall]
    constructor <;> simp [Except.toOption, hreg, hfree, hc]

/-- Making a call keeps what the registry recalls, if time goes on. -/
theorem CommandRegistry.Recalls.make {r : CommandRegistry τ} {past : List (RegistryRecord τ)}
    {w : World τ} (h : r.Recalls past w.now)
    (hpast : ∀ name c, command? past name = some c → c.KeepsTime) (call : RegistryCall τ) :
    (call.make r w).2.Recalls ((call.make r w).1 :: past) (call.make r w).1.after.now ∧
      (call.make r w).2.cooldown = r.cooldown := by
  cases call with
  | register c => exact ⟨h.register rfl, rfl⟩
  | setCooldown user name => exact ⟨h.arm rfl rfl, rfl⟩
  | checkCooldown user name => exact ⟨h.note rfl rfl, rfl⟩
  | activeCooldowns => exact ⟨h.note rfl rfl, rfl⟩
  | clean => exact ⟨h.clean.note rfl rfl, rfl⟩
  | wait time => exact ⟨(h.note rfl rfl).later (Nat.le_add_right _ _), rfl⟩
  | execute name c =>
    rcases h.allowed_cases c.user name with ⟨-, hall⟩ | ⟨left, -, -, hall⟩ | ⟨command, hc, -, hall⟩
    · simp only [RegistryCall.make, CommandRegistry.execute_of_error hall]
      exact ⟨h.note rfl rfl, trivial⟩
    · simp only [RegistryCall.make, CommandRegistry.execute_of_error hall]
      exact ⟨h.note rfl rfl, trivial⟩
    · simp only [RegistryCall.make, CommandRegistry.execute_of_ok hall]
      have ht := h.later (hpast name command hc c w)
      split
      · next hok =>
        refine ⟨?_, rfl⟩
        rw [CommandRegistry.setCooldown, keyOf_lowerText]
        exact ht.arm rfl (by rw [RegistryRecord.armed?, hok])
      · next hnot =>
        refine ⟨ht.note rfl ?_, rfl⟩
        unfold RegistryRecord.armed?
        split <;> simp_all

/-- What is put on record is what the past says. -/
theorem CommandRegistry.Recalls.isAnswered {r : CommandRegistry τ}
    {past : List (RegistryRecord τ)} {w : World τ} (h : r.Recalls past w.now)
    (call : RegistryCall τ) : IsAnswered r.cooldown past (call.make r w).1 := by
  cases call with
  | register c => exact ⟨rfl, rfl, rfl⟩
  | setCooldown user name => exact ⟨rfl, rfl, rfl⟩
  | checkCooldown user name => exact ⟨rfl, rfl, _, rfl, fun left => h.checkCooldown_eq_some_iff⟩
  | activeCooldowns => exact ⟨rfl, rfl, congrArg RegistryAnswer.count h.active_eq⟩
  | clean => exact ⟨rfl, rfl⟩
  | wait time => exact ⟨rfl, rfl, rfl⟩
  | execute name c => exact ⟨_, rfl, h.isExecuted name c⟩

namespace RegistryLife

structure IsSound (cooldown : Nanos) (s : RegistryLife τ) : Prop where
  recalls : s.registry.Recalls s.past s.world.now
  cooldown_eq : s.registry.cooldown = cooldown
  keeps : ∀ r ∈ s.past, r.call.KeepsTime

theorem isSound_fresh (cooldown : Nanos) (w : World τ) : (fresh cooldown w).IsSound cooldown :=
  ⟨.fresh cooldown w.now, rfl, by simp [fresh]⟩

theorem IsSound.command_keepsTime {cooldown : Nanos} {s : RegistryLife τ} (h : s.IsSound cooldown)
    {name : String} {c : Command τ} (hc : command? s.past name = some c) : c.KeepsTime := by
  obtain ⟨r, hr, hcall, -⟩ := registered_of_command? hc
  have := h.keeps r hr
  rwa [hcall] at this

theorem make_call (r : CommandRegistry τ) (w : World τ) (call : RegistryCall τ) :
    (call.make r w).1.call = call := by
  cases call <;> rfl

theorem make_before (r : CommandRegistry τ) (w : World τ) (call : RegistryCall τ) :
    (call.make r w).1.before = w := by
  cases call <;> rfl

theorem IsSound.take {cooldown : Nanos} {s : RegistryLife τ} (h : s.IsSound cooldown)
    {call : RegistryCall τ} (hk : call.KeepsTime) : (s.take call).IsSound cooldown := by
  obtain ⟨hr, hc⟩ := h.recalls.make (fun _ _ => h.command_keepsTime) call
  refine ⟨hr, hc.trans h.cooldown_eq, List.forall_mem_cons.2 ⟨?_, h.keeps⟩⟩
  change (call.make s.registry s.world).1.call.KeepsTime
  rwa [make_call]

theorem IsSound.takeAll {cooldown : Nanos} {s : RegistryLife τ} (h : s.IsSound cooldown)
    {calls : List (RegistryCall τ)} (hk : ∀ call ∈ calls, call.KeepsTime) :
    (s.takeAll calls).IsSound cooldown := by
  induction calls generalizing s with
  | nil => exact h
  | cons call calls ih =>
    obtain ⟨hcall, hcalls⟩ := List.forall_mem_cons.1 hk
    exact ih (h.take hcall) hcalls

def IsExplained (cooldown : Nanos) (past : List (RegistryRecord τ)) : Prop :=
  ∀ later record earlier, past = later ++ record :: earlier → IsAnswered cooldown earlier record

theorem isExplained_cons {cooldown : Nanos} {record : RegistryRecord τ}
    {past : List (RegistryRecord τ)} :
    IsExplained cooldown (record :: past) ↔
      IsAnswered cooldown past record ∧ IsExplained cooldown past := by
  constructor
  · intro h
    exact ⟨h [] record past rfl, fun later r earlier heq =>
      h (record :: later) r earlier (by rw [heq]; rfl)⟩
  · rintro ⟨hr, hpast⟩ later r earlier heq
    cases later with
    | nil =>
      obtain ⟨rfl, rfl⟩ := List.cons.inj heq
      exact hr
    | cons _ later => exact hpast later r earlier (List.cons.inj heq).2

theorem IsSound.isExplained_takeAll {cooldown : Nanos} {s : RegistryLife τ}
    (h : s.IsSound cooldown) (hs : IsExplained cooldown s.past) {calls : List (RegistryCall τ)}
    (hk : ∀ call ∈ calls, call.KeepsTime) :
    IsExplained cooldown (s.takeAll calls).past := by
  induction calls generalizing s with
  | nil => exact hs
  | cons call calls ih =>
    obtain ⟨hcall, hcalls⟩ := List.forall_mem_cons.1 hk
    refine ih (h.take hcall) (isExplained_cons.2 ⟨?_, hs⟩) hcalls
    rw [← h.cooldown_eq]
    exact h.recalls.isAnswered call

end RegistryLife

/-! Sweeps leave no trace. -/

namespace RegistryPast

def unswept (past : List (RegistryRecord τ)) : List (RegistryRecord τ) :=
  past.filter (!·.call.isClean)

variable {cooldown : Nanos} {past : List (RegistryRecord τ)}

theorem filterMap_unswept {α : Type} {f : RegistryRecord τ → Option α}
    (hf : ∀ r, r.call = .clean → f r = none) (past : List (RegistryRecord τ)) :
    (unswept past).filterMap f = past.filterMap f := by
  rw [unswept, List.filterMap_filter]
  refine List.filterMap_congr fun r _ => ?_
  cases hr : r.call with
  | clean => simp [RegistryCall.isClean, hf r hr]
  | _ => simp [RegistryCall.isClean]

theorem command?_unswept (past : List (RegistryRecord τ)) (name : String) :
    command? (unswept past) name = command? past name := by
  rw [command?, filterMap_unswept fun r hr => by simp [RegistryRecord.registered?, hr]]
  rfl

theorem endOf?_unswept (cooldown : Nanos) (past : List (RegistryRecord τ)) (key : CooldownKey) :
    endOf? cooldown (unswept past) key = endOf? cooldown past key := by
  rw [endOf?, filterMap_unswept fun r hr => by simp [RegistryRecord.armed?, hr]]
  rfl

theorem hasRegistered_unswept {name : String} :
    HasRegistered (unswept past) name ↔ HasRegistered past name := by
  rw [hasRegistered_iff, hasRegistered_iff]
  simp only [command?_unswept]

theorem isLeft_unswept {now left : Nanos} {key : CooldownKey} :
    IsLeft cooldown (unswept past) now key left ↔ IsLeft cooldown past now key left := by
  simp only [IsLeft, endOf?_unswept]

theorem IsAnswered.unswept {r : RegistryRecord τ} (h : IsAnswered cooldown past r) :
    IsAnswered cooldown (unswept past) r := by
  unfold IsAnswered at h ⊢
  cases hr : r.call with
  | execute name c =>
    rw [hr] at h
    obtain ⟨outcome, ho, hx⟩ := h
    refine ⟨outcome, ho, ?_, fun left => ?_, fun command => ?_, hx.idle, hx.result⟩
    · rw [hasRegistered_unswept, hx.unknown]
    · rw [hasRegistered_unswept, isLeft_unswept, hx.waiting]
    · simp only [command?_unswept, isLeft_unswept, hx.runs]
  | _ => simpa only [hr, isLeft_unswept] using h

theorem IsExecuted.unique {name : String} {c : CommandContext τ} {before after after' : World τ}
    {ran ran' : Option (Command τ)} {outcome outcome' : Outcome CommandResult}
    (h : IsExecuted cooldown past name c before ran outcome after)
    (h' : IsExecuted cooldown past name c before ran' outcome' after') :
    ran = ran' ∧ outcome = outcome' ∧ after = after' := by
  have hran : ran = ran' := Option.ext fun command => by rw [h.runs, h'.runs]
  subst hran
  refine ⟨rfl, ?_⟩
  cases hr : ran with
  | some command =>
    obtain ⟨ho, ha⟩ := h.result command hr
    obtain ⟨ho', ha'⟩ := h'.result command hr
    exact ⟨ho.trans ho'.symm, ha.trans ha'.symm⟩
  | none =>
    refine ⟨?_, (h.idle hr).trans (h'.idle hr).symm⟩
    by_cases hreg : HasRegistered past name
    · obtain ⟨command, hc⟩ := hasRegistered_iff.1 hreg
      have hleft : ∃ left, IsLeft cooldown past before.now (keyOf c.user name) left := by
        by_contra hno
        have := (h.runs command).2 ⟨hc, not_exists.1 hno⟩
        rw [hr] at this
        exact absurd this (by simp)
      obtain ⟨left, hleft⟩ := hleft
      exact ((h.waiting left).2 ⟨hreg, hleft⟩).2.trans ((h'.waiting left).2 ⟨hreg, hleft⟩).2.symm
    · exact (h.unknown.2 hreg).2.trans (h'.unknown.2 hreg).2.symm

/-- A past leaves one record only to a call other than a sweep. -/
theorem IsAnswered.unique {r r' : RegistryRecord τ} (h : IsAnswered cooldown past r)
    (h' : IsAnswered cooldown past r') (hcall : r.call = r'.call)
    (hbefore : r.before = r'.before) (hclean : r.call.isClean = false) : r = r' := by
  obtain ⟨call, before, ran, answer, after⟩ := r
  obtain ⟨call', before', ran', answer', after'⟩ := r'
  obtain rfl : call = call' := hcall
  obtain rfl : before = before' := hbefore
  cases call with
  | execute name c =>
    obtain ⟨outcome, rfl, hx⟩ := h
    obtain ⟨outcome', rfl, hx'⟩ := h'
    obtain ⟨rfl, rfl, rfl⟩ := hx.unique hx'
    rfl
  | checkCooldown user name =>
    dsimp only [IsAnswered] at h h'
    obtain ⟨rfl, rfl, left?, rfl, hl⟩ := h
    obtain ⟨rfl, rfl, left?', rfl, hl'⟩ := h'
    have : left? = left?' := Option.ext fun left => (hl left).trans (hl' left).symm
    rw [this]
  | clean => exact absurd hclean (by simp [RegistryCall.isClean])
  | activeCooldowns | wait _ | register _ | setCooldown _ _ =>
    dsimp only [IsAnswered] at h h'
    obtain ⟨rfl, rfl, rfl⟩ := h
    obtain ⟨rfl, rfl, rfl⟩ := h'
    rfl

end RegistryPast

namespace RegistryLife

/-- Two lives that differ in sweeps alone go on alike. -/
theorem unswept_take {cooldown : Nanos} {s s' : RegistryLife τ} (h : s.IsSound cooldown)
    (h' : s'.IsSound cooldown) (hw : s.world = s'.world) (hp : unswept s.past = unswept s'.past)
    {call : RegistryCall τ} (hc : call.isClean = false) :
    (s.take call).world = (s'.take call).world ∧
      unswept (s.take call).past = unswept (s'.take call).past := by
  have ha : IsAnswered cooldown s.past (call.make s.registry s.world).1 := by
    rw [← h.cooldown_eq]
    exact h.recalls.isAnswered call
  have ha' : IsAnswered cooldown s'.past (call.make s'.registry s'.world).1 := by
    rw [← h'.cooldown_eq]
    exact h'.recalls.isAnswered call
  have hr : (call.make s.registry s.world).1 = (call.make s'.registry s'.world).1 := by
    refine ha.unswept.unique ?_ ?_ ?_ ?_
    · rw [hp]
      exact ha'.unswept
    · rw [make_call, make_call]
    · rw [make_before, make_before, hw]
    · rw [make_call, hc]
  refine ⟨congrArg RegistryRecord.after hr, ?_⟩
  change unswept ((call.make s.registry s.world).1 :: s.past) =
    unswept ((call.make s'.registry s'.world).1 :: s'.past)
  rw [hr]
  simp only [unswept, List.filter_cons] at hp ⊢
  rw [hp]

theorem unswept_takeAll {cooldown : Nanos} {s s' : RegistryLife τ} (h : s.IsSound cooldown)
    (h' : s'.IsSound cooldown) (hw : s.world = s'.world) (hp : unswept s.past = unswept s'.past)
    {calls : List (RegistryCall τ)} (hk : ∀ call ∈ calls, call.KeepsTime) :
    unswept (s.takeAll calls).past = unswept (s'.takeAll (calls.filter (!·.isClean))).past := by
  induction calls generalizing s s' with
  | nil => exact hp
  | cons call calls ih =>
    obtain ⟨hcall, hcalls⟩ := List.forall_mem_cons.1 hk
    cases hc : call.isClean with
    | false =>
      obtain ⟨hw', hp'⟩ := unswept_take h h' hw hp hc
      rw [List.filter_cons_of_pos (by simp [hc])]
      exact ih (h.take hcall) (h'.take hcall) hw' hp' hcalls
    | true =>
      rw [List.filter_cons_of_neg (by simp [hc])]
      cases call with
      | clean =>
        have hpast : unswept (s.take .clean).past = unswept s.past := rfl
        exact ih (h.take hcall) h' hw (hpast.trans hp) hcalls
      | _ => simp [RegistryCall.isClean] at hc

/-- Whatever is called on a fresh registry, and in whatever order, each record is what the records
before it say, and sweeps that are put in or left out change no other record. -/
theorem isExplained_and_unswept_eq (cooldown : Nanos) (w : World τ)
    (calls : List (RegistryCall τ)) (hk : ∀ call ∈ calls, call.KeepsTime) :
    IsExplained cooldown ((fresh cooldown w).takeAll calls).past ∧
      ∀ calls' : List (RegistryCall τ), calls'.filter (!·.isClean) = calls.filter (!·.isClean) →
        unswept ((fresh cooldown w).takeAll calls').past =
          unswept ((fresh cooldown w).takeAll calls).past := by
  have h := isSound_fresh cooldown w
  refine ⟨h.isExplained_takeAll (fun later r earlier heq => by simp [fresh] at heq) hk,
    fun calls' hcalls => ?_⟩
  have hk' : ∀ call ∈ calls', call.KeepsTime := by
    intro call hmem
    cases hc : call.isClean with
    | false =>
      have : call ∈ calls'.filter (!·.isClean) := List.mem_filter.2 ⟨hmem, by simp [hc]⟩
      rw [hcalls] at this
      exact hk call (List.mem_of_mem_filter this)
    | true => cases call <;> simp_all [RegistryCall.isClean, RegistryCall.KeepsTime]
  rw [unswept_takeAll h h rfl rfl hk', unswept_takeAll h h rfl rfl hk, hcalls]

/-- A command is called, called again before its wait is over, and once more when it has just
ended. -/
def threeTries : List (RegistryCall Unit) :=
  let context : CommandContext Unit :=
    { user := 5, thread := 42, messageId := "1", args := [], rawText := "!roll", uptime := 0
      listing := [], messages := 1
      pipeline :=
        { platforms := [], downloader := { maxBytes := 0, concurrency := 1 }
          outbox := { attempts := 1, maxUpload := 0 } } }
  [.register ⟨"Roll", "rolls a die", fun _ => (Job.draw 6).bind fun _ => Job.pure (.ok ())⟩,
    .execute "ROLL" context, .wait 4, .clean, .execute "roll" context, .checkCooldown 5 "rOLL",
    .wait 6, .clean, .execute "Roll" context]

theorem isExplained_and_unswept_eq_threeTries :
    (∀ call ∈ threeTries, call.KeepsTime) ∧
      let w : World Unit :=
        { network := ⟨fun _ _ => .dropped⟩, client := { timeout := 0 }, messenger := () }
      IsExplained 10 ((fresh 10 w).takeAll threeTries).past ∧
        ∀ calls : List (RegistryCall Unit),
          calls.filter (!·.isClean) = threeTries.filter (!·.isClean) →
          unswept ((fresh 10 w).takeAll calls).past =
            unswept ((fresh 10 w).takeAll threeTries).past := by
  have hk : ∀ call ∈ threeTries, call.KeepsTime := by
    simp only [threeTries, List.forall_mem_cons, RegistryCall.KeepsTime]
    exact ⟨fun _ w => le_refl w.now, by simp⟩
  exact ⟨hk, isExplained_and_unswept_eq 10 _ threeTries hk⟩

end RegistryLife

end MediaRelay
