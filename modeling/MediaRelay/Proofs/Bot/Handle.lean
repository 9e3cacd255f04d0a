import MediaRelay.Bot
import MediaRelay.Proofs.World
/-! The ways that a message takes through the bot. It is left aside, it is carried out as a command,
its link is followed, or it is counted and that is all. What a command or a link comes to is told
from the work behind it, which is done under a deadline of its own. -/

namespace MediaRelay

variable {τ : Type}

namespace BotRun

variable {b : BotRun τ} {m : Message}

def linkOf? (b : BotRun τ) (m : Message) : Option String :=
  if b.config.bot.autoMedia then (findLink m.text).filter b.pipeline.supports else none

theorem linkOf?_eq_some_iff {link : String} :
    b.linkOf? m = some link ↔
      b.config.bot.autoMedia = true ∧ findLink m.text = some link ∧
        b.pipeline.supports link = true := by
  rw [linkOf?]
  split_ifs with h
  · simp [h, Option.filter_eq_some_iff]
  · simp [h]

theorem linkOf?_eq_none_iff :
    b.linkOf? m = none ↔
      b.config.bot.autoMedia = false ∨
        ∀ link, findLink m.text = some link → b.pipeline.supports link = false := by
  rw [linkOf?]
  split_ifs with h
  · simp [h, Option.filter_eq_none_iff]
  · simp [h]

def begun (b : BotRun τ) (w : World τ) : World τ :=
  { w with deadline := some (w.now + b.config.media.pipelineTimeout) }

end BotRun

/-- The world after that work, whose deadline is no more. -/
def World.ended (w : World τ) : World τ := { w with deadline := none }

namespace BotState

variable [Transport τ] {b : BotRun τ} {m : Message} {i : Invocation} {link : String}
  {s earlier : BotState τ}

def counted (s : BotState τ) : BotState τ := { s with messages := s.messages + 1 }

theorem handleFrom_of_ignores (h : s.ignores m = true) : handleFrom b m s earlier = s := if_pos h

theorem handleFrom_of_command (h : s.ignores m = false)
    (hi : parseInvocation m.text b.config.bot.commandPrefix = some i) :
    handleFrom b m s earlier = s.counted.runCommand b m i earlier := by
  rw [handleFrom, h, hi]
  rfl

theorem handleFrom_of_link (h : s.ignores m = false)
    (hi : parseInvocation m.text b.config.bot.commandPrefix = none)
    (hlink : b.linkOf? m = some link) :
    handleFrom b m s earlier = s.counted.followLink b m link := by
  obtain ⟨hauto, hfind, hsupports⟩ := BotRun.linkOf?_eq_some_iff.1 hlink
  rw [handleFrom, h, hi]
  simp only [Bool.false_eq_true, if_false, hauto, if_true, hfind, hsupports]
  rfl

theorem handleFrom_of_no_link (h : s.ignores m = false)
    (hi : parseInvocation m.text b.config.bot.commandPrefix = none)
    (hlink : b.linkOf? m = none) :
    handleFrom b m s earlier = s.counted := by
  rw [handleFrom, h, hi]
  rcases BotRun.linkOf?_eq_none_iff.1 hlink with hauto | hnone
  · simp only [Bool.false_eq_true, if_false, hauto]
    rfl
  · cases hfind : findLink m.text with
    | none =>
      simp only [Bool.false_eq_true, if_false, ite_self]
      rfl
    | some link =>
      simp only [Bool.false_eq_true, if_false, hnone link hfind, ite_self]
      rfl

/-! ### Commands -/

def carried (b : BotRun τ) (m : Message) (i : Invocation) (s earlier : BotState τ) :
    Outcome CommandResult × CommandRegistry τ × World τ :=
  s.registry.carryOut
    (earlier.registry.allowed earlier.world.now m.user (lowerText i.name)) (lowerText i.name)
    (contextOf b s m i.args) (b.begun s.world)

theorem runCommand_of_error {e : CommandError}
    (h : (carried b m i s earlier).1 = .done (.error e)) :
    s.runCommand b m i earlier =
      { s with registry := (carried b m i s earlier).2.1
               world := say b m.thread e.reply (carried b m i s earlier).2.2.ended } := by
  rcases hrun : carried b m i s earlier with ⟨o, registry, w⟩
  rw [hrun] at h
  obtain rfl : o = .done (.error e) := h
  unfold carried BotRun.begun at hrun
  simp only [runCommand, BotRun.withinTimeout, hrun]
  rfl

theorem runCommand_of_ne_error (h : ∀ e, (carried b m i s earlier).1 ≠ .done (.error e)) :
    s.runCommand b m i earlier =
      { s with registry := (carried b m i s earlier).2.1
               world := (carried b m i s earlier).2.2.ended } := by
  rcases hrun : carried b m i s earlier with ⟨o, registry, w⟩
  rw [hrun] at h
  unfold carried BotRun.begun at hrun
  simp only [runCommand, BotRun.withinTimeout, hrun]
  cases o with
  | done r =>
    cases r with
    | error e => exact absurd rfl (h e)
    | ok _ => rfl
  | _ => rfl

/-! ### Links -/

def delivery (b : BotRun τ) (m : Message) (link : String) (w : World τ) :
    Outcome Delivery × World τ :=
  b.pipeline.deliver m.thread link (b.begun w)

theorem followLink_of_partialSent {sent : ℕ} {failures : List MediaError}
    (h : (delivery b m link s.world).1 = .done (.partialSent sent failures)) :
    s.followLink b m link =
      { s with world :=
          (say b m.thread (failureSummary failures) (delivery b m link s.world).2).ended } := by
  rcases hrun : delivery b m link s.world with ⟨o, w⟩
  rw [hrun] at h
  obtain rfl : o = .done (.partialSent sent failures) := h
  unfold delivery BotRun.begun at hrun
  simp only [followLink, BotRun.withinTimeout, hrun]
  rfl

theorem followLink_of_ne_partialSent
    (h : ∀ sent failures, (delivery b m link s.world).1 ≠ .done (.partialSent sent failures)) :
    s.followLink b m link = { s with world := (delivery b m link s.world).2.ended } := by
  rcases hrun : delivery b m link s.world with ⟨o, w⟩
  rw [hrun] at h
  unfold delivery BotRun.begun at hrun
  simp only [followLink, BotRun.withinTimeout, hrun]
  cases o with
  | done d =>
    cases d with
    | sent n => rfl
    | partialSent n failures => exact absurd rfl (h n failures)
  | _ => rfl

end BotState
end MediaRelay
