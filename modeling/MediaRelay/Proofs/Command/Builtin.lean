import MediaRelay.Command.Registry
import MediaRelay.Proofs.Calls
import MediaRelay.Proofs.Pipeline.Accounting
import MediaRelay.Proofs.Platform.Extraction
/-! The commands that are always there. They call nobody but the conversation that they were called
from, and one that refuses its arguments does so before it does anything else. What a call of a
command leaves in the registry is told by how it ends. -/

namespace MediaRelay

variable {τ : Type} [Transport τ] {P : World τ → Prop} {thread : Thread}

structure World.Conversing (P : World τ → Prop) (thread : Thread) : Prop where
  offline : World.Offline P
  outgoing : Outbox.Outgoing P thread
  text : ∀ text, (Outbox.sendTextOnce (τ := τ) thread text).Preserves P
  drawn : ∀ (w : World τ) n, P w → P { w with drawn := n }

theorem World.conversing_makesOnly (thread : Thread) (w : World τ) :
    World.Conversing (w.MakesOnly fun c => c.thread = thread) thread where
  offline := World.offline_makesOnly _ w
  outgoing := Outbox.outgoing_makesOnly (fun _ => rfl) (fun _ => rfl) w
  text _ := Job.preserves_makesOnly (C := fun c => c.thread = thread) rfl _ _ w
  drawn _ _ h := h

theorem World.Conversing.sendMessage (hP : World.Conversing P thread) (o : Outbox)
    (text : String) : (o.sendMessage (τ := τ) thread text).Preserves P := fun w =>
  Outbox.preserves_sendPieces hP.offline.timeless o (fun piece _ => hP.text piece) w

namespace Command

variable {c : CommandContext τ}

inductive Does (c : CommandContext τ) : Job τ CommandResult → Prop
  | refuses (e : CommandError) : Does c (refuse e)
  | replies (textOf : World τ → String) : Does c fun w => replyOnly c (textOf w) w
  | draws (bound : ℕ) (textOf : ℕ → String) :
    Does c ((Job.draw bound).bind fun k => replyOnly c (textOf k))
  | delivers (link : String) : Does c (deliverLink c link)

theorem does_run {command : Command τ} (h : command ∈ builtins) (c : CommandContext τ) :
    Does c (command.run c) := by
  have hreply (text : String) : Does c (replyOnly c text) := .replies fun _ => text
  simp only [builtins, List.mem_cons, List.not_mem_nil, or_false] at h
  rcases h with rfl | rfl | rfl | rfl | rfl | rfl | rfl | rfl | rfl | rfl
  · exact hreply "Pong!"
  · exact hreply (helpText c.listing)
  · exact hreply s!"⏱ Uptime: {uptimeText c.uptime}"
  · exact hreply (aboutText c.listing)
  · exact hreply (statusText c)
  · exact .replies fun w => idText c (Transport.selfId w.messenger)
  · exact .draws (sides c.args) fun k => s!"🎲 Result: {k + 1} (1-{sides c.args})"
  · exact .draws 2 fun k => if k = 0 then "🪙 Heads" else "🪙 Tails"
  · simp only [say]
    split_ifs
    · exact .refuses _
    · exact hreply _
  · unfold media
    dsimp only
    split
    · exact .refuses _
    · exact .delivers _

def NeverRefuses (job : Job τ CommandResult) : Prop := ∀ w e, (job w).1 ≠ .done (.error e)

omit [Transport τ] in
theorem NeverRefuses.bind {α : Type} {job : Job τ α} {next : α → Job τ CommandResult}
    (h : ∀ a, NeverRefuses (next a)) : NeverRefuses (job.bind next) := by
  intro w e hrun
  obtain ⟨a, w₁, -, hnext⟩ := Job.of_bind_eq_done (Prod.ext hrun rfl : job.bind next w = (_, _))
  exact h a w₁ e (congrArg Prod.fst hnext)

theorem neverRefuses_replyOnly (c : CommandContext τ) (text : String) :
    NeverRefuses (replyOnly c text) :=
  .bind fun _ w e h => by cases h

theorem neverRefuses_deliverLink (c : CommandContext τ) (link : String) :
    NeverRefuses (deliverLink c link) := by
  refine .bind fun items => .bind fun _ => .bind fun delivery => ?_
  cases delivery with
  | sent n => rintro w e ⟨⟩
  | partialSent n failures => exact neverRefuses_replyOnly c _

/-- A command refuses its arguments before it does anything else, or not at all. -/
theorem Does.world_eq {job : Job τ CommandResult} (h : Does c job) {w : World τ} {e : CommandError}
    (he : (job w).1 = .done (.error e)) : (job w).2 = w := by
  cases h with
  | refuses e => rfl
  | replies textOf => exact absurd he (neverRefuses_replyOnly c _ w e)
  | draws bound textOf =>
    exact absurd he (NeverRefuses.bind (fun _ => neverRefuses_replyOnly c _) w e)
  | delivers link => exact absurd he (neverRefuses_deliverLink c link w e)

theorem preserves_replyOnly (hP : World.Conversing P c.thread) (text : String) :
    (replyOnly c text).Preserves P :=
  (hP.sendMessage c.pipeline.outbox text).bind fun _ => Job.preserves_pure _

theorem preserves_deliverLink (hP : World.Conversing P c.thread)
    (hp : ∀ q ∈ c.pipeline.platforms, q.IsOffline) (link : String) :
    (deliverLink c link).Preserves P := by
  refine (c.pipeline.isOffline_extract hp link P hP.offline).bind fun items => ?_
  refine (hP.sendMessage c.pipeline.outbox _).bind fun _ => ?_
  refine (Pipeline.preserves_deliverItems hP.offline hP.outgoing c.pipeline items).bind
    fun delivery => ?_
  cases delivery with
  | sent n => exact Job.preserves_pure _
  | partialSent n failures => exact preserves_replyOnly hP _

/-- Whatever a command does, it does on the web and in the conversation it was called from. -/
theorem Does.preserves {job : Job τ CommandResult} (h : Does c job)
    (hP : World.Conversing P c.thread) (hp : ∀ q ∈ c.pipeline.platforms, q.IsOffline) :
    job.Preserves P := by
  cases h with
  | refuses e => exact Job.preserves_pure _
  | replies textOf => exact fun w => preserves_replyOnly hP (textOf w) w
  | draws bound textOf =>
    have hdraw : (Job.draw bound).Preserves P := fun w hw => hP.drawn w _ hw
    exact hdraw.bind fun _ => preserves_replyOnly hP _
  | delivers link => exact preserves_deliverLink hP hp link

end Command

namespace CommandRegistry

variable {r : CommandRegistry τ} {found : Except CommandError (Command τ)} {name : String}
  {c : CommandContext τ} {w : World τ}

omit [Transport τ] in
/-- A call changes the registry only where its command succeeds, and then arms the cooldown of its
user and name. -/
theorem registry_carryOut :
    (r.carryOut found name c w).1 = .done (.ok ()) ∧
        (r.carryOut found name c w).2.1 =
          r.setCooldown (r.carryOut found name c w).2.2.now c.user name ∨
      (r.carryOut found name c w).1 ≠ .done (.ok ()) ∧ (r.carryOut found name c w).2.1 = r := by
  cases found with
  | error e => exact .inr ⟨by rintro ⟨⟩, rfl⟩
  | ok command =>
    rcases hrun : command.run c w with ⟨o, w'⟩
    simp only [carryOut, hrun]
    split
    · exact .inl ⟨rfl, rfl⟩
    · next hne => exact .inr ⟨hne, rfl⟩

omit [Transport τ] in
theorem world_carryOut :
    (∃ e, found = .error e ∧ (r.carryOut found name c w).1 = .done (.error e) ∧
        (r.carryOut found name c w).2.2 = w) ∨
      ∃ command, found = .ok command ∧
        (r.carryOut found name c w).1 = resultOf (command.run c w).1 ∧
        (r.carryOut found name c w).2.2 = (command.run c w).2 := by
  cases found with
  | error e => exact .inl ⟨e, rfl, rfl, rfl⟩
  | ok command =>
    refine .inr ⟨command, rfl, ?_⟩
    rcases hrun : command.run c w with ⟨o, w'⟩
    simp only [carryOut, hrun]
    split
    · next hok => exact ⟨hok.symm, rfl⟩
    · exact ⟨rfl, rfl⟩

omit [Transport τ] in
theorem carryOut_of_ok {command : Command τ} {w' : World τ}
    (h : command.run c w = (.done (.ok ()), w')) :
    r.carryOut (.ok command) name c w =
      (.done (.ok ()), r.setCooldown w'.now c.user name, w') := by
  simp only [carryOut, h]
  rfl

omit [Transport τ] in
theorem carryOut_of_failed {command : Command τ} {w' : World τ} {e : MediaError}
    (h : command.run c w = (.failed e, w')) :
    r.carryOut (.ok command) name c w = (.done (.error (.media e)), r, w') := by
  simp only [carryOut, h]
  rfl

omit [Transport τ] in
theorem carryOut_eq_done {command : Command τ}
    (h : (command.run c w).1 = .done (.ok ())) :
    (r.carryOut (.ok command) name c w).1 = .done (.ok ()) := by
  rw [carryOut_of_ok (Prod.ext h rfl)]

/-! ### What is registered -/

omit [Transport τ] in
theorem mem_commands_register {r : CommandRegistry τ} {command : Command τ}
    {entry : String × Command τ} (h : entry ∈ (r.register command).commands) :
    entry.2 = command ∨ entry ∈ r.commands := by
  rcases List.mem_cons.1 h with rfl | h
  · exact .inl rfl
  · exact .inr (List.mem_filter.1 h).1

omit [Transport τ] in
theorem mem_commands_registerAll {cs : List (Command τ)} {r : CommandRegistry τ}
    {entry : String × Command τ} (h : entry ∈ (r.registerAll cs).commands) :
    entry.2 ∈ cs ∨ entry ∈ r.commands := by
  induction cs generalizing r with
  | nil => exact .inr h
  | cons command cs ih =>
    rcases ih h with h | h
    · exact .inl (List.mem_cons_of_mem _ h)
    · rcases mem_commands_register h with h | h
      · exact .inl (h ▸ List.mem_cons_self)
      · exact .inr h

omit [Transport τ] in
theorem mem_commands_of_allowed {r : CommandRegistry τ} {now : Nanos} {user : Int} {name : String}
    {command : Command τ} (h : r.allowed now user name = .ok command) :
    ∃ entry ∈ r.commands, entry.2 = command := by
  rw [allowed] at h
  cases hget : r.get? name with
  | none =>
    simp only [hget] at h
    cases h
  | some known =>
    simp only [hget] at h
    split at h
    · cases h
    · obtain rfl : known = command := Except.ok.inj h
      obtain ⟨_, _, hsplit, -⟩ := List.lookup_eq_some_iff.1 hget
      exact ⟨_, hsplit ▸ List.mem_append_right _ List.mem_cons_self, rfl⟩

end CommandRegistry
end MediaRelay
