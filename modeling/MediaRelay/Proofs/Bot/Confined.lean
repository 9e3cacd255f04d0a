import MediaRelay.Daemon.Basic
import MediaRelay.Proofs.Bot.Quiet
import MediaRelay.Proofs.Command.Builtin
import MediaRelay.Proofs.Command.Overlap
import MediaRelay.Proofs.Telegram.Delivery
import MediaRelay.Proofs.Text.Lower
/-! What a message can change. All calls that are made for it go to its own conversation, and of the
cooldowns it touches at most the one of its user and command, by a success. What is rejected is
answered, and that is all; what is left aside leaves everything as it was. -/

namespace MediaRelay

def CommandError.IsRejection : CommandError → Prop
  | .notFound _ => True
  | .cooldown _ => True
  | .usage _ => True
  | _ => False

theorem CommandError.IsRejection.reply_eq {e : CommandError} (h : e.IsRejection) :
    e.reply = e.message := by
  cases e with
  | media | transport => exact h.elim
  | _ => rfl

variable {τ : Type}

namespace BotState

structure StaysWithin (threads : Thread → Prop) (keys : CooldownKey → Prop) (s s' : BotState τ) :
    Prop where
  calls : s.world.MakesOnly (fun c => threads c.thread) s'.world
  commands : s'.registry.commands = s.registry.commands
  wait : s'.registry.cooldown = s.registry.cooldown
  cooldowns : ∀ key, ¬ keys key →
    s'.registry.cooldowns.expiry? key = s.registry.cooldowns.expiry? key

variable {threads threads' : Thread → Prop} {keys keys' : CooldownKey → Prop}
  {s s₁ s' earlier : BotState τ}

theorem StaysWithin.of_eq (hcalls : s'.world.calls = s.world.calls)
    (hregistry : s'.registry = s.registry) : StaysWithin threads keys s s' where
  calls := .of_eq hcalls
  commands := by rw [hregistry]
  wait := by rw [hregistry]
  cooldowns _ _ := by rw [hregistry]

theorem StaysWithin.trans (h : StaysWithin threads keys s s₁)
    (h' : StaysWithin threads keys s₁ s') : StaysWithin threads keys s s' where
  calls := h.calls.trans h'.calls
  commands := h'.commands.trans h.commands
  wait := h'.wait.trans h.wait
  cooldowns key hkey := (h'.cooldowns key hkey).trans (h.cooldowns key hkey)

theorem StaysWithin.mono (h : StaysWithin threads keys s s') (ht : ∀ t, threads t → threads' t)
    (hk : ∀ key, keys key → keys' key) : StaysWithin threads' keys' s s' where
  calls := h.calls.mono fun c hc => ht c.thread hc
  commands := h.commands
  wait := h.wait
  cooldowns key hkey := h.cooldowns key fun hkeys => hkey (hk key hkeys)

variable [Transport τ] {b : BotRun τ} {m : Message} {i : Invocation} {link : String}
  {e : CommandError}

theorem makesOnly_say (b : BotRun τ) (thread : Thread) (text : String) (w : World τ) :
    w.MakesOnly (fun c => c.thread = thread) (say b thread text w) :=
  (Outbox.makesOnly_sendMessage _ _ _).mono fun c hc => by
    obtain ⟨piece, -, rfl⟩ := hc
    rfl

/-! ### Commands -/

def KnowsBuiltins (s : BotState τ) : Prop :=
  ∀ entry ∈ s.registry.commands, entry.2 ∈ Command.builtins

/-- What a call comes to is the work of one of the commands that are always there, or nothing. -/
theorem carried_of_knowsBuiltins (b : BotRun τ) (m : Message) (i : Invocation) (s : BotState τ)
    (hr : earlier.KnowsBuiltins) :
    ∃ job, Command.Does (contextOf b s m i.args) job ∧
      (carried b m i s earlier).1 = CommandRegistry.resultOf (job (b.begun s.world)).1 ∧
      (carried b m i s earlier).2.2 = (job (b.begun s.world)).2 := by
  rcases CommandRegistry.world_carryOut with ⟨e, -, hfail, hworld⟩ | ⟨command, hfound, hend, hworld⟩
  · exact ⟨Command.refuse e, .refuses e, hfail, hworld⟩
  · obtain ⟨entry, hentry, rfl⟩ := CommandRegistry.mem_commands_of_allowed hfound
    exact ⟨_, Command.does_run (hr entry hentry) _, hend, hworld⟩

omit [Transport τ] in
theorem registry_carried (b : BotRun τ) (m : Message) (i : Invocation) (s earlier : BotState τ) :
    (carried b m i s earlier).1 = .done (.ok ()) ∧
        (carried b m i s earlier).2.1 =
          s.registry.setCooldown (carried b m i s earlier).2.2.now m.user (lowerText i.name) ∨
      (carried b m i s earlier).1 ≠ .done (.ok ()) ∧
        (carried b m i s earlier).2.1 = s.registry :=
  CommandRegistry.registry_carryOut

/-- All calls for a command go to the conversation that it came from. -/
theorem makesOnly_carried (hb : ∀ q ∈ b.platforms, q.IsOffline) (hr : earlier.KnowsBuiltins) :
    s.world.MakesOnly (fun c => c.thread = m.thread) (carried b m i s earlier).2.2 := by
  obtain ⟨job, hjob, -, hworld⟩ := carried_of_knowsBuiltins b m i s hr
  rw [hworld]
  have h : (b.begun s.world).MakesOnly (fun c => c.thread = m.thread) (job (b.begun s.world)).2 :=
    hjob.preserves (World.conversing_makesOnly m.thread _) hb _ (.refl _)
  exact h

/-- A rejection leaves the world as it was. -/
theorem carried_of_isRejection (hr : earlier.KnowsBuiltins) (he : e.IsRejection)
    (h : (carried b m i s earlier).1 = .done (.error e)) :
    (carried b m i s earlier).2.2 = b.begun s.world := by
  obtain ⟨job, hjob, hend, hworld⟩ := carried_of_knowsBuiltins b m i s hr
  rw [hworld]
  refine hjob.world_eq (e := e) ?_
  rw [hend] at h
  cases hrun : (job (b.begun s.world)).1 with
  | failed cause =>
    -- a failure of the work is told as an error, and is no rejection
    rw [hrun] at h
    obtain rfl : CommandError.media cause = e := by injection h with h; injection h
    exact he.elim
  | _ => rw [← h, hrun]; rfl

/-- The cooldown that a call may touch: that of its user and its command, and by a success alone. -/
def IsArmedByCall (b : BotRun τ) (m : Message) (i : Invocation) (s earlier : BotState τ)
    (key : CooldownKey) : Prop :=
  key = (m.user, lowerText i.name) ∧ (carried b m i s earlier).1 = .done (.ok ())

theorem staysWithin_carried (hb : ∀ q ∈ b.platforms, q.IsOffline) (hr : earlier.KnowsBuiltins) :
    StaysWithin (· = m.thread) (IsArmedByCall b m i s earlier) s
      { s with registry := (carried b m i s earlier).2.1
               world := (carried b m i s earlier).2.2.ended } := by
  have hcalls : s.world.MakesOnly (fun c => c.thread = m.thread)
      (carried b m i s earlier).2.2.ended :=
    (makesOnly_carried hb hr).trans (.of_eq rfl)
  rcases registry_carried b m i s earlier with ⟨hok, hregistry⟩ | ⟨-, hregistry⟩
  · rw [hregistry]
    refine ⟨hcalls, rfl, rfl, fun key hkey => Cooldowns.expiry?_arm_of_ne ?_ _⟩
    rw [Cooldowns.keyOf, lowerText_lowerText]
    exact fun heq => hkey ⟨heq, hok⟩
  · rw [hregistry]
    exact ⟨hcalls, rfl, rfl, fun _ _ => rfl⟩

theorem staysWithin_runCommand (hb : ∀ q ∈ b.platforms, q.IsOffline) (hr : earlier.KnowsBuiltins) :
    StaysWithin (· = m.thread) (IsArmedByCall b m i s earlier) s
      (s.runCommand b m i earlier) := by
  by_cases h : ∃ e, (carried b m i s earlier).1 = .done (.error e)
  · obtain ⟨e, he⟩ := h
    rw [runCommand_of_error he]
    refine (staysWithin_carried hb hr).trans ⟨?_, rfl, rfl, fun _ _ => rfl⟩
    exact makesOnly_say b m.thread e.reply _
  · rw [runCommand_of_ne_error (not_exists.1 h)]
    exact staysWithin_carried hb hr

/-! ### Links -/

theorem staysWithin_followLink (hb : ∀ q ∈ b.platforms, q.IsOffline) :
    StaysWithin (· = m.thread) (fun _ => False) s (s.followLink b m link) := by
  have hrun : s.world.MakesOnly (fun c => c.thread = m.thread) (delivery b m link s.world).2 := by
    have h : (b.begun s.world).MakesOnly _ (delivery b m link s.world).2 :=
      b.pipeline.makesOnly_deliver m.thread hb link (b.begun s.world)
    exact h.mono fun c hc => hc.2
  by_cases h : ∃ sent failures, (delivery b m link s.world).1 = .done (.partialSent sent failures)
  · obtain ⟨sent, failures, hpart⟩ := h
    rw [followLink_of_partialSent hpart]
    refine ⟨(hrun.trans (makesOnly_say b m.thread _ _)).trans (.of_eq rfl), rfl, rfl, ?_⟩
    exact fun _ _ => rfl
  · rw [followLink_of_ne_partialSent fun sent failures hpart => h ⟨sent, failures, hpart⟩]
    exact ⟨hrun.trans (.of_eq rfl), rfl, rfl, fun _ _ => rfl⟩

/-! ### Messages -/

/-- The cooldown that a message may touch, when it is handled in one state and came in another: that
of the command that it calls. -/
def IsArmedBy (b : BotRun τ) (m : Message) (s earlier : BotState τ) (key : CooldownKey) : Prop :=
  ∃ i, parseInvocation m.text b.config.bot.commandPrefix = some i ∧
    IsArmedByCall b m i s.counted earlier key

theorem staysWithin_handleFrom (hb : ∀ q ∈ b.platforms, q.IsOffline) (hr : earlier.KnowsBuiltins) :
    StaysWithin (· = m.thread) (IsArmedBy b m s earlier) s (handleFrom b m s earlier) := by
  cases hignores : s.ignores m with
  | true =>
    rw [handleFrom_of_ignores hignores]
    exact .of_eq rfl rfl
  | false =>
    have hcounted : StaysWithin (· = m.thread) (IsArmedBy b m s earlier) s s.counted :=
      .of_eq rfl rfl
    cases hi : parseInvocation m.text b.config.bot.commandPrefix with
    | some i =>
      rw [handleFrom_of_command hignores hi]
      refine hcounted.trans ((staysWithin_runCommand hb hr).mono (fun _ ht => ht) ?_)
      exact fun key hkey => ⟨i, hi, hkey⟩
    | none =>
      cases hlink : b.linkOf? m with
      | none =>
        rw [handleFrom_of_no_link hignores hi hlink]
        exact hcounted
      | some link =>
        rw [handleFrom_of_link hignores hi hlink]
        exact hcounted.trans
          ((staysWithin_followLink hb).mono (fun _ ht => ht) fun _ hkey => hkey.elim)

/-- Messages that come together stay within their own conversations and users. -/
theorem staysWithin_handleAll (hb : ∀ q ∈ b.platforms, q.IsOffline) (hr : s.KnowsBuiltins)
    (ms : List Message) :
    StaysWithin (fun t => ∃ m ∈ ms, t = m.thread) (fun key => ∃ m ∈ ms, key.1 = m.user) s
      (handleAll b ms s) := by
  have hstep (t : BotState τ) (m : Message) (hm : m ∈ ms) :
      StaysWithin (fun t => ∃ m ∈ ms, t = m.thread) (fun key => ∃ m ∈ ms, key.1 = m.user) t
        (t.handleFrom b m s) := by
    refine (staysWithin_handleFrom hb hr).mono (fun _ ht => ⟨m, hm, ht⟩) ?_
    rintro key ⟨i, -, rfl, -⟩
    exact ⟨m, hm, rfl⟩
  exact List.foldlRecOn ms _ (.of_eq rfl rfl) fun t ht m hm => ht.trans (hstep t m hm)

structure IsConfined (b : BotRun τ) (m : Message) (s earlier s' : BotState τ) : Prop where
  /-- all calls name its conversation, and only a success of its command arms a cooldown -/
  within : StaysWithin (· = m.thread) (IsArmedBy b m s earlier) s s'
  /-- a command that is rejected is answered in one message, and that is all -/
  rejected : ∀ i e, s.ignores m = false →
    parseInvocation m.text b.config.bot.commandPrefix = some i → e.IsRejection →
      (carried b m i s.counted earlier).1 = .done (.error e) →
        s'.registry = s.registry ∧ s'.world = say b m.thread e.message s.world.ended ∧
          s'.world.requests = s.world.requests ∧
          s.world.MakesOnly
            (fun c => ∃ piece ∈ Outbox.textPieces (Transport.textLimit s.world.messenger) e.message,
              c = .text m.thread piece)
            s'.world
  /-- what the bot says itself and what is blank is left aside -/
  aside : m.user = Transport.selfId s.world.messenger ∨ isBlankText m.text = true → s' = s

theorem runCommand_of_isRejection (hr : earlier.KnowsBuiltins) (he : e.IsRejection)
    (h : (carried b m i s earlier).1 = .done (.error e)) :
    s.runCommand b m i earlier = { s with world := say b m.thread e.message s.world.ended } := by
  have hregistry : (carried b m i s earlier).2.1 = s.registry := by
    rcases registry_carried b m i s earlier with ⟨hok, -⟩ | ⟨-, hregistry⟩
    · have heq := h.symm.trans hok
      injection heq with heq
      cases heq
    · exact hregistry
  rw [runCommand_of_error h, hregistry, carried_of_isRejection hr he h, he.reply_eq]
  rfl

theorem isConfined_of_isOffline (hb : ∀ q ∈ b.platforms, q.IsOffline)
    (hr : earlier.KnowsBuiltins) : IsConfined b m s earlier (handleFrom b m s earlier) where
  within := staysWithin_handleFrom hb hr
  rejected i e hignores hi he h := by
    rw [handleFrom_of_command hignores hi, runCommand_of_isRejection hr he h]
    exact ⟨rfl, rfl, Outbox.requests_sendMessage _ _ _, Outbox.makesOnly_sendMessage _ _ _⟩
  aside h := handleFrom_of_ignores (by simpa [ignores] using h)

end BotState

/-! ### Updates -/

namespace Telegram

/-- An update that nobody sent, or somebody who is not among those who may talk to the bot. -/
def Update.IsBarred (allowed : List ℕ) (u : Update) : Prop :=
  u.sender = none ∨ ∃ user, u.sender = some user ∧ allowed ≠ [] ∧ user ∉ allowed

theorem Update.IsBarred.message?_eq_none {allowed : List ℕ} {u : Update} (h : u.IsBarred allowed) :
    u.message? allowed = none := by
  rw [message?]
  split_ifs with hedit
  · rfl
  · rcases h with hnone | ⟨user, hsome, hallowed, hmem⟩
    · rw [hnone]
    · have hbarred : mayTalk allowed user = false := by simp [mayTalk, hallowed, hmem]
      cases htext : u.text with
      | none => rw [hsome]
      | some text => simp only [hsome, hbarred, Bool.false_eq_true, if_false]

end Telegram

namespace Daemon

variable {σ : Type} [Telegram.BotApi σ]

/-- An update that is barred is as if it had not come. -/
theorem receive_of_isBarred (d : Daemon σ) {u : Telegram.Update}
    (h : u.IsBarred d.run.config.telegram.allowedUserIds) (us vs : List Telegram.Update) :
    d.receive (us ++ u :: vs) = d.receive (us ++ vs) := by
  simp only [receive, messagesOf, List.filterMap_append, List.filterMap_cons, h.message?_eq_none]

theorem receive_nil (d : Daemon σ) : d.receive [] = d := rfl

end Daemon

namespace BotState

variable [Transport τ]

/-- What a message does, it does in its own conversation and to the cooldown of its own command. -/
theorem isConfined (b : BotRun τ) (m : Message) (s earlier : BotState τ) :
    (∀ q ∈ (Platform.defaults : List (Platform τ)), q.IsOffline) ∧
      ((∀ q ∈ b.platforms, q.IsOffline) → earlier.KnowsBuiltins →
        IsConfined b m s earlier (handleFrom b m s earlier)) ∧
      ∀ {σ : Type} [Telegram.BotApi σ] (d : Daemon σ) (u : Telegram.Update),
        u.IsBarred d.run.config.telegram.allowedUserIds →
          d.receive [u] = d ∧
            ∀ us vs, d.receive (us ++ u :: vs) = d.receive (us ++ vs) :=
  ⟨fun _ => Platform.isOffline_of_mem_defaults, isConfined_of_isOffline,
    fun d _ h => ⟨(d.receive_of_isBarred h [] []).trans d.receive_nil, d.receive_of_isBarred h⟩⟩

/-- A command that lacks its argument, to a bot with the commands and the platforms that are always
there, and a command of somebody who may not talk to the bot. -/
theorem isConfined_gallery :
    let config : Config :=
      { telegram := { botToken := "1:x", mediaCacheChatId := -1, allowedUserIds := [7] } }
    let b : BotRun Pipeline.Gallery :=
      { config, platforms := Platform.defaults }
    let m : Message := ⟨5, 42, "7", "!Media"⟩
    let s : BotState Pipeline.Gallery :=
      { registry := CommandRegistry.registerAll { cooldown := 3 } Command.builtins
        world :=
          { network := Pipeline.galleryNetwork, client := { timeout := 1000 }, messenger := {} } }
    let d : Daemon Telegram.Fussy :=
      { shared := Daemon.sharedOf config { path := "config.toml" }
        run := { config, platforms := Platform.defaults }, world := Telegram.Fussy.world }
    (carried b m ⟨"Media", []⟩ s.counted s).1 = .done (.error (.usage "media <url>")) ∧
      IsConfined b m s s (handleFrom b m s s) ∧
        d.receive [{ sender := some 5, chat := 42, id := 1, text := some "!ping" }] = d := by
  intro config b m s d
  obtain ⟨hdefaults, hconfined, hbarred⟩ := isConfined b m s s
  have hknown : s.KnowsBuiltins := fun entry hentry =>
    (CommandRegistry.mem_commands_registerAll hentry).resolve_right (by simp)
  have hstranger : Telegram.Update.IsBarred d.run.config.telegram.allowedUserIds
      { sender := some 5, chat := 42, id := 1, text := some "!ping" } :=
    .inr ⟨5, rfl, by decide, by decide⟩
  exact ⟨rfl, hconfined hdefaults hknown, (hbarred d _ hstranger).1⟩

end BotState
end MediaRelay
