import MediaRelay.Proofs.Bot.Handle
import MediaRelay.Proofs.Command.Builtin
import MediaRelay.Proofs.Outbox.SharedBudget
/-! What a call of `media` counts as when something was delivered. Where nothing failed beside it,
the call is a success. Where something did, a summary follows, and the call comes to what the
summary comes to: if that cannot be sent, the user is told of an error and need not wait for the
next call, although media have come. -/

namespace MediaRelay

variable {τ : Type} [Transport τ]

namespace Command

variable {c : CommandContext τ} {delivery : Delivery} {w w' : World τ}

/-- A call of `media` up to a delivery of which something has come. -/
def Delivers (c : CommandContext τ) (w : World τ) (delivery : Delivery) (w' : World τ) : Prop :=
  ∃ link items w₁ w₂, linkArgument? c.args = some link ∧
    c.pipeline.extract link w = (.done items, w₁) ∧
    reply c s!"Found {items.length} media items, processing..." w₁ = (.done (), w₂) ∧
    c.pipeline.deliverItems c.thread items w₂ = (.done delivery, w')

/-- Of what failed beside the delivery, if anything did, the user is told. -/
def IsTold (c : CommandContext τ) (delivery : Delivery) (w' : World τ) : Prop :=
  ∀ sent failures, delivery = .partialSent sent failures →
    (reply c (failureSummary failures) w').1 = .done ()

theorem run_media_of_sent {n : ℕ} (h : Delivers c w (.sent n) w') :
    media.run c w = (.done (.ok ()), w') := by
  obtain ⟨link, items, w₁, w₂, hlink, hextract, hfound, hdeliver⟩ := h
  simp only [media, hlink, deliverLink]
  rw [Job.bind_of_eq_done hextract, Job.bind_of_eq_done hfound, Job.bind_of_eq_done hdeliver]
  rfl

theorem run_media_of_partialSent {n : ℕ} {failures : List MediaError}
    (h : Delivers c w (.partialSent n failures) w') :
    media.run c w = replyOnly c (failureSummary failures) w' := by
  obtain ⟨link, items, w₁, w₂, hlink, hextract, hfound, hdeliver⟩ := h
  simp only [media, hlink, deliverLink]
  rw [Job.bind_of_eq_done hextract, Job.bind_of_eq_done hfound, Job.bind_of_eq_done hdeliver]

/-- The call ends well if and only if all is told. -/
theorem run_media_eq_ok_iff (h : Delivers c w delivery w') :
    (media.run c w).1 = .done (.ok ()) ↔ IsTold c delivery w' := by
  cases delivery with
  | sent n =>
    rw [run_media_of_sent h]
    exact iff_of_true rfl fun sent failures hsent => by cases hsent
  | partialSent n failures =>
    have hiff : (media.run c w).1 = .done (.ok ()) ↔
        (reply c (failureSummary failures) w').1 = .done () := by
      rw [run_media_of_partialSent h, replyOnly, Job.bind_pure]
      cases (reply c (failureSummary failures) w').1 <;> simp [Outcome.map]
    rw [hiff]
    constructor
    · rintro htold _ _ ⟨⟩
      exact htold
    · exact fun htold => htold n failures rfl

/-- The failure of the summary is the failure of the call. -/
theorem run_media_eq_failed {n : ℕ} {failures : List MediaError} {e : MediaError}
    (h : Delivers c w (.partialSent n failures) w')
    (he : (reply c (failureSummary failures) w').1 = .failed e) :
    (media.run c w).1 = .failed e := by
  rw [run_media_of_partialSent h, replyOnly, Job.bind_pure, he]
  rfl

end Command

namespace BotState

variable {b : BotRun τ} {m : Message} {i : Invocation} {s earlier : BotState τ}
  {command : Command τ}

def run (b : BotRun τ) (m : Message) (i : Invocation) (s : BotState τ) (command : Command τ) :
    Outcome CommandResult × World τ :=
  command.run (contextOf b s m i.args) (b.begun s.world)

structure CountsAsSuccess (b : BotRun τ) (m : Message) (i : Invocation) (s earlier : BotState τ)
    (command : Command τ) : Prop where
  ok : (run b m i s command).1 = .done (.ok ())
  armed : (s.runCommand b m i earlier).registry =
    s.registry.setCooldown (run b m i s command).2.now m.user (lowerText i.name)
  quiet : (s.runCommand b m i earlier).world = (run b m i s command).2.ended

structure CountsAsFailure (b : BotRun τ) (m : Message) (i : Invocation) (s earlier : BotState τ)
    (command : Command τ) (e : MediaError) : Prop where
  failed : (run b m i s command).1 = .failed e
  unarmed : (s.runCommand b m i earlier).registry = s.registry
  answered : (s.runCommand b m i earlier).world =
    say b m.thread (CommandError.reply (.media e)) (run b m i s command).2.ended

section

variable (hfound : earlier.registry.allowed earlier.world.now m.user (lowerText i.name) =
  .ok command)
include hfound

theorem countsAsSuccess_of_ok (h : (run b m i s command).1 = .done (.ok ())) :
    CountsAsSuccess b m i s earlier command := by
  have hcarried : carried b m i s earlier =
      (.done (.ok ()), s.registry.setCooldown (run b m i s command).2.now m.user (lowerText i.name),
        (run b m i s command).2) := by
    rw [carried, hfound]
    exact CommandRegistry.carryOut_of_ok (Prod.ext h rfl)
  have hstate : s.runCommand b m i earlier = _ := runCommand_of_ne_error (by simp [hcarried])
  rw [hcarried] at hstate
  exact ⟨h, by rw [hstate], by rw [hstate]⟩

theorem countsAsFailure_of_failed {e : MediaError} (h : (run b m i s command).1 = .failed e) :
    CountsAsFailure b m i s earlier command e := by
  have hcarried : carried b m i s earlier =
      (.done (.error (.media e)), s.registry, (run b m i s command).2) := by
    rw [carried, hfound]
    exact CommandRegistry.carryOut_of_failed (Prod.ext h rfl)
  have hstate : s.runCommand b m i earlier = _ := runCommand_of_error (congrArg Prod.fst hcarried)
  rw [hcarried] at hstate
  exact ⟨h, by rw [hstate], by rw [hstate]⟩

end

/-- A call of `media` of which something was delivered counts as a success if and only if the user
is told of all that failed beside it. Where the summary fails, so does the call. -/
theorem countsAsSuccess_iff_isTold (b : BotRun τ) (m : Message) (i : Invocation)
    (s earlier : BotState τ)
    (hfound : earlier.registry.allowed earlier.world.now m.user (lowerText i.name) =
      .ok Command.media)
    {delivery : Delivery} {w' : World τ}
    (hdelivers : Command.Delivers (contextOf b s m i.args) (b.begun s.world) delivery w') :
    (CountsAsSuccess b m i s earlier Command.media ↔
        Command.IsTold (contextOf b s m i.args) delivery w') ∧
      ∀ sent failures e, delivery = .partialSent sent failures →
        (Command.reply (contextOf b s m i.args) (failureSummary failures) w').1 = .failed e →
          CountsAsFailure b m i s earlier Command.media e := by
  constructor
  · rw [← Command.run_media_eq_ok_iff hdelivers]
    exact ⟨CountsAsSuccess.ok, countsAsSuccess_of_ok hfound⟩
  · rintro sent failures e rfl he
    exact countsAsFailure_of_failed hfound (Command.run_media_eq_failed hdelivers he)

end BotState

/-! A delivery of one item of two, on a platform that takes so many texts and no more. -/

structure Terse where
  texts : ℕ

namespace Terse

instance : Transport Terse where
  selfId _ := 1
  textLimit _ := none
  sendText _ _ s :=
    if s.texts = 0 then (.refused (.rejected "text refused") false, s)
    else (.accepted () false, ⟨s.texts - 1⟩)
  upload _ p s := (.accepted ⟨p.mime, .photo⟩ false, s)
  sendAttachments _ _ s := (.accepted () false, s)

def items : List Item := [.image "http://[::1]/a", .image "http://[::1]/b"]

def network : Web.Network where
  react _ q :=
    if q.url = "http://[::1]/a" then .answer ⟨200, [], ⟨none, ["A".toUTF8], true⟩⟩ else .dropped

def bot : BotRun Terse where
  config :=
    { telegram := { botToken := "1:x", mediaCacheChatId := -1 }, media := { sendAttempts := 1 } }
  platforms := [⟨"local", ["[::1]"], fun _ => Job.pure items⟩]

def call : Message := ⟨5, 42, "7", "!media http://[::1]/post"⟩

def invocation : Invocation := ⟨"media", ["http://[::1]/post"]⟩

/-- So many texts are left when the items were announced. -/
def state (left : Fin 2) : BotState Terse where
  registry := { commands := [("media", Command.media)], cooldown := 3 }
  world := { network, client := { timeout := 1000 }, messenger := ⟨left + 1⟩ }

def context (left : Fin 2) : CommandContext Terse :=
  BotState.contextOf bot (state left) call invocation.args

theorem allowed_media (left : Fin 2) :
    (state left).registry.allowed (state left).world.now call.user (lowerText invocation.name) =
      .ok Command.media := by
  have hname : lowerText (lowerText invocation.name) = "media" := by decide +kernel
  simp only [CommandRegistry.allowed, CommandRegistry.get?, hname]
  rfl

/-- One text, which is taken or refused. -/
theorem reply_terse (left : Fin 2) (text : String) {w : World Terse} (hw : w.stopped = false) :
    Command.reply (context left) text w =
      if w.messenger.texts = 0 then
        (.failed (.transport (.rejected "text refused")),
          w.answered w.messenger ⟨.text 42 text, .refused, false, none⟩)
      else
        (.done (), w.answered ⟨w.messenger.texts - 1⟩ ⟨.text 42 text, .accepted, false, none⟩) := by
  by_cases htexts : w.messenger.texts = 0
  · have hanswers : TextTry.Answers 42 ⟨text, some (.rejected "text refused")⟩ w.messenger
        w.messenger := if_pos htexts
    rw [if_pos htexts]
    exact Outbox.sendMessage_of_answers _ rfl hw (.inr (Nat.le_refl 1)) hanswers
  · have hanswers : TextTry.Answers 42 ⟨text, none⟩ w.messenger ⟨w.messenger.texts - 1⟩ :=
      if_neg htexts
    rw [if_neg htexts]
    exact Outbox.sendMessage_of_answers _ rfl hw (.inr (Nat.le_refl 1)) hanswers

def announced (left : Fin 2) : World Terse :=
  (bot.begun (state left).world).answered ⟨left⟩
    ⟨.text 42 s!"Found {items.length} media items, processing...", .accepted, false, none⟩

theorem reply_announced (left : Fin 2) :
    Command.reply (context left) s!"Found {items.length} media items, processing..."
      (bot.begun (state left).world) = (.done (), announced left) := by
  have hbegun : (bot.begun (state left).world).stopped = false := by
    revert left
    decide
  have htexts : (bot.begun (state left).world).messenger.texts = left + 1 := rfl
  rw [reply_terse left _ hbegun, if_neg (by rw [htexts]; omega), htexts, Nat.add_sub_cancel,
    announced]

theorem downloads (left : Fin 2) :
    ∃ results w, bot.pipeline.downloader.downloadAll items (announced left) = (.done results, w) ∧
      (results.filterMap DownloadResult.payload?).map (fun p => (p.1, p.2.size)) = [(1, 1)] ∧
      (results.filterMap DownloadResult.failure?).length = 1 ∧
      w.messenger.texts = left ∧ w.stopped = false := by
  simp only [Downloader.downloadAll, Arrival.inPlace_collect]
  refine ⟨_, _, rfl, ?_, ?_, ?_, ?_⟩ <;> revert left <;> decide +kernel

theorem sendIndexed_terse {p : Payload} (hsize : p.size = 1) {w : World Terse}
    (hw : w.stopped = false) :
    ∃ w', bot.pipeline.outbox.sendIndexed 42 [(1, p)] w = (.done { sent := 1 }, w') ∧
      w'.messenger = w.messenger ∧ w'.stopped = false := by
  have hanswers : (MediaTry.sent ⟨p.mime, .photo⟩).Answers 42 p w.messenger w.messenger :=
    ⟨w.messenger, rfl, rfl⟩
  obtain ⟨w', hrun, hmessenger, -, hstopped⟩ := Outbox.uploadThenSend_of_answers hanswers
  have hfits : bot.pipeline.outbox.oversized? p = none := if_neg (by rw [hsize]; decide)
  have hmedia : bot.pipeline.outbox.sendMedia 42 p w = (.done (), w') := by
    rw [Outbox.sendMedia, hfits]
    exact Job.retry_of_tries hw (.last hrun fun _ _ _ => rfl) (by simp)
  refine ⟨w', ?_, hmessenger, hstopped.trans hw⟩
  simp only [Outbox.sendIndexed, Outbox.sendSingle, Job.mapError, Job.bind_of_eq_done hmedia]
  rfl

theorem extract_bot (left : Fin 2) :
    bot.pipeline.extract "http://[::1]/post" (bot.begun (state left).world) =
      (.done items, bot.begun (state left).world) := by
  have hserves : Platform.matchesHost "http://[::1]/post" ["[::1]"] = true := by decide +kernel
  have hresolve : Platform.resolve? bot.pipeline.platforms "http://[::1]/post" =
      some ⟨"local", ["[::1]"], fun _ => Job.pure items⟩ := List.find?_cons_of_pos hserves
  simp only [Pipeline.extract, Platform.itemsOf, hresolve]
  rfl

theorem delivers (left : Fin 2) :
    ∃ f w', Command.Delivers (context left) (bot.begun (state left).world) (.partialSent 1 [f]) w' ∧
      w'.messenger.texts = left ∧ w'.stopped = false := by
  obtain ⟨results, w, hdownload, hpayloads, hfailures, htexts, hw⟩ := downloads left
  obtain ⟨⟨_, p⟩, hpayloads, hp⟩ := List.map_eq_singleton_iff.1 hpayloads
  obtain ⟨rfl, hsize⟩ := Prod.mk.inj hp
  obtain ⟨f, hfailures⟩ := List.length_eq_one_iff.1 hfailures
  obtain ⟨w', hsend, hmessenger, hstopped⟩ := sendIndexed_terse hsize hw
  have hlink : Command.linkArgument? (context left).args = some "http://[::1]/post" := by
    change Command.linkArgument? invocation.args = _
    decide +kernel
  have hdeliver := Pipeline.deliverItems_of_ne_nil hdownload (by rw [hpayloads]; simp)
    (hpayloads ▸ hsend)
  rw [hfailures, Pipeline.finish, List.append_nil, MediaError.sortByItem,
    List.mergeSort_singleton] at hdeliver
  exact ⟨f, w', ⟨_, _, _, _, hlink, extract_bot left, reply_announced left, hdeliver⟩,
    by rw [hmessenger, htexts], hstopped⟩

/-- One text is left for the summary. -/
theorem countsAsSuccess_iff_isTold_terse :
    (state 1).registry.allowed (state 1).world.now call.user (lowerText invocation.name) =
        .ok Command.media ∧
      ∃ f w', Command.Delivers (context 1) (bot.begun (state 1).world) (.partialSent 1 [f]) w' ∧
        BotState.CountsAsSuccess bot call invocation (state 1) (state 1) Command.media := by
  obtain ⟨f, w', hdelivers, htexts, hw⟩ := delivers 1
  refine ⟨allowed_media 1, f, w', hdelivers, ?_⟩
  refine (BotState.countsAsSuccess_iff_isTold bot call invocation (state 1) (state 1)
    (allowed_media 1) hdelivers).1.2 ?_
  rintro _ failures -
  change (Command.reply (context 1) (failureSummary failures) w').1 = .done ()
  rw [reply_terse 1 _ hw, if_neg (by rw [htexts]; decide)]

/-- None is left for it, and the call of which an item was delivered counts as a failure. -/
theorem not_countsAsSuccess_terse :
    (state 0).registry.allowed (state 0).world.now call.user (lowerText invocation.name) =
        .ok Command.media ∧
      ∃ f w', Command.Delivers (context 0) (bot.begun (state 0).world) (.partialSent 1 [f]) w' ∧
        ¬ BotState.CountsAsSuccess bot call invocation (state 0) (state 0) Command.media ∧
        BotState.CountsAsFailure bot call invocation (state 0) (state 0) Command.media
          (.transport (.rejected "text refused")) := by
  obtain ⟨f, w', hdelivers, htexts, hw⟩ := delivers 0
  have hnone : w'.messenger.texts = 0 := htexts
  have hreply : (Command.reply (context 0) (failureSummary [f]) w').1 =
      .failed (.transport (.rejected "text refused")) := by
    rw [reply_terse 0 _ hw, if_pos hnone]
  have hfailure := BotState.countsAsFailure_of_failed (allowed_media 0)
    (Command.run_media_eq_failed hdelivers hreply)
  refine ⟨allowed_media 0, f, w', hdelivers, fun hsuccess => ?_, hfailure⟩
  cases hsuccess.ok.symm.trans hfailure.failed

end Terse
end MediaRelay
