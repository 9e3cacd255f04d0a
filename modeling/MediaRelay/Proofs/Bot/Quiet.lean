import MediaRelay.Proofs.Bot.Handle
import MediaRelay.Proofs.Calls
import MediaRelay.Proofs.Outbox.Token
import MediaRelay.Proofs.Pipeline.Accounting
import MediaRelay.Proofs.Platform.Extraction
/-! A link alone is followed quietly. The delivery itself sends no text, and after it one is sent
only where some items went out and others did not. Cooldowns have no part in it, and where no link
is followed nothing is asked of the world. -/

namespace MediaRelay

variable {τ : Type} [Transport τ]

namespace Pipeline

variable {P : World τ → Prop} {thread : Thread}

theorem preserves_deliver (hP : World.Offline P) (hO : Outbox.Outgoing P thread) (p : Pipeline τ)
    (hp : ∀ q ∈ p.platforms, q.IsOffline) (link : String) : (p.deliver thread link).Preserves P :=
  (p.isOffline_extract hp link P hP).bind fun items => preserves_deliverItems hP hO p items

/-- A delivery makes no calls but uploads and sends. -/
theorem makesOnly_deliver (p : Pipeline τ) (thread : Thread) (hp : ∀ q ∈ p.platforms, q.IsOffline)
    (link : String) (w : World τ) :
    w.MakesOnly (fun c => c.IsQuiet ∧ c.thread = thread) (p.deliver thread link w).2 :=
  preserves_deliver (World.offline_makesOnly _ w)
    (Outbox.outgoing_makesOnly (fun _ => ⟨trivial, rfl⟩) (fun _ => ⟨trivial, rfl⟩) w) p hp link w
    (.refl w)

/-- What was delivered in part, as long as the token has not fired: the items that were found have
gone out in one message, but for those that are listed as failed. -/
structure IsPartial (p : Pipeline τ) (thread : Thread) (link : String) (w w' : World τ)
    (sent : ℕ) (failures : List MediaError) : Prop where
  missing : failures ≠ []
  accounts : ∃ items w₁ results fates new, p.extract link w = (.done items, w₁) ∧
    (p.downloader.downloadAll items w₁).1 = .done results ∧
    results.map (·.index) = List.range' 1 items.length ∧ results.map (·.item) = items ∧
    w'.calls = w.calls ++ new ∧ Fate.Accounts p.outbox thread results new fates failures ∧
    (fates.filterMap Fate.attachment?).length = sent

theorem isPartial_deliver (p : Pipeline τ) (hp : ∀ q ∈ p.platforms, q.IsOffline) {link : String}
    {w w' : World τ} {sent : ℕ} {failures : List MediaError}
    (h : p.deliver thread link w = (.done (.partialSent sent failures), w'))
    (hs : w'.stopped = false) : p.IsPartial thread link w w' sent failures := by
  obtain ⟨items, w₁, hex, h⟩ := Job.of_bind_eq_done h
  have hcalls : w₁.calls = w.calls := by
    have := p.isOffline_extract hp link _ (World.offline_calls w.calls) w rfl
    rwa [hex] at this
  obtain ⟨results, w₂, hd, hcalls₁, hindex, hitem, hnames⟩ :=
    p.downloader.downloadAll_results (World.offline_calls w₁.calls) items rfl
  have hr : (results.map (·.index)).Pairwise (· < ·) := by
    rw [hindex]
    exact List.pairwise_lt_range'
  by_cases hnil : results.filterMap DownloadResult.payload? = []
  · rw [deliverItems_of_nil hd hnil] at h
    cases (Prod.mk.inj h).1
  · rcases hsend : p.outbox.sendIndexed thread (results.filterMap DownloadResult.payload?) w₂ with
      ⟨o, w₃⟩
    rw [deliverItems_of_ne_nil hd hnil hsend] at h
    obtain ⟨hfinish, rfl⟩ := Prod.mk.inj h
    obtain ⟨new, hnew, hsent⟩ := Outbox.sendIndexed_isSent hnil hsend hs
    have haccounted := isAccounted_finish hnames hr hnil hsent
    rw [hfinish] at haccounted
    cases haccounted with
    | @partialSent fates _ accounts some missing =>
      exact ⟨missing, items, w₁, results, fates, new, hex, by rw [hd], hindex, hitem,
        by rw [hnew, hcalls₁, hcalls], accounts, rfl⟩

end Pipeline

/-- Failures are counted and then listed, in the order given. -/
theorem failureSummary_eq (failures : List MediaError) :
    failureSummary failures =
      s!"{failures.length} item(s) could not be sent:" ++
        String.join (failures.map fun e => "\n- " ++ e.message) := by
  have hfold (text : String) : failures.foldl (fun text e => text ++ "\n- " ++ e.message) text =
      text ++ String.join (failures.map fun e => "\n- " ++ e.message) := by
    induction failures generalizing text with
    | nil => simp [String.join]
    | cons e failures ih =>
      rw [List.foldl_cons, ih, List.map_cons, String.join_cons]
      simp only [String.append_assoc]
  exact hfold _

namespace BotState

variable {b : BotRun τ} {m : Message} {link : String} {s earlier : BotState τ}

structure FollowsQuietly (b : BotRun τ) (m : Message) (link : String) (w : World τ)
    (run : Outcome Delivery × World τ) (w' : World τ) : Prop where
  /-- uploads and sends, and no texts -/
  delivery : w.MakesOnly (fun c => c.IsQuiet ∧ c.thread = m.thread) run.2
  /-- that was all, unless some items went out and others did not -/
  silent : (∀ sent failures, run.1 ≠ .done (.partialSent sent failures)) → w'.calls = run.2.calls
  /-- and then it is told which did not, where the token lets it -/
  summary : ∀ sent failures, run.1 = .done (.partialSent sent failures) →
    run.2.MakesOnly
        (fun c => ∃ piece ∈ Outbox.textPieces (Transport.textLimit run.2.messenger)
          (failureSummary failures), c = .text m.thread piece) w' ∧
      failureSummary failures = s!"{failures.length} item(s) could not be sent:" ++
        String.join (failures.map fun e => "\n- " ++ e.message) ∧
      (w'.calls ≠ run.2.calls →
        b.pipeline.IsPartial m.thread link (b.begun w) run.2 sent failures)

theorem followsQuietly_followLink (hb : ∀ q ∈ b.platforms, q.IsOffline) (s : BotState τ) :
    FollowsQuietly b m link s.world (delivery b m link s.world)
      (s.followLink b m link).world where
  delivery := by
    have h : (b.begun s.world).MakesOnly _ (delivery b m link s.world).2 :=
      b.pipeline.makesOnly_deliver m.thread hb link (b.begun s.world)
    exact h
  silent h := by
    rw [followLink_of_ne_partialSent h]
    rfl
  summary sent failures h := by
    rw [followLink_of_partialSent h]
    refine ⟨Outbox.makesOnly_sendMessage _ _ _, failureSummary_eq failures, fun hcalls => ?_⟩
    cases hs : (delivery b m link s.world).2.stopped with
    | true =>
      have hquiet := Outbox.sendMessage_of_stopped m.thread b.pipeline.outbox
        (failureSummary failures) hs
      refine absurd ?_ hcalls
      rw [say, hquiet]
      rfl
    | false => exact b.pipeline.isPartial_deliver hb (Prod.ext h rfl) hs

structure HandledQuietly (b : BotRun τ) (m : Message) (s earlier s' : BotState τ) : Prop where
  /-- the cooldowns are as they were, and make no difference -/
  registry : s'.registry = s.registry
  unread : ∀ registry registry', handleFrom b m { s with registry } { earlier with
    registry := registry' } = { s' with registry }
  /-- nothing is asked of the world where there is no link to follow -/
  aside : b.config.bot.autoMedia = false ∨
      (∀ link, findLink m.text = some link → b.pipeline.supports link = false) ∨
      s.ignores m = true →
    s'.world = s.world
  followed : s.ignores m = false → ∀ link, b.config.bot.autoMedia = true →
    findLink m.text = some link → b.pipeline.supports link = true →
      FollowsQuietly b m link s.world (BotState.delivery b m link s.world) s'.world

theorem handledQuietly_of_isOffline (hb : ∀ q ∈ b.platforms, q.IsOffline)
    (hm : s.ignores m = true ∨ parseInvocation m.text b.config.bot.commandPrefix = none) :
    HandledQuietly b m s earlier (handleFrom b m s earlier) := by
  cases hignores : s.ignores m with
  | true =>
    rw [handleFrom_of_ignores hignores]
    exact
      { registry := rfl
        unread := fun registry registry' => handleFrom_of_ignores hignores
        aside := fun _ => rfl
        followed := fun hnot => absurd (hignores.symm.trans hnot) (by decide) }
  | false =>
    have hi := hm.resolve_left (by simp [hignores])
    cases hlink : b.linkOf? m with
    | none =>
      rw [handleFrom_of_no_link hignores hi hlink]
      refine ⟨rfl, fun _ _ => handleFrom_of_no_link hignores hi hlink, fun _ => rfl, ?_⟩
      intro _ link hauto hfind hsupports
      rw [BotRun.linkOf?_eq_some_iff.2 ⟨hauto, hfind, hsupports⟩] at hlink
      cases hlink
    | some link =>
      rw [handleFrom_of_link hignores hi hlink]
      obtain ⟨hauto, hfind, hsupports⟩ := BotRun.linkOf?_eq_some_iff.1 hlink
      refine ⟨rfl, fun _ _ => handleFrom_of_link hignores hi hlink, ?_, ?_⟩
      · rintro (hoff | hnone | hignored)
        · rw [hauto] at hoff
          cases hoff
        · rw [hnone link hfind] at hsupports
          cases hsupports
        · rw [hignores] at hignored
          cases hignored
      · intro _ link' _ hfind' _
        obtain rfl : link = link' := Option.some.inj (hfind.symm.trans hfind')
        exact followsQuietly_followLink hb s.counted

/-- A message that is no command is counted, and its link is followed if it has one, quietly. -/
theorem handledQuietly (b : BotRun τ) (m : Message) (s earlier : BotState τ)
    (hm : s.ignores m = true ∨ parseInvocation m.text b.config.bot.commandPrefix = none) :
    (∀ q ∈ (Platform.defaults : List (Platform τ)), q.IsOffline) ∧
      ((∀ q ∈ b.platforms, q.IsOffline) →
        HandledQuietly b m s earlier (handleFrom b m s earlier)) :=
  ⟨fun _ => Platform.isOffline_of_mem_defaults, fun hb => handledQuietly_of_isOffline hb hm⟩

/-- A link in running text, to a bot with the platforms that are always there. -/
theorem handledQuietly_gallery :
    let b : BotRun Pipeline.Gallery :=
      { config := { telegram := { botToken := "1:x", mediaCacheChatId := -1 } }
        platforms := Platform.defaults }
    let m : Message := ⟨5, 42, "7", "look: https://www.instagram.com/p/abc !ping"⟩
    let s : BotState Pipeline.Gallery :=
      { registry := CommandRegistry.registerAll { cooldown := 3 } Command.builtins
        world :=
          { network := Pipeline.galleryNetwork, client := { timeout := 1000 }, messenger := {} } }
    findLink m.text = some "https://www.instagram.com/p/abc" ∧ s.ignores m = false ∧
      HandledQuietly b m s s (handleFrom b m s s) := by
  intro b m s
  have hm : parseInvocation m.text b.config.bot.commandPrefix = none := by decide +kernel
  obtain ⟨hdefaults, hquiet⟩ := handledQuietly b m s s (.inr hm)
  exact ⟨by decide +kernel, by decide +kernel, hquiet hdefaults⟩

end BotState
end MediaRelay
