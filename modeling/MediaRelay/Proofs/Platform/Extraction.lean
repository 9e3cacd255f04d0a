import MediaRelay.Pipeline
import MediaRelay.Proofs.Download
import MediaRelay.Proofs.Fetch
/-! What the ways of extraction are made of: fetches, waits, and the two put together. A property of
jobs that goes along with this holds of each of them. One such property is to keep what work on the
web keeps. -/

namespace MediaRelay

variable {τ α : Type}

open Web

structure Job.TakesInWeb (Q : ∀ α : Type, Job τ α → Prop) : Prop where
  pure : ∀ {α : Type} (a : α), Q α (Job.pure a)
  fail : ∀ {α : Type} (e : MediaError), Q α (Job.fail e)
  bind : ∀ {α β : Type} {job : Job τ α} {next : α → Job τ β}, Q α job → (∀ a, Q β (next a)) →
    Q β (job.bind next)
  mapError : ∀ {α : Type} {job : Job τ α} (f : MediaError → MediaError), Q α job →
    Q α (job.mapError f)
  watch : ∀ {α : Type} {job : Job τ α}, Q α job → Q α job.watch
  retry : ∀ {α : Type} {job : Job τ α} (b : Backoff), Q α job → Q α (Job.retry b job)
  rest : ∀ time, Q Unit (Job.rest time)
  send : ∀ d, Q _ (Fetch.send d)

namespace Job.TakesInWeb

variable {Q : ∀ α : Type, Job τ α → Prop}

theorem ofExcept (h : TakesInWeb Q) (r : Except MediaError α) : Q α (Job.ofExcept r) := by
  cases r with
  | ok a => exact h.pure a
  | error e => exact h.fail e

theorem sendOr (h : TakesInWeb Q) (say : HttpError → MediaError) (d : Draft) :
    Q Reply (Fetch.sendOr say d) :=
  h.bind (h.send d) fun _ => h.ofExcept _

theorem ask (h : TakesInWeb Q) (trying : String) (d : Draft) : Q Reply (Extract.ask trying d) :=
  h.sendOr _ d

theorem resolveRedirect (h : TakesInWeb Q) (link : String) :
    Q String (Extract.resolveRedirect link) :=
  h.bind (h.ask _ _) fun _ => h.pure _

end Job.TakesInWeb

namespace Extract

open Job (TakesInWeb)

variable {Q : ∀ α : Type, Job τ α → Prop}

namespace Instagram

theorem query_zero (address code token : String) (k : ℕ) :
    (query address code token 0 k : Job τ _) =
      (ask "call instagram graphql" (queryDraft address code token)).bind query.finish := rfl

theorem query_succ (address code token : String) (left k : ℕ) :
    (query address code token (left + 1) k : Job τ _) =
      (ask "call instagram graphql" (queryDraft address code token)).bind fun r =>
        if asksForPatience r.status then
          (Job.watch (Job.rest (waitAfter k r.headers))).bind fun _ =>
            query address code token left (k + 1)
        else query.finish r := rfl

/-- The rests between queries are watched, and the next query begins when all of one is over. -/
theorem takesIn_query (h : TakesInWeb Q) (address code token : String) (left k : ℕ) :
    Q _ (query address code token left k) := by
  induction left generalizing k with
  | zero =>
    rw [query_zero]
    exact h.bind (h.ask _ _) fun _ => h.ofExcept _
  | succ left ih =>
    rw [query_succ]
    refine h.bind (h.ask _ _) fun r => ?_
    split_ifs
    · exact h.bind (h.watch (h.rest _)) fun _ => ih (k + 1)
    · exact h.ofExcept _

theorem takesIn_fetch (h : TakesInWeb Q) (e : Endpoints) (link : String) : Q _ (fetch e link) := by
  refine h.bind ?_ fun link => ?_
  · unfold postLink
    split_ifs
    · exact h.resolveRedirect link
    · exact h.pure link
  · split
    · exact h.fail _
    · exact h.bind (h.bind (h.ask _ _) fun _ => h.ofExcept _) fun token =>
        h.bind (takesIn_query h _ _ token _ 0) fun _ => h.ofExcept _

end Instagram

theorem Tiktok.takesIn_fetch (h : TakesInWeb Q) (link : String) : Q _ (fetch link) := by
  refine h.bind (h.resolveRedirect link) fun link => ?_
  unfold lookUp
  split
  · exact h.fail _
  · exact h.bind (h.ask _ _) fun _ => h.ofExcept _

theorem Douyin.takesIn_fetch (h : TakesInWeb Q) (api link : String) : Q _ (fetch api link) :=
  h.bind (h.ask _ _) fun _ => h.ofExcept _

theorem Facebook.takesIn_fetch (h : TakesInWeb Q) (link : String) : Q _ (fetch link) := by
  refine h.bind ?_ fun link => ?_
  · unfold pageLink
    split_ifs
    · exact h.resolveRedirect link
    · exact h.pure link
  · have hscrape : Q _ (scrape link) := h.bind (h.ask _ _) fun _ => h.ofExcept _
    exact h.bind (h.mapError _ (h.retry _ hscrape)) fun _ => h.pure _

end Extract

namespace Platform

open Job (TakesInWeb)

variable {Q : ∀ α : Type, Job τ α → Prop}

/-- Each platform that is always there finds its items by work on the web. -/
theorem takesIn_of_mem_defaults (h : TakesInWeb Q) {p : Platform τ} (hp : p ∈ defaults)
    (link : String) : Q _ (p.extract link) := by
  simp only [defaults, List.mem_cons, List.not_mem_nil, or_false] at hp
  rcases hp with rfl | rfl | rfl | rfl
  · simp only [instagram, named]
    exact Extract.Instagram.takesIn_fetch h {} link
  · simp only [tiktok, named]
    exact Extract.Tiktok.takesIn_fetch h link
  · simp only [douyin, named]
    exact Extract.Douyin.takesIn_fetch h _ link
  · simp only [facebook, named]
    exact Extract.Facebook.takesIn_fetch h link

/-- Finding items either fails at once or is the work of one of the platforms. -/
theorem takesIn_itemsOf (h : TakesInWeb Q) {platforms : List (Platform τ)} {link : String}
    (hp : ∀ p ∈ platforms, Q _ (p.extract link)) : Q _ (itemsOf platforms link) := by
  unfold itemsOf
  split
  · exact h.fail _
  · next p hresolve => exact hp p (List.mem_of_find?_eq_some hresolve)

end Platform

/-! ### Work on the web -/

namespace Job

def IsOffline (job : Job τ α) : Prop := ∀ P, World.Offline P → job.Preserves P

theorem preserves_pause {P : World τ → Prop} (hP : World.Timeless P) (time : Nanos) :
    (pause time).Preserves P := by
  intro w hw
  rcases hsleep : w.sleep time with ⟨passed, w₁⟩
  have hw₁ := hP.of_sleep hw hsleep
  simp only [pause, hsleep]
  cases passed <;> exact hw₁

theorem takesInWeb_isOffline : TakesInWeb fun α (job : Job τ α) => job.IsOffline where
  pure a _ _ := preserves_pure a
  fail e _ _ := preserves_fail e
  bind h hnext P hP := (h P hP).bind fun a => hnext a P hP
  mapError f h P hP := (h P hP).mapError f
  watch h P hP := (h P hP).watch
  retry b h P hP := (h P hP).retry hP.timeless b
  rest _ _ hP w := preserves_pause hP.timeless _ w
  send d _ hP _ hw := (Fetch.send_calm hP d hw).1

end Job

namespace Platform

/-- A platform that finds its items by work on the web alone. -/
def IsOffline (p : Platform τ) : Prop := ∀ link, (p.extract link).IsOffline

theorem isOffline_of_mem_defaults {p : Platform τ} (h : p ∈ defaults) : p.IsOffline :=
  takesIn_of_mem_defaults Job.takesInWeb_isOffline h

theorem isOffline_itemsOf {platforms : List (Platform τ)} (h : ∀ p ∈ platforms, p.IsOffline)
    (link : String) : (itemsOf platforms link).IsOffline :=
  takesIn_itemsOf Job.takesInWeb_isOffline fun p hp => h p hp link

end Platform

theorem Pipeline.isOffline_extract (p : Pipeline τ) (hp : ∀ q ∈ p.platforms, q.IsOffline)
    (link : String) : (p.extract link).IsOffline := by
  have h := Job.takesInWeb_isOffline (τ := τ)
  refine h.bind (h.watch (Platform.isOffline_itemsOf hp link)) fun items => ?_
  cases items with
  | nil => exact h.fail _
  | cons item items => exact h.pure _

end MediaRelay
