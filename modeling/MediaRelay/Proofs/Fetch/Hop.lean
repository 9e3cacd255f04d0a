import MediaRelay.Proofs.Download
/-! A fetch hop by hop. Servers whose answers are fixed lead a request to one end, at whatever time
it is made, and whatever else is asked for before it and between its hops. -/

namespace MediaRelay

variable {τ : Type}

open Web

def Web.Network.answerTo (n : Network) (method url body : String) : Reaction :=
  n.react [] ⟨method, url, [], body⟩

/-- Servers answer an address the same way every time. -/
def Web.Network.IsFixed (n : Network) : Prop :=
  ∀ asked q, n.react asked q = n.answerTo q.method q.url q.body

def Web.Network.NeverStops (n : Network) : Prop := ∀ asked q, n.react asked q ≠ .stops

/-- What a client without a stop token makes of a reaction, unless it dies of it. -/
def Web.Reaction.answer? (shown : String) : Reaction → Option (Except HttpError Response)
  | .answer r => some (.ok r)
  | .dropped | .silent => some (.error (.notSent shown))
  | .stops | .crashes => none

structure World.IsCalm (n : Network) (w : World τ) : Prop where
  network : w.network = n
  free : w.IsFree

theorem World.offline_isCalm {n : Network} (hstops : n.NeverStops) :
    World.Offline fun w : World τ => w.IsCalm n where
  timeless _ _ h := ⟨h.network, h.free⟩
  requests _ _ _ h := ⟨h.network, h.free⟩
  jar _ _ h := ⟨h.network, h.free⟩
  stops w q h hreact := by
    rw [h.network] at hreact
    exact absurd hreact (hstops _ q)

namespace Fetch

structure Hop where
  shown : String
  prepared : Prepared
  left : ℕ
  previous : Option Url
  url : Url

inductive Turn where
  | ended (r : Except HttpError Reply)
  | next (hop : Hop)

namespace Hop

def headers (h : Hop) : List Header :=
  h.previous.elim h.prepared.headers fun previous => hopHeaders previous h.url h.prepared.headers

def request (h : Hop) (jar : CookieJar) : Request :=
  requestOf jar h.prepared.method h.prepared.body h.url h.headers

def ask (due : Nanos) (h : Hop) : Job τ (Except HttpError Response) := fun w =>
  exchange due h.shown h.url (h.request w.client.jar) w

def follow (due : Nanos) (h : Hop) : Job τ (Except HttpError Reply) :=
  Fetch.follow due h.shown h.prepared h.left h.previous h.url

/-- A redirect is followed, unless there were too many or it leads off the web. -/
def redirect (h : Hop) (status : ℕ) (target : Url) : Turn :=
  if h.left = 0 then .ended (.error (.redirects h.url.toString))
  else if !target.isHttp then .ended (.error (.notBuilt (some target.toString)))
  else .next
    { h with
      prepared := h.prepared.afterStatus status
      left := h.left - 1
      previous := some h.url
      url := target }

def turn (h : Hop) : Except HttpError Response → Turn
  | .error e => .ended (.error e)
  | .ok r => (if isRedirect r.status then redirectTarget? h.url r else none).elim
      (.ended (.ok ⟨h.url, r.status, r.headers, r.body⟩)) (h.redirect r.status)

end Hop

def first (d : Draft) : Turn :=
  match d.prepare with
  | .error e => .ended (.error e)
  | .ok p => .next ⟨p.url.toString, p, maxRedirects, none, p.url.withoutFragment⟩

def Turn.finish (due : Nanos) : Turn → Job τ (Except HttpError Reply)
  | .ended r => Job.pure r
  | .next h => h.follow due

theorem send_eq_finish (d : Draft) (w : World τ) :
    send d w = (first d).finish (w.now + w.client.timeout) w := by
  rw [send, first]
  cases d.prepare <;> rfl

namespace Hop

variable {h : Hop} {due : Nanos} {w w' : World τ}

theorem left_of_redirect {h' : Hop} {status : ℕ} {target : Url}
    (hredirect : h.redirect status target = .next h') : h'.left < h.left := by
  unfold redirect at hredirect
  split_ifs at hredirect
  · obtain rfl := Turn.next.inj hredirect
    dsimp only
    omega

theorem left_of_turn {h' : Hop} {a : Except HttpError Response} (hturn : h.turn a = .next h') :
    h'.left < h.left := by
  cases a with
  | error e => cases hturn
  | ok r =>
    rw [turn] at hturn
    cases htarget : (if isRedirect r.status then redirectTarget? h.url r else none) with
    | none =>
      rw [htarget] at hturn
      cases hturn
    | some target =>
      rw [htarget] at hturn
      exact left_of_redirect hturn

/-- A fetch makes one request, and goes on from its answer. -/
theorem follow_eq_bind (due : Nanos) (h : Hop) :
    (h.follow due : Job τ _) = (h.ask due).bind fun a => (h.turn a).finish due := by
  funext w
  rcases hask : h.ask due w with ⟨o, w₁⟩
  simp only [Job.bind, hask]
  obtain ⟨shown, prepared, left, previous, url⟩ := h
  rw [follow, Fetch.follow.eq_def]
  dsimp only
  -- the request is the same, whichever way its headers are told from the page before
  generalize hq : requestOf w.client.jar prepared.method prepared.body url _ = q
  have hexchange : exchange due shown url q w = (o, w₁) := by
    rw [← hq]
    cases previous <;> exact hask
  simp only [hexchange]
  cases o with
  | done a =>
    cases a with
    | error e => rfl
    | ok r =>
      dsimp only [turn]
      cases htarget : (if isRedirect r.status then redirectTarget? url r else none) with
      | none => rfl
      | some target =>
        dsimp only [Option.elim, redirect]
        cases left with
        | zero => rfl
        | succ left =>
          rw [if_neg left.succ_ne_zero]
          split_ifs <;> rfl
  | _ => rfl

theorem follow_of_done {a : Except HttpError Response} (hask : h.ask due w = (.done a, w')) :
    h.follow due w = (h.turn a).finish due w' := by
  simp only [follow_eq_bind, Job.bind, hask]

theorem follow_of_crashed (hask : h.ask due w = (.crashed, w')) :
    h.follow due w = (.crashed, w') := by
  simp only [follow_eq_bind, Job.bind, hask]

/-! ### Servers whose answers are fixed -/

variable {n : Network} {due' : Nanos} {o : Outcome (Except HttpError Response)}

theorem isCalm_of_ask (hstops : n.NeverStops) (hw : w.IsCalm n)
    (hask : h.ask due w = (o, w')) : w'.IsCalm n := by
  have hcalm := (exchange_calm (World.offline_isCalm hstops) due h.shown h.url
    (h.request w.client.jar) hw).1
  change (h.ask due w).2.IsCalm n at hcalm
  rwa [hask] at hcalm

/-- A request that is never answered takes all of its time. -/
theorem ask_of_silent (due : Nanos) (hw : w.IsFree)
    (hreact : w.network.react w.requests (h.request w.client.jar) = .silent) :
    ∃ w₁, h.ask due w = (.done (.error (.notSent h.shown)), w₁) ∧
      w₁.now = w.now + (due - w.now) := by
  let asked : World τ :=
    { w with
      requests := w.requests ++ [h.request w.client.jar]
      late := w.lateWith (.request (h.request w.client.jar)) }
  have hfree : asked.IsFree := hw
  refine ⟨{ asked with now := w.now + (due - w.now) }, ?_, rfl⟩
  simp only [ask, exchange, hreact, hfree.sleep, asked]

theorem fst_ask (hstops : n.NeverStops) (hw : w.IsCalm n) (due : Nanos) (h : Hop) :
    (h.ask due w).1 =
      ((n.react w.requests (h.request w.client.jar)).answer? h.shown).elim .crashed .done := by
  obtain ⟨rfl, hfree⟩ := hw
  cases hreact : w.network.react w.requests (h.request w.client.jar) with
  | stops => exact absurd hreact (hstops _ _)
  | silent =>
    obtain ⟨w₁, hask, -⟩ := ask_of_silent due hfree hreact
    rw [hask]
    rfl
  | _ =>
    simp only [ask, exchange, hreact]
    rfl

/-- A request is answered, or the task dies that makes it. -/
theorem ask_cases (hstops : n.NeverStops) (hw : w.IsCalm n) (hask : h.ask due w = (o, w')) :
    (∃ a, o = .done a) ∨ o = .crashed := by
  have ho := fst_ask hstops hw due h
  rw [hask] at ho
  obtain rfl := ho
  cases (n.react w.requests (h.request w.client.jar)).answer? h.shown with
  | none => exact .inr rfl
  | some a => exact .inl ⟨a, rfl⟩

/-- The answer to a request depends neither on its time nor on what was asked for before. -/
theorem ask_agrees (hfixed : n.IsFixed) (hstops : n.NeverStops) (hw : w.IsCalm n)
    (hw' : w'.IsCalm n) : (h.ask due w).1 = (h.ask due' w').1 := by
  rw [fst_ask hstops hw, fst_ask hstops hw', hfixed, hfixed w'.requests]
  rfl

/-- An answer that is due by now takes no more time. -/
theorem now_of_ask (hstops : n.NeverStops) (hw : w.IsCalm n) (hdue : due ≤ w.now)
    (hask : h.ask due w = (o, w')) : w'.now = w.now := by
  obtain ⟨rfl, hfree⟩ := hw
  cases hreact : w.network.react w.requests (h.request w.client.jar) with
  | stops => exact absurd hreact (hstops _ _)
  | silent =>
    obtain ⟨w₁, hsilent, hnow⟩ := ask_of_silent due hfree hreact
    obtain rfl : w₁ = w' := (Prod.mk.inj (hsilent.symm.trans hask)).2
    rw [hnow, Nat.sub_eq_zero_of_le hdue, Nat.add_zero]
  | _ =>
    simp only [ask, exchange, hreact] at hask
    rw [← (Prod.mk.inj hask).2]

end Hop

namespace Turn

variable {n : Network} {due due' : Nanos} {w w' : World τ}

/-- However a fetch has come to stand so, it ends in one way. -/
theorem finish_agrees (hfixed : n.IsFixed) (hstops : n.NeverStops) (t : Turn) (hw : w.IsCalm n)
    (hw' : w'.IsCalm n) : (t.finish due w).1 = (t.finish due' w').1 := by
  cases t with
  | ended r => rfl
  | next h =>
    change (h.follow due w).1 = (h.follow due' w').1
    induction hleft : h.left using Nat.strongRecOn generalizing h w w' with
    | _ left ih =>
      subst hleft
      rcases hask : h.ask due w with ⟨o, v⟩
      rcases hask' : h.ask due' w' with ⟨o', v'⟩
      obtain rfl : o = o' := by
        have hagrees : (h.ask due w).1 = (h.ask due' w').1 := Hop.ask_agrees hfixed hstops hw hw'
        rwa [hask, hask'] at hagrees
      rcases Hop.ask_cases hstops hw hask with ⟨a, rfl⟩ | rfl
      · rw [Hop.follow_of_done hask, Hop.follow_of_done hask']
        cases hturn : h.turn a with
        | ended r => rfl
        | next h' =>
          exact ih h'.left (Hop.left_of_turn hturn) (Hop.isCalm_of_ask hstops hw hask)
            (Hop.isCalm_of_ask hstops hw' hask') h' rfl
      · rw [Hop.follow_of_crashed hask, Hop.follow_of_crashed hask']

/-- An answer leaves the end of the fetch as it was. -/
theorem finish_turn (hfixed : n.IsFixed) (hstops : n.NeverStops) {h : Hop} {v : World τ}
    {a : Except HttpError Response} (hw : w.IsCalm n) (hask : h.ask due w = (.done a, v))
    (hw' : w'.IsCalm n) : ((h.turn a).finish due w').1 = (h.follow due w').1 := by
  rcases hask' : h.ask due w' with ⟨o, v'⟩
  obtain rfl : o = .done a := by
    have hagrees : (h.ask due w').1 = (h.ask due w).1 := Hop.ask_agrees hfixed hstops hw' hw
    rwa [hask, hask'] at hagrees
  rw [Hop.follow_of_done hask']
  exact finish_agrees hfixed hstops _ hw' (Hop.isCalm_of_ask hstops hw' hask')

end Turn

/-- A fetch of its own comes to the same end in any two such worlds. -/
theorem send_agrees {n : Network} {w w' : World τ} (hfixed : n.IsFixed) (hstops : n.NeverStops)
    (d : Draft) (hw : w.IsCalm n) (hw' : w'.IsCalm n) : (send d w).1 = (send d w').1 := by
  rw [send_eq_finish, send_eq_finish]
  exact Turn.finish_agrees hfixed hstops _ hw hw'

end Fetch

/-- Jobs that come to the same end, and go on to one that does not depend on the world. -/
theorem Job.fst_bind_agrees {α β : Type} {job : Job τ α} {next : α → Job τ β} {w w' : World τ}
    (h : (job w).1 = (job w').1) (hnext : ∀ a v v', (next a v).1 = (next a v').1) :
    (job.bind next w).1 = (job.bind next w').1 := by
  rcases hjob : job w with ⟨o, v⟩
  rcases hjob' : job w' with ⟨o', v'⟩
  obtain rfl : o = o' := by rwa [hjob, hjob'] at h
  simp only [bind, hjob, hjob']
  cases o with
  | done a => exact hnext a v v'
  | _ => rfl

namespace Download

variable {n : Network} {w w' : World τ}

def resultOf (maxBytes : ℕ) (item : Item) : Except HttpError Reply → Except MediaError Payload
  | .error e => .error (.http e)
  | .ok r => payloadOf maxBytes item r

/-- What an item brings when it is fetched alone. -/
def alone (maxBytes index : ℕ) (item : Item) (w : World τ) : Except MediaError Payload :=
  settle index (Job.watch (fetch maxBytes item) w).1

variable {maxBytes index : ℕ} {item : Item}

theorem alone_of_done {r : Except HttpError Reply} (hw : w.stopped = false)
    (h : (Fetch.send { url := item.url } w).1 = .done r) :
    alone maxBytes index item w = resultOf maxBytes item r := by
  rcases hsend : Fetch.send { url := item.url } w with ⟨o, w₁⟩
  obtain rfl : o = .done r := by rwa [hsend] at h
  rw [alone, Job.watch, if_neg (by simp [hw])]
  simp only [fetch, Fetch.sendOr, Job.bind, hsend]
  cases r with
  | error e => rfl
  | ok r =>
    dsimp only [Except.mapError, Job.ofExcept, Job.pure, resultOf]
    cases payloadOf maxBytes item r <;> rfl

theorem alone_of_crashed (hw : w.stopped = false)
    (h : (Fetch.send { url := item.url } w).1 = .crashed) :
    alone maxBytes index item w = .error (.downloadFailed index "download task aborted") := by
  rcases hsend : Fetch.send { url := item.url } w with ⟨o, w₁⟩
  obtain rfl : o = .crashed := by rwa [hsend] at h
  rw [alone, Job.watch, if_neg (by simp [hw])]
  simp only [fetch, Fetch.sendOr, Job.bind, hsend, settle]

theorem alone_agrees (hfixed : n.IsFixed) (hstops : n.NeverStops) (hw : w.IsCalm n)
    (hw' : w'.IsCalm n) : alone maxBytes index item w = alone maxBytes index item w' := by
  have hofExcept {α : Type} (r : Except MediaError α) (v v' : World τ) :
      ((Job.ofExcept r : Job τ α) v).1 = ((Job.ofExcept r : Job τ α) v').1 := by
    cases r <;> rfl
  have hfetch : (fetch maxBytes item w).1 = (fetch maxBytes item w').1 :=
    Job.fst_bind_agrees
      (Job.fst_bind_agrees (Fetch.send_agrees hfixed hstops _ hw hw') fun r => hofExcept _)
      fun r => hofExcept _
  rcases hw₁ : fetch maxBytes item w with ⟨o, v⟩
  rcases hw₁' : fetch maxBytes item w' with ⟨o', v'⟩
  obtain rfl : o = o' := by rwa [hw₁, hw₁'] at hfetch
  simp only [alone, Job.watch, hw.free.stopped, hw'.free.stopped, hw₁, hw₁']
  cases o <;> rfl

end Download
end MediaRelay
