import Mathlib.Data.Nat.Find
import Mathlib.Order.Bounds.Defs
import MediaRelay.Proofs.Decimal
import MediaRelay.Proofs.Fetch.Hop
import MediaRelay.Proofs.Platform.Token
import MediaRelay.Proofs.Text.Spaced
/-! The queries for a post, one after another. While the server asks for patience, the next query
follows after a wait, which the server may name; the sixth one is the last in any case. What comes of
the queries is told from the last answer alone, unless the token fires in one of the waits. -/

namespace MediaRelay.Extract.Instagram

open Web

variable {τ : Type}

/-! ### Waits that a server asks for -/

/-- The first header for it names a wait: a number of seconds, with blanks around it or without. -/
def AsksFor (headers : List Header) (n : ℕ) : Prop :=
  ∃ value text number gap blanks, header? "retry-after" headers = some value ∧
    headerText? value = some text ∧ Text.IsGap gap ∧ Text.IsGap blanks ∧
    text.toList = gap ++ (number ++ blanks) ∧ Decimal.Spells number n

theorem isBlank_of_isDigit {c : Char} (h : c.isDigit = true) : Text.isBlank c = false := by
  simp only [Char.isDigit, Bool.and_eq_true, decide_eq_true_eq, ge_iff_le,
    UInt32.le_iff_toNat_le] at h
  obtain ⟨hlow, hhigh⟩ : 48 ≤ c.toNat ∧ c.toNat ≤ 57 := h
  simp only [Text.isBlank, Bool.or_eq_false_iff, Bool.and_eq_false_iff, decide_eq_false_iff_not,
    beq_eq_false_iff_ne]
  omega

theorem isWord_of_spells {s : List Char} {n : ℕ} (h : Decimal.Spells s n) : Text.IsWord s := by
  obtain ⟨digits, rfl | rfl, hne, hall, -⟩ := h.digits
  · constructor
    · exact hne
    · intro c hc
      exact isBlank_of_isDigit (hall c hc)
  · constructor
    · exact List.cons_ne_nil _ _
    intro c hc
    rcases List.mem_cons.1 hc with rfl | hc
    · rfl
    · exact isBlank_of_isDigit (hall c hc)

theorem retryAfter?_eq_some_iff {headers : List Header} {n : ℕ} :
    retryAfter? headers = some n ↔ AsksFor headers n := by
  unfold retryAfter?
  constructor
  · intro h
    obtain ⟨value, hvalue, h⟩ := Option.bind_eq_some_iff.1 h
    obtain ⟨text, htext, hnumber⟩ := Option.bind_eq_some_iff.1 h
    obtain ⟨gap, blanks, hgap, hblanks, heq⟩ := Text.exists_eq_gap_append_trim text.toList
    exact ⟨value, text, _, gap, blanks, hvalue, htext, hgap, hblanks, heq,
      Decimal.unsigned?_eq_some_iff.1 hnumber⟩
  · rintro ⟨value, text, number, gap, blanks, hvalue, htext, hgap, hblanks, heq, hspells⟩
    have htrim : Text.trim text.toList = number :=
      (Text.trim_eq_word_iff (isWord_of_spells hspells)).2 ⟨gap, blanks, hgap, hblanks, heq⟩
    have hnumber := Decimal.unsigned?_eq_some_iff.2 hspells
    rw [hvalue, Option.bind_eq_bind, Option.bind_some, htext, Option.bind_eq_bind, Option.bind_some,
      htrim, hnumber]

/-! ### The course of the queries -/

structure Inquiry (τ : Type) where
  /-- makes one query -/
  post : Job τ (Except HttpError Reply)
  timer : Timer
  /-- the world before the first query -/
  start : World τ

def status? : Outcome (Except HttpError Reply) → Option ℕ
  | .done (.ok r) => some r.status
  | _ => none

def IsPutOff (o : Outcome (Except HttpError Reply)) : Prop :=
  status? o = some 429 ∨ status? o = some 403

instance (o : Outcome (Except HttpError Reply)) : Decidable (IsPutOff o) :=
  inferInstanceAs (Decidable (_ ∨ _))

def reading (r : Reply) : Outcome (Option Post) :=
  if 200 ≤ r.status ∧ r.status < 300 then
    match decodeReply "instagram" decodeAnswer r with
    | .ok post => .done post
    | .error _ => .failed (.extractionFailed
        s!"failed to decode instagram response: {HttpError.badBody.message}")
  else .failed (.extractionFailed s!"instagram graphql returned status {r.status}")

def result : Outcome (Except HttpError Reply) → Outcome (Option Post)
  | .done (.ok r) => reading r
  | .done (.error e) =>
    .failed (.extractionFailed s!"failed to call instagram graphql: {e.message}")
  | .failed e => .failed e
  | .waiting => .waiting
  | .crashed => .crashed

/-- The wait that is due after the answer to query `k`, counted from zero. -/
def wait (k : ℕ) : Outcome (Except HttpError Reply) → Nanos
  | .done (.ok r) => (retryAfter? r.headers).getD (Nat.pow 2 k) * nanosPerSecond
  | _ => 0

namespace Inquiry

variable (i : Inquiry τ)

/-- The world before query `k`, when all waits before it are over. -/
def worldAt : ℕ → World τ
  | 0 => i.start
  | k + 1 =>
    let asked := i.post (worldAt k)
    { asked.2 with now := asked.2.now + i.timer.lasting asked.2.now (wait k asked.1) }

def answer (k : ℕ) : Outcome (Except HttpError Reply) := (i.post (i.worldAt k)).1

def after (k : ℕ) : World τ := (i.post (i.worldAt k)).2

def EndsAt (k : ℕ) : Prop := k = 5 ∨ ¬ IsPutOff (i.answer k)

structure Governs (run : Outcome (Option Post) × World τ) : Prop where
  /-- Seconds are read from the headers as they are written there. -/
  read : ∀ headers n, retryAfter? headers = some n ↔ AsksFor headers n
  bounded : ∃ last ≤ 5, IsLeast {k | i.EndsAt k} last
  /-- The next query follows when the wait is over, as far as the clock reaches. -/
  exact : ∀ k, (i.after k).now + wait k (i.answer k) ≤ i.timer.last →
    (i.worldAt (k + 1)).now = (i.after k).now + wait k (i.answer k)
  /-- The queries end with the first one that none follows, if the token does not fire before. -/
  ends : ∀ last, IsLeast {k | i.EndsAt k} last →
    (∀ k < last, (i.worldAt (k + 1)).stopped = false) →
    run = (result (i.answer last), i.after last)
  /-- Where each query is the same single request, as many are logged. -/
  logged : ∀ last q, IsLeast {k | i.EndsAt k} last →
    (∀ k < last, (i.worldAt (k + 1)).stopped = false) →
    (∀ k ≤ last, (i.after k).requests = (i.worldAt k).requests ++ [q]) →
    run.2.requests = i.start.requests ++ List.replicate (last + 1) q
  /-- The token fires in the wait after query `k`. -/
  cancelled : ∀ k < 5, (∀ j ≤ k, IsPutOff (i.answer j)) →
    (∀ j < k, (i.worldAt (j + 1)).stopped = false) → (i.worldAt (k + 1)).stopped = true →
    run.1 = .failed .cancelled ∧ ∃ now ≤ (i.worldAt (k + 1)).now, run.2 = { i.after k with now }

variable {i}

theorem exists_isLeast_endsAt : ∃ last ≤ 5, IsLeast {k | i.EndsAt k} last := by
  classical
  have h : ∃ k, i.EndsAt k := ⟨5, .inl rfl⟩
  exact ⟨Nat.find h, Nat.find_min' h (.inl rfl), Nat.find_spec h, fun _ hk => Nat.find_min' h hk⟩

/-- All answers before the last one put the query off. -/
theorem isPutOff_of_lt {last k : ℕ} (hlast : IsLeast {k | i.EndsAt k} last) (hk : k < last) :
    IsPutOff (i.answer k) := by
  by_contra h
  exact absurd (hlast.2 (.inr h)) (Nat.not_le.2 hk)

theorem isLeast_endsAt {last : ℕ} (hputOff : ∀ k < last, IsPutOff (i.answer k))
    (hanswered : ¬ IsPutOff (i.answer last)) (hle : last ≤ 5) :
    IsLeast {k | i.EndsAt k} last := by
  constructor
  · exact .inr hanswered
  · intro k hk
    rcases hk with rfl | hk
    · exact hle
    · apply Nat.le_of_not_lt
      intro hlt
      exact hk (hputOff k hlt)

theorem requests_worldAt {last : ℕ} {q : Request}
    (hq : ∀ k ≤ last, (i.after k).requests = (i.worldAt k).requests ++ [q]) :
    ∀ k ≤ last + 1, (i.worldAt k).requests = i.start.requests ++ List.replicate k q := by
  intro k hk
  induction k with
  | zero => exact (List.append_nil _).symm
  | succ k ih =>
    have hafter : (i.worldAt (k + 1)).requests = (i.after k).requests := rfl
    rw [hafter, hq k (by omega), ih (by omega), List.append_assoc, List.replicate_succ']

end Inquiry

/-! ### One query after another -/

section

variable {address code token : String} {i : Inquiry τ} {n k : ℕ}

structure Inquiry.IsFor (address code token : String) (i : Inquiry τ) : Prop where
  post_eq : i.post = Fetch.send (queryDraft address code token)
  timer_eq : i.timer = i.start.timer

theorem Inquiry.IsFor.timer_post (hi : i.IsFor address code token) {w : World τ}
    (h : w.timer = i.timer) : (i.post w).2.timer = i.timer := by
  rw [hi.post_eq]
  exact (Fetch.send_calm (World.offline_timer i.timer) _ h).1

theorem Inquiry.IsFor.timer_worldAt (hi : i.IsFor address code token) (k : ℕ) :
    (i.worldAt k).timer = i.timer := by
  induction k with
  | zero => exact hi.timer_eq.symm
  | succ k ih => exact hi.timer_post ih

theorem Inquiry.IsFor.timer_after (hi : i.IsFor address code token) (k : ℕ) :
    (i.after k).timer = i.timer := hi.timer_post (hi.timer_worldAt k)

theorem delay_patience {k : ℕ} (hk : k < 5) : patience.delay k = Nat.pow 2 k * nanosPerSecond := by
  have hall : ∀ k < 5, patience.delay k = Nat.pow 2 k * nanosPerSecond := by decide
  exact hall k hk

theorem decodeReply_eq_error {α : Type} {who : String} {dec : Json.Decoder α} {r : Reply}
    {e : MediaError} (h : decodeReply who dec r = .error e) :
    e = .extractionFailed s!"failed to decode {who} response: {HttpError.badBody.message}" := by
  unfold decodeReply at h
  dsimp only at h
  split at h
  · exact (Except.error.inj h).symm
  · split at h
    · cases h
    · exact (Except.error.inj h).symm

theorem finish_eq (r : Reply) (w : World τ) : query.finish r w = (reading r, w) := by
  by_cases hstatus : 200 ≤ r.status ∧ r.status < 300
  · have hinsist : insist "instagram graphql" r = .ok r := by
      have hsuccess : isSuccess r.status = true := by simpa [isSuccess] using hstatus
      rw [insist, if_pos hsuccess]
    rw [query.finish, hinsist, reading, if_pos hstatus]
    change Job.ofExcept (decodeReply "instagram" decodeAnswer r) w = _
    cases hdecode : decodeReply "instagram" decodeAnswer r with
    | ok post => rfl
    | error e =>
      rw [decodeReply_eq_error hdecode]
      rfl
  · have hinsist : insist "instagram graphql" r =
        .error (.extractionFailed s!"instagram graphql returned status {r.status}") := by
      have hsuccess : ¬ isSuccess r.status = true := by simpa [isSuccess] using hstatus
      rw [insist, if_neg hsuccess]
      rfl
    rw [query.finish, hinsist, reading, if_neg hstatus]
    rfl

/-- A query is over with its answer, where nothing follows. -/
theorem ask_bind {w : World τ} {next : Reply → Job τ (Option Post)}
    (h : ∀ r w', Fetch.send (queryDraft address code token) w = (.done (.ok r), w') →
      next r w' = query.finish r w') :
    (ask "call instagram graphql" (queryDraft address code token)).bind next w =
      (result (Fetch.send (queryDraft address code token) w).1,
        (Fetch.send (queryDraft address code token) w).2) := by
  rcases hsend : Fetch.send (queryDraft address code token) w with ⟨o, w'⟩
  simp only [ask, Fetch.sendOr, Job.bind, hsend]
  cases o with
  | done a =>
    cases a with
    | ok r => exact (h r w' hsend).trans (finish_eq r w')
    | error e => rfl
  | _ => rfl

theorem isPutOff_iff {r : Reply} :
    IsPutOff (.done (.ok r)) ↔ asksForPatience r.status = true := by
  simp [IsPutOff, status?, asksForPatience]

theorem exists_reply_of_isPutOff (h : IsPutOff (i.answer k)) :
    ∃ r, i.answer k = .done (.ok r) ∧ asksForPatience r.status = true := by
  cases hanswer : i.answer k with
  | done a =>
    rw [hanswer] at h
    cases a with
    | ok r => exact ⟨r, rfl, isPutOff_iff.1 h⟩
    | error e => rcases h with h | h <;> cases h
  | _ =>
    rw [hanswer] at h
    rcases h with h | h <;> cases h

variable (hi : i.IsFor address code token)
include hi

theorem query_of_endsAt (hn : n + k = 5) (hk : i.EndsAt k) :
    query address code token n k (i.worldAt k) = (result (i.answer k), i.after k) := by
  rw [Inquiry.answer, Inquiry.after, hi.post_eq]
  cases n with
  | zero =>
    rw [query_zero]
    exact ask_bind fun r w' _ => rfl
  | succ n =>
    rw [query_succ]
    apply ask_bind
    intro r w' hsend
    have hanswer : i.answer k = .done (.ok r) := by
      rw [Inquiry.answer, hi.post_eq, hsend]
    have hdone : ¬ asksForPatience r.status = true := by
      rw [← isPutOff_iff, ← hanswer]
      exact hk.resolve_left (by omega)
    rw [if_neg hdone]

/-- After a query that is put off, the watched wait decides. -/
theorem query_of_isPutOff (hn : n + 1 + k = 5) (hk : IsPutOff (i.answer k)) :
    query address code token (n + 1) k (i.worldAt k) =
      (Job.watch (Job.pause (i.timer.lasting (i.after k).now (wait k (i.answer k))))).bind
        (fun _ => query address code token n (k + 1)) (i.after k) := by
  obtain ⟨r, hanswer, hstatus⟩ := exists_reply_of_isPutOff hk
  have hwait : waitAfter k r.headers = wait k (.done (.ok r)) := by
    rw [wait, waitAfter, delay_patience (by omega)]
    cases retryAfter? r.headers <;> rfl
  have hsend : Fetch.send (queryDraft address code token) (i.worldAt k) =
      (.done (.ok r), i.after k) := by
    rw [← hi.post_eq, ← hanswer]
    rfl
  have hask : ask "call instagram graphql" (queryDraft address code token) (i.worldAt k) =
      (.done r, i.after k) := Job.bind_of_eq_done hsend
  rw [query_succ, Job.bind_of_eq_done hask, if_pos hstatus, hanswer, hwait, ← hi.timer_after k]
  rfl

theorem query_of_passed (hn : n + 1 + k = 5) (hk : IsPutOff (i.answer k))
    (hpassed : (i.worldAt (k + 1)).stopped = false) :
    query address code token (n + 1) k (i.worldAt k) =
      query address code token n (k + 1) (i.worldAt (k + 1)) := by
  have hwatch : Job.watch (Job.pause (i.timer.lasting (i.after k).now (wait k (i.answer k))))
      (i.after k) = (.done (), i.worldAt (k + 1)) := Job.watch_pause_of_not_stopped hpassed
  rw [query_of_isPutOff hi hn hk, Job.bind_of_eq_done hwatch]

theorem query_of_fired (hn : n + 1 + k = 5) (hk : IsPutOff (i.answer k))
    (hfired : (i.worldAt (k + 1)).stopped = true) :
    ∃ now ≤ (i.worldAt (k + 1)).now, query address code token (n + 1) k (i.worldAt k) =
      (.failed .cancelled, { i.after k with now }) := by
  obtain ⟨now, hle, hwatch⟩ : ∃ now ≤ (i.worldAt (k + 1)).now,
      Job.watch (Job.pause (i.timer.lasting (i.after k).now (wait k (i.answer k)))) (i.after k) =
        (.failed .cancelled, { i.after k with now }) := Job.watch_pause_of_stopped hfired
  refine ⟨now, hle, ?_⟩
  rw [query_of_isPutOff hi hn hk, Job.bind_of_failed hwatch]

/-- Query `k` is reached when all before it were put off and the token fired in no wait. -/
theorem query_reaches (hk : k ≤ 5) (hputOff : ∀ j < k, IsPutOff (i.answer j))
    (hpassed : ∀ j < k, (i.worldAt (j + 1)).stopped = false) :
    query address code token 5 0 i.start = query address code token (5 - k) k (i.worldAt k) := by
  induction k with
  | zero => rfl
  | succ k ih =>
    have hbefore : query address code token 5 0 i.start =
        query address code token (5 - k) k (i.worldAt k) := by
      apply ih (by omega)
      · intro j hj
        exact hputOff j (by omega)
      · intro j hj
        exact hpassed j (by omega)
    have hleft : 5 - k = 5 - (k + 1) + 1 := by omega
    rw [hbefore, hleft, query_of_passed hi (by omega) (hputOff k (by omega)) (hpassed k (by omega))]

theorem query_eq_of_isLeast {last : ℕ} (hlast : IsLeast {k | i.EndsAt k} last)
    (hpassed : ∀ k < last, (i.worldAt (k + 1)).stopped = false) :
    query address code token 5 0 i.start = (result (i.answer last), i.after last) := by
  have hle : last ≤ 5 := hlast.2 (.inl rfl)
  have hputOff : ∀ k < last, IsPutOff (i.answer k) := by
    intro k hk
    exact Inquiry.isPutOff_of_lt hlast hk
  rw [query_reaches hi hle hputOff hpassed]
  exact query_of_endsAt hi (by omega) hlast.1

end

/-- The queries for a post are made as the answers and the token command. -/
theorem governs_query (address code token : String) (w : World τ) :
    Inquiry.Governs ⟨Fetch.send (queryDraft address code token), w.timer, w⟩
      (query address code token patience.retries 0 w) := by
  set i : Inquiry τ := ⟨Fetch.send (queryDraft address code token), w.timer, w⟩
  have hi : i.IsFor address code token := ⟨rfl, rfl⟩
  refine ⟨fun _ _ => retryAfter?_eq_some_iff, Inquiry.exists_isLeast_endsAt, ?_, ?_, ?_, ?_⟩
  · intro k hreached
    exact congrArg ((i.after k).now + ·) (i.timer.exact _ _ hreached)
  · intro last hlast hpassed
    exact query_eq_of_isLeast hi hlast hpassed
  · intro last q hlast hpassed hq
    have hrun := query_eq_of_isLeast hi hlast hpassed
    change (query address code token 5 0 i.start).2.requests = _
    rw [hrun]
    exact Inquiry.requests_worldAt hq (last + 1) (Nat.le_refl _)
  · intro k hk hputOff hpassed hfired
    have hbefore : ∀ j < k, IsPutOff (i.answer j) := by
      intro j hj
      exact hputOff j (by omega)
    have hreach := query_reaches hi (Nat.le_of_lt hk) hbefore hpassed
    obtain ⟨n, hn⟩ : ∃ n, n + 1 + k = 5 := ⟨4 - k, by omega⟩
    have hleft : 5 - k = n + 1 := by omega
    rw [hleft] at hreach
    obtain ⟨now, hle, hrun⟩ := query_of_fired hi hn (hputOff k (Nat.le_refl k)) hfired
    change (query address code token 5 0 i.start).1 = _ ∧
      ∃ now ≤ _, (query address code token 5 0 i.start).2 = _
    rw [hreach, hrun]
    exact ⟨rfl, now, hle, rfl⟩

/-! ### Courses of single queries -/

/-- Servers that put off two queries, the first of them for two seconds; the third one is answered. -/
def busy (deadline : Option Nanos) : World Unit where
  deadline
  network.react asked _ := .answer
    ⟨[429, 403].getD asked.length 200, [headerOf ("retry-after", [" 2\t", "soon"].getD asked.length "")],
      ⟨none, ["{}".toUTF8], true⟩⟩
  client.timeout := 0
  messenger := ()

def busyRun (deadline : Option Nanos) : Outcome (Option Post) × World Unit :=
  query "http://[::1]/graphql" "abc" "ck" patience.retries 0 (busy deadline)

/-- The second wait doubles, whatever the first one was, and is cut short where the token fires. -/
theorem governs_query_busy :
    ((busyRun none).2.requests.length = 3 ∧ (busyRun none).2.now = 4 * nanosPerSecond) ∧
    (busyRun (some (3 * nanosPerSecond))).1 = .failed .cancelled ∧
      (busyRun (some (3 * nanosPerSecond))).2.requests.length = 2 := by
  constructor
  · have h := governs_query "http://[::1]/graphql" "abc" "ck" (busy none)
    set i : Inquiry Unit := ⟨_, _, busy none⟩
    obtain ⟨hputOff, hanswered, hpassed, hend⟩ : (∀ k < 2, IsPutOff (i.answer k)) ∧
        ¬ IsPutOff (i.answer 2) ∧ (∀ k < 2, (i.worldAt (k + 1)).stopped = false) ∧
        (i.after 2).requests.length = 3 ∧ (i.after 2).now = 4 * nanosPerSecond := by
      decide +kernel
    have hlast := Inquiry.isLeast_endsAt hputOff hanswered (by decide)
    rw [busyRun, h.ends 2 hlast hpassed]
    exact hend
  · have h := governs_query "http://[::1]/graphql" "abc" "ck" (busy (some (3 * nanosPerSecond)))
    set i : Inquiry Unit := ⟨_, _, busy (some (3 * nanosPerSecond))⟩
    obtain ⟨hputOff, hpassed, hfired, hend⟩ : (∀ k ≤ 1, IsPutOff (i.answer k)) ∧
        (∀ k < 1, (i.worldAt (k + 1)).stopped = false) ∧ (i.worldAt 2).stopped = true ∧
        (i.after 1).requests.length = 2 := by
      decide +kernel
    obtain ⟨hcancelled, now, -, hrun⟩ := h.cancelled 1 (by decide) hputOff hpassed hfired
    -- Nothing is to be computed again.
    generalize i.after 1 = w₁ at hrun hend
    rw [busyRun]
    exact ⟨hcancelled, (congrArg (·.requests.length) hrun).trans hend⟩

/-- Makes a query, and takes the first answer even if it is a redirect. -/
def askOnce (d : Draft) : Job τ (Except HttpError Reply) := fun w =>
  match Fetch.first d with
  | .ended r => (.done r, w)
  | .next h => (h.ask (w.now + w.client.timeout)).bind
      (fun a => Job.pure (a.map fun r => ⟨h.url, r.status, r.headers, r.body⟩)) w

def moved : World Unit where
  network.react _ q := .answer
    (if q.url = "http://[::1]/graphql" then
      ⟨307, [headerOf ("location", "http://[::1]/moved")], ⟨none, [], true⟩⟩
    else ⟨200, [], ⟨none, ["{}".toUTF8], true⟩⟩)
  client.timeout := 0
  messenger := ()

/-- Servers that put off a query for as many seconds as can be said. -/
def tired : World Unit where
  network.react asked _ := .answer
    ⟨[429].getD asked.length 200, [headerOf ("retry-after", "18446744073709551615")],
      ⟨none, ["{}".toUTF8], true⟩⟩
  client.timeout := 0
  messenger := ()

def boundless : Timer := ⟨fun _ time => time, 0, fun _ _ _ => rfl⟩

/-- A redirect is no answer, since it is followed, and there are waits to whose end the clock does
not reach. -/
theorem not_governs_query :
    ¬ Inquiry.Governs
      ⟨askOnce (queryDraft "http://[::1]/graphql" "abc" "ck"), boundless, moved⟩
      (query "http://[::1]/graphql" "abc" "ck" patience.retries 0 moved) ∧
    ¬ Inquiry.Governs
      ⟨Fetch.send (queryDraft "http://[::1]/graphql" "abc" "ck"), boundless, tired⟩
      (query "http://[::1]/graphql" "abc" "ck" patience.retries 0 tired) := by
  constructor
  · intro h
    set i : Inquiry Unit := ⟨_, _, moved⟩
    obtain ⟨hanswered, hlength⟩ : ¬ IsPutOff (i.answer 0) ∧
        (query "http://[::1]/graphql" "abc" "ck" patience.retries 0 moved).2.requests.length ≠
          (i.after 0).requests.length := by
      decide +kernel
    have hlast := Inquiry.isLeast_endsAt (fun k hk => absurd hk (Nat.not_lt_zero k)) hanswered
      (Nat.zero_le 5)
    have hrun := h.ends 0 hlast fun k hk => absurd hk (Nat.not_lt_zero k)
    exact hlength (congrArg (·.2.requests.length) hrun)
  · intro h
    set i : Inquiry Unit := ⟨_, _, tired⟩
    obtain ⟨hputOff, hanswered, hpassed, hnow⟩ : (∀ k < 1, IsPutOff (i.answer k)) ∧
        ¬ IsPutOff (i.answer 1) ∧ (∀ k < 1, (i.worldAt (k + 1)).stopped = false) ∧
        (query "http://[::1]/graphql" "abc" "ck" patience.retries 0 tired).2.now ≠
          (i.after 1).now := by
      decide +kernel
    have hlast := Inquiry.isLeast_endsAt hputOff hanswered (by decide)
    have hrun := h.ends 1 hlast hpassed
    exact hnow (congrArg (·.2.now) hrun)

end MediaRelay.Extract.Instagram
