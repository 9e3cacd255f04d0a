import Mathlib.Logic.Relation
import Mathlib.Data.Nat.Find
import MediaRelay.Proofs.List
import MediaRelay.Proofs.Fetch.Hop
/-! Downloads as tasks that share permits and make their requests in any order, under a token that
does not fire. What each step keeps holds at all times: permits are in balance, and a fetch leads
where it would lead alone. So the results tell nothing of the order in which the tasks went on. -/

namespace MediaRelay.Download

variable {τ : Type}

open Web

inductive Stage where
  /-- it waits for a permit -/
  | queued
  /-- it holds a permit, and has a request under way that is due by then -/
  | fetching (due : Nanos) (hop : Fetch.Hop)
  /-- it has reported -/
  | reported
  /-- it has died of its fetch -/
  | crashed
  /-- it has died of something else -/
  | killed

namespace Stage

def held : Stage → ℕ
  | fetching _ _ => 1
  | _ => 0

def left : Stage → ℕ
  | queued => maxRedirects + 2
  | fetching _ hop => hop.left + 1
  | _ => 0

def isKilled : Stage → Bool
  | killed => true
  | _ => false

def IsOver (stage : Stage) : Prop := stage = reported ∨ stage = crashed ∨ stage = killed

/-- The fetch of an item leads to the end to which it leads in a world of its own. -/
def IsOnCourse (item : Item) (w₀ : World τ) : Stage → Prop
  | fetching due hop => (hop.follow due w₀).1 = (Fetch.send { url := item.url } w₀).1
  | crashed => (Fetch.send { url := item.url } w₀).1 = .crashed
  | _ => True

end Stage

structure Pool (τ : Type) where
  world : World τ
  /-- in the order of the items -/
  tasks : List Stage
  /-- permits that no task holds -/
  free : ℕ
  /-- with the places of their tasks, from zero, in the order of arrival -/
  reports : List (ℕ × Except MediaError Payload)

namespace Pool

def start (d : Downloader) (items : List Item) (w : World τ) : Pool τ :=
  ⟨w, List.replicate items.length .queued, d.permits, []⟩

def goOn (maxBytes : ℕ) (item : Item) (place : ℕ) (due : Nanos) (s : Pool τ) : Fetch.Turn → Pool τ
  | .ended r =>
    { s with
      tasks := s.tasks.set place .reported
      free := s.free + 1
      reports := s.reports ++ [(place, resultOf maxBytes item r)] }
  | .next hop => { s with tasks := s.tasks.set place (.fetching due hop) }

def die (place held : ℕ) (dead : Stage) (s : Pool τ) : Pool τ :=
  { s with tasks := s.tasks.set place dead, free := s.free + held }

/-- What can happen next. Requests are answered soon or late, or never, but time does not pass the
moment at which they are due: there the client gives them up. -/
inductive Step (maxBytes : ℕ) (items : List Item) : Pool τ → Pool τ → Prop
  | wait {s : Pool τ} {now : Nanos} (hnow : s.world.now ≤ now)
      (hdue : ∀ due hop, Stage.fetching due hop ∈ s.tasks → now ≤ due) :
      Step maxBytes items s { s with world := { s.world with now } }
  | begins {s : Pool τ} {place : ℕ} {item : Item} (htask : s.tasks[place]? = some .queued)
      (hitem : items[place]? = some item) (hfree : 0 < s.free) :
      Step maxBytes items s
        (goOn maxBytes item place (s.world.now + s.world.client.timeout)
          { s with free := s.free - 1 } (Fetch.first { url := item.url }))
  | goesOn {s : Pool τ} {place : ℕ} {item : Item} {due : Nanos} {hop : Fetch.Hop} {w : World τ}
      {a : Except HttpError Response} (htask : s.tasks[place]? = some (.fetching due hop))
      (hitem : items[place]? = some item) (hask : hop.ask due s.world = (.done a, w))
      (hnow : w.now = s.world.now) :
      Step maxBytes items s (goOn maxBytes item place due { s with world := w } (hop.turn a))
  | crashes {s : Pool τ} {place : ℕ} {due : Nanos} {hop : Fetch.Hop} {w : World τ}
      (htask : s.tasks[place]? = some (.fetching due hop))
      (hask : hop.ask due s.world = (.crashed, w)) (hnow : w.now = s.world.now) :
      Step maxBytes items s (die place 1 .crashed { s with world := w })
  | dies {s : Pool τ} {place : ℕ} {stage : Stage} (htask : s.tasks[place]? = some stage)
      (halive : ¬ stage.IsOver) : Step maxBytes items s (die place stage.held .killed s)

def Reaches (maxBytes : ℕ) (items : List Item) : Pool τ → Pool τ → Prop :=
  Relation.ReflTransGen (Step maxBytes items)

/-- The fetches in progress, each of which holds a permit. -/
def fetching (s : Pool τ) : ℕ := total Stage.held s.tasks

def left (s : Pool τ) : ℕ := total Stage.left s.tasks

def IsOver (s : Pool τ) : Prop := ∀ stage ∈ s.tasks, stage.IsOver

/-- Whether the task at a place has died of something else than its fetch. -/
def killed (s : Pool τ) (place : ℕ) : Bool := s.tasks[place]?.any Stage.isKilled

def slots {α : Type} (n : ℕ) (reports : List (ℕ × α)) : List (Option α) :=
  reports.foldl (fun slots r => slots.set r.1 (some r.2)) (List.replicate n none)

def results (items : List Item) (s : Pool τ) : List DownloadResult :=
  (items.zip (slots items.length s.reports)).mapIdx fun place entry =>
    ⟨place + 1, entry.1,
      entry.2.getD (.error (.downloadFailed (place + 1) "download task aborted"))⟩

end Pool

/-- Each item as it is fetched alone, but for those whose tasks were killed. -/
def oneByOne (maxBytes : ℕ) (killed : ℕ → Bool) (items : List Item) (w : World τ) :
    List DownloadResult :=
  items.mapIdx fun place item =>
    ⟨place + 1, item,
      if killed place then .error (.downloadFailed (place + 1) "download task aborted")
      else alone maxBytes (place + 1) item w⟩

namespace Pool

structure RunsWell (permits : ℕ) (items : List Item) (w₀ : World τ) (s : Pool τ) : Prop where
  length : s.tasks.length = items.length
  calm : s.world.IsCalm w₀.network
  permits : s.fetching + s.free = permits
  inTime : ∀ due hop, Stage.fetching due hop ∈ s.tasks → s.world.now ≤ due
  onCourse : ∀ (place : ℕ) (item : Item) (stage : Stage), items[place]? = some item →
    s.tasks[place]? = some stage → stage.IsOnCourse item w₀

structure ReportsWell (maxBytes : ℕ) (items : List Item) (w₀ : World τ) (s : Pool τ) : Prop where
  reported : ∀ place : ℕ, s.tasks[place]? = some .reported ↔ ∃ outcome, (place, outcome) ∈ s.reports
  alone : ∀ (place : ℕ) (item : Item) outcome, items[place]? = some item →
    (place, outcome) ∈ s.reports → outcome = alone maxBytes (place + 1) item w₀

structure IsSound (maxBytes permits : ℕ) (items : List Item) (w₀ : World τ) (s : Pool τ) :
    Prop where
  runs : s.RunsWell permits items w₀
  reports : s.ReportsWell maxBytes items w₀

variable {maxBytes permits place free : ℕ} {items : List Item} {item : Item} {w w₀ : World τ}
  {s s' : Pool τ} {stage stage' : Stage} {due : Nanos}

theorem getElem?_set_tasks (htask : s.tasks[place]? = some stage) (i : ℕ) :
    (s.tasks.set place stage')[i]? = if place = i then some stage' else s.tasks[i]? := by
  obtain ⟨hplace, -⟩ := List.getElem?_eq_some_iff.1 htask
  rw [List.getElem?_set, if_pos hplace]

theorem RunsWell.exists_item (h : s.RunsWell permits items w₀)
    (htask : s.tasks[place]? = some stage) : ∃ item, items[place]? = some item := by
  obtain ⟨hplace, -⟩ := List.getElem?_eq_some_iff.1 htask
  exact ⟨items.get ⟨place, h.length ▸ hplace⟩, List.getElem?_eq_getElem _⟩

theorem RunsWell.exists_task (h : s.RunsWell permits items w₀)
    (hitem : items[place]? = some item) : ∃ stage, s.tasks[place]? = some stage := by
  obtain ⟨hplace, -⟩ := List.getElem?_eq_some_iff.1 hitem
  exact ⟨s.tasks.get ⟨place, h.length ▸ hplace⟩, List.getElem?_eq_getElem _⟩

theorem RunsWell.set (h : s.RunsWell permits items w₀) (htask : s.tasks[place]? = some stage)
    (hcalm : w.IsCalm w₀.network) (hnow : w.now = s.world.now)
    (hfree : free + stage'.held = s.free + stage.held)
    (hdue : ∀ due hop, stage' = .fetching due hop → s.world.now ≤ due)
    (hitem : items[place]? = some item) (hcourse : stage'.IsOnCourse item w₀)
    (reports : List (ℕ × Except MediaError Payload)) :
    (Pool.mk w (s.tasks.set place stage') free reports).RunsWell permits items w₀ where
  length := (List.length_set ..).trans h.length
  calm := hcalm
  permits := by
    have hheld := total_set Stage.held htask stage'
    have hpermits := h.permits
    simp only [fetching] at hpermits ⊢
    omega
  inTime due hop hmem := by
    rw [show w.now = s.world.now from hnow]
    rcases List.mem_or_eq_of_mem_set hmem with hmem | heq
    · exact h.inTime due hop hmem
    · exact hdue due hop heq.symm
  onCourse i item' stage hitem' hstage := by
    rw [getElem?_set_tasks htask] at hstage
    split_ifs at hstage with hi
    · subst hi
      obtain rfl := Option.some.inj hstage
      obtain rfl : item = item' := Option.some.inj (hitem.symm.trans hitem')
      exact hcourse
    · exact h.onCourse i item' stage hitem' hstage

theorem ReportsWell.set (h : s.ReportsWell maxBytes items w₀)
    (htask : s.tasks[place]? = some stage) (hstage : stage ≠ .reported)
    (hstage' : stage' ≠ .reported) (w : World τ) (free : ℕ) :
    (Pool.mk w (s.tasks.set place stage') free s.reports).ReportsWell maxBytes items w₀ where
  reported i := by
    rw [getElem?_set_tasks htask, ← h.reported]
    split_ifs with hi
    · subst hi
      rw [htask]
      simp [hstage, hstage']
    · exact Iff.rfl
  alone := h.alone

theorem ReportsWell.report (h : s.ReportsWell maxBytes items w₀)
    (htask : s.tasks[place]? = some stage) (hitem : items[place]? = some item) (w : World τ)
    (free : ℕ) :
    (Pool.mk w (s.tasks.set place .reported) free
      (s.reports ++ [(place, Download.alone maxBytes (place + 1) item w₀)])).ReportsWell maxBytes
        items w₀ where
  reported i := by
    rw [getElem?_set_tasks htask]
    split_ifs with hi
    · subst hi
      simp
    · simp [h.reported, Ne.symm hi]
  alone i item' outcome hitem' hmem := by
    rcases List.mem_append.1 hmem with hmem | hmem
    · exact h.alone i item' outcome hitem' hmem
    · obtain ⟨rfl, rfl⟩ := Prod.mk.inj (List.mem_singleton.1 hmem)
      obtain rfl : item = item' := Option.some.inj (hitem.symm.trans hitem')
      rfl

/-- A task that goes on leaves the others as they are. -/
theorem IsSound.goOn (h : s.IsSound maxBytes permits items w₀) (hw₀ : w₀.IsFree)
    (htask : s.tasks[place]? = some stage) (hstage : stage ≠ .reported)
    (hitem : items[place]? = some item) (hcalm : w.IsCalm w₀.network)
    (hnow : w.now = s.world.now) (hfree : free + 1 = s.free + stage.held)
    (hdue : s.world.now ≤ due) {turn : Fetch.Turn}
    (hturn : (turn.finish due w₀).1 = (Fetch.send { url := item.url } w₀).1) :
    (Pool.goOn maxBytes item place due ⟨w, s.tasks, free, s.reports⟩ turn).IsSound maxBytes permits
      items w₀ := by
  cases turn with
  | ended r =>
    have hresult : resultOf maxBytes item r = Download.alone maxBytes (place + 1) item w₀ :=
      (alone_of_done hw₀.stopped hturn.symm).symm
    have hcourse : Stage.reported.IsOnCourse item w₀ := trivial
    rw [Pool.goOn, hresult]
    exact ⟨h.runs.set htask hcalm hnow hfree (by rintro _ _ ⟨⟩) hitem hcourse _,
      h.reports.report htask hitem ..⟩
  | next hop =>
    have hdue' : ∀ due' hop', Stage.fetching due hop = .fetching due' hop' →
        s.world.now ≤ due' := by
      rintro _ _ ⟨⟩
      exact hdue
    exact ⟨h.runs.set htask hcalm hnow hfree hdue' hitem hturn _,
      h.reports.set htask hstage (by rintro ⟨⟩) ..⟩

theorem IsSound.die (h : s.IsSound maxBytes permits items w₀)
    (htask : s.tasks[place]? = some stage) (hstage : stage ≠ .reported)
    (hcalm : w.IsCalm w₀.network) (hnow : w.now = s.world.now) {dead : Stage}
    (hdead : dead = .crashed ∨ dead = .killed)
    (hcourse : ∀ item, items[place]? = some item → dead.IsOnCourse item w₀) :
    (Pool.die place stage.held dead { s with world := w }).IsSound maxBytes permits items w₀ := by
  obtain ⟨item, hitem⟩ := h.runs.exists_item htask
  have hfree : s.free + stage.held + dead.held = s.free + stage.held := by
    rcases hdead with rfl | rfl <;> rfl
  have hdue : ∀ due hop, dead = .fetching due hop → s.world.now ≤ due := by
    rcases hdead with rfl | rfl <;> rintro _ _ ⟨⟩
  have hreported : dead ≠ .reported := by
    rcases hdead with rfl | rfl <;> rintro ⟨⟩
  exact ⟨h.runs.set htask hcalm hnow hfree hdue hitem (hcourse item hitem) _,
    h.reports.set htask hstage hreported ..⟩

theorem fetching_start (d : Downloader) (items : List Item) (w : World τ) :
    (start d items w).fetching = 0 := total_replicate_of_zero Stage.held rfl _

theorem isSound_start (d : Downloader) (items : List Item) (hw₀ : w₀.IsFree) :
    (start d items w₀).IsSound maxBytes d.permits items w₀ where
  runs :=
    { length := List.length_replicate
      calm := ⟨rfl, hw₀⟩
      permits := by
        rw [fetching_start]
        exact Nat.zero_add _
      inTime := fun due hop hmem => by cases List.eq_of_mem_replicate hmem
      onCourse := fun place item stage hitem hqueued => by
        rw [List.eq_of_mem_replicate (List.mem_of_getElem? hqueued)]
        trivial }
  reports :=
    { reported := fun place => by
        refine ⟨fun hreported => ?_, fun ⟨outcome, hmem⟩ => absurd hmem (by simp [start])⟩
        cases List.eq_of_mem_replicate (List.mem_of_getElem? hreported)
      alone := fun place item outcome hitem hmem => absurd hmem (by simp [start]) }

/-! ### What is returned -/

section

variable {α : Type}

theorem slots_append_singleton (n : ℕ) (reports : List (ℕ × α)) (r : ℕ × α) :
    slots n (reports ++ [r]) = (slots n reports).set r.1 (some r.2) := by
  rw [slots, List.foldl_append]
  rfl

theorem length_slots (n : ℕ) (reports : List (ℕ × α)) : (slots n reports).length = n := by
  induction reports using List.reverseRecOn with
  | nil => exact List.length_replicate
  | append_singleton reports r ih => rw [slots_append_singleton, List.length_set, ih]

/-- A slot holds a report of its place, if there is one. -/
theorem slots_cases (reports : List (ℕ × α)) {n place : ℕ} (hplace : place < n) :
    (∃ a, (place, a) ∈ reports ∧ (slots n reports)[place]? = some (some a)) ∨
      (∀ a, (place, a) ∉ reports) ∧ (slots n reports)[place]? = some none := by
  induction reports using List.reverseRecOn with
  | nil =>
    right
    refine ⟨by simp, ?_⟩
    rw [slots, List.foldl_nil, List.getElem?_replicate, if_pos hplace]
  | append_singleton reports r ih =>
    obtain ⟨i, a⟩ := r
    rw [slots_append_singleton, List.getElem?_set, length_slots]
    by_cases hi : i = place
    · subst hi
      exact .inl ⟨a, by simp, by simp [hplace]⟩
    · rw [if_neg hi]
      rcases ih with ⟨b, hmem, hslot⟩ | ⟨hnone, hslot⟩
      · exact .inl ⟨b, List.mem_append_left _ hmem, hslot⟩
      · exact .inr ⟨fun b => by simp [hnone, Ne.symm hi], hslot⟩

end

/-- When all tasks have ended, what is in a slot is what is returned. -/
theorem IsSound.getD_slots (h : s.IsSound maxBytes permits items w₀) (hw₀ : w₀.IsFree)
    (hover : s.IsOver) {slot : Option (Except MediaError Payload)}
    (hitem : items[place]? = some item)
    (hslot : (slots items.length s.reports)[place]? = some slot) :
    slot.getD (.error (.downloadFailed (place + 1) "download task aborted")) =
      if s.killed place then .error (.downloadFailed (place + 1) "download task aborted")
      else Download.alone maxBytes (place + 1) item w₀ := by
  obtain ⟨hplace, -⟩ := List.getElem?_eq_some_iff.1 hitem
  obtain ⟨stage, htask⟩ := h.runs.exists_task hitem
  have hreported := h.reports.reported place
  have hkilled : s.killed place = stage.isKilled := by rw [killed, htask, Option.any_some]
  rw [hkilled]
  rw [htask] at hreported
  rcases slots_cases s.reports hplace with ⟨outcome, hmem, hslot'⟩ | ⟨hnone, hslot'⟩
  · obtain rfl : stage = .reported := Option.some.inj (hreported.2 ⟨_, hmem⟩)
    obtain rfl : slot = some outcome := Option.some.inj (hslot.symm.trans hslot')
    exact h.reports.alone place item outcome hitem hmem
  · obtain rfl : slot = none := Option.some.inj (hslot.symm.trans hslot')
    rcases hover stage (List.mem_of_getElem? htask) with rfl | rfl | rfl
    · obtain ⟨outcome, hmem⟩ := hreported.1 rfl
      exact absurd hmem (hnone outcome)
    · exact (alone_of_crashed hw₀.stopped (h.runs.onCourse place item _ hitem htask)).symm
    · rfl

theorem IsSound.results_eq (h : s.IsSound maxBytes permits items w₀) (hw₀ : w₀.IsFree)
    (hover : s.IsOver) : s.results items = oneByOne maxBytes s.killed items w₀ := by
  refine List.ext_getElem (by simp [results, oneByOne, length_slots]) fun place hplace hplace' => ?_
  simp only [results, oneByOne, List.getElem_mapIdx, List.getElem_zip]
  rw [h.getD_slots hw₀ hover (List.getElem?_eq_getElem _) (List.getElem?_eq_getElem _)]

/-! ### What each step keeps, and what a run keeps -/

variable (hfixed : w₀.network.IsFixed) (hstops : w₀.network.NeverStops) (hw₀ : w₀.IsFree)

include hfixed hstops hw₀

theorem IsSound.step (h : s.IsSound maxBytes permits items w₀) (hstep : Step maxBytes items s s') :
    s'.IsSound maxBytes permits items w₀ := by
  have hcalm₀ : w₀.IsCalm w₀.network := ⟨rfl, hw₀⟩
  cases hstep with
  | wait hnow hdue =>
    obtain ⟨⟨hlength, hcalm, hpermits, hinTime, honCourse⟩, hreported, halone⟩ := h
    exact ⟨⟨hlength, ⟨hcalm.network, hcalm.free⟩, hpermits, hdue, honCourse⟩, hreported, halone⟩
  | @begins place item htask hitem hfree =>
    have hfree' : s.free - 1 + 1 = s.free + Stage.queued.held := Nat.sub_add_cancel hfree
    refine h.goOn hw₀ htask (by rintro ⟨⟩) hitem h.runs.calm rfl hfree' (Nat.le_add_right _ _) ?_
    rw [Fetch.send_eq_finish]
    exact Fetch.Turn.finish_agrees hfixed hstops _ hcalm₀ hcalm₀
  | @goesOn place item due hop w a htask hitem hask hnow =>
    have hcalm := Fetch.Hop.isCalm_of_ask hstops h.runs.calm hask
    have hdue := h.runs.inTime due hop (List.mem_of_getElem? htask)
    -- the answer is the one that the fetch would get alone, so its end stays the same
    refine h.goOn hw₀ htask (by rintro ⟨⟩) hitem hcalm hnow rfl hdue ?_
    rw [Fetch.Turn.finish_turn hfixed hstops h.runs.calm hask hcalm₀]
    exact h.runs.onCourse place item _ hitem htask
  | @crashes place due hop w htask hask hnow =>
    have hcalm := Fetch.Hop.isCalm_of_ask hstops h.runs.calm hask
    refine h.die htask (by rintro ⟨⟩) hcalm hnow (.inl rfl) fun item hitem => ?_
    have hcrashed := Fetch.Hop.follow_of_crashed hask
    have hagrees : (hop.follow due w₀).1 = (hop.follow due s.world).1 :=
      (Fetch.Turn.next hop).finish_agrees hfixed hstops hcalm₀ h.runs.calm
    exact (h.runs.onCourse place item _ hitem htask).symm.trans (hagrees.trans (by rw [hcrashed]))
  | dies htask halive =>
    exact h.die htask (fun hreported => halive (.inl hreported)) h.runs.calm rfl (.inr rfl)
      fun _ _ => trivial

theorem isSound_of_reaches (d : Downloader) (h : Reaches maxBytes items (start d items w₀) s) :
    s.IsSound maxBytes d.permits items w₀ := by
  induction h with
  | refl => exact isSound_start d items hw₀
  | tail _ hstep ih => exact ih.step hfixed hstops hw₀ hstep

omit hfixed hstops hw₀

/-! ### The way to the end -/

structure Advances (s s' : Pool τ) : Prop where
  less : s'.left < s.left
  killed : s'.killed = s.killed

theorem advances_set {v : World τ} {reports : List (ℕ × Except MediaError Payload)}
    (htask : s.tasks[place]? = some stage) (hless : stage'.left < stage.left)
    (halive : stage'.isKilled = false) :
    s.Advances ⟨v, s.tasks.set place stage', free, reports⟩ := by
  refine ⟨?_, funext fun i => ?_⟩
  · have hleft := total_set Stage.left htask stage'
    simp only [left]
    omega
  · have halive₀ : stage.isKilled = false := by
      cases stage <;> first | rfl | cases hless
    rw [killed, killed, getElem?_set_tasks htask]
    split_ifs with hi
    · subst hi
      rw [htask, Option.any_some, Option.any_some, halive, halive₀]
    · rfl

theorem advances_goOn {v : World τ} {turn : Fetch.Turn} (htask : s.tasks[place]? = some stage)
    (hpos : 0 < stage.left) (hless : ∀ hop, turn = .next hop → hop.left + 1 < stage.left) :
    s.Advances (goOn maxBytes item place due ⟨v, s.tasks, free, s.reports⟩ turn) := by
  cases turn with
  | ended r => exact advances_set htask hpos rfl
  | next hop => exact advances_set htask (hless hop rfl) rfl

theorem left_of_first {d : Web.Draft} {hop : Fetch.Hop} (h : Fetch.first d = .next hop) :
    hop.left = maxRedirects := by
  rw [Fetch.first] at h
  cases hprepare : d.prepare with
  | error e =>
    rw [hprepare] at h
    cases h
  | ok p =>
    rw [hprepare] at h
    cases h
    rfl

/-- A task that is queued can begin when a permit is free. -/
theorem exists_step_of_queued (htask : s.tasks[place]? = some .queued)
    (hitem : items[place]? = some item) (hfree : 0 < s.free) :
    ∃ s', Reaches maxBytes items s s' ∧ s.Advances s' := by
  refine ⟨_, .single (.begins htask hitem hfree), advances_goOn htask (Nat.succ_pos _) ?_⟩
  intro hop hfirst
  rw [left_of_first hfirst]
  exact Nat.lt_succ_self _

/-- Of the requests under way, there is one that is due first. -/
theorem exists_first_due (h : 0 < s.fetching) :
    ∃ due hop, Stage.fetching due hop ∈ s.tasks ∧
      ∀ due' hop', Stage.fetching due' hop' ∈ s.tasks → due ≤ due' := by
  classical
  obtain ⟨stage, hstage, hheld⟩ := (total_pos_iff Stage.held).1 h
  have hex : ∃ due, ∃ hop, Stage.fetching due hop ∈ s.tasks := by
    cases stage with
    | fetching due hop => exact ⟨due, hop, hstage⟩
    | _ => cases hheld
  obtain ⟨hop, hfirst⟩ := Nat.find_spec hex
  exact ⟨Nat.find hex, hop, hfirst, fun due' hop' h' => Nat.find_min' hex ⟨hop', h'⟩⟩

/-- The request that is due first can wait until then, and then goes on. -/
theorem IsSound.exists_step_of_fetching (h : s.IsSound maxBytes permits items w₀)
    (hstops : w₀.network.NeverStops) (hfetching : 0 < s.fetching) :
    ∃ s', Reaches maxBytes items s s' ∧ s.Advances s' := by
  obtain ⟨due, hop, hmem, hfirst⟩ := exists_first_due hfetching
  obtain ⟨place, htask⟩ := List.mem_iff_getElem?.1 hmem
  obtain ⟨item, hitem⟩ := h.runs.exists_item htask
  -- every other request is due later, so all of them can wait for this one
  let waited : Pool τ := { s with world := { s.world with now := due } }
  have hwait : Step maxBytes items s waited := .wait (h.runs.inTime due hop hmem) hfirst
  have hcalm : waited.world.IsCalm w₀.network := ⟨h.runs.calm.network, h.runs.calm.free⟩
  rcases hask : hop.ask due waited.world with ⟨o, w⟩
  have hnow := Fetch.Hop.now_of_ask hstops hcalm (Nat.le_refl due) hask
  rcases Fetch.Hop.ask_cases hstops hcalm hask with ⟨a, rfl⟩ | rfl
  · refine ⟨_, .tail (.single hwait) (.goesOn htask hitem hask hnow), ?_⟩
    refine advances_goOn htask (Nat.succ_pos _) fun hop' hturn => ?_
    exact Nat.succ_lt_succ (Fetch.Hop.left_of_turn hturn)
  · exact ⟨_, .tail (.single hwait) (.crashes htask hask hnow),
      advances_set htask (Nat.succ_pos _) rfl⟩

theorem IsSound.exists_step (h : s.IsSound maxBytes permits items w₀)
    (hstops : w₀.network.NeverStops) (hpermits : 0 < permits) (hover : ¬ s.IsOver) :
    ∃ s', Reaches maxBytes items s s' ∧ s.Advances s' := by
  by_cases hfetching : 0 < s.fetching
  · exact h.exists_step_of_fetching hstops hfetching
  · obtain ⟨stage, hmem, halive⟩ : ∃ stage ∈ s.tasks, ¬ stage.IsOver := by
      simpa only [IsOver, not_forall, exists_prop] using hover
    obtain ⟨place, htask⟩ := List.mem_iff_getElem?.1 hmem
    cases stage with
    | queued =>
      obtain ⟨item, hitem⟩ := h.runs.exists_item htask
      have hbalance := h.runs.permits
      exact exists_step_of_queued htask hitem (by omega)
    | fetching due hop =>
      exact absurd ((total_pos_iff Stage.held).2 ⟨_, hmem, Nat.one_pos⟩) hfetching
    | reported => exact absurd (.inl rfl) halive
    | crashed => exact absurd (.inr (.inl rfl)) halive
    | killed => exact absurd (.inr (.inr rfl)) halive

/-- However far the tasks have come, they can all come to an end, and none need be killed. -/
theorem exists_isOver (hfixed : w₀.network.IsFixed) (hstops : w₀.network.NeverStops)
    (hw₀ : w₀.IsFree) (d : Downloader) (h : Reaches maxBytes items (start d items w₀) s) :
    ∃ s', Reaches maxBytes items s s' ∧ s'.IsOver ∧ s'.killed = s.killed := by
  induction hleft : s.left using Nat.strongRecOn generalizing s with
  | _ n ih =>
    subst hleft
    by_cases hover : s.IsOver
    · exact ⟨s, .refl, hover, rfl⟩
    · have hsound := isSound_of_reaches hfixed hstops hw₀ d h
      have hpermits : 0 < d.permits := Nat.le_max_right d.concurrency 1
      obtain ⟨s₁, hs₁, hless, hkilled₁⟩ := hsound.exists_step hstops hpermits hover
      obtain ⟨s₂, hs₂, hover₂, hkilled₂⟩ := ih s₁.left hless (h.trans hs₁) rfl
      exact ⟨s₂, hs₁.trans hs₂, hover₂, hkilled₂.trans hkilled₁⟩

end Pool
end MediaRelay.Download
