import MediaRelay.Download
import MediaRelay.Proofs.Arrival
import MediaRelay.Proofs.Fetch
/-! What a download of many items reports: one result for each, in order, under its own number. Of
the world it changes what the web changes, and asks nothing of the messaging platform. -/

namespace MediaRelay

variable {τ : Type} {P : World τ → Prop}

open Web

structure World.Offline (P : World τ → Prop) : Prop where
  timeless : World.Timeless P
  requests : ∀ w requests late, P w → P { w with requests, late }
  jar : ∀ w jar, P w → P { w with client.jar := jar }
  stops : ∀ w q, P w → w.network.react w.requests q = .stops →
    P { w with requests := w.requests ++ [q], late := w.lateWith (.request q) }.fire

theorem World.offline_calls (calls : List CallRecord) :
    World.Offline fun w : World τ => w.calls = calls where
  timeless _ _ h := h
  requests _ _ _ h := h
  jar _ _ h := h
  stops _ _ h _ := h

theorem World.offline_timer (timer : Timer) :
    World.Offline fun w : World τ => w.timer = timer where
  timeless _ _ h := h
  requests _ _ _ h := h
  jar _ _ h := h
  stops _ _ h _ := h

namespace Fetch

/-- An exchange gives its faults as values. -/
theorem exchange_calm (hP : World.Offline P) (due : Nanos) (shown : String) (url : Url)
    (q : Request) {w : World τ} (h : P w) :
    P (exchange due shown url q w).2 ∧ ∀ e, (exchange due shown url q w).1 ≠ .failed e := by
  have hreq := hP.requests w (w.requests ++ [q]) (w.lateWith (.request q)) h
  unfold exchange
  dsimp only
  split
  · exact ⟨hP.jar _ _ hreq, by simp⟩
  · exact ⟨hreq, by simp⟩
  · have hslept := hP.timeless.sleep hreq (due - w.now)
    split
    · next hsleep => exact ⟨by rwa [hsleep] at hslept, by simp⟩
    · next hsleep => exact ⟨by rwa [hsleep] at hslept, by simp⟩
  · next hstops => exact ⟨hP.stops w q h hstops, by simp⟩
  · exact ⟨hreq, by simp⟩

theorem Chain.calm (hP : World.Offline P) {w w' : World τ} {o : Outcome (Except HttpError Reply)}
    (h : Chain w o w') (hw : P w) : P w' ∧ ∀ e, o ≠ .failed e := by
  induction h with
  | @last w w' due shown url q o h r =>
    obtain ⟨hw', hfailed⟩ := exchange_calm hP due shown url q hw
    rw [h] at hw' hfailed
    refine ⟨hw', fun e he => ?_⟩
    cases o with
    | failed e => exact hfailed e rfl
    | _ => cases he
  | @redirected w w₁ w' due shown url q a o h rest ih =>
    obtain ⟨hw₁, -⟩ := exchange_calm hP due shown url q hw
    rw [h] at hw₁
    exact ih hw₁

theorem send_calm (hP : World.Offline P) (d : Draft) {w : World τ} (h : P w) :
    P (send d w).2 ∧ ∀ e, (send d w).1 ≠ .failed e := by
  rcases hsend : send d w with ⟨o, w'⟩
  rcases send_cases hsend with ⟨e, rfl, rfl⟩ | hchain
  · exact ⟨h, by simp⟩
  · exact hchain.calm hP h

end Fetch

namespace Download

def NamesOnly (index : ℕ) (outcome : Except MediaError Payload) : Prop :=
  ∀ i reason, outcome = .error (.downloadFailed i reason) → i = index

theorem namesOnly_of_itemIndex? {index : ℕ} {e : MediaError} (h : e.itemIndex? = none) :
    NamesOnly index (.error e) := by
  rintro i reason ⟨⟩
  cases h

theorem itemIndex?_payloadOf {maxBytes : ℕ} {item : Item} {r : Reply} {e : MediaError}
    (h : payloadOf maxBytes item r = .error e) : e.itemIndex? = none := by
  unfold payloadOf at h
  split_ifs at h
  · cases h
    rfl
  · split at h
    · next fault _ =>
      cases h
      cases fault <;> rfl
    · cases h

/-- The failure of a fetch names no item. -/
theorem fetch_calm (hP : World.Offline P) (maxBytes : ℕ) (item : Item) {w : World τ} (h : P w) :
    P (Job.watch (fetch maxBytes item) w).2 ∧
      ∀ e, (Job.watch (fetch maxBytes item) w).1 = .failed e → e.itemIndex? = none := by
  rw [Job.watch]
  split_ifs
  · exact ⟨h, by rintro e ⟨⟩; rfl⟩
  obtain ⟨hw₁, hf⟩ := Fetch.send_calm hP { url := item.url } h
  rcases hsend : Fetch.send { url := item.url } w with ⟨o, w₁⟩
  simp only [hsend] at hw₁ hf
  simp only [fetch, Fetch.sendOr, Job.bind, hsend]
  cases o with
  | failed e => exact absurd rfl (hf e)
  | waiting => exact ⟨hw₁, by rintro e ⟨⟩; rfl⟩
  | crashed => exact ⟨hw₁, by simp⟩
  | done r =>
    cases r with
    | error e => exact ⟨hw₁, by rintro e ⟨⟩; rfl⟩
    | ok r =>
      dsimp only [Except.mapError, Job.ofExcept, Job.pure]
      cases hp : payloadOf maxBytes item r with
      | error e =>
        refine ⟨hw₁, ?_⟩
        rintro e ⟨⟩
        exact itemIndex?_payloadOf hp
      | ok p => exact ⟨hw₁, by simp [Job.pure]⟩

theorem namesOnly_settle {index : ℕ} {o : Outcome Payload}
    (h : ∀ e, o = .failed e → e.itemIndex? = none) :
    NamesOnly index (settle index o) := by
  cases o with
  | done p => rintro i reason ⟨⟩
  | failed e => exact namesOnly_of_itemIndex? (h e rfl)
  | waiting => exact namesOnly_of_itemIndex? rfl
  | crashed =>
    rintro i reason ⟨⟩
    rfl

theorem takeEarliest_perm (t : Nanos) (us : List Nanos) :
    ((takeEarliest t us).1 :: (takeEarliest t us).2).Perm (t :: us) := by
  induction us generalizing t with
  | nil => exact .refl _
  | cons u us ih =>
    rw [takeEarliest]
    split_ifs
    · exact (List.Perm.swap _ _ _).trans (((ih u).cons t))
    · exact (List.Perm.swap _ _ _).trans (((ih t).cons u).trans (.swap _ _ _))

/-- All items are fetched, one end for each, and where an end names an item it is its own. -/
theorem fetchAll_calm (hP : World.Offline P) (maxBytes index : ℕ) (free : Nanos)
    (others : List Nanos) (items : List Item) {w : World τ} (h : P w) :
    P (fetchAll maxBytes index free others items w).2 ∧
      (fetchAll maxBytes index free others items w).1.length = items.length ∧
      ∀ p ∈ (fetchAll maxBytes index free others items w).1.zipIdx index,
        NamesOnly p.2 p.1.outcome := by
  induction items generalizing index free others w with
  | nil => exact ⟨h, rfl, by simp [fetchAll]⟩
  | cons item items ih =>
    rcases hearliest : takeEarliest free others with ⟨start, others'⟩
    obtain ⟨hw₁, hf⟩ := fetch_calm hP maxBytes item (hP.timeless w start h)
    rcases hfetch : Job.watch (fetch maxBytes item) { w with now := start } with ⟨o, w₁⟩
    simp only [hfetch] at hw₁ hf
    simp only [fetchAll, hearliest, hfetch]
    obtain ⟨hw₂, hlen, hnames⟩ := ih (index + 1) w₁.now others' hw₁
    refine ⟨hw₂, by simp [hlen], ?_⟩
    rw [List.zipIdx_cons, List.forall_mem_cons]
    exact ⟨namesOnly_settle hf, hnames⟩

theorem namesOnly_cutOff {index : ℕ} {firedAt : Option Nanos} {e : Ended}
    (h : NamesOnly index e.outcome) :
    NamesOnly index (cutOff firedAt e).outcome := by
  unfold cutOff
  split
  · split_ifs
    · exact namesOnly_of_itemIndex? rfl
    · exact h
  · exact h

end Download

/-- Items are downloaded with one result for each, in order and under its number. -/
theorem Downloader.downloadAll_results (hP : World.Offline P) (d : Downloader) (items : List Item)
    {w : World τ} (h : P w) :
    ∃ results w', d.downloadAll items w = (.done results, w') ∧ P w' ∧
      results.map (·.index) = List.range' 1 items.length ∧ results.map (·.item) = items ∧
      ∀ r ∈ results, Download.NamesOnly r.index r.outcome := by
  obtain ⟨hw', hlen, hnames⟩ := Download.fetchAll_calm hP d.maxBytes 1 w.now
    (List.replicate (min d.permits items.length - 1) w.now) items h
  rcases hall : Download.fetchAll d.maxBytes 1 w.now
      (List.replicate (min d.permits items.length - 1) w.now) items w with
    ⟨ends, w'⟩
  simp only [hall] at hw' hlen hnames
  simp only [downloadAll, hall, Arrival.inPlace_collect]
  refine ⟨_, _, rfl, hP.timeless w' _ hw', ?_, ?_, ?_⟩
  · refine List.ext_getElem (by simp [hlen]) fun i _ _ => ?_
    simp [Nat.add_comm]
  · refine List.ext_getElem (by simp [hlen]) fun i _ _ => ?_
    simp
  · intro r hr
    obtain ⟨⟨⟨item, e⟩, place⟩, hmem, rfl⟩ := List.mem_map.1 hr
    have hend := (List.getElem?_zip_eq_some.1 (List.mk_mem_zipIdx_iff_getElem?.1 hmem)).2
    rw [List.getElem?_map] at hend
    obtain ⟨e, he, rfl⟩ := Option.map_eq_some_iff.1 hend
    have hmem : (e, place + 1) ∈ ends.zipIdx 1 := by
      rw [Nat.add_comm]
      exact List.mk_add_mem_zipIdx_iff_getElem?.2 he
    exact Download.namesOnly_cutOff (hnames _ hmem)

end MediaRelay
