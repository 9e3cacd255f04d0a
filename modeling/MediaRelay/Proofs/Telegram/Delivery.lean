import MediaRelay.Proofs.Outbox.Report
import MediaRelay.Proofs.Telegram.Album
import MediaRelay.Telegram.Session
/-! Attachments on their way to a thread. One send takes several calls of the API, and when one of
them is refused the next try makes all of them again, so the calls that were accepted before it are
made twice, or remain where the send fails in the end. Nothing else is repeated and nothing else
remains. -/

namespace MediaRelay.Telegram

open CallRecord (sent?)

def ApiCall.attachments (call : ApiCall) : List Attachment :=
  match call.content with
  | .file kind (.stored id) => [⟨id, kind⟩]
  | .mediaGroup media => media
  | _ => []

def carriers (thread : Thread) (records : List ApiRecord) : List ApiRecord :=
  records.filter fun r => r.call.chat == thread && !r.call.attachments.isEmpty

def delivered (thread : Thread) (records : List ApiRecord) : List Attachment :=
  ((carriers thread records).filter (·.isAccepted)).flatMap (·.call.attachments)

/-- What is accepted is not followed by what is refused. -/
def RefusedFirst (records : List ApiRecord) : Prop :=
  records.Pairwise fun r r' => r.isAccepted = true → r'.isAccepted = true

/-- All attachments of a send have come to the thread, each as often as it was sent; or none where
the send failed. -/
def DeliversOnce (thread : Thread) (new : List CallRecord) (records : List ApiRecord) :
    Outcome SendReport → Prop
  | .done report => ∃ attachments, new.filterMap (sent? .accepted) = [(thread, attachments)] ∧
      attachments.length = report.sent ∧ (delivered thread records).Perm attachments
  | .failed _ => delivered thread records = []
  | _ => False

section

variable {thread : Thread} {attachments : List Attachment} {records records' : List ApiRecord}

theorem carriers_append :
    carriers thread (records ++ records') = carriers thread records ++ carriers thread records' :=
  List.filter_append _ _

theorem delivered_append :
    delivered thread (records ++ records') =
      delivered thread records ++ delivered thread records' := by
  rw [delivered, carriers_append, List.filter_append, List.flatMap_append]
  rfl

theorem attachments_albumCall (album : List Attachment) :
    (Session.albumCall thread album).attachments = album := by
  match album with
  | [] => rfl
  | [a] => rfl
  | a :: b :: album => rfl

theorem isCarrier_albumCall {album : List Attachment} (h : album ≠ []) (isAccepted : Bool) :
    carriers thread [⟨Session.albumCall thread album, isAccepted⟩] =
      [⟨Session.albumCall thread album, isAccepted⟩] := by
  have hchat : (Session.albumCall thread album).chat = thread := by
    unfold Session.albumCall
    split <;> rfl
  simp [carriers, hchat, attachments_albumCall, h]

def accepted (thread : Thread) (album : List Attachment) : ApiRecord :=
  ⟨Session.albumCall thread album, true⟩

def refused (thread : Thread) (album : List Attachment) : ApiRecord :=
  ⟨Session.albumCall thread album, false⟩

theorem carriers_accepted {some : List (List Attachment)} (h : ∀ album ∈ some, album ≠ []) :
    carriers thread (some.map (accepted thread)) = some.map (accepted thread) := by
  induction some with
  | nil => rfl
  | cons album some ih =>
    obtain ⟨halbum, hsome⟩ := List.forall_mem_cons.1 h
    rw [List.map_cons, ← List.singleton_append, carriers_append, ih hsome]
    exact congrArg (· ++ _) (isCarrier_albumCall halbum true)

theorem delivered_accepted {some : List (List Attachment)} (h : ∀ album ∈ some, album ≠ []) :
    delivered thread (some.map (accepted thread)) = some.flatten := by
  rw [delivered, carriers_accepted h, List.filter_eq_self.2 (by simp [accepted]), List.flatMap_map]
  simp only [accepted, attachments_albumCall]
  exact List.flatMap_id

theorem carriers_refused {album : List Attachment} (h : album ≠ []) :
    carriers thread [refused thread album] = [refused thread album] := isCarrier_albumCall h false

theorem delivered_refused {album : List Attachment} (h : album ≠ []) :
    delivered thread [refused thread album] = [] := by
  rw [delivered, carriers_refused h]
  rfl

end

/-- The calls that the tries of a send come to: as often as an album is refused, those before it
were accepted, and all are made anew; until all are accepted, or no try is left. -/
inductive Trail (thread : Thread) (attachments : List Attachment) : Bool → List ApiRecord → Prop
  | sent : Trail thread attachments true ((albums attachments).map (accepted thread))
  | gaveUp : Trail thread attachments false []
  | again {isSent : Bool} {before after : List (List Attachment)} {album : List Attachment}
      {records : List ApiRecord}
      (h : albums attachments = before ++ album :: after)
      (rest : Trail thread attachments isSent records) :
      Trail thread attachments isSent
        (before.map (accepted thread) ++ refused thread album :: records)

section

variable {thread : Thread} {attachments : List Attachment} {isSent : Bool}
  {records : List ApiRecord}

theorem nonempty_of_albums {before after : List (List Attachment)} {album : List Attachment}
    (h : albums attachments = before ++ album :: after) : (∀ a ∈ before, a ≠ []) ∧ album ≠ [] := by
  have hmem : ∀ a ∈ before ++ album :: after, a ≠ [] := fun a ha =>
    ne_nil_of_mem_albums (by rwa [h])
  exact ⟨fun a ha => hmem a (List.mem_append_left _ ha), hmem album (by simp)⟩

theorem Trail.carriers_eq (h : Trail thread attachments isSent records) :
    carriers thread records = records := by
  induction h with
  | sent => exact carriers_accepted fun _ => ne_nil_of_mem_albums
  | gaveUp => rfl
  | @again _ before after album records h rest ih =>
    obtain ⟨hbefore, halbum⟩ := nonempty_of_albums h
    rw [← List.singleton_append, carriers_append, carriers_append, carriers_accepted hbefore,
      carriers_refused halbum, ih]

theorem Trail.delivered_again {before after : List (List Attachment)} {album : List Attachment}
    (h : albums attachments = before ++ album :: after) :
    delivered thread (before.map (accepted thread) ++ refused thread album :: records) =
      before.flatten ++ delivered thread records := by
  obtain ⟨hbefore, halbum⟩ := nonempty_of_albums h
  rw [← List.singleton_append, delivered_append, delivered_append, delivered_accepted hbefore,
    delivered_refused halbum, List.nil_append]

theorem delivered_albums :
    (delivered thread ((albums attachments).map (accepted thread))).Perm attachments := by
  rw [delivered_accepted fun _ => ne_nil_of_mem_albums]
  exact flatten_albums_perm attachments

theorem Trail.length_le (h : Trail thread attachments true records) :
    attachments.length ≤ (delivered thread records).length := by
  generalize hsent : true = isSent at h
  induction h with
  | sent => exact delivered_albums.length_eq.ge
  | gaveUp => cases hsent
  | again h _ ih =>
    rw [Trail.delivered_again h, List.length_append]
    exact (ih hsent).trans (Nat.le_add_left _ _)

theorem refusedFirst_again {before : List (List Attachment)} {album : List Attachment} :
    RefusedFirst (before.map (accepted thread) ++ refused thread album :: records) ↔
      before = [] ∧ RefusedFirst records := by
  rw [RefusedFirst, List.pairwise_append, List.pairwise_cons]
  constructor
  · rintro ⟨-, ⟨-, hrecords⟩, hacross⟩
    refine ⟨?_, hrecords⟩
    cases before with
    | nil => rfl
    | cons a before =>
      have : (refused thread album).isAccepted = true :=
        hacross (accepted thread a) (by simp) _ List.mem_cons_self rfl
      cases this
  · rintro ⟨rfl, hrecords⟩
    exact ⟨.nil, ⟨fun _ _ hfalse => (by cases hfalse), hrecords⟩, by simp⟩

/-- A trail delivers once, or nothing where it gave up, unless a send was cut off between two of its
calls. -/
theorem Trail.delivers_iff (h : Trail thread attachments isSent records) :
    (if isSent then (delivered thread records).Perm attachments
      else delivered thread records = []) ↔
      RefusedFirst records := by
  induction h with
  | sent =>
    refine iff_of_true delivered_albums (List.pairwise_map.2 ?_)
    exact List.pairwise_of_forall fun _ _ _ => rfl
  | gaveUp => exact iff_of_true rfl .nil
  | @again isSent before after album records h rest ih =>
    rw [Trail.delivered_again h, refusedFirst_again, ← ih]
    by_cases hbefore : before = []
    · simp [hbefore]
    have hflat : before.flatten ≠ [] := by
      obtain ⟨a, ha⟩ := List.exists_mem_of_ne_nil before hbefore
      exact fun hnil => (nonempty_of_albums h).1 a ha (List.flatten_eq_nil_iff.1 hnil a ha)
    refine iff_of_false ?_ fun hand => hbefore hand.1
    cases isSent with
    | false => simp [hflat]
    | true =>
      intro hperm
      -- what was sent before the cut is delivered on top of all attachments
      have hlen := hperm.length_eq
      rw [List.length_append] at hlen
      have hle := rest.length_le
      have hpos := List.length_pos_of_ne_nil hflat
      omega

end

/-! What the session records of a send. -/

namespace Session

variable {σ : Type}

theorem carriers_stagingCall (thread : Thread) (s : Session σ) (p : Payload) (isAccepted : Bool) :
    carriers thread [⟨s.stagingCall p, isAccepted⟩] = [] := by
  simp [carriers, stagingCall, ApiCall.attachments]

variable [BotApi σ]

theorem calls_post (s : Session σ) (call : ApiCall) :
    (s.post call).2.calls = s.calls ++ [⟨call, (s.post call).1.isOk⟩] := by
  rw [post]

/-- Calls are made in order, all of them or those up to the first that is refused. -/
theorem postAll_cases (calls : List ApiCall) (s : Session σ) :
    ((s.postAll calls).1 = .ok () ∧ (s.postAll calls).2.calls = s.calls ++ calls.map (⟨·, true⟩)) ∨
      ∃ e before call after, (s.postAll calls).1 = .error e ∧ calls = before ++ call :: after ∧
        (s.postAll calls).2.calls = s.calls ++ (before.map (⟨·, true⟩) ++ [⟨call, false⟩]) := by
  induction calls generalizing s with
  | nil => exact .inl ⟨rfl, (List.append_nil _).symm⟩
  | cons call calls ih =>
    have hcalls := s.calls_post call
    rcases hpost : s.post call with ⟨r, s₁⟩
    rw [hpost] at hcalls
    simp only [postAll, hpost]
    cases r with
    | error e => exact .inr ⟨e, [], call, calls, rfl, rfl, hcalls⟩
    | ok media =>
      rcases ih s₁ with ⟨hok, hc⟩ | ⟨e, before, refused, after, herr, rfl, hc⟩
      · exact .inl ⟨hok, by rw [hc, hcalls, List.append_assoc]; rfl⟩
      · exact .inr ⟨e, call :: before, refused, after, herr, rfl,
          by rw [hc, hcalls, List.append_assoc]; rfl⟩

/-- One try of a send makes the calls of all albums, or those up to the first that is refused. -/
theorem sendOnce_cases {thread : Thread} {attachments : List Attachment}
    {w w' : World (Session σ)} {o : Outcome Unit}
    (h : Outbox.sendOnce thread attachments w = (o, w')) (hs : w'.stopped = false) :
    (o = .done () ∧
      w'.messenger.calls = w.messenger.calls ++ (albums attachments).map (accepted thread)) ∨
      ∃ e before album after, o = .failed (.transport e) ∧
        albums attachments = before ++ album :: after ∧
        w'.messenger.calls = w.messenger.calls ++
          (before.map (accepted thread) ++ [refused thread album]) := by
  have hmessenger : w'.messenger = (w.messenger.sendAttachments thread attachments).2 := by
    have := Job.messenger_call (.send thread attachments)
      (Transport.sendAttachments (τ := Session σ) thread attachments) (fun () => none) w
    rwa [show Job.call _ _ _ w = _ from h] at this
  have hanswer : (Transport.sendAttachments thread attachments w.messenger).1 =
      answerOf ((w.messenger.sendAttachments thread attachments).1.mapError .telegram) := rfl
  rw [hmessenger]
  rcases postAll_cases ((albums attachments).map (albumCall thread)) w.messenger with
    ⟨hok, hc⟩ | ⟨e, before, call, after, herr, hsplit, hc⟩
  · rw [sendAttachments, hok] at hanswer
    rcases Job.call_cases h hs with ⟨⟨⟩, -, rfl, -⟩ | ⟨e, hno, -⟩ | ⟨hno, -⟩
    · exact .inl ⟨rfl, by rw [sendAttachments, hc, List.map_map]; rfl⟩
    · exact absurd (hanswer.symm.trans hno) (by simp [answerOf, Except.mapError])
    · exact absurd (hanswer.symm.trans hno) (by simp [answerOf, Except.mapError])
  · rw [sendAttachments, herr] at hanswer
    rcases Job.call_cases h hs with ⟨a, hno, -⟩ | ⟨e, -, rfl, -⟩ | ⟨hno, -⟩
    · exact absurd (hanswer.symm.trans hno) (by simp [answerOf, Except.mapError])
    · obtain ⟨before, rest, halbums, rfl, hrest⟩ := List.map_eq_append_iff.1 hsplit
      obtain ⟨album, after, rfl, rfl, -⟩ := List.map_eq_cons_iff.1 hrest
      exact .inr ⟨e, before, album, after, rfl, halbums,
        by rw [sendAttachments, hc, List.map_map]; rfl⟩
    · exact absurd (hanswer.symm.trans hno) (by simp [answerOf, Except.mapError])

/-- The tries of a send leave a trail. -/
theorem trail_of_tries {thread : Thread} {attachments : List Attachment} {n : ℕ}
    {w w' : World (Session σ)} {o : Outcome Unit}
    (h : Job.Tries (Outbox.sendOnce thread attachments) n w o w') (hs : w'.stopped = false) :
    ∃ records, w'.messenger.calls = w.messenger.calls ++ records ∧
      (o = .done () ∧ Trail thread attachments true records ∨
        ∃ e, o = .failed (.transport e) ∧ Trail thread attachments false records) := by
  induction h with
  | last h _ =>
    rcases sendOnce_cases h hs with ⟨rfl, hc⟩ | ⟨e, before, album, after, rfl, halbums, hc⟩
    · exact ⟨_, hc, .inl ⟨rfl, .sent⟩⟩
    · exact ⟨_, hc, .inr ⟨e, rfl, .again halbums .gaveUp⟩⟩
  | again h hs₁ _ _ ih =>
    obtain ⟨records, hrecords, hend⟩ := ih hs
    rcases sendOnce_cases h hs₁ with ⟨ho, -⟩ | ⟨-, before, album, after, -, halbums, hc⟩
    · cases ho
    rw [hc, List.append_assoc, List.append_assoc, List.singleton_append] at hrecords
    refine ⟨_, hrecords, ?_⟩
    rcases hend with ⟨rfl, htrail⟩ | ⟨e, rfl, htrail⟩
    · exact .inl ⟨rfl, .again halbums htrail⟩
    · exact .inr ⟨e, rfl, .again halbums htrail⟩

theorem calls_stage (p : Payload) (s : Session σ) :
    ∃ isAccepted, (s.stage p).2.calls = s.calls ++ [⟨s.stagingCall p, isAccepted⟩] := by
  have hcalls := s.calls_post (s.stagingCall p)
  rcases hpost : s.post (s.stagingCall p) with ⟨r, s₁⟩
  rw [hpost] at hcalls
  refine ⟨r.isOk, ?_⟩
  rw [← hcalls]
  simp only [stage, hpost]
  cases r with
  | error e => rfl
  | ok media =>
    dsimp only
    split <;> rfl

/-- The API does not fire the token, and sending takes no time. -/
theorem stopped_sendIndexed (o : Outbox) (thread : Thread) (payloads : List (ℕ × Payload))
    {w : World (Session σ)} (hw : w.IsFree) :
    (o.sendIndexed thread payloads w).2.stopped = false := by
  have hfires : ∀ {α : Type} (r : Except TransportError α), (answerOf r).fires = false := by
    intro α r
    cases r <;> rfl
  have hO : Outbox.Outgoing (World.IsFree (τ := Session σ)) thread :=
    ⟨fun _ _ h => h, fun _ => Job.preserves_call (fun _ _ _ h => h) _ (fun _ => hfires _) _,
      fun _ => Job.preserves_call (fun _ _ _ h => h) _ (fun _ => hfires _) _⟩
  exact (hO.sendIndexed o payloads w hw).stopped

/-- Uploads are staged, which brings nothing to a thread. -/
theorem staged_of_uploadAll (thread : Thread) (retries : ℕ) (us : List Outbox.Upload)
    (w : World (Session σ)) :
    ∃ records,
      (Outbox.uploadAll thread retries us w).2.messenger.calls = w.messenger.calls ++ records ∧
      carriers thread records = [] := by
  let P : World (Session σ) → Prop := fun w' =>
    ∃ records, w'.messenger.calls = w.messenger.calls ++ records ∧ carriers thread records = []
  have hup : ∀ p, (Outbox.uploadOnce (τ := Session σ) thread p).Preserves P := by
    rintro p w₁ ⟨records, hc, hnone⟩
    have hmessenger :=
      Job.messenger_call (.upload thread p) (Transport.upload (τ := Session σ) thread p) some w₁
    obtain ⟨isAccepted, hstage⟩ := calls_stage p w₁.messenger
    refine ⟨records ++ [⟨w₁.messenger.stagingCall p, isAccepted⟩], ?_, ?_⟩
    · rw [← List.append_assoc, ← hc, ← hstage]
      exact congrArg Session.calls hmessenger
    · rw [carriers_append, hnone, carriers_stagingCall]
      rfl
  exact Outbox.preserves_uploadAll hup retries us ⟨[], (List.append_nil _).symm, rfl⟩

end Session

/-- Several payloads that are sent over Telegram are delivered once, or not at all where the send
fails, if and only if the API refuses no call that brings some to the thread after it has accepted
another. -/
theorem deliversOnce_iff_refusedFirst {σ : Type} [BotApi σ] (o : Outbox) (thread : Thread)
    (payloads : List (ℕ × Payload)) (several : 2 ≤ payloads.length) (w : World (Session σ))
    (hs : (o.sendIndexed thread payloads w).2.stopped = false) :
    ∃ new records, (o.sendIndexed thread payloads w).2.calls = w.calls ++ new ∧
      (o.sendIndexed thread payloads w).2.messenger.calls = w.messenger.calls ++ records ∧
      o.IsSent thread payloads new (o.sendIndexed thread payloads w).1 ∧
      (DeliversOnce thread new records (o.sendIndexed thread payloads w).1 ↔
        RefusedFirst (carriers thread records)) := by
  rcases hrun : o.sendIndexed thread payloads w with ⟨outcome, w'⟩
  rw [hrun] at hs
  have hne : payloads ≠ [] := List.ne_nil_of_length_pos (by omega)
  obtain ⟨new, hnew, hsent⟩ := Outbox.sendIndexed_isSent hne hrun hs
  have htogether : o.sendTogether thread payloads w = (outcome, w') := by
    rw [← Outbox.sendIndexed_of_several several, hrun]
  obtain ⟨us, w₁, earlier, logs, hup, hadv, -, hend⟩ := Outbox.sendTogether_cases htogether hs
  obtain ⟨staged, hstaged, hnone⟩ :=
    Session.staged_of_uploadAll thread o.backoff.retries (o.uploadsOf payloads) w
  rw [hup] at hstaged
  rcases hend with ⟨-, rfl, rfl⟩ | ⟨-, sent, htries, rfl⟩
  · refine ⟨new, staged, hnew, hstaged, hsent, ?_⟩
    rw [hnone]
    exact iff_of_true (by rw [DeliversOnce, delivered, hnone]; rfl) .nil
  obtain ⟨records, hrecords, htrail⟩ := Session.trail_of_tries htries hs
  rw [hstaged, List.append_assoc] at hrecords
  refine ⟨new, staged ++ records, hnew, hrecords, hsent, ?_⟩
  have hdelivered : delivered thread (staged ++ records) = delivered thread records := by
    rw [delivered_append, delivered, hnone]
    rfl
  rcases htrail with ⟨rfl, htrail⟩ | ⟨e, rfl, htrail⟩
  · obtain ⟨later, hlater, -, hout⟩ := Outbox.sends_of_tries htries hs
    rw [hadv.calls, hnew, List.append_assoc] at hlater
    have hsends : new.filterMap (sent? .accepted) =
        [(thread, us.filterMap Outbox.Upload.attachment?)] := by
      rw [List.append_cancel_left hlater, List.filterMap_append,
        CallRecord.filterMap_sent?_of_isUpload hadv.uploads, List.nil_append]
      rcases hout with ⟨-, haccepted⟩ | ⟨e, ho, -⟩ | ⟨ho, -⟩
      · exact haccepted
      · cases ho
      · cases ho
    rw [carriers_append, hnone, List.nil_append, htrail.carriers_eq, ← htrail.delivers_iff]
    simp [DeliversOnce, Outcome.map, hsends, hdelivered]
  · rw [carriers_append, hnone, List.nil_append, htrail.carriers_eq, ← htrail.delivers_iff]
    simp [DeliversOnce, Outcome.map, hdelivered]

/-! A send that is cut off. -/

structure Fussy where
  refusals : ℕ

instance : BotApi Fussy where
  getMe s := (.ok 1, s)
  send call s :=
    match call.content, s.refusals with
    | .file .document (.stored _), n + 1 => (.error (.refused "Bad Request"), ⟨n⟩)
    | .file .photo _, _ => (.ok (.photo ["p"]), s)
    | .file .document _, _ => (.ok (.document "d"), s)
    | _, _ => (.ok .none, s)

namespace Fussy

def outbox : Outbox := { attempts := 2, maxUpload := 100 }

def world : World (Session Fussy) :=
  { network := ⟨fun _ _ => .dropped⟩, client := { timeout := 1000 }
    messenger := { api := ⟨1⟩, selfId := 1, cacheChat := -1 } }

def picture : Payload := ⟨⟨#[65]⟩, "image/png"⟩

def animation : Payload := ⟨⟨#[71]⟩, "image/gif"⟩

theorem deliversOnce_iff_refusedFirst_world :
    let run := outbox.sendIndexed 42 [(1, picture), (2, animation)] world
    2 ≤ [(1, picture), (2, animation)].length ∧ run.2.stopped = false ∧
      ∃ new records, run.2.calls = world.calls ++ new ∧
        run.2.messenger.calls = world.messenger.calls ++ records ∧
        outbox.IsSent 42 [(1, picture), (2, animation)] new run.1 ∧
        (DeliversOnce 42 new records run.1 ↔ RefusedFirst (carriers 42 records)) :=
  have hs :=
    Session.stopped_sendIndexed outbox 42 [(1, picture), (2, animation)] (w := world) ⟨rfl, rfl⟩
  ⟨le_refl 2, hs, deliversOnce_iff_refusedFirst outbox 42 _ (le_refl 2) world hs⟩

def stored : List Attachment := [⟨"p", .photo⟩, ⟨"d", .document⟩]

theorem albums_stored : albums stored = [[⟨"p", .photo⟩], [⟨"d", .document⟩]] := by
  simp [albums, stored, isDocument, inPieces]

def staged : World (Session Fussy) :=
  { world with
    messenger :=
      { world.messenger with
        calls :=
          [⟨world.messenger.stagingCall picture, true⟩,
            ⟨world.messenger.stagingCall animation, true⟩] }
    calls :=
      [⟨.upload 42 picture, .accepted, false, some ⟨"p", .photo⟩⟩,
        ⟨.upload 42 animation, .accepted, false, some ⟨"d", .document⟩⟩] }

def uploads : List Outbox.Upload :=
  [⟨1, picture, some (.ok ⟨"p", .photo⟩), false⟩,
    ⟨2, animation, some (.ok ⟨"d", .document⟩), false⟩]

theorem uploadAll_world :
    Outbox.uploadAll 42 1 (outbox.uploadsOf [(1, picture), (2, animation)]) world =
      (uploads, staged) := by
  have hpicture : outbox.oversized? picture = none := by decide +kernel
  have hanimation : outbox.oversized? animation = none := by decide +kernel
  have hphoto : AttachmentKind.ofMime picture.mime = .photo := by decide +kernel
  have hdocument : AttachmentKind.ofMime animation.mime = .document := by decide +kernel
  simp [Outbox.uploadAll, Outbox.uploadsOf, hpicture, hanimation, Outbox.tryUploads,
    Outbox.tryUpload, Outbox.Upload.settled, Outbox.Upload.settle, Outbox.uploadOnce, Job.call,
    Transport.upload, Session.stage, Session.post, BotApi.send, Session.stagingCall, hphoto,
    hdocument, SentMedia.idAs?, Session.answerOf, Answer.verdict, Answer.fires, Answer.value?,
    Except.isOk, Except.toBool, World.stopped, World.lateWith, world, staged, uploads]

theorem sendOnce_refused {w : World (Session Fussy)} {n : ℕ} (h : w.messenger.api = ⟨n + 1⟩) :
    Outbox.sendOnce 42 stored w = (.failed (.transport (.telegram (.refused "Bad Request"))),
      w.answered { w.messenger with
        api := ⟨n⟩
        calls := w.messenger.calls ++ [accepted 42 [⟨"p", .photo⟩], refused 42 [⟨"d", .document⟩]] }
        ⟨.send 42 stored, .refused, false, none⟩) := by
  simp [Outbox.sendOnce, Job.call, Transport.sendAttachments, Session.sendAttachments,
    albums_stored, Session.postAll, Session.post, Session.albumCall, BotApi.send, h,
    Session.answerOf, Except.mapError, Answer.fires, Answer.verdict, Answer.value?, Except.isOk,
    Except.toBool, World.answered, accepted, refused]

theorem sendOnce_accepted {w : World (Session Fussy)} (h : w.messenger.api = ⟨0⟩) :
    Outbox.sendOnce 42 stored w = (.done (),
      w.answered { w.messenger with
        calls := w.messenger.calls ++
          [accepted 42 [⟨"p", .photo⟩], accepted 42 [⟨"d", .document⟩]] }
        ⟨.send 42 stored, .accepted, false, none⟩) := by
  simp [Outbox.sendOnce, Job.call, Transport.sendAttachments, Session.sendAttachments,
    albums_stored, Session.postAll, Session.post, Session.albumCall, BotApi.send, h,
    Session.answerOf, Except.mapError, Answer.fires, Answer.verdict, Answer.value?, Except.isOk,
    Except.toBool, World.answered, accepted]

/-- The document is refused once, and the picture before it is delivered twice. -/
theorem sendIndexed_world :
    ∃ w', outbox.sendIndexed 42 [(1, picture), (2, animation)] world = (.done { sent := 2 }, w') ∧
    delivered 42 w'.messenger.calls = [⟨"p", .photo⟩, ⟨"p", .photo⟩, ⟨"d", .document⟩] := by
  obtain ⟨w', htries, hcalls⟩ : ∃ w', Job.Tries (Outbox.sendOnce 42 stored) 1 staged (.done ()) w' ∧
      w'.messenger.calls = staged.messenger.calls ++
        [accepted 42 [⟨"p", .photo⟩], refused 42 [⟨"d", .document⟩], accepted 42 [⟨"p", .photo⟩],
          accepted 42 [⟨"d", .document⟩]] :=
    ⟨_, .again (sendOnce_refused (n := 0) rfl) rfl rfl (.last (sendOnce_accepted rfl) (by simp)),
      by simp⟩
  have hsend : outbox.sendAttachments 42 stored staged = (.done (), w') :=
    Job.retry_of_tries rfl htries (by simp)
  refine ⟨w', ?_, by rw [hcalls]; rfl⟩
  have hretries : outbox.backoff.retries = 1 := rfl
  have hattachments : uploads.filterMap Outbox.Upload.attachment? = stored := rfl
  have hfailures : uploads.filterMap Outbox.Upload.failure? = [] := rfl
  simp only [Outbox.sendIndexed, Outbox.sendTogether, Outbox.sendUploaded, hretries,
    uploadAll_world, Arrival.inPlace_collect, hattachments, hfailures]
  change ((outbox.sendAttachments 42 stored).bind fun _ => Job.pure _) staged = _
  rw [Job.bind_pure, hsend, MediaError.sortByItem, List.mergeSort_nil]
  rfl

theorem not_deliversOnce_world :
    let run := outbox.sendIndexed 42 [(1, picture), (2, animation)] world
    run.2.stopped = false ∧ ∀ new records, run.2.calls = world.calls ++ new →
      run.2.messenger.calls = world.messenger.calls ++ records →
        ¬ DeliversOnce 42 new records run.1 := by
  obtain ⟨w', hrun, hdelivered⟩ := sendIndexed_world
  refine ⟨Session.stopped_sendIndexed _ _ _ ⟨rfl, rfl⟩, ?_⟩
  rw [hrun]
  rintro new records - hrecords ⟨attachments, -, hlength, hperm⟩
  obtain rfl : w'.messenger.calls = records := hrecords
  rw [hdelivered] at hperm
  have := hperm.length_eq.trans hlength
  simp at this

end Fussy

end MediaRelay.Telegram
