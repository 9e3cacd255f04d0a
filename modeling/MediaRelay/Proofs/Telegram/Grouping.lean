import MediaRelay.Proofs.Telegram.Delivery
/-! Groups of attachments on the wire. A send makes one call for each group, in their order, as long
as none is refused; what a call is follows from how many there are in its group. -/

namespace MediaRelay.Telegram

inductive SendsGroup (chat : ℤ) : List Attachment → ApiCall → Prop
  | single (a : Attachment) : SendsGroup chat [a] ⟨chat, .file a.kind (.stored a.id)⟩
  | album {group : List Attachment} (several : 2 ≤ group.length) :
      SendsGroup chat group ⟨chat, .mediaGroup group⟩

theorem sendsGroup_albumCall (chat : ℤ) {group : List Attachment} (h : group ≠ []) :
    SendsGroup chat group (Session.albumCall chat group) := by
  match group, h with
  | [a], _ => exact .single a
  | a :: b :: rest, _ => exact .album (Nat.le_add_left 2 _)

structure IsSentInGroups (chat : ℤ) (groups : List (List Attachment)) (made : List ApiRecord)
    (answer : Answer Unit) : Prop where
  accepted_iff : (∀ r ∈ made, r.isAccepted = true) ↔ answer = .accepted () false
  perGroup : (∀ r ∈ made, r.isAccepted = true) →
    List.Forall₂ (fun group r => SendsGroup chat group r.call) groups made

theorem Session.isSentInGroups_postAll {σ : Type} [BotApi σ] (chat : ℤ)
    {groups : List (List Attachment)} (hne : ∀ group ∈ groups, group ≠ []) (s : Session σ) :
    ∃ made, (s.postAll (groups.map (albumCall chat))).2.calls = s.calls ++ made ∧
      IsSentInGroups chat groups made
        (answerOf ((s.postAll (groups.map (albumCall chat))).1.mapError .telegram)) := by
  rcases postAll_cases (groups.map (albumCall chat)) s with
    ⟨hok, hcalls⟩ | ⟨e, before, call, after, herror, -, hcalls⟩
  · refine ⟨_, hcalls, ⟨iff_of_true (by simp) (by rw [hok]; rfl), fun _ => ?_⟩⟩
    rw [List.map_map, List.forall₂_map_right_iff, List.forall₂_same]
    exact fun group hgroup => sendsGroup_albumCall chat (hne group hgroup)
  · have hrefused :
        ¬ ∀ r ∈ before.map (⟨·, true⟩) ++ [(⟨call, false⟩ : ApiRecord)], r.isAccepted = true := by
      simp
    refine ⟨_, hcalls, ⟨iff_of_false hrefused ?_, fun h => absurd h hrefused⟩⟩
    rw [herror]
    exact fun h => by cases h

/-- Attachments go out in the one grouping in which nothing is lost and nothing is mixed, with one
call for each group if the API refuses none. -/
theorem sendAttachments_inGroups (attachments : List Attachment) :
    (∀ groups, IsGrouped attachments groups ↔ groups = albums attachments) ∧
      ∀ {σ : Type} [BotApi σ] (chat : ℤ) (s : Session σ),
        let sending := Transport.sendAttachments chat attachments s
        ∃ made, sending.2.calls = s.calls ++ made ∧
          IsSentInGroups chat (albums attachments) made sending.1 :=
  ⟨fun _ => ⟨IsGrouped.eq_albums, fun h => h ▸ isGrouped_albums attachments⟩,
    fun chat s => s.isSentInGroups_postAll chat fun _ => ne_nil_of_mem_albums⟩

end MediaRelay.Telegram
