import Mathlib.Data.List.Forall2
import MediaRelay.Pipeline
import MediaRelay.Proofs.Download
import MediaRelay.Proofs.Outbox.Report
/-! The accounts of a delivery. Each item that was found meets one fate, in which it goes out under
an attachment of its own or fails under its own number, and how the delivery ends can be read off
the list of all fates. -/

namespace MediaRelay

open CallRecord (uploaded? sent?)
open Outbox (Fails)

inductive Fate where
  | sent (calls : List CallRecord) (a : Attachment)
  | lost (calls : List CallRecord) (e : MediaError)

namespace Fate

@[simp]
def attachment? : Fate → Option Attachment
  | .sent _ a => some a
  | .lost _ _ => none

@[simp]
def failure? : Fate → Option MediaError
  | .sent _ _ => none
  | .lost _ e => some e

@[simp]
def calls : Fate → List CallRecord
  | .sent calls _ => calls
  | .lost calls _ => calls

def reasonOf : MediaError → String
  | .downloadFailed _ reason => reason
  | e => e.message

/-- The fates that are open to an item after its download, with uploads that end so: it goes out
under the attachment that its upload has come to, or its upload has failed or its task has died, or
it was not downloaded and there was no upload. -/
inductive Befits
    (ends : Payload → List CallRecord → Option (Except MediaError Attachment) → Prop)
    (r : DownloadResult) : Fate → Prop
  | sent {p : Payload} {calls : List CallRecord} {a : Attachment} (h : r.outcome = .ok p)
      (upload : ends p calls (some (.ok a))) : Befits ends r (.sent calls a)
  | notUploaded {p : Payload} {calls : List CallRecord} {e : MediaError} (h : r.outcome = .ok p)
      (upload : ends p calls (some (.error e))) :
      Befits ends r (.lost calls (.uploadFailed r.index e.message))
  | aborted {p : Payload} {calls : List CallRecord} (h : r.outcome = .ok p)
      (upload : ends p calls none) :
      Befits ends r (.lost calls (.uploadFailed r.index "upload task aborted"))
  | notDownloaded {cause : MediaError} (h : r.outcome = .error cause) :
      Befits ends r (.lost [] (.downloadFailed r.index (reasonOf cause)))

def Ends (o : Outbox) (thread : Thread) (results : List DownloadResult) (new : List CallRecord) :
    Payload → List CallRecord → Option (Except MediaError Attachment) → Prop :=
  o.UploadEnds thread
    (Fails thread new ((results.filterMap DownloadResult.payload?).length = 1))

structure Covers (o : Outbox) (thread : Thread) (results : List DownloadResult)
    (new : List CallRecord) (fates : List Fate) : Prop where
  fits : List.Forall₂ (Befits (Ends o thread results new)) results fates
  uploads : (new.filter (·.isUpload)).Perm (fates.flatMap calls)

def handed? : DownloadResult × Fate → Option (Payload × Attachment)
  | (⟨_, _, .ok p⟩, .sent _ a) => some (p, a)
  | _ => none

/-- The accounts of a delivery in which something went out: once, with an attachment of every item
that is not listed as failed, each handed out for the payload that the item became. -/
structure Accounts (o : Outbox) (thread : Thread) (results : List DownloadResult)
    (new : List CallRecord) (fates : List Fate) (failures : List MediaError) : Prop
    extends Covers o thread results new fates where
  lost : fates.filterMap failure? = failures
  count : (fates.filterMap attachment?).length + failures.length = results.length
  increasing : (failures.filterMap MediaError.itemIndex?).Pairwise (· < ·)
  listed : ∀ r f, (r, f) ∈ results.zip fates →
    (r.index ∈ failures.filterMap MediaError.itemIndex? ↔ ∃ calls e, f = .lost calls e)
  handed : ((results.zip fates).filterMap handed?).Subperm (new.filterMap uploaded?)
  /-- of several, each that was uploaded goes out -/
  whole : 2 ≤ (results.filterMap DownloadResult.payload?).length →
    ((results.zip fates).filterMap handed?).Perm (new.filterMap uploaded?)
  once : new.filterMap (sent? .accepted) = [(thread, fates.filterMap attachment?)]

section

variable {ends : Payload → List CallRecord → Option (Except MediaError Attachment) → Prop}

theorem Befits.itemIndex? {r : DownloadResult} {calls : List CallRecord} {e : MediaError}
    (h : Befits ends r (.lost calls e)) : e.itemIndex? = some r.index := by
  cases h <;> rfl

/-- An upload of a payload gives the item a fate of its own. -/
theorem exists_befits {r : DownloadResult} {u : Outbox.Upload} {calls : List CallRecord}
    (h : r.outcome = .ok u.payload) (hindex : r.index = u.index)
    (hends : ends u.payload calls u.result) :
    ∃ f, Befits ends r f ∧ f.calls = calls ∧ f.attachment? = u.attachment? ∧
      f.failure? = u.failure? ∧ handed? (r, f) = u.handed? := by
  obtain ⟨index, item, outcome⟩ := r
  obtain rfl : outcome = .ok u.payload := h
  obtain rfl : index = u.index := hindex
  rcases u with ⟨index, p, result, isLost⟩
  cases result with
  | none => exact ⟨_, .aborted rfl hends, rfl, rfl, rfl, rfl⟩
  | some result =>
    cases result with
    | error e => exact ⟨_, .notUploaded rfl hends, rfl, rfl, rfl, rfl⟩
    | ok a => exact ⟨_, .sent rfl hends, rfl, rfl, rfl, rfl⟩

theorem failure?_of_error {r : DownloadResult} {cause : MediaError} (h : r.outcome = .error cause)
    (hn : Download.NamesOnly r.index r.outcome) :
    r.failure? = some (.downloadFailed r.index (reasonOf cause)) := by
  unfold DownloadResult.failure?
  cases cause with
  | downloadFailed index reason =>
    obtain rfl := hn index reason h
    rw [h]
    rfl
  | _ =>
    rw [h]
    rfl

/-- Downloads and the uploads of what came through come to one fate for each item. -/
theorem exists_fates {results : List DownloadResult} {us : List Outbox.Upload}
    {logs : List (List CallRecord)}
    (hnames : ∀ r ∈ results, Download.NamesOnly r.index r.outcome)
    (hus : us.map Outbox.Upload.numbered = results.filterMap DownloadResult.payload?)
    (hends : List.Forall₂ (fun u calls => ends u.payload calls u.result) us logs) :
    ∃ fates, List.Forall₂ (Befits ends) results fates ∧
      (results.filterMap DownloadResult.failure? ++ us.filterMap Outbox.Upload.failure?).Perm
        (fates.filterMap failure?) ∧
      fates.filterMap attachment? = us.filterMap Outbox.Upload.attachment? ∧
      (results.zip fates).filterMap handed? = us.filterMap Outbox.Upload.handed? ∧
      fates.flatMap calls = logs.flatten := by
  induction results generalizing us logs with
  | nil =>
    obtain rfl : us = [] := by simpa using hus
    cases hends
    exact ⟨[], .nil, by simp, rfl, rfl, rfl⟩
  | cons r results ih =>
    obtain ⟨hr, hrest⟩ := List.forall_mem_cons.1 hnames
    cases houtcome : r.outcome with
    | error cause =>
      have hpay : r.payload? = none := by rw [DownloadResult.payload?, houtcome]
      rw [List.filterMap_cons_none hpay] at hus
      obtain ⟨fates, hfits, hperm, hatt, hhand, hcalls⟩ := ih hrest hus hends
      refine ⟨.lost [] (.downloadFailed r.index (reasonOf cause)) :: fates,
        .cons (.notDownloaded houtcome) hfits, ?_, hatt, ?_, hcalls⟩
      · rw [List.filterMap_cons_some (failure?_of_error houtcome hr)]
        exact hperm.cons _
      · obtain ⟨index, item, outcome⟩ := r
        obtain rfl : outcome = .error cause := houtcome
        exact hhand
    | ok p =>
      have hpay : r.payload? = some (r.index, p) := by rw [DownloadResult.payload?, houtcome]
      have hfail : r.failure? = none := by rw [DownloadResult.failure?, houtcome]
      rw [List.filterMap_cons_some hpay] at hus
      obtain ⟨u, us, rfl, hu, hrestus⟩ := List.map_eq_cons_iff.1 hus
      obtain ⟨hindex, rfl⟩ := Prod.mk.inj hu
      obtain _ | ⟨hend, hrestends⟩ := hends
      obtain ⟨fates, hfits, hperm, hatt, hhand, hcalls⟩ := ih hrest hrestus hrestends
      obtain ⟨f, hf, hfcalls, hfatt, hffail, hfhand⟩ := exists_befits houtcome hindex.symm hend
      refine ⟨f :: fates, .cons hf hfits, ?_, ?_, ?_, ?_⟩
      · rw [List.filterMap_cons_none hfail, List.filterMap_cons, List.filterMap_cons, hffail]
        cases u.failure? with
        | none => exact hperm
        | some e => exact List.perm_middle.trans (hperm.cons _)
      · rw [List.filterMap_cons, List.filterMap_cons, hfatt, hatt]
      · rw [List.zip_cons_cons, List.filterMap_cons, List.filterMap_cons, hfhand, hhand]
      · rw [List.flatMap_cons, List.flatten_cons, hfcalls, hcalls]

end

section

variable {ends : Payload → List CallRecord → Option (Except MediaError Attachment) → Prop}
  {results : List DownloadResult} {fates : List Fate}

theorem count_of_fits (h : List.Forall₂ (Befits ends) results fates) :
    (fates.filterMap attachment?).length + (fates.filterMap failure?).length = results.length := by
  induction h with
  | nil => rfl
  | @cons r f _ _ _ _ ih => cases f <;> simp [List.filterMap_cons] <;> omega

def lostIndexes (results : List DownloadResult) (fates : List Fate) : List ℕ :=
  ((results.zip fates).filter (·.2.failure?.isSome)).map (·.1.index)

/-- Failures stand under the numbers of the items that were lost. -/
theorem map_itemIndex? (h : List.Forall₂ (Befits ends) results fates) :
    (fates.filterMap failure?).map MediaError.itemIndex? =
      (lostIndexes results fates).map some := by
  induction h with
  | nil => rfl
  | @cons r f _ _ hf _ ih =>
    cases f with
    | sent calls a => exact ih
    | lost calls e => exact congrArg₂ List.cons hf.itemIndex? ih

theorem filterMap_itemIndex? (h : List.Forall₂ (Befits ends) results fates) :
    (fates.filterMap failure?).filterMap MediaError.itemIndex? = lostIndexes results fates := by
  have := congrArg (List.filterMap id) (map_itemIndex? h)
  rwa [List.filterMap_map, List.filterMap_map, Function.id_comp, Function.id_comp,
    List.filterMap_some] at this

theorem map_index_zip (h : List.Forall₂ (Befits ends) results fates) :
    (results.zip fates).map (·.1.index) = results.map (·.index) := by
  conv_rhs => rw [← List.map_fst_zip h.length_eq.le, List.map_map]
  rfl

theorem pairwise_lostIndexes (h : List.Forall₂ (Befits ends) results fates)
    (hr : (results.map (·.index)).Pairwise (· < ·)) :
    (lostIndexes results fates).Pairwise (· < ·) := by
  rw [← map_index_zip h] at hr
  exact hr.sublist (List.filter_sublist.map _)

theorem mem_lostIndexes (h : List.Forall₂ (Befits ends) results fates)
    (hr : (results.map (·.index)).Pairwise (· < ·)) {r : DownloadResult} {f : Fate}
    (hrf : (r, f) ∈ results.zip fates) :
    r.index ∈ lostIndexes results fates ↔ ∃ calls e, f = .lost calls e := by
  rw [← map_index_zip h] at hr
  constructor
  · intro hmem
    obtain ⟨⟨r', f'⟩, hlost, hindex⟩ := List.mem_map.1 hmem
    obtain ⟨hrf', hsome⟩ := List.mem_filter.1 hlost
    have heq := List.inj_on_of_nodup_map (hr.imp ne_of_lt) hrf' hrf hindex
    obtain ⟨rfl, rfl⟩ := Prod.mk.inj heq
    cases f' with
    | sent calls a => simp at hsome
    | lost calls e => exact ⟨calls, e, rfl⟩
  · rintro ⟨calls, e, rfl⟩
    exact List.mem_map.2 ⟨_, List.mem_filter.2 ⟨hrf, rfl⟩, rfl⟩

/-- Failures that are sorted by the numbers of their items come in the order of the items. -/
theorem sortByItem_eq (h : List.Forall₂ (Befits ends) results fates)
    (hr : (results.map (·.index)).Pairwise (· < ·)) {failures : List MediaError}
    (hperm : failures.Perm (fates.filterMap failure?)) :
    MediaError.sortByItem failures = fates.filterMap failure? := by
  have hkeys : (fates.filterMap failure?).map (·.itemIndex?.getD Word.maxUnsigned) =
      lostIndexes results fates := by
    have := congrArg (List.map (·.getD Word.maxUnsigned)) (map_itemIndex? h)
    simpa only [List.map_map, Function.comp_def, Option.getD_some, List.map_id'] using this
  have hpair := pairwise_lostIndexes h hr
  rw [← hkeys, List.pairwise_map] at hpair
  exact Arrival.mergeSort_eq_of_perm hperm hpair

theorem map_itemIndex?_of_lost (h : List.Forall₂ (Befits ends) results fates)
    (hnone : fates.filterMap attachment? = []) :
    (fates.filterMap failure?).map MediaError.itemIndex? = results.map fun r => some r.index := by
  induction h with
  | nil => rfl
  | @cons r f _ _ hf _ ih =>
    cases f with
    | sent calls a => simp at hnone
    | lost calls e => exact congrArg₂ List.cons hf.itemIndex? (ih hnone)

end

section

variable {o : Outbox} {thread : Thread} {results : List DownloadResult} {new : List CallRecord}

/-- Every item has a fate when the uploads of what was downloaded have ended. -/
theorem exists_covers {us : List Outbox.Upload} {logs : List (List CallRecord)}
    (hnames : ∀ r ∈ results, Download.NamesOnly r.index r.outcome)
    (h : o.AreUploads thread (results.filterMap DownloadResult.payload?) new us logs) :
    ∃ fates, Covers o thread results new fates ∧
      (results.filterMap DownloadResult.failure? ++ us.filterMap Outbox.Upload.failure?).Perm
        (fates.filterMap failure?) ∧
      fates.filterMap attachment? = us.filterMap Outbox.Upload.attachment? ∧
      (results.zip fates).filterMap handed? = us.filterMap Outbox.Upload.handed? := by
  obtain ⟨fates, hfits, hperm, hatt, hhand, hcalls⟩ := exists_fates hnames h.numbered h.ends
  exact ⟨fates, ⟨hfits, by rw [hcalls]; exact h.calls⟩, hperm, hatt, hhand⟩

theorem accounts_of_covers {fates : List Fate} (h : Covers o thread results new fates)
    (hr : (results.map (·.index)).Pairwise (· < ·))
    (handed : ((results.zip fates).filterMap handed?).Subperm (new.filterMap uploaded?))
    (whole : 2 ≤ (results.filterMap DownloadResult.payload?).length →
      ((results.zip fates).filterMap handed?).Perm (new.filterMap uploaded?))
    (once : new.filterMap (sent? .accepted) = [(thread, fates.filterMap attachment?)]) :
    Accounts o thread results new fates (fates.filterMap failure?) where
  toCovers := h
  lost := rfl
  count := count_of_fits h.fits
  increasing := by
    rw [filterMap_itemIndex? h.fits]
    exact pairwise_lostIndexes h.fits hr
  listed r f hrf := by
    rw [filterMap_itemIndex? h.fits]
    exact mem_lostIndexes h.fits hr hrf
  handed := handed
  whole := whole
  once := once

end

end Fate

namespace Pipeline

variable {τ : Type}

inductive IsAccounted (p : Pipeline τ) (thread : Thread) (results : List DownloadResult)
    (new : List CallRecord) :
    Outcome Delivery → Prop
  | sent {fates : List Fate} (accounts : Fate.Accounts p.outbox thread results new fates []) :
      IsAccounted p thread results new (.done (.sent results.length))
  | partialSent {fates : List Fate} {failures : List MediaError}
      (accounts : Fate.Accounts p.outbox thread results new fates failures)
      (some : fates.filterMap Fate.attachment? ≠ [])
      (missing : failures ≠ []) :
      IsAccounted p thread results new
        (.done (.partialSent (fates.filterMap Fate.attachment?).length failures))
  | allDownloadsFailed {failures : List MediaError}
      (fits : List.Forall₂
        (fun r e => ∃ cause, r.outcome = .error cause ∧
          e = .downloadFailed r.index (Fate.reasonOf cause)) results failures)
      (quiet : new = []) : IsAccounted p thread results new (.failed (.allDownloadsFailed failures))
  | allUploadsFailed {fates : List Fate} {failures : List MediaError}
      (covers : Fate.Covers p.outbox thread results new fates)
      (none : fates.filterMap Fate.attachment? = [])
      (lost : fates.filterMap Fate.failure? = failures)
      (indexes : failures.map MediaError.itemIndex? = results.map fun r => some r.index)
      (came : ∃ r ∈ results, ∃ payload, r.outcome = .ok payload)
      (refused : 2 ≤ (results.filterMap DownloadResult.payload?).length →
        new.filterMap uploaded? = [])
      (sent : new.filterMap (sent? .accepted) = []) :
      IsAccounted p thread results new (.failed (.allUploadsFailed failures))
  | refused {fates : List Fate} {e : TransportError}
      (several : 2 ≤ (results.filterMap DownloadResult.payload?).length)
      (covers : Fate.Covers p.outbox thread results new fates)
      (sent : new.filterMap (sent? .accepted) = [])
      (refused : new.filterMap (sent? .refused) =
        List.replicate (max p.outbox.attempts 1) (thread, fates.filterMap Fate.attachment?)) :
      IsAccounted p thread results new (.failed (.transport e))
  | crashed {r : CallRecord} (mem : r ∈ new) (crashed : r.verdict = .crashed)
      (single : (results.filterMap DownloadResult.payload?).length = 1 ∨
        ∃ attachments, r.call = .send thread attachments)
      (sent : new.filterMap (sent? .accepted) = []) : IsAccounted p thread results new .crashed

theorem forall₂_failures {results : List DownloadResult}
    (hnames : ∀ r ∈ results, Download.NamesOnly r.index r.outcome)
    (hnone : results.filterMap DownloadResult.payload? = []) :
    List.Forall₂
      (fun r e => ∃ cause, r.outcome = .error cause ∧
        e = .downloadFailed r.index (Fate.reasonOf cause))
      results (results.filterMap DownloadResult.failure?) := by
  induction results with
  | nil => exact .nil
  | cons r results ih =>
    obtain ⟨hr, hrest⟩ := List.forall_mem_cons.1 hnames
    cases ho : r.outcome with
    | ok p => simp [DownloadResult.payload?, ho] at hnone
    | error cause =>
      have hf := Fate.failure?_of_error ho hr
      have hp : r.payload? = none := by rw [DownloadResult.payload?, ho]
      rw [List.filterMap_cons_none hp] at hnone
      rw [List.filterMap_cons_some hf]
      exact .cons ⟨cause, ho, rfl⟩ (ih hrest hnone)

theorem exists_ok {results : List DownloadResult}
    (hne : results.filterMap DownloadResult.payload? ≠ []) :
    ∃ r ∈ results, ∃ payload, r.outcome = .ok payload := by
  obtain ⟨payload, hmem⟩ := List.exists_mem_of_ne_nil _ hne
  obtain ⟨r, hr, hp⟩ := List.mem_filterMap.1 hmem
  cases ho : r.outcome with
  | ok p => exact ⟨r, hr, p, ho⟩
  | error cause => simp [DownloadResult.payload?, ho] at hp

def finish (earlier : List MediaError) : Outcome SendReport → Outcome Delivery
  | .done report =>
    .done (.ofFailures report.sent (MediaError.sortByItem (earlier ++ report.failures)))
  | .failed e => .failed (withEarlier earlier e)
  | .waiting => .waiting
  | .crashed => .crashed

/-- The end of a send, as the end of the delivery. -/
theorem isAccounted_finish {p : Pipeline τ} {thread : Thread} {results : List DownloadResult}
    {new : List CallRecord} {o : Outcome SendReport}
    (hnames : ∀ r ∈ results, Download.NamesOnly r.index r.outcome)
    (hr : (results.map (·.index)).Pairwise (· < ·))
    (hne : results.filterMap DownloadResult.payload? ≠ [])
    (h : p.outbox.IsSent thread (results.filterMap DownloadResult.payload?) new o) :
    IsAccounted p thread results new (finish (results.filterMap DownloadResult.failure?) o) := by
  cases h with
  | @delivered us logs failures uploads failed some handed sent =>
    obtain ⟨fates, hcovers, hperm, hatt, hhand⟩ := Fate.exists_covers hnames uploads
    have hwhole := uploads.handed_perm
    rw [← hatt] at some sent
    rw [← hhand] at handed hwhole
    have haccounts := Fate.accounts_of_covers hcovers hr handed hwhole sent
    rw [finish, ← hatt, Fate.sortByItem_eq hcovers.fits hr ((failed.append_left _).trans hperm)]
    cases hlost : fates.filterMap Fate.failure? with
    | nil =>
      rw [hlost] at haccounts
      have hcount := haccounts.count
      rw [List.length_nil, Nat.add_zero] at hcount
      rw [hcount]
      exact .sent haccounts
    | cons e es =>
      rw [hlost] at haccounts
      exact .partialSent haccounts some (List.cons_ne_nil _ _)
  | @nothing us logs failures uploads failed none sent =>
    obtain ⟨fates, hcovers, hperm, hatt, -⟩ := Fate.exists_covers hnames uploads
    have hnone := hatt.trans none
    have hhanded : us.filterMap Outbox.Upload.handed? = [] := Outbox.Upload.handed_eq_nil none
    rw [finish, withEarlier, Fate.sortByItem_eq hcovers.fits hr ((failed.append_left _).trans hperm)]
    refine .allUploadsFailed hcovers hnone rfl (Fate.map_itemIndex?_of_lost hcovers.fits hnone)
      (exists_ok hne) (fun several => ?_) sent
    rw [← List.nil_perm, ← hhanded]
    exact uploads.handed_perm several
  | @refused us logs e several uploads sent refused =>
    obtain ⟨fates, hcovers, -, hatt, -⟩ := Fate.exists_covers hnames uploads
    rw [← hatt] at refused
    exact .refused several hcovers sent refused
  | crashed mem crashed single sent => exact .crashed mem crashed single sent

variable [Transport τ]

theorem deliverItems_of_nil {p : Pipeline τ} {thread : Thread} {items : List Item}
    {results : List DownloadResult} {w w₁ : World τ}
    (hd : p.downloader.downloadAll items w = (.done results, w₁))
    (hnil : results.filterMap DownloadResult.payload? = []) :
    p.deliverItems thread items w =
      (.failed (.allDownloadsFailed (results.filterMap DownloadResult.failure?)), w₁) := by
  simp only [deliverItems, sendDownloaded, Job.bind, hd, hnil]
  rfl

theorem deliverItems_of_ne_nil {p : Pipeline τ} {thread : Thread} {items : List Item}
    {results : List DownloadResult} {o : Outcome SendReport} {w w₁ w₂ : World τ}
    (hd : p.downloader.downloadAll items w = (.done results, w₁))
    (hne : results.filterMap DownloadResult.payload? ≠ [])
    (hsend : p.outbox.sendIndexed thread (results.filterMap DownloadResult.payload?) w₁ = (o, w₂)) :
    p.deliverItems thread items w = (finish (results.filterMap DownloadResult.failure?) o, w₂) := by
  obtain ⟨payload, payloads, hp⟩ := List.exists_cons_of_ne_nil hne
  rw [hp] at hsend
  simp only [deliverItems, sendDownloaded, Job.bind, hd, hp, Job.mapError, hsend]
  cases o <;> rfl

/-- Whatever fails on the way, and in whatever order tasks report back, every item is accounted for
once. -/
theorem deliverItems_isAccounted (p : Pipeline τ) (thread : Thread) (items : List Item)
    (w : World τ) (hs : (p.deliverItems thread items w).2.stopped = false) :
    ∃ results new, (p.downloader.downloadAll items w).1 = .done results ∧
      results.map (·.index) = List.range' 1 items.length ∧ results.map (·.item) = items ∧
      (p.deliverItems thread items w).2.calls = w.calls ++ new ∧
      IsAccounted p thread results new (p.deliverItems thread items w).1 := by
  obtain ⟨results, w₁, hd, hcalls, hindex, hitem, hnames⟩ := p.downloader.downloadAll_results
    (World.offline_calls w.calls) items rfl
  have hr : (results.map (·.index)).Pairwise (· < ·) := by
    rw [hindex]
    exact List.pairwise_lt_range'
  by_cases hnil : results.filterMap DownloadResult.payload? = []
  · rw [deliverItems_of_nil hd hnil]
    exact ⟨results, [], by rw [hd], hindex, hitem, by simpa using hcalls,
      .allDownloadsFailed (forall₂_failures hnames hnil) rfl⟩
  · rcases hsend : p.outbox.sendIndexed thread (results.filterMap DownloadResult.payload?) w₁ with
      ⟨o, w₂⟩
    rw [deliverItems_of_ne_nil hd hnil hsend] at hs ⊢
    obtain ⟨new, hnew, hsent⟩ := Outbox.sendIndexed_isSent hnil hsend hs
    exact ⟨results, new, by rw [hd], hindex, hitem, by rw [hnew, hcalls],
      isAccounted_finish hnames hr hnil hsent⟩

theorem preserves_deliverItems {P : World τ → Prop} {thread : Thread} (hP : World.Offline P)
    (hO : Outbox.Outgoing P thread) (p : Pipeline τ) (items : List Item) :
    (p.deliverItems thread items).Preserves P := by
  refine Job.Preserves.bind (fun w h => ?_) fun results => ?_
  · obtain ⟨results, w', hd, hw', -⟩ := p.downloader.downloadAll_results hP items h
    rwa [hd]
  · unfold sendDownloaded
    dsimp only
    split
    · exact Job.preserves_fail _
    · exact ((hO.sendIndexed p.outbox _).mapError _).bind fun _ => Job.preserves_pure _

/-- A token that neither the web nor the platform fires does not fire. -/
theorem stopped_deliverItems (p : Pipeline τ) (thread : Thread) (items : List Item) {w : World τ}
    (hw : w.IsFree) (hweb : ∀ past q, w.network.react past q ≠ .stops)
    (hupload : ∀ payload (s : τ), (Transport.upload thread payload s).1.fires = false)
    (hsend : ∀ attachments (s : τ),
      (Transport.sendAttachments thread attachments s).1.fires = false) :
    (p.deliverItems thread items w).2.stopped = false := by
  let P : World τ → Prop := fun w' => w'.IsFree ∧ w'.network = w.network
  have hO : Outbox.Outgoing P thread :=
    ⟨fun _ _ h => h, fun payload => Job.preserves_call (fun _ _ _ h => h) _ (hupload payload) _,
      fun attachments => Job.preserves_call (fun _ _ _ h => h) _ (hsend attachments) _⟩
  have hP : World.Offline P :=
    ⟨fun _ _ h => h, fun _ _ _ h => h, fun _ _ h => h,
      fun w' q h hstops => absurd hstops (by rw [h.2]; exact hweb _ _)⟩
  exact (preserves_deliverItems hP hO p items w ⟨hw, rfl⟩).1.stopped

structure Gallery where
  taken : ℕ := 0

instance : Transport Gallery where
  selfId _ := 1
  textLimit _ := none
  sendText _ _ s := (.accepted () false, s)
  upload _ p s :=
    if p.mime = "image/png" then (.accepted ⟨toString s.taken, .photo⟩ false, ⟨s.taken + 1⟩)
    else (.refused .missingAttachment false, s)
  sendAttachments _ _ s := (.accepted () false, s)

def galleryNetwork : Web.Network where
  react _ q :=
    if q.url = "http://cdn.test/a" then
      .answer ⟨200, [⟨"content-type", "image/png".toUTF8⟩], ⟨none, ["A".toUTF8], true⟩⟩
    else if q.url = "http://cdn.test/b" then .dropped
    else .answer ⟨200, [⟨"content-type", "video/mp4".toUTF8⟩], ⟨none, ["C".toUTF8], true⟩⟩

def galleryPipeline : Pipeline Gallery where
  platforms := []
  downloader := { maxBytes := 100, concurrency := 2 }
  outbox := { attempts := 2, maxUpload := 100 }

def galleryItems : List Item :=
  [.image "http://cdn.test/a", .image "http://cdn.test/b", .video "http://cdn.test/c"]

def galleryWorld : World Gallery :=
  { network := galleryNetwork, client := { timeout := 1000 }, messenger := {} }

theorem stopped_gallery :
    (galleryPipeline.deliverItems 42 galleryItems galleryWorld).2.stopped = false := by
  refine stopped_deliverItems galleryPipeline 42 galleryItems ⟨rfl, rfl⟩ (fun past q => ?_)
    (fun payload s => ?_) fun _ _ => rfl
  · simp only [galleryWorld, galleryNetwork]
    split_ifs <;> simp
  · simp only [Transport.upload]
    split_ifs <;> rfl

def told (e : MediaError) : Option ℕ × String := (e.itemIndex?, e.message)

def galleryTold : List (Option ℕ × String) :=
  [(some 2, "download #2 failed: http error: error sending request for url (http://cdn.test/b)"),
    (some 3, "upload #3 failed: upload response carried no attachment id")]

theorem uploads_gallery : ∃ results w₁ us w₂,
    galleryPipeline.downloader.downloadAll galleryItems galleryWorld = (.done results, w₁) ∧
      Outbox.uploadAll 42 1
        (galleryPipeline.outbox.uploadsOf (results.filterMap DownloadResult.payload?)) w₁ =
        (us, w₂) ∧
      (results.filterMap DownloadResult.payload?).length = 2 ∧
      (results.filterMap DownloadResult.failure?).map told = galleryTold.take 1 ∧
      us.filterMap Outbox.Upload.attachment? = [⟨"0", .photo⟩] ∧
      (us.filterMap Outbox.Upload.failure?).map told = galleryTold.drop 1 ∧
      w₂.stopped = false := by
  simp only [Downloader.downloadAll, Arrival.inPlace_collect]
  refine ⟨_, _, _, _, rfl, rfl, ?_⟩
  decide +kernel

theorem sortByItem_pair {e e' : MediaError} {i j : ℕ} (he : e.itemIndex? = some i)
    (he' : e'.itemIndex? = some j) (hlt : i < j) :
    MediaError.sortByItem ([e] ++ MediaError.sortByItem [e']) = [e, e'] := by
  rw [MediaError.sortByItem, MediaError.sortByItem, List.mergeSort_singleton]
  refine Arrival.mergeSort_eq_of_perm (.refl _) ?_
  simpa [he, he'] using hlt

/-- The picture goes out, and the two others are told of. -/
theorem outcome_gallery : ∃ failures,
    (galleryPipeline.deliverItems 42 galleryItems galleryWorld).1 =
        .done (.partialSent 1 failures) ∧
      failures.map told = galleryTold := by
  obtain ⟨results, w₁, us, w₂, hd, hup, htwo, hlost, hattachments, hfailed, hs⟩ := uploads_gallery
  obtain ⟨e, hearlier, he⟩ := List.map_eq_singleton_iff.1 hlost
  obtain ⟨e', hlater, he'⟩ := List.map_eq_singleton_iff.1 hfailed
  have hsome : us.filterMap Outbox.Upload.attachment? ≠ [] := by simp [hattachments]
  have hsent : Job.retry galleryPipeline.outbox.backoff (Outbox.sendOnce 42 [⟨"0", .photo⟩]) w₂ =
      (.done (), w₂.answered w₂.messenger
        ⟨.send 42 [⟨"0", .photo⟩], .accepted, false, none⟩) :=
    Job.retry_of_tries hs (.last rfl (by simp)) (by simp)
  have hne : results.filterMap DownloadResult.payload? ≠ [] := by
    rw [← List.length_pos_iff, htwo]
    exact Nat.two_pos
  have hsend : (galleryPipeline.outbox.sendIndexed 42
      (results.filterMap DownloadResult.payload?) w₁).1 =
      .done { sent := 1, failures := MediaError.sortByItem [e'] } := by
    have hretries : galleryPipeline.outbox.backoff.retries = 1 := rfl
    rw [Outbox.sendIndexed_of_several htwo.ge]
    simp only [Outbox.sendTogether, hretries, hup, Arrival.inPlace_collect,
      Outbox.sendUploaded_of_ne_nil hsome, Job.bind_pure, hattachments, Outbox.sendAttachments,
      hsent, hlater]
    rfl
  rcases hrun : galleryPipeline.outbox.sendIndexed 42
    (results.filterMap DownloadResult.payload?) w₁ with ⟨o, w₃⟩
  rw [hrun] at hsend
  obtain rfl : o = _ := hsend
  refine ⟨[e, e'], ?_, ?_⟩
  · rw [deliverItems_of_ne_nil hd hne hrun, finish, hearlier,
      sortByItem_pair (congrArg Prod.fst he) (congrArg Prod.fst he') (by decide)]
    rfl
  · rw [List.map_cons, List.map_cons, he, he']
    rfl

theorem deliverItems_isAccounted_gallery :
    (galleryPipeline.deliverItems 42 galleryItems galleryWorld).2.stopped = false ∧
      (∃ failures, (galleryPipeline.deliverItems 42 galleryItems galleryWorld).1 =
          .done (.partialSent 1 failures) ∧
        failures.map told = galleryTold) ∧
      ∃ results new,
        (galleryPipeline.downloader.downloadAll galleryItems galleryWorld).1 = .done results ∧
          results.map (·.index) = [1, 2, 3] ∧ results.map (·.item) = galleryItems ∧
          (galleryPipeline.deliverItems 42 galleryItems galleryWorld).2.calls = new ∧
            IsAccounted galleryPipeline 42 results new
              (galleryPipeline.deliverItems 42 galleryItems galleryWorld).1 :=
  ⟨stopped_gallery, outcome_gallery,
    deliverItems_isAccounted galleryPipeline 42 galleryItems galleryWorld stopped_gallery⟩

end Pipeline

end MediaRelay
