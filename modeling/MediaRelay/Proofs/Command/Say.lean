import MediaRelay.Message.Invocation
import MediaRelay.Proofs.Command.Builtin
import MediaRelay.Proofs.Outbox.Message
import MediaRelay.Proofs.Text.Words
/-! What `say` repeats: all words of the message but the first one. The parser of commands goes by
the prefix instead, and takes for the arguments what stands after the name behind it. The two go
together where prefix and name are the first word, and nowhere else. -/

namespace MediaRelay
namespace Command

open Text (words)

theorem words_afterFirstWord (text : String) :
    words (afterFirstWord text).toList = (words text.toList).tail := by
  rw [afterFirstWord, String.toList_ofList, Text.words_trim]
  by_cases h : words text.toList = []
  · rw [Text.words_eq_nil_iff.1 h, h]
    exact Text.words_eq_nil rfl
  · rw [Text.words_eq_first h, List.tail_cons]

theorem trim_afterFirstWord (text : String) :
    Text.trim (afterFirstWord text).toList = (afterFirstWord text).toList := by
  rw [afterFirstWord, String.toList_ofList, Text.trim_trim]

theorem afterFirstWord_isInfix (text : String) :
    (afterFirstWord text).toList <:+: text.toList := by
  rw [afterFirstWord, String.toList_ofList]
  exact (Text.trim_isInfix _).trans
    ((List.dropWhile_suffix _).isInfix.trans (Text.trim_isInfix _))

/-- The arguments of a command are the words after the first one where that is the prefix together
with the name, and only there. -/
theorem tail_words_eq_args_iff {text commandPrefix : String} {i : Invocation}
    (hi : parseInvocation text commandPrefix = some i) :
    (words text.toList).tail.map String.ofList = i.args ↔
      (words text.toList).head? = some (commandPrefix.toList ++ i.name.toList) := by
  rw [parseInvocation] at hi
  cases hrest : Text.stripPrefix? commandPrefix.toList (Text.trim text.toList) with
  | none =>
    rw [hrest] at hi
    cases hi
  | some rest =>
    cases hwords : words rest with
    | nil =>
      simp only [hrest, hwords] at hi
      cases hi
    | cons name args =>
      simp only [hrest, hwords, Option.some_inj] at hi
      rw [← hi, String.toList_ofList,
        ← Text.tail_words_eq_iff (Text.stripPrefix?_eq_some_iff.1 hrest) hwords]
      exact (List.map_injective_iff.2 fun _ _ => String.ofList_inj.1).eq_iff

variable {τ : Type} [Transport τ]

/-- How `say` goes when these words were said. With nothing said, it refuses and sends nothing; else
it replies with a piece of the message that has just these words. -/
structure Repeats (c : CommandContext τ) (said : List String) (w : World τ) : Prop where
  usage_iff : say.run c w = (.done (.error (.usage "say <message>")), w) ↔ said = []
  echo : said ≠ [] → ∃ m : String, m.toList <:+: c.rawText.toList ∧
    Text.trim m.toList = m.toList ∧ (words m.toList).map String.ofList = said ∧
    say.run c w = replyOnly c s!"🗣 {m}" w

/-- What is said is what comes after the first word, whatever the parser makes of the message. -/
theorem repeats_tail_words (c : CommandContext τ) (w : World τ) :
    Repeats c ((words c.rawText.toList).tail.map String.ofList) w := by
  have hwords := words_afterFirstWord c.rawText
  have hrun : say.run c =
      if (afterFirstWord c.rawText).isEmpty then refuse (.usage "say <message>")
      else replyOnly c s!"🗣 {afterFirstWord c.rawText}" := by rw [say]
  by_cases hempty : (afterFirstWord c.rawText).isEmpty = true
  · have hsaid : (words c.rawText.toList).tail.map String.ofList = [] := by
      rw [← hwords, String.isEmpty_iff.1 hempty]
      exact congrArg _ (Text.words_eq_nil rfl)
    rw [if_pos hempty] at hrun
    exact ⟨iff_of_true (by rw [hrun]; rfl) hsaid, fun hne => absurd hsaid hne⟩
  · rw [if_neg hempty] at hrun
    have hsaid : (words c.rawText.toList).tail.map String.ofList ≠ [] := by
      rw [← hwords, ne_eq, List.map_eq_nil_iff, Text.words_eq_nil_iff, trim_afterFirstWord,
        String.toList_eq_nil_iff, ← String.isEmpty_iff]
      exact hempty
    refine ⟨iff_of_false (fun husage => ?_) hsaid, fun _ =>
      ⟨afterFirstWord c.rawText, afterFirstWord_isInfix _, trim_afterFirstWord _, by rw [hwords],
        congrFun hrun w⟩⟩
    rw [hrun] at husage
    exact neverRefuses_replyOnly c _ w _ (congrArg Prod.fst husage)

/-! The log of a platform that takes texts whole tells what was said. -/

open Pipeline (Gallery)

section

variable {c : CommandContext Gallery} {w : World Gallery} {said said' : List String}

theorem calls_replyOnly (c : CommandContext Gallery) (text : String) (hw : w.stopped = false) :
    (replyOnly c text w).2.calls = w.calls ++ [⟨.text c.thread text, .accepted, false, none⟩] := by
  have hanswers : TextTry.Answers c.thread ⟨text, none⟩ w.messenger w.messenger := rfl
  rw [replyOnly, Job.bind_pure, reply,
    Outbox.sendMessage_of_answers c.pipeline.outbox rfl hw (.inl rfl) hanswers]
  rfl

theorem Repeats.unique (hw : w.stopped = false) (h : Repeats c said w) (h' : Repeats c said' w) :
    said = said' := by
  have hnil : said = [] ↔ said' = [] := h.usage_iff.symm.trans h'.usage_iff
  by_cases hsaid : said = []
  · rw [hsaid, hnil.1 hsaid]
  · obtain ⟨m, -, -, rfl, hrun⟩ := h.echo hsaid
    obtain ⟨m', -, -, rfl, hrun'⟩ := h'.echo (mt hnil.2 hsaid)
    have hcalls := congrArg (·.2.calls) (hrun.symm.trans hrun')
    simp only [calls_replyOnly c _ hw, List.append_cancel_left_eq] at hcalls
    have hm : toString m = toString m' := by simpa using hcalls
    rw [show m = m' from hm]

end

def listening (text : String) (args : List String) : CommandContext Gallery where
  user := 5
  thread := 42
  messageId := "1"
  args
  rawText := text
  uptime := 0
  pipeline :=
    { platforms := [], downloader := { maxBytes := 100, concurrency := 4 }
      outbox := { attempts := 2, maxUpload := 100 } }
  listing := []
  messages := 1

def quiet : World Gallery :=
  { network := Pipeline.galleryNetwork, client := { timeout := 1000 }, messenger := {} }

theorem tail_words_of_repeats {text : String} {args : List String}
    (h : Repeats (listening text args) args quiet) :
    (words text.toList).tail.map String.ofList = args :=
  (h.unique rfl (repeats_tail_words _ quiet)).symm

/-- `say` repeats the arguments of a message, on every platform, if and only if the first word of
the message is the prefix together with the name. -/
theorem repeats_args_iff {text commandPrefix : String} {i : Invocation}
    (hi : parseInvocation text commandPrefix = some i) :
    (∀ {τ : Type} [Transport τ] (c : CommandContext τ) (w : World τ),
        c.rawText = text → c.args = i.args → Repeats c c.args w) ↔
      (words text.toList).head? = some (commandPrefix.toList ++ i.name.toList) := by
  rw [← tail_words_eq_args_iff hi]
  constructor
  · intro h
    exact tail_words_of_repeats (h (listening text i.args) quiet rfl rfl)
  · rintro hargs τ _ c w rfl hc
    rw [hc, ← hargs]
    exact repeats_tail_words c w

/-- A name in capitals, with blanks and a line break between the arguments. -/
theorem repeats_args_iff_spaced :
    let text := "!SAY  a   b\nc "
    parseInvocation text "!" = some ⟨"SAY", ["a", "b", "c"]⟩ ∧
      ∀ {τ : Type} [Transport τ] (c : CommandContext τ) (w : World τ),
        c.rawText = text → c.args = ["a", "b", "c"] → Repeats c c.args w := by
  have hi : parseInvocation "!SAY  a   b\nc " "!" = some ⟨"SAY", ["a", "b", "c"]⟩ := by
    decide +kernel
  exact ⟨hi, (repeats_args_iff hi).2 (by decide +kernel)⟩

/-- A blank between prefix and name makes the name one of the words that are said. -/
theorem not_repeats_name :
    parseInvocation "! say hi" "!" = some ⟨"say", ["hi"]⟩ ∧
      ∃ (c : CommandContext Gallery) (w : World Gallery),
        c.rawText = "! say hi" ∧ c.args = ["hi"] ∧ ¬ Repeats c c.args w := by
  refine ⟨by decide +kernel, listening "! say hi" ["hi"], quiet, rfl, rfl, fun h => ?_⟩
  have htail : (words "! say hi".toList).tail.map String.ofList ≠ ["hi"] := by decide +kernel
  exact htail (tail_words_of_repeats h)

end Command
end MediaRelay
