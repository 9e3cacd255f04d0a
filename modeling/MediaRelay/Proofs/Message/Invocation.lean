import MediaRelay.Config.Basic
import MediaRelay.Message.Invocation
import MediaRelay.Proofs.Text.Spaced
/-! Commands in writing. A name and its arguments can be spaced in many ways, and a prefix put in
front of them; reading a message gives back the name and the arguments whatever the spacing, and
nothing else is read as a command. This holds of every prefix but those that begin with a blank:
the blanks in front of a message are dropped before the prefix is looked for. -/

namespace MediaRelay

open Text (IsGap IsWord Follows startsBlank words)

/-- A command in writing: the prefix, the name behind it with or without blanks between them, and
the arguments, each after a blank or more. There may be blanks around all of it. -/
def Invocation.IsSpelled (i : Invocation) (commandPrefix text : String) : Prop :=
  ∃ before gap rest, IsGap before ∧ IsGap gap ∧ IsWord i.name.toList ∧
    Follows (i.args.map String.toList) rest ∧
    text.toList = before ++ (commandPrefix.toList ++ (gap ++ (i.name.toList ++ rest)))

theorem Invocation.mk_ofList_eq_iff {name : List Char} {args : List (List Char)} {i : Invocation} :
    ⟨String.ofList name, args.map String.ofList⟩ = i ↔
      name = i.name.toList ∧ args = i.args.map String.toList := by
  constructor
  · rintro rfl
    simp
  · rintro ⟨rfl, rfl⟩
    simp

theorem parseInvocation_eq_some {text commandPrefix : String} {i : Invocation} :
    parseInvocation text commandPrefix = some i ↔ ∃ rest,
      Text.trim text.toList = commandPrefix.toList ++ rest ∧
        words rest = i.name.toList :: i.args.map String.toList := by
  simp only [← Text.stripPrefix?_eq_some_iff]
  unfold parseInvocation
  cases Text.stripPrefix? commandPrefix.toList (Text.trim text.toList) with
  | none => simp
  | some rest =>
    cases hwords : words rest with
    | nil => simp [hwords]
    | cons name args => simp [hwords, Invocation.mk_ofList_eq_iff]

/-- Reading undoes writing. A message calls a command if and only if the command is spelled in it,
with a prefix that begins with no blank. -/
theorem parseInvocation_eq_some_iff {text commandPrefix : String} {i : Invocation} :
    parseInvocation text commandPrefix = some i ↔
      startsBlank commandPrefix.toList = false ∧ i.IsSpelled commandPrefix text := by
  rw [parseInvocation_eq_some]
  constructor
  · rintro ⟨rest, htrim, hwords⟩
    obtain ⟨gap, later, hgap, hname, hargs, rfl⟩ := Text.words_eq_cons_iff.1 hwords
    obtain ⟨before, blanks, hbefore, hblanks, htext⟩ := Text.exists_eq_gap_append_trim text.toList
    refine ⟨Text.startsBlank_of_trim_eq htrim,
      before, gap, later ++ blanks, hbefore, hgap, hname, hargs.append hblanks, ?_⟩
    rw [htext, htrim]
    simp only [List.append_assoc]
  · rintro ⟨hstart, before, gap, rest, hbefore, hgap, hname, hargs, htext⟩
    have hwords := Text.words_eq_cons_iff.2 ⟨gap, rest, hgap, hname, hargs, rfl⟩
    obtain ⟨read, htrim, hread⟩ :=
      Text.exists_trim_eq hbefore hstart (s := gap ++ (i.name.toList ++ rest)) (by simp [hwords])
    exact ⟨read, by rw [htext, htrim], hread.trans hwords⟩

/-- A prefix that begins with a blank passes the check of the settings, and a command that is
spelled with it is not read. -/
theorem not_parses_spelled_blankPrefix :
    let c : Config :=
      { telegram := { botToken := "1:x", mediaCacheChatId := -1 }
        bot := { commandPrefix := " !" } }
    let ping : Invocation := ⟨"ping", []⟩
    c.validate = .ok c ∧ ping.IsSpelled c.bot.commandPrefix " !ping" ∧
      parseInvocation " !ping" c.bot.commandPrefix ≠ some ping := by
  have hgap : IsGap [] := fun c hc => absurd hc List.not_mem_nil
  have hword : "ping".toList.all (!Text.isBlank ·) = true := by decide +kernel
  refine ⟨by decide +kernel, ⟨[], [], [], hgap, hgap, ⟨by decide +kernel, fun c hc => ?_⟩,
    .nil hgap, by decide +kernel⟩, by decide +kernel⟩
  simpa using List.all_eq_true.1 hword c hc

end MediaRelay
