import MediaRelay.Config.Store
import MediaRelay.Proofs.Config.Toml
import MediaRelay.Proofs.Text.Utf8
/-! Settings that are sound survive the way into a file and back, whatever texts they hold. Settings
with a number that no file can hold do not get as far as the file. -/

namespace MediaRelay

namespace Config

theorem validate_eq_ok_iff {c c' : Config} : c.validate = .ok c' ↔ c.fault? = none ∧ c' = c := by
  rw [validate]
  cases c.fault? with
  | some e => simp
  | none => simp [eq_comm]

theorem not_blank_of_fault? {c : Config} (h : c.fault? = none) :
    isBlankText c.telegram.botToken = false := by
  rw [fault?] at h
  split at h
  · cases h
  case isFalse hblank => exact Bool.eq_false_iff.2 hblank

structure IsSound (c : Config) : Prop where
  fault : c.fault? = none
  writable : c.IsWritable

theorem IsSound.not_blank {c : Config} (h : c.IsSound) :
    isBlankText c.telegram.botToken = false :=
  not_blank_of_fault? h.fault

/-- A token that is not blank is not shown. -/
theorem redacted_of_not_blank {c : Config} (h : isBlankText c.telegram.botToken = false) :
    c.redacted = c.withToken redactionMark := by
  have hne : c.telegram.botToken.isEmpty = false := by
    rw [Bool.eq_false_iff, Ne, String.isEmpty_iff]
    intro hempty
    rw [hempty] at h
    exact absurd h (by decide)
  unfold redacted redactedToken
  rw [hne]
  rfl

def bytes (c : Config) : ByteArray := (String.ofList c.writeChars).toUTF8

theorem IsSound.parse_writeChars {c : Config} (h : c.IsSound) :
    Config.parse (String.ofList c.writeChars) = .ok c :=
  h.writable.parse_writeChars.trans (validate_eq_ok_iff.2 ⟨h.fault, rfl⟩)

end Config

namespace ConfigFile

variable {f f' : ConfigFile} {c : Config}

def holding (f : ConfigFile) (c : Config) : ConfigFile := { f with content := some c.bytes }

theorem isSound_of_load (h : f.load = .ok c) : c.IsSound := by
  rw [load] at h
  split at h
  · cases h
  · obtain ⟨hfault, hwritable⟩ := Config.of_parse_eq_ok h
    exact ⟨hfault, hwritable⟩

theorem load_holding (h : c.IsSound) (f : ConfigFile) : (f.holding c).load = .ok c := by
  rw [load, holding, Option.bind_some, Config.bytes, fromUTF8?_toUTF8]
  exact h.parse_writeChars

/-- Settings are saved exactly when their numbers fit and the file can be written. -/
theorem save_eq_ok_iff :
    f.save c = .ok f' ↔
      (∀ n ∈ c.unsignedNumbers, (n : Int) ≤ Word.maxSigned) ∧ f.isWritable = true ∧
        f' = f.holding c := by
  rw [save]
  cases hwrite : c.write with
  | error e =>
    obtain ⟨⟨n, hn, hlarge⟩, -⟩ := Config.write_eq_error_iff.1 hwrite
    simp only [reduceCtorEq, false_iff]
    rintro ⟨hall, -⟩
    have := hall n hn
    omega
  | ok text =>
    obtain ⟨hall, rfl⟩ := Config.write_eq_ok_iff.1 hwrite
    dsimp only
    by_cases hf : f.isWritable = true
    · rw [if_pos hf, Except.ok.injEq]
      exact ⟨fun h => ⟨hall, hf, h.symm⟩, fun h => h.2.2.symm⟩
    · simp [hf]

def refusal? (f : ConfigFile) (c : Config) : Option SaveError :=
  (c.fault?.map .config).or
    (if c.unsignedNumbers.any fun n => (n : Int) > Word.maxSigned then some (.config .unwritable)
    else if f.isWritable then none
    else some (.file f.path))

theorem refusal?_eq_none_iff :
    f.refusal? c = none ↔
      c.fault? = none ∧ (∀ n ∈ c.unsignedNumbers, (n : Int) ≤ Word.maxSigned) ∧
        f.isWritable = true := by
  rw [refusal?, Option.or_eq_none_iff, Option.map_eq_none_iff]
  refine and_congr_right fun _ => ?_
  split_ifs with hlarge hfile
  · simp only [List.any_eq_true, decide_eq_true_eq] at hlarge
    obtain ⟨n, hn, hlt⟩ := hlarge
    simp only [false_iff]
    rintro ⟨hall, -⟩
    have := hall n hn
    omega
  · simpa [hfile] using hlarge
  · simp [hfile]

/-- A file that was saved holds exactly the settings that were saved. -/
theorem load_of_save (h : f.save c = .ok f') (hfault : c.fault? = none)
    (hchat : Word.minSigned ≤ c.telegram.mediaCacheChatId ∧
      c.telegram.mediaCacheChatId ≤ Word.maxSigned) :
    f'.load = .ok c ∧ c.IsSound := by
  obtain ⟨hnumbers, -, rfl⟩ := save_eq_ok_iff.1 h
  have hsound : c.IsSound := ⟨hfault, hnumbers, hchat⟩
  exact ⟨load_holding hsound f, hsound⟩

/-- A number that is too large is found before the file is looked at. -/
theorem save_eq_unwritable (h : ∃ n ∈ c.unsignedNumbers, Word.maxSigned < (n : Int))
    (f : ConfigFile) : f.save c = .error (.config .unwritable) := by
  rw [save, Config.write_eq_error_iff.2 ⟨h, rfl⟩]

end ConfigFile

namespace ConfigStore

variable {s s' : ConfigStore} {posted : Config}

theorem post_eq (s : ConfigStore) (posted : Config) :
    s.post posted = (s.file.refusal? (s.restored posted)).elim
      (.ok { config := s.restored posted, file := s.file.holding (s.restored posted) })
      Except.error := by
  rw [post, ConfigFile.refusal?]
  cases (s.restored posted).fault? with
  | some e => rfl
  | none =>
    dsimp only
    unfold ConfigFile.save Config.write
    split_ifs <;> rfl

theorem post_eq_ok_iff :
    s.post posted = .ok s' ↔ s.file.refusal? (s.restored posted) = none ∧
      s' = { config := s.restored posted, file := s.file.holding (s.restored posted) } := by
  rw [post_eq]
  cases s.file.refusal? (s.restored posted) with
  | some e => simp
  | none => simp [eq_comm]

end ConfigStore

namespace Config

/-- Sound settings whose numbers fit into a signed word are written down, and reading the text gives
back the same settings; so does the file into which they are saved. Settings with a larger unsigned
number are refused before the file is looked at, be it one that can be written or not. -/
theorem written_reads_back_or_unwritable (c : Config) :
    (c.validate = .ok c → (∀ n ∈ c.unsignedNumbers, n ≤ 0x7FFFFFFFFFFFFFFF) →
      (Word.minSigned ≤ c.telegram.mediaCacheChatId ∧
        c.telegram.mediaCacheChatId ≤ Word.maxSigned) →
      ∃ text, c.write = .ok text ∧ Config.parse text = .ok c ∧
        ∀ f : ConfigFile, f.isWritable = true →
          f.save c = .ok { f with content := some text.toUTF8 } ∧
          ({ f with content := some text.toUTF8 } : ConfigFile).load = .ok c) ∧
    ((∃ n ∈ c.unsignedNumbers, 0x7FFFFFFFFFFFFFFF < n) →
      ∀ f : ConfigFile, f.save c = .error (.config .unwritable) ∧
        (SaveError.config .unwritable).message = "Failed to serialize config") := by
  constructor
  · intro hvalid hnumbers hchat
    have hunsigned : ∀ n ∈ c.unsignedNumbers, (n : Int) ≤ Word.maxSigned :=
      fun n hn => Int.ofNat_le.2 (hnumbers n hn)
    have hsound : c.IsSound := ⟨(validate_eq_ok_iff.1 hvalid).1, hunsigned, hchat⟩
    refine ⟨String.ofList c.writeChars, write_eq_ok_iff.2 ⟨hunsigned, rfl⟩,
      hsound.parse_writeChars, ?_⟩
    intro f hf
    exact ⟨ConfigFile.save_eq_ok_iff.2 ⟨hunsigned, hf, rfl⟩, ConfigFile.load_holding hsound f⟩
  · rintro ⟨n, hn, hlarge⟩ f
    exact ⟨ConfigFile.save_eq_unwritable ⟨n, hn, Int.ofNat_lt.2 hlarge⟩ f, rfl⟩

/-- Settings whose texts hold what a file writes in a way of its own: breaks at both ends, a
carriage return, controls, backslashes and quotes of both kinds in a row. -/
def scrawledConfig : Config where
  telegram :=
    { botToken := "\n1:'''\"\"\"\\\x7f\x00\r\n"
      allowedUserIds := [0, 0x7FFFFFFFFFFFFFFF]
      mediaCacheChatId := -0x8000000000000000 }
  bot := { commandPrefix := "'", cooldownSweepCron := "C:\\tmp''é\n" }
  dashboard := { bind := "" }

theorem written_reads_back_or_unwritable_scrawled :
    (∃ text, scrawledConfig.write = .ok text ∧ Config.parse text = .ok scrawledConfig) ∧
      ∀ f : ConfigFile,
        f.save { scrawledConfig with bot.cooldownSecs := 0x8000000000000000 } =
          .error (.config .unwritable) := by
  have hvalid : scrawledConfig.validate = .ok scrawledConfig := by rfl
  have hnumbers : ∀ n ∈ scrawledConfig.unsignedNumbers, n ≤ 0x7FFFFFFFFFFFFFFF := by decide
  obtain ⟨text, hwrite, hparse, -⟩ :=
    (written_reads_back_or_unwritable scrawledConfig).1 hvalid hnumbers (by decide)
  refine ⟨⟨text, hwrite, hparse⟩, fun f => ?_⟩
  have hlarge : ∃ n ∈ ({ scrawledConfig with bot.cooldownSecs := 0x8000000000000000 } :
      Config).unsignedNumbers, 0x7FFFFFFFFFFFFFFF < n := by decide
  exact ((written_reads_back_or_unwritable _).2 hlarge f).1

end Config

end MediaRelay
