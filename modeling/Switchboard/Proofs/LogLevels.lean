import Switchboard.Proofs.Warnings

/-!
# The level to log at

The name of a level is read twice: by the check for doubtful settings, which knows the levels by
their exact spelling, and where the threshold is set, which knows them in any case, and `off` too.

**The threshold.** `Threshold.Spells` says which names stand for a threshold. No name stands for two
thresholds, so the order in which names are compared does not matter (`ofName?_eq_some_iff`).

**The two together** (`level_warning_exact`). A name that stands for no threshold is warned about,
and `info` is taken. Of the names that do stand for one, all but the exact spellings of the levels
are warned about too, although they are understood.

Main result: `level_warning_exact`.
-/

namespace Switchboard

namespace Threshold

variable {name : String} {threshold other : Threshold}

/-- The word for a threshold, in lower case. -/
def word : Threshold → String
  | off => "off"
  | upTo level => level.name

/-- The name is the word for the threshold, but for the case of ASCII letters. -/
def Spells (name : String) (threshold : Threshold) : Prop :=
  name.toList.map Char.toLower = threshold.word.toList

instance : Decidable (Spells name threshold) :=
  inferInstanceAs (Decidable (_ = _))

theorem map_toLower_word (threshold : Threshold) :
    threshold.word.toList.map Char.toLower = threshold.word.toList := by
  cases threshold with
  | off => rfl
  | upTo level => cases level <;> rfl

theorem word_injective (h : threshold.word = other.word) : threshold = other := by
  cases threshold with
  | off =>
    cases other with
    | off => rfl
    | upTo level => cases level <;> simp [word, Level.name] at h
  | upTo level =>
    cases other with
    | off => cases level <;> simp [word, Level.name] at h
    | upTo another => cases level <;> cases another <;> simp [word, Level.name] at h ⊢

/-- No name stands for two thresholds. -/
theorem Spells.unique (h : Spells name threshold) (hother : Spells name other) :
    threshold = other := by
  apply word_injective
  apply String.toList_inj.1
  rw [← h, ← hother]

theorem sameWord_word_iff : sameWord name threshold.word ↔ Spells name threshold := by
  rw [sameWord, beq_iff_eq, map_toLower_word]
  rfl

theorem spells_of_ofName? (h : ofName? name = some threshold) : Spells name threshold := by
  unfold ofName? at h
  split_ifs at h with hoff
  · cases h
    exact sameWord_word_iff.1 hoff
  · obtain ⟨level, hlevel, rfl⟩ := Option.map_eq_some_iff.1 h
    have hword : sameWord name level.name = true := by simpa using List.find?_some hlevel
    exact sameWord_word_iff.1 hword

theorem Spells.exists_ofName? (h : Spells name threshold) : ∃ found, ofName? name = some found := by
  unfold ofName?
  split_ifs with hoff
  · exact ⟨off, rfl⟩
  · cases threshold with
    | off => exact absurd (sameWord_word_iff.2 h) hoff
    | upTo level =>
      have hlevel : ∃ known ∈ Level.all, sameWord name known.name = true :=
        ⟨level, level.mem_all, sameWord_word_iff.2 h⟩
      obtain ⟨found, hfound⟩ := Option.isSome_iff_exists.1 (List.find?_isSome.2 hlevel)
      exact ⟨upTo found, by rw [hfound]; rfl⟩

/-- A threshold is known by the names that stand for it. -/
theorem ofName?_eq_some_iff : ofName? name = some threshold ↔ Spells name threshold := by
  constructor
  · exact spells_of_ofName?
  · intro h
    obtain ⟨found, hfound⟩ := h.exists_ofName?
    rw [hfound, h.unique (spells_of_ofName? hfound)]

theorem ofSetting_of_spells (h : Spells name threshold) : ofSetting name = threshold := by
  rw [ofSetting, ofName?_eq_some_iff.2 h]
  rfl

theorem ofSetting_of_not_spells (h : ∀ threshold, ¬ Spells name threshold) :
    ofSetting name = upTo .info := by
  have hnone : ofName? name = none :=
    Option.eq_none_iff_forall_ne_some.2 fun threshold hsome => h _ (spells_of_ofName? hsome)
  rw [ofSetting, hnone]
  rfl

theorem spells_name (level : Level) : Spells level.name (upTo level) :=
  map_toLower_word (upTo level)

end Threshold

namespace Settings

variable {settings : Settings}

/-- What is made of the level to log at, and what the warning about it says. -/
structure LevelJudged (settings : Settings) : Prop where
  /-- A name that stands for a threshold is understood. -/
  understood : ∀ threshold, Threshold.Spells settings.logLevel threshold →
    settings.threshold = threshold
  /-- Any other name is warned about, and the default is taken, as the warning says. -/
  notUnderstood : (∀ threshold, ¬ Threshold.Spells settings.logLevel threshold) →
    (Doubt.level settings.logLevel).text ∈ settings.warnings ∧ settings.threshold = .upTo .info
  /-- Only the exact spellings of the levels are not warned about. -/
  warned : (Doubt.level settings.logLevel).text ∈ settings.warnings ↔
    ∀ level : Level, level.name ≠ settings.logLevel
  /-- The warning is wrong about `off` and the levels other than the default, if they are not
  spelled exactly like a level. -/
  untrue : (Doubt.level settings.logLevel).text ∈ settings.warnings ∧
      settings.threshold ≠ .upTo .info ↔
    ∃ threshold ≠ .upTo .info, Threshold.Spells settings.logLevel threshold ∧
      ∀ level : Level, level.name ≠ settings.logLevel

theorem threshold_of_quiet (hquiet : settings.verbose = 0) :
    settings.threshold = .ofSetting settings.logLevel := by
  have hnot : ¬ 0 < settings.verbose := by
    rw [hquiet]
    decide
  exact if_neg hnot

theorem threshold_of_spells (hquiet : settings.verbose = 0) {threshold : Threshold}
    (h : Threshold.Spells settings.logLevel threshold) : settings.threshold = threshold := by
  rw [threshold_of_quiet hquiet, Threshold.ofSetting_of_spells h]

theorem threshold_of_not_spells (hquiet : settings.verbose = 0)
    (h : ∀ threshold, ¬ Threshold.Spells settings.logLevel threshold) :
    settings.threshold = .upTo .info := by
  rw [threshold_of_quiet hquiet, Threshold.ofSetting_of_not_spells h]

theorem warned_iff : (Doubt.level settings.logLevel).text ∈ settings.warnings ↔
    ∀ level : Level, level.name ≠ settings.logLevel := by
  rw [level_mem_warnings_iff]
  exact ⟨fun h => h.2, fun h => ⟨rfl, h⟩⟩

theorem name_ne_of_not_spells (h : ∀ threshold, ¬ Threshold.Spells settings.logLevel threshold)
    (level : Level) : level.name ≠ settings.logLevel := by
  intro hname
  apply h (.upTo level)
  rw [← hname]
  exact Threshold.spells_name level

/-- **The level to log at.** Without verbosity the threshold is what the name of the level stands
for in any case, or else `info`; all names but the exact spellings are warned about. -/
theorem level_warning_exact (hquiet : settings.verbose = 0) : settings.LevelJudged where
  understood _ hspells := threshold_of_spells hquiet hspells
  notUnderstood hnone :=
    ⟨warned_iff.2 (name_ne_of_not_spells hnone), threshold_of_not_spells hquiet hnone⟩
  warned := warned_iff
  untrue := by
    rw [warned_iff]
    constructor
    · rintro ⟨hspelling, hother⟩
      have hsome : ∃ threshold, Threshold.Spells settings.logLevel threshold := by
        by_contra hnone
        exact hother (threshold_of_not_spells hquiet (not_exists.1 hnone))
      obtain ⟨threshold, hspells⟩ := hsome
      rw [threshold_of_spells hquiet hspells] at hother
      exact ⟨threshold, hother, hspells, hspelling⟩
    · rintro ⟨threshold, hother, hspells, hspelling⟩
      rw [threshold_of_spells hquiet hspells]
      exact ⟨hspelling, hother⟩

theorem level_warning_exact_capital :
    { default with logLevel := "Warn" }.verbose = 0 ∧
      { default with logLevel := "Warn" }.threshold = .upTo .warn :=
  ⟨rfl, (level_warning_exact rfl).understood _ (by decide)⟩

/-- Settings that log all but the smallest steps, in capitals. -/
def loud : Settings :=
  { default with
    logLevel := "DEBUG"
    routes := [{ Route.named "ssh" with host := some "127.0.0.1", port := some 22 }] }

/-- **A level that is understood is called invalid.** The default that the warning announces is not
taken. -/
theorem loud_is_called_invalid :
    ¬ ∀ settings : Settings, settings.validate = .ok () → settings.verbose = 0 →
      (Doubt.level settings.logLevel).text ∈ settings.warnings →
        settings.threshold = .upTo .info := by
  intro hall
  have hwarned : (Doubt.level loud.logLevel).text ∈ loud.warnings := by decide
  have hdefault := hall loud rfl rfl hwarned
  exact absurd hdefault (by decide)

end Settings

end Switchboard
