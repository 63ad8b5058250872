import GuardedWork.Proofs.Config.Failures

namespace GuardedWork

theorem textOf?_toUTF8 (v : String) : textOf? v.toUTF8 = some v := by
  unfold textOf? String.fromUTF8?
  rw [String.toUTF8_eq_toByteArray, dif_pos v.isValidUTF8]
  rfl

namespace Text

variable {c : Char} {v : String}

theorem ofNat_ne_zero (n : Nat) (above : 0 < n) (below : n < 256) : UInt8.ofNat n ≠ 0 := by
  intro zero
  have same := congrArg UInt8.toNat zero
  rw [UInt8.toNat_ofNat_of_lt' below] at same
  exact absurd same.symm (Nat.ne_of_lt above)

-- Only a NUL has a zero among its bytes.
theorem bytes_ne_zero (filled : c ≠ '\x00') : ∀ b ∈ String.utf8EncodeChar c, b ≠ 0 := by
  have positive : c.val.toNat ≠ 0 := fun zero => filled (Char.ext (UInt32.toNat_inj.mp zero))
  unfold String.utf8EncodeChar
  dsimp only
  generalize c.val.toNat = n at positive
  repeat' split
  all_goals
    simp (disch := omega) only [List.forall_mem_cons, List.not_mem_nil, ne_eq, ofNat_ne_zero, not_false_iff,
      false_implies, implies_true, and_self]

theorem blank_bytes (blank : isBlank v = true) : v.toUTF8.data.contains 0 = false := by
  have bytes : v.toUTF8.data.toList = v.toList.flatMap String.utf8EncodeChar := by
    rw [String.toUTF8_eq_toByteArray, ← String.utf8Encode_toList, List.utf8Encode, List.data_toByteArray]
  refine Bool.of_not_eq_true fun zero => ?_
  have member := Array.mem_toList_iff.mpr (Array.contains_iff_mem.mp zero)
  rw [bytes] at member
  obtain ⟨c, inside, byte⟩ := List.mem_flatMap.mp member
  refine bytes_ne_zero (c := c) ?_ 0 byte rfl
  rintro rfl
  exact absurd (isBlank_iff.mp blank _ inside) (by decide)

end Text

namespace Surroundings

variable {around set unset : Surroundings} {key other v : String}

theorem lookup_first {β : Type} (key other : String) (b : β) (vs : List (String × β)) :
    ((key, b) :: vs).lookup other = if other = key then some b else vs.lookup other := by
  rw [List.lookup_cons]
  by_cases same : other = key
  · rw [if_pos same, beq_iff_eq.mpr same]
  · rw [if_neg same, beq_eq_false_iff_ne.mpr same]

theorem lookup_others {β : Type} (key other : String) (vs : List (String × β)) :
    (vs.filter fun e => e.1 ≠ key).lookup other = if other = key then none else vs.lookup other := by
  induction vs with
  | nil => exact (ite_self none).symm
  | cons e rest ih =>
    obtain ⟨name, b⟩ := e
    by_cases mine : name = key
    · rw [List.filter_cons_of_neg (by simpa using mine), ih, lookup_first, mine]
      split <;> rfl
    · rw [List.filter_cons_of_pos (by simpa using mine), lookup_first, lookup_first, ih]
      by_cases same : other = name
      · rw [if_pos same, if_pos same, if_neg (same ▸ mine)]
      · rw [if_neg same, if_neg same]

-- What is found of this variable is this, and all else is as before.
structure Assigned (before after : Surroundings) (key : String) (value : Option String) : Prop where
  files : after.files = before.files
  values : ∀ other, after.valueOf? other = if other = key then value else before.valueOf? other

theorem Assigned.here {value : Option String} (assigned : Assigned around set key value) : set.valueOf? key = value :=
  (assigned.values key).trans (if_pos rfl)

theorem Assigned.elsewhere {value : Option String} (assigned : Assigned around set key value) (differs : other ≠ key) :
    set.valueOf? other = around.valueOf? other :=
  (assigned.values other).trans (if_neg differs)

theorem set_assigned (around : Surroundings) (named : canBeNamed key = true) (text : v.toUTF8.data.contains 0 = false) :
    ∃ set, around.setVariable? key v.toUTF8 = some set ∧ Assigned around set key (some v) := by
  unfold setVariable?
  rw [named, text]
  refine ⟨_, rfl, rfl, fun other => ?_⟩
  unfold valueOf?
  rw [lookup_first, lookup_others]
  by_cases same : other = key
  · rw [if_pos same, if_pos same, Option.bind_some, textOf?_toUTF8]
  · rw [if_neg same, if_neg same, if_neg same]

theorem unset_assigned (around : Surroundings) (named : canBeNamed key = true) :
    ∃ unset, around.unsetVariable? key = some unset ∧ Assigned around unset key none := by
  unfold unsetVariable?
  rw [named]
  refine ⟨_, rfl, rfl, fun other => ?_⟩
  unfold valueOf?
  rw [lookup_others]
  split <;> rfl

-- The same to all that overrides settings and reads files. The path variable may still differ.
structure Alike (around other : Surroundings) : Prop where
  files : around.files = other.files
  filled : ∀ key, around.filled? key = other.filled? key

theorem blank_alike (blank : Text.isBlank v = true) (stands : Assigned around set key (some v))
    (gone : Assigned around unset key none) : Alike set unset := by
  refine ⟨stands.files.trans gone.files.symm, fun other => ?_⟩
  unfold filled?
  by_cases same : other = key
  · rw [same, stands.here, gone.here, Option.filter_some, blank]
    rfl
  · rw [stands.elsewhere same, gone.elsewhere same]

end Surroundings

namespace Setup

variable {around other : Surroundings} {path : String}

-- The variables that a setup looks at.
def variableKeys : List String := [appNameKey, workerCountKey, queueCapacityKey, filePathKey]

theorem variables_named : ∀ key ∈ variableKeys, Surroundings.canBeNamed key = true := by decide

theorem overridden_alike (alike : around.Alike other) : overridden around = overridden other := by
  unfold overridden countVariable
  simp only [alike.filled]

theorem fileSettings_alike (files : around.files = other.files) : fileSettings around = fileSettings other := by
  unfold fileSettings
  rw [files]

theorem merged_alike (alike : around.Alike other) : merged around = merged other := by
  unfold merged
  rw [overridden_alike alike]

theorem apply_alike (alike : around.Alike other) : apply around = apply other := by
  unfold apply
  rw [overridden_alike alike]

theorem loaded_alike (alike : around.Alike other) : loaded around = loaded other := by
  unfold loaded
  rw [fileSettings_alike alike.files]

theorem fromFile_alike (alike : around.Alike other)
    (asked : Text.isBlank path = true → around.valueOf? filePathKey = other.valueOf? filePathKey) :
    configureFromFile around path = configureFromFile other path := by
  have resolves : resolvedPath around path = resolvedPath other path := by
    unfold resolvedPath
    split
    · next blank => rw [asked blank]
    · rfl
  unfold configureFromFile
  rw [apply_alike alike, loaded_alike alike, resolves]

theorem resolved_blank (around : Surroundings) {path : String} (blank : Text.isBlank path = true) :
    resolvedPath around path = (around.valueOf? filePathKey).getD placeholder := if_pos blank

theorem blank_not_placeholder {v : String} (blank : Text.isBlank v = true) : v ≠ placeholder := by
  rintro rfl
  exact absurd blank (by decide)

end Setup

namespace SetupRequest

variable {around other : Surroundings} {r : SetupRequest}

-- Whether its path is the one of the variable.
def asksVariable : SetupRequest → Bool
  | standard => true
  | fromFile path => Text.isBlank path
  | withSettings _ | fromVariables => false

theorem call_alike (alike : around.Alike other) (serving : Setup.Serving)
    (path : r.asksVariable = true → around.valueOf? Setup.filePathKey = other.valueOf? Setup.filePathKey) :
    r.call around serving = r.call other serving := by
  have applies := Setup.apply_alike alike
  cases r with
  | standard => simp only [call, Setup.standard, Setup.fromFile, Setup.fromFile_alike alike fun _ => path rfl]
  | fromFile p => simp only [call, Setup.fromFile, Setup.fromFile_alike alike path]
  | withSettings s => simp only [call, Setup.withSettings, Setup.configureWith, applies]
  | fromVariables => simp only [call, Setup.configureFromVariables, applies]

theorem plan_asking (asks : r.asksVariable = true) (around : Surroundings) (s : Settings) :
    r.plan around s = (do
      Setup.merged around (← Setup.found around ((around.valueOf? Setup.filePathKey).getD Setup.placeholder) s)) := by
  cases r with
  | standard =>
    have blank : Text.isBlank "" = true := rfl
    rw [plan, base, Setup.resolved_blank around blank]
  | fromFile path => rw [plan, base, Setup.resolved_blank around asks]
  | withSettings | fromVariables => cases asks

-- What is installed of a plan, and what is told of it.
def Carries (plan : Except SetupError Settings) (w : Shared) (ran : Procedure.Ran (Except SetupError Unit)) : Prop :=
  ran.shared.settings = plan.toOption.getD w.settings ∧ Setup.Follows plan ran.result

-- As the path of the file a blank stands as it is.
theorem blank_as_unset (around : Surroundings) (serving : Setup.Serving) {key v : String}
    (looked : key ∈ Setup.variableKeys) (blank : Text.isBlank v = true) :
    ∃ set unset, around.setVariable? key v.toUTF8 = some set ∧ around.unsetVariable? key = some unset ∧
      ∀ r : SetupRequest,
        ((key = Setup.filePathKey → r.asksVariable = false) → r.call set serving = r.call unset serving) ∧
        (key = Setup.filePathKey → r.asksVariable = true → ∀ w,
          Carries (do Setup.merged unset (← Setup.fileSettings around v)) w ((r.call set serving).run.run w) ∧
          Carries (Setup.merged unset w.settings) w ((r.call unset serving).run.run w)) := by
  have named := Setup.variables_named key looked
  obtain ⟨set, isSet, stands⟩ := Surroundings.set_assigned around named (Text.blank_bytes blank)
  obtain ⟨unset, isUnset, gone⟩ := Surroundings.unset_assigned around named
  have alike := Surroundings.blank_alike blank stands gone
  refine ⟨set, unset, isSet, isUnset, fun r => ⟨fun spared => ?_, ?_⟩⟩
  · refine call_alike alike serving fun asks => ?_
    have differs : Setup.filePathKey ≠ key := by
      rintro rfl
      rw [spared rfl] at asks
      cases asks
    rw [stands.elsewhere differs, gone.elsewhere differs]
  · rintro rfl asks w
    have carries (around : Surroundings) := call_run r around serving w
    constructor
    · have plans := plan_asking asks set w.settings
      rw [stands.here, Option.getD_some, Setup.found, if_neg (Setup.blank_not_placeholder blank),
        Setup.merged_alike alike, Setup.fileSettings_alike stands.files] at plans
      rw [← plans]
      exact carries set
    · have plans := plan_asking asks unset w.settings
      rw [gone.here, Option.getD_none, Setup.found_in_place] at plans
      have same : r.plan unset w.settings = Setup.merged unset w.settings := plans
      rw [← same]
      exact carries unset

def withBlank (key : String) : Surroundings := ⟨[(key, " \t".toUTF8)], .initial⟩

theorem blank_set {key : String} (looked : key ∈ Setup.variableKeys) :
    Surroundings.initial.setVariable? key " \t".toUTF8 = some (withBlank key) := by
  unfold Surroundings.setVariable?
  rw [Setup.variables_named key looked, Text.blank_bytes (by decide)]
  rfl

theorem initial_unset {key : String} (looked : key ∈ Setup.variableKeys) :
    Surroundings.initial.unsetVariable? key = some .initial :=
  if_pos (Setup.variables_named key looked)

-- Even the setup that is given nothing at all.
theorem blank_path_not_unset :
    ¬ ∀ (around set unset : Surroundings) (serving : Setup.Serving) (key v : String) (w : Shared),
      key ∈ Setup.variableKeys → Text.isBlank v = true → around.setVariable? key v.toUTF8 = some set →
      around.unsetVariable? key = some unset →
      ((standard.call set serving).run.run w).result.toOption =
        ((standard.call unset serving).run.run w).result.toOption := by
  intro same
  have looked : Setup.filePathKey ∈ Setup.variableKeys := by decide
  have differs := same .initial _ _ Setup.opens Setup.filePathKey " \t" .initial looked (by decide) (blank_set looked)
    (initial_unset looked)
  cases differs

theorem blank_name_and_path :
    (∀ r : SetupRequest, r.call (withBlank Setup.appNameKey) Setup.opens = r.call .initial Setup.opens) ∧
      ((standard.call (withBlank Setup.filePathKey) Setup.opens).run.run .initial).result = .error (.noFile " \t") ∧
      ((standard.call (withBlank Setup.filePathKey) Setup.opens).run.run .initial).shared.settings = .standard ∧
      ((standard.call .initial Setup.opens).run.run .initial).shared.settings = .standard := by
  have blank : Text.isBlank " \t" = true := by decide
  have nameLooked : Setup.appNameKey ∈ Setup.variableKeys := by decide
  have pathLooked : Setup.filePathKey ∈ Setup.variableKeys := by decide
  obtain ⟨set, unset, isSet, isUnset, named⟩ := blank_as_unset .initial Setup.opens nameLooked blank
  cases (blank_set nameLooked).symm.trans isSet
  cases (initial_unset nameLooked).symm.trans isUnset
  obtain ⟨set, unset, isSet, isUnset, pathed⟩ := blank_as_unset .initial Setup.opens pathLooked blank
  cases (blank_set pathLooked).symm.trans isSet
  cases (initial_unset pathLooked).symm.trans isUnset
  obtain ⟨⟨kept, told⟩, installed, _⟩ := (pathed .standard).2 rfl rfl .initial
  exact ⟨fun r => (named r).1 nofun, told, kept, installed⟩

end SetupRequest
end GuardedWork
