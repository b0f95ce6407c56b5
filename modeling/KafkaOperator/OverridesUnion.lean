import KafkaOperator.ClusterConfig

/-! # Filling in the overrides is a union

`mergeOverrides` fills the command line, the environment and the files of the overrides by three
loops that test membership in what they are extending.  For any defaults, also such that are not
those of the controller, and for failed computations:

* the command line gets the default entries that are not there, each once and in order
  (`mergeCli_appends`);
* the environment and each file get the default entries for the keys that are not there
  (`Unites`);
* a collection whose defaults cannot be computed keeps its contents.

`mergeOverrides_union` puts the three together: the result is the same for every order in which the
maps are visited, and a second call changes nothing. -/

namespace KafkaOperator

open Go

/-! ### The command line -/

/-- The list followed by the entries of `defaults` that are not in it, each once and in order. -/
def Appends (user defaults result : List String) : Prop :=
  ∃ added, result = user ++ added ∧ added.Sublist defaults ∧ added.Nodup ∧
    ∀ x, x ∈ added ↔ x ∈ defaults ∧ x ∉ user

theorem mergeCli_cons (user : List String) (cmd : String) (defaults : List String) :
    mergeCli user (cmd :: defaults) =
      mergeCli (if cmd ∈ user then user else user ++ [cmd]) defaults := rfl

theorem Appends.cons_of_mem {user defaults result : List String} {cmd : String}
    (h : Appends user defaults result) (hcmd : cmd ∈ user) : Appends user (cmd :: defaults) result := by
  obtain ⟨added, heq, hsub, hnodup, hmem⟩ := h
  refine ⟨added, heq, hsub.cons cmd, hnodup, fun x => ?_⟩
  rw [hmem, List.mem_cons]
  constructor
  · rintro ⟨hx, hnot⟩
    exact ⟨.inr hx, hnot⟩
  · rintro ⟨rfl | hx, hnot⟩
    · exact absurd hcmd hnot
    · exact ⟨hx, hnot⟩

theorem Appends.cons_of_notMem {user defaults result : List String} {cmd : String}
    (h : Appends (user ++ [cmd]) defaults result) (hcmd : cmd ∉ user) :
    Appends user (cmd :: defaults) result := by
  obtain ⟨added, heq, hsub, hnodup, hmem⟩ := h
  have hfresh : cmd ∉ added := by
    intro hadded
    exact ((hmem cmd).mp hadded).2 (List.mem_append_right _ (List.mem_singleton_self _))
  refine ⟨cmd :: added, ?_, hsub.cons_cons cmd, List.nodup_cons.mpr ⟨hfresh, hnodup⟩, fun x => ?_⟩
  · rw [heq, List.append_assoc, List.singleton_append]
  · rw [List.mem_cons, List.mem_cons, hmem, List.mem_append, List.mem_singleton, not_or]
    constructor
    · rintro (rfl | ⟨hx, hnot, -⟩)
      · exact ⟨.inl rfl, hcmd⟩
      · exact ⟨.inr hx, hnot⟩
    · rintro ⟨rfl | hx, hnot⟩
      · exact .inl rfl
      · by_cases he : x = cmd
        · exact .inl he
        · exact .inr ⟨hx, hnot, he⟩

/-- The loop over the defaults, whose test looks at what it has appended. -/
theorem mergeCli_appends (user defaults : List String) :
    Appends user defaults (mergeCli user defaults) := by
  induction defaults generalizing user with
  | nil => exact ⟨[], (List.append_nil _).symm, List.Sublist.slnil, List.nodup_nil, by simp⟩
  | cons cmd defaults ih =>
      rw [mergeCli_cons]
      by_cases hcmd : cmd ∈ user
      · rw [if_pos hcmd]
        exact (ih user).cons_of_mem hcmd
      · rw [if_neg hcmd]
        exact (ih (user ++ [cmd])).cons_of_notMem hcmd

/-- Nothing is appended where every default is there. -/
theorem mergeCli_of_subset {user defaults : List String} (h : ∀ x ∈ defaults, x ∈ user) :
    mergeCli user defaults = user := by
  induction defaults with
  | nil => rfl
  | cons cmd defaults ih =>
      rw [mergeCli_cons, if_pos (h cmd List.mem_cons_self)]
      exact ih (fun x hx => h x (List.mem_cons_of_mem _ hx))

theorem Appends.subset {user defaults result : List String} (h : Appends user defaults result) :
    ∀ x ∈ defaults, x ∈ result := by
  obtain ⟨added, rfl, -, -, hmem⟩ := h
  intro x hx
  by_cases hu : x ∈ user
  · exact List.mem_append_left _ hu
  · exact List.mem_append_right _ ((hmem x).mpr ⟨hx, hu⟩)

/-! ### Maps -/

/-- Every key of `user` with its value, and every other key of `defaults` with the default one. -/
def Unites (user defaults result : Map String String) : Prop :=
  ∀ key, result.get key = (user.get key).or (defaults.get key)

theorem fill_unites (o : Orders) (user defaults : Map String String) :
    Unites user defaults (user.fill (o.entries.list defaults)) :=
  Map.get_fill (o.entries.ranges defaults) user

theorem Unites.unique {user defaults a b : Map String String} (ha : Unites user defaults a)
    (hb : Unites user defaults b) : a = b :=
  Map.ext_get (fun key => (ha key).trans (hb key).symm)

theorem Unites.fill_again (o : Orders) {user defaults result : Map String String}
    (h : Unites user defaults result) : result.fill (o.entries.list defaults) = result := by
  refine fill_self o (fun key => ?_)
  rw [h key, Option.or_assoc, Option.or_self]

/-! ### Files -/

/-- Files that only one side names are kept whole, the others are united. -/
structure UnitesFiles (user : Map String (Option (Map String String)))
    (defaults : Map String (Map String String)) (result : Map String (Option (Map String String))) :
    Prop where
  userOnly : ∀ file, defaults.get file = none → result.get file = user.get file
  defaultOnly : ∀ file configs, user.get file = none → defaults.get file = some configs →
    result.get file = some (some configs)
  both : ∀ file m configs, user.get file = some (some m) → defaults.get file = some configs →
    ∃ m', result.get file = some (some m') ∧ Unites m configs m'

section Files

variable {user : Map String (Option (Map String String))} {defaults : Map String (Map String String)}

theorem mergeFiles_unites (o : Orders) (defaults : Map String (Map String String))
    (hu : ∀ file, user.get file ≠ some none) :
    ∃ m, mergeFiles o user (o.files.list defaults) = .ok m ∧ UnitesFiles user defaults m := by
  obtain ⟨m, hm, hget⟩ := mergeFiles_spec o (o.files.list defaults) (o.files.ranges defaults).1 user hu
  simp only [(o.files.ranges defaults).find] at hget
  refine ⟨m, hm, ?_⟩
  constructor
  case userOnly =>
    intro file hfile
    rw [hget, hfile]
  case defaultOnly =>
    intro file configs huser hfile
    rw [hget, hfile, huser]
    rfl
  case both =>
    intro file f configs huser hfile
    refine ⟨f.fill (o.entries.list configs), ?_, fill_unites o f configs⟩
    rw [hget, hfile, huser]
    rfl

theorem UnitesFiles.unique (hu : ∀ file, user.get file ≠ some none)
    {a b : Map String (Option (Map String String))} (ha : UnitesFiles user defaults a)
    (hb : UnitesFiles user defaults b) : a = b := by
  apply Map.ext_get
  intro file
  cases hfile : defaults.get file with
  | none => rw [ha.userOnly file hfile, hb.userOnly file hfile]
  | some configs =>
      match huser : user.get file with
      | none => rw [ha.defaultOnly file configs huser hfile, hb.defaultOnly file configs huser hfile]
      | some none => exact absurd huser (hu file)
      | some (some m) =>
          obtain ⟨m₁, h₁, hm₁⟩ := ha.both file m configs huser hfile
          obtain ⟨m₂, h₂, hm₂⟩ := hb.both file m configs huser hfile
          rw [h₁, h₂, hm₁.unique hm₂]

/-- Merging the same files again changes nothing. -/
theorem UnitesFiles.mergeFiles_again (o : Orders) (hu : ∀ file, user.get file ≠ some none)
    {m : Map String (Option (Map String String))} (hm : UnitesFiles user defaults m) :
    mergeFiles o m (o.files.list defaults) = .ok m := by
  apply mergeFiles_of_merged
  rintro ⟨file, configs⟩ he
  have hfile := ((o.files.ranges defaults).2 file configs).mp he
  match huser : user.get file with
  | none =>
      refine ⟨_, hm.defaultOnly file configs huser hfile, ?_⟩
      rw [mergeFile, fill_self o (fun key => Option.or_self)]
  | some none => exact absurd huser (hu file)
  | some (some f) =>
      obtain ⟨m', hget, hunites⟩ := hm.both file f configs huser hfile
      exact ⟨_, hget, by rw [mergeFile, hunites.fill_again o]⟩

end Files

/-! ### The overrides -/

/-- What filling `d` into the overrides `u` leaves behind. -/
structure UnitesOverrides (u : OverridesSpec) (d : OverrideConfiguration) (v : OverridesSpec) : Prop
    where
  cli : ∃ l, v.cliOverrides = some l ∧
    (∀ defaults, d.computeCli = .ok defaults → Appends (u.cliOverrides.getD []) defaults l) ∧
    ∀ e, d.computeCli = .err e → l = u.cliOverrides.getD []
  env : ∃ m, v.envOverrides = some m ∧
    (∀ defaults, d.computeEnv = .ok defaults → Unites (u.envOverrides.getD Map.empty) defaults m) ∧
    ∀ e, d.computeEnv = .err e → m = u.envOverrides.getD Map.empty
  files : ∃ m, v.configOverrides = some m ∧
    (∀ defaults, d.computeFile = .ok defaults →
      UnitesFiles (u.configOverrides.getD Map.empty) defaults m) ∧
    ∀ e, d.computeFile = .err e → m = u.configOverrides.getD Map.empty
  podOverrides : v.podOverrides = u.podOverrides

section Overrides

variable (u : OverridesSpec) (d : OverrideConfiguration)

/-- The command line after the first loop. -/
def cliWithDefaults : List String := match d.computeCli with
  | .ok cliConfig => mergeCli (u.cliOverrides.getD []) cliConfig
  | _ => u.cliOverrides.getD []

/-- The environment after the second. -/
def envWithDefaults (o : Orders) : Map String String := match d.computeEnv with
  | .ok envConfig => (u.envOverrides.getD Map.empty).fill (o.entries.list envConfig)
  | _ => u.envOverrides.getD Map.empty

/-- The files after the third. -/
def filesWithDefaults (o : Orders) : Outcome (Map String (Option (Map String String))) :=
  match d.computeFile with
  | .ok fileConfig => mergeFiles o (u.configOverrides.getD Map.empty) (o.files.list fileConfig)
  | _ => .ok (u.configOverrides.getD Map.empty)

theorem mergeOverrides_of_files {o : Orders} {m : Map String (Option (Map String String))}
    (h : filesWithDefaults u d o = .ok m) : mergeOverrides o u d = .ok
      { cliOverrides := some (cliWithDefaults u d)
        envOverrides := some (envWithDefaults u d o)
        configOverrides := some m
        podOverrides := u.podOverrides } := by
  unfold filesWithDefaults at h
  unfold mergeOverrides
  cases hd : d.computeFile with
  | ok defaults =>
      rw [hd] at h
      simp only [h, Outcome.ok_bind, Outcome.pure_eq]
      rfl
  | err e =>
      rw [hd] at h
      obtain rfl := Outcome.ok.inj h
      rfl
  | panic =>
      rw [hd] at h
      obtain rfl := Outcome.ok.inj h
      rfl

theorem envWithDefaults_order (o o' : Orders) : envWithDefaults u d o = envWithDefaults u d o' := by
  unfold envWithDefaults
  split
  · exact (fill_unites o _ _).unique (fill_unites o' _ _)
  · rfl

variable {u}

theorem cliWithDefaults_again {v : OverridesSpec} (hv : v.cliOverrides = some (cliWithDefaults u d)) :
    cliWithDefaults v d = cliWithDefaults u d := by
  unfold cliWithDefaults at hv ⊢
  cases hd : d.computeCli with
  | ok defaults =>
      simp only [hd] at hv
      simp only [hv, Option.getD_some]
      exact mergeCli_of_subset (mergeCli_appends _ _).subset
  | err e => simp only [hd, hv, Option.getD_some]
  | panic => simp only [hd, hv, Option.getD_some]

theorem envWithDefaults_again (o o' : Orders) {v : OverridesSpec}
    (hv : v.envOverrides = some (envWithDefaults u d o)) :
    envWithDefaults v d o' = envWithDefaults u d o := by
  unfold envWithDefaults at hv ⊢
  cases hd : d.computeEnv with
  | ok defaults =>
      simp only [hd] at hv
      simp only [hv, Option.getD_some]
      exact (fill_unites o _ _).fill_again o'
  | err e => simp only [hd, hv, Option.getD_some]
  | panic => simp only [hd, hv, Option.getD_some]

/-- The files do not depend on the order, and are not changed by a second call. -/
theorem filesWithDefaults_spec (hu : u.NoNilFile) :
    ∃ m, (∀ o, filesWithDefaults u d o = .ok m) ∧
      (∀ defaults, d.computeFile = .ok defaults →
        UnitesFiles (u.configOverrides.getD Map.empty) defaults m) ∧
      (∀ e, d.computeFile = .err e → m = u.configOverrides.getD Map.empty) ∧
      ∀ v : OverridesSpec, v.configOverrides = some m → ∀ o, filesWithDefaults v d o = .ok m := by
  have hne := getD_configOverrides_ne hu
  unfold filesWithDefaults
  cases hd : d.computeFile with
  | ok defaults =>
      obtain ⟨o⟩ : Nonempty Orders := inferInstance
      obtain ⟨m, -, hunites⟩ := mergeFiles_unites o defaults hne
      refine ⟨m, fun o' => ?_, ?_, (fun e he => nomatch he), ?_⟩
      · obtain ⟨m', hm', hunites'⟩ := mergeFiles_unites o' defaults hne
        rw [hunites.unique hne hunites']
        exact hm'
      · rintro defaults' ⟨⟩
        exact hunites
      · intro v hv o'
        rw [hv]
        exact hunites.mergeFiles_again o' hne
  | err e =>
      refine ⟨_, fun _ => rfl, (fun _ h => nomatch h), fun _ _ => rfl, fun v hv o => ?_⟩
      rw [hv]
      rfl
  | panic =>
      refine ⟨_, fun _ => rfl, (fun _ h => nomatch h), (fun _ h => nomatch h), fun v hv o => ?_⟩
      rw [hv]
      rfl

end Overrides

/-- **Filling in the overrides is the user-biased union**, for any overrides that bind no file to a
nil map and any defaults, each of which may be missing.  All orders of visiting the maps give one
result, and filling it again gives it back. -/
theorem mergeOverrides_union (u : OverridesSpec) (hu : u.NoNilFile) (d : OverrideConfiguration) :
    ∃ v, (∀ o, mergeOverrides o u d = .ok v) ∧ UnitesOverrides u d v ∧
      ∀ o, mergeOverrides o v d = .ok v := by
  obtain ⟨m, hm, hunites, hkeeps, hagain⟩ := filesWithDefaults_spec d hu
  obtain ⟨o₀⟩ : Nonempty Orders := inferInstance
  refine ⟨⟨some (cliWithDefaults u d), some (envWithDefaults u d o₀), some m, u.podOverrides⟩,
    fun o => ?_, ?_, fun o => ?_⟩
  case refine_1 =>
    rw [mergeOverrides_of_files u d (hm o), envWithDefaults_order u d o o₀]
  case refine_2 =>
    refine ⟨⟨_, rfl, ?_, ?_⟩, ⟨_, rfl, ?_, ?_⟩, ⟨_, rfl, hunites, hkeeps⟩, rfl⟩
    · intro defaults hd
      rw [cliWithDefaults, hd]
      exact mergeCli_appends _ _
    · intro e hd
      rw [cliWithDefaults, hd]
    · intro defaults hd
      rw [envWithDefaults, hd]
      exact fill_unites _ _ _
    · intro e hd
      rw [envWithDefaults, hd]
  case refine_3 =>
    rw [mergeOverrides_of_files _ d (hagain _ rfl o)]
    rw [cliWithDefaults_again d rfl, envWithDefaults_again d o₀ o rfl]

/-- Overrides with an entry on the command line, one file and no environment. -/
def quietOverrides : OverridesSpec where
  cliOverrides := some ["--quiet"]
  envOverrides := none
  configOverrides := some (Map.empty.set "log4j.properties" (some Map.empty))
  podOverrides := none

/-- Defaults that repeat an entry and know nothing of the files. -/
def repeatingDefaults : OverrideConfiguration where
  computeEnv := .ok Map.empty
  computeFile := .err "no files"
  computeCli := .ok ["--daemon", "--quiet", "--daemon"]

theorem mergeOverrides_union_quiet :
    quietOverrides.NoNilFile ∧ ∃ v, (∀ o, mergeOverrides o quietOverrides repeatingDefaults = .ok v) ∧
      v.cliOverrides = some ["--quiet", "--daemon"] ∧
      v.configOverrides = quietOverrides.configOverrides := by
  have hnil : quietOverrides.NoNilFile := by
    rintro m ⟨⟩ file
    rw [Map.get_set]
    split <;> simp
  obtain ⟨v, hv, -, -⟩ := mergeOverrides_union quietOverrides hnil repeatingDefaults
  obtain ⟨o⟩ : Nonempty Orders := inferInstance
  obtain rfl := Outcome.ok.inj (hv o)
  have hcli : mergeCli ["--quiet"] ["--daemon", "--quiet", "--daemon"] = ["--quiet", "--daemon"] := by
    decide
  exact ⟨hnil, _, hv, congrArg some hcli, rfl⟩

end KafkaOperator
