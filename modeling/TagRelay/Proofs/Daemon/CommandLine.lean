import TagRelay.Daemon.CommandLine

/-!
# Accepted command lines

A command is carried out exactly if its command line has the options before it, at most one path
and at most one log format in either order, and nothing else.
-/

namespace TagRelay.CommandLine

/-! ## Single arguments -/

/-- In a table without repeated keys an entry is found under its key. -/
theorem lookup_eq_some_iff_mem {β : Type} {table : List (String × β)}
    (hdistinct : (table.map Prod.fst).Nodup) {key : String} {value : β} :
    table.lookup key = some value ↔ (key, value) ∈ table := by
  induction table with
  | nil => simp
  | cons entry table ih =>
      obtain ⟨name, first⟩ := entry
      obtain ⟨hname, hrest⟩ := List.nodup_cons.mp hdistinct
      by_cases hkey : key = name
      · subst hkey
        have hother : (key, value) ∉ table := fun hmem =>
          hname (List.mem_map.mpr ⟨(key, value), hmem, rfl⟩)
        simp [hother, eq_comm]
      · have hbeq : (key == name) = false := beq_eq_false_iff_ne.mpr hkey
        simp [List.lookup_cons, hbeq, hkey, ih hrest]

theorem lookup_commands_iff {argument : String} {command : Command} :
    commands.lookup argument = some command ↔ (argument, command) ∈ commands :=
  lookup_eq_some_iff_mem (by decide)

theorem lookup_flags_iff {argument : String} {flag : Flag} :
    flags.lookup argument = some flag ↔ (argument, flag) ∈ flags :=
  lookup_eq_some_iff_mem (by decide)

theorem lookup_formats_iff {argument : String} {format : Format} :
    formats.lookup argument = some format ↔ (argument, format) ∈ formats :=
  lookup_eq_some_iff_mem (by decide)

theorem mem_commands_iff {name : String} {command : Command} :
    (name, command) ∈ commands ↔
      name = "run" ∧ command = .run ∨ name = "check-config" ∧ command = .checkConfig := by
  simp [commands]

theorem mem_flags_iff {name : String} {flag : Flag} :
    (name, flag) ∈ flags ↔
      name = "--config" ∧ flag = .config ∨ name = "--log-format" ∧ flag = .format := by
  simp [flags]

theorem immediate_ne_command {argument : String} {command : Command} {options : Options} :
    immediate argument ≠ some (.command command options) := by
  unfold immediate
  split
  · simp
  · split
    · simp
    · split <;> simp

theorem afterHelp_ne_command {arguments : List String} {command : Command} {options : Options} :
    afterHelp arguments ≠ .command command options := by
  fun_cases afterHelp arguments <;> simp_all

theorem afterCommand_eq_command_iff {command other : Command} {options final : Options}
    {arguments : List String} :
    afterCommand command options arguments = .command other final ↔
      (arguments = [] ∨ arguments = ["--"]) ∧ command = other ∧ options = final := by
  fun_cases afterCommand command options arguments <;> simp_all

/-- An argument for a flag begins like no other argument. -/
structure Passes (argument : String) : Prop where
  immediate : immediate argument = none
  command : commands.lookup argument = none
  notHelp : argument ≠ "help"
  notDashes : argument ≠ "--"

theorem passes_of_toList {argument : String} {c : Char} {rest : List Char}
    (hargument : argument.toList = '-' :: '-' :: c :: rest) (hversion : c ≠ 'v')
    (hhelp : c ≠ 'h') : Passes argument := by
  have hne {text : String} (htext : text.toList ≠ '-' :: '-' :: c :: rest) : argument ≠ text := by
    rintro rfl
    exact htext hargument
  have hcommand : commands.lookup argument = none := by
    apply Option.eq_none_iff_forall_ne_some.mpr
    intro command hcommand
    rcases mem_commands_iff.mp (lookup_commands_iff.mp hcommand) with ⟨rfl, -⟩ | ⟨rfl, -⟩
    · exact hne (by simp) rfl
    · exact hne (by simp) rfl
  refine ⟨?_, hcommand, hne (by simp), hne (by simp)⟩
  have hnotVersion : argument ≠ "--version" := hne (by simp [Ne.symm hversion])
  have hnotHelp : argument ≠ "--help" := hne (by simp [Ne.symm hhelp])
  rw [CommandLine.immediate, if_neg hnotVersion, if_neg hnotHelp, hargument]
  rfl

theorem passes_of_mem_flags {name : String} {flag : Flag} (hflag : (name, flag) ∈ flags)
    (rest : String) : Passes (name ++ rest) := by
  rcases mem_flags_iff.mp hflag with ⟨rfl, -⟩ | ⟨rfl, -⟩
  · exact passes_of_toList String.toList_append (by decide) (by decide)
  · exact passes_of_toList String.toList_append (by decide) (by decide)

theorem isPrefixOf_iff {name argument : String} :
    (name ++ "=").toList.isPrefixOf argument.toList = true ↔
      ∃ value, argument = name ++ "=" ++ value := by
  rw [List.isPrefixOf_iff_prefix]
  constructor
  · rintro ⟨rest, hrest⟩
    refine ⟨String.ofList rest, ?_⟩
    rw [← String.toList_inj, String.toList_append, String.toList_ofList, hrest]
  · rintro ⟨value, rfl⟩
    exact ⟨value.toList, String.toList_append.symm⟩

theorem ofList_drop_append (name value : String) :
    String.ofList ((name ++ "=" ++ value).toList.drop (name.length + 1)) = value := by
  have hlength : (name ++ "=").toList.length = name.length + 1 := by
    rw [String.length_toList, String.length_append]
    rfl
  rw [String.toList_append, ← hlength, List.drop_left, String.ofList_toList]

theorem attached_eq_some_iff {argument value : String} {flag : Flag} :
    attached argument = some (flag, value) ↔
      ∃ name, (name, flag) ∈ flags ∧ argument = name ++ "=" ++ value := by
  constructor
  · intro hattached
    obtain ⟨⟨name, other⟩, hflag, hvalue⟩ := List.exists_of_findSome?_eq_some hattached
    obtain ⟨hbegins, hvalue⟩ := Option.ite_none_right_eq_some.mp hvalue
    obtain ⟨text, rfl⟩ := isPrefixOf_iff.mp hbegins
    simp only [ofList_drop_append, Option.some.injEq, Prod.mk.injEq] at hvalue
    obtain ⟨rfl, rfl⟩ := hvalue
    exact ⟨name, hflag, rfl⟩
  · rintro ⟨name, hflag, rfl⟩
    rcases mem_flags_iff.mp hflag with ⟨rfl, rfl⟩ | ⟨rfl, rfl⟩
    · have hbegins := isPrefixOf_iff.mpr ⟨value, Eq.refl ("--config" ++ "=" ++ value)⟩
      have hvalue := ofList_drop_append "--config" value
      simp only [attached, flags, List.findSome?_cons, hbegins, if_true, hvalue]
    · have hbegins := isPrefixOf_iff.mpr ⟨value, Eq.refl ("--log-format" ++ "=" ++ value)⟩
      have hvalue := ofList_drop_append "--log-format" value
      have hother : ("--config" ++ "=").toList.isPrefixOf
          ("--log-format" ++ "=" ++ value).toList = false := by
        simp [List.isPrefixOf]
      simp only [attached, flags, List.findSome?_cons, hbegins, hother, if_true, hvalue]
      rfl

/-! ## Options and what follows them -/

/-- The arguments that give a flag its value. -/
inductive Gives (name value : String) : List String → Prop
  | attached : Gives name value [name ++ "=" ++ value]
  | apart (hvalue : isDashed value = false) : Gives name value [name, value]

/-- Arguments that set options one by one. -/
inductive Sets : Options → List String → Options → Prop
  | nothing {options : Options} : Sets options [] options
  | next {options next final : Options} {name value : String} {flag : Flag}
      {words rest : List String} (hflag : (name, flag) ∈ flags) (hgives : Gives name value words)
      (hset : options.set flag value = some next) (hrest : Sets next rest final) :
      Sets options (words ++ rest) final

/-- How a command line goes on after its options: with the name of the command, which may be left
out for a run. -/
inductive Ends : Command → List String → Prop
  | unnamed : Ends .run []
  | unnamedClosed : Ends .run ["--"]
  | named {name : String} {command : Command} (hcommand : (name, command) ∈ commands) :
      Ends command [name]
  | namedClosed {name : String} {command : Command} (hcommand : (name, command) ∈ commands) :
      Ends command [name, "--"]

theorem read_of_gives {options next : Options} {name value : String} {flag : Flag}
    {words : List String} (hflag : (name, flag) ∈ flags) (hgives : Gives name value words)
    (hset : options.set flag value = some next) (rest : List String) :
    read options (words ++ rest) = read next rest := by
  cases hgives with
  | attached =>
      have hattached := attached_eq_some_iff.mpr ⟨name, hflag, Eq.refl (name ++ "=" ++ value)⟩
      have hpasses := passes_of_mem_flags hflag ("=" ++ value)
      rw [← String.append_assoc] at hpasses
      generalize name ++ "=" ++ value = argument at hattached hpasses
      rw [List.singleton_append, read.eq_def]
      split
      case h_1 hnil => nomatch hnil
      case h_2 hdashes => exact absurd (List.cons.inj hdashes).1 hpasses.notDashes
      case h_3 other after _ hcons =>
        obtain ⟨rfl, rfl⟩ := List.cons.inj hcons
        simp only [hpasses.immediate, hpasses.command, if_neg hpasses.notHelp, hattached, hset]
  | apart hvalue =>
      have hlookup := lookup_flags_iff.mpr hflag
      have hpasses := passes_of_mem_flags hflag ""
      rw [String.append_empty] at hpasses
      have hattached : attached name = none := by
        rcases mem_flags_iff.mp hflag with ⟨rfl, -⟩ | ⟨rfl, -⟩ <;> rfl
      rw [List.cons_append, List.singleton_append, read.eq_def]
      simp only [hpasses.immediate, hpasses.command, if_neg hpasses.notHelp, hattached, hlookup,
        hvalue, hset]
      rfl

theorem read_of_sets {options final : Options} {set : List String}
    (hsets : Sets options set final) (ending : List String) :
    read options (set ++ ending) = read final ending := by
  induction hsets with
  | nothing => rfl
  | next hflag hgives hset _ ih => rw [List.append_assoc, read_of_gives hflag hgives hset, ih]

theorem read_of_ends {command : Command} {ending : List String} (hends : Ends command ending)
    (options : Options) : read options ending = .command command options := by
  cases hends with
  | unnamed => rfl
  | unnamedClosed => rfl
  | named hcommand =>
      rcases mem_commands_iff.mp hcommand with ⟨rfl, rfl⟩ | ⟨rfl, rfl⟩ <;> rfl
  | namedClosed hcommand =>
      rcases mem_commands_iff.mp hcommand with ⟨rfl, rfl⟩ | ⟨rfl, rfl⟩ <;> rfl

/-- A command line is one for a command exactly if it sets the options and then ends well. -/
theorem read_eq_command_iff {options final : Options} {arguments : List String}
    {command : Command} : read options arguments = .command command final ↔
      ∃ set ending, Sets options set final ∧ Ends command ending ∧ arguments = set ++ ending := by
  constructor
  · intro hread
    fun_induction read options arguments with
    | case1 options =>
        cases hread
        exact ⟨[], [], .nothing, .unnamed, rfl⟩
    | case2 options =>
        cases hread
        exact ⟨[], ["--"], .nothing, .unnamedClosed, rfl⟩
    | case3 options argument rest _ request himmediate =>
        rw [hread] at himmediate
        exact absurd himmediate immediate_ne_command
    | case4 options name rest _ _ other hother =>
        have hcommand := lookup_commands_iff.mp hother
        obtain ⟨hrest, rfl, rfl⟩ := afterCommand_eq_command_iff.mp hread
        rcases hrest with rfl | rfl
        · exact ⟨[], [name], .nothing, .named hcommand, rfl⟩
        · exact ⟨[], [name, "--"], .nothing, .namedClosed hcommand, rfl⟩
    | case5 options rest => exact absurd hread afterHelp_ne_command
    | case6 options argument rest _ _ _ _ flag value hattached next hset ih =>
        obtain ⟨name, hflag, rfl⟩ := attached_eq_some_iff.mp hattached
        obtain ⟨set, ending, hsets, hends, rfl⟩ := ih hread
        exact ⟨_, ending, .next hflag .attached hset hsets, hends, rfl⟩
    | case8 options name _ _ _ _ flag value rest hlookup next hset _ ih =>
        have hflag := lookup_flags_iff.mp hlookup
        obtain ⟨hvalue, hset⟩ := Option.ite_none_left_eq_some.mp hset
        obtain ⟨set, ending, hsets, hends, rfl⟩ := ih hread
        have hgives : Gives name value [name, value] := .apart (Bool.not_eq_true _ ▸ hvalue)
        exact ⟨_, ending, .next hflag hgives hset hsets, hends, rfl⟩
    | case7 | case9 | case10 => nomatch hread
  · rintro ⟨set, ending, hsets, hends, rfl⟩
    rw [read_of_sets hsets, read_of_ends hends]

/-! ## Options at most once -/

/-- The arguments for an option that may have had a value before, in which case there are none. -/
inductive Given {α : Type} (name : String) (Means : String → α → Prop) :
    Option α → Option α → List String → Prop
  | kept {value : Option α} : Given name Means value value []
  | given {value : α} {text : String} {words : List String} (hmeans : Means text value)
      (hgives : Gives name text words) : Given name Means none (some value) words

/-- A text that is a path. -/
def MeansPath (text path : String) : Prop := text = path ∧ text ≠ ""

/-- The name of a log format. -/
def MeansFormat (text : String) (format : Format) : Prop := (text, format) ∈ formats

theorem set_config_eq_some_iff {options next : Options} {value : String} :
    options.set .config value = some next ↔
      options.config = none ∧ value ≠ "" ∧ { options with config := some value } = next := by
  simp [Options.set, Options.setConfig, and_assoc]

theorem set_format_eq_some_iff {options next : Options} {value : String} :
    options.set .format value = some next ↔
      options.format = none ∧ ∃ format, MeansFormat value format ∧
        { options with format := some format } = next := by
  simp [Options.set, Options.setFormat, MeansFormat, ← lookup_formats_iff]

theorem Sets.append {options next final : Options} {first second : List String}
    (hfirst : Sets options first next) (hsecond : Sets next second final) :
    Sets options (first ++ second) final := by
  induction hfirst with
  | nothing => exact hsecond
  | next hflag hgives hset _ ih =>
      rw [List.append_assoc]
      exact .next hflag hgives hset (ih hsecond)

theorem Given.of_some {α : Type} {name : String} {Means : String → α → Prop} {value : α}
    {final : Option α} {words : List String} (hgiven : Given name Means (some value) final words) :
    final = some value ∧ words = [] := by
  cases hgiven
  exact ⟨rfl, rfl⟩

theorem sets_config {options : Options} {config : Option String} {words : List String}
    (hgiven : Given "--config" MeansPath options.config config words) :
    Sets options words { options with config } := by
  obtain ⟨old, format⟩ := options
  cases hgiven with
  | kept => exact .nothing
  | given hmeans hgives =>
      obtain ⟨rfl, hpath⟩ := hmeans
      rw [← List.append_nil words]
      exact .next (by decide) hgives (set_config_eq_some_iff.mpr ⟨rfl, hpath, rfl⟩) .nothing

theorem sets_format {options : Options} {format : Option Format} {words : List String}
    (hgiven : Given "--log-format" MeansFormat options.format format words) :
    Sets options words { options with format } := by
  obtain ⟨config, old⟩ := options
  cases hgiven with
  | kept => exact .nothing
  | given hmeans hgives =>
      rw [← List.append_nil words]
      exact .next (by decide) hgives (set_format_eq_some_iff.mpr ⟨rfl, _, hmeans, rfl⟩) .nothing

theorem sets_iff {options final : Options} {set : List String} :
    Sets options set final ↔ ∃ config format,
      Given "--config" MeansPath options.config final.config config ∧
      Given "--log-format" MeansFormat options.format final.format format ∧
      (set = config ++ format ∨ set = format ++ config) := by
  constructor
  · intro hsets
    induction hsets with
    | nothing => exact ⟨[], [], .kept, .kept, Or.inl rfl⟩
    | @next options next final name value flag words rest hflag hgives hset _ ih =>
        obtain ⟨config, format, hconfig, hformat, hrest⟩ := ih
        rcases mem_flags_iff.mp hflag with ⟨rfl, rfl⟩ | ⟨rfl, rfl⟩
        · obtain ⟨hnone, hpath, rfl⟩ := set_config_eq_some_iff.mp hset
          obtain ⟨hfinal, rfl⟩ := hconfig.of_some
          refine ⟨words, format, ?_, hformat, Or.inl ?_⟩
          · rw [hnone, hfinal]
            exact .given ⟨rfl, hpath⟩ hgives
          · simpa using hrest
        · obtain ⟨hnone, format, hmeans, rfl⟩ := set_format_eq_some_iff.mp hset
          obtain ⟨hfinal, rfl⟩ := hformat.of_some
          refine ⟨config, words, hconfig, ?_, Or.inr ?_⟩
          · rw [hnone, hfinal]
            exact .given hmeans hgives
          · simpa using hrest
  · rintro ⟨config, format, hconfig, hformat, rfl | rfl⟩
    · exact (sets_config hconfig).append (sets_format hformat)
    · exact (sets_format hformat).append (sets_config hconfig)

/-- A command line for a command with some options. -/
def Accepted (command : Command) (options : Options) (arguments : List String) : Prop :=
  ∃ config format ending, Given "--config" MeansPath none options.config config ∧
    Given "--log-format" MeansFormat none options.format format ∧ Ends command ending ∧
    (arguments = config ++ format ++ ending ∨ arguments = format ++ config ++ ending)

theorem ofArguments_eq_command_iff {arguments : List String} {command : Command}
    {options : Options} :
    ofArguments arguments = .command command options ↔ Accepted command options arguments := by
  rw [ofArguments, read_eq_command_iff]
  constructor
  · rintro ⟨set, ending, hsets, hends, rfl⟩
    obtain ⟨config, format, hconfig, hformat, rfl | rfl⟩ := sets_iff.mp hsets
    · exact ⟨config, format, ending, hconfig, hformat, hends, Or.inl rfl⟩
    · exact ⟨config, format, ending, hconfig, hformat, hends, Or.inr rfl⟩
  · rintro ⟨config, format, ending, hconfig, hformat, hends, rfl | rfl⟩
    · exact ⟨_, ending, sets_iff.mpr ⟨config, format, hconfig, hformat, Or.inl rfl⟩, hends, rfl⟩
    · exact ⟨_, ending, sets_iff.mpr ⟨config, format, hconfig, hformat, Or.inr rfl⟩, hends, rfl⟩

end TagRelay.CommandLine
