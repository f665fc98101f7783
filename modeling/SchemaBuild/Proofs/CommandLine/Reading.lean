import SchemaBuild.CommandLine

/-!
# Reading arguments to the end

The arguments of the compile command are read one by one, and each either takes its place or ends
the reading. Whatever was found in the next argument is settled before anything else is done, so
that a reading goes on as one in which nothing waits. A word that looks like an option is neither a
value nor a position: the option before it still lacks its value then, or a position is left empty.
-/

namespace SchemaBuild.CommandLine

/-- A word that starts with a dash and goes on is read as an option where one may stand. -/
def looksLikeOption (argument : String) : Bool :=
  match argument.toList with
  | '-' :: _ :: _ => true
  | _ => false

def Given.withValue (given : Given) (name value : String) : Given :=
  { given with values := given.values ++ [(name, value)] }

def Given.withValues (given : Given) (name : String) (values : List String) : Given :=
  { given with values := given.values ++ values.map fun value => (name, value) }

namespace Reading

variable {reading settled next : Reading} {given final : Given} {rule : CommandRule}
  {argument : String} {arguments : List String}

/-! ## Settled readings -/

theorem accept_waiting {option : OptionRule} {value : String}
    (accepted : reading.accept option value = .ok next) :
    next.waiting = reading.waiting ∧ next.optionsEnded = reading.optionsEnded := by
  unfold accept at accepted
  split at accepted
  · cases accepted
  · obtain rfl := Except.ok.inj accepted
    exact ⟨rfl, rfl⟩

theorem settle_waiting (settles : reading.settle = .ok settled) :
    settled.waiting = none ∧ settled.optionsEnded = reading.optionsEnded := by
  unfold settle at settles
  split at settles
  · obtain rfl := Except.ok.inj settles
    exact ⟨rfl, rfl⟩
  · cases settles
  · exact accept_waiting settles

theorem settle_of_not_waiting (free : reading.waiting = none) : reading.settle = .ok reading := by
  unfold settle
  rw [free]
  obtain ⟨given, waiting, ended⟩ := reading
  cases free
  rfl

theorem lacking?_of_settle (settles : reading.settle = .ok settled) : reading.lacking? = none := by
  unfold settle at settles
  unfold lacking?
  split at settles
  next waits => rw [waits]
  next => cases settles
  next option value waits => rw [waits]

theorem settle_optionsEnded (settles : reading.settle = .ok settled) :
    Reading.settle { reading with optionsEnded := true } =
      .ok { settled with optionsEnded := true } := by
  obtain ⟨given, waiting, ended⟩ := reading
  rcases waiting with none | ⟨option, none | value⟩
  · obtain rfl := Except.ok.inj settles
    rfl
  · cases settles
  · simp only [settle, accept] at settles ⊢
    split at settles
    · cases settles
    next once =>
      obtain rfl := Except.ok.inj settles
      exact if_neg once

theorem step_of_settle (settles : reading.settle = .ok settled)
    (goesOn : reading.optionsEnded = false → argument.toList ≠ ['-', '-']) :
    reading.step rule argument = settled.step rule argument := by
  obtain ⟨free, ended⟩ := settle_waiting settles
  have again := settle_of_not_waiting free
  have place : reading.place rule argument = settled.place rule argument := by
    unfold Reading.place
    rw [settles, again]
  have plain : reading.plain rule argument = settled.plain rule argument := by
    unfold Reading.plain
    rw [lacking?_of_settle settles, lacking?_of_settle again, place]
  have long (text : List Char) : reading.long rule text = settled.long rule text := by
    unfold Reading.long
    rw [settles, again]
  have short (letters : List Char) : reading.short letters = settled.short letters := by
    unfold Reading.short
    rw [settles, again]
  unfold step
  rw [lacking?_of_settle settles, lacking?_of_settle again, ended, place, plain]
  cases isEnded : reading.optionsEnded with
  | true => rfl
  | false =>
      simp only [Option.any_none, Bool.false_eq_true, if_false]
      split
      next ends => exact absurd ends (goesOn isEnded)
      next => exact long _
      next => exact short _
      next => rfl

/-! ## Reading to the end -/

def Completes (reading : Reading) (arguments : List String) (given : Given) : Prop :=
  ∃ last rest settled, run compileRule reading arguments = .ok (last, rest) ∧
    last.settle = .ok settled ∧ settled.given = given

theorem completes_nil :
    Completes reading [] given ↔
      ∃ settled, reading.settle = .ok settled ∧ settled.given = given := by
  constructor
  · rintro ⟨last, rest, settled, ran, settles, equal⟩
    simp only [run, Except.ok.injEq, Prod.mk.injEq] at ran
    exact ⟨settled, ran.1 ▸ settles, equal⟩
  · rintro ⟨settled, settles, equal⟩
    exact ⟨reading, none, settled, rfl, settles, equal⟩

theorem completes_cons :
    Completes reading (argument :: arguments) given ↔
      ∃ next, reading.step compileRule argument = .ok next ∧ Completes next arguments given := by
  have noCommand : compileRule.commands.contains argument = false := rfl
  simp only [Completes, run, noCommand, Bool.and_false, Bool.false_eq_true, if_false]
  cases stepped : reading.step compileRule argument with
  | error stop => simp
  | ok next => simp

theorem completes_of_settle (settles : reading.settle = .ok settled) :
    Completes reading arguments given ↔ Completes settled arguments given := by
  induction arguments generalizing reading settled with
  | nil =>
      rw [completes_nil, completes_nil, settles, settle_of_not_waiting (settle_waiting settles).1]
  | cons argument arguments induction =>
      rw [completes_cons, completes_cons]
      by_cases ends : reading.optionsEnded = false ∧ argument.toList = ['-', '-']
      case neg =>
        rw [step_of_settle settles fun goesOn isEnd => ends ⟨goesOn, isEnd⟩]
      case pos =>
        -- Here alone a reading goes on without being settled.
        obtain ⟨free, ended⟩ := settle_waiting settles
        have step (other : Reading) (goesOn : other.optionsEnded = false)
            (lacksNone : other.lacking? = none) :
            other.step compileRule argument = .ok { other with optionsEnded := true } := by
          simp [Reading.step, goesOn, lacksNone, ends.2]
        rw [step reading ends.1 (lacking?_of_settle settles),
          step settled (ended.trans ends.1) (lacking?_of_settle (settle_of_not_waiting free))]
        simp only [Except.ok.injEq, exists_eq_left']
        exact induction (settle_optionsEnded settles)

/-! ## Words that look like options -/

def lacking (given : Given) (option : OptionRule) : Reading where
  given := given
  waiting := some (option, none)

def supplied (given : Given) (option : OptionRule) (value : String) : Reading where
  given := given
  waiting := some (option, some value)

theorem settle_of_waiting {option : OptionRule} (waits : reading.waiting = some (option, none)) :
    reading.settle = .error (.missingValue option.name) := by
  simp [settle, waits]

theorem long_ne_ok {stop : Stop} (unsettled : reading.settle = .error stop) (rule : CommandRule)
    (text : List Char) (next : Reading) : reading.long rule text ≠ .ok next := by
  unfold long
  simp only [unsettled]
  split
  · split <;> simp [discard, Functor.discard, Functor.mapConst, Except.map, bind, Except.bind]
  · simp
  · split <;> simp [bind, Except.bind]

theorem short_ne_ok (reading : Reading) (letters : List Char) (next : Reading) :
    reading.short letters ≠ .ok next := by
  unfold short
  split
  · cases reading.settle <;> simp [discard, Functor.discard, Functor.mapConst, Except.map, bind,
      Except.bind]
  · cases reading.settle <;> simp [discard, Functor.discard, Functor.mapConst, Except.map, bind,
      Except.bind]
  · simp

/-- Once the options ended, an option that lacks its value can never get one. -/
theorem not_completes_of_waiting {option : OptionRule} (ended : reading.optionsEnded = true)
    (waits : reading.waiting = some (option, none)) : ¬Completes reading arguments given := by
  have unsettled := settle_of_waiting waits
  cases arguments with
  | nil => simp [completes_nil, unsettled]
  | cons argument arguments =>
      simp [completes_cons, Reading.step, ended, place, unsettled, bind, Except.bind]

/-- The argument after an option is its value, unless it looks like an option itself. -/
theorem completes_lacking {option : OptionRule} {value : String}
    (careful : option.takesAnything = false) :
    Completes (lacking given option) (value :: arguments) final ↔
      looksLikeOption value = false ∧ Completes (supplied given option value) arguments final := by
  have unsettled : (lacking given option).settle = .error (.missingValue option.name) :=
    settle_of_waiting rfl
  have lacks : (lacking given option).lacking? = some option := rfl
  have goesOn : (lacking given option).optionsEnded = false := rfl
  rw [completes_cons]
  simp only [Reading.step, goesOn, lacks, Option.any_some, careful, Bool.false_eq_true, if_false]
  split
  next isEnd =>
    have never : ¬Completes { lacking given option with optionsEnded := true } arguments final :=
      not_completes_of_waiting rfl rfl
    simp [looksLikeOption, isEnd, never]
  next isLong => simp [looksLikeOption, isLong, long_ne_ok unsettled]
  next isShort => simp [looksLikeOption, isShort, short_ne_ok]
  next noEnd noLong noShort =>
    have noOption : looksLikeOption value = false := by
      unfold looksLikeOption
      split
      next letter letters isOption => exact absurd isOption (noShort letter letters)
      next => rfl
    simp only [plain, lacks, noOption, true_and, Except.ok.injEq, exists_eq_left']
    rfl

/-! ## Options -/

theorem settle_given (given : Given) : Reading.settle { given := given } = .ok { given := given } :=
  rfl

theorem settle_supplied {option : OptionRule} {value : String}
    (fresh : option.kind = .single → given.value? option.name = none) :
    (supplied given option value).settle = .ok { given := given.withValue option.name value } := by
  have accepted : ¬(option.kind = .single && (given.value? option.name).isSome) = true := by
    intro refused
    simp only [Bool.and_eq_true, decide_eq_true_eq] at refused
    simp [fresh refused.1] at refused
  simp [settle, supplied, accept, Given.withValue, accepted]

theorem step_long {text : String} (nonempty : text.toList ≠ []) :
    Reading.step { given := given } compileRule ("--" ++ text) =
      Reading.long { given := given } compileRule text.toList := by
  obtain ⟨first, others, spelled⟩ := List.exists_cons_of_ne_nil nonempty
  simp [Reading.step, lacking?, spelled]

def takers : List OptionRule := [
  ⟨"xsdc", .single, false⟩, ⟨"package", .single, false⟩, ⟨"include", .many, false⟩,
  ⟨"depfile", .single, false⟩, ⟨"depfile-target", .many, false⟩]

theorem step_option {option : OptionRule} (known : option ∈ takers) :
    Reading.step { given := given } compileRule ("--" ++ option.name) =
      .ok (lacking given option) := by
  simp only [takers, List.mem_cons, List.not_mem_nil, or_false] at known
  rcases known with rfl | rfl | rfl | rfl | rfl <;>
    rw [step_long (by decide)] <;>
    simp [long, compileRule, settle_given, bind, Except.bind, lacking]

theorem completes_option (option : OptionRule) {value : String} (known : option ∈ takers)
    (fresh : option.kind = .single → given.value? option.name = none) :
    Completes { given := given } (("--" ++ option.name) :: value :: arguments) final ↔
      looksLikeOption value = false ∧
        Completes { given := given.withValue option.name value } arguments final := by
  have allCareful : ∀ option ∈ takers, option.takesAnything = false := by decide
  rw [completes_cons, step_option known]
  simp only [Except.ok.injEq, exists_eq_left']
  rw [completes_lacking (allCareful option known), completes_of_settle (settle_supplied fresh)]

theorem completes_options (option : OptionRule) {values : List String} (known : option ∈ takers)
    (many : option.kind = .many) :
    Completes { given := given }
        ((values.flatMap fun value => ["--" ++ option.name, value]) ++ arguments) final ↔
      (∀ value ∈ values, looksLikeOption value = false) ∧
        Completes { given := given.withValues option.name values } arguments final := by
  induction values generalizing given with
  | nil => simp [Given.withValues]
  | cons head tail induction =>
      have more : (given.withValue option.name head).withValues option.name tail =
          given.withValues option.name (head :: tail) := by
        simp [Given.withValue, Given.withValues]
      rw [List.flatMap_cons, List.append_assoc, List.cons_append, List.cons_append, List.nil_append,
        completes_option option known (by simp [many]), induction, more, List.forall_mem_cons,
        and_assoc]

theorem completes_arguments {values : List String} :
    Completes { given := given } (values.map ("--xsdc-arg=" ++ ·) ++ arguments) final ↔
      Completes { given := given.withValues "xsdc-arg" values } arguments final := by
  induction values generalizing given with
  | nil => simp [Given.withValues]
  | cons head tail induction =>
      have more : (given.withValue "xsdc-arg" head).withValues "xsdc-arg" tail =
          given.withValues "xsdc-arg" (head :: tail) := by
        simp [Given.withValue, Given.withValues]
      have spelled : "--xsdc-arg=" ++ head = "--" ++ ("xsdc-arg=" ++ head) := by
        rw [← String.append_assoc]
        rfl
      have step : Reading.step { given := given } compileRule ("--xsdc-arg=" ++ head) =
          .ok { given := given.withValue "xsdc-arg" head } := by
        rw [spelled, step_long (by simp)]
        simp [long, compileRule, settle_given, bind, Except.bind, accept, Given.withValue]
      rw [List.map_cons, List.cons_append, completes_cons, step]
      simp only [Except.ok.injEq, exists_eq_left']
      rw [induction, more]

theorem completes_archive (fresh : given.has "archive" = false) :
    Completes { given := given } ("--archive" :: arguments) final ↔
      Completes { given := { given with switches := given.switches ++ ["archive"] } } arguments
        final := by
  have step : Reading.step { given := given } compileRule "--archive" =
      .ok { given := { given with switches := given.switches ++ ["archive"] } } := by
    rw [show "--archive" = "--" ++ "archive" from rfl, step_long (by decide)]
    simp [long, compileRule, settle_given, bind, Except.bind, turnOn, fresh]
  rw [completes_cons, step]
  simp only [Except.ok.injEq, exists_eq_left']

/-! ## Positions -/

def placed (reading : Reading) : Nat :=
  reading.given.positionals.length

theorem placed_accept {option : OptionRule} {value : String}
    (accepted : reading.accept option value = .ok next) : next.placed = reading.placed := by
  unfold accept at accepted
  split at accepted
  · cases accepted
  · obtain rfl := Except.ok.inj accepted
    rfl

theorem placed_settle (settles : reading.settle = .ok settled) :
    settled.placed = reading.placed := by
  unfold settle at settles
  split at settles
  · obtain rfl := Except.ok.inj settles
    rfl
  · cases settles
  · exact (placed_accept settles).trans rfl

theorem placed_turnOn {name : String} (turned : reading.turnOn name = .ok next) :
    next.placed = reading.placed := by
  unfold turnOn at turned
  split at turned
  · cases turned
  · obtain rfl := Except.ok.inj turned
    rfl

theorem placed_long {text : List Char} (read : reading.long rule text = .ok next) :
    next.placed = reading.placed := by
  cases settles : reading.settle with
  | error stop => exact absurd read (long_ne_ok settles rule text next)
  | ok settled =>
      rw [← placed_settle settles]
      unfold long at read
      simp only [settles] at read
      split at read
      · split at read <;> simp [discard, Functor.discard, Functor.mapConst, Except.map, bind,
          Except.bind] at read
      · simp at read
      · split at read
        · simp at read
        · exact placed_turnOn read
        · exact placed_accept read
        · simp only [bind, Except.bind, Except.ok.injEq] at read
          subst read
          rfl

theorem placed_place (read : reading.place rule argument = .ok next) :
    next.placed = reading.placed + 1 := by
  cases settles : reading.settle with
  | error stop => simp [place, settles, bind, Except.bind] at read
  | ok settled =>
      rw [← placed_settle settles]
      simp only [place, settles, bind, Except.bind] at read
      split at read
      · obtain rfl := Except.ok.inj read
        simp [placed]
      · cases read

theorem placed_plain (read : reading.plain rule argument = .ok next) :
    next.placed ≤ reading.placed + 1 := by
  unfold plain at read
  split at read
  · obtain rfl := Except.ok.inj read
    exact Nat.le_succ _
  · exact Nat.le_of_eq (placed_place read)

theorem placed_step (read : reading.step rule argument = .ok next) :
    next.placed ≤ reading.placed + 1 := by
  unfold step at read
  split at read
  · exact Nat.le_of_eq (placed_place read)
  · split at read
    · exact placed_plain read
    · split at read
      · obtain rfl := Except.ok.inj read
        exact Nat.le_succ _
      · exact Nat.le_trans (Nat.le_of_eq (placed_long read)) (Nat.le_succ _)
      · exact absurd read (short_ne_ok _ _ _)
      · exact placed_plain read

/-- A word that looks like an option adds no position. -/
theorem placed_step_of_option (isOption : looksLikeOption argument = true)
    (read : Reading.step { given := given } compileRule argument = .ok next) :
    next.placed = given.positionals.length := by
  simp only [Reading.step, lacking?, Option.any_none, Bool.false_eq_true, if_false] at read
  split at read
  · obtain rfl := Except.ok.inj read
    rfl
  · exact placed_long read
  · exact absurd read (short_ne_ok _ _ _)
  next noShort =>
    unfold looksLikeOption at isOption
    split at isOption
    next letter letters spelled => exact absurd spelled (noShort letter letters)
    next => cases isOption

theorem step_position (noOption : looksLikeOption argument = false)
    (room : given.positionals.length < 2) :
    Reading.step { given := given } compileRule argument =
      .ok { given := { given with positionals := given.positionals ++ [argument] } } := by
  have room' : given.positionals.length < compileRule.positionals.length := room
  unfold looksLikeOption at noOption
  simp only [Reading.step, lacking?, Option.any_none, Bool.false_eq_true, if_false]
  split
  next spelled => simp [spelled] at noOption
  next spelled => simp [spelled] at noOption
  next spelled => simp [spelled] at noOption
  next => simp [plain, lacking?, place, settle_given, bind, Except.bind, room']

theorem completes_positions (empty : given.positionals = []) (first second : String) :
    (Completes { given := given } [first, second] final ∧ 2 ≤ final.positionals.length) ↔
      looksLikeOption first = false ∧ looksLikeOption second = false ∧
        final = { given with positionals := [first, second] } := by
  have none : given.positionals.length = 0 := by rw [empty]; rfl
  constructor
  · rintro ⟨completes, filled⟩
    obtain ⟨middle, firstRead, completes⟩ := completes_cons.1 completes
    obtain ⟨last, secondRead, completes⟩ := completes_cons.1 completes
    obtain ⟨settled, settles, rfl⟩ := completes_nil.1 completes
    have enough : 2 ≤ last.placed := placed_settle settles ▸ filled
    have notLess := placed_step secondRead
    cases firstOption : looksLikeOption first with
    | true =>
        have unchanged := placed_step_of_option firstOption firstRead
        omega
    | false =>
        rw [step_position firstOption (by omega)] at firstRead
        obtain rfl := Except.ok.inj firstRead
        cases secondOption : looksLikeOption second with
        | true =>
            have unchanged := placed_step_of_option secondOption secondRead
            simp only [List.length_append, List.length_singleton] at unchanged
            omega
        | false =>
            rw [step_position secondOption (by simp [none])] at secondRead
            obtain rfl := Except.ok.inj secondRead
            obtain rfl := Except.ok.inj settles
            simp [empty]
  · rintro ⟨firstPlain, secondPlain, rfl⟩
    refine ⟨?_, Nat.le_refl _⟩
    rw [completes_cons, step_position firstPlain (by omega)]
    simp only [Except.ok.injEq, exists_eq_left']
    rw [completes_cons, step_position secondPlain (by simp [none])]
    simp only [Except.ok.injEq, exists_eq_left']
    rw [completes_nil]
    exact ⟨_, rfl, by simp [empty]⟩

end Reading

end SchemaBuild.CommandLine
