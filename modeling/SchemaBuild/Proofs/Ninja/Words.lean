import Mathlib.Data.List.Forall2
import SchemaBuild.Ninja
import SchemaBuild.Proofs.PlainText

/-!
# The words of a rule's command

A rule is a line of text with variables. Running it for an action puts the values of the
variables in their places and hands the line to a shell, which splits it into words. This reading
is defined here on its own and compared with the words that an action is meant to pass on.
-/

namespace SchemaBuild.Ninja

/-! ## Values of variables -/

/-- The value of a binding, where a doubled dollar stands for one. -/
def unescape : List Char → List Char
  | [] => []
  | '$' :: '$' :: rest => '$' :: unescape rest
  | character :: rest => character :: unescape rest

theorem toList_value (text : String) :
    (value text).toList =
      text.toList.flatMap fun character => if character = '$' then ['$', '$'] else [character] := by
  rw [value, String.toList_ofList]

theorem unescape_cons {character : Char} (notDollar : character ≠ '$') (rest : List Char) :
    unescape (character :: rest) = character :: unescape rest := by
  rw [unescape]
  intro tail equal
  exact absurd equal notDollar

theorem unescape_value (text : String) : unescape (value text).toList = text.toList := by
  rw [toList_value]
  induction text.toList with
  | nil => rfl
  | cons head tail induction =>
      by_cases dollar : head = '$'
      · simpa [dollar, unescape] using induction
      · simpa [dollar, unescape_cons dollar] using induction

theorem value_append (left right : String) : value (left ++ right) = value left ++ value right := by
  apply String.toList_inj.1
  simp [toList_value]

theorem value_of_plain {text : String} (plain : '$' ∉ text.toList) : value text = text := by
  have unchanged : ∀ characters : List Char, '$' ∉ characters →
      (characters.flatMap fun character => if character = '$' then ['$', '$'] else [character]) =
        characters := by
    intro characters absent
    induction characters with
    | nil => rfl
    | cons head tail induction =>
        have notDollar : head ≠ '$' := (List.ne_of_not_mem_cons absent).symm
        simp [notDollar, induction (List.not_mem_of_not_mem_cons absent)]
  apply String.toList_inj.1
  rw [toList_value, unchanged _ plain]

theorem intercalate_map_value (texts : List String) :
    " ".intercalate (texts.map value) = value (" ".intercalate texts) := by
  induction texts with
  | nil => rfl
  | cons head tail induction =>
      cases tail with
      | nil => simp
      | cons next rest =>
          have blank : value " " = " " := value_of_plain (by decide)
          simp only [List.map_cons, String.intercalate_cons_cons] at induction ⊢
          rw [induction, value_append, value_append, blank]

/-! ## Shell words -/

/-- Read words, as blanks separate them and single quotes hold them together. `quoted` tells
whether a quote is open, and `word` is the word so far, if one was begun. -/
def splitShell : Bool → Option (List Char) → List Char → List (List Char)
  | _, word, [] => word.toList
  | true, word, character :: rest =>
      if character = '\'' then splitShell false word rest
      else splitShell true (some (word.getD [] ++ [character])) rest
  | false, word, character :: rest =>
      if character = '\'' then splitShell true (some (word.getD [])) rest
      else if character = ' ' then word.toList ++ splitShell false none rest
      else splitShell false (some (word.getD [] ++ [character])) rest

def shellWords (line : List Char) : List (List Char) :=
  splitShell false none line

inductive Spells : List Char → List Char → Prop
  | plain {word : List Char} (nonempty : word ≠ [])
      (clear : ∀ character ∈ word, character ≠ ' ' ∧ character ≠ '\'') : Spells word word
  | quoted {word : List Char} (clear : '\'' ∉ word) : Spells ('\'' :: word ++ ['\'']) word

theorem splitShell_plain (word : List Char)
    (clear : ∀ character ∈ word, character ≠ ' ' ∧ character ≠ '\'')
    (begun rest : List Char) :
    splitShell false (some begun) (word ++ rest) =
      splitShell false (some (begun ++ word)) rest := by
  induction word generalizing begun with
  | nil => simp
  | cons head tail induction =>
      obtain ⟨notBlank, notQuote⟩ := clear head (List.mem_cons_self ..)
      rw [List.cons_append, splitShell, if_neg notQuote, if_neg notBlank]
      simpa using induction (fun other member => clear other (List.mem_cons_of_mem _ member))
        (begun ++ [head])

theorem splitShell_quoted (word : List Char) (clear : '\'' ∉ word) (begun rest : List Char) :
    splitShell true (some begun) (word ++ '\'' :: rest) =
      splitShell false (some (begun ++ word)) rest := by
  induction word generalizing begun with
  | nil => simp [splitShell]
  | cons head tail induction =>
      have notQuote : head ≠ '\'' := (List.ne_of_not_mem_cons clear).symm
      rw [List.cons_append, splitShell, if_neg notQuote]
      simpa using induction (List.not_mem_of_not_mem_cons clear) (begun ++ [head])

theorem Spells.splitShell {text word : List Char} (spells : Spells text word)
    (rest : List Char) :
    splitShell false none (text ++ rest) = Ninja.splitShell false (some word) rest := by
  cases spells with
  | plain nonempty clear =>
      obtain ⟨head, tail, rfl⟩ := List.exists_cons_of_ne_nil nonempty
      obtain ⟨notBlank, notQuote⟩ := clear head (List.mem_cons_self ..)
      rw [List.cons_append, Ninja.splitShell, if_neg notQuote, if_neg notBlank]
      exact splitShell_plain tail
        (fun other member => clear other (List.mem_cons_of_mem _ member)) [head] rest
  | quoted clear =>
      rw [List.cons_append, List.cons_append, Ninja.splitShell, if_pos rfl, List.append_assoc]
      exact splitShell_quoted word clear [] rest

theorem shellWords_single {text word : List Char} (spells : Spells text word) :
    shellWords text = [word] := by
  have read := spells.splitShell []
  rw [List.append_nil] at read
  exact read

theorem shellWords_cons {text word : List Char} (spells : Spells text word) (rest : List Char) :
    shellWords (text ++ ' ' :: rest) = word :: shellWords rest := by
  rw [shellWords, spells.splitShell, Ninja.splitShell, if_neg (by decide), if_pos rfl]
  rfl

theorem shellWords_intercalate {texts words : List (List Char)}
    (spelled : List.Forall₂ Spells texts words) (rest : List Char) :
    shellWords ([' '].intercalate texts ++ ' ' :: rest) = words ++ shellWords rest := by
  induction spelled with
  | nil => rfl
  | cons spells others induction =>
      cases others with
      | nil => simpa using shellWords_cons spells rest
      | cons next others =>
          rw [List.intercalate_cons_cons, List.append_assoc, List.append_assoc,
            List.singleton_append, shellWords_cons spells, induction]
          rfl

/-! ## Rules -/

/-- Put the values of variables in the places of their names. `name` is the name that is being
read, if a brace was opened. -/
def expandFrom (bindings : String → List Char) : Option (List Char) → List Char → List Char
  | _, [] => []
  | none, '$' :: '\x7b' :: rest => expandFrom bindings (some []) rest
  | none, character :: rest => character :: expandFrom bindings none rest
  | some name, character :: rest =>
      if character = '\x7d' then bindings (String.ofList name) ++ expandFrom bindings none rest
      else expandFrom bindings (some (name ++ [character])) rest

def commandTail : Language → String
  | .java =>
      "compile --xsdc '$\x7bxsdc\x7d' --package $\x7bpkg_name\x7d --archive " ++
        "--depfile $\x7bout\x7d.d $\x7bcompile_args\x7d $\x7bin\x7d $\x7bout\x7d"
  | .cpp =>
      "compile --xsdc '$\x7bxsdc\x7d' --package $\x7bpkg_name\x7d " ++
        "--depfile $\x7bcpp_depfile\x7d $\x7bcompile_args\x7d $\x7bin\x7d $\x7bout_dir\x7d"

/-- Every file has these commands under the names of their rules. -/
theorem header_command (toolchain : Toolchain) (language : Language) :
    ∃ before after, header toolchain =
      before ++ ("rule " ++ language.rule) ::
        ("  command = $\x7bxsd_config\x7d " ++ commandTail language) :: after := by
  cases language with
  | java =>
      refine ⟨(header toolchain).take 6, (header toolchain).drop 8, ?_⟩
      simp only [header, List.take, List.drop, List.cons_append, List.nil_append, List.cons.injEq,
        and_true, true_and]
      decide +kernel
  | cpp =>
      refine ⟨(header toolchain).take 12, (header toolchain).drop 14, ?_⟩
      simp only [header, List.take, List.drop, List.cons_append, List.nil_append, List.cons.injEq,
        and_true, true_and]
      decide +kernel

/-- The variables of a rule as it is run for an action: those bound in the file are read from
there, and the inputs and outputs come from the build line. -/
def bindings (toolchain : Toolchain) (action : Action) (name : String) : List Char :=
  if name = "xsdc" then unescape (value toolchain.xsdc).toList
  else if name = "pkg_name" then unescape (value action.packageName).toList
  else if name = "out_dir" then unescape (value action.output.text).toList
  else if name = "cpp_depfile" then unescape (value action.depfile.text).toList
  else if name = "compile_args" then unescape (" ".intercalate (compileArgs action)).toList
  else if name = "in" then action.input.text.toList
  else if name = "out" then (" ".intercalate (action.outputs.map Path.text)).toList
  else []

def arguments (toolchain : Toolchain) (action : Action) : List String :=
  (shellWords (expandFrom (bindings toolchain action) none
    (commandTail action.language).toList)).map String.ofList

/-- Words that the rule of an action, as it stands at the top of a file, passes to the program once
its variables are put in. -/
def Denotes (toolchain : Toolchain) (action : Action) (words : List String) : Prop :=
  ∃ before tail after, header toolchain =
      before ++ ("rule " ++ action.language.rule) ::
        ("  command = $\x7bxsd_config\x7d " ++ tail) :: after ∧
    words = (shellWords (expandFrom (bindings toolchain action) none tail.toList)).map String.ofList

theorem denotes_arguments (toolchain : Toolchain) (action : Action) :
    Denotes toolchain action (arguments toolchain action) := by
  obtain ⟨before, after, spelled⟩ := header_command toolchain action.language
  exact ⟨before, commandTail action.language, after, spelled, rfl⟩

/-! ## What the arguments are -/

def compileWords (action : Action) : List String :=
  action.implicitInputs.flatMap (fun input => ["--include", input.text]) ++
    action.args.map ("--xsdc-arg=" ++ ·) ++
    match action.language with
    | .java => []
    | .cpp => action.outputs.flatMap fun output => ["--depfile-target", output.text]

/-- The arguments of the rule of an action, as they are meant. -/
def plainArguments (xsdc : String) (action : Action) : List String :=
  ["compile", "--xsdc", xsdc, "--package", action.packageName] ++
    (match action.language with
     | .java => ["--archive"]
     | .cpp => []) ++
    ["--depfile", action.depfile.text] ++ compileWords action ++
    [action.input.text, action.output.text]

def IsWord (text : String) : Prop :=
  text.toList ≠ [] ∧ ∀ character ∈ text.toList, character ≠ ' ' ∧ character ≠ '\''

instance (text : String) : Decidable (IsWord text) :=
  @instDecidableAnd _ _ _ (List.decidableBAll _ text.toList)

theorem IsWord.spells {text : String} (isWord : IsWord text) : Spells text.toList text.toList :=
  .plain isWord.1 isWord.2

def IsQuotedWord (text : String) : Prop :=
  '\'' ∉ text.toList

def compileTexts (action : Action) : List String :=
  action.implicitInputs.flatMap (fun input => ["--include", "'" ++ input.text ++ "'"]) ++
    action.args.map (fun argument => "'" ++ ("--xsdc-arg=" ++ argument) ++ "'") ++
    match action.language with
    | .java => []
    | .cpp => action.outputs.flatMap fun output => ["--depfile-target", "'" ++ output.text ++ "'"]

theorem value_quoted (text : String) : value ("'" ++ text ++ "'") = shellWord text := by
  have quote : value "'" = "'" := value_of_plain (by decide)
  rw [value_append, value_append, quote, shellWord]

theorem compileArgs_eq (action : Action) :
    compileArgs action = (compileTexts action).map value := by
  have include_ : value "--include" = "--include" := value_of_plain (by decide)
  have target : value "--depfile-target" = "--depfile-target" := value_of_plain (by decide)
  unfold compileArgs compileTexts
  cases action.language <;>
    simp [List.map_flatMap, include_, target, ← value_quoted, Function.comp_def]

section Reading

-- However words are read: a text without a single quote can stand between two of them.
variable {Reads : List Char → List Char → Prop}
  (quoted : ∀ word, '\'' ∉ word → Reads ('\'' :: word ++ ['\'']) word)
include quoted

theorem forall₂_flatMap_option (option : String) (isWord : Reads option.toList option.toList)
    (texts : List String) (quotable : ∀ text ∈ texts, IsQuotedWord text) :
    List.Forall₂ Reads
      ((texts.flatMap fun text => [option, "'" ++ text ++ "'"]).map String.toList)
      ((texts.flatMap fun text => [option, text]).map String.toList) := by
  induction texts with
  | nil => exact .nil
  | cons head tail induction =>
      have headQuoted : Reads ("'" ++ head ++ "'").toList head.toList := by
        simpa using quoted head.toList (quotable head (List.mem_cons_self ..))
      have rest := induction fun text member => quotable text (List.mem_cons_of_mem _ member)
      simpa using List.Forall₂.cons isWord (List.Forall₂.cons headQuoted rest)

theorem forall₂_compileTexts {action : Action}
    (isInclude : Reads "--include".toList "--include".toList)
    (isTarget : Reads "--depfile-target".toList "--depfile-target".toList)
    (implicitInputs : ∀ path ∈ action.implicitInputs, IsQuotedWord path.text)
    (args : ∀ argument ∈ action.args, IsQuotedWord argument)
    (outputs : ∀ path ∈ action.outputs, IsQuotedWord path.text) :
    List.Forall₂ Reads ((compileTexts action).map String.toList)
      ((compileWords action).map String.toList) := by
  have includes := forall₂_flatMap_option quoted "--include" isInclude
    (action.implicitInputs.map Path.text) (by simpa using implicitInputs)
  have targets := forall₂_flatMap_option quoted "--depfile-target" isTarget
    (action.outputs.map Path.text) (by simpa using outputs)
  have arguments : List.Forall₂ Reads
      (action.args.map fun argument => ("'" ++ ("--xsdc-arg=" ++ argument) ++ "'").toList)
      (action.args.map fun argument => ("--xsdc-arg=" ++ argument).toList) := by
    rw [List.forall₂_map_left_iff, List.forall₂_map_right_iff, List.forall₂_same]
    intro argument member
    have clear : '\'' ∉ ("--xsdc-arg=" ++ argument).toList := by
      have absent : '\'' ∉ argument.toList := args argument member
      simpa using absent
    simpa using quoted _ clear
  rw [List.flatMap_map, List.flatMap_map] at includes targets
  unfold compileTexts compileWords
  have both := List.rel_append includes arguments
  cases action.language with
  | java =>
      simp only [List.append_nil, List.map_append, List.map_map]
      exact both
  | cpp =>
      simp only [List.map_append, List.map_map]
      exact List.rel_append both targets

end Reading

structure Legible (action : Action) : Prop where
  packageName : IsWord action.packageName
  input : IsWord action.input.text
  output : IsWord action.output.text
  depfile : IsWord action.depfile.text
  implicitInputs : ∀ path ∈ action.implicitInputs, IsQuotedWord path.text
  args : ∀ argument ∈ action.args, IsQuotedWord argument
  outputs : ∀ path ∈ action.outputs, IsQuotedWord path.text
  /-- A Java action has one output, beside which its dependency file is. -/
  java : action.language = .java →
    action.outputs = [action.output] ∧ action.depfile.text = action.output.text ++ ".d"

theorem Legible.compileTexts {action : Action} (legible : Legible action) :
    List.Forall₂ Spells ((compileTexts action).map String.toList)
      ((compileWords action).map String.toList) :=
  forall₂_compileTexts (fun _ => .quoted) (IsWord.spells (by decide)) (IsWord.spells (by decide))
    legible.implicitInputs legible.args legible.outputs

theorem expandFrom_java (bindings : String → List Char) :
    expandFrom bindings none (commandTail .java).toList =
      "compile".toList ++ ' ' :: ("--xsdc".toList ++ ' ' :: (('\'' :: bindings "xsdc" ++ ['\'']) ++
        ' ' :: ("--package".toList ++ ' ' :: (bindings "pkg_name" ++ ' ' ::
        ("--archive".toList ++ ' ' :: ("--depfile".toList ++ ' ' ::
        ((bindings "out" ++ ".d".toList) ++ ' ' :: (bindings "compile_args" ++ ' ' ::
        (bindings "in" ++ ' ' :: bindings "out"))))))))) := by
  have spelled : (commandTail .java).toList =
      "compile --xsdc '$\x7bxsdc\x7d' --package $\x7bpkg_name\x7d --archive ".toList ++
        "--depfile $\x7bout\x7d.d $\x7bcompile_args\x7d $\x7bin\x7d $\x7bout\x7d".toList :=
    String.toList_append
  rw [spelled]
  simp only [String.reduceToList, List.cons_append, List.nil_append]
  simp [expandFrom]

theorem expandFrom_cpp (bindings : String → List Char) :
    expandFrom bindings none (commandTail .cpp).toList =
      "compile".toList ++ ' ' :: ("--xsdc".toList ++ ' ' :: (('\'' :: bindings "xsdc" ++ ['\'']) ++
        ' ' :: ("--package".toList ++ ' ' :: (bindings "pkg_name" ++ ' ' ::
        ("--depfile".toList ++ ' ' :: (bindings "cpp_depfile" ++ ' ' ::
        (bindings "compile_args" ++ ' ' :: (bindings "in" ++ ' ' ::
        bindings "out_dir")))))))) := by
  have spelled : (commandTail .cpp).toList =
      "compile --xsdc '$\x7bxsdc\x7d' --package $\x7bpkg_name\x7d ".toList ++
        "--depfile $\x7bcpp_depfile\x7d $\x7bcompile_args\x7d $\x7bin\x7d $\x7bout_dir\x7d".toList :=
    String.toList_append
  rw [spelled]
  simp only [String.reduceToList, List.cons_append, List.nil_append]
  simp [expandFrom]

theorem bindings_compile_args (toolchain : Toolchain) (action : Action) :
    bindings toolchain action "compile_args" =
      [' '].intercalate ((compileTexts action).map String.toList) := by
  have read : bindings toolchain action "compile_args" =
      unescape (" ".intercalate (compileArgs action)).toList := by
    simp [bindings]
  rw [read, compileArgs_eq, intercalate_map_value, unescape_value, String.toList_intercalate]
  rfl

theorem Legible.arguments {action : Action} (legible : Legible action) {toolchain : Toolchain}
    (quotable : IsQuotedWord toolchain.xsdc) :
    arguments toolchain action = plainArguments toolchain.xsdc action := by
  have spell (text : String) (isWord : IsWord text) (rest : List Char) :
      shellWords (text.toList ++ ' ' :: rest) = text.toList :: shellWords rest :=
    shellWords_cons isWord.spells rest
  have xsdc : bindings toolchain action "xsdc" = toolchain.xsdc.toList := by
    simp [bindings, unescape_value]
  have package : bindings toolchain action "pkg_name" = action.packageName.toList := by
    simp [bindings, unescape_value]
  have input : bindings toolchain action "in" = action.input.text.toList := by
    simp [bindings]
  unfold Ninja.arguments plainArguments
  cases language : action.language with
  | java =>
      obtain ⟨outputs, depfile⟩ := legible.java language
      have out : bindings toolchain action "out" = action.output.text.toList := by
        simp [bindings, outputs]
      rw [expandFrom_java, xsdc, package, input, out, bindings_compile_args,
        ← String.toList_append, ← depfile, spell _ (by decide), spell _ (by decide),
        shellWords_cons (.quoted quotable), spell _ (by decide), spell _ legible.packageName,
        spell _ (by decide), spell _ (by decide), spell _ legible.depfile,
        shellWords_intercalate legible.compileTexts, spell _ legible.input,
        shellWords_single legible.output.spells]
      simp [Function.comp_def]
  | cpp =>
      have depfile : bindings toolchain action "cpp_depfile" = action.depfile.text.toList := by
        simp [bindings, unescape_value]
      have directory : bindings toolchain action "out_dir" = action.output.text.toList := by
        simp [bindings, unescape_value]
      rw [expandFrom_cpp, xsdc, package, input, depfile, directory, bindings_compile_args,
        spell _ (by decide), spell _ (by decide), shellWords_cons (.quoted quotable),
        spell _ (by decide), spell _ legible.packageName, spell _ (by decide),
        spell _ legible.depfile, shellWords_intercalate legible.compileTexts,
        spell _ legible.input, shellWords_single legible.output.spells]
      simp [Function.comp_def]

/-! ## Planned actions are legible -/

theorem isWord_of_isPlainPath {text : String} (plain : isPlainPath text = true) :
    IsWord text := by
  refine ⟨(isPlainPath_iff.1 plain).1, fun character member => ⟨?_, ?_⟩⟩
  · rintro rfl
    exact notMem_of_isPlainPath plain (by decide) member
  · rintro rfl
    exact notMem_of_isPlainPath plain (by decide) member

theorem isQuotedWord_of_isPlainPath {text : String} (plain : isPlainPath text = true) :
    IsQuotedWord text :=
  notMem_of_isPlainPath plain (by decide)

theorem legible_of_plan {schema : Schema} {root : Path} {plan : Plan} {action : Action}
    (rootPlain : isPlainPath root.text = true) (planned : schema.plan root = .ok plan)
    (member : action ∈ plan.actions) : Legible action := by
  have plain := Schema.isPlain_of_plan rootPlain planned member
  refine ⟨isWord_of_isPlainPath plain.packageName, isWord_of_isPlainPath plain.input,
    isWord_of_isPlainPath plain.output, isWord_of_isPlainPath plain.depfile,
    fun path isInput => isQuotedWord_of_isPlainPath (plain.implicitInputs path isInput),
    fun argument isArgument => notMem_of_isQuotable (plain.args argument isArgument) (by decide),
    fun path isOutput => isQuotedWord_of_isPlainPath (plain.outputs path isOutput), ?_⟩
  obtain ⟨package, -, rfl | rfl⟩ := Schema.action_of_plan planned member
  · exact fun _ => ⟨rfl, rfl⟩
  · exact fun isJava => nomatch isJava

end SchemaBuild.Ninja
