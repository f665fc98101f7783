import SchemaBuild.Generate
import SchemaBuild.Proofs.Footprints
import SchemaBuild.Proofs.Ninja.LiteralWords
import SchemaBuild.Proofs.Ninja.Words

/-!
# The lines of a ninja file

A ninja file is read line by line: most lines bind a name to a value, in which two dollars stand for
one, and a line that starts with the word `build` says what is built. The lines of a generated file
are those that its toolchain and its actions ask for, and their values are what is declared, so no
text of a manifest adds a line, a binding or an argument of its own.
-/

namespace SchemaBuild.Ninja

/-! ## Reading lines -/

/-- The value on the right of a binding. A dollar that is not doubled would begin something else. -/
def readValue? : List Char → Option (List Char)
  | [] => some []
  | '$' :: '$' :: rest => (readValue? rest).map ('$' :: ·)
  | character :: rest =>
      if character = '$' then none else (readValue? rest).map (character :: ·)

inductive Line where
  | empty
  /-- A name and its value. Those of a single build are indented. -/
  | binding (indented : Bool) (name value : String)
  /-- What follows the word `build`. -/
  | build (statement : String)
  | other (text : String)
  deriving DecidableEq, Repr

/-- A binding: a name, an equals sign between two blanks, and a value to the end of the line. -/
def readBinding? (line : List Char) : Option Line :=
  let text := line.dropWhile (· = ' ')
  match text.dropWhile (· ≠ ' ') with
  | ' ' :: '=' :: ' ' :: rest =>
      (readValue? rest).map fun value =>
        .binding (line.head? = some ' ') (String.ofList (text.takeWhile (· ≠ ' ')))
          (String.ofList value)
  | _ => none

def readLine (line : List Char) : Line :=
  match line with
  | [] => .empty
  | 'b' :: 'u' :: 'i' :: 'l' :: 'd' :: ' ' :: statement => .build (String.ofList statement)
  | _ => (readBinding? line).getD (.other (String.ofList line))

/-! ## What the lines should say -/

def ruleLines : Language → List Line
  | .java => [
      .other "rule xsdc_java",
      .other ("  command = $\x7bxsd_config\x7d compile --xsdc '$\x7bxsdc\x7d' --package $\x7bpkg_name\x7d" ++
        " --archive --depfile $\x7bout\x7d.d $\x7bcompile_args\x7d $\x7bin\x7d $\x7bout\x7d"),
      .other "  depfile = $\x7bout\x7d.d",
      .binding true "deps" "gcc",
      .other "  description = xsdc Java $\x7bin\x7d => $\x7bout\x7d"]
  | .cpp => [
      .other "rule xsdc_cpp",
      .other ("  command = $\x7bxsd_config\x7d compile --xsdc '$\x7bxsdc\x7d' --package $\x7bpkg_name\x7d" ++
        " --depfile $\x7bcpp_depfile\x7d $\x7bcompile_args\x7d $\x7bin\x7d $\x7bout_dir\x7d"),
      .other "  depfile = $\x7bcpp_depfile\x7d",
      .binding true "deps" "gcc",
      .other "  description = xsdc C++ $\x7bin\x7d => $\x7bout_dir\x7d"]

/-- The lines above all build statements. Nothing but two bindings depends on the toolchain. -/
def headerLines (toolchain : Toolchain) : List Line :=
  [.other "# Generated by xsd-config",
    .binding false "ninja_required_version" "1.10",
    .empty,
    .binding false "xsdc" toolchain.xsdc,
    .binding false "xsd_config" toolchain.driver,
    .empty] ++ ruleLines .java ++ .empty :: ruleLines .cpp

def implicitText (action : Action) : String :=
  if action.implicitInputs.isEmpty then ""
  else " |" ++ String.join (action.implicitInputs.map fun input => " " ++ path input)

def buildText (action : Action) : String :=
  " ".intercalate (action.outputs.map path) ++ ": " ++ action.language.rule ++ " " ++
    path action.input ++ implicitText action

/-- The text in which an action passes arguments on, as the shell is to read it. -/
def argumentText (action : Action) : String :=
  " ".intercalate (compileTexts action)

def statementLines (action : Action) : List Line :=
  [.empty, .build (buildText action), .binding true "pkg_name" action.packageName] ++
    (match action.language with
     | .java => []
     | .cpp => [
         .binding true "out_dir" action.output.text,
         .binding true "cpp_depfile" action.depfile.text]) ++
    [.binding true "compile_args" (argumentText action)]

/-! ## Values -/

theorem readValue?_cons {character : Char} (notDollar : character ≠ '$') (rest : List Char) :
    readValue? (character :: rest) = (readValue? rest).map (character :: ·) := by
  rw [readValue?, if_neg notDollar]
  intro tail equal
  exact absurd equal notDollar

theorem readValue?_value (text : String) : readValue? (value text).toList = some text.toList := by
  rw [toList_value]
  induction text.toList with
  | nil => rfl
  | cons head tail induction =>
      by_cases dollar : head = '$'
      · rw [List.flatMap_cons, if_pos dollar, List.cons_append, List.singleton_append, readValue?,
          induction, dollar]
        rfl
      · rw [List.flatMap_cons, if_neg dollar, List.singleton_append, readValue?_cons dollar,
          induction]
        rfl

/-! ## Bindings -/

def bindingStarts : List (Bool × String) := [
  (false, "xsdc"), (false, "xsd_config"), (true, "pkg_name"), (true, "out_dir"),
  (true, "cpp_depfile"), (true, "compile_args")]

def indentation (indented : Bool) : String :=
  if indented then "  " else ""

theorem readLine_binding {indented : Bool} {name : String}
    (member : (indented, name) ∈ bindingStarts) (text : String) :
    readLine (indentation indented ++ name ++ " = " ++ value text).toList =
      .binding indented name text := by
  have read := readValue?_value text
  simp only [bindingStarts, List.mem_cons, Prod.mk.injEq, List.not_mem_nil, or_false] at member
  rcases member with ⟨rfl, rfl⟩ | ⟨rfl, rfl⟩ | ⟨rfl, rfl⟩ | ⟨rfl, rfl⟩ | ⟨rfl, rfl⟩ | ⟨rfl, rfl⟩ <;>
    simp [indentation, readLine, readBinding?, read]

theorem readLine_build (action : Action) :
    readLine (buildLine action).toList = .build (buildText action) := by
  have spelled : buildLine action = "build " ++ buildText action := by
    unfold buildLine
    simp only [buildText, implicitText, String.append_assoc]
  rw [spelled, String.toList_append]
  simp [readLine]

theorem intercalate_compileArgs (action : Action) :
    " ".intercalate (compileArgs action) = value (argumentText action) := by
  rw [compileArgs_eq, intercalate_map_value, argumentText]

theorem readLine_literal {characters : List Char} {line : Line}
    (read : readLine characters = line) : readLine (String.ofList characters).toList = line := by
  rw [String.toList_ofList, read]

theorem readLine_literal_append {left right : List Char}
    (read : readLine (left ++ right) = .other (String.ofList (left ++ right))) :
    readLine (String.ofList left ++ String.ofList right).toList =
      .other (String.ofList left ++ String.ofList right) := by
  rw [← String.ofList_append, String.toList_ofList, read]

theorem map_readLine_header (toolchain : Toolchain) :
    (header toolchain).map (fun line => readLine line.toList) = headerLines toolchain := by
  have xsdc : readLine ("xsdc = " ++ value toolchain.xsdc).toList =
      .binding false "xsdc" toolchain.xsdc :=
    readLine_binding (show (false, "xsdc") ∈ bindingStarts by decide) _
  have driver : readLine ("xsd_config = " ++ value toolchain.driver).toList =
      .binding false "xsd_config" toolchain.driver :=
    readLine_binding (show (false, "xsd_config") ∈ bindingStarts by decide) _
  simp only [header, headerLines, ruleLines, List.map_cons, List.map_nil, List.cons_append,
    List.nil_append, List.cons.injEq, and_true, xsdc, driver, true_and]
  exact ⟨readLine_literal rfl, readLine_literal rfl, rfl, rfl, readLine_literal rfl,
    readLine_literal_append rfl, readLine_literal rfl, readLine_literal rfl, readLine_literal rfl,
    rfl, readLine_literal rfl, readLine_literal_append rfl, readLine_literal rfl,
    readLine_literal rfl, readLine_literal rfl⟩

theorem map_readLine_statement (action : Action) :
    (statement action).map (fun line => readLine line.toList) = statementLines action := by
  have package : readLine ("  pkg_name = " ++ value action.packageName).toList =
      .binding true "pkg_name" action.packageName :=
    readLine_binding (show (true, "pkg_name") ∈ bindingStarts by decide) _
  have directory : readLine ("  out_dir = " ++ value action.output.text).toList =
      .binding true "out_dir" action.output.text :=
    readLine_binding (show (true, "out_dir") ∈ bindingStarts by decide) _
  have depfile : readLine ("  cpp_depfile = " ++ value action.depfile.text).toList =
      .binding true "cpp_depfile" action.depfile.text :=
    readLine_binding (show (true, "cpp_depfile") ∈ bindingStarts by decide) _
  have arguments : readLine ("  compile_args = " ++ value (argumentText action)).toList =
      .binding true "compile_args" (argumentText action) :=
    readLine_binding (show (true, "compile_args") ∈ bindingStarts by decide) _
  have build := readLine_build action
  have empty : readLine "".toList = .empty := rfl
  unfold statement statementLines
  rw [intercalate_compileArgs]
  cases action.language with
  | java =>
      simp only [List.map_append, List.map_cons, List.map_nil, empty, build, package, arguments]
  | cpp =>
      simp only [List.map_append, List.map_cons, List.map_nil, empty, build, package, directory,
        depfile, arguments]

/-- Every line of a file says what it should. -/
theorem map_readLine_lines (toolchain : Toolchain) (actions : List Action) :
    (lines toolchain actions).map (fun line => readLine line.toList) =
      headerLines toolchain ++ actions.flatMap statementLines := by
  simp only [lines, List.map_append, List.map_flatMap, map_readLine_header, map_readLine_statement]

/-! ## Ends of lines -/

def OneLine (text : String) : Prop :=
  '\n' ∉ text.toList

instance (text : String) : Decidable (OneLine text) :=
  inferInstanceAs (Decidable ('\n' ∉ text.toList))

theorem oneLine_of_isQuotable {text : String} (quotable : isQuotable text = true) : OneLine text :=
  notMem_of_isQuotable quotable (by decide)

theorem oneLine_of_isPlainPath {text : String} (plain : isPlainPath text = true) : OneLine text :=
  notMem_of_isPlainPath plain (by decide)

theorem OneLine.append {left right : String} (leftOne : OneLine left) (rightOne : OneLine right) :
    OneLine (left ++ right) := by
  rw [OneLine, String.toList_append, List.mem_append]
  exact fun member => member.elim leftOne rightOne

theorem OneLine.escaped {text : String} (one : OneLine text) {stop sign : Char}
    (stopInLine : '\n' ≠ stop) (signInLine : '\n' ≠ sign) :
    OneLine (String.ofList (text.toList.flatMap fun character =>
      if character = stop then [sign, stop] else [character])) := by
  rw [OneLine, String.toList_ofList, List.mem_flatMap]
  rintro ⟨character, inText, member⟩
  split at member
  · simp [stopInLine, signInLine] at member
  · exact one (List.mem_singleton.1 member ▸ inText)

theorem OneLine.value {text : String} (one : OneLine text) : OneLine (value text) :=
  one.escaped (by decide) (by decide)

theorem OneLine.path {path : Path} (one : OneLine path.text) : OneLine (Ninja.path path) :=
  one.escaped (by decide) (by decide)

theorem oneLine_intercalate {texts : List String} (each : ∀ text ∈ texts, OneLine text) :
    OneLine (" ".intercalate texts) := by
  rw [OneLine, String.toList_intercalate]
  intro member
  rcases mem_intercalate_singleton member with blank | ⟨_, isText, inText⟩
  · cases blank
  · obtain ⟨text, inTexts, rfl⟩ := List.mem_map.1 isText
    exact each text inTexts inText

theorem oneLine_join {texts : List String} (each : ∀ text ∈ texts, OneLine text) :
    OneLine (String.join texts) := by
  rw [OneLine, String.toList_join, List.mem_flatMap]
  rintro ⟨text, inTexts, member⟩
  exact each text inTexts member

theorem splitOn_join {lines : List String} (each : ∀ line ∈ lines, OneLine line) :
    (String.join (lines.map (· ++ "\n"))).toList.splitOn '\n' =
      lines.map String.toList ++ [[]] := by
  rw [String.toList_join, List.flatMap_map]
  induction lines with
  | nil => rfl
  | cons head tail induction =>
      have one : ∀ character ∈ head.toList, (character == '\n') = false := by
        intro character member
        rw [beq_eq_false_iff_ne]
        rintro rfl
        exact each head List.mem_cons_self member
      have others := induction fun line member => each line (List.mem_cons_of_mem _ member)
      rw [List.flatMap_cons, String.toList_append, List.append_assoc]
      exact (List.splitOnP_append_cons_of_forall_mem one '\n' rfl _).trans
        (congrArg (head.toList :: ·) others)

theorem oneLine_header {toolchain : Toolchain} (accepted : toolchain.IsAccepted) :
    ∀ line ∈ header toolchain, OneLine line := by
  have xsdc := (oneLine_of_isQuotable (isQuotable_of_isCommand accepted.xsdc)).value
  have driver := (oneLine_of_isQuotable (isQuotable_of_isCommand accepted.driver)).value
  have fixed {characters : List Char} (absent : '\n' ∉ characters) :
      OneLine (String.ofList characters) := by
    rwa [OneLine, String.toList_ofList]
  simp only [header, List.forall_mem_cons, List.not_mem_nil, false_implies, implies_true, and_true]
  exact ⟨fixed (by decide), fixed (by decide), by decide, .append (by decide) xsdc,
    .append (by decide) driver, by decide, fixed (by decide),
    .append (fixed (by decide)) (fixed (by decide)), fixed (by decide), fixed (by decide),
    fixed (by decide), by decide, fixed (by decide),
    .append (fixed (by decide)) (fixed (by decide)), fixed (by decide), fixed (by decide),
    fixed (by decide)⟩

section

variable {action : Action} (plain : action.IsPlain)
include plain

theorem oneLine_buildLine : OneLine (buildLine action) := by
  have rule : OneLine action.language.rule := by cases action.language <;> decide
  have outputs : OneLine (" ".intercalate (action.outputs.map path)) := by
    refine oneLine_intercalate fun text member => ?_
    obtain ⟨output, isOutput, rfl⟩ := List.mem_map.1 member
    exact (oneLine_of_isPlainPath (plain.outputs output isOutput)).path
  have input : OneLine (path action.input) := (oneLine_of_isPlainPath plain.input).path
  have implicit : OneLine
      (String.join (action.implicitInputs.map fun input => " " ++ path input)) := by
    refine oneLine_join fun text member => ?_
    obtain ⟨input, isInput, rfl⟩ := List.mem_map.1 member
    exact .append (by decide) (oneLine_of_isPlainPath (plain.implicitInputs input isInput)).path
  unfold buildLine
  refine .append ?_ ?_
  · exact ((((OneLine.append (by decide) outputs).append (by decide)).append rule).append
      (by decide)).append input
  · split
    · decide
    · exact .append (by decide) implicit

theorem oneLine_argumentText : OneLine (argumentText action) := by
  have quoted {text : String} (one : OneLine text) : OneLine ("'" ++ text ++ "'") :=
    (OneLine.append (by decide) one).append (by decide)
  have option (name : String) (isName : OneLine name) (paths : List Path)
      (each : ∀ path ∈ paths, isPlainPath path.text = true) :
      ∀ text ∈ paths.flatMap fun path => [name, "'" ++ path.text ++ "'"], OneLine text := by
    intro text member
    obtain ⟨path, isPath, inWords⟩ := List.mem_flatMap.1 member
    rcases List.mem_cons.1 inWords with rfl | isQuoted
    · exact isName
    · exact List.mem_singleton.1 isQuoted ▸ quoted (oneLine_of_isPlainPath (each path isPath))
  have args : ∀ text ∈ action.args.map fun argument => "'" ++ ("--xsdc-arg=" ++ argument) ++ "'",
      OneLine text := by
    intro text member
    obtain ⟨argument, isArgument, rfl⟩ := List.mem_map.1 member
    exact quoted (.append (by decide) (oneLine_of_isQuotable (plain.args argument isArgument)))
  have includes := option "--include" (by decide) action.implicitInputs plain.implicitInputs
  have targets := option "--depfile-target" (by decide) action.outputs plain.outputs
  refine oneLine_intercalate ?_
  unfold compileTexts
  refine List.forall_mem_append.2 ⟨List.forall_mem_append.2 ⟨includes, args⟩, ?_⟩
  cases action.language with
  | java => simp
  | cpp => exact targets

theorem oneLine_statement : ∀ line ∈ statement action, OneLine line := by
  have bound {start text : String} (isStart : OneLine start) (one : OneLine text) :
      OneLine (start ++ value text) := isStart.append one.value
  have package := oneLine_of_isPlainPath plain.packageName
  have directory := oneLine_of_isPlainPath plain.output
  have depfile := oneLine_of_isPlainPath plain.depfile
  have build := oneLine_buildLine plain
  have arguments := oneLine_argumentText plain
  unfold statement
  rw [intercalate_compileArgs]
  refine List.forall_mem_append.2 ⟨List.forall_mem_append.2 ⟨?_, ?_⟩, ?_⟩
  · simp only [List.forall_mem_cons, List.not_mem_nil, false_implies, implies_true, and_true]
    exact ⟨by decide, build, bound (by decide) package⟩
  · cases action.language with
    | java => simp
    | cpp =>
        simp only [List.forall_mem_cons, List.not_mem_nil, false_implies, implies_true, and_true]
        exact ⟨bound (by decide) directory, bound (by decide) depfile⟩
  · simp only [List.forall_mem_singleton]
    exact bound (by decide) arguments

end

/-! ## Arguments -/

theorem literalWords?_argumentText {action : Action} (plain : action.IsPlain) :
    literalWords? (argumentText action).toList =
      some ((compileWords action).map String.toList) := by
  have quotable {text : String} (isPlain : isPlainPath text = true) : IsQuotedWord text :=
    isQuotedWord_of_isPlainPath isPlain
  rw [argumentText, String.toList_intercalate]
  exact literalWords?_intercalate (forall₂_compileTexts (fun _ => literalWords?_quoted)
    (by decide) (by decide)
    (fun path isInput => quotable (plain.implicitInputs path isInput))
    (fun argument isArgument => notMem_of_isQuotable (plain.args argument isArgument) (by decide))
    (fun path isOutput => quotable (plain.outputs path isOutput)))

/-! ## Whole files -/

theorem splitOn_render {toolchain : Toolchain} {actions : List Action}
    (accepted : toolchain.IsAccepted) (plain : ∀ action ∈ actions, action.IsPlain) :
    (render toolchain actions).toList.splitOn '\n' =
      (lines toolchain actions).map String.toList ++ [[]] := by
  refine splitOn_join (List.forall_mem_append.2 ⟨oneLine_header accepted, fun line member => ?_⟩)
  obtain ⟨action, isAction, inStatement⟩ := List.mem_flatMap.1 member
  exact oneLine_statement (plain action isAction) line inStatement

theorem isPlain_of_mem_actions {manifest : Manifest} {root : Path} {action : Action}
    (plain : isPlainPath root.text = true)
    (member : action ∈ (Selection.ofManifest manifest root).actions) : action.IsPlain := by
  obtain ⟨schema, -, plan, planned, inPlan⟩ :=
    (Selection.mem_actions (Selection.plansModules_ofManifest manifest root)).1 member
  exact Schema.isPlain_of_plan plain planned inPlan

/-- The ninja file of an accepted manifest consists of the lines of its header and of those of each
action in order, and behind the end of the last line nothing is left. What they bind is the commands
that are declared and the texts of the action, and the text of the arguments is literal: a shell
reads it as the words that are meant. -/
theorem lines_of_ninja_file {manifest : Manifest} {outDir : Path}
    (accepted : manifest.validate = .ok manifest)
    (plain : isPlainPath (manifest.genRoot outDir).text = true) :
    ∃ actions, actions = (Selection.ofManifest manifest (manifest.genRoot outDir)).actions ∧
      (BuildFiles.ofManifest manifest (manifest.genRoot outDir)).ninja.toList.splitOn '\n' =
        (lines manifest.toolchain actions).map String.toList ++ [[]] ∧
      (lines manifest.toolchain actions).map (fun line => readLine line.toList) =
        headerLines manifest.toolchain ++ actions.flatMap statementLines ∧
      ∀ action ∈ actions, literalWords? (argumentText action).toList =
        some ((compileWords action).map String.toList) := by
  have actionPlain (action : Action)
      (member : action ∈ (Selection.ofManifest manifest (manifest.genRoot outDir)).actions) :
      action.IsPlain :=
    isPlain_of_mem_actions plain member
  refine ⟨_, rfl, ?_, map_readLine_lines _ _, fun action member =>
    literalWords?_argumentText (actionPlain action member)⟩
  rw [Selection.ninja_ofManifest]
  exact splitOn_render (Manifest.isAccepted_toolchain accepted) actionPlain

def signed : Manifest where
  version := 1
  toolchainKeys := some { xsdc := some "java -jar $X.jar #", genDir := some "out:gen" }
  declarations := [
    { name := "foo", srcs := ["foo.xsd"], includeFiles := ["a:b.xsd"],
      packageName := some "com.foo", rootElements := ["a; b = $(c) | #d"] }]

theorem lines_of_signed :
    signed.validate = .ok signed ∧ isPlainPath (signed.genRoot ⟨"out"⟩).text = true ∧
    ∃ actions, actions = (Selection.ofManifest signed (signed.genRoot ⟨"out"⟩)).actions ∧
      actions.length = 2 ∧
      (BuildFiles.ofManifest signed (signed.genRoot ⟨"out"⟩)).ninja.toList.splitOn '\n' =
        (lines signed.toolchain actions).map String.toList ++ [[]] ∧
      (lines signed.toolchain actions).map (fun line => readLine line.toList) =
        headerLines signed.toolchain ++ actions.flatMap statementLines := by
  have accepted : signed.validate = .ok signed := by decide +kernel
  have plain : isPlainPath (signed.genRoot ⟨"out"⟩).text = true := by decide +kernel
  have two : (Selection.ofManifest signed (signed.genRoot ⟨"out"⟩)).actions.length = 2 := by
    decide +kernel
  obtain ⟨_, rfl, split, read, -⟩ := lines_of_ninja_file accepted plain
  exact ⟨accepted, plain, _, rfl, two, split, read⟩

end SchemaBuild.Ninja
