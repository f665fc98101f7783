import SchemaBuild.Proofs.Ninja.Lines

/-!
# Reading build lines

A build line holds paths between blanks. A colon stands behind the outputs, and a bar before the
inputs that are not named to the rule. What the line of an action says is read back, unless a bar
stands in a path: a colon of a path is escaped when it is written, but a bar is written as it is.
-/

namespace SchemaBuild.Ninja

/-! ## Tokens -/

inductive Token where
  | path (text : String)
  | colon
  | bar
  deriving DecidableEq, Repr

namespace Token

/-- The path that ends where the characters before were read, if one was begun. -/
def ended (characters : List Char) : List Token :=
  if characters.isEmpty then [] else [.path (String.ofList characters)]

/-- What stands between paths. A separator ends the path before it. -/
def separator? : Char → Option (List Token)
  | ' ' => some []
  | ':' => some [.colon]
  | '|' => some [.bar]
  | _ => none

/-- What stands for itself behind a dollar. Other characters make the name of a variable or go on
with the next line. -/
def isEscapable (character : Char) : Bool :=
  character = '$' || character = ' ' || character = ':'

end Token

/-- Read parts up to the end of a line. `escaped` tells whether a dollar was just read, and `begun`
is the path so far. -/
def tokensFrom? : Bool → List Char → List Char → Option (List Token)
  | false, begun, [] => some (Token.ended begun)
  | true, _, [] => none
  | true, begun, character :: rest =>
      if Token.isEscapable character then tokensFrom? false (begun ++ [character]) rest else none
  | false, begun, character :: rest =>
      match Token.separator? character with
      | some tokens => (tokensFrom? false [] rest).map (Token.ended begun ++ tokens ++ ·)
      | none =>
          if character = '$' then tokensFrom? true begun rest
          else if character = '\n' then none
          else tokensFrom? false (begun ++ [character]) rest

def tokens? (line : List Char) : Option (List Token) :=
  tokensFrom? false [] line

/-! ## Build lines -/

structure BuildLine where
  outputs : List String
  rule : String
  inputs : List String
  implicitInputs : List String
  deriving DecidableEq, Repr

namespace BuildLine

def takePaths : List Token → List String × List Token
  | .path text :: rest => (text :: (takePaths rest).1, (takePaths rest).2)
  | tokens => ([], tokens)

def implicitInputs? : List Token → Option (List String)
  | [] => some []
  | .bar :: rest => if (takePaths rest).2.isEmpty then some (takePaths rest).1 else none
  | _ => none

def ofTokens? (tokens : List Token) : Option BuildLine :=
  match (takePaths tokens).2 with
  | .colon :: .path rule :: rest =>
      (implicitInputs? (takePaths rest).2).map fun implicitInputs =>
        ⟨(takePaths tokens).1, rule, (takePaths rest).1, implicitInputs⟩
  | _ => none

def ofAction (action : Action) : BuildLine where
  outputs := action.outputs.map Path.text
  rule := action.language.rule
  inputs := [action.input.text]
  implicitInputs := action.implicitInputs.map Path.text

def paths (line : BuildLine) : List String :=
  line.outputs ++ line.inputs ++ line.implicitInputs

end BuildLine

def readBuildLine? (line : List Char) : Option BuildLine :=
  match readLine line with
  | .build statement => (tokens? statement.toList).bind BuildLine.ofTokens?
  | _ => none

/-! ## Reading parts -/

/-- A separator ends all that stands before it, so that parts are read one after the other. -/
theorem tokensFrom?_append {escaped : Bool} {begun left : List Char} {tokens between : List Token}
    {separator : Char} (read : tokensFrom? escaped begun left = some tokens)
    (separates : Token.separator? separator = some between) (right : List Char) :
    tokensFrom? escaped begun (left ++ separator :: right) =
      (tokens? right).map (tokens ++ between ++ ·) := by
  induction left generalizing escaped begun tokens with
  | nil =>
      cases escaped with
      | true => cases read
      | false =>
          obtain rfl := Option.some.inj read
          rw [List.nil_append, tokensFrom?, separates]
          rfl
  | cons character rest induction =>
      cases escaped with
      | true =>
          rw [List.cons_append, tokensFrom?]
          rw [tokensFrom?] at read
          split at read
          next escapable => rw [if_pos escapable, induction read]
          next => cases read
      | false =>
          rw [List.cons_append, tokensFrom?]
          rw [tokensFrom?] at read
          cases ends : Token.separator? character with
          | some others =>
              rw [ends] at read
              obtain ⟨later, readLater, rfl⟩ := Option.map_eq_some_iff.1 read
              simp only [induction readLater, Option.map_map, Function.comp_def,
                List.append_assoc]
          | none =>
              rw [ends] at read
              simp only at read ⊢
              split at read
              next dollar => rw [if_pos dollar, induction read]
              next noDollar =>
                rw [if_neg noDollar]
                split at read
                next => cases read
                next noEnd => rw [if_neg noEnd, induction read]

theorem tokensFrom?_written {text : List Char} (begun : List Char)
    (accepted : ∀ character ∈ text, isPathCharacter character = true) (noBar : '|' ∉ text) :
    tokensFrom? false begun
        (text.flatMap fun character => if character = ':' then ['$', ':'] else [character]) =
      some (Token.ended (begun ++ text)) := by
  induction text generalizing begun with
  | nil => simp [tokensFrom?]
  | cons head tail induction =>
      have later := induction (begun ++ [head])
        (fun character member => accepted character (List.mem_cons_of_mem _ member))
        (List.not_mem_of_not_mem_cons noBar)
      rw [List.append_assoc, List.singleton_append] at later
      rw [List.flatMap_cons]
      by_cases colon : head = ':'
      · subst colon
        exact later
      · have different (sign : Char) (refused : isPathCharacter sign = false) : head ≠ sign := by
          rintro rfl
          have isAccepted := accepted head List.mem_cons_self
          rw [refused] at isAccepted
          cases isAccepted
        have notBar : head ≠ '|' := (List.ne_of_not_mem_cons noBar).symm
        have goesOn : Token.separator? head = none := by
          unfold Token.separator?
          split
          · exact absurd rfl (different ' ' (by decide))
          · exact absurd rfl colon
          · exact absurd rfl notBar
          · rfl
        rw [if_neg colon, List.singleton_append, tokensFrom?, goesOn]
        simp only [different '$' (by decide), different '\n' (by decide), if_false, later]

theorem tokens?_path {target : Path} (plain : isPlainPath target.text = true)
    (noBar : '|' ∉ target.text.toList) :
    tokens? (path target).toList = some [.path target.text] := by
  obtain ⟨nonempty, accepted⟩ := isPlainPath_iff.1 plain
  rw [path, String.toList_ofList, tokens?, tokensFrom?_written [] accepted noBar]
  simp [Token.ended, nonempty]

theorem tokens?_append_paths {begun : List Char} {tokens : List Token} {targets : List Path}
    (read : tokens? begun = some tokens)
    (each : ∀ target ∈ targets, tokens? (path target).toList = some [.path target.text]) :
    tokens? (begun ++ targets.flatMap fun target => ' ' :: (path target).toList) =
      some (tokens ++ targets.map (.path ·.text)) := by
  induction targets generalizing begun tokens with
  | nil => simpa using read
  | cons head tail induction =>
      have readHead : tokens? (begun ++ ' ' :: (path head).toList) =
          some (tokens ++ [.path head.text]) := by
        rw [tokens?, tokensFrom?_append read rfl, each head List.mem_cons_self]
        simp
      have readTail := induction readHead
        fun target member => each target (List.mem_cons_of_mem _ member)
      simpa using readTail

theorem intercalate_blank (head : List Char) (tail : List (List Char)) :
    [' '].intercalate (head :: tail) = head ++ tail.flatMap (' ' :: ·) := by
  induction tail generalizing head with
  | nil => simp
  | cons next rest induction => simp [induction]

theorem tokens?_outputs {targets : List Path}
    (each : ∀ target ∈ targets, tokens? (path target).toList = some [.path target.text]) :
    tokens? (" ".intercalate (targets.map path)).toList =
      some (targets.map (.path ·.text)) := by
  cases targets with
  | nil => rfl
  | cons head tail =>
      have read := tokens?_append_paths (each head List.mem_cons_self)
        fun target member => each target (List.mem_cons_of_mem _ member)
      rw [String.toList_intercalate, List.map_map, List.map_cons, show " ".toList = [' '] from rfl,
        intercalate_blank, List.flatMap_map]
      simpa [Function.comp_def] using read

/-! ## Reading the line of an action -/

def actionTokens (action : Action) : List Token :=
  action.outputs.map (.path ·.text) ++ .colon :: .path action.language.rule ::
    .path action.input.text ::
    if action.implicitInputs.isEmpty then []
    else .bar :: action.implicitInputs.map (.path ·.text)

theorem tokens?_inputs {action : Action}
    (input : tokens? (path action.input).toList = some [.path action.input.text])
    (each : ∀ target ∈ action.implicitInputs,
      tokens? (path target).toList = some [.path target.text]) :
    tokens? ((path action.input).toList ++ (implicitText action).toList) =
      some (.path action.input.text ::
        if action.implicitInputs.isEmpty then []
        else .bar :: action.implicitInputs.map (.path ·.text)) := by
  unfold implicitText
  split
  · simpa using input
  · have bar : tokens? ((path action.input).toList ++ [' ', '|']) =
        some [.path action.input.text, .bar] := by
      rw [tokens?, tokensFrom?_append input rfl]
      rfl
    simpa [String.toList_join, List.flatMap_map] using tokens?_append_paths bar each

theorem tokens?_buildText {action : Action}
    (outputs : ∀ target ∈ action.outputs,
      tokens? (path target).toList = some [.path target.text])
    (input : tokens? (path action.input).toList = some [.path action.input.text])
    (implicit : ∀ target ∈ action.implicitInputs,
      tokens? (path target).toList = some [.path target.text]) :
    tokens? (buildText action).toList = some (actionTokens action) := by
  have rule : tokens? action.language.rule.toList = some [.path action.language.rule] := by
    cases action.language <;> decide +kernel
  have blank : Token.separator? ' ' = some [] := rfl
  have colon : Token.separator? ':' = some [.colon] := rfl
  have nothing : tokensFrom? false [] [] = some [] := rfl
  have afterOutputs := tokensFrom?_append (tokens?_outputs outputs) colon
  have afterColon := tokensFrom?_append nothing blank
  have afterRule := tokensFrom?_append rule blank
  have spelled : (buildText action).toList =
      (" ".intercalate (action.outputs.map path)).toList ++ ':' :: ([] ++ ' ' ::
        (action.language.rule.toList ++ ' ' ::
          ((path action.input).toList ++ (implicitText action).toList))) := by
    simp [buildText]
  rw [spelled, tokens?, afterOutputs, tokens?, afterColon, tokens?, afterRule,
    tokens?_inputs input implicit]
  simp [actionTokens]

namespace BuildLine

theorem takePaths_append (texts : List String) {rest : List Token}
    (ends : takePaths rest = ([], rest)) :
    takePaths (texts.map .path ++ rest) = (texts, rest) := by
  induction texts with
  | nil => exact ends
  | cons head tail induction => rw [List.map_cons, List.cons_append, takePaths, induction]

theorem ofTokens?_actionTokens (action : Action) :
    ofTokens? (actionTokens action) = some (ofAction action) := by
  have texts (paths : List Path) :
      paths.map (Token.path ·.text) = (paths.map Path.text).map Token.path := by
    rw [List.map_map]
    rfl
  have allPaths (paths : List String) : takePaths (paths.map .path) = (paths, []) := by
    simpa using takePaths_append paths (show takePaths [] = ([], []) from rfl)
  unfold actionTokens ofTokens?
  rw [texts, takePaths_append _ rfl]
  simp only [takePaths]
  split
  next none =>
    simp [takePaths, implicitInputs?, ofAction, List.isEmpty_iff.1 none]
  next =>
    simp only [takePaths, implicitInputs?, texts, allPaths]
    rfl

end BuildLine

/-! ## Paths that are read -/

theorem noBar_of_mem_ended {begun : List Char} (clear : '|' ∉ begun) {text : String}
    (member : .path text ∈ Token.ended begun) : '|' ∉ text.toList := by
  unfold Token.ended at member
  split at member
  · cases member
  · rw [Token.path.inj (List.mem_singleton.1 member), String.toList_ofList]
    exact clear

/-- No path that is read has a bar in it. -/
theorem noBar_of_tokensFrom? {escaped : Bool} {begun line : List Char} {tokens : List Token}
    (clear : '|' ∉ begun) (read : tokensFrom? escaped begun line = some tokens) {text : String}
    (member : .path text ∈ tokens) : '|' ∉ text.toList := by
  have further {begun : List Char} (clear : '|' ∉ begun) {character : Char}
      (noBar : character ≠ '|') : '|' ∉ begun ++ [character] := by
    simp [clear, noBar.symm]
  induction line generalizing escaped begun tokens with
  | nil =>
      cases escaped with
      | true => cases read
      | false =>
          obtain rfl := Option.some.inj read
          exact noBar_of_mem_ended clear member
  | cons character rest induction =>
      cases escaped with
      | true =>
          rw [tokensFrom?] at read
          split at read
          next escapable =>
            refine induction (further clear ?_) read member
            rintro rfl
            cases escapable
          next => cases read
      | false =>
          rw [tokensFrom?] at read
          split at read
          next between separates =>
            obtain ⟨later, readLater, rfl⟩ := Option.map_eq_some_iff.1 read
            have noPath : .path text ∉ between := by
              unfold Token.separator? at separates
              split at separates <;> cases separates <;> simp
            rcases List.mem_append.1 member with before | inLater
            · rcases List.mem_append.1 before with inEnded | inBetween
              · exact noBar_of_mem_ended clear inEnded
              · exact absurd inBetween noPath
            · exact induction List.not_mem_nil readLater inLater
          next goesOn =>
            split at read
            next => exact induction clear read member
            next =>
              split at read
              next => cases read
              next =>
                refine induction (further clear ?_) read member
                rintro rfl
                cases goesOn

namespace BuildLine

theorem mem_of_mem_takePaths (tokens : List Token) :
    (∀ text ∈ (takePaths tokens).1, .path text ∈ tokens) ∧
      ∀ token ∈ (takePaths tokens).2, token ∈ tokens := by
  induction tokens using takePaths.induct with
  | case1 text rest induction =>
      rw [takePaths]
      refine ⟨List.forall_mem_cons.2 ⟨List.mem_cons_self, fun other member => ?_⟩,
        fun token member => ?_⟩
      · exact List.mem_cons_of_mem _ (induction.1 other member)
      · exact List.mem_cons_of_mem _ (induction.2 token member)
  | case2 tokens noPath =>
      rw [takePaths]
      · simp
      · exact noPath

theorem mem_of_implicitInputs? {tokens : List Token} {texts : List String}
    (read : implicitInputs? tokens = some texts) : ∀ text ∈ texts, .path text ∈ tokens := by
  unfold implicitInputs? at read
  split at read
  · cases read
    simp
  next rest =>
    split at read
    · cases read
      exact fun text member => List.mem_cons_of_mem _ ((mem_of_mem_takePaths rest).1 text member)
    · cases read
  · cases read

theorem mem_of_ofTokens? {tokens : List Token} {line : BuildLine}
    (read : ofTokens? tokens = some line) : ∀ text ∈ line.paths, .path text ∈ tokens := by
  unfold ofTokens? at read
  split at read
  next rule rest behind =>
    obtain ⟨implicitInputs, readInputs, rfl⟩ := Option.map_eq_some_iff.1 read
    have inRest (token : Token) (member : token ∈ rest) : token ∈ tokens := by
      refine (mem_of_mem_takePaths tokens).2 token ?_
      rw [behind]
      exact List.mem_cons_of_mem _ (List.mem_cons_of_mem _ member)
    refine List.forall_mem_append.2 ⟨List.forall_mem_append.2 ⟨?outputs, ?inputs⟩, ?implicit⟩
    case outputs => exact (mem_of_mem_takePaths tokens).1
    case inputs =>
      exact fun text member => inRest _ ((mem_of_mem_takePaths rest).1 text member)
    case implicit =>
      exact fun text member => inRest _ ((mem_of_mem_takePaths rest).2 _
        (mem_of_implicitInputs? readInputs text member))
  next => cases read

end BuildLine

theorem noBar_of_readBuildLine? {line : List Char} {read : BuildLine}
    (reads : readBuildLine? line = some read) : ∀ text ∈ read.paths, '|' ∉ text.toList := by
  unfold readBuildLine? at reads
  split at reads
  next =>
    obtain ⟨tokens, readTokens, isLine⟩ := Option.bind_eq_some_iff.1 reads
    exact fun text member => noBar_of_tokensFrom? List.not_mem_nil readTokens
      (BuildLine.mem_of_ofTokens? isLine text member)
  next => cases reads

/-! ## Planned actions -/

/-- The line of a planned action reads back, to its outputs, its rule, its input and the files that
are included, exactly if there is no bar in the root, in the source or in an included file. -/
theorem readBuildLine?_buildLine_iff {schema : Schema} {root : Path} {plan : Plan} {action : Action}
    (rootPlain : isPlainPath root.text = true) (planned : schema.plan root = .ok plan)
    (member : action ∈ plan.actions) :
    readBuildLine? (buildLine action).toList = some (BuildLine.ofAction action) ↔
      '|' ∉ root.text.toList ∧ ∀ file ∈ schema.files, '|' ∉ file.toList := by
  have plain := Schema.isPlain_of_plan rootPlain planned member
  have extended := Schema.extendsRoot_of_plan planned member
  have layout : isLayoutCharacter '|' = false := by decide +kernel
  have files : schema.files = action.input.text :: action.implicitInputs.map Path.text := by
    obtain ⟨package, -, rfl | rfl⟩ := Schema.action_of_plan planned member <;>
      simp [Schema.files, Schema.javaAction, Schema.cppAction, Function.comp_def]
  rw [files, List.forall_mem_cons, List.forall_mem_map]
  constructor
  · intro reads
    have noBar := noBar_of_readBuildLine? reads
    obtain ⟨output, isOutput⟩ := List.exists_mem_of_ne_nil _
      (Schema.outputs_ne_nil_of_plan planned member)
    have inPaths (text : String) (isPath : text ∈ (BuildLine.ofAction action).outputs ∨
        text ∈ (BuildLine.ofAction action).inputs ∨
          text ∈ (BuildLine.ofAction action).implicitInputs) : '|' ∉ text.toList := by
      refine noBar text ?_
      rwa [BuildLine.paths, List.mem_append, List.mem_append, or_assoc]
    refine ⟨fun inRoot => ?_, inPaths _ (.inr (.inl (List.mem_singleton.2 rfl))),
      fun path isInput => inPaths _ (.inr (.inr (List.mem_map_of_mem isInput)))⟩
    exact inPaths _ (.inl (List.mem_map_of_mem isOutput))
      (((extended.outputs output isOutput).mem_iff layout).2 inRoot)
  · rintro ⟨noRootBar, noInputBar, noImplicitBar⟩
    rw [readBuildLine?, readLine_build]
    simp only
    rw [tokens?_buildText, Option.bind_some, BuildLine.ofTokens?_actionTokens]
    · intro output isOutput
      refine tokens?_path (plain.outputs output isOutput) fun inOutput => noRootBar ?_
      exact ((extended.outputs output isOutput).mem_iff layout).1 inOutput
    · exact tokens?_path plain.input noInputBar
    · exact fun path isInput =>
        tokens?_path (plain.implicitInputs path isInput) (noImplicitBar path isInput)

theorem isIdentifier_foo : isIdentifier "foo" = true := by
  decide +kernel

theorem isPackageName_of_mem_foo : ∀ package ∈ some "com.foo", isPackageName package = true := by
  decide +kernel

theorem compatible_fill_false :
    ((FlagSet.fill false).enumsOnly && (FlagSet.fill false).parserOnly) = false :=
  rfl

def compiling (source : String) (plain : isPlainPath source = true) : Schema where
  name := "foo"
  source := source
  includes := []
  package? := some "com.foo"
  flags := FlagSet.fill false
  rootElements := []
  name_isIdentifier := isIdentifier_foo
  source_isPlainPath := plain
  includes_arePlainPaths := List.forall_mem_nil _
  package_isPackageName := isPackageName_of_mem_foo
  rootElements_areElementNames := List.forall_mem_nil _
  rootElements_nodup := .nil
  flags_compatible := compatible_fill_false

theorem readBuildLine?_colons :
    isPlainPath "out:gen" = true ∧ readBuildLine?
        (buildLine ((compiling "a:b.xsd" (by decide)).cppAction ⟨"out:gen"⟩ "com.foo")).toList =
      some ⟨["out:gen/foo/cpp/com_foo.cpp", "out:gen/foo/cpp/com_foo_enums.cpp",
        "out:gen/foo/cpp/include/com_foo.h", "out:gen/foo/cpp/include/com_foo_enums.h"],
        "xsdc_cpp", ["a:b.xsd"], []⟩ := by
  have plain : isPlainPath "out:gen" = true := by decide
  obtain ⟨plan, planned⟩ :
      ∃ plan, (compiling "a:b.xsd" (by decide)).plan ⟨"out:gen"⟩ = .ok plan := ⟨_, rfl⟩
  obtain ⟨package, named, actions⟩ := Schema.actions_of_plan planned
  obtain rfl := Option.some.inj named
  have member : (compiling "a:b.xsd" (by decide)).cppAction ⟨"out:gen"⟩ "com.foo" ∈ plan.actions :=
    actions ▸ List.mem_cons_of_mem _ List.mem_cons_self
  have reads := (readBuildLine?_buildLine_iff plain planned member).2 (by decide)
  exact ⟨plain, reads.trans (by decide +kernel)⟩

/-- A bar in the name of a schema makes two files of it: only one is the input, and the other is
taken for an included file. -/
theorem readBuildLine?_bar :
    (∃ plan, (compiling "a|b.xsd" (by decide)).plan ⟨"gen"⟩ = .ok plan ∧
      (compiling "a|b.xsd" (by decide)).javaAction ⟨"gen"⟩ "com.foo" ∈ plan.actions) ∧
    readBuildLine?
        (buildLine ((compiling "a|b.xsd" (by decide)).javaAction ⟨"gen"⟩ "com.foo")).toList =
      some ⟨["gen/foo/xsdcgen.srcjar"], "xsdc_java", ["a"], ["b.xsd"]⟩ ∧
    BuildLine.ofAction ((compiling "a|b.xsd" (by decide)).javaAction ⟨"gen"⟩ "com.foo") =
      ⟨["gen/foo/xsdcgen.srcjar"], "xsdc_java", ["a|b.xsd"], []⟩ :=
  ⟨⟨_, rfl, List.mem_cons_self⟩, by decide +kernel, by decide +kernel⟩

end SchemaBuild.Ninja
