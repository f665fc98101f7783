import SchemaBuild.Proofs.FileSystem.Neighbours
import SchemaBuild.Proofs.Job.Archiving

/-!
# The order of jobs

Two jobs that work on different entries of one ground come to the same in either order.
-/

namespace SchemaBuild

open FileSystem

namespace Job

/-! ## A job in its directory -/

section

variable {programs : Programs} {job : Job} {directory : Path} {name : Name} {site : Site}
  {own : List Name} {first second world after : World} {program : String}
  {arguments : List String}

theorem afterParents_unison (works : job.WorksAt directory name site own)
    (twins : Twins site own first.files second.files)
    (words : Text.words job.xsdc = program :: arguments) (behaves : Behaves programs job) :
    Unison site own first second
      (outcome (job.afterParents programs program arguments) first)
      (outcome (job.afterParents programs program arguments) second) := by
  have command := command_eq words
  refine (makeStaging_unison works twins).bind fun _ empty otherEmpty makes otherMakes still => ?_
  obtain ⟨permissions, found⟩ := makeStaging_vacant works twins.tidy twins.owned makes
  obtain ⟨others, otherFound⟩ := makeStaging_vacant works twins.otherTidy twins.owned otherMakes
  obtain rfl : others = permissions := by
    obtain ⟨_, there, same⟩ := directory_of_view?
      (still.samePlace (works.owns (show ".temp" ∈ outputSuffixes by decide)) []).view found
    obtain rfl := Node.directory.inj (Option.some.inj (otherFound.symm.trans there))
    exact same
  obtain ⟨compiling, compiled⟩ :=
    runCompiler_unison works still command behaves found otherFound
  have publishing : Unison site own empty otherEmpty
      (outcome (job.compileAndPublish programs program arguments) empty)
      (outcome (job.compileAndPublish programs program arguments) otherEmpty) := by
    refine compiling.bind fun _ middle otherMiddle compiles _ left => ?_
    rw [compiles] at compiled
    exact publish_unison works left compiled
  refine publishing.observed.bind fun result _ _ _ _ still => ?_
  refine (removeStaging_unison works still).observed.discarded.bind fun _ _ _ _ _ still => ?_
  have settled (first second : World) (still : Twins site own first.files second.files) :
      Unison site own first second (outcome (ofExcept result : Step Unit) first)
        (outcome (ofExcept result : Step Unit) second) := by
    rw [outcome_ofExcept, outcome_ofExcept]
    exact .unchanged still result
  exact (settled _ _ still).bind fun _ _ _ _ _ left => finish_unison works left

end

/-! ## A job on its plot -/

structure Tends (programs : Programs) (job : Job) (plot : Plot) (ground : Ground) (name : Name) :
    Prop where
  lies : plot.LiesOn ground
  worksIn : job.WorksIn plot.path name
  worksAt : Fits job.output.path.staging.bytes →
    job.WorksAt plot.path name (plot.site ground) plot.own
  behaves : Behaves programs job

structure Accord {ε α : Type} (plot : Plot) (ground : Ground) (first second : World)
    (done otherDone : Except ε α × World) : Prop where
  result : otherDone.1 = done.1
  changed : plot.Changed ground first.files done.2.files
  otherChanged : plot.Changed ground second.files otherDone.2.files
  alike : Alike (plot.spot ground) plot.own done.2.files otherDone.2.files

section

variable {programs : Programs} {job other : Job} {plot otherPlot : Plot} {ground : Ground}
  {name otherName : Name} {base : FileSystem} {first second world : World}

theorem Tends.afterParents_unison (tends : Tends programs job plot ground name)
    (twins : Twins (plot.site ground) plot.own first.files second.files)
    {program : String} {arguments : List String}
    (words : Text.words job.xsdc = program :: arguments) :
    Unison (plot.site ground) plot.own first second
      (outcome (job.afterParents programs program arguments) first)
      (outcome (job.afterParents programs program arguments) second) := by
  by_cases fits : Fits job.output.path.staging.bytes
  · exact Job.afterParents_unison (tends.worksAt fits) twins words tends.behaves
  · obtain ⟨cause, refused⟩ := afterParents_unfit fits
    rw [refused, refused]
    exact .unchanged twins _

theorem Tends.run_accord (tends : Tends programs job plot ground name)
    (firm : ground.Firm base) (ready : plot.Ready ground base first.files)
    (otherReady : plot.Ready ground base second.files)
    (above : second.files.view? ground.location = first.files.view? ground.location)
    (alike : Alike (plot.spot ground) plot.own first.files second.files) :
    Accord plot ground first second (outcome (job.run programs) first)
      (outcome (job.run programs) second) := by
  cases words : Text.words job.xsdc with
  | nil =>
      rw [run, words]
      exact ⟨rfl, .refl ready.unshared, .refl otherReady.unshared, alike⟩
  | cons program arguments =>
      have makes := makeParent_eq tends.worksIn.parent_output tends.worksIn.ends.ne_nil
      rw [outcome_run_of_words words, outcome_run_of_words words, makes, outcome_onFiles,
        outcome_onFiles]
      rcases tends.lies.founds firm ready otherReady above alike with
        ⟨error, inFirst, inSecond⟩ |
          ⟨firstAfter, secondAfter, inFirst, inSecond, founded, otherFounded, twins⟩
      · rw [inFirst, inSecond]
        exact ⟨rfl, .refl ready.unshared, .refl otherReady.unshared, alike⟩
      · rw [inFirst, inSecond]
        have still : Twins (plot.site ground) plot.own { first with files := firstAfter }.files
          { second with files := secondAfter }.files := twins
        have unison := tends.afterParents_unison still words
        have done := unison.inStep.twins
        exact ⟨unison.result,
          founded.changed tends.lies.proper unison.inStep.changed done.tidy.unshared,
          otherFounded.changed tends.lies.proper unison.inStep.otherChanged
            done.otherTidy.unshared, done.alike⟩

/-! ## Two jobs -/

structure AnyOrder (programs : Programs) (job other : Job) (world : World) : Prop where
  result : (outcome (job.run programs) (outcome (other.run programs) world).2).1 =
    (outcome (job.run programs) world).1
  otherResult : (outcome (other.run programs) (outcome (job.run programs) world).2).1 =
    (outcome (other.run programs) world).1
  files : (outcome (other.run programs) (outcome (job.run programs) world).2).2.files.Matches
    (outcome (job.run programs) (outcome (other.run programs) world).2).2.files

variable (tends : Tends programs job plot ground name) (firm : ground.Firm base)
  (ready : plot.Ready ground base world.files)
include tends firm ready

theorem Tends.run_changed : plot.Changed ground world.files
    (outcome (job.run programs) world).2.files :=
  (tends.run_accord firm ready ready rfl (.refl ..)).changed

/-- A job comes to the same after a job beside it. -/
theorem Tends.run_behind (lies : otherPlot.LiesOn ground)
    (beside : plot.Beside otherPlot ground world.files)
    (changed : otherPlot.Changed ground world.files first.files) :
    Accord plot ground world first (outcome (job.run programs) world)
      (outcome (job.run programs) first) :=
  tends.run_accord firm ready (changed.ready beside lies ready) (view?_congr changed.sight_above)
    (changed.alike beside)

theorem Tends.anyOrder (otherTends : Tends programs other otherPlot ground otherName)
    (otherReady : otherPlot.Ready ground base world.files)
    (beside : plot.Beside otherPlot ground world.files) : AnyOrder programs job other world := by
  have runs := tends.run_changed firm ready
  have otherRuns := otherTends.run_changed firm otherReady
  have behind := tends.run_behind firm ready otherTends.lies beside otherRuns
  have otherBehind := otherTends.run_behind firm otherReady tends.lies beside.symm runs
  have swapped : plot.Swapped otherPlot ground _ _ _ _ _ :=
    ⟨beside, runs, otherRuns, otherBehind.otherChanged, behind.otherChanged, behind.alike,
      otherBehind.alike⟩
  exact ⟨behind.result, otherBehind.result, swapped.isMatch⟩

end

end Job

end SchemaBuild
