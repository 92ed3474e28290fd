import Docdown.Proofs.FileTree.Places
import Docdown.Run.Command

/-!
# Docdown.Proofs.Run.Single

A run over one text.  Whether the text comes from the standard input or from a file
(`Surroundings.Gives`), it is printed as its page (`output_of_gives`), or nothing is and
the run is logged to fail with the problem of the text (`errors_of_gives`).
-/

namespace Docdown

open FileTree

/-- A run that converts one text, which it finds on the standard input or in a file. -/
inductive Surroundings.Gives (around : Surroundings) (settings : Config.Settings) (text : String) :
    Prop
  | stdin : settings.input? = none → around.stdin = text → Gives around settings text
  | file {input : String} {bytes : ByteArray} : settings.input? = some input →
    around.files.readFile input = .ok bytes → Text.Utf8.text bytes = text →
    Gives around settings text

theorem runSettings_of_gives {around : Surroundings} {settings : Config.Settings} {text : String}
    (h : around.Gives settings text) :
    runSettings around settings =
      printPage around settings [⟨.debug, "Configuration:", [settings]⟩] (.ok text) := by
  unfold runSettings
  cases h with
  | stdin hinput htext => rw [hinput, htext]
  | file hinput hread htext =>
    rw [hinput]
    dsimp only
    rw [stat_of_readFile hread, hread, ← htext]
    rfl

/-- A text is printed as its page. -/
theorem output_of_gives {around : Surroundings} {settings : Config.Settings} {text content : String}
    (h : around.Gives settings text) (hconvert : convert text = .ok content) :
    (runSettings around settings).output = [content] := by
  have hpage : (Except.ok text).bind (fun t => (convert t).mapError Failure.ofProblem) =
      .ok content := by
    change (convert text).mapError Failure.ofProblem = _
    rw [hconvert]
    rfl
  rw [runSettings_of_gives h]
  unfold printPage
  rw [hpage]

/-- A text that is no document is not printed, and the run is logged to fail with its
problem. -/
theorem errors_of_gives {around : Surroundings} {settings : Config.Settings} {text : String}
    {p : Xml.Problem} (h : around.Gives settings text) (hparse : Xml.parse text = .error p) :
    (runSettings around settings).output = [] ∧
      (runSettings around settings).log.filter (·.level = .error) =
        [⟨.error, (Failure.ofProblem p).message, []⟩] := by
  have hproblem : (Except.ok text).bind (fun t => (convert t).mapError Failure.ofProblem) =
      .error (Failure.ofProblem p) := by
    change (convert text).mapError Failure.ofProblem = _
    rw [convert, hparse]
    rfl
  rw [runSettings_of_gives h]
  unfold printPage
  rw [hproblem]
  exact ⟨rfl, rfl⟩

end Docdown
