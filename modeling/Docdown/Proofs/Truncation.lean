import Docdown.Proofs.Run.Turns
import Docdown.Proofs.Xml.Effects
import Docdown.Proofs.Xml.Reading.Documents

/-!
# Docdown.Proofs.Truncation

A truncated document is never accepted: wherever a spelling that ends with its
root element is cut off, in the middle of a piece of markup or between two, there is
no root element yet (`parse_truncated`).  So the rest of it is not converted, and a
run over a directory skips a file that holds it.
-/

namespace Docdown

open Xml

/-- The root element is there only after the last character of its spelling. -/
theorem Xml.Scanner.root?_of_append {d : Spelling.Document} {p u : List Char} {s : Scanner}
    (hp : p ++ u = d.prolog ++ d.root.front) (hread : ({} : Scanner).readAll p = .ok s) :
    s.tree.root? = none := by
  obtain ⟨m, hm, hprolog⟩ := Scanner.exists_readAll_prolog d
  obtain ⟨s', hfront, hroot, -⟩ := Scanner.exists_readAll_root d.root hm
  have hend : s.readAll u = .ok s' := by
    have hwhole : ({} : Scanner).readAll (p ++ u) = .ok s' := by
      rw [hp, hprolog, ← List.append_nil d.root.front, hfront, Scanner.readAll_nil]
    rw [Scanner.readAll_append, hread] at hwhole
    exact hwhole
  cases hs : s.tree.root? with
  | none => rfl
  | some e =>
    have hkept : s'.tree.root? = some e := (Scanner.grows_readAll hend).root? hs
    rw [hroot] at hkept
    contradiction

/-- A proper beginning of a document that ends with its root element is at most what
precedes the last character. -/
theorem Xml.Spelling.Document.exists_append_of_truncated {d : Spelling.Document}
    (hafter : d.after = []) {p rest : List Char} (hp : p ++ rest = d.text) (hrest : rest ≠ []) :
    ∃ u, p ++ u = d.prolog ++ d.root.front := by
  refine ⟨rest.dropLast, ?_⟩
  have htext : d.text = (d.prolog ++ d.root.front) ++ ['>'] := by
    simp [Spelling.Document.text, hafter, Spelling.Root.text]
  have hlast := congrArg List.dropLast (hp.trans htext)
  rw [List.dropLast_append_of_ne_nil hrest, List.dropLast_concat] at hlast
  exact hlast

open DirectoryRun

/-- **A truncated document is never accepted.**  Every proper beginning of a
document that ends with its root element has a problem.  It is not converted, and a
run over a directory that comes to a file with that text skips the file. -/
theorem parse_truncated {d : Spelling.Document} (hafter : d.after = []) {p rest : List Char}
    (hp : p ++ rest = d.text) (hrest : rest ≠ []) :
    ∃ x, parse (String.ofList p) = .error x ∧ convert (String.ofList p) = .error x ∧
      ∀ (r : DirectoryRun) (directory : String) (s : Config.Settings) (files : FileTree)
        (file : String) (bytes : ByteArray), r.ComesTo directory s files file →
        r.files.readFile (Path.join [directory, file]) = .ok bytes →
        Text.Utf8.text bytes = String.ofList p →
        r.convertFile directory s.outDir file = r.skip file x ∧
          file ∈ (convertDirectory directory s files).skipped := by
  obtain ⟨u, hu⟩ := Spelling.Document.exists_append_of_truncated hafter hp hrest
  have hfails : ∃ x, parse (String.ofList p) = .error x := by
    cases hparse : parse (String.ofList p) with
    | error x => exact ⟨x, rfl⟩
    | ok e =>
      obtain ⟨s, hread, hfinish⟩ := parse_eq_ok_iff.1 hparse
      obtain ⟨-, -, -, hroot⟩ := Scanner.finish_eq_ok_iff.1 hfinish
      rw [String.toList_ofList] at hread
      rw [Scanner.root?_of_append hu hread] at hroot
      contradiction
  obtain ⟨x, hx⟩ := hfails
  refine ⟨x, hx, by rw [convert, hx]; rfl, ?_⟩
  intro r directory s files file bytes hr hfile hbytes
  have hskip : r.convertFile directory s.outDir file = r.skip file x :=
    convertFile_of_problem directory s.outDir hr.failure? hfile (by rw [hbytes, hx])
  exact ⟨hskip, mem_skipped_of_comesTo hr hskip⟩

/-- A directory with one file, in which the document breaks off after its first
tag. -/
def FileTree.cutOff : FileTree :=
  (FileTree.empty ["work"]).put ["work", "a.xml"] (.file ⟨#[0x3C, 0x61, 0x3E]⟩)

/-- The opening tag of `<a>b</a>` alone has a problem, and the file is skipped. -/
theorem parse_truncated_opening :
    (∃ d : Spelling.Document, d.string = "<a>b</a>" ∧ d.after = []) ∧
      (∃ x, parse "<a>" = .error x) ∧
      "a.xml" ∈ (convertDirectory "." {} .cutOff).skipped := by
  let a : Spelling.Root := .element ⟨.none, ⟨['a'], by decide⟩, [], .none, by decide⟩
    (.char (.plain 'b' ⟨by decide, by decide⟩) .nil) ⟨.none, .none, .none⟩
  have hfound : (Glob.find .cutOff "." "*.xml").toOption = some ["a.xml"] := by decide +kernel
  have hfind : Glob.find .cutOff "." "*.xml" = .ok ["a.xml"] := by
    cases hf : Glob.find .cutOff "." "*.xml" with
    | error r => rw [hf] at hfound; contradiction
    | ok found => rw [hf] at hfound; exact congrArg _ (Option.some.inj hfound)
  have hcut : ['<', 'a', '>'] ++ ['b', '<', '/', 'a', '>'] =
      Spelling.Document.text ⟨false, [], a, []⟩ := by decide
  obtain ⟨x, hparse, -, hrun⟩ := parse_truncated rfl hcut (by decide)
  obtain ⟨-, hskipped⟩ := hrun (begin "." {} .cutOff ["a.xml"]) "." {} .cutOff "a.xml"
    ⟨#[0x3C, 0x61, 0x3E]⟩ ⟨⟨[], [], hfind, rfl⟩, by rfl⟩ (by rfl) (by rfl)
  exact ⟨⟨⟨false, [], a, []⟩, by decide, rfl⟩, ⟨x, hparse⟩, hskipped⟩

end Docdown
