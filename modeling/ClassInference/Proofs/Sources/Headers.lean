import ClassInference.Generator
import ClassInference.Proofs.Layouts.Verbatim
import ClassInference.Proofs.Sources.WireNames

/-!
# File headers

A file begins with the lines of its header. The layout comes to them first, with nothing open, and
looks for structural characters in them as in all other lines.
-/

namespace ClassInference

open Layout (contentLines asWritten)

namespace Source

variable {d : Dialect} {decl : Declaration} {header : String}

theorem exists_lines_eq_header (hheader : decl.header = some header) :
    ∃ more, lines d [decl] = blockLines header ++ more := by
  obtain ⟨parts, hparts⟩ : ∃ parts, items d decl = .block header :: parts := by
    rw [items, hheader]
    exact ⟨_, rfl⟩
  rw [lines, List.flatMap_singleton, hparts, List.foldl_cons]
  exact foldl_appendTo_eq_append parts (blockLines header)

theorem not_mem_of_mem_blockLines {line : List Char}
    (h : line ∈ (blockLines header).map String.toList) : '\n' ∉ line := by
  obtain ⟨text, htext, rfl⟩ := List.mem_map.1 h
  obtain ⟨chars, hchars, rfl⟩ := List.mem_map.1 htext
  rw [String.toList_ofList]
  exact Text.not_mem_of_mem_lines hchars

/-- The lines of a text that are neither blank nor end in a carriage return come first among those
that are laid out if they come first in the text. -/
theorem contentLines_of_prefix {text : List Char} {first rest : List (List Char)}
    (htext : Text.lines text = first ++ rest)
    (hink : ∀ line ∈ first, Text.isBlankText line = false)
    (hend : ∀ line ∈ first, line.getLast? ≠ some '\r') :
    ∃ more, contentLines text = first ++ more := by
  obtain ⟨kept, dropped, hlines, hdropped, -, hcontent⟩ := Layout.exists_contentLines_eq_map text
  have hstrip : first.map Layout.stripReturn = first :=
    (List.map_congr_left fun line hline => Layout.stripReturn_eq_self (hend line hline)).trans
      (List.map_id first)
  rcases List.append_eq_append_iff.1 (htext.symm.trans hlines) with
    ⟨more, rfl, -⟩ | ⟨more, rfl, rfl⟩
  · rw [hcontent, List.map_append, hstrip]
    exact ⟨_, rfl⟩
  · -- what is dropped is blank, so that no line of the first ones is
    have hnone : more = [] := by
      rw [List.eq_nil_iff_forall_not_mem]
      intro line hline
      have hblank := hdropped line (List.mem_append_left rest hline)
      exact Bool.noConfusion (hblank.symm.trans (hink line (List.mem_append_right kept hline)))
    rw [hnone, List.append_nil] at hstrip ⊢
    exact ⟨[], by rw [hcontent, hstrip, List.append_nil]⟩

/-- The lines of the header come first among the lines that are laid out. -/
theorem contentLines_header (hheader : decl.header = some header)
    (hlines : ∀ line ∈ (blockLines header).map String.toList,
      Text.isBlankText line = false ∧ '\r' ∉ line) :
    ∃ more, contentLines (text d [decl]).toList
      = (blockLines header).map String.toList ++ more := by
  obtain ⟨more, hmore⟩ := exists_lines_eq_header (d := d) hheader
  have hne : blockLines header ≠ [] := by
    rw [blockLines, ne_eq, List.map_eq_nil_iff]
    exact Text.split_ne_nil _ _
  have hsplit : ((blockLines header).map String.toList).flatMap Text.lines
      = (blockLines header).map String.toList := by
    have hsingle : ∀ line ∈ (blockLines header).map String.toList, Text.lines line = [line] :=
      fun line hline => Text.lines_of_not_mem (not_mem_of_mem_blockLines hline)
    rw [List.flatMap_congr hsingle, List.flatMap_singleton']
  have htext : Text.lines (text d [decl]).toList = (blockLines header).map String.toList
      ++ ((more.map String.toList).flatMap Text.lines ++ [[]]) := by
    rw [lines_text (by simp [hmore, hne]), hmore, List.map_append, List.flatMap_append, hsplit,
      List.append_assoc]
  apply contentLines_of_prefix htext
  · exact fun line hline => (hlines line hline).1
  · exact fun line hline hreturn => (hlines line hline).2 (List.mem_of_getLast? hreturn)

end Source

namespace ClassGraph

variable {g : ClassGraph} {header : String} {d : Dialect} {c : ClassNode} {l : Layout}

/-- What is laid out for a class are the strips of the header's lines and of more lines. -/
theorem toList_format_source (hheader : g.fileHeader = some header)
    (hlines : ∀ line ∈ (Source.blockLines header).map String.toList,
      Text.isBlankText line = false ∧ '\r' ∉ line)
    (d : Dialect) (c : ClassNode) (l : Layout) :
    ∃ more, (l.format (g.source d c)).toList
      = l.write (l.strips .start ((Source.blockLines header).map String.toList ++ more)) := by
  have hdecl : (g.declare d c).header = some header := hheader
  obtain ⟨more, hmore⟩ := Source.contentLines_header (d := d) hdecl hlines
  exact ⟨more, by rw [Layout.format, String.toList_ofList, Layout.write_strips, source, hmore]⟩

/-- Where indentation is blank, a header that is written as it stands is left alone. -/
theorem leavesAlone_of_prefix_format (hheader : g.fileHeader = some header)
    (hlines : ∀ line ∈ (Source.blockLines header).map String.toList,
      Text.isBlankText line = false ∧ '\r' ∉ line)
    (hindent : Text.isBlankText l.indent.toList = true)
    (hpre : asWritten ((Source.blockLines header).map String.toList)
      <+: (l.format (g.source d c)).toList) :
    l.LeavesAlone [] ((Source.blockLines header).map String.toList) := by
  obtain ⟨more, hformat⟩ := toList_format_source hheader hlines d c l
  rw [hformat] at hpre
  apply Layout.leavesAlone_of_prefix_write hindent Layout.unwrapped_start _ hpre
  exact fun line hline => ⟨(hlines line hline).1, Source.not_mem_of_mem_blockLines hline⟩

/-- A header without blank lines is written as it stands if each of its lines is left alone, and
with blanks for indentation only then. -/
theorem header_asWritten (hheader : g.fileHeader = some header)
    (hlines : ∀ line ∈ (Source.blockLines header).map String.toList,
      Text.isBlankText line = false ∧ '\r' ∉ line)
    (d : Dialect) (c : ClassNode) (l : Layout) :
    let lines := (Source.blockLines header).map String.toList
    (l.LeavesAlone [] lines → asWritten lines <+: (l.format (g.source d c)).toList) ∧
      (Text.isBlankText l.indent.toList = true →
        asWritten lines <+: (l.format (g.source d c)).toList → l.LeavesAlone [] lines) := by
  intro lines
  refine ⟨fun halone => ?_, fun hindent => leavesAlone_of_prefix_format hheader hlines hindent⟩
  obtain ⟨more, hformat⟩ := toList_format_source hheader hlines d c l
  rw [hformat]
  exact halone.prefix_write Layout.unwrapped_start (fun line hline => (hlines line hline).1) more

/-- The finished graph of a document with one key, with a file header. -/
def headedGraph (header : String) : ClassGraph :=
  (((Generator.new "p" "R" .java).withFileHeader (some header)).observe
    (.object [("a", .bool true)])).finishedGraph

theorem fileHeader_headedGraph (header : String) :
    (headedGraph header).fileHeader = some header := by
  rfl

theorem generatable_headedGraph_ne_nil (header : String) :
    (headedGraph header).generatable ≠ [] := by
  have hsame : (headedGraph header).generatable = (headedGraph "").generatable := by rfl
  rw [hsame]
  decide +kernel

/-- A notice with short lines is written as it stands, its parentheses and semicolons too. -/
theorem header_asWritten_notice :
    let header := "/*\n * Copyright (C) 2015;\n *\n * Licensed under the License \x7b2.0\x7d\n */\n"
    let lines := (Source.blockLines header).map String.toList
    (headedGraph header).fileHeader = some header ∧
      (∀ line ∈ lines, Text.isBlankText line = false ∧ '\r' ∉ line) ∧
      ∃ c ∈ (headedGraph header).generatable, asWritten lines
        <+: (Layout.standard.format ((headedGraph header).source .java c)).toList := by
  intro header lines
  have hheader := fileHeader_headedGraph header
  have hlines : ∀ line ∈ lines, Text.isBlankText line = false ∧ '\r' ∉ line := by decide +kernel
  have halone : Layout.standard.LeavesAlone [] lines := by decide +kernel
  obtain ⟨c, hc⟩ := List.exists_mem_of_ne_nil _ (generatable_headedGraph_ne_nil header)
  exact ⟨hheader, hlines, c, hc, (header_asWritten hheader hlines .java c _).1 halone⟩

/-- Inside a brace the lines of a notice are indented. -/
theorem not_header_asWritten_brace :
    let header := "/*\n * Generated from \x7b\n *   \"a\": true\n * \x7d\n */"
    let lines := (Source.blockLines header).map String.toList
    (headedGraph header).fileHeader = some header ∧
      (∀ line ∈ lines, Text.isBlankText line = false ∧ '\r' ∉ line) ∧
      ∃ c ∈ (headedGraph header).generatable, ¬ asWritten lines
        <+: (Layout.standard.format ((headedGraph header).source .java c)).toList := by
  intro header lines
  have hheader := fileHeader_headedGraph header
  have hlines : ∀ line ∈ lines, Text.isBlankText line = false ∧ '\r' ∉ line := by decide +kernel
  have halone : ¬ Layout.standard.LeavesAlone [] lines := by decide +kernel
  obtain ⟨c, hc⟩ := List.exists_mem_of_ne_nil _ (generatable_headedGraph_ne_nil header)
  refine ⟨hheader, hlines, c, hc, fun hpre => halone ?_⟩
  exact leavesAlone_of_prefix_format hheader hlines (by decide) hpre

end ClassGraph

end ClassInference
