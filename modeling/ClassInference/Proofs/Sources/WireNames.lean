import ClassInference.Proofs.Layouts.Breaks
import ClassInference.Proofs.Order.Generators
import ClassInference.Proofs.Sources.Literals
import ClassInference.Proofs.Sources.Templates

/-!
# Marks of wire names

An annotated field has a line of its own with the mark that states its wire name. The mark reads as
the wire name again, and the layout leaves it on one line unless it is too wide.
-/

namespace ClassInference

open Layout (contentLines)

/-! ### Items as lines -/

namespace Source

variable {text : String} {d : Dialect} {decl : Declaration}

theorem appendTo_eq_append (lines : List String) (item : Item) :
    ∃ more, item.appendTo lines = lines ++ more := by
  cases item with
  | line text => exact ⟨[text], rfl⟩
  | block text => exact ⟨blockLines text, rfl⟩
  | gap =>
      rw [Item.appendTo]
      split
      · split
        · exact ⟨[], (List.append_nil lines).symm⟩
        · exact ⟨[""], rfl⟩
      · exact ⟨[], (List.append_nil lines).symm⟩

theorem foldl_appendTo_eq_append (parts : List Item) (lines : List String) :
    ∃ more, parts.foldl Item.appendTo lines = lines ++ more := by
  induction parts generalizing lines with
  | nil => exact ⟨[], (List.append_nil lines).symm⟩
  | cons item parts ih =>
      obtain ⟨more, hmore⟩ := appendTo_eq_append lines item
      obtain ⟨rest, hrest⟩ := ih (lines ++ more)
      refine ⟨more ++ rest, ?_⟩
      rw [List.foldl_cons, hmore, hrest, List.append_assoc]

/-- A line among the items is a line of the text. -/
theorem mem_foldl_appendTo {parts : List Item} (h : .line text ∈ parts) :
    text ∈ parts.foldl Item.appendTo [] := by
  obtain ⟨before, after, rfl⟩ := List.append_of_mem h
  obtain ⟨more, hmore⟩ :=
    foldl_appendTo_eq_append after (before.foldl Item.appendTo [] ++ [text])
  rw [List.foldl_append, List.foldl_cons, Item.appendTo, hmore]
  simp

/-- The lines of a text of declarations: their lines, each taken apart where it has a line feed, and
nothing after the last line feed. -/
theorem lines_text {decls : List Declaration} (hlines : lines d decls ≠ []) :
    Text.lines (Source.text d decls).toList
      = ((lines d decls).map String.toList).flatMap Text.lines ++ [[]] := by
  have hfeeds : "\n".toList = ['\n'] := rfl
  have htexts : (lines d decls).map String.toList ≠ [] := by simpa using hlines
  rw [Source.text, String.toList_append, String.toList_intercalate, hfeeds,
    Text.lines_intercalate htexts]

/-- A line among the items, if it is one line, is laid out as it stands. -/
theorem contentLines_text (hitem : .line text ∈ items d decl)
    (hfeed : '\n' ∉ text.toList) (hblank : Text.isBlankText text.toList = false)
    (hend : text.toList.getLast? ≠ some '\r') :
    ∃ before after, contentLines (Source.text d [decl]).toList
      = before ++ text.toList :: after := by
  have hmem : text ∈ lines d [decl] := by
    apply mem_foldl_appendTo
    rw [List.flatMap_singleton]
    exact hitem
  obtain ⟨before, after, hlines⟩ := List.append_of_mem hmem
  have htext : Text.lines (Source.text d [decl]).toList
      = (before.map String.toList).flatMap Text.lines
        ++ text.toList :: ((after.map String.toList).flatMap Text.lines ++ [[]]) := by
    rw [lines_text (List.ne_nil_of_mem hmem), hlines, List.map_append, List.map_cons,
      List.flatMap_append, List.flatMap_cons, Text.lines_of_not_mem hfeed]
    simp
  exact Layout.contentLines_of_lines htext hblank hend

/-- An annotated field has a line with its mark. -/
theorem wireNameMark_mem_items {base : Option String} {fields params : List FieldDecl}
    {superArgs : List String} (hkind : decl.kind = .record base fields params superArgs)
    {f : FieldDecl} (hf : f ∈ fields) (hannotated : f.annotated = true) :
    .line (wireNameMark d f.wireName) ∈ items d decl := by
  have hfield : Item.line (wireNameMark d f.wireName) ∈ fieldItems d f := by
    simp [fieldItems, hannotated]
  have hfields : fields.isEmpty = false := by
    rw [List.isEmpty_eq_false_iff]
    exact List.ne_nil_of_mem hf
  have hblock : Item.line (wireNameMark d f.wireName) ∈ .gap :: fields.flatMap (fieldItems d) :=
    List.mem_cons_of_mem _ (List.mem_flatMap.2 ⟨f, hf, hfield⟩)
  have hrecord : Item.line (wireNameMark d f.wireName)
      ∈ recordItems d decl.name base fields params superArgs := by
    simp only [recordItems, hfields, Bool.false_eq_true, if_false, List.mem_append]
    exact .inl (.inl (.inl (.inl (.inr hblock))))
  rw [items, hkind]
  exact List.mem_append_right _ hrecord

end Source

/-! ### Marks -/

namespace Dialect

variable {d : Dialect} {text : String}

theorem toList_fill_wireNameMark_java (text : String) :
    (fill java.wireNameMark [("json", text)]).toList
      = "@SerializedName(\"".toList ++ text.toList ++ "\")".toList :=
  Template.fill_of_slot (by decide) (by decide) (by decide) (by decide) (by decide)

theorem toList_fill_wireNameMark_csharp (text : String) :
    (fill csharp.wireNameMark [("json", text)]).toList
      = "[JsonPropertyName(\"".toList ++ text.toList ++ "\")]".toList :=
  Template.fill_of_slot (by decide) (by decide) (by decide) (by decide) (by decide)

/-- The mark for a text of one line is a line that begins with a character for the layout to copy
and does not end in a blank. -/
theorem wireNameMark_spec (hd : d = .java ∨ d = .csharp) (htext : '\n' ∉ text.toList) :
    ∃ c cs, (fill d.wireNameMark [("json", text)]).toList = c :: cs ∧ Text.isBlank c = false ∧
      c ≠ '}' ∧ '\n' ∉ c :: cs ∧ (c :: cs).getLast? ≠ some '\r' := by
  rcases hd with rfl | rfl
  · refine ⟨'@', "SerializedName(\"".toList ++ text.toList ++ "\")".toList,
      toList_fill_wireNameMark_java text, by decide, by decide, ?_, ?_⟩
    · simp [htext]
    · simp [List.getLast?_cons, List.getLast?_append]
  · refine ⟨'[', "JsonPropertyName(\"".toList ++ text.toList ++ "\")]".toList,
      toList_fill_wireNameMark_csharp text, by decide, by decide, ?_, ?_⟩
    · simp [htext]
    · simp [List.getLast?_cons, List.getLast?_append]

end Dialect

/-- The characters that end a line: line feed, carriage return, next line, and the line and
paragraph separators. -/
def Text.isLineTerminator (c : Char) : Bool :=
  c ∈ ['\n', '\r', '\u0085', '\u2028', '\u2029']

namespace ClassGraph

/-- An annotated field whose wire name has no line terminator states it: its mark is a line of the
source, with a literal that reads as the wire name, and the layout writes this line with all its
characters but blanks, and on one line just if no character of it forces a break. -/
theorem writes_wireName {d : Dialect} (hd : d = .java ∨ d = .csharp) {l : Layout}
    (hindent : Text.isBlankText l.indent.toList = true) (g : ClassGraph) (c : ClassNode)
    {base : Option String} {fields params : List FieldDecl} {superArgs : List String}
    (hkind : (g.declare d c).kind = .record base fields params superArgs) {f : FieldDecl}
    (hf : f ∈ fields) (hannotated : f.annotated = true)
    (hterminators : ∀ ch ∈ f.wireName.toList, Text.isLineTerminator ch = false) :
    let E := Source.escapeLiteral f.wireName
    let mark := (fill d.wireNameMark [("json", E)]).toList
    Source.unescapeLiteral E = f.wireName ∧
      (∀ ch ∈ E.toList, Text.isLineTerminator ch = false) ∧
      (∃ before after, contentLines (g.source d c).toList = before ++ mark :: after) ∧
      ∀ before after, contentLines (g.source d c).toList = before ++ mark :: after →
        l.Writes (g.source d c) (l.formatLines .start before).1 mark := by
  intro E mark
  have hescaped : ∀ ch ∈ E.toList, Text.isLineTerminator ch = false := by
    intro ch hch
    -- a character of the literal is one of the wire name, or a backslash
    by_cases hslash : ch = '\\'
    · rw [hslash]
      decide
    · exact hterminators ch (Source.mem_of_mem_escapeLiteral hslash hch)
  have hfeed : '\n' ∉ E.toList := by
    intro hmem
    exact absurd (hescaped '\n' hmem) (by decide)
  refine ⟨Source.unescapeLiteral_escapeLiteral f.wireName, hescaped, ?_⟩
  obtain ⟨first, rest, hmark, hblank, hbrace, hline, hend⟩ := Dialect.wireNameMark_spec hd hfeed
  change mark = first :: rest at hmark
  constructor
  · have hitem := Source.wireNameMark_mem_items (d := d) hkind hf hannotated
    have hmarked : Text.isBlankText mark = false := by
      rw [hmark]
      simp [Text.isBlankText, hblank]
    rw [← hmark] at hline hend
    exact Source.contentLines_text hitem hline hmarked hend
  · intro before after htext
    rw [hmark] at htext ⊢
    exact Layout.writes_of_contentLines hindent htext hblank hbrace hline

/-- The graph of a document with one key. -/
def keyGraph (key : String) : ClassGraph :=
  (new Dialect.java.builtins).build (.object [(key, .bool true)]) "p" "R"

/-- The class of the document. -/
def keyClass (key : String) : ClassNode := ((keyGraph key).find? "R").getD (.new 0 "p" "R" true)

/-- The field of a key that is no name. -/
def keyField (key : String) : FieldDecl := ⟨"a", key, "boolean", true⟩

theorem kind_declare_quote :
    ((keyGraph "a\"").declare .java (keyClass "a\"")).kind
      = .record none [keyField "a\""] [keyField "a\""] [] := by
  decide +kernel

/-- The lines of the class of the key with a quote, up to the mark. -/
def linesBeforeMark : List String :=
  ["package p;", "", "import com.google.gson.annotations.SerializedName;", "",
    "public class R \x7b", ""]

/-- The lines after the mark. -/
def linesAfterMark : List String :=
  ["private final boolean a;", "", "public R(boolean a) \x7b", "this.a = a;", "\x7d", "",
    "public boolean getA() \x7b", "return a;", "\x7d", "\x7d"]

theorem contentLines_quote :
    contentLines ((keyGraph "a\"").source .java (keyClass "a\"")).toList
      = linesBeforeMark.map String.toList
        ++ "@SerializedName(\"a\\\"\")".toList :: linesAfterMark.map String.toList := by
  have hlines : Source.lines .java [(keyGraph "a\"").declare .java (keyClass "a\"")]
      = linesBeforeMark ++ "@SerializedName(\"a\\\"\")" :: linesAfterMark := by
    decide +kernel
  rw [contentLines, ClassGraph.source, Source.lines_text (by simp [hlines]), hlines]
  decide +kernel

theorem writes_wireName_quote :
    let l := Layout.standard
    let f := keyField "a\""
    let mark := "@SerializedName(\"a\\\"\")".toList
    (Dialect.java = .java ∨ Dialect.java = .csharp) ∧ Text.isBlankText l.indent.toList = true ∧
      ((keyGraph "a\"").declare .java (keyClass "a\"")).kind = .record none [f] [f] [] ∧
      f ∈ [f] ∧ f.annotated = true ∧
      (∀ ch ∈ f.wireName.toList, Text.isLineTerminator ch = false) ∧
      ∃ line ∈ Text.lines
          (l.format ((keyGraph "a\"").source .java (keyClass "a\""))).toList,
        line.dropWhile Text.isBlank = mark := by
  intro l f mark
  have hindent : Text.isBlankText l.indent.toList = true := by decide
  have hplain : ∀ ch ∈ f.wireName.toList, Text.isLineTerminator ch = false := by
    have hall : f.wireName.toList.all (!Text.isLineTerminator ·) = true := by decide
    intro ch hch
    simpa using List.all_eq_true.1 hall ch hch
  have hf : f ∈ [f] := List.mem_cons_self
  refine ⟨.inl rfl, hindent, kind_declare_quote, hf, rfl, hplain, ?_⟩
  obtain ⟨-, -, -, hwrites⟩ :=
    writes_wireName (.inl rfl) hindent _ _ kind_declare_quote hf rfl hplain
  have hmark : (fill Dialect.java.wireNameMark
      [("json", Source.escapeLiteral f.wireName)]).toList = mark := by decide +kernel
  rw [hmark] at hwrites
  have h := hwrites _ _ contentLines_quote
  apply h.shown
  apply h.unbroken_iff.1
  decide +kernel

/-- Marks are broken where they are wide, and no literal of one line reads as a wire name with a
line feed. -/
theorem not_writes_wireName :
    let l : Layout := ⟨"  ", 10⟩
    let quote := keyField "a\""
    let feed := keyField "a\n"
    Text.isBlankText l.indent.toList = true ∧
      ((keyGraph "a\"").declare .java (keyClass "a\"")).kind
        = .record none [quote] [quote] [] ∧
      ((keyGraph "a\n").declare .java (keyClass "a\n")).kind = .record none [feed] [feed] [] ∧
      quote.annotated = true ∧ feed.annotated = true ∧
      (¬ ∃ E, ∃ line ∈ Text.lines
          (l.format ((keyGraph "a\"").source .java (keyClass "a\""))).toList,
        line.dropWhile Text.isBlank
          = (fill Dialect.java.wireNameMark [("json", E)]).toList) ∧
      ¬ ∃ E, Source.unescapeLiteral E = feed.wireName ∧
        ∀ ch ∈ E.toList, Text.isLineTerminator ch = false := by
  intro l quote feed
  refine ⟨by decide, kind_declare_quote, by decide +kernel, rfl, rfl, ?_, ?_⟩
  · rintro ⟨E, line, hline, hmark⟩
    rw [Layout.format, String.toList_ofList, contentLines_quote] at hline
    -- the mark is broken after its parenthesis, so that no line begins with it
    have hnone : ∀ line ∈ Text.lines (l.formatLines .start (linesBeforeMark.map String.toList
          ++ "@SerializedName(\"a\\\"\")".toList :: linesAfterMark.map String.toList)).2,
        "@SerializedName(\"".toList.isPrefixOf (line.dropWhile Text.isBlank) = false := by
      decide +kernel
    have hstart := hnone line hline
    rw [hmark, Dialect.toList_fill_wireNameMark_java] at hstart
    simp at hstart
  · rintro ⟨E, hread, hplain⟩
    have hmem : '\n' ∈ Source.unescape E.toList := by
      have hchars := congrArg String.toList hread
      rw [Source.unescapeLiteral, String.toList_ofList] at hchars
      rw [hchars]
      decide
    exact absurd (hplain '\n' (Source.mem_of_mem_unescape hmem)) (by decide)

end ClassGraph

end ClassInference
