import ApiScaffold.Proofs.DocText
import ApiScaffold.Proofs.Package.Generation
import ApiScaffold.Proofs.Web.Form
import Mathlib.Data.List.Nodup

/-!
# What the title of a document becomes in the source

The title and the version of a document are written into comments as they are.  A comment ends
with its line, so what stands behind a line feed of a title is no comment any more: it is **stray**
code.

A file is a list of elements, each ended by a line feed, so its lines of code are those of its
elements (`codeLines_text`), and an element that begins as a comment has no others than the stray
ones of the text in it (`codeOf_comment`).  All files but two have the title in their heading only
(`headedFiles`); of the others one is the root, with the title and the version in its first line,
and one the client, which has both.

* `Lines.codeLines`: the lines of a file that are no comments.
* `Lines.stray`: what a text leaves behind its first line feed.
* `codeLines_files_iff`: **the files of a plan have the same code under another title exactly if
the titles leave the same stray code.**
* `exists_mem_codeLines`: **stray code of a title is code of the package.**
* `retitled_code_iff`: what the title and the version of a document become.
* `stray_title_accepted`: a title with a line feed.
-/

namespace ApiScaffold

open Text (splitWhere splitWhere_append splitWhere_mark splitWhere_of_forall dropReturn lineChars)

namespace Lines

/-! ## Lines of code -/

/-- Whether a line is a comment. -/
def isComment (line : List Char) : Bool := "//".toList.isPrefixOf (Text.trimChars line)

/-- The lines of a file that are no comments. -/
def codeLines (content : String) : List (List Char) :=
  (lineChars content.toList).filter (!isComment ·)

/-- The lines of code that an element of a file becomes. -/
def codeOf (line : String) : List (List Char) :=
  ((splitWhere (· == '\n') line.toList).map dropReturn).filter (!isComment ·)

/-- The lines of code behind the first line feed of a text. -/
def stray (text : String) : List (List Char) :=
  ((splitWhere (· == '\n') text.toList).tail.map dropReturn).filter (!isComment ·)

variable {lines : Lines} {word text : String} {cs : List Char}

/-- **The code of a file is that of its elements**, one after another. -/
theorem codeLines_text : codeLines (Lines.text lines) = lines.flatMap codeOf := by
  have hlines : lineChars (Lines.text lines).toList =
      lines.flatMap fun line => (splitWhere (· == '\n') line.toList).map dropReturn := by
    rw [lineChars, split_text]
    simp [List.map_flatMap]
  rw [codeLines, hlines, List.filter_flatMap]
  rfl

/-- A line that begins with two slashes is a comment. -/
theorem isComment_dropReturn (cs : List Char) :
    isComment (dropReturn ('/' :: '/' :: cs)) = true := by
  obtain ⟨more, hmore⟩ : ∃ more, dropReturn ('/' :: '/' :: cs) = '/' :: '/' :: more := by
    cases cs with
    | nil => exact ⟨[], rfl⟩
    | cons c cs =>
      rw [dropReturn]
      split
      · exact ⟨(c :: cs).dropLast, rfl⟩
      · exact ⟨c :: cs, rfl⟩
  have hslash : Text.isBlank '/' = false := by decide
  rw [hmore, isComment, Text.trimChars, Text.trimWhile,
    List.dropWhile_cons_of_neg (by simp [hslash]), Text.dropEndWhile_cons hslash,
    Text.dropEndWhile_cons hslash]
  rfl

theorem not_lineFeed (h : '\n' ∉ cs) : ∀ c ∈ cs, (c == '\n') = false := by
  intro c hc
  refine beq_eq_false_iff_ne.mpr ?_
  rintro rfl
  exact h hc

/-- A text in a comment becomes code behind its first line feed only. -/
theorem codeOf_comment (hword : "//".toList <+: word.toList) (hplain : '\n' ∉ word.toList) :
    codeOf (word ++ text) = stray text := by
  obtain ⟨piece, rest, hsplit, happend⟩ := splitWhere_append (not_lineFeed hplain) text.toList
  obtain ⟨more, hmore⟩ := hword
  have hfirst : isComment (dropReturn (word.toList ++ piece)) = true := by
    rw [← hmore]
    exact isComment_dropReturn (more ++ piece)
  rw [codeOf, stray, String.toList_append, happend, hsplit, List.map_cons, List.filter_cons, hfirst]
  rfl

theorem stray_append (hplain : '\n' ∉ word.toList) : stray (word ++ text) = stray text := by
  obtain ⟨piece, rest, hsplit, happend⟩ := splitWhere_append (not_lineFeed hplain) text.toList
  rw [stray, stray, String.toList_append, happend, hsplit]
  rfl

/-- A text without a line feed leaves no code. -/
theorem stray_of_not_mem (hplain : '\n' ∉ text.toList) : stray text = [] := by
  rw [stray, splitWhere_of_forall (not_lineFeed hplain)]
  rfl

end Lines

/-! ## The files -/

open Package.Source
open Lines (codeLines codeOf stray codeLines_text)

/-- A document under another title and with another version. -/
def Document.retitled (d : Document) (title version : String) : Document :=
  { d with title, version }

/-- A plan under another title and with another version. -/
def Plan.retitled (p : Plan) (title version : String) : Plan := { p with title, version }

variable {p : Plan} {title version word : String}

/-- The heading of a file becomes code behind the first line feed of its subject. -/
theorem codes_heading (hplain : '\n' ∉ word.toList) :
    (heading (word ++ title)).flatMap codeOf = stray title := by
  have hfirst : codeOf ("//! " ++ (word ++ title)) = stray title := by
    rw [Lines.codeOf_comment (by decide) (by decide), Lines.stray_append hplain]
  have hrest : ["//!", generatedMark].flatMap codeOf = [] := by decide +kernel
  rw [heading, List.flatMap_cons, hfirst, hrest, List.append_nil]

/-- The files with the title in their heading only, and the words before it. -/
def headedFiles : List (String × (Plan → Lines)) :=
  [("Operation inputs for ", inputs),
    ("Operation outputs, errors and response dispatchers for ", outputs),
    ("Controller capability set for ", controller),
    ("Routing table and handlers for ", server)]

/-- Behind the heading, such a file shows neither the title nor the version. -/
theorem heading_of_mem_headedFiles {file : String × (Plan → Lines)} (h : file ∈ headedFiles) :
    '\n' ∉ file.1.toList ∧
      (∀ p, file.2 p = heading (file.1 ++ p.title) ++ (file.2 p).drop 3) ∧
      ∀ p title version, (file.2 (p.retitled title version)).drop 3 = (file.2 p).drop 3 := by
  revert file
  simp only [headedFiles, List.forall_mem_cons]
  refine ⟨⟨by decide, fun _ => rfl, fun _ _ _ => rfl⟩, ⟨by decide, fun _ => rfl, fun _ _ _ => rfl⟩,
    ⟨by decide, fun _ => rfl, fun _ _ _ => rfl⟩, ⟨by decide, fun _ => rfl, fun _ _ _ => rfl⟩, ?_⟩
  exact List.forall_mem_nil _

theorem codeLines_headed {file : String × (Plan → Lines)} (h : file ∈ headedFiles) :
    codeLines (file.2 p).text = stray p.title ++ ((file.2 p).drop 3).flatMap codeOf := by
  obtain ⟨hplain, hhead, -⟩ := heading_of_mem_headedFiles h
  rw [codeLines_text, hhead p, List.flatMap_append, codes_heading hplain, ← hhead p]

/-- What stands behind the first line feed of the title is code of each such file. -/
theorem mem_codeLines_of_stray {file : String × (Plan → Lines)} (h : file ∈ headedFiles)
    {line : List Char} (hline : line ∈ stray p.title) : line ∈ codeLines (file.2 p).text := by
  rw [codeLines_headed h]
  exact List.mem_append_left _ hline

theorem codeLines_headed_iff {file : String × (Plan → Lines)} (h : file ∈ headedFiles) :
    codeLines (file.2 p).text = codeLines (file.2 (p.retitled title version)).text ↔
      stray p.title = stray title := by
  obtain ⟨-, -, hrest⟩ := heading_of_mem_headedFiles h
  rw [codeLines_headed h, codeLines_headed h, hrest]
  exact List.append_left_inj _

/-- A comment with the title and the version. -/
theorem codeOf_titled (hword : "//".toList <+: word.toList) (hplain : '\n' ∉ word.toList) :
    codeOf (word ++ title ++ " " ++ version) = stray (title ++ " " ++ version) := by
  rw [String.append_assoc, String.append_assoc, Lines.codeOf_comment hword hplain,
    ← String.append_assoc]

theorem stray_titled (htitle : '\n' ∉ title.toList) (hversion : '\n' ∉ version.toList) :
    stray (title ++ " " ++ version) = [] := by
  refine Lines.stray_of_not_mem ?_
  simp [htitle, hversion]

/-- The root of the package has the title and the version in its first line only. -/
theorem codeLines_library_iff :
    codeLines (library p).text = codeLines (library (p.retitled title version)).text ↔
      stray (p.title ++ " " ++ p.version) = stray (title ++ " " ++ version) := by
  have hcodes : ∀ q, codeLines (library q).text =
      stray (q.title ++ " " ++ q.version) ++ (library q).tail.flatMap codeOf := by
    intro q
    have hfirst : library q =
        ("//! " ++ q.title ++ " " ++ q.version) :: (library q).tail := rfl
    rw [codeLines_text, hfirst, List.flatMap_cons, codeOf_titled (by decide) (by decide)]
    rfl
  rw [hcodes, hcodes]
  exact List.append_left_inj _

/-- The client has the title in its heading, and again, with the version, in a comment. -/
theorem codeLines_client (htitle : stray p.title = stray title)
    (hversion : stray (p.title ++ " " ++ p.version) = stray (title ++ " " ++ version)) :
    codeLines (client p).text = codeLines (client (p.retitled title version)).text := by
  have hheading : (heading s!"Typed client for {p.title}").flatMap codeOf =
      (heading s!"Typed client for {title}").flatMap codeOf :=
    (codes_heading (by decide)).trans (htitle.trans (codes_heading (by decide)).symm)
  have hcomment : codeOf s!"/// Client for {p.title} {p.version}" =
      codeOf s!"/// Client for {title} {version}" :=
    (codeOf_titled (by decide) (by decide)).trans
      (hversion.trans (codeOf_titled (by decide) (by decide)).symm)
  -- all other elements are the same
  rw [codeLines_text, codeLines_text, client, client]
  simp only [List.flatMap_append, List.flatMap_cons]
  rw [hheading, hcomment]
  rfl

/-! ## The package -/

variable {request : PackageRequest} {document : Document} {g g' : GeneratedPackage}

/-- The source files of two packages have the same lines of code. -/
def SameCode (g g' : GeneratedPackage) : Prop :=
  ∀ a ∈ g.artifacts, ∀ b ∈ g'.artifacts, a.path = b.path → endsWith a.path ".rs" = true →
    codeLines a.content = codeLines b.content

/-- Two packages are compared file by file. -/
theorem sameCode_iff_files {q : Plan} {m n : Nat} :
    SameCode ⟨artifactsOf p, m⟩ ⟨artifactsOf q, n⟩ ↔
      ∀ file ∈ packageFiles, endsWith file.1 ".rs" = true →
        codeLines (file.2 p).text = codeLines (file.2 q).text := by
  constructor
  · intro h file hfile hsource
    have hp : emitFile file.1 file.2 p ∈ artifactsOf p := mem_artifactsOf.mpr ⟨file, hfile, rfl⟩
    have hq : emitFile file.1 file.2 q ∈ artifactsOf q := mem_artifactsOf.mpr ⟨file, hfile, rfl⟩
    have hsame := h _ hp _ hq rfl hsource
    rw [emitFile_content, emitFile_content] at hsame
    exact hsame
  · intro h a ha b hb hpath hsource
    obtain ⟨file, hfile, rfl⟩ := mem_artifactsOf.mp ha
    obtain ⟨file', hfile', rfl⟩ := mem_artifactsOf.mp hb
    -- a path belongs to one file
    have hnodup : (packageFiles.map (·.1)).Nodup := by decide
    obtain rfl : file = file' := List.inj_on_of_nodup_map hnodup hfile hfile' hpath
    rw [emitFile_content, emitFile_content]
    exact h file hfile hsource

/-- **The lines of code of a plan's files under another title.** -/
theorem codeLines_files_iff :
    (∀ file ∈ packageFiles, endsWith file.1 ".rs" = true →
        codeLines (file.2 p).text = codeLines (file.2 (p.retitled title version)).text) ↔
      stray p.title = stray title ∧
        stray (p.title ++ " " ++ p.version) = stray (title ++ " " ++ version) := by
  constructor
  · intro h
    refine ⟨?_, ?_⟩
    · have hinputs := h ("src/inputs.rs", inputs) (by simp [packageFiles]) (by decide)
      have hheaded : ("Operation inputs for ", inputs) ∈ headedFiles := List.mem_cons_self
      exact (codeLines_headed_iff hheaded).mp hinputs
    · have hlibrary := h ("src/lib.rs", library) (by simp [packageFiles]) (by decide)
      exact codeLines_library_iff.mp hlibrary
  · rintro ⟨htitle, hversion⟩
    have hheaded : ∀ file ∈ headedFiles,
        codeLines (file.2 p).text = codeLines (file.2 (p.retitled title version)).text :=
      fun file hfile => (codeLines_headed_iff hfile).mpr htitle
    simp only [headedFiles, List.forall_mem_cons] at hheaded
    obtain ⟨hinputs, houtputs, hcontroller, hserver, -⟩ := hheaded
    simp only [packageFiles, List.forall_mem_cons]
    refine ⟨fun h => ?_, fun _ => codeLines_library_iff.mpr hversion, fun _ => hinputs,
      fun _ => houtputs, fun _ => codeLines_client htitle hversion, fun _ => hcontroller,
      fun _ => hserver, fun _ => rfl, List.forall_mem_nil _⟩
    exact absurd h (by decide)

/-- Under another title a document has the same code. -/
theorem compileDocument_retitled (document : Document) (title version : String) :
    compileDocument (document.retitled title version) = compileDocument document := rfl

/-- A document that is generated is generated under another title as well. -/
theorem exists_generate_retitled (h : generate emitters request (.ok document) = .ok g)
    (title version : String) :
    ∃ g', generate emitters request (.ok (document.retitled title version)) = .ok g' := by
  obtain ⟨hname, codes, hcodes, -⟩ := generate_eq_ok_iff.mp h
  have hcodes' := (compileDocument_retitled document title version).trans hcodes
  exact ⟨_, generate_eq_ok_iff.mpr ⟨hname, codes, hcodes', rfl⟩⟩

/-- **What stands behind the first line feed of a title is code.** -/
theorem exists_mem_codeLines (h : generate emitters request (.ok document) = .ok g)
    {line : List Char} (hline : line ∈ stray document.title) :
    ∃ a ∈ g.artifacts, a.path = "src/inputs.rs" ∧ line ∈ codeLines a.content := by
  obtain ⟨-, codes, -, rfl⟩ := generate_eq_ok_iff.mp h
  have hheaded : ("Operation inputs for ", inputs) ∈ headedFiles := List.mem_cons_self
  have hfile : ("src/inputs.rs", inputs) ∈ packageFiles := by simp [packageFiles]
  have ha : emitFile "src/inputs.rs" inputs (Plan.of request document codes) ∈
      artifactsOf (Plan.of request document codes) := mem_artifactsOf.mpr ⟨_, hfile, rfl⟩
  refine ⟨_, ha, rfl, ?_⟩
  rw [emitFile_content]
  exact mem_codeLines_of_stray hheaded hline

theorem sameCode_retitled_iff (h : generate emitters request (.ok document) = .ok g)
    (h' : generate emitters request (.ok (document.retitled title version)) = .ok g') :
    SameCode g g' ↔ stray document.title = stray title ∧
      stray (document.title ++ " " ++ document.version) = stray (title ++ " " ++ version) := by
  obtain ⟨-, codes, hcodes, rfl⟩ := generate_eq_ok_iff.mp h
  obtain ⟨-, codes', hcodes', rfl⟩ := generate_eq_ok_iff.mp h'
  rw [compileDocument_retitled, hcodes] at hcodes'
  cases hcodes'
  exact sameCode_iff_files.trans codeLines_files_iff

/-- **What the title and the version of a document become in the source.**  Under another title and
with another version a document gives the same files.  Their lines of code are the same exactly if
the two titles leave the same code behind their first line feed, and the two titles with their
versions do; without a line feed they leave none. -/
theorem retitled_code_iff (request : PackageRequest) (document : Document) (title version : String)
    (h : generate emitters request (.ok document) = .ok g)
    (h' : generate emitters request (.ok (document.retitled title version)) = .ok g') :
    g.artifacts.map (·.path) = g'.artifacts.map (·.path) ∧
      (SameCode g g' ↔ stray document.title = stray title ∧
        stray (document.title ++ " " ++ document.version) = stray (title ++ " " ++ version)) ∧
      ('\n' ∉ document.title.toList → '\n' ∉ document.version.toList →
        '\n' ∉ title.toList → '\n' ∉ version.toList → SameCode g g') := by
  refine ⟨?_, sameCode_retitled_iff h h', fun htitle hversion htitle' hversion' => ?_⟩
  · obtain ⟨-, codes, -, rfl⟩ := generate_eq_ok_iff.mp h
    obtain ⟨-, codes', -, rfl⟩ := generate_eq_ok_iff.mp h'
    exact (paths_artifactsOf _).trans (paths_artifactsOf _).symm
  · refine (sameCode_retitled_iff h h').mpr ⟨?_, ?_⟩
    · rw [Lines.stray_of_not_mem htitle, Lines.stray_of_not_mem htitle']
    · rw [stray_titled htitle hversion, stray_titled htitle' hversion']

/-! ## Two titles -/

/-- A document without paths. -/
def emptyDocument (title : String) : Document where
  title := title
  version := "1.0"
  description := none
  basePath := ""
  paths := []
  definitions := []

/-- A package of some name. -/
def itemsRequest : PackageRequest := { source := "items.json", package := "items" }

theorem exists_generate_emptyDocument (title : String) :
    ∃ g, generate emitters itemsRequest (.ok (emptyDocument title)) = .ok g := by
  have hname : Naming.isPackageName itemsRequest.package = true := by decide +kernel
  have hpaths : Walk.sortedPaths (emptyDocument title) = [] := List.mergeSort_nil
  refine ⟨_, generate_eq_ok_iff.mpr ⟨hname, [], ?_, rfl⟩⟩
  rw [compileDocument, Walk.operations, hpaths]
  rfl

/-- Two titles of one line each give the same code. -/
theorem retitled_code_iff_shelf :
    ∃ g g', generate emitters itemsRequest (.ok (emptyDocument "Items")) = .ok g ∧
      generate emitters itemsRequest (.ok ((emptyDocument "Items").retitled "Shelf" "2.0")) =
        .ok g' ∧ SameCode g g' := by
  obtain ⟨g, h⟩ := exists_generate_emptyDocument "Items"
  obtain ⟨g', h'⟩ := exists_generate_retitled h "Shelf" "2.0"
  have hsame := (retitled_code_iff itemsRequest (emptyDocument "Items") "Shelf" "2.0" h h').2.2
  exact ⟨g, g', h, h', hsame (by decide) (by decide) (by decide) (by decide)⟩

/-- A title of two lines. -/
def brokenTitle : String := "Items\npub fn injected() \x7b\x7d"

/-- **A title with a line feed is accepted**, and what stands behind it is code. -/
theorem stray_title_accepted :
    ∃ g g', generate emitters itemsRequest (.ok (emptyDocument "Items")) = .ok g ∧
      generate emitters itemsRequest (.ok ((emptyDocument "Items").retitled brokenTitle "1.0")) =
        .ok g' ∧
      (∃ a ∈ g'.artifacts, a.path = "src/inputs.rs" ∧
        "pub fn injected() \x7b\x7d".toList ∈ codeLines a.content) ∧
      ¬SameCode g g' := by
  obtain ⟨g, h⟩ := exists_generate_emptyDocument "Items"
  obtain ⟨g', h'⟩ := exists_generate_retitled h brokenTitle "1.0"
  have hplain : stray "Items" = [] := Lines.stray_of_not_mem (by decide)
  have hstray : stray brokenTitle = ["pub fn injected() \x7b\x7d".toList] := by decide +kernel
  refine ⟨g, g', h, h', exists_mem_codeLines h' ?_, fun hsame => ?_⟩
  · exact hstray ▸ List.mem_cons_self
  · have htitle : stray "Items" = stray brokenTitle := ((sameCode_retitled_iff h h').mp hsame).1
    rw [hplain, hstray] at htitle
    cases htitle

end ApiScaffold
