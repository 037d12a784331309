import ApiScaffold.Proofs.Identifier
import ApiScaffold.Proofs.Package.Title
import ApiScaffold.Proofs.Toml.Table

/-!
# What the manifest of a package says

The manifest is two tables, each written row by row, and one row of the first holds text of the
document: the description, a string literal with the title in it.  The other rows are read whatever
the package is, so the manifest is read exactly if the literal is.

* `packageRows`, `dependencyRows`: the rows of the two tables.
* `readToml_manifest`: **the manifest is read as its two tables if every character of the title is
shared by both kinds of literals, and is no TOML text otherwise.**
* `generated_manifest_iff`: what is read from a package that is generated.
* `accented_title_spoils_manifest`: a title with a combining accent.
-/

namespace ApiScaffold

open Package.Source
open Json (memberOf? memberOf?_setMember memberOf?_sortMembers sortMembers)
open Text.Quoted (encode encode_isLiteral)
open Toml (IsKey Members Row Writes isShared isUnescaped opened readToml)

namespace Package.Source

/-! ## Rows -/

/-- A key and a text between quotes. -/
def quotedRow (key text : String) : Row := ⟨key, "\"" ++ text ++ "\"", .string text⟩

/-- The description, as a string literal. -/
def descriptionRow (p : Plan) : Row :=
  ⟨"description", encode (packageDescription p), .string (packageDescription p)⟩

/-- A dependency with features. -/
def dependencyRow (name version feature : String) : Row where
  key := name
  text := "\x7b version = \"" ++ version ++ "\", features = [\"" ++ feature ++ "\"] \x7d"
  value := .table .braces [("features", .array [.string feature]), ("version", .string version)]

/-- The rows in front of the description. -/
def headRows (p : Plan) : List Row :=
  [quotedRow "name" p.package, quotedRow "version" "0.1.0", quotedRow "edition" "2024"]

/-- The rows of the package's own table. -/
def packageRows (p : Plan) : List Row :=
  headRows p ++ [descriptionRow p, ⟨"publish", "false", .boolean false⟩]

/-- The rows of the table of dependencies. -/
def dependencyRows : List Row :=
  [quotedRow "swaggen" generatorVersion, quotedRow "async-trait" "0.1", quotedRow "axum" "0.8",
    dependencyRow "serde" "1.0" "derive", quotedRow "serde_json" "1.0",
    dependencyRow "tokio" "1.45" "full", quotedRow "tracing" "0.1"]

variable {p : Plan}

theorem manifest_eq (p : Plan) :
    manifest p = "[package]" :: (packageRows p).map Row.line ++
      "" :: "[dependencies]" :: dependencyRows.map Row.line := by
  have hname : s!"name = \"{p.package}\"" = "name" ++ " = " ++ ("\"" ++ p.package ++ "\"") := by
    rw [← String.append_assoc, ← String.append_assoc]
    rfl
  rw [manifest, hname]
  rfl

theorem quotedRow_reads {key text : String} (hkey : IsKey key.toList)
    (htext : text.toList.all isUnescaped = true) : (quotedRow key text).Reads := by
  refine ⟨hkey, ?_⟩
  have hform : ("\"" ++ text ++ "\"").toList = '"' :: text.toList ++ ['"'] := by simp
  show Writes ("\"" ++ text ++ "\"").toList _
  rw [hform]
  exact Toml.writes_unescaped htext

theorem dependencyRow_reads {name version feature : String} (hkey : IsKey name.toList)
    (hversion : version.toList.all isUnescaped = true)
    (hfeature : feature.toList.all isUnescaped = true) :
    (dependencyRow name version feature).Reads := by
  refine ⟨hkey, fun rest => ?_⟩
  let features : List Char :=
    '[' :: '"' :: (feature.toList ++ '"' :: ']' :: ' ' :: '\x7d' :: '\n' :: rest)
  let more : List Char := ' ' :: ("features".toList ++ ' ' :: '=' :: ' ' :: features)
  let start : List Char :=
    "version".toList ++ ' ' :: '=' :: ' ' :: '"' :: (version.toList ++ '"' :: ',' :: more)
  have hform : (dependencyRow name version feature).text.toList ++ '\n' :: rest =
      '\x7b' :: ' ' :: start := by
    simp [dependencyRow, start, more, features]
  have hversionKey : IsKey "version".toList := by decide
  have hfeaturesKey : IsKey "features".toList := by decide
  have hfirst : Toml.readMember (Toml.readValue 78) start =
      some ([], "version", .string version, ',' :: more) := by
    rw [Toml.readMember_plain _ hversionKey rfl rfl,
      Toml.readValue_unescaped 78 hversion (by simp)]
    rfl
  have hfeatures : Toml.readValue 78 features =
      some (.array [.string feature], ' ' :: '\x7d' :: '\n' :: rest) := by
    have hitem : Toml.readValue 77 features.tail =
        some (.string feature, ']' :: ' ' :: '\x7d' :: '\n' :: rest) :=
      Toml.readValue_unescaped 77 hfeature (by simp)
    show (Toml.readItems (Toml.readValue 77) _).map _ = _
    rw [Toml.readItems_single rfl (by decide) hitem]
    rfl
  have hsecond : Toml.readMember (Toml.readValue 78) more =
      some ([], "features", .array [.string feature], ' ' :: '\x7d' :: '\n' :: rest) := by
    rw [Toml.readMember_plain _ hfeaturesKey rfl rfl, hfeatures]
    rfl
  rw [hform]
  refine ⟨rfl, ?_⟩
  show (Toml.readMembers (Toml.readValue 78) [] start).map _ = _
  rw [Toml.readMembers_more hfirst rfl rfl (by simp [start]; omega),
    Toml.readMembers_last hsecond rfl rfl]
  rfl

/-- The characters of a package name. -/
theorem isUnescaped_of_isPackageName {name : String} (h : Naming.isPackageName name = true) :
    ∀ c ∈ name.toList, isUnescaped c = true ∧ c ≠ '\r' := by
  have hchar : ∀ c, (Text.isAsciiAlphanumeric c || c == '-' || c == '_') = true →
      isUnescaped c = true ∧ c ≠ '\r' := by
    intro c hc
    have hascii : Text.isAscii c = true := by
      simp only [Bool.or_eq_true, beq_iff_eq] at hc
      rcases hc with (hc | rfl) | rfl
      · exact Naming.isAscii_of_isAsciiAlphanumeric hc
      · rfl
      · rfl
    have hcode := Naming.of_ascii (p := fun c =>
      !(Text.isAsciiAlphanumeric c || c == '-' || c == '_') || (isUnescaped c && c != '\r'))
      (by decide +kernel) hascii
    simpa [hc] using hcode
  rw [Naming.isPackageName] at h
  intro c hc
  generalize name.toList = cs at h hc
  cases cs with
  | nil => cases hc
  | cons d ds =>
    simp only [Bool.and_eq_true, List.all_eq_true] at h
    rcases List.mem_cons.mp hc with rfl | hc
    · refine hchar c ?_
      rw [Text.isAsciiAlphanumeric, h.1]
      rfl
    · exact hchar c (h.2 c hc)

theorem headRows_read (hname : Naming.isPackageName p.package = true) :
    ∀ r ∈ headRows p, r.Reads := by
  have hpackage : p.package.toList.all isUnescaped = true :=
    List.all_eq_true.mpr fun c hc => (isUnescaped_of_isPackageName hname c hc).1
  simp only [headRows, List.forall_mem_cons]
  exact ⟨quotedRow_reads (by decide) hpackage, quotedRow_reads (by decide) (by decide),
    quotedRow_reads (by decide) (by decide), List.forall_mem_nil _⟩

theorem dependencyRows_read : ∀ r ∈ dependencyRows, r.Reads := by
  simp only [dependencyRows, List.forall_mem_cons]
  exact ⟨quotedRow_reads (by decide) (by decide), quotedRow_reads (by decide) (by decide),
    quotedRow_reads (by decide) (by decide),
    dependencyRow_reads (by decide) (by decide) (by decide),
    quotedRow_reads (by decide) (by decide),
    dependencyRow_reads (by decide) (by decide) (by decide),
    quotedRow_reads (by decide) (by decide), List.forall_mem_nil _⟩

/-- The description is read exactly if the title may stand in both kinds of literals. -/
theorem isShared_packageDescription :
    (packageDescription p).toList.all isShared = p.title.toList.all isShared := by
  have hbehind : ∀ words : String, words.toList.all isShared = true →
      (words ++ p.title).toList.all isShared = p.title.toList.all isShared := by
    intro words hwords
    rw [String.toList_append, List.all_append, hwords, Bool.true_and]
  exact hbehind "Client and server for " (by decide +kernel)

theorem packageRows_read (hname : Naming.isPackageName p.package = true)
    (htitle : p.title.toList.all isShared = true) : ∀ r ∈ packageRows p, r.Reads := by
  refine List.forall_mem_append.mpr ⟨headRows_read hname, ?_⟩
  simp only [List.forall_mem_cons]
  have hdescription : IsKey "description".toList := by decide
  have hpublish : IsKey "publish".toList := by decide
  refine ⟨⟨hdescription, Toml.writes_encode ?_⟩, ⟨hpublish, Toml.writes_false⟩,
    List.forall_mem_nil _⟩
  rw [isShared_packageDescription, htitle]

/-! ## The manifest -/

/-- The tables that the manifest of a plan is meant to be read as. -/
def manifestTables (p : Plan) : Members :=
  opened "dependencies" (sortMembers (dependencyRows.map Row.member))
    (opened "package" (sortMembers ((packageRows p).map Row.member)) [])

theorem mem_text {lines : Lines} {c : Char} (h : c ∈ lines.text.toList) :
    c = '\n' ∨ ∃ line ∈ lines, c ∈ line.toList := by
  induction lines with
  | nil => cases h
  | cons line lines ih =>
    rw [Lines.toList_text_cons, List.mem_append, List.mem_cons] at h
    rcases h with h | h | h
    · exact .inr ⟨line, List.mem_cons_self, h⟩
    · exact .inl h
    · rcases ih h with h | ⟨line', hline', h⟩
      · exact .inl h
      · exact .inr ⟨line', List.mem_cons_of_mem _ hline', h⟩

/-- No line of the manifest holds a carriage return, so no end of a line is changed. -/
theorem return_not_mem_manifest (hname : Naming.isPackageName p.package = true) :
    '\r' ∉ (manifest p).text.toList := by
  have hpackage : '\r' ∉ p.package.toList := fun hmem =>
    (isUnescaped_of_isPackageName hname _ hmem).2 rfl
  have hliteral : '\r' ∉ (encode (packageDescription p)).toList := fun hmem =>
    (encode_isLiteral _).one_line _ hmem (by decide)
  intro hmem
  rcases mem_text hmem with heq | ⟨line, hline, hmem⟩
  · cases heq
  · revert line
    have hnone : ∀ words text : String, '\r' ∉ words.toList → '\r' ∉ text.toList →
        '\r' ∉ (words ++ text).toList := by
      intro words text hwords htext
      rw [String.toList_append, List.mem_append]
      exact not_or.mpr ⟨hwords, htext⟩
    simp only [manifest, List.forall_mem_cons]
    exact ⟨by decide, hnone _ "\"" (hnone "name = \"" _ (by decide) hpackage) (by decide),
      by decide, by decide, hnone "description = " _ (by decide) hliteral, by decide⟩

/-- **What the manifest is read as.** -/
theorem readToml_manifest (hname : Naming.isPackageName p.package = true) :
    readToml (manifest p).text =
      if p.title.toList.all isShared then some (manifestTables p) else none := by
  have htable : IsKey "package".toList := by decide
  have hhead : (manifest p).text.toList.head? ≠ some '\uFEFF' := by
    rw [manifest, Lines.toList_text_cons]
    show some '[' ≠ some '\uFEFF'
    decide
  rw [Toml.readToml_eq (return_not_mem_manifest hname) hhead]
  split
  next htitle =>
    have hkeys : ((packageRows p).map (·.key)).Nodup := by
      show ["name", "version", "edition", "description", "publish"].Nodup
      decide
    have hothers : (dependencyRows.map (·.key)).Nodup := by decide
    have hform : (manifest p).text.toList =
        (Lines.text (("[" ++ "package" ++ "]") :: (packageRows p).map Row.line)).toList ++
          '\n' :: ((Lines.text (("[" ++ "dependencies" ++ "]") ::
            dependencyRows.map Row.line)).toList ++ []) := by
      rw [manifest_eq, Lines.toList_text_append, Lines.toList_text_cons "", List.append_nil]
      rfl
    rw [hform, Toml.readLines_table htable rfl (packageRows_read hname htitle) hkeys,
      Toml.readLines_lineFeed, Toml.readLines_table (by decide) rfl dependencyRows_read hothers,
      Toml.Building.readLines]
    rfl
  next htitle =>
    have hkeys : ((headRows p).map (·.key)).Nodup := by
      show ["name", "version", "edition"].Nodup
      decide
    let behind : List Char := '\n' :: (Lines.text
      ("publish = false" :: "" :: "[dependencies]" :: dependencyRows.map Row.line)).toList
    have hform : (manifest p).text.toList =
        (Lines.text (("[" ++ "package" ++ "]") :: (headRows p).map Row.line)).toList ++
          ("description".toList ++ ' ' :: '=' :: ' ' ::
            ((encode (packageDescription p)).toList ++ behind)) := by
      rw [manifest_eq, packageRows, List.map_append, ← List.cons_append, List.append_assoc,
        Lines.toList_text_append]
      exact congrArg _ (Toml.toList_text_row (descriptionRow p) _)
    have hread : Toml.readValue Toml.deepest
        ((encode (packageDescription p)).toList ++ behind) = none := by
      rw [Toml.readValue_encode _ _ (by simp [behind]), isShared_packageDescription, if_neg htitle]
    rw [hform, Toml.readLines_table htable rfl (headRows_read hname) hkeys,
      Toml.readLines_member_eq_none (by decide) (Toml.skipBlanks_encode _ _) hread]

/-- The description that a manifest gives. -/
def description? (tables : Members) : Option Toml.Value :=
  match memberOf? tables "package" with
  | some (.table _ members) => memberOf? members "description"
  | _ => none

theorem description?_manifestTables (p : Plan) :
    description? (manifestTables p) = some (.string (packageDescription p)) := by
  have htable : memberOf? (manifestTables p) "package" =
      some (.table .header (sortMembers ((packageRows p).map Row.member))) := by
    rw [manifestTables, opened, memberOf?_setMember, if_neg (by decide), opened,
      memberOf?_setMember, if_pos rfl]
  rw [description?, htable]
  show memberOf? (sortMembers ((packageRows p).map Row.member)) "description" = _
  rw [memberOf?_sortMembers]
  rfl

end Package.Source

/-! ## The package -/

variable {request : PackageRequest} {document : Document} {g : GeneratedPackage}

/-- **What the manifest of a generated package says.**  There is one manifest.  Its description is
read as the title behind some words exactly if every character of the title is shared by the two
kinds of literals; with any other character in the title the manifest is no TOML text. -/
theorem generated_manifest_iff (request : PackageRequest) (document : Document)
    (h : generate emitters request (.ok document) = .ok g) :
    ∃ a ∈ g.artifacts, a.path = "Cargo.toml" ∧
      (∀ b ∈ g.artifacts, b.path = "Cargo.toml" → b = a) ∧
      ((readToml a.content).bind description? =
          some (.string ("Client and server for " ++ document.title)) ↔
        ∀ c ∈ document.title.toList, isShared c = true) ∧
      ((∃ c ∈ document.title.toList, isShared c = false) → readToml a.content = none) := by
  obtain ⟨hname, codes, -, rfl⟩ := generate_eq_ok_iff.mp h
  let plan := Plan.of request document codes
  have hfile : ("Cargo.toml", manifest) ∈ packageFiles := by simp [packageFiles]
  have ha : emitFile "Cargo.toml" manifest plan ∈ artifactsOf plan :=
    mem_artifactsOf.mpr ⟨_, hfile, rfl⟩
  have hread : readToml (manifest plan).text =
      if document.title.toList.all isShared then some (manifestTables plan) else none :=
    readToml_manifest hname
  refine ⟨_, ha, rfl, fun b hb hpath => ?_, ?_, ?_⟩
  · exact List.inj_on_of_nodup_map (nodup_paths_artifactsOf plan) hb ha hpath
  · rw [emitFile_content, hread]
    split
    next htitle =>
      rw [Option.bind_some, description?_manifestTables]
      exact iff_of_true rfl (List.all_eq_true.mp htitle)
    next htitle =>
      refine iff_of_false (by simp) fun hall => htitle (List.all_eq_true.mpr hall)
  · rintro ⟨c, hc, hother⟩
    rw [emitFile_content, hread, if_neg]
    intro htitle
    rw [List.all_eq_true.mp htitle c hc] at hother
    cases hother

/-- The manifest of a package for a document with a plain title. -/
theorem generated_manifest_iff_items :
    ∃ g, generate emitters itemsRequest (.ok (emptyDocument "Items")) = .ok g ∧
      ∃ a ∈ g.artifacts, a.path = "Cargo.toml" ∧
        (readToml a.content).bind description? = some (.string "Client and server for Items") := by
  obtain ⟨g, h⟩ := exists_generate_emptyDocument "Items"
  obtain ⟨a, ha, hpath, -, hread, -⟩ :=
    generated_manifest_iff itemsRequest (emptyDocument "Items") h
  have hshared : "Items".toList.all isShared = true := by decide +kernel
  exact ⟨g, h, a, ha, hpath, hread.mpr (List.all_eq_true.mp hshared)⟩

/-- **A title with a combining accent is accepted**, and the manifest is no TOML text. -/
theorem accented_title_spoils_manifest :
    ∃ g, generate emitters itemsRequest (.ok (emptyDocument "Cafe\u0301")) = .ok g ∧
      ∃ a ∈ g.artifacts, a.path = "Cargo.toml" ∧ readToml a.content = none := by
  obtain ⟨g, h⟩ := exists_generate_emptyDocument "Cafe\u0301"
  obtain ⟨hname, codes, -, rfl⟩ := generate_eq_ok_iff.mp h
  have hfile : ("Cargo.toml", manifest) ∈ packageFiles := by simp [packageFiles]
  refine ⟨_, h, _, mem_artifactsOf.mpr ⟨_, hfile, rfl⟩, rfl, ?_⟩
  rw [emitFile_content, readToml_manifest hname, if_neg]
  show ¬"Cafe\u0301".toList.all isShared = true
  decide +kernel

end ApiScaffold
