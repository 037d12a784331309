import ApiScaffold.Package.Generate
import ApiScaffold.Proofs.Code.TypeName
import Mathlib.Data.List.Nodup
import Mathlib.Data.List.ProdSigma

/-!
# What a type name stands for in a generated file

The files of a package spell the types of operations by their bare names.  Such a name is looked up
in two levels: what the file declares or imports by name is near, what comes with the whole of
another file is distant, and a distant item is seen only where nothing near has the name.  So what
is imported of the runtime can stand before the type of an operation, or beside it.

Names of types end in one of three words, and of all imported names only three that matter end so.
The types of the operations have different names (`types_nodup`), so nothing but these imports can
come between.

* `SourceFile.uses`, `uses_written`: the imports of each file, **as its lines have them.**
* `SourceFile.meanings`: what a name stands for in a file.
* `meanings_eq_iff`: **a name in sight stands for its type alone exactly if it is not imported.**
* `types_denote_iff`: **every name in every file stands for the type that was generated, exactly if
  no operation is named after one of the three imports.**
-/

namespace ApiScaffold

namespace Package.Source

open Code (OperationCode TypeKind)

/-! ## The imports of the files -/

/-- The files that spell types of operations. -/
inductive SourceFile
  | inputs | outputs | client | controller | mock | server
  deriving DecidableEq

/-- An import: of one name or of several, in one line or in rows, or of a whole file.  The name
`self` stands for the module itself. -/
inductive Use
  | one (path name : String)
  | several (path : String) (names : List String)
  | rows (path : String) (rows : List (List String))
  | whole (file : SourceFile)

namespace SourceFile

/-- The name of a file as a module. -/
def name : SourceFile → String
  | inputs => "inputs"
  | outputs => "outputs"
  | client => "client"
  | controller => "controller"
  | mock => "mock"
  | server => "server"

def lines : SourceFile → Plan → Lines
  | inputs => Source.inputs
  | outputs => Source.outputs
  | client => Source.client
  | controller => Source.controller
  | mock => Source.mock
  | server => Source.server

def uses : SourceFile → List Use
  | inputs => [.several "serde" ["Deserialize", "Serialize"], .one "swaggen" "runtime"]
  | outputs => [.several "swaggen::runtime" outputImports]
  | client =>
    [.one "std::sync" "Arc", .one "std::time" "Duration",
      .rows "swaggen::runtime" [clientImports.take 7, clientImports.drop 7],
      .whole inputs, .whole outputs]
  | controller => [.one "async_trait" "async_trait", .whole inputs, .whole outputs]
  | mock =>
    [.one "std::collections" "VecDeque", .several "std::sync" ["Mutex", "MutexGuard"],
      .one "async_trait" "async_trait", .one "swaggen::runtime" "InternalError",
      .one "crate::controller" "Controller", .whole inputs, .whole outputs]
  | server =>
    [.one "std::collections" "HashMap", .one "std::sync" "Arc", .one "axum" "Router",
      .one "axum::body" "Bytes", .several "axum::extract" ["Path", "RawQuery", "State"],
      .several "axum::http" ["HeaderMap", "StatusCode"],
      .several "axum::response" ["IntoResponse", "Response"],
      .several "swaggen::runtime::decode" ["DecodeError", "RequestParts"],
      .several "swaggen::runtime" ["BadRequest", "Tracer", "W3cTracer"],
      .one "tracing" "Instrument", .one "crate::controller" "Controller", .whole inputs]

end SourceFile

namespace Use

def write : Use → Lines
  | .one path name => [s!"use {path}::{name};"]
  | .several path names => [Lines.importOf path names]
  | .rows path table =>
    s!"use {path}::\x7b" :: table.map (fun row => s!"    {commas row},") ++ ["\x7d;"]
  | .whole file => [s!"use crate::{file.name}::*;"]

/-- The names that an import brings by themselves. -/
def names : Use → List String
  | .one _ name => [name]
  | .several _ names => names
  | .rows _ table => table.flatten
  | .whole _ => []

/-- The file whose declarations an import brings. -/
def file? : Use → Option SourceFile
  | .whole file => some file
  | _ => none

end Use

/-- Lines occur in a file in their order if they do in a part of it. -/
theorem sublist_middle {lines before part behind : Lines} (h : lines.isSublist part = true) :
    lines.Sublist (before ++ (part ++ behind)) :=
  (List.isSublist_iff_sublist.mp h).trans
    ((List.sublist_append_left part behind).trans (List.sublist_append_right before _))

/-- **The imports of a file stand in its lines**, in their order. -/
theorem uses_written (file : SourceFile) (plan : Plan) :
    (file.uses.flatMap Use.write).Sublist (file.lines plan) := by
  -- the imports stand in one block of fixed lines: the third of the server, the second elsewhere
  cases file
  case server =>
    simp only [SourceFile.lines, server, List.append_assoc]
    exact (sublist_middle rfl).trans (List.sublist_append_right _ _)
  all_goals
    simp only [SourceFile.lines, inputs, outputs, client, controller, mock, List.append_assoc]
    exact sublist_middle rfl

/-! ## The types in sight -/

namespace SourceFile

/-- The names that a file imports by themselves. -/
def imports (file : SourceFile) : List String := file.uses.flatMap Use.names

/-- The types that a file declares for every operation. -/
def declares : SourceFile → List TypeKind
  | inputs => [.input]
  | outputs => [.output, .error]
  | _ => []

/-- The types that come with the whole of another file. -/
def brings (file : SourceFile) : List TypeKind := (file.uses.filterMap Use.file?).flatMap declares

/-- The types of operations that can be named in a file. -/
def inSight (file : SourceFile) : List TypeKind := file.declares ++ file.brings

end SourceFile

/-- What a name of a type can stand for. -/
inductive Meaning
  | imported
  | generated (c : OperationCode) (kind : TypeKind)

/-- The types of some kinds that have a name. -/
def named (codes : List OperationCode) (kinds : List TypeKind) (name : String) : List Meaning :=
  ((codes ×ˢ kinds).filter fun t => t.1.typeOf t.2 == name).map fun t => .generated t.1 t.2

namespace SourceFile

/-- What has a name near by: what is imported by it, and the types that the file declares for the
operations.  What else a file declares ends in none of the words of these types. -/
def near (file : SourceFile) (codes : List OperationCode) (name : String) : List Meaning :=
  (file.imports.filter (· == name)).map (fun _ => .imported) ++ named codes file.declares name

/-- What a name stands for in a file: what has it near by, or else what has it in a file that is
imported whole. -/
def meanings (file : SourceFile) (codes : List OperationCode) (name : String) : List Meaning :=
  if (file.near codes name).isEmpty then named codes file.brings name else file.near codes name

end SourceFile

section Types

variable {types : TypeMap} {ops : List Operation} {codes : List OperationCode}
  {c d : OperationCode} {kind other : TypeKind} {file : SourceFile}

/-- What one element alone satisfies. -/
theorem filter_eq_singleton {α : Type} {p : α → Bool} {x : α} {xs : List α} (hnodup : xs.Nodup)
    (hx : x ∈ xs) (hp : ∀ y ∈ xs, p y = true ↔ y = x) : xs.filter p = [x] := by
  refine List.perm_singleton.mp ((List.perm_ext_iff_of_nodup (hnodup.filter p)
    (List.nodup_singleton x)).mpr fun y => ?_)
  rw [List.mem_filter, List.mem_singleton]
  constructor
  · rintro ⟨hy, hpy⟩
    exact (hp y hy).mp hpy
  · rintro rfl
    exact ⟨hx, (hp y hx).mpr rfl⟩

theorem kind_eq_of_typeOf_eq (h : c.typeOf kind = d.typeOf other) : kind = other := by
  cases kind <;> cases other
  case input.input | output.output | error.error => rfl
  case input.output => exact absurd h (Code.inputType_ne_outputType c d)
  case input.error => exact absurd h (Code.inputType_ne_errorType c d)
  case output.error => exact absurd h (Code.outputType_ne_errorType c d)
  case output.input => exact absurd h.symm (Code.inputType_ne_outputType d c)
  case error.input => exact absurd h.symm (Code.inputType_ne_errorType d c)
  case error.output => exact absurd h.symm (Code.outputType_ne_errorType d c)

theorem eq_of_typeOf_eq (hinputs : (codes.map (·.inputType)).Nodup) (hc : c ∈ codes)
    (hd : d ∈ codes) (h : c.typeOf kind = d.typeOf other) : c = d ∧ kind = other := by
  obtain rfl := kind_eq_of_typeOf_eq h
  rw [Code.typeOf_eq, Code.typeOf_eq, String.append_left_inj] at h
  have hinput : c.inputType = d.inputType := congrArg (· ++ "Input") h
  exact ⟨List.inj_on_of_nodup_map hinputs hc hd hinput, rfl⟩

/-- A name of a type is that of no other type. -/
theorem named_typeOf {kinds : List TypeKind} (hinputs : (codes.map (·.inputType)).Nodup)
    (hkinds : kinds.Nodup) (hc : c ∈ codes) :
    named codes kinds (c.typeOf kind) = if kind ∈ kinds then [.generated c kind] else [] := by
  have hname : ∀ t ∈ codes ×ˢ kinds, (t.1.typeOf t.2 == c.typeOf kind) = true ↔ t = (c, kind) := by
    rintro ⟨d, other⟩ ht
    rw [beq_iff_eq, Prod.mk.injEq]
    constructor
    · exact eq_of_typeOf_eq hinputs (List.mem_product.mp ht).1 hc
    · rintro ⟨rfl, rfl⟩
      rfl
  rw [named]
  split
  · next hkind =>
    have hmem : (c, kind) ∈ codes ×ˢ kinds := List.mem_product.mpr ⟨hc, hkind⟩
    rw [filter_eq_singleton (List.Nodup.product (hinputs.of_map _) hkinds) hmem hname]
    rfl
  · next hkind =>
    have hnone : (codes ×ˢ kinds).filter (fun t => t.1.typeOf t.2 == c.typeOf kind) = [] := by
      refine List.filter_eq_nil_iff.mpr fun t ht heq => ?_
      rw [(hname t ht).mp heq, List.mem_product] at ht
      exact hkind ht.2
    rw [hnone]
    rfl

/-- Near the name of a type are the imports of that name, and the type if the file declares it. -/
theorem near_typeOf (hinputs : (codes.map (·.inputType)).Nodup) (hc : c ∈ codes) :
    file.near codes (c.typeOf kind) =
      (file.imports.filter (· == c.typeOf kind)).map (fun _ => .imported) ++
        if kind ∈ file.declares then [.generated c kind] else [] := by
  have hdeclares : file.declares.Nodup := by cases file <;> decide
  rw [SourceFile.near, named_typeOf hinputs hdeclares hc]

/-- **A name in sight stands for its type alone exactly if it is not imported by itself.** -/
theorem meanings_eq_iff (hinputs : (codes.map (·.inputType)).Nodup) (hc : c ∈ codes)
    (hkind : kind ∈ file.inSight) :
    file.meanings codes (c.typeOf kind) = [.generated c kind] ↔ c.typeOf kind ∉ file.imports := by
  have hbrings : file.brings.Nodup := by cases file <;> decide
  constructor
  · -- an import of the name is near by, so that it is among the meanings
    intro h himport
    have hmem : Meaning.imported ∈ file.near codes (c.typeOf kind) := by
      refine List.mem_append_left _ (List.mem_map.mpr ⟨c.typeOf kind, ?_, rfl⟩)
      exact List.mem_filter.mpr ⟨himport, beq_self_eq_true _⟩
    have hne : ¬(file.near codes (c.typeOf kind)).isEmpty = true := by
      rw [List.isEmpty_iff]
      exact List.ne_nil_of_mem hmem
    rw [SourceFile.meanings, if_neg hne] at h
    rw [h, List.mem_singleton] at hmem
    cases hmem
  · -- without one there is the type alone: near by if the file declares it, else behind that
    intro himport
    have hnone : file.imports.filter (· == c.typeOf kind) = [] := by
      refine List.filter_eq_nil_iff.mpr fun name hname heq => ?_
      rw [eq_of_beq heq] at hname
      exact himport hname
    rw [SourceFile.meanings, near_typeOf hinputs hc, hnone, List.map_nil, List.nil_append]
    by_cases hmem : kind ∈ file.declares
    · rw [if_pos hmem]
      rfl
    · rw [if_neg hmem, List.isEmpty_nil, if_pos rfl, named_typeOf hinputs hbrings hc,
        if_pos ((List.mem_append.mp hkind).resolve_left hmem)]

/-! ## The names that are taken -/

/-- The words of an operation whose type of errors is imported by its name. -/
def SourceFile.taken : SourceFile → List String
  | outputs => ["Internal"]
  | client => ["Call", "Client"]
  | mock => ["Internal"]
  | _ => []

/-- Of some names, a text that ends in a word can only be one that ends so. -/
theorem append_mem_iff {s word : String} {names stems : List String}
    (h : (names.filter fun name => word.toList.isSuffixOf name.toList) = stems.map (· ++ word)) :
    s ++ word ∈ names ↔ s ∈ stems := by
  have hends : word.toList.isSuffixOf (s ++ word).toList = true := by
    rw [List.isSuffixOf_iff_suffix, String.toList_append]
    exact List.suffix_append _ _
  have hfilter : s ++ word ∈ names ↔ s ++ word ∈ stems.map (· ++ word) := by
    rw [← h, List.mem_filter]
    exact ⟨fun hmem => ⟨hmem, hends⟩, fun hmem => hmem.1⟩
  rw [hfilter, List.mem_map_of_injective fun s t heq => (String.append_left_inj _).mp heq]

/-- The imports of a file that end in the word of a type in sight. -/
theorem filter_imports (hkind : kind ∈ file.inSight) :
    (file.imports.filter fun name => kind.word.toList.isSuffixOf name.toList) =
      (if kind = .error then file.taken else []).map (· ++ kind.word) := by
  revert hkind
  cases file <;> cases kind <;> decide +kernel

/-- **Of the names in sight only types of errors are imported**, those of three words. -/
theorem typeOf_mem_imports_iff (hkind : kind ∈ file.inSight) :
    c.typeOf kind ∈ file.imports ↔ kind = .error ∧ c.typeName ∈ file.taken := by
  rw [Code.typeOf_eq, append_mem_iff (filter_imports hkind)]
  by_cases herror : kind = .error
  · rw [if_pos herror, and_iff_right herror]
  · rw [if_neg herror]
    exact iff_of_false List.not_mem_nil fun h => herror h.1

/-- All names in sight stand for the types of an operation. -/
def SourceFile.Denotes (file : SourceFile) (codes : List OperationCode) (c : OperationCode) :
    Prop :=
  ∀ kind ∈ file.inSight, file.meanings codes (c.typeOf kind) = [.generated c kind]

theorem error_inSight_of_taken (h : file.taken ≠ []) : TypeKind.error ∈ file.inSight := by
  revert h
  cases file <;> decide

/-- All names in sight of a file stand for the types of an operation exactly if its word is not
taken there. -/
theorem denotes_iff (hinputs : (codes.map (·.inputType)).Nodup) (hc : c ∈ codes) :
    file.Denotes codes c ↔ c.typeName ∉ file.taken := by
  constructor
  · intro h htaken
    have herror := error_inSight_of_taken (List.ne_nil_of_mem htaken)
    exact (meanings_eq_iff hinputs hc herror).mp (h .error herror)
      ((typeOf_mem_imports_iff herror).mpr ⟨rfl, htaken⟩)
  · intro h kind hkind
    exact (meanings_eq_iff hinputs hc hkind).mpr fun himport =>
      h ((typeOf_mem_imports_iff hkind).mp himport).2

/-! ## All operations -/

/-- The words of the operations whose type of errors has the name of an import. -/
def runtimeWords : List String := ["Internal", "Call", "Client"]

theorem mem_runtimeWords_iff {word : String} :
    word ∈ runtimeWords ↔ ∃ file : SourceFile, word ∈ file.taken := by
  constructor
  · intro h
    simp only [runtimeWords, List.mem_cons, List.not_mem_nil, or_false] at h
    rcases h with rfl | rfl | rfl
    · exact ⟨.outputs, by decide⟩
    · exact ⟨.client, by decide⟩
    · exact ⟨.client, by decide⟩
  · rintro ⟨file, h⟩
    cases file <;> simp_all [SourceFile.taken, runtimeWords]

/-- The type of errors of an operation is an import of the outputs or of the client exactly if the
operation has one of those words. -/
theorem errorType_imported_iff :
    c.errorType ∈ outputImports ∨ c.errorType ∈ clientImports ↔ c.typeName ∈ runtimeWords := by
  have houtputs : c.errorType ∈ outputImports ↔ c.typeName ∈ ["Internal"] :=
    append_mem_iff (by decide +kernel)
  have hclient : c.errorType ∈ clientImports ↔ c.typeName ∈ ["Call", "Client"] :=
    append_mem_iff (by decide +kernel)
  rw [houtputs, hclient, ← List.mem_append]
  rfl

theorem forall_typeName_iff (h : List.Forall₂ (fun o c => Code.compile types o = .ok c) ops codes)
    (p : String → Prop) : (∀ o ∈ ops, p (Naming.proper o.id)) ↔ ∀ c ∈ codes, p c.typeName :=
  forall_mem_iff_of_forall₂ h fun _ _ hcompile => by
    rw [(Code.compiled_of_compile hcompile).typeName]

/-- **What the names of types stand for in the files of a package.**  No type of errors has the name
of an import of the outputs or of the client exactly if no operation has one of three words for its
own, and exactly then every name of a type in every file stands for the type that was generated.
File by file, it is the words that the file itself imports. -/
theorem types_denote_iff (types : TypeMap) {ops : List Operation} {codes : List OperationCode}
    (h : Code.compileAll types ops = .ok codes) :
    ((∀ c ∈ codes, c.errorType ∉ outputImports ∧ c.errorType ∉ clientImports) ↔
      ∀ o ∈ ops, Naming.proper o.id ∉ runtimeWords) ∧
    ((∀ file : SourceFile, ∀ c ∈ codes, file.Denotes codes c) ↔
      ∀ o ∈ ops, Naming.proper o.id ∉ runtimeWords) ∧
    ∀ file : SourceFile, ∀ c ∈ codes, file.Denotes codes c ↔ c.typeName ∉ file.taken := by
  obtain ⟨hcompiled, -, hinputs⟩ := Code.compileAll_ok_iff.mp h
  have hdenotes (file : SourceFile) : ∀ c ∈ codes, file.Denotes codes c ↔ c.typeName ∉ file.taken :=
    fun c hc => denotes_iff hinputs hc
  refine ⟨?_, ?_, hdenotes⟩
  · rw [forall_typeName_iff hcompiled (· ∉ runtimeWords)]
    refine forall₂_congr fun c _ => ?_
    rw [← not_or, errorType_imported_iff]
  · rw [forall_typeName_iff hcompiled (· ∉ runtimeWords), forall_comm]
    refine forall_congr' fun c => ?_
    rw [forall_comm]
    refine forall_congr' fun hc => ?_
    rw [mem_runtimeWords_iff, not_exists]
    exact forall_congr' fun file => hdenotes file c hc

/-- Operations whose words only begin like an import are harmless. -/
theorem types_denote_iff_longer :
    ∃ codes, Code.compileAll {} (["internal items", "callBack"].map Code.bareOperation)
        = .ok codes ∧
      (∀ c ∈ codes, c.errorType ∉ outputImports ∧ c.errorType ∉ clientImports) ∧
      ∀ file : SourceFile, ∀ c ∈ codes, file.Denotes codes c := by
  obtain ⟨codes, hcompile, -⟩ := Code.compileAll_bare {} ["internal items", "callBack"]
    (by decide +kernel) (by decide +kernel) (by decide +kernel)
  have hwords : ∀ o ∈ ["internal items", "callBack"].map Code.bareOperation,
      Naming.proper o.id ∉ runtimeWords := by decide +kernel
  obtain ⟨himported, hdenotes, -⟩ := types_denote_iff {} hcompile
  exact ⟨codes, hcompile, himported.mpr hwords, hdenotes.mpr hwords⟩

/-- **Operations named after imports are accepted**: in the outputs the name of the one type of
errors stands for two things, and in the client that of the other stands for an import. -/
theorem imported_errorType_accepted :
    ∃ c d, Code.compileAll {} (["internal", "client"].map Code.bareOperation) = .ok [c, d] ∧
      c.errorType = "InternalError" ∧ c.errorType ∈ outputImports ∧
      SourceFile.outputs.meanings [c, d] c.errorType = [.imported, .generated c .error] ∧
      d.errorType = "ClientError" ∧ d.errorType ∈ clientImports ∧
      SourceFile.client.meanings [c, d] d.errorType = [.imported] := by
  obtain ⟨codes, hcompile, -, hnames⟩ := Code.compileAll_bare {} ["internal", "client"]
    (by decide +kernel) (by decide +kernel) (by decide +kernel)
  have hwords : ["internal", "client"].map Naming.proper = ["Internal", "Client"] := by
    decide +kernel
  obtain ⟨c, rest, rfl, hcname, hrest⟩ := List.map_eq_cons_iff.mp (hnames.trans hwords)
  obtain ⟨d, rest, rfl, hdname, hnil⟩ := List.map_eq_cons_iff.mp hrest
  obtain rfl := List.map_eq_nil_iff.mp hnil
  obtain ⟨-, -, hinputs⟩ := Code.compileAll_ok_iff.mp hcompile
  have hcerror : c.typeOf .error = "InternalError" := by
    rw [Code.typeOf_eq, hcname]
    decide
  have hderror : d.typeOf .error = "ClientError" := by
    rw [Code.typeOf_eq, hdname]
    decide
  have houtputs : SourceFile.outputs.near [c, d] (c.typeOf .error) =
      [.imported, .generated c .error] := by
    rw [near_typeOf hinputs List.mem_cons_self, hcerror]
    rfl
  have hclient : SourceFile.client.near [c, d] (d.typeOf .error) = [.imported] := by
    rw [near_typeOf hinputs (List.mem_cons_of_mem c List.mem_cons_self), hderror]
    rfl
  refine ⟨c, d, hcompile, hcerror, ?_, ?_, hderror, ?_, ?_⟩
  · rw [show c.errorType = "InternalError" from hcerror]
    decide
  · rw [SourceFile.meanings, show c.errorType = c.typeOf .error from rfl, houtputs]
    rfl
  · rw [show d.errorType = "ClientError" from hderror]
    decide
  · rw [SourceFile.meanings, show d.errorType = d.typeOf .error from rfl, hclient]
    rfl

end Types

end Package.Source

end ApiScaffold
