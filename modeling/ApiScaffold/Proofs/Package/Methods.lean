import ApiScaffold.Package.Source.Client
import ApiScaffold.Package.Source.Mock
import ApiScaffold.Proofs.Code.Names
import Mathlib.Data.List.Infix

/-!
# The names of generated methods

A client has a method for each operation beside four that every client has, and a test double has
two for each operation beside the one that makes it.  The functions of operations have different
names (`compileAll_ok_iff`), but nothing compares them with the names around them.  In a client the
only clash is with a fixed method.  In a test double the two methods of an operation have a word in
front and a word behind, and an expectation can have the name of a record: the word in front of the
one is then written out in the other, or the two words share their underscore.

* `clientMethods_names`, `mockMethods_names`: the names of all methods.
* `Shadows`: the expectation of one function has the name of the record of another.
* `expect_eq_calls_iff`: **that is a matter of the two names alone.**
* `methods_nodup_iff`: **the methods have different names exactly if no operation has a fixed name
  and no operation shadows another.**
-/

namespace ApiScaffold.Package.Source

open Code (OperationCode)

variable {types : TypeMap} {ops : List Operation} {codes : List OperationCode}

/-! ## The client -/

/-- The names of the methods that every client has. -/
def fixedClientNames : List String := ["new", "with_settings", "from_pipeline", "pipeline"]

theorem clientMethods_names (codes : List OperationCode) :
    (clientMethods codes).map (·.name) = fixedClientNames ++ codes.map (·.functionName) := by
  rw [clientMethods, List.map_append, List.map_map]
  rfl

/-- The methods of a client differ exactly if no function has a fixed name. -/
theorem clientMethods_nodup_iff (hfunctions : (codes.map (·.functionName)).Nodup) :
    ((clientMethods codes).map (·.name)).Nodup ↔
      ∀ c ∈ codes, c.functionName ∉ fixedClientNames := by
  have hfixed : fixedClientNames.Nodup := by decide
  rw [clientMethods_names, List.nodup_append', and_iff_right hfixed, and_iff_right hfunctions,
    List.disjoint_comm]
  exact List.forall_mem_map

/-! ## The test double -/

/-- The name of the method that queues a result. -/
def expectName (function : String) : String := "expect_" ++ function

/-- The name of the method that gives the recorded inputs. -/
def callsName (function : String) : String := function ++ "_calls"

theorem expectName_injective : Function.Injective expectName :=
  fun _ _ h => (String.append_right_inj _).mp h

theorem callsName_injective : Function.Injective callsName :=
  fun _ _ h => (String.append_left_inj _).mp h

theorem mockMethods_names (codes : List OperationCode) :
    (mockMethods codes).map (·.name) = "new" ::
      (codes.map (·.functionName)).flatMap fun name => [expectName name, callsName name] := by
  rw [mockMethods, List.map_cons, List.map_flatMap, List.flatMap_map]
  rfl

/-- **The expectation of one function has the name of the record of another**: its word is written
out in front of the other name and the other word behind its own, or the two words share their
underscore. -/
def Shadows (s t : String) : Prop :=
  (∃ w, s = w ++ "_calls" ∧ t = "expect_" ++ w) ∨ s = "calls" ∧ t = "expect"

/-- What the end of the one word and the beginning of the other have in common. -/
theorem overlap_eq {w : List Char} (hend : w <:+ "expect_".toList)
    (hbegin : w <+: "_calls".toList) : w = [] ∨ w = ['_'] := by
  have htails : ∀ w ∈ "expect_".toList.tails, w <+: "_calls".toList → w = [] ∨ w = ['_'] := by
    decide
  exact htails w ((List.mem_tails _ _).mpr hend) hbegin

theorem expect_eq_calls_iff (s t : String) : expectName s = callsName t ↔ Shadows s t := by
  constructor
  · intro h
    have hchars := congrArg String.toList h
    rw [expectName, callsName, String.toList_append, String.toList_append] at hchars
    rcases List.append_eq_append_iff.mp hchars with ⟨w, ht, hs⟩ | ⟨w, hword, hcalls⟩
    · -- the word in front ends within the other name
      refine .inl ⟨String.ofList w, ?_, ?_⟩
      · rw [← String.toList_inj, hs, String.toList_append, String.toList_ofList (l := w)]
      · rw [← String.toList_inj, ht, String.toList_append, String.toList_ofList (l := w)]
    · -- the word behind begins within the word in front
      rcases overlap_eq ⟨_, hword.symm⟩ ⟨_, hcalls.symm⟩ with rfl | rfl
      · refine .inl ⟨"", ?_, ?_⟩
        · exact String.toList_inj.mp hcalls.symm
        · exact String.toList_inj.mp (by rw [← List.append_nil t.toList, ← hword]; rfl)
      · refine .inr ⟨?_, ?_⟩
        · exact String.toList_inj.mp (List.tail_eq_of_cons_eq hcalls.symm)
        · exact String.toList_inj.mp (List.append_cancel_right hword.symm)
  · rintro (⟨w, rfl, rfl⟩ | ⟨rfl, rfl⟩)
    · exact (String.append_assoc ..).symm
    · decide

/-- No method of an operation has the name of the one that makes a test double. -/
theorem new_not_mem {names : List String} :
    "new" ∉ names.map expectName ++ names.map callsName := by
  intro h
  rcases List.mem_append.mp h with h | h
  · obtain ⟨name, -, heq⟩ := List.mem_map.mp h
    have hfirst := congrArg (·.toList.head?) heq
    rw [expectName, String.toList_append] at hfirst
    exact absurd hfirst (by simp)
  · obtain ⟨name, -, heq⟩ := List.mem_map.mp h
    have hlast := congrArg (·.toList.getLast?) heq
    rw [callsName, String.toList_append, List.getLast?_append] at hlast
    exact absurd hlast (by simp)

instance (s t : String) : Decidable (Shadows s t) :=
  decidable_of_iff _ (expect_eq_calls_iff s t)

/-- The methods of a test double differ exactly if no function shadows another. -/
theorem mockMethods_nodup_iff (hfunctions : (codes.map (·.functionName)).Nodup) :
    ((mockMethods codes).map (·.name)).Nodup ↔
      ∀ c ∈ codes, ∀ d ∈ codes, ¬Shadows c.functionName d.functionName := by
  have hperm (names : List String) :
      ("new" :: names.flatMap fun name => [expectName name, callsName name]).Perm
        ("new" :: (names.map expectName ++ names.map callsName)) := by
    rw [List.map_eq_flatMap (f := callsName)]
    exact (List.map_append_flatMap_perm names expectName fun name => [callsName name]).symm.cons _
  rw [mockMethods_names, (hperm _).nodup_iff, List.nodup_cons, and_iff_right new_not_mem,
    List.nodup_append', and_iff_right (hfunctions.map expectName_injective),
    and_iff_right (hfunctions.map callsName_injective)]
  constructor
  · intro hdisjoint c hc d hd hshadows
    refine hdisjoint (List.mem_map_of_mem (List.mem_map_of_mem hc)) ?_
    rw [(expect_eq_calls_iff _ _).mpr hshadows]
    exact List.mem_map_of_mem (List.mem_map_of_mem hd)
  · intro hshadows name hexpect hcalls
    simp only [List.map_map, List.mem_map, Function.comp_apply] at hexpect hcalls
    obtain ⟨c, hc, rfl⟩ := hexpect
    obtain ⟨d, hd, heq⟩ := hcalls
    exact hshadows c hc d hd ((expect_eq_calls_iff _ _).mp heq.symm)

/-! ## Both -/

/-- **The methods of the client and of the test double have different names exactly if no operation
has the name of a fixed method and no operation shadows another.** -/
theorem methods_nodup_iff (types : TypeMap) {ops : List Operation} {codes : List OperationCode}
    (h : Code.compileAll types ops = .ok codes) :
    (((clientMethods codes).map (·.name)).Nodup ↔
      ∀ c ∈ codes, c.functionName ∉ fixedClientNames) ∧
    (((mockMethods codes).map (·.name)).Nodup ↔
      ∀ c ∈ codes, ∀ d ∈ codes, ¬Shadows c.functionName d.functionName) := by
  obtain ⟨-, hfunctions, -⟩ := Code.compileAll_ok_iff.mp h
  exact ⟨clientMethods_nodup_iff hfunctions, mockMethods_nodup_iff hfunctions⟩

/-- Names that only hold the words of the methods are harmless. -/
theorem methods_nodup_iff_plain :
    ∃ codes, Code.compileAll {} (["expectItem", "itemCall", "calls"].map Code.bareOperation)
        = .ok codes ∧
      ((clientMethods codes).map (·.name)).Nodup ∧ ((mockMethods codes).map (·.name)).Nodup := by
  obtain ⟨codes, hcompile, hnames, -⟩ := Code.compileAll_bare {}
    ["expectItem", "itemCall", "calls"] (by decide +kernel) (by decide +kernel) (by decide +kernel)
  have hwords : ["expectItem", "itemCall", "calls"].map Naming.field =
      ["expect_item", "item_call", "calls"] := by decide +kernel
  have hmem : ∀ c ∈ codes, c.functionName ∈ ["expect_item", "item_call", "calls"] :=
    fun c hc => hnames.trans hwords ▸ List.mem_map_of_mem hc
  have hfixed : ∀ s ∈ ["expect_item", "item_call", "calls"], s ∉ fixedClientNames := by decide
  have hshadows : ∀ s ∈ ["expect_item", "item_call", "calls"],
      ∀ t ∈ ["expect_item", "item_call", "calls"], ¬Shadows s t := by decide +kernel
  obtain ⟨hclient, hmock⟩ := methods_nodup_iff {} hcompile
  refine ⟨codes, hcompile, hclient.mpr fun c hc => hfixed _ (hmem c hc), ?_⟩
  exact hmock.mpr fun c hc d hd => hshadows _ (hmem c hc) _ (hmem d hd)

/-- **Operations whose methods clash are accepted**: two whose methods share a name in the test
double, and one with the name of a method that every client has. -/
theorem clashing_methods_accepted :
    ∃ codes, Code.compileAll {} (["expectItem", "itemCalls", "new"].map Code.bareOperation)
        = .ok codes ∧
      (mockMethods codes).map (·.name) =
        ["new", "expect_expect_item", "expect_item_calls", "expect_item_calls", "item_calls_calls",
          "expect_new", "new_calls"] ∧
      (clientMethods codes).map (·.name) =
        ["new", "with_settings", "from_pipeline", "pipeline", "expect_item", "item_calls", "new"] ∧
      ¬((mockMethods codes).map (·.name)).Nodup ∧ ¬((clientMethods codes).map (·.name)).Nodup := by
  obtain ⟨codes, hcompile, hnames, -⟩ := Code.compileAll_bare {}
    ["expectItem", "itemCalls", "new"] (by decide +kernel) (by decide +kernel) (by decide +kernel)
  have hwords : ["expectItem", "itemCalls", "new"].map Naming.field =
      ["expect_item", "item_calls", "new"] := by decide +kernel
  refine ⟨codes, hcompile, ?_⟩
  rw [mockMethods_names, clientMethods_names, hnames, hwords]
  decide +kernel

end ApiScaffold.Package.Source
