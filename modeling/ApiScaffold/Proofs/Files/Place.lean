import ApiScaffold.Files.Tree
import ApiScaffold.Proofs.Text.Split

/-!
# Where paths lead

A path is followed piece by piece, and every piece is looked up in a folder.  The places of these
folders are the way to the path.  Two operations on paths are read off their pieces: a path within a
folder has the pieces of the folder in front of its own, and the path that leads to a path has the
first of its pieces.  So either way is part of the other one, and what is on the way to a folder is
on the way to all that is in it.

* `Place.way`: the folders on the way to a path.
* `way_parent`, `way_ancestors`: **the paths that lead to a path are on its way.**
* `ofPath_join`, `way_join`: **a path within a folder leads to a place below that of the folder**, and
  its way leads through the folder.
-/

namespace ApiScaffold

open ApiScaffold.Path (pieces isVoid isAbsolute)

/-! ## The pieces of a path -/

namespace Path

variable {path : String} {names : List String}

theorem pieces_slash (s t : String) : pieces (s ++ "/" ++ t) = pieces s ++ pieces t :=
  Text.splitOn_join '/' s t

theorem pieces_ne_nil (path : String) : pieces path ≠ [] :=
  mt List.map_eq_nil_iff.mp (Text.splitWhere_ne_nil _ _)

theorem pieces_intercalate (hne : names ≠ []) (h : ∀ name ∈ names, '/' ∉ name.toList) :
    pieces ("/".intercalate names) = names :=
  Text.splitOn_intercalate rfl hne h

/-- A path is empty, or absolute with an empty piece in front, or it begins with a name. -/
theorem pieces_cases (path : String) :
    (path = "" ∧ isAbsolute path = false ∧ pieces path = [""]) ∨
      (isAbsolute path = true ∧ ∃ rest, rest ≠ [] ∧ pieces path = "" :: rest) ∨
      isAbsolute path = false ∧ ∃ first rest, first ≠ "" ∧ pieces path = first :: rest := by
  rw [isAbsolute, pieces, Text.splitOn]
  cases hchars : path.toList with
  | nil => exact .inl ⟨String.toList_eq_nil_iff.mp hchars, rfl, rfl⟩
  | cons c cs =>
    obtain ⟨piece, rest, hsplit⟩ :=
      List.exists_cons_of_ne_nil (Text.splitWhere_ne_nil (· == '/') cs)
    by_cases hc : c = '/'
    · refine .inr (.inl ⟨by simp [hc], (Text.splitWhere (· == '/') cs).map String.ofList, ?_, ?_⟩)
      · rw [hsplit]
        exact List.cons_ne_nil _ _
      · rw [Text.splitWhere, if_pos (by simpa using hc)]
        rfl
    · refine .inr (.inr ⟨by simp [hc], String.ofList (c :: piece), rest.map String.ofList, ?_, ?_⟩)
      · simp
      · rw [Text.splitWhere, if_neg (by simpa using hc), hsplit]
        rfl

/-- Whether a path is absolute is seen from its pieces. -/
theorem isAbsolute_iff : isAbsolute path = true ↔ ∃ rest, rest ≠ [] ∧ pieces path = "" :: rest := by
  rcases pieces_cases path with ⟨-, habsolute, hpieces⟩ | ⟨habsolute, hrest⟩ |
    ⟨habsolute, first, rest, hfirst, hpieces⟩
  · rw [habsolute, hpieces]
    constructor
    · intro h
      cases h
    · rintro ⟨rest, hne, heq⟩
      cases heq
      exact absurd rfl hne
  · exact ⟨fun _ => hrest, fun _ => habsolute⟩
  · rw [habsolute, hpieces]
    constructor
    · intro h
      cases h
    · rintro ⟨rest', -, heq⟩
      cases heq
      exact absurd rfl hfirst

theorem isAbsolute_slash (s t : String) :
    isAbsolute (s ++ "/" ++ t) = (s.isEmpty || isAbsolute s) := by
  by_cases hs : s = ""
  · subst hs
    rw [isAbsolute, String.toList_append, String.toList_append]
    rfl
  · obtain ⟨c, cs, hchars⟩ := List.exists_cons_of_ne_nil (mt String.toList_eq_nil_iff.mp hs)
    have hempty : s.isEmpty = false := by simpa using hs
    rw [isAbsolute, isAbsolute, String.toList_append, String.toList_append, hchars, hempty]
    rfl

theorem dropEndWhile_isPrefix (p : String → Bool) (names : List String) :
    Text.dropEndWhile p names <+: names := List.rdropWhile_prefix p names

/-- Where no slash ends a path, its last slashes are no pieces less. -/
theorem dropEndWhile_pieces (h : (pieces path).getLast? ≠ some "") :
    Text.dropEndWhile String.isEmpty (pieces path) = pieces path := by
  refine List.rdropWhile_eq_self_iff.mpr fun hne hlast => h ?_
  rw [List.getLast?_eq_some_getLast hne, String.isEmpty_iff.mp hlast]

theorem withoutVoidEnd_isPrefix (absolute : Bool) (names : List String) :
    withoutVoidEnd absolute names <+: names := by
  rw [withoutVoidEnd.eq_def]
  split
  · split
    · exact dropEndWhile_isPrefix _ _
    · exact List.cons_prefix_cons.mpr ⟨rfl, dropEndWhile_isPrefix _ _⟩
  · exact dropEndWhile_isPrefix _ _

theorem dropLast_prefix_dropLast {xs ys : List String} (h : xs <+: ys) :
    xs.dropLast <+: ys.dropLast := by
  obtain ⟨rest, rfl⟩ := h
  by_cases hrest : rest = []
  · simp [hrest]
  · rw [List.dropLast_append_of_ne_nil hrest]
    exact (List.dropLast_prefix xs).trans (List.prefix_append xs _)

/-- Pieces in front of those of a path are the pieces of a path that starts where it does. -/
theorem isAbsolute_intercalate (hpieces : names <+: pieces path) (hne : names ≠ [])
    (hroot : ¬ (isAbsolute path = true ∧ names = [""])) :
    isAbsolute ("/".intercalate names) = isAbsolute path ∧
      pieces ("/".intercalate names) = names := by
  have hback : pieces ("/".intercalate names) = names :=
    pieces_intercalate hne fun name hname => Text.not_mem_of_mem_splitOn (hpieces.subset hname)
  obtain ⟨name, more, rfl⟩ := List.exists_cons_of_ne_nil hne
  refine ⟨Bool.eq_iff_iff.mpr ?_, hback⟩
  rw [isAbsolute_iff, hback]
  obtain ⟨rest, hrest⟩ := hpieces
  constructor
  · rintro ⟨more', hmore, heq⟩
    cases heq
    exact isAbsolute_iff.mpr ⟨more ++ rest, by simp [hmore], hrest.symm⟩
  · intro habsolute
    obtain ⟨rest', -, hpieces⟩ := isAbsolute_iff.mp habsolute
    rw [hpieces] at hrest
    cases hrest
    exact ⟨more, fun hmore => hroot ⟨habsolute, by rw [hmore]⟩, rfl⟩

/-- **The path that leads to a path has the first of its pieces**: it is the root or the folder
that paths start from, or it starts where the path does. -/
theorem parent?_cases {parent : String} (h : parent? path = some parent) :
    (isAbsolute path = true ∧ parent = "/") ∨ (isAbsolute path = false ∧ parent = "") ∨
      isAbsolute parent = isAbsolute path ∧ pieces parent <+: (pieces path).dropLast := by
  rw [parent?] at h
  simp only at h
  have hnames := withoutVoidEnd_isPrefix (isAbsolute path) (pieces path)
  generalize withoutVoidEnd (isAbsolute path) (pieces path) = names at h hnames
  cases names with
  | nil => cases h
  | cons name more =>
    simp only at h
    have hrest := withoutVoidEnd_isPrefix (isAbsolute path) (name :: more).dropLast
    generalize withoutVoidEnd (isAbsolute path) (name :: more).dropLast = rest at h hrest
    have hpieces : rest <+: (pieces path).dropLast :=
      hrest.trans (dropLast_prefix_dropLast hnames)
    split at h
    · next hroot =>
      cases h
      exact .inl ⟨(Bool.and_eq_true_iff.mp hroot).1, rfl⟩
    · next hnot =>
      cases h
      by_cases hnil : rest = []
      · subst hnil
        have habsolute : isAbsolute path = false := by simpa using hnot
        exact .inr (.inl ⟨habsolute, String.intercalate_nil⟩)
      · obtain ⟨habsolute, hback⟩ :=
          isAbsolute_intercalate (hpieces.trans (List.dropLast_prefix _)) hnil
            fun hroot => hnot (by rw [hroot.1, hroot.2]; rfl)
        exact .inr (.inr ⟨habsolute, by rwa [hback]⟩)

end Path

namespace Place

variable {home : Place} {path parent : String} {names : List String} {place d : Place}

/-! ## The way to a path -/

/-- The places at which pieces are looked up, one after the other. -/
def stops : Place → List String → List Place
  | _, [] => []
  | place, piece :: rest => place :: stops (place.step piece) rest

/-- The folders on the way to a path. -/
def way (home : Place) (path : String) : List Place := stops (start home path) (pieces path)

theorem stops_append (place : Place) (xs ys : List String) :
    stops place (xs ++ ys) = stops place xs ++ stops (xs.foldl step place) ys := by
  induction xs generalizing place with
  | nil => rfl
  | cons x xs ih => exact congrArg (place :: ·) (ih (place.step x))

theorem mem_stops_cons (place : Place) {names : List String} (hne : names ≠ []) :
    place ∈ stops place names := by
  obtain ⟨name, rest, rfl⟩ := List.exists_cons_of_ne_nil hne
  exact List.mem_cons_self

theorem stops_of_isPrefix {xs ys : List String} (h : xs <+: ys) (hd : d ∈ stops place xs) :
    d ∈ stops place ys := by
  obtain ⟨rest, rfl⟩ := h
  rw [stops_append]
  exact List.mem_append_left _ hd

/-- What is looked up for the first pieces is looked up for all of them, and so is what they lead
to. -/
theorem mem_stops_of_isPrefix {xs ys : List String} (h : xs <+: ys) (hne : xs ≠ ys)
    (hd : d ∈ stops place xs ∨ d = xs.foldl step place) : d ∈ stops place ys := by
  rcases hd with hd | rfl
  · exact stops_of_isPrefix h hd
  · obtain ⟨rest, rfl⟩ := h
    rw [stops_append]
    exact List.mem_append_right _
      (mem_stops_cons _ fun hrest => hne (by rw [hrest, List.append_nil]))

/-- Pieces that add nothing lead nowhere. -/
theorem stops_void (place : Place) (h : ∀ name ∈ names, isVoid name = true) :
    names.foldl step place = place ∧ ∀ d ∈ stops place names, d = place := by
  induction names with
  | nil => exact ⟨rfl, fun d hd => by cases hd⟩
  | cons name rest ih =>
    obtain ⟨hname, hrest⟩ := List.forall_mem_cons.mp h
    have hstep : place.step name = place := if_pos hname
    rw [stops, List.foldl_cons, hstep]
    refine ⟨(ih hrest).1, fun d hd => ?_⟩
    rcases List.mem_cons.mp hd with rfl | hd
    · rfl
    · exact (ih hrest).2 d hd

/-- Slashes at the end of a path lead nowhere. -/
theorem withoutSlashes (home : Place) (path : String) :
    (Text.dropEndWhile String.isEmpty (pieces path)).foldl step (start home path) =
        ofPath home path ∧
      ∀ d ∈ way home path, d = ofPath home path ∨
        d ∈ stops (start home path) (Text.dropEndWhile String.isEmpty (pieces path)) := by
  have hsplit : Text.dropEndWhile String.isEmpty (pieces path) ++
      (pieces path).rtakeWhile String.isEmpty = pieces path := List.rdropWhile_append_rtakeWhile
  have hvoid : ∀ name ∈ (pieces path).rtakeWhile String.isEmpty, isVoid name = true :=
    fun name hname => by rw [isVoid, List.mem_rtakeWhile_imp hname, Bool.true_or]
  rw [way, ofPath]
  generalize Text.dropEndWhile String.isEmpty (pieces path) = names at hsplit
  rw [← hsplit, List.foldl_append, stops_append]
  obtain ⟨hplace, hstops⟩ := stops_void (names.foldl step (start home path)) hvoid
  rw [hplace]
  refine ⟨rfl, fun d hd => ?_⟩
  rcases List.mem_append.mp hd with hd | hd
  · exact .inr hd
  · exact .inl (hstops d hd)

/-- A slash at the end of a path asks for a folder at its place. -/
theorem ofPath_mem_way (h : (pieces path).getLast? = some "") :
    ofPath home path ∈ way home path := by
  obtain ⟨names, hnames⟩ := List.getLast?_eq_some_iff.mp h
  rw [ofPath, way, hnames, stops_append, List.foldl_append]
  exact List.mem_append_right _ List.mem_cons_self

/-- A path of nothing but slashes leads to the root. -/
theorem ofPath_of_slashes (hpath : path ≠ "")
    (h : Text.dropEndWhile String.isEmpty (pieces path) = []) : ofPath home path = [] := by
  have hstart : start home path = ofPath home path := by
    rw [← (withoutSlashes home path).1, h, List.foldl_nil]
  rw [← hstart, start]
  rcases Path.pieces_cases path with ⟨hempty, -⟩ | ⟨habsolute, -⟩ | ⟨-, first, rest, hfirst, hpieces⟩
  · exact absurd hempty hpath
  · rw [habsolute, if_pos rfl]
  · have hvoid := List.rdropWhile_eq_nil_iff.mp h first (by rw [hpieces]; exact List.mem_cons_self)
    exact absurd (String.isEmpty_iff.mp hvoid) hfirst

/-- Whether a piece is a name, and so leads one place further down. -/
def IsName (piece : String) : Prop := isVoid piece = false ∧ piece ≠ ".."

instance : DecidablePred IsName := fun _ => inferInstanceAs (Decidable (_ ∧ _))

theorem foldl_step_of_names (h : ∀ name ∈ names, IsName name) :
    names.foldl step place = place ++ names := by
  induction names generalizing place with
  | nil => exact (List.append_nil _).symm
  | cons name rest ih =>
    obtain ⟨⟨hvoid, hup⟩, hrest⟩ := List.forall_mem_cons.mp h
    have hstep : place.step name = place ++ [name] := by
      rw [step, hvoid, if_neg Bool.false_ne_true, if_neg hup]
    rw [List.foldl_cons, hstep, ih hrest, List.append_assoc]
    rfl

/-! ## Paths that lead to a path -/

/-- Whether a place is on the way to a path, or where the path leads. -/
def IsAlong (home : Place) (path : String) (d : Place) : Prop :=
  d ∈ way home path ∨ d = ofPath home path

theorem start_mem_way (home : Place) (path : String) : start home path ∈ way home path :=
  mem_stops_cons _ (Path.pieces_ne_nil path)

/-- A path without a name leads to where it starts. -/
theorem IsAlong.eq_start (h : IsAlong home path d)
    (hvoid : ∀ name ∈ pieces path, isVoid name = true) : d = start home path := by
  obtain ⟨hplace, hstops⟩ := stops_void (start home path) hvoid
  rcases h with hway | hend
  · exact hstops d hway
  · exact hend.trans hplace

/-- **The path that leads to a path is on its way**, with all that is on the way to it. -/
theorem way_parent (h : Path.parent? path = some parent) (hd : IsAlong home parent d) :
    d ∈ way home path := by
  rcases Path.parent?_cases h with ⟨habsolute, rfl⟩ | ⟨habsolute, rfl⟩ | ⟨habsolute, hpieces⟩
  · have hstart : start home path = start home "/" := by
      rw [start, habsolute]
      rfl
    rw [hd.eq_start (by decide), ← hstart]
    exact start_mem_way home path
  · have hstart : start home path = start home "" := by
      rw [start, habsolute]
      rfl
    rw [hd.eq_start (by decide), ← hstart]
    exact start_mem_way home path
  · have hstart : start home parent = start home path := by rw [start, habsolute, start]
    obtain ⟨names, last, hsplit⟩ : ∃ names last, pieces path = names ++ [last] :=
      ⟨_, _, (List.dropLast_append_getLast (Path.pieces_ne_nil path)).symm⟩
    rw [hsplit, List.dropLast_concat] at hpieces
    have hproper : pieces parent ≠ names ++ [last] := by
      intro heq
      have hlength := hpieces.length_le
      rw [heq, List.length_append] at hlength
      exact absurd hlength (Nat.not_succ_le_self _)
    rw [way, hsplit]
    refine mem_stops_of_isPrefix (hpieces.trans (List.prefix_append _ _)) hproper ?_
    rw [← hstart]
    exact hd

theorem way_ancestors {ancestor : String} : ∀ (fuel : Nat) (path : String),
    ancestor ∈ Path.ancestorsFrom fuel path → IsAlong home path (ofPath home ancestor) := by
  intro fuel
  induction fuel with
  | zero =>
    intro path h
    cases h
  | succ fuel ih =>
    intro path h
    rcases List.mem_cons.mp h with rfl | hrest
    · exact .inr rfl
    · cases hparent : Path.parent? path with
      | none => rw [hparent] at hrest; cases hrest
      | some parent =>
        rw [hparent] at hrest
        exact .inl (way_parent hparent (ih parent hrest))

/-! ## Paths within a folder -/

/-- A path within a folder starts where the folder does, and has the pieces of the folder in front
of its own; an empty piece at the end of the folder is left out. -/
theorem join_cases (home : Place) (folder : String) (habsolute : isAbsolute path = false) :
    start home (Path.join folder path) = start home folder ∧
      ∃ names, pieces (Path.join folder path) = names ++ pieces path ∧
        (pieces folder = names ∨ pieces folder = names ++ [""]) := by
  rw [Path.join, habsolute, Bool.false_or]
  by_cases hempty : folder = ""
  · subst hempty
    refine ⟨?_, [], rfl, .inr rfl⟩
    show start home path = start home ""
    rw [start, habsolute]
    rfl
  · rw [if_neg (by simpa using hempty)]
    split
    · next hlast =>
      -- the last slash of the folder stands between the two
      obtain ⟨cs, hchars⟩ : ∃ cs, folder.toList = cs ++ ['/'] :=
        List.getLast?_eq_some_iff.mp (by simpa using hlast)
      have hfolder : folder = String.ofList cs ++ "/" ++ "" := by
        rw [← String.toList_inj, hchars, String.toList_append, String.toList_append,
          String.toList_ofList]
        exact (List.append_nil _).symm
      have hjoin : folder ++ path = String.ofList cs ++ "/" ++ path := by
        rw [hfolder, String.append_empty]
      refine ⟨?_, pieces (String.ofList cs), ?_, .inr ?_⟩
      · rw [start, start, hjoin, Path.isAbsolute_slash, hfolder, Path.isAbsolute_slash]
      · rw [hjoin, Path.pieces_slash]
      · rw [hfolder, Path.pieces_slash]
        rfl
    · refine ⟨?_, pieces folder, Path.pieces_slash folder path, .inl rfl⟩
      rw [start, start, Path.isAbsolute_slash, show folder.isEmpty = false by simpa using hempty]
      rfl

/-- A path whose pieces are names is not absolute. -/
theorem isAbsolute_of_names (h : ∀ name ∈ pieces path, IsName name) : isAbsolute path = false := by
  rw [Bool.eq_false_iff]
  intro habsolute
  obtain ⟨rest, -, hpieces⟩ := Path.isAbsolute_iff.mp habsolute
  rw [hpieces] at h
  exact Bool.noConfusion (h "" List.mem_cons_self).1

/-- **A path within a folder leads to a place below that of the folder**, by its names. -/
theorem ofPath_join (folder : String) (h : ∀ name ∈ pieces path, IsName name) :
    ofPath home (Path.join folder path) = ofPath home folder ++ pieces path := by
  obtain ⟨hstart, names, hjoin, hfolder⟩ :=
    join_cases home folder (isAbsolute_of_names h)
  rw [ofPath, ofPath, hstart, hjoin, List.foldl_append, foldl_step_of_names h]
  rcases hfolder with hfolder | hfolder
  · rw [hfolder]
  · rw [hfolder, List.foldl_append]
    rfl

/-- **The way to a path within a folder leads through the folder.** -/
theorem way_join {folder : String} (h : ∀ name ∈ pieces path, IsName name)
    (hd : IsAlong home folder d) : d ∈ way home (Path.join folder path) := by
  obtain ⟨hstart, names, hjoin, hfolder⟩ :=
    join_cases home folder (isAbsolute_of_names h)
  rw [way, hstart, hjoin]
  have hthrough : names ≠ names ++ pieces path := by
    intro heq
    exact Path.pieces_ne_nil path (List.self_eq_append_right.mp heq)
  refine mem_stops_of_isPrefix (List.prefix_append _ _) hthrough ?_
  rw [IsAlong, way, ofPath] at hd
  rcases hfolder with hfolder | hfolder
  · rwa [hfolder] at hd
  · rw [hfolder, stops_append, List.foldl_append, List.mem_append] at hd
    rcases hd with (hd | hd) | hd
    · exact .inl hd
    · exact .inr (List.mem_singleton.mp hd)
    · exact .inr hd

end Place

end ApiScaffold
