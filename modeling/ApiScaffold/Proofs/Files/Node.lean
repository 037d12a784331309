import ApiScaffold.Proofs.Files.Place
import ApiScaffold.Proofs.Json.Members

/-!
# What is at a place

A tree of files is known by what is at each of its places: nothing, a folder, or a file with its
content and its permission bits.  A single step changes that at one place only, and there must have
been no folder before (`nodeAt?_set`): what lies below a place is nothing both before and after.

A path is followed through folders, so what a step does with a path is said with the folders on its
way and with the place where it leads.

* `Entry.nodeAt?`: what is at a place.
* `nodeAt?_of_isPrefix`: above a place where something is, there are folders.
* `read_eq_ok_iff`, `mode?_eq_some_iff`, `isFolder_iff`: what is read off a tree.
* `nodeAt?_write`, `makeFolder_ok`, `setMode_of_read`: **a single step changes what is at one
  place.**
* `write_eq_ok_iff`: where a file can be written.
-/

namespace ApiScaffold

open ApiScaffold.Path (pieces)

/-- What is at a place. -/
inductive Node
  | folder
  | file (content : List UInt8) (mode : Nat)
  deriving DecidableEq, Repr

/-- The content of a file. -/
def Node.content? : Node → Option (List UInt8)
  | .folder => none
  | .file content _ => some content

namespace Entry

def node : Entry → Node
  | .folder _ => .folder
  | .file content mode => .file content mode

/-- What is at a place, if anything is. -/
def nodeAt? (root : Entry) (place : Place) : Option Node := (root.get? place).map node

variable {root root' new : Entry} {home place dir q d : Place} {name path : String}
  {content : List UInt8} {mode : Nat} {names : List String}

/-! ## Places in a tree -/

theorem get?_cons (members : List (String × Entry)) (name : String) (rest : Place) :
    (Entry.folder members).get? (name :: rest) =
      (Json.memberOf? members name).bind fun inner => inner.get? rest := rfl

theorem get?_nil (root : Entry) : root.get? [] = some root := by
  cases root <;> rfl

theorem nodeAt?_cons (members : List (String × Entry)) (name : String) (rest : Place) :
    (Entry.folder members).nodeAt? (name :: rest) =
      (Json.memberOf? members name).bind fun inner => inner.nodeAt? rest := by
  rw [nodeAt?, get?_cons]
  cases Json.memberOf? members name <;> rfl

theorem get?_append (root : Entry) (p r : Place) :
    root.get? (p ++ r) = (root.get? p).bind fun inner => inner.get? r := by
  induction p generalizing root with
  | nil => rw [get?_nil]; rfl
  | cons name rest ih =>
    cases root with
    | file content mode => rfl
    | folder members =>
      rw [List.cons_append, get?_cons, get?_cons]
      cases Json.memberOf? members name with
      | none => rfl
      | some inner => exact ih inner

theorem nodeAt?_eq_folder : root.nodeAt? place = some .folder ↔
    ∃ members, root.get? place = some (.folder members) := by
  rw [nodeAt?]
  cases root.get? place with
  | none => simp
  | some e => cases e <;> simp [node]

theorem nodeAt?_eq_file : root.nodeAt? place = some (.file content mode) ↔
    root.get? place = some (.file content mode) := by
  rw [nodeAt?]
  cases root.get? place with
  | none => simp
  | some e => cases e <;> simp [node]

/-- Below a place where no folder is, there is nothing. -/
theorem nodeAt?_below (h : root.nodeAt? place ≠ some .folder) (name : String)
    (rest : Place) : root.nodeAt? (place ++ name :: rest) = none := by
  rw [nodeAt?, get?_append]
  rw [nodeAt?] at h
  cases hget : root.get? place with
  | none => rfl
  | some e =>
    cases e with
    | file content mode => rfl
    | folder members =>
      rw [hget] at h
      exact absurd rfl h

/-- **Above a place where something is, there are folders.** -/
theorem nodeAt?_of_isPrefix {p : Place} (hfirst : p <+: q) (hq : root.nodeAt? q = some .folder) :
    root.nodeAt? p = some .folder := by
  obtain ⟨rest, rfl⟩ := hfirst
  cases rest with
  | nil => rwa [List.append_nil] at hq
  | cons name rest =>
    by_contra h
    rw [nodeAt?_below h] at hq
    cases hq

/-- Something that holds nothing is put into a folder, where no folder was. -/
theorem nodeAt?_set (hdir : root.nodeAt? dir = some .folder)
    (hold : root.nodeAt? (dir ++ [name]) ≠ some .folder)
    (hbare : ∀ name rest, new.get? (name :: rest) = none) (q : Place) :
    (set new (dir ++ [name]) root).nodeAt? q =
      if q = dir ++ [name] then some new.node else root.nodeAt? q := by
  induction dir generalizing root q with
  | nil =>
    obtain ⟨members, hroot⟩ := nodeAt?_eq_folder.mp hdir
    rw [get?_nil, Option.some.injEq] at hroot
    subst hroot
    show (Entry.folder (Json.setMember name new members)).nodeAt? q = _
    cases q with
    | nil => rfl
    | cons n rest =>
      rw [nodeAt?_cons, Json.memberOf?_setMember]
      by_cases hn : n = name
      · subst hn
        rw [if_pos rfl, Option.bind_some]
        cases rest with
        | nil => rw [if_pos (List.nil_append _).symm, nodeAt?, get?_nil, Option.map_some]
        | cons next rest =>
          have hbelow := nodeAt?_below hold next rest
          rw [if_neg (by simp), nodeAt?, hbare]
          exact hbelow.symm
      · rw [if_neg hn, if_neg (by simp [hn]), nodeAt?_cons]
  | cons x dir ih =>
    obtain ⟨members, rfl⟩ : ∃ members, root = .folder members := by
      cases root with
      | file content mode => cases hdir
      | folder members => exact ⟨members, rfl⟩
    rw [nodeAt?_cons] at hdir
    obtain ⟨inner, hinner, hinside⟩ := Option.bind_eq_some_iff.mp hdir
    rw [List.cons_append, nodeAt?_cons, hinner, Option.bind_some] at hold
    have hset : set new (x :: (dir ++ [name])) (.folder members) =
        .folder (Json.setMember x (set new (dir ++ [name]) inner) members) := by
      rw [set, hinner, Option.getD_some]
    rw [List.cons_append, hset]
    cases q with
    | nil => rfl
    | cons n rest =>
      rw [nodeAt?_cons, Json.memberOf?_setMember]
      by_cases hn : n = x
      · subst hn
        rw [if_pos rfl, Option.bind_some, ih hinside hold, nodeAt?_cons, hinner, Option.bind_some]
        exact if_congr (by rw [List.cons.injEq, and_iff_right rfl]) rfl rfl
      · rw [if_neg hn, if_neg (by simp [hn]), nodeAt?_cons]

/-! ## Paths in a tree -/

/-- A path can be followed exactly if all places on its way are folders. -/
theorem follow_eq_ok_iff : follow root names place = .ok q ↔
    (∀ d ∈ Place.stops place names, root.nodeAt? d = some .folder) ∧
      names.foldl Place.step place = q := by
  induction names generalizing place with
  | nil => simp [follow, Place.stops]
  | cons piece rest ih =>
    rw [follow, Place.stops, List.forall_mem_cons, List.foldl_cons, nodeAt?_eq_folder]
    cases hget : root.get? place with
    | none => simp
    | some e =>
      cases e with
      | file content mode => simp
      | folder members => simp [ih]

theorem placeOf_eq_ok_iff : placeOf home path root = .ok q ↔
    path ≠ "" ∧ (∀ d ∈ Place.way home path, root.nodeAt? d = some .folder) ∧
      Place.ofPath home path = q := by
  rw [placeOf]
  by_cases hpath : path = ""
  · simp [hpath]
  · rw [if_neg (by simpa using hpath), follow_eq_ok_iff, and_iff_right hpath]
    rfl

/-- A path is followed to its place, or it cannot be followed. -/
theorem placeOf_cases (home : Place) (path : String) (root : Entry) :
    ((path ≠ "" ∧ ∀ d ∈ Place.way home path, root.nodeAt? d = some .folder) ∧
        placeOf home path root = .ok (Place.ofPath home path)) ∨
      ¬ (path ≠ "" ∧ ∀ d ∈ Place.way home path, root.nodeAt? d = some .folder) ∧
        ∃ fault, placeOf home path root = .error fault := by
  cases hplace : placeOf home path root with
  | ok place =>
    obtain ⟨hpath, hway, rfl⟩ := placeOf_eq_ok_iff.mp hplace
    exact .inl ⟨⟨hpath, hway⟩, rfl⟩
  | error fault =>
    refine .inr ⟨fun ⟨hpath, hway⟩ => ?_, fault, rfl⟩
    rw [placeOf_eq_ok_iff.mpr ⟨hpath, hway, rfl⟩] at hplace
    cases hplace

/-- **What is read is the content of the file to which a path leads.** -/
theorem read_eq_ok_iff : root.read home path = .ok content ↔
    path ≠ "" ∧ (∀ d ∈ Place.way home path, root.nodeAt? d = some .folder) ∧
      ∃ mode, root.nodeAt? (Place.ofPath home path) = some (.file content mode) := by
  rw [read, ← and_assoc]
  rcases placeOf_cases home path root with ⟨hway, hplace⟩ | ⟨hway, fault, hplace⟩
  · rw [hplace, and_iff_right hway, nodeAt?]
    simp only [bind, Except.bind]
    cases root.get? (Place.ofPath home path) with
    | none => simp [throw, throwThe, MonadExceptOf.throw]
    | some e => cases e <;>
        simp [node, pure, Except.pure, throw, throwThe, MonadExceptOf.throw]
  · rw [hplace]
    constructor
    · intro h
      cases h
    · intro h
      exact absurd h.1 hway

/-- The permission bits at a path are those of the file to which it leads. -/
theorem mode?_eq_some_iff : root.mode? home path = some mode ↔
    path ≠ "" ∧ (∀ d ∈ Place.way home path, root.nodeAt? d = some .folder) ∧
      ∃ content, root.nodeAt? (Place.ofPath home path) = some (.file content mode) := by
  rw [mode?, ← and_assoc]
  rcases placeOf_cases home path root with ⟨hway, hplace⟩ | ⟨hway, fault, hplace⟩
  · rw [hplace, and_iff_right hway, nodeAt?]
    dsimp only
    cases root.get? (Place.ofPath home path) with
    | none => simp
    | some e => cases e <;> simp [node]
  · rw [hplace]
    constructor
    · intro h
      cases h
    · intro h
      exact absurd h.1 hway

theorem isFolder_iff : root.isFolder home path = true ↔
    path ≠ "" ∧ (∀ d ∈ Place.way home path, root.nodeAt? d = some .folder) ∧
      root.nodeAt? (Place.ofPath home path) = some .folder := by
  rw [isFolder, ← and_assoc]
  rcases placeOf_cases home path root with ⟨hway, hplace⟩ | ⟨hway, fault, hplace⟩
  · rw [hplace, and_iff_right hway, nodeAt?]
    dsimp only
    cases root.get? (Place.ofPath home path) with
    | none => simp
    | some e => cases e <;> simp [node]
  · rw [hplace]
    constructor
    · intro h
      cases h
    · intro h
      exact absurd h.1 hway

/-! ## Single steps -/

/-- What pieces lead to is in a folder, unless it is one. -/
theorem exists_dir (hne : names ≠ [])
    (hway : ∀ d ∈ Place.stops place names, root.nodeAt? d = some .folder)
    (hend : root.nodeAt? (names.foldl Place.step place) ≠ some .folder) :
    ∃ dir name, names.foldl Place.step place = dir ++ [name] ∧
      root.nodeAt? dir = some .folder := by
  obtain ⟨front, last, rfl⟩ : ∃ front last, names = front ++ [last] :=
    ⟨_, _, (List.dropLast_append_getLast hne).symm⟩
  have hdir : root.nodeAt? (front.foldl Place.step place) = some .folder := by
    refine hway _ ?_
    rw [Place.stops_append]
    exact List.mem_append_right _ (Place.mem_stops_cons _ (List.cons_ne_nil _ _))
  rw [List.foldl_append, List.foldl_cons, List.foldl_nil, Place.step] at hend ⊢
  split at hend
  · exact absurd hdir hend
  · split at hend
    · exact absurd (nodeAt?_of_isPrefix (List.dropLast_prefix _) hdir) hend
    · next hvoid hup =>
      rw [if_neg hvoid, if_neg hup]
      exact ⟨_, _, rfl, hdir⟩

/-- **What is put where pieces lead changes that place only.** -/
theorem nodeAt?_put (hne : names ≠ [])
    (hway : ∀ d ∈ Place.stops place names, root.nodeAt? d = some .folder)
    (hend : root.nodeAt? (names.foldl Place.step place) ≠ some .folder)
    (hbare : ∀ name rest, new.get? (name :: rest) = none) (q : Place) :
    (set new (names.foldl Place.step place) root).nodeAt? q =
      if q = names.foldl Place.step place then some new.node else root.nodeAt? q := by
  obtain ⟨dir, name, hplace, hdir⟩ := exists_dir hne hway hend
  rw [hplace] at hend ⊢
  exact nodeAt?_set hdir hend hbare q

/-- The permission bits of a file that is written where something was, or where nothing was. -/
def modeAfter : Option Node → Nat
  | some (.file _ mode) => mode
  | _ => newFileMode

theorem creationPlace_eq_ok_iff : creationPlace home path root = .ok place ↔
    path ≠ "" ∧
      (∀ d ∈ Place.stops (Place.start home path)
        (Text.dropEndWhile String.isEmpty (pieces path)), root.nodeAt? d = some .folder) ∧
      Place.ofPath home path = place := by
  rw [creationPlace]
  by_cases hpath : path = ""
  · simp [hpath]
  · rw [if_neg (by simpa using hpath), follow_eq_ok_iff, (Place.withoutSlashes home path).1,
      and_iff_right hpath]

/-- Whether a file can be written: no slash ends its path, and folders lead to its place, where
there is none. -/
structure Writable (home : Place) (path : String) (root : Entry) : Prop where
  ended : (pieces path).getLast? ≠ some ""
  way : ∀ d ∈ Place.way home path, root.nodeAt? d = some .folder
  place : root.nodeAt? (Place.ofPath home path) ≠ some .folder

theorem Writable.named (h : root.Writable home path) : path ≠ "" := by
  rintro rfl
  exact h.ended rfl

/-- Where a file can be read, one can be written. -/
theorem writable_of_read (h : root.read home path = .ok content) : root.Writable home path := by
  obtain ⟨-, hway, mode, hfile⟩ := read_eq_ok_iff.mp h
  have hplace : root.nodeAt? (Place.ofPath home path) ≠ some .folder := by
    rw [hfile]
    simp
  exact ⟨fun hended => hplace (hway _ (Place.ofPath_mem_way hended)), hway, hplace⟩

theorem write_eq_ok_iff : root.write home path content = .ok root' ↔
    root.Writable home path ∧
      set (.file content (modeAfter (root.nodeAt? (Place.ofPath home path))))
        (Place.ofPath home path) root = root' := by
  rw [write]
  cases hplace : creationPlace home path root with
  | error fault =>
    constructor
    · intro h
      cases h
    · rintro ⟨hwritable, -⟩
      have hway := hwritable.way
      rw [Place.way, ← Path.dropEndWhile_pieces hwritable.ended] at hway
      rw [creationPlace_eq_ok_iff.mpr ⟨hwritable.named, hway, rfl⟩] at hplace
      cases hplace
  | ok place =>
    obtain ⟨-, hway, rfl⟩ := creationPlace_eq_ok_iff.mp hplace
    simp only [bind, Except.bind]
    by_cases hended : (pieces path).getLast? = some ""
    · rw [if_pos hended]
      constructor
      · intro h
        cases h
      · rintro ⟨hwritable, -⟩
        exact absurd hended hwritable.ended
    · rw [if_neg hended]
      rw [Path.dropEndWhile_pieces hended] at hway
      have hwritable : root.Writable home path ↔
          root.nodeAt? (Place.ofPath home path) ≠ some .folder :=
        ⟨fun h => h.place, fun h => ⟨hended, hway, h⟩⟩
      rw [hwritable, nodeAt?]
      cases root.get? (Place.ofPath home path) with
      | none => simp [pure, Except.pure, modeAfter]
      | some e =>
        cases e with
        | file old mode => simp [pure, Except.pure, modeAfter, node]
        | folder members => simp [throw, throwThe, MonadExceptOf.throw, node]

/-- **A file is written at its place only.** -/
theorem nodeAt?_write (h : root.write home path content = .ok root') (q : Place) :
    root'.nodeAt? q = if q = Place.ofPath home path
      then some (.file content (modeAfter (root.nodeAt? (Place.ofPath home path))))
      else root.nodeAt? q := by
  obtain ⟨hwritable, rfl⟩ := write_eq_ok_iff.mp h
  exact nodeAt?_put (Path.pieces_ne_nil path) hwritable.way hwritable.place (fun _ _ => rfl) q

theorem read_of_write (h : root.write home path content = .ok root') :
    root'.read home path = .ok content := by
  obtain ⟨hwritable, -⟩ := write_eq_ok_iff.mp h
  refine read_eq_ok_iff.mpr ⟨hwritable.named, fun d hd => ?_,
    modeAfter (root.nodeAt? (Place.ofPath home path)), by rw [nodeAt?_write h, if_pos rfl]⟩
  rw [nodeAt?_write h, if_neg, hwritable.way d hd]
  rintro rfl
  exact hwritable.place (hwritable.way _ hd)

/-- **A folder is made at its place only**, where nothing was. -/
theorem makeFolder_ok (h : root.makeFolder home path = .ok root') :
    path ≠ "" ∧
      (∀ d ∈ Place.way home path, d = Place.ofPath home path ∨ root.nodeAt? d = some .folder) ∧
      root.nodeAt? (Place.ofPath home path) = none ∧
      ∀ q, root'.nodeAt? q =
        if q = Place.ofPath home path then some .folder else root.nodeAt? q := by
  rw [makeFolder] at h
  cases hplace : creationPlace home path root with
  | error fault => rw [hplace] at h; cases h
  | ok place =>
    obtain ⟨hpath, hway, rfl⟩ := creationPlace_eq_ok_iff.mp hplace
    simp only [hplace, bind, Except.bind] at h
    split at h
    · cases h
    · next habsent =>
      cases h
      obtain ⟨hend, honWay⟩ := Place.withoutSlashes home path
      have hnone : root.nodeAt? (Place.ofPath home path) = none := by
        rw [nodeAt?, Option.not_isSome_iff_eq_none.mp habsent, Option.map_none]
      have hne : Text.dropEndWhile String.isEmpty (pieces path) ≠ [] := by
        intro hslashes
        -- there is always something at the root
        rw [Place.ofPath_of_slashes hpath hslashes, nodeAt?, get?_nil] at hnone
        cases hnone
      refine ⟨hpath, fun d hd => (honWay d hd).imp_right (hway d), hnone, ?_⟩
      rw [← hend] at hnone ⊢
      refine nodeAt?_put hne hway ?_ fun _ _ => rfl
      rw [hnone]
      simp

theorem makeFolder_of_isFolder (h : root.isFolder home path = true) :
    root.makeFolder home path = .error .alreadyThere := by
  obtain ⟨hpath, hway, hplace⟩ := isFolder_iff.mp h
  have hcreation : creationPlace home path root = .ok (Place.ofPath home path) :=
    creationPlace_eq_ok_iff.mpr
      ⟨hpath, fun d hd => hway d (Place.stops_of_isPrefix (Path.dropEndWhile_isPrefix _ _) hd), rfl⟩
  obtain ⟨members, hget⟩ := nodeAt?_eq_folder.mp hplace
  rw [makeFolder, hcreation]
  simp [bind, Except.bind, hget, throw, throwThe, MonadExceptOf.throw]

theorem setMode_of_read (mode : Nat) (h : root.read home path = .ok content) : ∃ root',
    root.setMode home path mode = .ok root' ∧ ∀ q, root'.nodeAt? q =
      if q = Place.ofPath home path then some (.file content (mode % 0o1000))
      else root.nodeAt? q := by
  obtain ⟨hpath, hway, old, hfile⟩ := read_eq_ok_iff.mp h
  have hplace : placeOf home path root = .ok (Place.ofPath home path) :=
    placeOf_eq_ok_iff.mpr ⟨hpath, hway, rfl⟩
  refine ⟨set (.file content (mode % 0o1000)) (Place.ofPath home path) root, ?_, ?_⟩
  · rw [setMode, hplace]
    simp [bind, Except.bind, nodeAt?_eq_file.mp hfile, pure, Except.pure]
  · refine nodeAt?_put (Path.pieces_ne_nil path) hway ?_ fun _ _ => rfl
    rw [Place.ofPath] at hfile
    rw [hfile]
    simp

end Entry

end ApiScaffold
