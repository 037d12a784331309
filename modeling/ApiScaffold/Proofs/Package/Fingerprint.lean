import ApiScaffold.Package.Generate
import ApiScaffold.Proofs.Text.Split
import ApiScaffold.Proofs.Text.Utf8

/-!
# What a fingerprint tells apart

A fingerprint is taken of the paths and the contents of the files, one after another, each with a
zero behind it.  The byte zero is the character NUL and occurs in no other one, so the bytes are
those of a text (`fingerprintBytes_eq`), and cutting that text at every NUL gives back what stands
between the zeros.  Which of the zeros end a path or a content, and which are characters of one, the
bytes do not say.

* `contentsOf`: what a package is, as a sequence of paths with contents.
* `partsOf`: what is left of that sequence if its texts are cut at every NUL.
* `fingerprintBytes_eq_iff`: **two packages have the same bytes exactly if they have the same
parts.**
* `packages_told_apart_iff`: so packages without NUL are told apart.
* `joined_file_same_bytes`: a file that holds another one.
-/

namespace ApiScaffold

open Text (splitWhere splitOn)

variable {xs ys : List Artifact} {texts : List String}

/-- The path and the content of every file. -/
def contentsOf (artifacts : List Artifact) : List (String × String) :=
  artifacts.map fun a => (a.path, a.content)

/-- The texts that a fingerprint is taken of. -/
def textsOf (artifacts : List Artifact) : List String :=
  artifacts.flatMap fun a => [a.path, a.content]

/-- What stands between the zeros of a fingerprint. -/
def partsOf (artifacts : List Artifact) : List String :=
  (textsOf artifacts).flatMap (splitOn '\x00')

/-- Whether no path and no content holds a NUL. -/
def IsPlain (artifacts : List Artifact) : Prop := ∀ text ∈ textsOf artifacts, '\x00' ∉ text.toList

/-! ## Bytes and parts -/

/-- Texts, each with a NUL behind it. -/
def sealedChars (texts : List String) : List Char :=
  (texts.map String.toList).flatMap (· ++ ['\x00'])

theorem utf8_sealedChars (texts : List String) :
    Text.utf8 (String.ofList (sealedChars texts)) = texts.flatMap fun t => Text.utf8 t ++ [0] := by
  have hmark : ['\x00'].flatMap String.utf8EncodeChar = [0] := by decide
  rw [Text.utf8_ofList, sealedChars, List.flatMap_map, List.flatMap_assoc]
  refine List.flatMap_congr fun text _ => ?_
  rw [List.flatMap_append, hmark, Text.utf8_eq]

/-- The bytes of a fingerprint are those of a text. -/
theorem fingerprintBytes_eq (artifacts : List Artifact) :
    fingerprintBytes artifacts = Text.utf8 (String.ofList (sealedChars (textsOf artifacts))) := by
  rw [utf8_sealedChars, textsOf, List.flatMap_assoc, fingerprintBytes]
  refine List.flatMap_congr fun a _ => ?_
  simp

/-- Cutting a sealed text gives back what stood between the zeros. -/
theorem splitWhere_sealedChars (texts : List String) :
    splitWhere (· == '\x00') (sealedChars texts) =
      (texts.flatMap (splitOn '\x00')).map String.toList ++ [[]] := by
  rw [sealedChars, Text.splitWhere_flatMap rfl, List.flatMap_map, List.map_flatMap]
  congr 1
  refine List.flatMap_congr fun text _ => ?_
  rw [splitOn, Text.map_toList_ofList]

/-- **Two packages have the same bytes exactly if they have the same parts.** -/
theorem fingerprintBytes_eq_iff :
    fingerprintBytes xs = fingerprintBytes ys ↔ partsOf xs = partsOf ys := by
  have hchars : Function.Injective String.toList := fun s t h => String.toList_inj.mp h
  calc fingerprintBytes xs = fingerprintBytes ys
      ↔ sealedChars (textsOf xs) = sealedChars (textsOf ys) := by
        rw [fingerprintBytes_eq, fingerprintBytes_eq, Text.utf8_injective.eq_iff,
          String.ofList_inj]
    _ ↔ splitWhere (· == '\x00') (sealedChars (textsOf xs)) =
          splitWhere (· == '\x00') (sealedChars (textsOf ys)) :=
        (Text.splitWhere_injective '\x00').eq_iff.symm
    _ ↔ partsOf xs = partsOf ys := by
        rw [splitWhere_sealedChars, splitWhere_sealedChars, List.append_cancel_right_eq,
          (List.map_injective_iff.mpr hchars).eq_iff, partsOf, partsOf]

/-! ## Packages without NUL -/

theorem partsOf_of_isPlain (h : IsPlain xs) : partsOf xs = textsOf xs := by
  rw [partsOf, List.flatMap_congr fun text htext => Text.splitOn_of_not_mem (h text htext)]
  exact List.flatMap_singleton' _

/-- The texts say which of them are paths and which are contents. -/
theorem textsOf_eq_iff : textsOf xs = textsOf ys ↔ contentsOf xs = contentsOf ys := by
  induction xs generalizing ys with
  | nil => cases ys <;> simp [textsOf, contentsOf]
  | cons a xs ih =>
    cases ys with
    | nil => simp [textsOf, contentsOf]
    | cons b ys =>
      have hrest := @ih ys
      simp only [textsOf, contentsOf] at hrest
      simp [textsOf, contentsOf, hrest, and_assoc]

/-- **Packages without NUL are told apart by their bytes**, and so by their fingerprints unless the
digests of two byte sequences are the same.  Whether any two packages are told apart hangs on their
parts alone: they are, exactly if their texts, cut at every NUL, are different sequences. -/
theorem packages_told_apart_iff (xs ys : List Artifact) :
    (fingerprintBytes xs ≠ fingerprintBytes ys ↔ partsOf xs ≠ partsOf ys) ∧
      (IsPlain xs → IsPlain ys →
        (fingerprintBytes xs ≠ fingerprintBytes ys ↔ contentsOf xs ≠ contentsOf ys)) := by
  refine ⟨fingerprintBytes_eq_iff.not, fun hxs hys => ?_⟩
  rw [Ne, fingerprintBytes_eq_iff, partsOf_of_isPlain hxs, partsOf_of_isPlain hys, textsOf_eq_iff]

/-- A letter that moves from a path to its content is seen. -/
theorem packages_told_apart_moved_letter :
    IsPlain [⟨"ab", "c", none⟩] ∧ IsPlain [⟨"a", "bc", none⟩] ∧
      fingerprintBytes [⟨"ab", "c", none⟩] ≠ fingerprintBytes [⟨"a", "bc", none⟩] := by
  have hplain : IsPlain [⟨"ab", "c", none⟩] := by simp [IsPlain, textsOf]
  have hplain' : IsPlain [⟨"a", "bc", none⟩] := by simp [IsPlain, textsOf]
  exact ⟨hplain, hplain', ((packages_told_apart_iff _ _).2 hplain hplain').mpr (by decide)⟩

/-- **A file that holds another one behind a NUL** has the same bytes as the two files. -/
theorem joined_file_same_bytes :
    fingerprintBytes [⟨"a", "1\x00b\x002", none⟩] =
        fingerprintBytes [⟨"a", "1", none⟩, ⟨"b", "2", none⟩] ∧
      contentsOf [⟨"a", "1\x00b\x002", none⟩] ≠ contentsOf [⟨"a", "1", none⟩, ⟨"b", "2", none⟩] :=
  ⟨fingerprintBytes_eq_iff.mpr (by decide), by decide⟩

end ApiScaffold
