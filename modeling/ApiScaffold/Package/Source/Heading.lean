import ApiScaffold.Package.Lines
import ApiScaffold.Package.Plan

/-!
# Headings of generated files

A generated file begins with a comment that says what it holds and that it is not to be edited.
-/

namespace ApiScaffold.Package.Source

/-- The comment that names the generator. -/
def generatedMark : String := s!"//! Generated by swaggen {generatorVersion}. Do not edit."

/-- The comment at the beginning of a file. -/
def heading (subject : String) : Lines := ["//! " ++ subject, "//!", generatedMark]

/-- The line that permits imports that are not used. -/
def allowUnusedImports : String := "#![allow(unused_imports)]"

end ApiScaffold.Package.Source
